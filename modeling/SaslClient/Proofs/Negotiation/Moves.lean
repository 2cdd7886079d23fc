import SaslClient.Proofs.Mechanism.Answers
import SaslClient.Proofs.Negotiation.Stage
/-!
# Events as moves

What `handle` makes of an attempt at a stage is a move, and from each stage each input has one.
-/
namespace SaslClient

namespace Turn

open Negotiation (endState endOutcome conclusion)

theorem finish_eq {t : Turn} (h : t.attempt.reported = false) (verdict : Option Failure) :
    t.finish verdict =
      { attempt := { t.attempt with
          mechanism := none, state := endState verdict, reported := true, failure := verdict }
        entropy := t.entropy
        effects := t.effects ++ conclusion t.attempt.state verdict } := by
  cases verdict <;> simp [finish, enter, report, log, emit, h, conclusion, endState, endOutcome]

end Turn

namespace Negotiation

variable {c : Credentials} {config : Config} {s : Stage} {m : Mechanism} {e : Entropy}
  {link : Link} {payload : String} {effects : List Effect}

private theorem not_isFinished (h : s.isEnded = false) :
    (s.attempt c config).isFinished = false := by
  rw [isFinished, Stage.attempt_state, Stage.isTerminal_state, h]

private theorem finish_attempt (h : s.isEnded = false) (verdict : Option Failure) :
    Turn.finish ⟨s.attempt c config, e, effects⟩ verdict =
      ⟨(Stage.ended s.kind verdict).attempt c config, e, effects ++ conclusion s.state verdict⟩ :=
  Turn.finish_eq h verdict

private theorem finish_unlogged (h : s.isEnded = false) (verdict : Option Failure) :
    Turn.finish ⟨s.attempt c config, e, []⟩ verdict =
      ⟨(Stage.ended s.kind verdict).attempt c config, e, conclusion s.state verdict⟩ :=
  finish_attempt h verdict

private theorem finish_logged {entry : LogEntry} (h : s.isEnded = false)
    (verdict : Option Failure) :
    Turn.finish (Turn.log ⟨s.attempt c config, e, []⟩ entry) verdict =
      ⟨(Stage.ended s.kind verdict).attempt c config, e,
        .logged entry :: conclusion s.state verdict⟩ :=
  finish_attempt h verdict

private theorem choose_of_none {offered : List String} {entries : List LogEntry}
    (h : Selection.select offered config.mechanisms = (none, entries)) :
    choose link offered ⟨s.attempt c config, e, []⟩ =
      (⟨s.attempt c config, e, entries.map .logged ++ [.logged .noMechanismFound]⟩,
        some .noSupportedMechanism) := by
  simp [choose, h, Turn.logAll, Turn.log, Turn.emit]

private theorem choose_of_some {offered : List String} {entries : List LogEntry}
    {kind : MechanismKind}
    (h : Selection.select offered config.mechanisms = (some kind, entries)) :
    choose link offered ⟨s.attempt c config, e, []⟩ =
      launch link kind ⟨s.attempt c config, e, entries.map .logged⟩ := by
  simp [choose, h, Turn.logAll]

private theorem launch_of_error {kind : MechanismKind} {error : MechanismError}
    (h : Mechanism.ofCredentials kind c = .error error) :
    launch link kind ⟨s.attempt c config, e, effects⟩ =
      (⟨{ s.attempt c config with kind := some kind }, e,
        effects ++ [.logged (.mechanismChosen kind)]⟩, some (.mechanism error)) := by
  simp [launch, h, Turn.log, Turn.emit]

private theorem launch_of_ok {kind : MechanismKind} {auth : Element}
    (hm : Mechanism.ofCredentials kind c = .ok m)
    (hauth : authStanza config kind m.initial.payload = .ok auth) :
    launch link kind ⟨s.attempt c config, e, effects⟩ =
      Turn.send ⟨{ s.attempt c config with
          kind := some kind, mechanism := some m, state := m.pendingState }, e,
        effects ++ [.logged (.mechanismChosen kind),
          .logged (.transition s.state m.pendingState)]⟩ link auth m.initial.next := by
  simp [launch, hm, hauth, Turn.log, Turn.emit, Turn.enter]

theorem kind_of_ofCredentials {kind : MechanismKind}
    (h : Mechanism.ofCredentials kind c = .ok m) : m.kind = kind := by
  rcases Mechanism.eq_of_ofCredentials h with ⟨rfl, rfl⟩ | ⟨username, password, rfl, -, -, rfl⟩
  · rfl
  · rfl

private theorem first_attempt {kind : MechanismKind}
    (h : Mechanism.ofCredentials kind c = .ok m) :
    (Stage.first m).attempt c config =
      { Stage.idle.attempt c config with
        kind := some kind, mechanism := some m, state := m.initial.next } := by
  rcases Mechanism.eq_of_ofCredentials h with ⟨rfl, rfl⟩ | ⟨username, password, rfl, -, -, rfl⟩
  · rfl
  · rfl

private theorem challenge_eq (h : s.isEnded = false) :
    challenge link payload ⟨s.attempt c config, e, []⟩ =
      Turn.settle (answer link payload ⟨s.attempt c config, e, []⟩) := by
  rw [challenge, not_isFinished h]
  rfl

private theorem answer_of_none (hm : s.mechanism c = none) :
    answer link payload ⟨s.attempt c config, e, []⟩ =
      (⟨s.attempt c config, e, []⟩, some (.unexpectedStanza .challenge s.state)) := by
  simp [answer, hm]

private theorem answer_of_unaccepted (hm : s.mechanism c = some m)
    (haccepts : m.accepts s.state = false) :
    answer link payload ⟨s.attempt c config, e, []⟩ =
      (Turn.log ⟨s.attempt c config, e, []⟩ (.untimelyChallenge m.kind),
        some (.mechanism (.unexpectedChallenge s.state))) := by
  simp [answer, hm, haccepts]

private theorem answer_of_unread {failure : Failure} (hm : s.mechanism c = some m)
    (haccepts : m.accepts s.state = true) (hread : readChallenge payload = .error failure) :
    answer link payload ⟨s.attempt c config, e, []⟩ =
      (⟨s.attempt c config, e, (readingLog failure).map .logged⟩, some failure) := by
  simp [answer, hm, haccepts, hread, Turn.logAll]

private theorem answer_of_read {challenge : Directives} (hm : s.mechanism c = some m)
    (haccepts : m.accepts s.state = true) (hread : readChallenge payload = .ok challenge) :
    answer link payload ⟨s.attempt c config, e, []⟩ =
      respond link m challenge ⟨s.attempt c config, e, []⟩ := by
  simp [answer, hm, haccepts, hread]

private theorem respond_of_error {challenge : Directives} {error : MechanismError}
    (h : (m.respond s.state challenge e).result = .error error) :
    respond link m challenge ⟨s.attempt c config, e, []⟩ =
      (⟨{ s.attempt c config with mechanism := some (m.respond s.state challenge e).mechanism },
        (m.respond s.state challenge e).entropy, (m.respond s.state challenge e).log.map .logged⟩,
        some (.mechanism error)) := by
  simp [respond, h, Turn.logAll]

private theorem respond_of_ok {challenge : Directives} {step : Step}
    (h : (m.respond s.state challenge e).result = .ok step) :
    respond link m challenge ⟨s.attempt c config, e, []⟩ =
      Turn.send
        ⟨{ s.attempt c config with mechanism := some (m.respond s.state challenge e).mechanism },
          (m.respond s.state challenge e).entropy, (m.respond s.state challenge e).log.map .logged⟩
        link (responseStanza step.payload) step.next := by
  simp [respond, h, Turn.logAll]

private theorem name_responseStanza (octets : Option (List UInt8)) :
    (responseStanza octets).name = "response" := by
  cases octets <;> rfl

theorem Grounds.basis (g : Grounds c payload e) :
    DigestMd5.Basis (.ofCredentials c) g.challenge e g.digest :=
  ⟨g.has_username, g.has_password, g.has_nonce, g.has_realm, ⟨g.octets, g.drawn, rfl⟩, rfl⟩

private theorem success_of_due (h : s.isEnded = false)
    (hdue : prematurity (s.attempt c config) = none) :
    success ⟨s.attempt c config, e, []⟩ =
      Turn.finish (Turn.log ⟨s.attempt c config, e, []⟩ .authenticated) none := by
  rw [success, not_isFinished h, hdue]
  rfl

private theorem success_of_premature {failure : Failure} (h : s.isEnded = false)
    (hearly : prematurity (s.attempt c config) = some failure) :
    success ⟨s.attempt c config, e, []⟩ =
      match config.successPolicy with
      | .trustServer =>
        Turn.finish (Turn.log ⟨s.attempt c config, e, []⟩ (.successTrusted failure)) none
      | .strict => Turn.finish ⟨s.attempt c config, e, []⟩ (some failure) := by
  rw [success, not_isFinished h, hearly]
  rfl

private theorem fail_eq {reason : Option String} (h : s.isEnded = false) :
    fail reason ⟨s.attempt c config, e, []⟩ =
      Turn.finish
        (Turn.log ⟨s.attempt c config, e, []⟩ (.rejected (reason.getD "unknown reason")))
        (some (.rejected (reason.getD "unknown reason"))) := by
  rw [fail, not_isFinished h]
  rfl

theorem handle_of_move {i : Input} {s s' : Stage} {e e' : Entropy} {effects : List Effect}
    (h : Move c config i s e s' e' effects) :
    handle i.link i.event (s.attempt c config) e = ⟨s'.attempt c config, e', effects⟩ := by
  cases h with
  | relisted not_idle => exact if_pos not_idle
  | @late link event kind verdict _ not_offer =>
    have hfinished : ((Stage.ended kind verdict).attempt c config).isFinished = true := by
      cases verdict <;> rfl
    cases event with
    | start offered => exact absurd rfl not_offer
    | challenge payload => exact if_pos hfinished
    | success => exact if_pos hfinished
    | failure reason => exact if_pos hfinished
  | unsupported selected =>
    change Turn.settle (choose _ _ _) = _
    rw [choose_of_none selected, Turn.settle, finish_attempt rfl, List.append_assoc]
    rfl
  | lacking selected refused =>
    change Turn.settle (choose _ _ _) = _
    rw [choose_of_some selected, launch_of_error refused, Turn.settle, Turn.finish_eq rfl,
      List.append_assoc]
    rfl
  | launched selected created built =>
    change Turn.settle (choose _ _ _) = _
    rw [choose_of_some selected, launch_of_ok created built, first_attempt created]
    simp [Turn.send, Turn.settle, Turn.enter, Turn.log, Turn.emit]
    rfl
  | unlaunched selected created built =>
    change Turn.settle (choose _ _ _) = _
    rw [choose_of_some selected, launch_of_ok created built, Turn.send, Turn.settle,
      Turn.finish_eq rfl]
    simp [Turn.log, Turn.emit]
    exact ⟨rfl, rfl⟩
  | early =>
    change challenge _ _ _ = _
    rw [challenge_eq rfl, answer_of_none rfl, Turn.settle]
    exact finish_unlogged (s := .idle) rfl _
  | untimely mechanism unaccepted =>
    change challenge _ _ _ = _
    rw [challenge_eq (Stage.not_isEnded mechanism), answer_of_unaccepted mechanism unaccepted,
      Turn.settle]
    exact finish_logged (Stage.not_isEnded mechanism) _
  | unreadable mechanism accepted unread =>
    change challenge _ _ _ = _
    rw [challenge_eq (Stage.not_isEnded mechanism), answer_of_unread mechanism accepted unread,
      Turn.settle, finish_attempt (Stage.not_isEnded mechanism)]
  | unanswered mechanism accepted read refused =>
    change challenge _ _ _ = _
    rw [challenge_eq (Stage.not_isEnded mechanism), answer_of_read mechanism accepted read,
      respond_of_error refused, Turn.settle, Turn.finish_eq (Stage.not_isEnded mechanism)]
    rfl
  | undelivered mechanism accepted read answered =>
    change challenge _ _ _ = _
    rw [challenge_eq (Stage.not_isEnded mechanism), answer_of_read mechanism accepted read,
      respond_of_ok answered, Turn.send, Turn.settle, Turn.finish_eq (Stage.not_isEnded mechanism),
      name_responseStanza]
    simp [Turn.log, Turn.emit]
    rfl
  | responded g =>
    change challenge _ _ _ = _
    rw [challenge_eq rfl, answer_of_read rfl rfl g.read, respond]
    simp only [Mechanism.respond, DigestMd5.respond, Stage.attempt_state, Stage.state,
      DigestMd5.respondFirst_of_basis g.basis]
    rfl
  | proven read shown =>
    change challenge _ _ _ = _
    rw [challenge_eq rfl, answer_of_read rfl rfl read, respond]
    simp only [Mechanism.respond, DigestMd5.respond, Stage.attempt_state, Stage.state,
      DigestMd5.respondSecond_of_shown (.ofCredentials c) shown]
    rfl
  | completed not_ended due =>
    change success _ = _
    rw [success_of_due not_ended due]
    exact finish_logged not_ended none
  | trusted not_ended premature policy =>
    change success _ = _
    rw [success_of_premature not_ended premature, policy]
    exact finish_logged not_ended none
  | distrusted not_ended premature policy =>
    change success _ = _
    rw [success_of_premature not_ended premature, policy]
    exact finish_unlogged not_ended _
  | refused not_ended =>
    change fail _ _ = _
    rw [fail_eq not_ended]
    exact finish_logged not_ended _

def choiceTag (config : Config) (kind : MechanismKind) : Tag :=
  let auth := (Element.empty "auth" saslNamespace).withAttribute "mechanism" kind.name
  if kind = .plain ∧ config.googleFullBindResult then
    { auth.tag with
      prefixes := auth.tag.prefixes.insert "ga" googleAuthNamespace
      attributes := auth.tag.attributes.insert "ga:client-uses-full-bind-result" "true" }
  else auth.tag

/-- The stanza that chooses a mechanism can always be built. -/
theorem authStanza_eq (config : Config) (kind : MechanismKind) (octets : Option (List UInt8)) :
    authStanza config kind octets = .ok (withPayload ⟨choiceTag config kind, []⟩ octets) := by
  by_cases h : kind = .plain ∧ config.googleFullBindResult
  · rw [authStanza, if_pos h, choiceTag, if_pos h]
    rfl
  · rw [authStanza, if_neg h, choiceTag, if_neg h]
    rfl

section

variable (config : Config) (kind : MechanismKind)

theorem name_choiceTag : (choiceTag config kind).name = "auth" := by
  rw [choiceTag]
  split <;> rfl

theorem ns_choiceTag : (choiceTag config kind).ns = saslNamespace := by
  rw [choiceTag]
  split <;> rfl

theorem mechanism_choiceTag :
    (choiceTag config kind).attributes.get? "mechanism" = some kind.name := by
  rw [choiceTag]
  split <;> simp [Element.withAttribute, Fields.get?_insert]

theorem marker_choiceTag :
    (choiceTag config kind).attributes.get? "ga:client-uses-full-bind-result" =
      if kind = .plain ∧ config.googleFullBindResult then some "true" else none := by
  rw [choiceTag]
  split <;> simp [Element.withAttribute, Element.empty, Fields.get?_insert]

theorem declared_choiceTag :
    (choiceTag config kind).prefixes.get? "ga" =
      if kind = .plain ∧ config.googleFullBindResult then some googleAuthNamespace else none := by
  rw [choiceTag]
  split <;> simp [Element.withAttribute, Element.empty, Fields.get?_insert]

end

private theorem exists_choice (link : Link) (offered : List String) (e : Entropy) :
    ∃ s' e' effects, Move c config ⟨link, .start offered⟩ .idle e s' e' effects := by
  rcases hselect : Selection.select offered config.mechanisms with ⟨best, entries⟩
  cases best with
  | none => exact ⟨_, _, _, .unsupported hselect⟩
  | some kind =>
    cases hm : Mechanism.ofCredentials kind c with
    | error error => exact ⟨_, _, _, .lacking hselect hm⟩
    | ok m =>
      have hauth := authStanza_eq config kind m.initial.payload
      cases link with
      | up => exact ⟨_, _, _, .launched hselect hm hauth⟩
      | down reason => exact ⟨_, _, _, .unlaunched hselect hm hauth⟩

theorem of_respondFirst {challenge : Directives} {step : Step}
    (hread : readChallenge payload = .ok challenge)
    (h : ((DigestMd5.ofCredentials c).respondFirst challenge e).result = .ok step) :
    Nonempty (Grounds c payload e) := by
  have hanswer := DigestMd5.firstAnswer (.ofCredentials c) challenge e
  generalize (DigestMd5.ofCredentials c).respondFirst challenge e = answer at hanswer h
  cases hanswer with
  | answered basis =>
    obtain ⟨octets, hdrawn, -⟩ := basis.cnonce
    exact ⟨⟨challenge, _, _, _, _, octets, hread, basis.username, basis.password, basis.nonce,
      basis.realm, hdrawn⟩⟩
  | _ => cases h

theorem of_respondSecond {proof : String} {challenge : Directives} {step : Step}
    (h : ((⟨c.username, c.password, c.server, some proof⟩ : DigestMd5).respondSecond
      challenge e).result = .ok step) : challenge.get? "rspauth" = some proof := by
  have hanswer := DigestMd5.secondAnswer ⟨c.username, c.password, c.server, some proof⟩ challenge e
  generalize DigestMd5.respondSecond _ challenge e = answer at hanswer h
  cases hanswer with
  | matched has_rspauth has_proof =>
    obtain rfl := Option.some.inj has_proof
    exact has_rspauth
  | _ => cases h

theorem accepted_cases (hm : s.mechanism c = some m) (haccepts : m.accepts s.state = true) :
    s = .chosen ∨ ∃ proof, s = .responseSent proof := by
  cases s with
  | chosen => exact .inl rfl
  | responseSent proof => exact .inr ⟨proof, rfl⟩
  | messageSent p =>
    obtain rfl := Option.some.inj hm
    cases haccepts
  | acknowledged =>
    obtain rfl := Option.some.inj hm
    cases haccepts
  | idle => cases hm
  | ended kind verdict => cases hm

private theorem exists_answer {challenge : Directives} (hm : s.mechanism c = some m)
    (haccepts : m.accepts s.state = true) (hread : readChallenge payload = .ok challenge)
    (e : Entropy) :
    ∃ s' e' effects, Move c config ⟨link, .challenge payload⟩ s e s' e' effects := by
  cases hresult : (m.respond s.state challenge e).result with
  | error error => exact ⟨_, _, _, .unanswered hm haccepts hread hresult⟩
  | ok step =>
    cases link with
    | down reason => exact ⟨_, _, _, .undelivered hm haccepts hread hresult⟩
    | up =>
      rcases accepted_cases hm haccepts with rfl | ⟨proof, rfl⟩
      · obtain rfl := Option.some.inj hm
        obtain ⟨g⟩ := of_respondFirst hread hresult
        exact ⟨_, _, _, .responded g⟩
      · obtain rfl := Option.some.inj hm
        have hshown := of_respondSecond hresult
        exact ⟨_, _, _, .proven hread hshown⟩

theorem exists_move (c : Credentials) (config : Config) (i : Input) (s : Stage) (e : Entropy) :
    ∃ s' e' effects, Move c config i s e s' e' effects := by
  obtain ⟨link, event⟩ := i
  by_cases hoffer : eventKind event = .streamFeatures
  · cases event with
    | start offered =>
      by_cases hidle : s.state = .noMechanism
      · obtain rfl := Stage.eq_idle hidle
        exact exists_choice link offered e
      · exact ⟨_, _, _, .relisted hidle⟩
    | _ => cases hoffer
  cases hended : s.isEnded with
  | true =>
    obtain ⟨kind, verdict, rfl⟩ := Stage.eq_ended hended
    exact ⟨_, _, _, .late hoffer⟩
  | false =>
    cases event with
    | start offered => exact absurd rfl hoffer
    | challenge payload =>
      cases hm : s.mechanism c with
      | none =>
        obtain rfl := Stage.eq_idle_of_mechanism hended hm
        exact ⟨_, _, _, .early⟩
      | some m =>
        cases haccepts : m.accepts s.state with
        | false => exact ⟨_, _, _, .untimely hm haccepts⟩
        | true =>
          cases hread : readChallenge payload with
          | error failure => exact ⟨_, _, _, .unreadable hm haccepts hread⟩
          | ok challenge => exact exists_answer hm haccepts hread e
    | success =>
      cases hdue : prematurity (s.attempt c config) with
      | none => exact ⟨_, _, _, .completed hended hdue⟩
      | some failure =>
        cases hpolicy : config.successPolicy with
        | trustServer => exact ⟨_, _, _, .trusted hended hdue hpolicy⟩
        | strict => exact ⟨_, _, _, .distrusted hended hdue hpolicy⟩
    | failure reason => exact ⟨_, _, _, .refused hended⟩

theorem handle_moves (c : Credentials) (config : Config) (i : Input) (s : Stage) (e : Entropy) :
    ∃ s' e' effects,
      handle i.link i.event (s.attempt c config) e = ⟨s'.attempt c config, e', effects⟩ ∧
        Move c config i s e s' e' effects := by
  obtain ⟨s', e', effects, hmove⟩ := exists_move c config i s e
  exact ⟨s', e', effects, handle_of_move hmove, hmove⟩

end Negotiation

end SaslClient
