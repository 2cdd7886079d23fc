import SaslClient.Proofs.Negotiation.Reached
/-!
# The failures that occur

What an attempt can fail for depends on its mechanism, and a state that a failure names is one in
which the attempt was: `run_fails_as_expected`. So some precautions are never needed. A stanza can
always be built, the end is never reported twice, and when a proof is compared there is one to
compare it with.
-/
namespace SaslClient

namespace Failure

/-- The failures that occur, each with the mechanism that was chosen. -/
inductive Occurs : Option MechanismKind → Failure → Prop
  | unsupported : Occurs none .noSupportedMechanism
  | early {kind : StanzaKind} (answers : kind = .challenge ∨ kind = .success) :
      Occurs none (.unexpectedStanza kind .noMechanism)
  | lacking {kind : MechanismKind} : Occurs (some kind) (.mechanism .missingCredentials)
  | undelivered {kind : MechanismKind} {reason : String} : Occurs (some kind) (.transport reason)
  | rejected {kind : Option MechanismKind} {reason : String} : Occurs kind (.rejected reason)
  | challenged : Occurs (some .plain) (.mechanism (.unexpectedChallenge .simpleAuthSent))
  | late :
      Occurs (some .digestMd5) (.mechanism (.unexpectedChallenge .challengeResponseFinalSent))
  | premature {state : State}
      (unproven : state = .challengeResponsePending ∨ state = .challengeResponseAuthSent) :
      Occurs (some .digestMd5) (.mechanism (.prematureSuccess state))
  | undecodable {error : Base64.Error} : Occurs (some .digestMd5) (.cannotDecodeChallenge error)
  | unreadable {error : DirectiveError} : Occurs (some .digestMd5) (.invalidChallenge error)
  | nonceless : Occurs (some .digestMd5) (.mechanism .noServerNonce)
  | realmless : Occurs (some .digestMd5) (.mechanism .noRealm)
  | undrawn {reason : EntropyError} :
      Occurs (some .digestMd5) (.mechanism (.cannotGenerateNonce reason))
  | unshown : Occurs (some .digestMd5) (.mechanism .noServerProof)
  | mismatched : Occurs (some .digestMd5) (.mechanism .invalidServerProof)

/-- Whether a failure is over what a challenge of DIGEST-MD5 holds, or over the answer to it. -/
def isOverChallenge : Failure → Bool
  | cannotDecodeChallenge _ | invalidChallenge _ => true
  | mechanism .noServerNonce | mechanism .noRealm | mechanism (.cannotGenerateNonce _) => true
  | mechanism .noServerProof | mechanism .invalidServerProof => true
  | _ => false

namespace Occurs

variable {chosen : Option MechanismKind} {state : State}

theorem not_stanza {error : StanzaError} : ¬Occurs chosen (.stanza error) :=
  nofun

theorem of_unexpectedStanza {kind : StanzaKind} (h : Occurs chosen (.unexpectedStanza kind state)) :
    state = .noMechanism := by
  cases h
  rfl

theorem of_unexpectedChallenge (h : Occurs chosen (.mechanism (.unexpectedChallenge state))) :
    chosen = some .plain ∧ state = .simpleAuthSent ∨
      chosen = some .digestMd5 ∧ state = .challengeResponseFinalSent := by
  cases h with
  | challenged => exact .inl ⟨rfl, rfl⟩
  | late => exact .inr ⟨rfl, rfl⟩

theorem of_prematureSuccess (h : Occurs chosen (.mechanism (.prematureSuccess state))) :
    chosen = some .digestMd5 ∧
      (state = .challengeResponsePending ∨ state = .challengeResponseAuthSent) := by
  cases h with
  | premature unproven => exact ⟨rfl, unproven⟩

theorem of_isOverChallenge {failure : Failure} (h : failure.Occurs chosen)
    (hover : failure.isOverChallenge = true) : chosen = some .digestMd5 := by
  cases h with
  | unsupported | early | lacking | undelivered | rejected => cases hover
  | challenged => cases hover
  | _ => rfl

theorem of_noSupportedMechanism (h : Occurs chosen .noSupportedMechanism) : chosen = none := by
  cases h
  rfl

end Occurs

end Failure

def Effect.warning? : Effect → Option LogEntry
  | logged entry => if entry.level = .warn then some entry else none
  | _ => none

theorem Effect.overlooks_warning? : Overlooks warning? := by
  intro entry hentry
  cases hentry <;> rfl

theorem Effect.mem_warnings_of_mem {effects : List Effect} {entry : LogEntry}
    (h : .logged entry ∈ effects) (hlevel : entry.level = .warn) :
    entry ∈ effects.filterMap warning? :=
  List.mem_filterMap.2 ⟨_, h, if_pos hlevel⟩

def Turn.Raised (t : Turn) (failure : Failure) : Prop :=
  t.attempt.failure = some failure ∨ .logged (.successTrusted failure) ∈ t.effects

/-- Only some failures occurred, and no precaution was needed. -/
structure Turn.AsExpected (t : Turn) : Prop where
  no_stanza : ∀ error, ¬t.Raised (.stanza error)
  not_alreadyReported : .logged .alreadyReported ∉ t.effects
  unexpectedStanza : ∀ kind state, t.Raised (.unexpectedStanza kind state) → state = .noMechanism
  unexpectedChallenge : ∀ state, t.Raised (.mechanism (.unexpectedChallenge state)) →
    t.attempt.kind = some .plain ∧ state = .simpleAuthSent ∨
      t.attempt.kind = some .digestMd5 ∧ state = .challengeResponseFinalSent
  has_proof : ∀ d, t.attempt.mechanism = some (.digestMd5 d) →
    t.attempt.state = .challengeResponseAuthSent → d.serverProof ≠ none
  prematureSuccess : ∀ state, t.Raised (.mechanism (.prematureSuccess state)) →
    t.attempt.kind = some .digestMd5 ∧
      (state = .challengeResponsePending ∨ state = .challengeResponseAuthSent)
  overChallenge : ∀ failure, failure.isOverChallenge = true → t.Raised failure →
    t.attempt.kind = some .digestMd5
  noSupportedMechanism : t.Raised .noSupportedMechanism → t.attempt.kind = none

namespace Negotiation

variable {c : Credentials} {config : Config} {e e' e'' : Entropy} {s s' : Stage} {i : Input}
  {inputs : List Input} {effects : List Effect} {m : Mechanism} {failure : Failure}
  {error : MechanismError}

/-! ## One event -/

private theorem occurs_of_untimely (hm : s.mechanism c = some m)
    (haccepts : m.accepts s.state = false) :
    Failure.Occurs s.kind (.mechanism (.unexpectedChallenge s.state)) := by
  cases s with
  | messageSent p => exact .challenged
  | acknowledged => exact .late
  | chosen | responseSent =>
    obtain rfl := Option.some.inj hm
    cases haccepts
  | idle | ended => cases hm

private theorem kind_of_accepted (hm : s.mechanism c = some m)
    (haccepts : m.accepts s.state = true) : s.kind = some .digestMd5 := by
  rcases accepted_cases hm haccepts with rfl | ⟨proof, rfl⟩ <;> rfl

private theorem occurs_of_unread {payload : String}
    (h : readChallenge payload = .error failure) :
    Failure.Occurs (some .digestMd5) failure := by
  rw [readChallenge] at h
  split at h
  · obtain rfl := Except.error.inj h
    exact .undecodable
  · split at h
    · obtain rfl := Except.error.inj h
      exact .unreadable
    · cases h

private theorem occurs_of_unanswered {challenge : Directives} (hm : s.mechanism c = some m)
    (haccepts : m.accepts s.state = true)
    (h : (m.respond s.state challenge e).result = .error error) :
    Failure.Occurs (some .digestMd5) (.mechanism error) := by
  rcases accepted_cases hm haccepts with rfl | ⟨proof, rfl⟩
  · obtain rfl := Option.some.inj hm
    have hanswer := (DigestMd5.ofCredentials c).firstAnswer challenge e
    change ((DigestMd5.ofCredentials c).respondFirst challenge e).result = _ at h
    generalize (DigestMd5.ofCredentials c).respondFirst challenge e = answer at hanswer h
    cases hanswer with
    | answered basis => cases h
    | lacking credentials =>
      obtain rfl := Except.error.inj h
      exact .lacking
    | nonceless has_username has_password nonce =>
      obtain rfl := Except.error.inj h
      exact .nonceless
    | realmless has_username has_password has_nonce realm =>
      obtain rfl := Except.error.inj h
      exact .realmless
    | undrawn has_username has_password has_nonce has_realm failed =>
      obtain rfl := Except.error.inj h
      exact .undrawn
  · obtain rfl := Option.some.inj hm
    let d : DigestMd5 := { DigestMd5.ofCredentials c with serverProof := some proof }
    have hanswer := d.secondAnswer challenge e
    change (d.respondSecond challenge e).result = _ at h
    generalize d.respondSecond challenge e = answer at hanswer h
    cases hanswer with
    | matched has_rspauth has_proof => cases h
    | proofless has_rspauth proof => cases proof
    | unshown rspauth =>
      obtain rfl := Except.error.inj h
      exact .unshown
    | mismatched has_rspauth has_proof ne =>
      obtain rfl := Except.error.inj h
      exact .mismatched

private theorem occurs_of_premature (hs : s.isEnded = false)
    (h : prematurity (s.attempt c config) = some failure) : Failure.Occurs s.kind failure := by
  cases s with
  | messageSent | acknowledged => cases h
  | ended => cases hs
  | idle =>
    obtain rfl := Option.some.inj h
    exact .early (.inr rfl)
  | chosen =>
    obtain rfl := Option.some.inj h
    exact .premature (.inl rfl)
  | responseSent proof =>
    obtain rfl := Option.some.inj h
    exact .premature (.inr rfl)

private theorem occurs_of_move (h : Move c config i s e s' e' effects)
    (hs' : s'.verdict = some failure) : s' = s ∨ Failure.Occurs s'.kind failure := by
  cases h with
  | relisted not_idle => exact .inl rfl
  | late not_offer => exact .inl rfl
  | unsupported selected =>
    obtain rfl := Option.some.inj hs'
    exact .inr .unsupported
  | lacking selected refused =>
    obtain rfl := Option.some.inj hs'
    obtain rfl := Mechanism.eq_missingCredentials refused
    exact .inr .lacking
  | @launched _ _ _ m _ _ selected created built => cases m <;> cases hs'
  | unlaunched selected created built =>
    obtain rfl := Option.some.inj hs'
    exact .inr .undelivered
  | early =>
    obtain rfl := Option.some.inj hs'
    exact .inr (.early (.inl rfl))
  | untimely mechanism unaccepted =>
    obtain rfl := Option.some.inj hs'
    exact .inr (occurs_of_untimely mechanism unaccepted)
  | unreadable mechanism accepted unread =>
    obtain rfl := Option.some.inj hs'
    rw [Stage.kind, kind_of_accepted mechanism accepted]
    exact .inr (occurs_of_unread unread)
  | unanswered mechanism accepted read refused =>
    obtain rfl := Option.some.inj hs'
    rw [Stage.kind, kind_of_accepted mechanism accepted]
    exact .inr (occurs_of_unanswered mechanism accepted refused)
  | undelivered mechanism accepted read answered =>
    obtain rfl := Option.some.inj hs'
    rw [Stage.kind, kind_of_accepted mechanism accepted]
    exact .inr .undelivered
  | responded | proven | completed | trusted => cases hs'
  | distrusted not_ended premature policy =>
    obtain rfl := Option.some.inj hs'
    have hoccurs := occurs_of_premature not_ended premature
    exact .inr hoccurs
  | refused not_ended =>
    obtain rfl := Option.some.inj hs'
    exact .inr .rejected

private inductive Warned (s : Stage) : LogEntry → Prop
  | listIgnored {state : State} : Warned s (.listIgnored state)
  | stanzaIgnored {kind : StanzaKind} : Warned s (.stanzaIgnored kind)
  | trusted {failure : Failure} (ended : s.isEnded = true) (occurs : failure.Occurs s.kind) :
      Warned s (.successTrusted failure)

private theorem warned_of_move (h : Move c config i s e s' e' effects) :
    ∀ entry ∈ effects.filterMap Effect.warning?, Warned s' entry := by
  have hremarks {entries : List LogEntry} (hentries : ∀ entry ∈ entries, entry.IsRemark)
      (rest : List Effect) := Effect.filterMap_of_remarks Effect.overlooks_warning? hentries rest
  cases h with
  | relisted not_idle => exact List.forall_mem_singleton.2 .listIgnored
  | late not_offer => exact List.forall_mem_singleton.2 .stanzaIgnored
  | trusted not_ended premature policy =>
    have hoccurs := occurs_of_premature not_ended premature
    exact List.forall_mem_singleton.2 (.trusted rfl hoccurs)
  | unsupported selected | lacking selected | launched selected | unlaunched selected =>
    rw [hremarks (Selection.remarks_of_select selected)]
    exact List.forall_mem_nil _
  | unreadable =>
    rw [hremarks (remarks_of_reading _)]
    exact List.forall_mem_nil _
  | unanswered | undelivered =>
    rw [hremarks (Mechanism.remarks_of_respond _ _ _ _)]
    exact List.forall_mem_nil _
  | early | untimely | responded | proven | completed | distrusted | refused =>
    exact List.forall_mem_nil _

/-! ## A run -/

private theorem warned_of_reached (h : Reached c config e inputs s e' effects) :
    ∀ entry ∈ effects.filterMap Effect.warning?, Warned s entry := by
  induction h with
  | start => exact List.forall_mem_nil _
  | step before move ih =>
    rw [List.filterMap_append]
    refine List.forall_mem_append.2 ⟨?_, warned_of_move move⟩
    intro entry hentry
    cases ih entry hentry with
    | listIgnored => exact .listIgnored
    | stanzaIgnored => exact .stanzaIgnored
    | trusted ended occurs =>
      rw [eq_of_ended move ended]
      exact .trusted ended occurs

private theorem occurs_of_reached (h : Reached c config e inputs s e' effects)
    (hs : s.verdict = some failure) : failure.Occurs s.kind := by
  induction h with
  | start => cases hs
  | step before move ih =>
    rcases occurs_of_move move hs with rfl | hoccurs
    · exact ih hs
    · exact hoccurs

private theorem occurs_of_raised (h : Reached c config e inputs s e' effects)
    (hraised : Turn.Raised ⟨s.attempt c config, e', effects⟩ failure) :
    failure.Occurs s.kind := by
  rcases hraised with hverdict | htrusted
  · exact occurs_of_reached h hverdict
  · have hwarning := Effect.mem_warnings_of_mem htrusted rfl
    cases warned_of_reached h _ hwarning with
    | trusted ended occurs => exact occurs

private theorem serverProof_ne_none (hstate : s.state = .challengeResponseAuthSent)
    {d : DigestMd5} (hd : s.mechanism c = some (.digestMd5 d)) : d.serverProof ≠ none := by
  cases s with
  | responseSent proof =>
    obtain rfl := Mechanism.digestMd5.inj (Option.some.inj hd)
    exact Option.some_ne_none proof
  | ended => cases hd
  | _ => cases hstate

/-- A run fails only for what its mechanism admits, and needs no precaution. -/
theorem run_fails_as_expected (c : Credentials) (config : Config) (e : Entropy)
    (inputs : List Input) : (run c config e inputs).AsExpected := by
  obtain ⟨s, e', effects, hreached⟩ := reached_run c config e inputs
  have hoccurs {failure : Failure}
      (hraised : Turn.Raised ⟨s.attempt c config, e', effects⟩ failure) :
      failure.Occurs s.kind :=
    occurs_of_raised hreached hraised
  rw [run_of_reached hreached]
  constructor
  case no_stanza =>
    intro error hraised
    exact Failure.Occurs.not_stanza (hoccurs hraised)
  case not_alreadyReported =>
    intro hmem
    cases warned_of_reached hreached _ (Effect.mem_warnings_of_mem hmem rfl)
  case unexpectedStanza =>
    intro kind state hraised
    exact (hoccurs hraised).of_unexpectedStanza
  case unexpectedChallenge =>
    intro state hraised
    exact (hoccurs hraised).of_unexpectedChallenge
  case has_proof =>
    intro d hd hstate
    exact serverProof_ne_none hstate hd
  case prematureSuccess =>
    intro state hraised
    exact (hoccurs hraised).of_prematureSuccess
  case overChallenge =>
    intro failure hover hraised
    exact (hoccurs hraised).of_isOverChallenge hover
  case noSupportedMechanism =>
    intro hraised
    exact (hoccurs hraised).of_noSupportedMechanism

end Negotiation

end SaslClient
