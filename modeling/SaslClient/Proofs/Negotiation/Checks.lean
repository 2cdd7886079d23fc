import SaslClient.Proofs.Negotiation.Outcome
/-!
# Challenges are checked in order

A challenge has to pass checks, and which ones depends on where the attempt stands. The first that
it does not pass says how the attempt fails. Nothing is sent before all are passed, and entropy is
drawn only for a first challenge that has passed all checks before the draw.
-/
namespace SaslClient

/-- An attempt fails, and nothing is sent. -/
structure Turn.Fails (t u : Turn) (failure : Failure) : Prop where
  state : u.attempt.state = .failed
  reason : u.attempt.failure = some failure
  outcomes : u.outcomes = [.failed failure.message]
  stanzas : u.stanzas = t.stanzas

/-- An attempt goes from one challenge to what follows it, and one response is sent. -/
structure Turn.Advances (t u : Turn) : Prop where
  state :
    (t.attempt.state = .challengeResponsePending ∧
      u.attempt.state = .challengeResponseAuthSent) ∨
    (t.attempt.state = .challengeResponseAuthSent ∧
      u.attempt.state = .challengeResponseFinalSent)
  reason : u.attempt.failure = none
  outcomes : u.outcomes = []
  stanzas : ∃ response : Element, response.name = "response" ∧ response.ns = saslNamespace ∧
    u.stanzas = t.stanzas ++ [response]

namespace Negotiation

inductive Check
  | chosen
  | accepted
  | decoded
  | parsed
  | credentials
  | nonce
  | realm
  | drawn
  | shown
  | proven
  | delivered
deriving DecidableEq, Repr

def octetsIn (payload : String) : Except Base64.Error (List UInt8) :=
  Base64.decode (String.ofList (Blank.trim payload.toList))

def directive? (payload name : String) : Option String :=
  match octetsIn payload with
  | .error _ => none
  | .ok octets =>
    match Directives.parse octets with
    | .error _ => none
    | .ok challenge => challenge.get? name

def expectedProof? (n : Negotiation) : Option String :=
  match n.mechanism with
  | some (.digestMd5 m) => m.serverProof
  | _ => none

def Check.failure? (n : Negotiation) (e : Entropy) (link : Link) (payload : String) :
    Check → Option Failure
  | chosen => if n.kind = none then some (.unexpectedStanza .challenge n.state) else none
  | accepted =>
    if n.kind = some .digestMd5 ∧
        (n.state = .challengeResponsePending ∨ n.state = .challengeResponseAuthSent) then none
    else some (.mechanism (.unexpectedChallenge n.state))
  | decoded =>
    match octetsIn payload with
    | .error error => some (.cannotDecodeChallenge error)
    | .ok _ => none
  | parsed =>
    match octetsIn payload with
    | .error _ => none
    | .ok octets =>
      match Directives.parse octets with
      | .error error => some (.invalidChallenge error)
      | .ok _ => none
  | credentials =>
    if n.credentials.username = none ∨ n.credentials.password = none then
      some (.mechanism .missingCredentials)
    else none
  | nonce => if directive? payload "nonce" = none then some (.mechanism .noServerNonce) else none
  | realm =>
    if directive? payload "realm" = none ∧ n.credentials.server = none then
      some (.mechanism .noRealm)
    else none
  | drawn =>
    match e.draw.1 with
    | .error reason => some (.mechanism (.cannotGenerateNonce reason))
    | .ok _ => none
  | shown => if directive? payload "rspauth" = none then some (.mechanism .noServerProof) else none
  | proven =>
    if directive? payload "rspauth" = expectedProof? n then none
    else some (.mechanism .invalidServerProof)
  | delivered =>
    match link with
    | .up => none
    | .down reason => some (.transport reason)

def openingChecks : List Check :=
  [.chosen, .accepted, .decoded, .parsed]

def basisChecks : List Check :=
  [.credentials, .nonce, .realm]

def replyChecks : State → List Check
  | .challengeResponsePending => basisChecks ++ [.drawn]
  | .challengeResponseAuthSent => [.shown, .proven]
  | _ => []

/-- The failure of the first check, in their order, that a challenge does not pass. -/
def firstFailure? (n : Negotiation) (e : Entropy) (link : Link) (payload : String) :
    Option Failure :=
  (openingChecks ++ replyChecks n.state ++ [Check.delivered]).findSome?
    (Check.failure? n e link payload)

def Draws (n : Negotiation) (e : Entropy) (link : Link) (payload : String) : Prop :=
  n.state = .challengeResponsePending ∧
    (openingChecks ++ basisChecks).findSome? (Check.failure? n e link payload) = none

instance (n : Negotiation) (e : Entropy) (link : Link) (payload : String) :
    Decidable (Draws n e link payload) :=
  inferInstanceAs (Decidable (_ ∧ _))

variable {c : Credentials} {config : Config} {s s' : Stage} {m : Mechanism} {e e' : Entropy}
  {link : Link} {payload : String} {challenge : Directives} {effects : List Effect}

theorem directive?_of_read (h : readChallenge payload = .ok challenge) (name : String) :
    directive? payload name = challenge.get? name := by
  rw [readChallenge] at h
  rw [directive?, octetsIn]
  cases hoctets : Base64.decode (String.ofList (Blank.trim payload.toList)) with
  | error error =>
    rw [hoctets] at h
    cases h
  | ok octets =>
    cases hparse : Directives.parse octets with
    | error error =>
      simp only [hoctets, hparse] at h
      cases h
    | ok d =>
      simp only [hoctets, hparse] at h
      simp only [hparse, Except.ok.inj h]

theorem openingChecks_of_accepted (hm : s.mechanism c = some m)
    (haccepts : m.accepts s.state = true) :
    openingChecks.findSome? (Check.failure? (s.attempt c config) e link payload) =
      match readChallenge payload with
      | .error failure => some failure
      | .ok _ => none := by
  have hchosen : Check.chosen.failure? (s.attempt c config) e link payload = none := by
    rcases accepted_cases hm haccepts with rfl | ⟨proof, rfl⟩ <;> rfl
  have haccepted : Check.accepted.failure? (s.attempt c config) e link payload = none := by
    rcases accepted_cases hm haccepts with rfl | ⟨proof, rfl⟩ <;> rfl
  simp only [openingChecks, List.findSome?_cons, List.findSome?_nil, hchosen, haccepted]
  simp only [Check.failure?, readChallenge, octetsIn]
  cases Base64.decode (String.ofList (Blank.trim payload.toList)) with
  | error error => rfl
  | ok octets =>
    cases hparse : Directives.parse octets with
    | error error => simp only [hparse]
    | ok challenge => simp only [hparse]

def refusal? : Except MechanismError Step → Option Failure
  | .error error => some (.mechanism error)
  | .ok _ => none

section

variable {username password nonce realm : String}

private theorem credentials_pass (husername : c.username = some username)
    (hpassword : c.password = some password) :
    Check.credentials.failure? (s.attempt c config) e link payload = none := by
  simp [Check.failure?, husername, hpassword]

private theorem nonce_passes (hread : readChallenge payload = .ok challenge)
    (hnonce : challenge.get? "nonce" = some nonce) :
    Check.nonce.failure? (s.attempt c config) e link payload = none := by
  simp [Check.failure?, directive?_of_read hread, hnonce]

private theorem realm_passes (hread : readChallenge payload = .ok challenge)
    (hrealm : (challenge.get? "realm").or c.server = some realm) :
    Check.realm.failure? (s.attempt c config) e link payload = none := by
  have hgiven : ¬(challenge.get? "realm" = none ∧ c.server = none) := by
    intro ⟨hnone, hserver⟩
    rw [hnone, hserver] at hrealm
    cases hrealm
  simp [Check.failure?, directive?_of_read hread, hgiven]

end

theorem replyChecks_of_first (hread : readChallenge payload = .ok challenge) :
    let fails := Check.failure? (Stage.chosen.attempt c config) e link payload
    let answer := (DigestMd5.ofCredentials c).respondFirst challenge e
    (replyChecks .challengeResponsePending).findSome? fails = refusal? answer.result ∧
      answer.entropy = if basisChecks.findSome? fails = none then e.draw.2 else e := by
  intro fails answer
  have hanswer : DigestMd5.FirstAnswer (.ofCredentials c) challenge e answer :=
    DigestMd5.firstAnswer _ _ _
  generalize answer = answer at hanswer
  -- Each way out of the mechanism is one more check that was passed before one that was not.
  cases hanswer with
  | lacking credentials =>
    have hlacking : c.username = none ∨ c.password = none := credentials
    have hcredentials : fails .credentials = some (.mechanism .missingCredentials) := by
      simp [fails, Check.failure?, hlacking]
    simp [replyChecks, basisChecks, hcredentials, refusal?]
  | nonceless has_username has_password nonce =>
    have hcredentials : fails .credentials = none := credentials_pass has_username has_password
    have hnonce : fails .nonce = some (.mechanism .noServerNonce) := by
      simp [fails, Check.failure?, directive?_of_read hread, nonce]
    simp [replyChecks, basisChecks, hcredentials, hnonce, refusal?]
  | realmless has_username has_password has_nonce realm =>
    have hcredentials : fails .credentials = none := credentials_pass has_username has_password
    have hnonce : fails .nonce = none := nonce_passes hread has_nonce
    have hneither : challenge.get? "realm" = none ∧ c.server = none := Option.or_eq_none_iff.1 realm
    have hrealm : fails .realm = some (.mechanism .noRealm) := by
      simp [fails, Check.failure?, directive?_of_read hread, hneither]
    simp [replyChecks, basisChecks, hcredentials, hnonce, hrealm, refusal?]
  | @undrawn _ _ _ _ reason has_username has_password has_nonce has_realm failed =>
    have hcredentials : fails .credentials = none := credentials_pass has_username has_password
    have hnonce : fails .nonce = none := nonce_passes hread has_nonce
    have hrealm : fails .realm = none := realm_passes hread has_realm
    have hdrawn : fails .drawn = some (.mechanism (.cannotGenerateNonce reason)) := by
      simp only [fails, Check.failure?, failed]
    simp [replyChecks, basisChecks, hcredentials, hnonce, hrealm, hdrawn, refusal?]
  | answered basis =>
    have hcredentials : fails .credentials = none := credentials_pass basis.username basis.password
    have hnonce : fails .nonce = none := nonce_passes hread basis.nonce
    have hrealm : fails .realm = none := realm_passes hread basis.realm
    obtain ⟨octets, drawn, -⟩ := basis.cnonce
    have hdrawn : fails .drawn = none := by
      simp only [fails, Check.failure?, drawn]
    simp [replyChecks, basisChecks, hcredentials, hnonce, hrealm, hdrawn, refusal?]

theorem replyChecks_of_second {proof : String} (hread : readChallenge payload = .ok challenge) :
    let fails := Check.failure? ((Stage.responseSent proof).attempt c config) e link payload
    let m : DigestMd5 := { DigestMd5.ofCredentials c with serverProof := some proof }
    (replyChecks .challengeResponseAuthSent).findSome? fails =
      refusal? (m.respondSecond challenge e).result := by
  intro fails m
  have hget := directive?_of_read hread
  have hexpected : expectedProof? ((Stage.responseSent proof).attempt c config) = some proof := rfl
  have hanswer := DigestMd5.secondAnswer m challenge e
  generalize m.respondSecond challenge e = answer at hanswer ⊢
  cases hanswer with
  | unshown rspauth => simp [replyChecks, fails, Check.failure?, hget, rspauth, refusal?]
  | proofless has_rspauth none => cases none
  | mismatched has_rspauth has_proof ne =>
    obtain rfl := Option.some.inj has_proof
    simp [replyChecks, fails, Check.failure?, hget, has_rspauth, hexpected, ne, refusal?]
  | matched has_rspauth has_proof =>
    obtain rfl := Option.some.inj has_proof
    simp [replyChecks, fails, Check.failure?, hget, has_rspauth, hexpected, refusal?]

theorem replyChecks_of_accepted (hm : s.mechanism c = some m) (haccepts : m.accepts s.state = true)
    (hread : readChallenge payload = .ok challenge) :
    (replyChecks s.state).findSome? (Check.failure? (s.attempt c config) e link payload) =
      refusal? (m.respond s.state challenge e).result := by
  rcases accepted_cases hm haccepts with rfl | ⟨proof, rfl⟩
  · obtain rfl := Option.some.inj hm
    exact (replyChecks_of_first hread).1
  · obtain rfl := Option.some.inj hm
    exact replyChecks_of_second hread

theorem firstFailure?_of_accepted (hm : s.mechanism c = some m)
    (haccepts : m.accepts s.state = true) :
    firstFailure? (s.attempt c config) e link payload =
      match readChallenge payload with
      | .error failure => some failure
      | .ok challenge =>
        (refusal? (m.respond s.state challenge e).result).or
          (Check.delivered.failure? (s.attempt c config) e link payload) := by
  rw [firstFailure?, Stage.attempt_state, List.findSome?_append, List.findSome?_append,
    openingChecks_of_accepted hm haccepts, List.findSome?_singleton]
  cases hread : readChallenge payload with
  | error failure => rfl
  | ok challenge =>
    rw [replyChecks_of_accepted hm haccepts hread]
    rfl

theorem firstFailure?_of_unaccepted (hm : s.mechanism c = some m)
    (haccepts : m.accepts s.state = false) :
    firstFailure? (s.attempt c config) e link payload =
      some (.mechanism (.unexpectedChallenge s.state)) := by
  cases s with
  | messageSent p => rfl
  | acknowledged => rfl
  | chosen =>
    obtain rfl := Option.some.inj hm
    cases haccepts
  | responseSent proof =>
    obtain rfl := Option.some.inj hm
    cases haccepts
  | idle => cases hm
  | ended kind verdict => cases hm

inductive Advance (effects : List Effect) : Stage → Stage → Prop
  | answered {proof : String} {octets : List UInt8}
      (sent : effects.filterMap Effect.stanza? = [responseStanza (some octets)]) :
      Advance effects .chosen (.responseSent proof)
  | acknowledged {proof : String}
      (sent : effects.filterMap Effect.stanza? = [responseStanza none]) :
      Advance effects (.responseSent proof) .acknowledged

/-- A challenge fails by the first check that it does not pass, or brings the attempt further. -/
theorem decided_of_move (hs : s.isEnded = false)
    (h : Move c config ⟨link, .challenge payload⟩ s e s' e' effects) :
    (∃ failure, firstFailure? (s.attempt c config) e link payload = some failure ∧
      s' = .ended s.kind (some failure)) ∨
    (firstFailure? (s.attempt c config) e link payload = none ∧ Advance effects s s') := by
  cases h with
  | late not_offer => cases hs
  | early => exact .inl ⟨_, rfl, rfl⟩
  | untimely mechanism unaccepted =>
    exact .inl ⟨_, firstFailure?_of_unaccepted mechanism unaccepted, rfl⟩
  | unreadable mechanism accepted unread =>
    refine .inl ⟨_, ?_, rfl⟩
    rw [firstFailure?_of_accepted mechanism accepted, unread]
  | unanswered mechanism accepted read refused =>
    refine .inl ⟨_, ?_, rfl⟩
    rw [firstFailure?_of_accepted mechanism accepted, read]
    simp only [refused]
    rfl
  | undelivered mechanism accepted read answered =>
    refine .inl ⟨_, ?_, rfl⟩
    rw [firstFailure?_of_accepted mechanism accepted, read]
    simp only [answered]
    rfl
  | responded g =>
    refine .inr ⟨?_, .answered rfl⟩
    rw [firstFailure?_of_accepted rfl rfl, g.read]
    simp only [Mechanism.respond, DigestMd5.respond, Stage.state,
      DigestMd5.respondFirst_of_basis g.basis]
    rfl
  | proven read shown =>
    refine .inr ⟨?_, .acknowledged rfl⟩
    rw [firstFailure?_of_accepted rfl rfl, read]
    simp only [Mechanism.respond, DigestMd5.respond, Stage.state,
      DigestMd5.respondSecond_of_shown (.ofCredentials c) shown]
    rfl

/-! ## The draw -/

private theorem draws_iff (hm : s.mechanism c = some m) (haccepts : m.accepts s.state = true)
    (hread : readChallenge payload = .ok challenge) :
    Draws (s.attempt c config) e link payload ↔ s.state = .challengeResponsePending ∧
      basisChecks.findSome? (Check.failure? (s.attempt c config) e link payload) = none := by
  rw [Draws, List.findSome?_append, openingChecks_of_accepted hm haccepts, hread]
  exact Iff.rfl

theorem entropy_of_accepted (hm : s.mechanism c = some m) (haccepts : m.accepts s.state = true)
    (hread : readChallenge payload = .ok challenge) :
    (m.respond s.state challenge e).entropy =
      if Draws (s.attempt c config) e link payload then e.draw.2 else e := by
  simp only [draws_iff hm haccepts hread]
  rcases accepted_cases hm haccepts with rfl | ⟨proof, rfl⟩
  · obtain rfl := Option.some.inj hm
    simp only [Stage.state, true_and]
    exact (replyChecks_of_first hread).2
  · obtain rfl := Option.some.inj hm
    simp only [Stage.state, reduceCtorEq, false_and, ↓reduceIte]
    exact DigestMd5.entropy_respondSecond _ challenge e

private theorem not_draws_of_state (h : s.state ≠ .challengeResponsePending) :
    ¬Draws (s.attempt c config) e link payload :=
  fun hdraws => h hdraws.1

private theorem not_draws_of_unread {failure : Failure} (hm : s.mechanism c = some m)
    (haccepts : m.accepts s.state = true) (hread : readChallenge payload = .error failure) :
    ¬Draws (s.attempt c config) e link payload := by
  intro ⟨_, hchecks⟩
  rw [List.findSome?_append, openingChecks_of_accepted hm haccepts, hread] at hchecks
  cases hchecks

private theorem not_draws_of_unaccepted (hm : s.mechanism c = some m)
    (haccepts : m.accepts s.state = false) : ¬Draws (s.attempt c config) e link payload := by
  intro ⟨hstate, _⟩
  obtain rfl := Stage.eq_chosen hstate
  obtain rfl := Option.some.inj hm
  cases haccepts

/-- Entropy is drawn for a challenge that passes all checks before the draw, and for no other. -/
theorem entropy_of_move (hs : s.isEnded = false)
    (h : Move c config ⟨link, .challenge payload⟩ s e s' e' effects) :
    e' = if Draws (s.attempt c config) e link payload then e.draw.2 else e := by
  cases h with
  | late not_offer => cases hs
  | early => rw [if_neg (not_draws_of_state (s := .idle) nofun)]
  | untimely mechanism unaccepted => rw [if_neg (not_draws_of_unaccepted mechanism unaccepted)]
  | unreadable mechanism accepted unread =>
    rw [if_neg (not_draws_of_unread mechanism accepted unread)]
  | unanswered mechanism accepted read refused => exact entropy_of_accepted mechanism accepted read
  | undelivered mechanism accepted read answered =>
    exact entropy_of_accepted mechanism accepted read
  | responded g =>
    have hentropy := congrArg (·.entropy) (DigestMd5.respondFirst_of_basis g.basis)
    exact hentropy.symm.trans (entropy_of_accepted (s := .chosen) rfl rfl g.read)
  | proven read shown => rw [if_neg (not_draws_of_state (s := .responseSent _) nofun)]

/-- How often entropy was drawn on the way to a stage, at most. -/
def Stage.draws : Stage → Nat
  | idle | messageSent _ | chosen => 0
  | responseSent _ | acknowledged | ended _ _ => 1

private theorem draws_le (s : Stage) : s.draws ≤ 1 := by
  cases s with
  | idle | messageSent | chosen => exact Nat.zero_le 1
  | responseSent | acknowledged | ended => exact Nat.le_refl 1

private theorem draws_of_accepted (hm : s.mechanism c = some m)
    (haccepts : m.accepts s.state = true) :
    (m.respond s.state challenge e).entropy.drawn + s.draws ≤ e.drawn + 1 := by
  rcases accepted_cases hm haccepts with rfl | ⟨proof, rfl⟩
  · obtain rfl := Option.some.inj hm
    change ((DigestMd5.ofCredentials c).respondFirst challenge e).entropy.drawn ≤ _
    rcases DigestMd5.entropy_respondFirst (.ofCredentials c) challenge e with hkept | hdrawn
    · rw [hkept]
      exact Nat.le_succ e.drawn
    · rw [hdrawn]
      exact Nat.le_refl _
  · obtain rfl := Option.some.inj hm
    have hkept := DigestMd5.entropy_respondSecond
      { DigestMd5.ofCredentials c with serverProof := some proof } challenge e
    exact Nat.le_of_eq (congrArg (·.drawn + 1) hkept)

theorem draws_of_move {i : Input} (h : Move c config i s e s' e' effects) :
    e'.drawn + s.draws ≤ e.drawn + s'.draws := by
  cases h with
  | relisted | late => exact Nat.le_refl _
  | @launched _ _ _ m _ _ selected created built => cases m <;> exact Nat.le_refl _
  | unanswered mechanism accepted read refused => exact draws_of_accepted mechanism accepted
  | undelivered mechanism accepted read answered => exact draws_of_accepted mechanism accepted
  | responded g => exact Nat.le_refl _
  | proven read shown => exact Nat.le_refl _
  | _ => exact Nat.add_le_add_left (draws_le _) _

/-- No draw follows a response. -/
theorem drawn_of_reached {inputs : List Input} (h : Reached c config e inputs s e' effects) :
    e'.drawn ≤ e.drawn + s.draws := by
  induction h with
  | start => exact Nat.le_refl _
  | step before move ih =>
    have hmove := draws_of_move move
    omega

theorem drawn_of_run (c : Credentials) (config : Config) (e : Entropy) (inputs : List Input) :
    (run c config e inputs).entropy.drawn ≤ e.drawn + 1 := by
  obtain ⟨s, e', effects, hreached⟩ := reached_run c config e inputs
  rw [run_of_reached hreached]
  exact Nat.le_trans (drawn_of_reached hreached) (Nat.add_le_add_left (draws_le s) _)

/-! ## One challenge -/

section

variable {before : List Input} {more : List Effect} {failure : Failure} {e'' : Entropy}

private theorem fails_of_reached (h : Reached c config e before s e' effects)
    (hmove : Move c config ⟨link, .challenge payload⟩ s e' (.ended s.kind (some failure)) e''
      more) :
    Turn.Fails ⟨s.attempt c config, e', effects⟩
      ⟨(Stage.ended s.kind (some failure)).attempt c config, e'', effects ++ more⟩ failure := by
  refine ⟨rfl, rfl, reports_of_reached (h.step hmove), ?_⟩
  have hunsent : more.filterMap Effect.stanza? = [] := by
    generalize hlast : Stage.ended s.kind (some failure) = s' at hmove
    cases outline_of_move hmove with
    | stays unsent unreported => exact unsent
    | ends not_ended unsent reported => exact unsent
    | goesOn not_ended still_not unreported =>
      subst hlast
      cases still_not
  rw [Turn.stanzas, List.filterMap_append, hunsent, List.append_nil]
  rfl

private theorem advances_of_reached (h : Reached c config e before s e' effects)
    (hmove : Move c config ⟨link, .challenge payload⟩ s e' s' e'' more) (hs : Advance more s s') :
    Turn.Advances ⟨s.attempt c config, e', effects⟩
      ⟨s'.attempt c config, e'', effects ++ more⟩ := by
  have hreports := reports_of_reached (h.step hmove)
  have hstanzas : (effects ++ more).filterMap Effect.stanza? =
      effects.filterMap Effect.stanza? ++ more.filterMap Effect.stanza? := List.filterMap_append
  cases hs with
  | answered sent =>
    rw [sent] at hstanzas
    exact ⟨.inl ⟨rfl, rfl⟩, rfl, hreports, _, rfl, rfl, hstanzas⟩
  | acknowledged sent =>
    rw [sent] at hstanzas
    exact ⟨.inr ⟨rfl, rfl⟩, rfl, hreports, _, rfl, rfl, hstanzas⟩

private theorem next_of_undue (hs : s.isEnded = false)
    (hundue : s.kind = some .plain ∨ s.state = .noMechanism ∨ s.state = .challengeResponseFinalSent)
    (payload other : String) :
    Turn.next ⟨s.attempt c config, e, effects⟩ ⟨link, .challenge other⟩ =
      Turn.next ⟨s.attempt c config, e, effects⟩ ⟨link, .challenge payload⟩ := by
  cases s with
  | idle => rw [next_of_move .early, next_of_move .early]
  | messageSent p => rw [next_of_move (.untimely rfl rfl), next_of_move (.untimely rfl rfl)]
  | acknowledged => rw [next_of_move (.untimely rfl rfl), next_of_move (.untimely rfl rfl)]
  | chosen => simp [Stage.kind, Stage.state] at hundue
  | responseSent proof => simp [Stage.kind, Stage.state] at hundue
  | ended kind verdict => cases hs

end

/-- A challenge to an attempt that is not over fails by the first check that it does not pass, and
otherwise brings the attempt further. Entropy is drawn after all checks before the draw, and once at
most, and where no challenge is due it does not matter what one says. -/
theorem challenge_is_checked_in_order (c : Credentials) (config : Config) (e : Entropy)
    (before : List Input) (link : Link) (payload : String)
    (live : (run c config e before).attempt.state.isTerminal = false) :
    let t := run c config e before
    let u := t.next ⟨link, .challenge payload⟩
    let first := firstFailure? t.attempt t.entropy link payload
    (∀ failure, first = some failure → t.Fails u failure) ∧
      (first = none → t.Advances u) ∧
      u.entropy =
        (if Draws t.attempt t.entropy link payload then t.entropy.draw.2 else t.entropy) ∧
      (∀ inputs, (run c config e inputs).entropy.drawn ≤ e.drawn + 1) ∧
      (t.attempt.kind = some .plain ∨ t.attempt.state = .noMechanism ∨
          t.attempt.state = .challengeResponseFinalSent →
        ∀ other, t.next ⟨link, .challenge other⟩ = u) := by
  intro t u first
  obtain ⟨s, e', effects, hreached⟩ := reached_run c config e before
  obtain ⟨s', e'', more, hmove⟩ := exists_move c config ⟨link, .challenge payload⟩ s e'
  have ht : t = ⟨s.attempt c config, e', effects⟩ := run_of_reached hreached
  have hu : u = ⟨s'.attempt c config, e'', effects ++ more⟩ := by
    rw [← next_of_move hmove, ← ht]
  have hs : s.isEnded = false := by
    rw [run_of_reached hreached, Stage.attempt_state, Stage.isTerminal_state] at live
    exact live
  have hfirst : first = firstFailure? (s.attempt c config) e' link payload :=
    congrArg (fun v : Turn => firstFailure? v.attempt v.entropy link payload) ht
  refine ⟨?_, ?_, ?_, drawn_of_run c config e, ?_⟩
  · intro failure hfailure
    rw [hfirst] at hfailure
    rcases decided_of_move hs hmove with ⟨failure', hfound, rfl⟩ | ⟨hnone, -⟩
    · obtain rfl := Option.some.inj (hfailure.symm.trans hfound)
      rw [ht, hu]
      exact fails_of_reached hreached hmove
    · cases hfailure.symm.trans hnone
  · intro hnone
    rw [hfirst] at hnone
    rcases decided_of_move hs hmove with ⟨failure, hfound, -⟩ | ⟨-, hadvance⟩
    · cases hnone.symm.trans hfound
    · rw [ht, hu]
      exact advances_of_reached hreached hmove hadvance
  · rw [hu, ht]
    exact entropy_of_move hs hmove
  · intro hundue other
    change t.next _ = t.next _
    rw [ht] at hundue ⊢
    exact next_of_undue hs hundue payload other

theorem challenge_is_checked_in_order_nonceless :
    let c : Credentials := { username := some "u", password := some "p" }
    let e : Entropy := { answer := fun _ => .error .unsupported }
    let t := run c {} e [⟨.up, .start ["DIGEST-MD5"]⟩]
    -- The challenge is the text `a=b` in Base64. It has no nonce, and no realm or draw is there.
    let u := t.next ⟨.down "closed", .challenge " YT1i\n"⟩
    t.attempt.state.isTerminal = false ∧ t.Fails u (.mechanism .noServerNonce) ∧
      u.entropy.drawn = 0 := by
  intro c e t u
  have hlive : t.attempt.state.isTerminal = false := by decide
  have hfirst : firstFailure? t.attempt t.entropy (.down "closed") " YT1i\n" =
      some (.mechanism .noServerNonce) := by decide +kernel
  have hundrawn : ¬Draws t.attempt t.entropy (.down "closed") " YT1i\n" := by decide +kernel
  obtain ⟨hfails, -, hentropy, -⟩ := challenge_is_checked_in_order c {} e _ _ _ hlive
  rw [if_neg hundrawn] at hentropy
  exact ⟨hlive, hfails _ hfirst, congrArg Entropy.drawn hentropy⟩

end Negotiation

end SaslClient
