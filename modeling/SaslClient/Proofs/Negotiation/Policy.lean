import SaslClient.Proofs.Negotiation.Outcome
/-!
# What the policy decides

Two runs that differ in the policy alone do the same until success comes too early. Then one of them
succeeds, the other fails, and neither sends anything afterwards.
-/
namespace SaslClient

/-- Two attempts stand alike, and the same ends were reported. -/
structure Turn.Agree (t u : Turn) : Prop where
  state : t.attempt.state = u.attempt.state
  kind : t.attempt.kind = u.attempt.kind
  outcomes : t.outcomes = u.outcomes
  failure : t.attempt.failure = u.attempt.failure

/-- An attempt succeeded and another failed, both over a success that came too early. -/
structure Turn.Divided (before : State) (trusting strict : Turn) : Prop where
  succeeded : trusting.attempt.state = .succeeded
  no_failure : trusting.attempt.failure = none
  authenticated : trusting.outcomes = [.authenticated]
  failed : strict.attempt.state = .failed
  failure : ∃ failure, strict.attempt.failure = some failure ∧
    strict.outcomes = [.failed failure.message] ∧ failure.kind = .protocolViolation ∧
    failure.message = "server error: success received in state " ++ before.name

namespace Negotiation

variable {c : Credentials} {config : Config} {e e' e'' : Entropy} {s s' : Stage} {i : Input}
  {inputs : List Input} {effects more : List Effect} {failure : Failure}

private theorem move_of_policy {p : SuccessPolicy} (q : SuccessPolicy)
    (h : Move c { config with successPolicy := p } i s e s' e' effects) :
    Move c { config with successPolicy := q } i s e s' e' effects ∨
      ∃ link failure, i = ⟨link, .success⟩ ∧ s.isEnded = false ∧
        prematurity (s.attempt c config) = some failure := by
  cases h with
  | trusted not_ended premature policy => exact .inr ⟨_, _, rfl, not_ended, premature⟩
  | distrusted not_ended premature policy => exact .inr ⟨_, _, rfl, not_ended, premature⟩
  | relisted not_idle => exact .inl (.relisted not_idle)
  | late not_offer => exact .inl (.late not_offer)
  | unsupported selected => exact .inl (.unsupported selected)
  | lacking selected refused => exact .inl (.lacking selected refused)
  | launched selected created built => exact .inl (.launched selected created built)
  | unlaunched selected created built => exact .inl (.unlaunched selected created built)
  | early => exact .inl .early
  | untimely mechanism unaccepted => exact .inl (.untimely mechanism unaccepted)
  | unreadable mechanism accepted unread => exact .inl (.unreadable mechanism accepted unread)
  | unanswered mechanism accepted read refused =>
    exact .inl (.unanswered mechanism accepted read refused)
  | undelivered mechanism accepted read answered =>
    exact .inl (.undelivered mechanism accepted read answered)
  | responded g => exact .inl (.responded g)
  | proven read shown => exact .inl (.proven read shown)
  | completed not_ended due => exact .inl (.completed not_ended due)
  | refused not_ended => exact .inl (.refused not_ended)

private theorem of_premature (hs : s.isEnded = false)
    (h : prematurity (s.attempt c config) = some failure) :
    s.state ∉ [.simpleAuthSent, .challengeResponseFinalSent] ∧ failure.kind = .protocolViolation ∧
      failure.message = "server error: success received in state " ++ s.state.name := by
  cases s with
  | messageSent m => cases h
  | acknowledged => cases h
  | ended kind verdict => cases hs
  | _ =>
    obtain rfl := Option.some.inj h
    exact ⟨by simp [Stage.state], rfl, rfl⟩

private def Together (c : Credentials) (config : Config) (e : Entropy) (p q : SuccessPolicy)
    (inputs : List Input) : Prop :=
  ∃ s e' effects, Reached c { config with successPolicy := p } e inputs s e' effects ∧
    Reached c { config with successPolicy := q } e inputs s e' effects

private def Overtaken (c : Credentials) (config : Config) (e : Entropy) (p q : SuccessPolicy)
    (inputs : List Input) (i : Input) : Prop :=
  ∃ s e' effects link failure, Reached c { config with successPolicy := p } e inputs s e' effects ∧
    Reached c { config with successPolicy := q } e inputs s e' effects ∧
    i = ⟨link, .success⟩ ∧ s.isEnded = false ∧ prematurity (s.attempt c config) = some failure

private theorem together_step {p q : SuccessPolicy} (before : List Input) (i : Input)
    (h : Together c config e p q before) :
    Together c config e p q (before ++ [i]) ∨ Overtaken c config e p q before i := by
  obtain ⟨s, e', effects, hp, hq⟩ := h
  obtain ⟨s', e'', more, hmove⟩ := exists_move c { config with successPolicy := p } i s e'
  rcases move_of_policy q hmove with hmove' | ⟨link, failure, hi, hs, hpremature⟩
  · exact .inl ⟨s', e'', effects ++ more, hp.step hmove, hq.step hmove'⟩
  · exact .inr ⟨s, e', effects, link, failure, hp, hq, hi, hs, hpremature⟩

private theorem agree_of_together {p q : SuccessPolicy} (h : Together c config e p q inputs) :
    (run c { config with successPolicy := p } e inputs).Agree
      (run c { config with successPolicy := q } e inputs) := by
  obtain ⟨s, e', effects, hp, hq⟩ := h
  rw [run_of_reached hp, run_of_reached hq]
  exact ⟨rfl, rfl, rfl, rfl⟩

private theorem ended_run {link : Link} {kind : Option MechanismKind} {verdict : Option Failure}
    (before : Reached c config e inputs s e' effects)
    (move : Move c config ⟨link, .success⟩ s e' (.ended kind verdict) e'' more)
    (hunsent : more.filterMap Effect.stanza? = []) (later : List Input) :
    (run c config e (inputs ++ ⟨link, .success⟩ :: later)).attempt =
        (Stage.ended kind verdict).attempt c config ∧
      (run c config e (inputs ++ ⟨link, .success⟩ :: later)).outcomes = [endOutcome verdict] ∧
      (run c config e (inputs ++ ⟨link, .success⟩ :: later)).stanzas =
        effects.filterMap Effect.stanza? := by
  obtain ⟨rest, hlater, hstanzas, -⟩ := unmoved_of_ended rfl (before.step move) later
  rw [List.append_cons, run_of_reached hlater]
  refine ⟨rfl, reports_of_reached hlater, ?_⟩
  simp only [Turn.stanzas, List.filterMap_append, hunsent, hstanzas, List.append_nil]

private theorem divided_of_overtaken {before : List Input} {i : Input}
    (h : Overtaken c config e .trustServer .strict before i) (later : List Input) :
    let trusting := run c { config with successPolicy := .trustServer } e
    let strict := run c { config with successPolicy := .strict } e
    (∃ link, i = ⟨link, .success⟩) ∧ (trusting before).attempt.state.isTerminal = false ∧
      (trusting before).attempt.state ∉ [.simpleAuthSent, .challengeResponseFinalSent] ∧
      Turn.Divided (trusting before).attempt.state (trusting (before ++ i :: later))
        (strict (before ++ i :: later)) ∧
      (trusting (before ++ i :: later)).stanzas = (strict (before ++ i :: later)).stanzas := by
  intro trusting strict
  obtain ⟨s, e', effects, link, failure, htrusting, hstrict, rfl, hs, hpremature⟩ := h
  obtain ⟨hstate, hkind, hmessage⟩ := of_premature hs hpremature
  obtain ⟨htrust, houtcomes, hstanzas⟩ :=
    ended_run htrusting (.trusted hs hpremature rfl) rfl later
  obtain ⟨hdistrust, houtcomes', hstanzas'⟩ :=
    ended_run hstrict (.distrusted hs hpremature rfl) rfl later
  have hbefore : (trusting before).attempt.state = s.state :=
    congrArg (·.attempt.state) (run_of_reached htrusting)
  rw [hbefore]
  refine ⟨⟨link, rfl⟩, (Stage.isTerminal_state s).trans hs, hstate, ?_,
    hstanzas.trans hstanzas'.symm⟩
  exact ⟨congrArg (·.state) htrust, congrArg (·.failure) htrust, houtcomes,
    congrArg (·.state) hdistrust, failure, congrArg (·.failure) hdistrust, houtcomes', hkind,
    hmessage⟩

/-- The policy decides over a success that comes too early, and over nothing else. -/
theorem policy_decides_premature_success (c : Credentials) (config : Config) (e : Entropy)
    (inputs : List Input) :
    let trusting := run c { config with successPolicy := .trustServer } e
    let strict := run c { config with successPolicy := .strict } e
    (trusting inputs).stanzas = (strict inputs).stanzas ∧
      ((∀ earlier, earlier <+: inputs → (trusting earlier).Agree (strict earlier)) ∨
        ∃ before link after, inputs = before ++ ⟨link, .success⟩ :: after ∧
          (∀ earlier, earlier <+: before → (trusting earlier).Agree (strict earlier)) ∧
          (trusting before).attempt.state.isTerminal = false ∧
          (trusting before).attempt.state ∉ [.simpleAuthSent, .challengeResponseFinalSent] ∧
          ∀ later, Turn.Divided (trusting before).attempt.state
            (trusting (before ++ ⟨link, .success⟩ :: later))
            (strict (before ++ ⟨link, .success⟩ :: later))) ∧
      ((strict inputs).attempt.state = .succeeded →
        (trusting inputs).attempt.state = .succeeded) := by
  intro trusting strict
  have hstart : Together c config e .trustServer .strict [] := ⟨.idle, e, [], .start, .start⟩
  rcases holds_or_breaks hstart together_step inputs with
    htogether | ⟨before, i, after, rfl, htogether, hovertaken⟩
  · have hagree := fun earlier hearlier => agree_of_together (htogether earlier hearlier)
    refine ⟨?_, .inl hagree, ?_⟩
    · obtain ⟨s, e', effects, htrusting, hstrict⟩ := htogether inputs (List.prefix_refl inputs)
      exact (congrArg (·.stanzas) (run_of_reached htrusting)).trans
        (congrArg (·.stanzas) (run_of_reached hstrict)).symm
    · intro hsucceeded
      exact (hagree inputs (List.prefix_refl inputs)).state.trans hsucceeded
  · have hdivided := divided_of_overtaken hovertaken
    obtain ⟨⟨link, rfl⟩, hterminal, hstate, hend, hstanzas⟩ := hdivided after
    refine ⟨hstanzas, .inr ⟨before, link, after, rfl, ?_, hterminal, hstate, ?_⟩, ?_⟩
    · intro earlier hearlier
      exact agree_of_together (htogether earlier hearlier)
    · intro later
      exact (hdivided later).2.2.2.1
    · intro _
      exact hend.succeeded

theorem policy_decides_premature_success_plain :
    let c : Credentials := { username := some "u", password := some "p" }
    let e : Entropy := { answer := fun _ => .error .unsupported }
    let inputs : List Input := [⟨.up, .start ["PLAIN"]⟩, ⟨.up, .success⟩]
    let trusting := run c { successPolicy := .trustServer } e
    let strict := run c { successPolicy := .strict } e
    (trusting inputs).stanzas = (strict inputs).stanzas ∧
      (strict inputs).attempt.state = .succeeded ∧
      (trusting inputs).attempt.state = .succeeded := by
  intro c e inputs trusting strict
  have hsucceeded : (strict inputs).attempt.state = .succeeded := by decide +kernel
  obtain ⟨hstanzas, -, hkept⟩ := policy_decides_premature_success c {} e inputs
  exact ⟨hstanzas, hsucceeded, hkept hsucceeded⟩

end Negotiation

end SaslClient
