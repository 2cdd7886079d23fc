import SaslClient.Proofs.Negotiation.Reached
/-!
# The end of an attempt

The owner of an attempt is told its end once, when it comes and as it came, and nothing moves
afterwards.
-/
namespace SaslClient

/-- The end was reported if it came, and as it came. -/
structure Turn.Accounted (t : Turn) : Prop where
  once : t.outcomes.length =
    if t.attempt.state = .succeeded ∨ t.attempt.state = .failed then 1 else 0
  succeeded_iff : t.attempt.state = .succeeded ↔ t.outcomes = [.authenticated]
  no_failure : t.attempt.state = .succeeded → t.attempt.failure = none
  failed_iff : t.attempt.state = .failed ↔ ∃ reason, t.outcomes = [.failed reason]
  failure : ∀ reason, t.outcomes = [.failed reason] →
    ∃ failure, t.attempt.failure = some failure ∧ reason = failure.message

/-- From one turn to a later one, nothing was sent, drawn or reported, and the attempt stands where
it stood. -/
structure Turn.Unmoved (t u : Turn) : Prop where
  state : u.attempt.state = t.attempt.state
  kind : u.attempt.kind = t.attempt.kind
  failure : u.attempt.failure = t.attempt.failure
  entropy : u.entropy = t.entropy
  stanzas : u.stanzas = t.stanzas
  outcomes : u.outcomes = t.outcomes

namespace Negotiation

variable {c : Credentials} {config : Config} {e e' e'' : Entropy} {s s' : Stage}
  {inputs : List Input} {effects : List Effect}

def Stage.reports : Stage → List Outcome
  | ended _ verdict => [endOutcome verdict]
  | _ => []

private theorem reports_eq_nil (h : s.isEnded = false) : s.reports = [] := by
  cases s with
  | ended kind verdict => cases h
  | _ => rfl

private theorem reports_of_outline (h : Outline s e effects s' e') :
    s.reports ++ effects.filterMap Effect.outcome? = s'.reports := by
  cases h with
  | stays unsent unreported => rw [unreported, List.append_nil]
  | ends not_ended unsent reported =>
    rw [reports_eq_nil not_ended, reported]
    rfl
  | goesOn not_ended still_not unreported =>
    rw [reports_eq_nil not_ended, unreported, reports_eq_nil still_not]
    rfl

theorem reports_of_reached (h : Reached c config e inputs s e' effects) :
    effects.filterMap Effect.outcome? = s.reports := by
  induction h with
  | start => rfl
  | step before move ih =>
    rw [List.filterMap_append, ih]
    exact reports_of_outline (outline_of_move move)

private theorem accounted_of_live {t : Turn} (hsucceeded : t.attempt.state ≠ .succeeded)
    (hfailed : t.attempt.state ≠ .failed) (h : t.outcomes = []) : t.Accounted := by
  refine ⟨?_, ?_, ?_, ?_, ?_⟩ <;> simp [h, hsucceeded, hfailed]

private theorem accounted_of_success {t : Turn} (hstate : t.attempt.state = .succeeded)
    (hfailure : t.attempt.failure = none) (h : t.outcomes = [.authenticated]) :
    t.Accounted := by
  refine ⟨?_, ?_, ?_, ?_, ?_⟩ <;> simp [h, hstate, hfailure]

private theorem accounted_of_failure {t : Turn} {failure : Failure}
    (hstate : t.attempt.state = .failed) (hfailure : t.attempt.failure = some failure)
    (h : t.outcomes = [.failed failure.message]) : t.Accounted := by
  refine ⟨?_, ?_, ?_, ?_, ?_⟩ <;> simp [h, hstate, hfailure]

private theorem accounted_of_reports (h : effects.filterMap Effect.outcome? = s.reports) :
    Turn.Accounted ⟨s.attempt c config, e', effects⟩ := by
  cases s with
  | ended kind verdict =>
    cases verdict with
    | none => exact accounted_of_success rfl rfl h
    | some failure => exact accounted_of_failure rfl rfl h
  | _ => exact accounted_of_live nofun nofun h

theorem unmoved_of_ended {before : List Input} (hs : s.isEnded = true)
    (h : Reached c config e before s e' effects) (after : List Input) :
    ∃ more, Reached c config e (before ++ after) s e' (effects ++ more) ∧
      more.filterMap Effect.stanza? = [] ∧ more.filterMap Effect.outcome? = [] := by
  induction after generalizing before effects with
  | nil =>
    refine ⟨[], ?_, rfl, rfl⟩
    rw [List.append_nil, List.append_nil]
    exact h
  | cons i after ih =>
    obtain ⟨s', e'', more, hmove⟩ := exists_move c config i s e'
    have hstep := h.step hmove
    -- The move out of an ended stage can only stay, so the hypothesis goes on with the same stage.
    cases outline_of_move hmove with
    | stays unsent unreported =>
      obtain ⟨later, hreached, hstanzas, houtcomes⟩ := ih hstep
      refine ⟨more ++ later, ?_, ?_, ?_⟩
      · rw [List.append_cons, ← List.append_assoc]
        exact hreached
      · rw [List.filterMap_append, unsent, hstanzas]
        rfl
      · rw [List.filterMap_append, unreported, houtcomes]
        rfl
    | ends not_ended unsent reported =>
      rw [hs] at not_ended
      cases not_ended
    | goesOn not_ended still_not unreported =>
      rw [hs] at not_ended
      cases not_ended

/-- The end is reported as it came, once, and nothing moves after it. -/
theorem run_reports_end (c : Credentials) (config : Config) (e : Entropy) (inputs : List Input) :
    (run c config e inputs).Accounted ∧
      ((run c config e inputs).attempt.state.isTerminal = true →
        ∀ later, (run c config e inputs).Unmoved (run c config e (inputs ++ later))) := by
  obtain ⟨s, e', effects, hreached⟩ := reached_run c config e inputs
  rw [run_of_reached hreached]
  refine ⟨accounted_of_reports (reports_of_reached hreached), ?_⟩
  intro hterminal later
  have hs : s.isEnded = true := by
    rw [← Stage.isTerminal_state]
    exact hterminal
  obtain ⟨more, hlater, hstanzas, houtcomes⟩ := unmoved_of_ended hs hreached later
  rw [run_of_reached hlater]
  refine ⟨rfl, rfl, rfl, rfl, ?_, ?_⟩
  · simp only [Turn.stanzas, List.filterMap_append, hstanzas, List.append_nil]
  · simp only [Turn.outcomes, List.filterMap_append, houtcomes, List.append_nil]

theorem run_reports_end_trusted :
    let c : Credentials := { username := some "u", password := some "p", server := some "r" }
    let e : Entropy := { answer := fun _ => .ok (Vector.replicate 32 7) }
    let challenge : Input := ⟨.up, .challenge (Base64.encode (Utf8.bytes "nonce=\"n\""))⟩
    let inputs : List Input := [⟨.up, .start ["PLAIN", "DIGEST-MD5"]⟩, challenge, ⟨.up, .success⟩]
    let later : List Input := [challenge, ⟨.up, .failure none⟩]
    let t := run c {} e inputs
    t.attempt.state.isTerminal = true ∧ t.Unmoved (run c {} e (inputs ++ later)) := by
  intro c e challenge inputs later t
  have hterminal : t.attempt.state.isTerminal = true := by decide +kernel
  exact ⟨hterminal, (run_reports_end c {} e inputs).2 hterminal later⟩

end Negotiation

end SaslClient
