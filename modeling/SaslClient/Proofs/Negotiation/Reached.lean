import SaslClient.Proofs.Negotiation.Moves
/-!
# Stages that runs reach

A run is a sequence of moves from the idle stage: `reached_run`. What holds at the start and is kept
by each move holds after every run. Before a move takes its steps it may remark on what the server
sent: on mechanisms that are not to be used, on a challenge that cannot be read, on a proof that is
wrong. Whatever looks for other entries in the log passes over remarks:
`Effect.filterMap_of_remarks`.
-/
namespace SaslClient

namespace Effect

theorem filterMap_of_logged {α : Type} {f : Effect → Option α} {entries : List LogEntry}
    (h : ∀ entry ∈ entries, f (.logged entry) = none) (rest : List Effect) :
    (entries.map logged ++ rest).filterMap f = rest.filterMap f := by
  induction entries with
  | nil => rfl
  | cons entry entries ih =>
    obtain ⟨hentry, hentries⟩ := List.forall_mem_cons.1 h
    rw [List.map_cons, List.cons_append, List.filterMap_cons_none hentry]
    exact ih hentries

theorem stanzas_of_logged (entries : List LogEntry) (rest : List Effect) :
    (entries.map logged ++ rest).filterMap stanza? = rest.filterMap stanza? :=
  filterMap_of_logged (fun _ _ => rfl) rest

theorem outcomes_of_logged (entries : List LogEntry) (rest : List Effect) :
    (entries.map logged ++ rest).filterMap outcome? = rest.filterMap outcome? :=
  filterMap_of_logged (fun _ _ => rfl) rest

end Effect

namespace Negotiation

variable {c : Credentials} {config : Config} {e e' : Entropy} {i : Input} {s s' : Stage}
  {effects : List Effect}

/-- A move in outline: it changes nothing, or comes to the end and reports it, or goes on. -/
inductive Outline (s : Stage) (e : Entropy) (effects : List Effect) : Stage → Entropy → Prop
  | stays (unsent : effects.filterMap Effect.stanza? = [])
      (unreported : effects.filterMap Effect.outcome? = []) : Outline s e effects s e
  | ends {kind : Option MechanismKind} {verdict : Option Failure} {e' : Entropy}
      (not_ended : s.isEnded = false) (unsent : effects.filterMap Effect.stanza? = [])
      (reported : effects.filterMap Effect.outcome? = [endOutcome verdict]) :
      Outline s e effects (.ended kind verdict) e'
  | goesOn {s' : Stage} {e' : Entropy} (not_ended : s.isEnded = false)
      (still_not : s'.isEnded = false) (unreported : effects.filterMap Effect.outcome? = []) :
      Outline s e effects s' e'

theorem outline_of_move (h : Move c config i s e s' e' effects) : Outline s e effects s' e' := by
  cases h with
  | relisted not_idle => exact .stays rfl rfl
  | late not_offer => exact .stays rfl rfl
  | unsupported selected =>
    exact .ends rfl (Effect.stanzas_of_logged _ _) (Effect.outcomes_of_logged _ _)
  | lacking selected refused =>
    exact .ends rfl (Effect.stanzas_of_logged _ _) (Effect.outcomes_of_logged _ _)
  | @launched _ _ _ m _ _ selected created built =>
    have hfirst : (Stage.first m).isEnded = false := by
      cases m <;> rfl
    exact .goesOn rfl hfirst (Effect.outcomes_of_logged _ _)
  | unlaunched selected created built =>
    exact .ends rfl (Effect.stanzas_of_logged _ _) (Effect.outcomes_of_logged _ _)
  | early => exact .ends rfl rfl rfl
  | untimely mechanism unaccepted => exact .ends (Stage.not_isEnded mechanism) rfl rfl
  | unreadable mechanism accepted unread =>
    exact .ends (Stage.not_isEnded mechanism) (Effect.stanzas_of_logged _ _)
      (Effect.outcomes_of_logged _ _)
  | unanswered mechanism accepted read refused =>
    exact .ends (Stage.not_isEnded mechanism) (Effect.stanzas_of_logged _ _)
      (Effect.outcomes_of_logged _ _)
  | undelivered mechanism accepted read answered =>
    exact .ends (Stage.not_isEnded mechanism) (Effect.stanzas_of_logged _ _)
      (Effect.outcomes_of_logged _ _)
  | responded g => exact .goesOn rfl rfl rfl
  | proven read shown => exact .goesOn rfl rfl rfl
  | completed not_ended due => exact .ends not_ended rfl rfl
  | trusted not_ended premature policy => exact .ends not_ended rfl rfl
  | distrusted not_ended premature policy => exact .ends not_ended rfl rfl
  | refused not_ended => exact .ends not_ended rfl rfl

theorem eq_of_ended (h : Move c config i s e s' e' effects) (hs : s.isEnded = true) : s' = s := by
  have hnot : s.isEnded ≠ false := by
    rw [hs]
    decide
  cases outline_of_move h with
  | stays unsent unreported => rfl
  | ends not_ended unsent reported => exact absurd not_ended hnot
  | goesOn not_ended still_not unreported => exact absurd not_ended hnot

theorem kind_of_move (h : Move c config i s e s' e' effects) :
    s.kind = none ∨ s'.kind = s.kind := by
  cases h with
  | unsupported | lacking | launched | unlaunched | early => exact .inl rfl
  | _ => exact .inr rfl

inductive Reached (c : Credentials) (config : Config) (e : Entropy) :
    List Input → Stage → Entropy → List Effect → Prop
  | start : Reached c config e [] .idle e []
  | step {inputs : List Input} {i : Input} {s s' : Stage} {e' e'' : Entropy}
      {effects more : List Effect} (before : Reached c config e inputs s e' effects)
      (move : Move c config i s e' s' e'' more) :
      Reached c config e (inputs ++ [i]) s' e'' (effects ++ more)

theorem next_of_move {i : Input} {s s' : Stage} {e' e'' : Entropy}
    {effects more : List Effect} (h : Move c config i s e' s' e'' more) :
    Turn.next ⟨s.attempt c config, e', effects⟩ i =
      ⟨s'.attempt c config, e'', effects ++ more⟩ := by
  rw [Turn.next, handle_of_move h]

theorem run_of_reached {inputs : List Input} {s : Stage} {e' : Entropy} {effects : List Effect}
    (h : Reached c config e inputs s e' effects) :
    run c config e inputs = ⟨s.attempt c config, e', effects⟩ := by
  induction h with
  | start => rfl
  | step before move ih => rw [run_concat, ih, next_of_move move]

/-- What each move keeps is kept by a run, from any stage on. -/
theorem reached_keeps {p : Stage → Prop}
    (hmove : ∀ {i s e s' e' effects}, Move c config i s e s' e' effects → p s → p s')
    {before : List Input} {s : Stage} {e' : Entropy} {effects : List Effect}
    (h : Reached c config e before s e' effects) (hs : p s) (after : List Input) :
    ∃ s' e'' more, Reached c config e (before ++ after) s' e'' more ∧ p s' := by
  induction after generalizing before s e' effects with
  | nil =>
    rw [List.append_nil]
    exact ⟨s, e', effects, h, hs⟩
  | cons i after ih =>
    obtain ⟨s', e'', more, hnext⟩ := exists_move c config i s e'
    rw [List.append_cons]
    exact ih (h.step hnext) (hmove hnext hs)

theorem reached_run (c : Credentials) (config : Config) (e : Entropy) (inputs : List Input) :
    ∃ s e' effects, Reached c config e inputs s e' effects := by
  obtain ⟨s, e', effects, hreached, -⟩ :=
    reached_keeps (p := fun _ => True) (fun _ _ => trivial) .start trivial inputs
  exact ⟨s, e', effects, hreached⟩

theorem kind_of_later {before : List Input} {kind : MechanismKind}
    (h : Reached c config e before s e' effects) (hs : s.kind = some kind) (after : List Input) :
    (run c config e (before ++ after)).attempt.kind = some kind := by
  have hkept {i s e s' e' effects} (hmove : Move c config i s e s' e' effects)
      (hs : s.kind = some kind) : s'.kind = some kind := by
    rcases kind_of_move hmove with hnone | hsame
    · rw [hs] at hnone
      cases hnone
    · rw [hsame, hs]
  obtain ⟨s', e'', more, hlater, hs'⟩ := reached_keeps hkept h hs after
  rw [run_of_reached hlater]
  exact hs'

section

variable {holds : List Input → Prop} {breaks : List Input → Input → Prop}

private theorem holds_or_breaks_from
    (step : ∀ before i, holds before → holds (before ++ [i]) ∨ breaks before i)
    {before : List Input} (hbefore : ∀ earlier, earlier <+: before → holds earlier)
    (after : List Input) :
    (∀ earlier, earlier <+: before ++ after → holds earlier) ∨
      ∃ before' i after', before ++ after = before' ++ i :: after' ∧
        (∀ earlier, earlier <+: before' → holds earlier) ∧ breaks before' i := by
  induction after generalizing before with
  | nil =>
    rw [List.append_nil]
    exact .inl hbefore
  | cons i after ih =>
    rcases step before i (hbefore before (List.prefix_refl before)) with hnext | hbreak
    · rw [List.append_cons]
      apply ih
      intro earlier hearlier
      rcases List.prefix_concat_iff.1 hearlier with rfl | hearlier
      · exact hnext
      · exact hbefore earlier hearlier
    · exact .inr ⟨before, i, after, rfl, hbefore, hbreak⟩

/-- What holds before the first input holds after each of them, or one of them is the first to break
it. -/
theorem holds_or_breaks (start : holds [])
    (step : ∀ before i, holds before → holds (before ++ [i]) ∨ breaks before i)
    (inputs : List Input) :
    (∀ earlier, earlier <+: inputs → holds earlier) ∨
      ∃ before i after, inputs = before ++ i :: after ∧
        (∀ earlier, earlier <+: before → holds earlier) ∧ breaks before i := by
  have hnil : ∀ earlier, earlier <+: [] → holds earlier := by
    intro earlier hearlier
    rw [List.prefix_nil.1 hearlier]
    exact start
  exact holds_or_breaks_from step hnil inputs

end

end Negotiation

/-! ## Remarks -/

inductive LogEntry.IsRemark : LogEntry → Prop
  | mechanismDisabled {kind : MechanismKind} : IsRemark (.mechanismDisabled kind)
  | mechanismUnknown {name : String} : IsRemark (.mechanismUnknown name)
  | invalidChallenge {error : DirectiveError} : IsRemark (.invalidChallenge error)
  | proofMismatch : IsRemark .proofMismatch

namespace Selection

variable {allowed : List MechanismKind}

private theorem remarks_of_consider (best : Option MechanismKind) (name : String) :
    ∀ entry ∈ (consider allowed best name).2, entry.IsRemark := by
  rw [consider]
  split
  next => simpa using .mechanismUnknown
  next kind _ =>
    split
    next => cases best <;> simp
    next => simpa using .mechanismDisabled

private theorem remarks_of_selectFrom (best : Option MechanismKind) (offered : List String) :
    ∀ entry ∈ (selectFrom allowed best offered).2, entry.IsRemark := by
  induction offered generalizing best with
  | nil => exact List.forall_mem_nil _
  | cons name rest ih => exact List.forall_mem_append.2 ⟨remarks_of_consider best name, ih _⟩

theorem remarks_of_select {offered : List String} {best : Option MechanismKind}
    {entries : List LogEntry} (h : select offered allowed = (best, entries)) :
    ∀ entry ∈ entries, entry.IsRemark := by
  have hselect : ∀ entry ∈ (selectFrom allowed none offered).2, entry.IsRemark :=
    remarks_of_selectFrom none offered
  rw [select] at h
  rw [h] at hselect
  exact hselect

end Selection

theorem Negotiation.remarks_of_reading (failure : Failure) :
    ∀ entry ∈ readingLog failure, entry.IsRemark := by
  cases failure with
  | invalidChallenge error => simpa [readingLog] using .invalidChallenge
  | _ => exact List.forall_mem_nil _

theorem Mechanism.remarks_of_respond (m : Mechanism) (state : State) (challenge : Directives)
    (e : Entropy) : ∀ entry ∈ (m.respond state challenge e).log, entry.IsRemark := by
  cases m with
  | plain m => exact List.forall_mem_nil _
  | digestMd5 d =>
    change ∀ entry ∈ (d.respond state challenge e).log, entry.IsRemark
    cases state with
    | challengeResponsePending =>
      have hanswer := d.firstAnswer challenge e
      rw [DigestMd5.respond]
      generalize d.respondFirst challenge e = answer at hanswer
      cases hanswer <;> exact List.forall_mem_nil _
    | challengeResponseAuthSent =>
      have hanswer := d.secondAnswer challenge e
      rw [DigestMd5.respond]
      generalize d.respondSecond challenge e = answer at hanswer
      cases hanswer with
      | mismatched has_rspauth has_proof ne => simpa using .proofMismatch
      | _ => exact List.forall_mem_nil _
    | _ => exact List.forall_mem_nil _

namespace Effect

variable {α : Type} {f : Effect → Option α}

/-- A test that passes over remarks. -/
def Overlooks (f : Effect → Option α) : Prop :=
  ∀ entry : LogEntry, entry.IsRemark → f (.logged entry) = none

theorem filterMap_of_remarks (hf : Overlooks f) {entries : List LogEntry}
    (h : ∀ entry ∈ entries, entry.IsRemark) (rest : List Effect) :
    (entries.map logged ++ rest).filterMap f = rest.filterMap f :=
  filterMap_of_logged (fun entry hentry => hf entry (h entry hentry)) rest

end Effect

end SaslClient
