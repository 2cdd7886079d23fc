import SaslClient.Proofs.Negotiation.Reached
/-!
# The way of an attempt

An attempt logs each transition from one state to another, and one event can bring several. All of
them together are one path from the beginning to where the attempt is: `run_follows_edges`. Its
edges lead further and further, so no state comes back, apart from the one edge that stays where it
is while the choice of the mechanism is sent.
-/
namespace SaslClient

namespace State

inductive Edge : State → State → Prop
  | choosePlain : Edge .noMechanism .simplePending
  | sendMessage : Edge .simplePending .simpleAuthSent
  | chooseDigestMd5 : Edge .noMechanism .challengeResponsePending
  | sendChoice : Edge .challengeResponsePending .challengeResponsePending
  | respond : Edge .challengeResponsePending .challengeResponseAuthSent
  | acknowledge : Edge .challengeResponseAuthSent .challengeResponseFinalSent
  | fail {s : State} (not_terminal : s.isTerminal = false) : Edge s .failed
  | succeed {s : State} (not_terminal : s.isTerminal = false) (not_pending : s ≠ .simplePending) :
      Edge s .succeeded

inductive Path : State → List (State × State) → State → Prop
  | nil {a : State} : Path a [] a
  | cons {a b z : State} {steps : List (State × State)} (edge : Edge a b) (tail : Path b steps z) :
      Path a ((a, b) :: steps) z

/-- The states along transitions, without those that a transition stays in. -/
def visits (start : State) (steps : List (State × State)) : List State :=
  start :: (steps.filter fun (before, after) => before ≠ after).map (·.2)

def rank : State → Nat
  | noMechanism => 0
  | simplePending | challengeResponsePending => 1
  | simpleAuthSent | challengeResponseAuthSent => 2
  | challengeResponseFinalSent => 3
  | succeeded | failed => 4

variable {a b z : State} {steps more : List (State × State)}

theorem rank_lt_of_not_terminal (h : a.isTerminal = false) : a.rank < 4 := by
  cases a with
  | succeeded | failed => cases h
  | _ => decide

theorem rank_lt_of_edge (h : Edge a b) (hne : a ≠ b) : a.rank < b.rank := by
  cases h with
  | sendChoice => exact absurd rfl hne
  | fail not_terminal => exact rank_lt_of_not_terminal not_terminal
  | succeed not_terminal not_pending => exact rank_lt_of_not_terminal not_terminal
  | _ => decide

theorem not_terminal_of_edge (h : Edge a b) : a.isTerminal = false := by
  cases h with
  | fail not_terminal => exact not_terminal
  | succeed not_terminal not_pending => exact not_terminal
  | _ => rfl

namespace Path

theorem single (h : Edge a b) : Path a [(a, b)] b :=
  .cons h .nil

theorem append (h : Path a steps b) (hmore : Path b more z) : Path a (steps ++ more) z := by
  induction h with
  | nil => exact hmore
  | cons edge tail ih => exact .cons edge (ih hmore)

theorem eq_nil_of_noMechanism (h : Path a steps z) (hz : z = .noMechanism) :
    a = .noMechanism ∧ steps = [] := by
  induction h with
  | nil => exact ⟨hz, rfl⟩
  | cons edge tail ih =>
    obtain ⟨rfl, -⟩ := ih hz
    cases edge

theorem not_terminal (h : Path a steps z) : ∀ step ∈ steps, step.1.isTerminal = false := by
  induction h with
  | nil => exact List.forall_mem_nil _
  | cons edge tail ih => exact List.forall_mem_cons.2 ⟨not_terminal_of_edge edge, ih⟩

theorem pairwise_rank (h : Path a steps z) :
    (visits a steps).Pairwise fun before after => before.rank < after.rank := by
  induction h with
  | nil => exact List.pairwise_singleton _ _
  | @cons a b z steps edge tail ih =>
    by_cases heq : a = b
    · have hstays : visits a ((a, b) :: steps) = visits b steps := by
        simp [visits, heq]
      rw [hstays]
      exact ih
    · have hgoes : visits a ((a, b) :: steps) = a :: visits b steps := by
        simp [visits, heq]
      have hlt := rank_lt_of_edge edge heq
      have hlater := (List.pairwise_cons.1 ih).1
      rw [hgoes]
      refine List.pairwise_cons.2 ⟨List.forall_mem_cons.2 ⟨hlt, ?_⟩, ih⟩
      intro s hs
      exact Nat.lt_trans hlt (hlater s hs)

theorem nodup_visits (h : Path a steps z) : (visits a steps).Nodup := by
  apply List.Pairwise.imp _ h.pairwise_rank
  intro before after hlt heq
  exact Nat.lt_irrefl _ (heq ▸ hlt)

end Path

end State

namespace Effect

def transition? : Effect → Option (State × State)
  | logged (.transition before after) => some (before, after)
  | _ => none

theorem overlooks_transition? : Overlooks transition? := by
  intro entry hentry
  cases hentry <;> rfl

theorem mem_transitions_iff {effects : List Effect} {before after : State} :
    (before, after) ∈ effects.filterMap transition? ↔
      .logged (.transition before after) ∈ effects := by
  rw [List.mem_filterMap]
  constructor
  · rintro ⟨effect, hmem, heffect⟩
    cases effect with
    | logged entry =>
      cases entry with
      | transition s s' =>
        obtain ⟨rfl, rfl⟩ := Prod.mk.inj (Option.some.inj heffect)
        exact hmem
      | _ => cases heffect
    | _ => cases heffect
  · intro hmem
    exact ⟨_, hmem, rfl⟩

def stay : Effect :=
  .logged (.transition .challengeResponsePending .challengeResponsePending)

end Effect

def Turn.transitions (t : Turn) : List (State × State) :=
  t.effects.filterMap Effect.transition?

/-- The transitions are a path from the beginning to where the attempt is, which leads nowhere twice
and stays once, when the choice of the mechanism was sent. -/
structure Turn.Directed (t : Turn) : Prop where
  path : State.Path .noMechanism t.transitions t.attempt.state
  not_terminal : ∀ step ∈ t.transitions, step.1.isTerminal = false
  nodup : (State.visits .noMechanism t.transitions).Nodup
  stay : .stay ∉ t.effects ∨
    ∃ before auth after, t.effects = before ++ .sent auth :: .stay :: after ∧
      auth.name = "auth" ∧ .stay ∉ before ∧ .stay ∉ after

namespace Negotiation

variable {c : Credentials} {config : Config} {e e' e'' : Entropy} {s s' : Stage} {i : Input}
  {inputs : List Input} {effects : List Effect}

private inductive Trail : Stage → Stage → List (State × State) → Prop
  | stays {s : Stage} : Trail s s []
  | ends {s : Stage} {kind : Option MechanismKind} {verdict : Option Failure}
      (not_ended : s.isEnded = false) :
      Trail s (.ended kind verdict) [(s.state, endState verdict)]
  | launched (m : Mechanism) :
      Trail .idle (.first m) [(.noMechanism, m.pendingState), (m.pendingState, m.initial.next)]
  | unlaunched (m : Mechanism) {kind : Option MechanismKind} {failure : Failure} :
      Trail .idle (.ended kind (some failure))
        [(.noMechanism, m.pendingState), (m.pendingState, .failed)]
  | responded {proof : String} :
      Trail .chosen (.responseSent proof) [(.challengeResponsePending, .challengeResponseAuthSent)]
  | proven {proof : String} :
      Trail (.responseSent proof) .acknowledged
        [(.challengeResponseAuthSent, .challengeResponseFinalSent)]

private theorem trail_of_move (h : Move c config i s e s' e' effects) :
    Trail s s' (effects.filterMap Effect.transition?) := by
  have hremarks {entries : List LogEntry} (hentries : ∀ entry ∈ entries, entry.IsRemark)
      (rest : List Effect) := Effect.filterMap_of_remarks Effect.overlooks_transition? hentries rest
  cases h with
  | relisted not_idle => exact .stays
  | late not_offer => exact .stays
  | unsupported selected =>
    rw [hremarks (Selection.remarks_of_select selected)]
    exact .ends (s := .idle) rfl
  | lacking selected refused =>
    rw [hremarks (Selection.remarks_of_select selected)]
    exact .ends (s := .idle) rfl
  | launched selected created built =>
    rw [hremarks (Selection.remarks_of_select selected)]
    exact .launched _
  | unlaunched selected created built =>
    rw [hremarks (Selection.remarks_of_select selected)]
    exact .unlaunched _
  | early => exact .ends (s := .idle) rfl
  | untimely mechanism unaccepted => exact .ends (Stage.not_isEnded mechanism)
  | unreadable mechanism accepted unread =>
    rw [hremarks (remarks_of_reading _)]
    exact .ends (Stage.not_isEnded mechanism)
  | unanswered mechanism accepted read refused =>
    rw [hremarks (Mechanism.remarks_of_respond _ _ _ _)]
    exact .ends (Stage.not_isEnded mechanism)
  | undelivered mechanism accepted read answered =>
    rw [hremarks (Mechanism.remarks_of_respond _ _ _ _)]
    exact .ends (Stage.not_isEnded mechanism)
  | responded g => exact .responded
  | proven read shown => exact .proven
  | completed not_ended due => exact .ends not_ended
  | trusted not_ended premature policy => exact .ends not_ended
  | distrusted not_ended premature policy => exact .ends not_ended
  | refused not_ended => exact .ends not_ended

private theorem edge_of_end (h : s.isEnded = false) (verdict : Option Failure) :
    State.Edge s.state (endState verdict) := by
  have hterminal : s.state.isTerminal = false := (Stage.isTerminal_state s).trans h
  cases verdict with
  | some failure => exact .fail hterminal
  | none =>
    apply State.Edge.succeed hterminal
    cases s with
    | ended kind verdict => cases h
    | _ => exact nofun

private theorem path_of_trail {steps : List (State × State)} (h : Trail s s' steps) :
    State.Path s.state steps s'.state := by
  cases h with
  | stays => exact .nil
  | ends not_ended => exact .single (edge_of_end not_ended _)
  | launched m =>
    cases m with
    | plain m => exact .cons .choosePlain (.single .sendMessage)
    | digestMd5 d => exact .cons .chooseDigestMd5 (.single .sendChoice)
  | unlaunched m =>
    cases m with
    | plain m => exact .cons .choosePlain (.single (.fail rfl))
    | digestMd5 d => exact .cons .chooseDigestMd5 (.single (.fail rfl))
  | responded => exact .single .respond
  | proven => exact .single .acknowledge

private theorem not_stay_of_trail {steps : List (State × State)} (h : Trail s s' steps)
    (hchosen : s' = .chosen → s = .chosen) :
    (.challengeResponsePending, .challengeResponsePending) ∉ steps := by
  cases h with
  | @ends _ _ verdict not_ended => cases verdict <;> simp [endState]
  | launched m =>
    cases m with
    | plain m => simp [Mechanism.pendingState, Mechanism.initial, Plain.initial]
    | digestMd5 d => cases hchosen rfl
  | stays | unlaunched | responded | proven => simp

private theorem stay_of_move (h : Move c config i s e s' e' effects) :
    .stay ∉ effects ∨ s = .idle ∧ ∃ before auth,
      effects = before ++ [.sent auth, .stay] ∧ auth.name = "auth" ∧ .stay ∉ before := by
  have hgoes (hchosen : s' = .chosen → s = .chosen) : .stay ∉ effects := by
    intro hstay
    exact not_stay_of_trail (trail_of_move h) hchosen (Effect.mem_transitions_iff.2 hstay)
  cases h with
  | relisted not_idle => exact .inl (hgoes id)
  | @launched _ entries kind m auth _ selected created built =>
    cases m with
    | plain m => exact .inl (hgoes nofun)
    | digestMd5 d =>
      refine .inr ⟨rfl, entries.map .logged ++ [.logged (.mechanismChosen kind),
        .logged (.transition .noMechanism .challengeResponsePending),
        .logged (.sending auth.name)], auth, ?_, ?_, ?_⟩
      · rw [List.append_assoc]
        rfl
      · rw [authStanza_eq] at built
        obtain rfl := Except.ok.inj built
        exact name_choiceTag config _
      · intro hstay
        have hsteps := Effect.mem_transitions_iff.2 hstay
        rw [Effect.filterMap_of_remarks Effect.overlooks_transition?
          (Selection.remarks_of_select selected)] at hsteps
        simp [Effect.transition?] at hsteps
  | _ => exact .inl (hgoes nofun)

theorem path_of_reached (h : Reached c config e inputs s e' effects) :
    State.Path .noMechanism (effects.filterMap Effect.transition?) s.state := by
  induction h with
  | start => exact .nil
  | step before move ih =>
    rw [List.filterMap_append]
    exact ih.append (path_of_trail (trail_of_move move))

private theorem not_stay_of_idle (h : Reached c config e inputs .idle e' effects) :
    .stay ∉ effects := by
  intro hstay
  have hsteps := Effect.mem_transitions_iff.2 hstay
  rw [((path_of_reached h).eq_nil_of_noMechanism rfl).2] at hsteps
  cases hsteps

private theorem stay_of_reached (h : Reached c config e inputs s e' effects) :
    .stay ∉ effects ∨ ∃ before auth after, effects = before ++ .sent auth :: .stay :: after ∧
      auth.name = "auth" ∧ .stay ∉ before ∧ .stay ∉ after := by
  induction h with
  | start => exact .inl List.not_mem_nil
  | @step inputs i s s' e' e'' effects more before move ih =>
    rcases stay_of_move move with hmore | ⟨rfl, earlier, auth, rfl, hname, hearlier⟩
    · rcases ih with heffects | ⟨front, auth, rest, rfl, hname, hfront, hrest⟩
      · exact .inl fun hstay => (List.mem_append.1 hstay).elim heffects hmore
      · refine .inr ⟨front, auth, rest ++ more, by simp, hname, hfront, ?_⟩
        exact fun hstay => (List.mem_append.1 hstay).elim hrest hmore
    · have heffects := not_stay_of_idle before
      refine .inr ⟨effects ++ earlier, auth, [], by simp, hname, ?_, List.not_mem_nil⟩
      exact fun hstay => (List.mem_append.1 hstay).elim heffects hearlier

/-- The transitions of a run are one path along the edges, from the beginning to where it is. -/
theorem run_follows_edges (c : Credentials) (config : Config) (e : Entropy)
    (inputs : List Input) : (run c config e inputs).Directed := by
  obtain ⟨s, e', effects, hreached⟩ := reached_run c config e inputs
  have hpath := path_of_reached hreached
  rw [run_of_reached hreached]
  exact ⟨hpath, hpath.not_terminal, hpath.nodup_visits, stay_of_reached hreached⟩

/-- One event takes several edges, and the choice of DIGEST-MD5 is sent over the one that stays. -/
example :
    (run {} {} { answer := fun _ => .error .unsupported }
      [⟨.up, .start ["DIGEST-MD5"]⟩, ⟨.up, .failure none⟩]).transitions =
      [(.noMechanism, .challengeResponsePending),
        (.challengeResponsePending, .challengeResponsePending),
        (.challengeResponsePending, .failed)] := by
  decide +kernel

end Negotiation

end SaslClient
