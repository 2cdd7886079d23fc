import SaslClient.Proofs.Negotiation.Outcome
import SaslClient.Proofs.Negotiation.Reached
/-!
# Stanzas that are not delivered

A connection makes a difference to an input only where a stanza is handed to it. If it takes the
stanza the attempt goes on. If it does not, the attempt fails for that, and apart from the stanza
nothing is lost: what was done before is the same, and so are the mechanism and the draws.
-/
namespace SaslClient

/-- The name of a stanza that was handed to the connection, whether or not it was taken. -/
def Effect.handed? : Effect → Option String
  | logged (.sending name) => some name
  | _ => none

theorem Effect.overlooks_handed? : Overlooks handed? := by
  intro entry hentry
  cases hentry <;> rfl

def Turn.handed (t : Turn) : List String :=
  t.effects.filterMap Effect.handed?

/-- What an input comes to that hands over a stanza, where the connection takes it and where for
some reason it does not. -/
structure Turn.CutShort (before taken refused : Turn) (reason : String) : Prop where
  sent : ∃ stanza, taken.stanzas = before.stanzas ++ [stanza] ∧
    taken.handed = before.handed ++ [stanza.name]
  not_terminal : taken.attempt.state.isTerminal = false
  unsent : refused.stanzas = before.stanzas
  failed : refused.attempt.state = .failed
  failure : refused.attempt.failure = some (.transport reason)
  reported : refused.outcomes = [.failed ("transport error: " ++ reason)]
  kind : refused.attempt.kind = taken.attempt.kind
  entropy : refused.entropy = taken.entropy
  effects : ∃ shared stanza pending next,
    taken.effects = shared ++ [.sent stanza, .logged (.transition pending next)] ∧
      refused.effects = shared ++ [.logged (.transition pending .failed),
        .reported (.failed ("transport error: " ++ reason))]

namespace Negotiation

variable {c : Credentials} {config : Config} {e e' e'' : Entropy} {s s' : Stage} {event : Event}
  {inputs : List Input} {effects : List Effect} {reason : String}

private inductive Twin (c : Credentials) (config : Config) (event : Event) (reason : String)
    (s : Stage) (e : Entropy) : Stage → Entropy → List Effect → Prop
  | same {s' : Stage} {e' : Entropy} {effects : List Effect}
      (move : Move c config ⟨.down reason, event⟩ s e s' e' effects)
      (unhanded : effects.filterMap Effect.handed? = []) : Twin c config event reason s e s' e' effects
  | cut {s' : Stage} {e' : Entropy} {shared : List Effect} {stanza : Element} {pending next : State}
      (move : Move c config ⟨.down reason, event⟩ s e
        (.ended s'.kind (some (.transport reason))) e'
        (shared ++ conclusion pending (some (.transport reason))))
      (handed : shared.filterMap Effect.handed? = [stanza.name])
      (unsent : shared.filterMap Effect.stanza? = []) (not_ended : s'.isEnded = false) :
      Twin c config event reason s e s' e'
        (shared ++ [.sent stanza, .logged (.transition pending next)])

private theorem twin_of_launched {offered : List String} {entries : List LogEntry}
    {kind : MechanismKind} {m : Mechanism} {auth : Element}
    (selected : Selection.select offered config.mechanisms = (some kind, entries))
    (created : Mechanism.ofCredentials kind c = .ok m)
    (built : authStanza config kind m.initial.payload = .ok auth) :
    Twin c config (.start offered) reason .idle e (.first m) e
      (entries.map .logged ++
        [.logged (.mechanismChosen kind), .logged (.transition .noMechanism m.pendingState),
          .logged (.sending auth.name), .sent auth,
          .logged (.transition m.pendingState m.initial.next)]) := by
  have hkind : (Stage.first m).kind = some kind := by
    rw [← kind_of_ofCredentials created]
    cases m <;> rfl
  have hlive : (Stage.first m).isEnded = false := by
    cases m <;> rfl
  let steps : List Effect := [.logged (.mechanismChosen kind),
    .logged (.transition .noMechanism m.pendingState), .logged (.sending auth.name)]
  have hmove : Move c config ⟨.down reason, .start offered⟩ .idle e _ e _ :=
    .unlaunched selected created built
  have hassoc (rest : List Effect) :
      entries.map .logged ++ (steps ++ rest) = entries.map .logged ++ steps ++ rest :=
    (List.append_assoc _ _ _).symm
  rw [← hkind] at hmove
  change Move c config _ .idle e _ e (entries.map .logged ++ (steps ++ conclusion _ _)) at hmove
  change Twin c config _ reason .idle e _ e (entries.map .logged ++ (steps ++ [_, _]))
  rw [hassoc] at hmove ⊢
  refine .cut hmove ?_ (Effect.stanzas_of_logged entries steps) hlive
  exact Effect.filterMap_of_remarks Effect.overlooks_handed?
    (Selection.remarks_of_select selected) steps

private theorem twin_of_responded {payload : String} (g : Grounds c payload e) :
    Twin c config (.challenge payload) reason .chosen e (.responseSent g.digest.serverProof)
      e.draw.2
      [.logged (.sending "response"),
        .sent (responseStanza (some (Utf8.bytes (DigestMd5.responseText g.digest)))),
        .logged (.transition .challengeResponsePending .challengeResponseAuthSent)] := by
  let m : Mechanism := .digestMd5 (.ofCredentials c)
  have hanswer : m.respond .challengeResponsePending g.challenge e =
      { mechanism := .digestMd5
          { DigestMd5.ofCredentials c with serverProof := some g.digest.serverProof }
        entropy := e.draw.2
        result := .ok ⟨some (Utf8.bytes (DigestMd5.responseText g.digest)),
          .challengeResponseAuthSent⟩ } := by
    simp only [m, Mechanism.respond, DigestMd5.respond, DigestMd5.respondFirst_of_basis g.basis]
  have hmove : Move c config ⟨.down reason, .challenge payload⟩ .chosen e _ _ _ :=
    .undelivered (m := m) rfl rfl g.read (congrArg (·.result) hanswer)
  rw [Stage.state, hanswer] at hmove
  change Twin c config _ reason _ e _ _ ([.logged (.sending "response")] ++ [_, _])
  exact .cut hmove rfl rfl rfl

private theorem twin_of_proven {payload proof : String} {challenge : Directives}
    (read : readChallenge payload = .ok challenge)
    (shown : challenge.get? "rspauth" = some proof) :
    Twin c config (.challenge payload) reason (.responseSent proof) e .acknowledged e
      [.logged (.sending "response"), .sent (responseStanza none),
        .logged (.transition .challengeResponseAuthSent .challengeResponseFinalSent)] := by
  let m : Mechanism := .digestMd5 { DigestMd5.ofCredentials c with serverProof := some proof }
  have hanswer : m.respond .challengeResponseAuthSent challenge e =
      { mechanism := .digestMd5 (.ofCredentials c), entropy := e
        result := .ok ⟨none, .challengeResponseFinalSent⟩ } := by
    simp only [m, Mechanism.respond, DigestMd5.respond,
      DigestMd5.respondSecond_of_shown (.ofCredentials c) shown]
    rfl
  have hmove : Move c config ⟨.down reason, .challenge payload⟩ (.responseSent proof) e _ _ _ :=
    .undelivered (m := m) rfl rfl read (congrArg (·.result) hanswer)
  rw [Stage.state, hanswer] at hmove
  change Twin c config _ reason _ e _ _ ([.logged (.sending "response")] ++ [_, _])
  exact .cut hmove rfl rfl rfl

private theorem twin_of_move (reason : String)
    (h : Move c config ⟨.up, event⟩ s e s' e' effects) :
    Twin c config event reason s e s' e' effects := by
  have hremarks {entries : List LogEntry} (hentries : ∀ entry ∈ entries, entry.IsRemark)
      (rest : List Effect) := Effect.filterMap_of_remarks Effect.overlooks_handed? hentries rest
  cases h with
  | launched selected created built => exact twin_of_launched selected created built
  | responded g => exact twin_of_responded g
  | proven read shown => exact twin_of_proven read shown
  | relisted not_idle => exact .same (.relisted not_idle) rfl
  | late not_offer => exact .same (.late not_offer) rfl
  | unsupported selected =>
    exact .same (.unsupported selected) (hremarks (Selection.remarks_of_select selected) _)
  | lacking selected refused =>
    exact .same (.lacking selected refused) (hremarks (Selection.remarks_of_select selected) _)
  | early => exact .same .early rfl
  | untimely mechanism unaccepted => exact .same (.untimely mechanism unaccepted) rfl
  | unreadable mechanism accepted unread =>
    exact .same (.unreadable mechanism accepted unread) (hremarks (remarks_of_reading _) _)
  | unanswered mechanism accepted read refused =>
    exact .same (.unanswered mechanism accepted read refused)
      (hremarks (Mechanism.remarks_of_respond _ _ _ _) _)
  | completed not_ended due => exact .same (.completed not_ended due) rfl
  | trusted not_ended premature policy => exact .same (.trusted not_ended premature policy) rfl
  | distrusted not_ended premature policy =>
    exact .same (.distrusted not_ended premature policy) rfl
  | refused not_ended => exact .same (.refused not_ended) rfl

private theorem cutShort_of_moves {shared : List Effect} {stanza : Element} {pending : State}
    (before : Reached c config e inputs s e' effects)
    (move : Move c config ⟨.down reason, event⟩ s e' (.ended s'.kind (some (.transport reason))) e''
      (shared ++ conclusion pending (some (.transport reason))))
    (handed : shared.filterMap Effect.handed? = [stanza.name])
    (unsent : shared.filterMap Effect.stanza? = []) (not_ended : s'.isEnded = false)
    (next : State) :
    Turn.CutShort ⟨s.attempt c config, e', effects⟩
      ⟨s'.attempt c config, e'',
        effects ++ (shared ++ [.sent stanza, .logged (.transition pending next)])⟩
      ⟨(Stage.ended s'.kind (some (.transport reason))).attempt c config, e'',
        effects ++ (shared ++ conclusion pending (some (.transport reason)))⟩ reason := by
  constructor
  case sent =>
    refine ⟨stanza, ?_, ?_⟩
    · simp [Turn.stanzas, unsent, Effect.stanza?]
    · simp [Turn.handed, handed, Effect.handed?]
  case not_terminal => exact (Stage.isTerminal_state s').trans not_ended
  case unsent => simp [Turn.stanzas, unsent, conclusion, Effect.stanza?]
  case failed => rfl
  case failure => rfl
  case reported => exact reports_of_reached (before.step move)
  case kind => rfl
  case entropy => rfl
  case effects =>
    exact ⟨effects ++ shared, stanza, pending, next, (List.append_assoc _ _ _).symm,
      (List.append_assoc _ _ _).symm⟩

/-- A connection that does not take a stanza makes a difference only where one is handed over. Then
the attempt fails for it, only the stanza is lost, and nothing is sent any more. -/
theorem undelivered_stanza_alone_is_lost (c : Credentials) (config : Config) (e : Entropy)
    (inputs : List Input) (event : Event) (reason : String) :
    let before := run c config e inputs
    let taken := run c config e (inputs ++ [⟨.up, event⟩])
    let refused := run c config e (inputs ++ [⟨.down reason, event⟩])
    refused.handed = taken.handed ∧
      (taken.handed = before.handed → refused = taken) ∧
      (taken.handed ≠ before.handed → Turn.CutShort before taken refused reason ∧
        ∀ later, (run c config e (inputs ++ ⟨.down reason, event⟩ :: later)).stanzas =
          before.stanzas) := by
  intro before taken refused
  obtain ⟨s, e', effects, hreached⟩ := reached_run c config e inputs
  obtain ⟨s', e'', more, hmove⟩ := exists_move c config ⟨.up, event⟩ s e'
  have hbefore : before = _ := run_of_reached hreached
  have htaken : taken = _ := run_of_reached (hreached.step hmove)
  cases twin_of_move reason hmove with
  | same move unhanded =>
    have hrefused : refused = _ := run_of_reached (hreached.step move)
    have hhanded : taken.handed = before.handed := by
      rw [htaken, hbefore, Turn.handed, List.filterMap_append, unhanded]
      exact List.append_nil _
    rw [hrefused, ← htaken]
    exact ⟨rfl, fun _ => rfl, fun hne => absurd hhanded hne⟩
  | @cut shared stanza pending next move handed unsent not_ended =>
    have hstep := hreached.step move
    have hrefused : refused = _ := run_of_reached hstep
    have hcut := cutShort_of_moves hreached move handed unsent not_ended next
    rw [← hbefore, ← htaken, ← hrefused] at hcut
    have hsame : refused.handed = taken.handed := by
      rw [hrefused, htaken]
      simp only [Turn.handed, List.filterMap_append]
      rfl
    have hhanded : taken.handed ≠ before.handed := by
      obtain ⟨_, -, hname⟩ := hcut.sent
      rw [hname]
      simp
    refine ⟨hsame, fun heq => absurd heq hhanded, fun _ => ⟨hcut, ?_⟩⟩
    intro later
    obtain ⟨rest, hlater, hstanzas, -⟩ := unmoved_of_ended rfl hstep later
    rw [List.append_cons, run_of_reached hlater, ← hcut.unsent, hrefused]
    simp only [Turn.stanzas, List.filterMap_append, hstanzas, List.append_nil]

theorem undelivered_stanza_alone_is_lost_plain :
    let c : Credentials := { username := some "u", password := some "p" }
    let e : Entropy := { answer := fun _ => .error .unsupported }
    let start : Event := .start ["PLAIN"]
    let before := run c {} e []
    let taken := run c {} e ([] ++ [⟨.up, start⟩])
    let refused := run c {} e ([] ++ [⟨.down "broken", start⟩])
    let challenged := run c {} e ([⟨.up, start⟩] ++ [⟨.up, .challenge ""⟩])
    (taken.handed ≠ before.handed ∧ Turn.CutShort before taken refused "broken" ∧
      (run c {} e ([] ++ ⟨.down "broken", start⟩ :: [⟨.up, start⟩])).stanzas = before.stanzas) ∧
    challenged.handed = (run c {} e [⟨.up, start⟩]).handed ∧
      run c {} e ([⟨.up, start⟩] ++ [⟨.down "broken", .challenge ""⟩]) = challenged := by
  intro c e start before taken refused challenged
  have hhanded : taken.handed ≠ before.handed := by decide +kernel
  have hunhanded : challenged.handed = (run c {} e [⟨.up, start⟩]).handed := by decide +kernel
  have hsending := undelivered_stanza_alone_is_lost c {} e [] start "broken"
  have hchallenge :=
    undelivered_stanza_alone_is_lost c {} e [⟨.up, start⟩] (.challenge "") "broken"
  obtain ⟨-, -, hcut⟩ := hsending
  obtain ⟨hcutShort, hlater⟩ := hcut hhanded
  exact ⟨⟨hhanded, hcutShort, hlater _⟩, hunhanded, hchallenge.2.1 hunhanded⟩

end Negotiation

end SaslClient
