import SaslClient.Proofs.Session.Features
/-!
# Handlers are taken back

A session registers a handler for each kind of stanza when it is attached, and takes each of them
back when it is closed. It does so once, whatever happens in between and wherever the attempt
stands at the end, and closing it does nothing else.
-/
namespace SaslClient

inductive Registration
  | made (kind : StanzaKind) (priority : Priority) (id : HandlerId)
  | undone (kind : StanzaKind) (id : HandlerId)
deriving DecidableEq, Repr

def Effect.registration? : Effect → Option Registration
  | registered kind priority id => some (.made kind priority id)
  | unregistered kind id => some (.undone kind id)
  | _ => none

theorem Negotiation.registrations_of_move {c : Credentials} {config : Config} {i : Input}
    {s s' : Stage} {e e' : Entropy} {effects : List Effect}
    (h : Move c config i s e s' e' effects) : effects.filterMap Effect.registration? = [] := by
  cases h with
  | unsupported | lacking | launched | unlaunched =>
    exact Effect.filterMap_of_logged (fun _ _ => rfl) _
  | unreadable | unanswered | undelivered =>
    exact Effect.filterMap_of_logged (fun _ _ => rfl) _
  | _ => rfl

namespace Session

variable (assign : StanzaKind → HandlerId) (c : Credentials) (config : Config) (e : Entropy)

def lifetime (calls : List Call) : List Effect :=
  let served := serve assign c config e calls
  served.effects ++ served.session.close

/-! ## In between -/

theorem handlers_of_handle (link : Link) (kind : StanzaKind) (stanza : Element) (s : Session)
    (e : Entropy) : (s.handle link kind stanza e).session.handlers = s.handlers := by
  rw [handle]
  split_ifs <;> rfl

theorem handlers_of_dispatch (link : Link) (stanza : Element) (s : Session) (e : Entropy) :
    (s.dispatch link stanza e).session.handlers = s.handlers := by
  rw [dispatch]
  cases StanzaKind.ofElement? stanza with
  | none => rfl
  | some kind => exact handlers_of_handle link kind stanza s e

theorem handlers_of_reaction (served : Service) (call : Call) :
    (served.reaction call).session.handlers = served.session.handlers := by
  rw [Service.reaction]
  cases call.arrival with
  | handed kind stanza => exact handlers_of_handle call.link kind stanza _ _
  | dispatched stanza => exact handlers_of_dispatch call.link stanza _ _

theorem registrations_of_reaction (calls : List Call) (call : Call) :
    ((serve assign c config e calls).reaction call).effects.filterMap Effect.registration? =
      [] := by
  obtain ⟨stage, hstage⟩ := exists_stage assign c config e calls
  generalize serve assign c config e calls = served at hstage
  obtain ⟨entries, heffects⟩ := (Service.follows_reaction served call).effects
  rw [heffects, Effect.filterMap_of_logged (fun _ _ => rfl), hstage]
  cases call.event? with
  | none => rfl
  | some event =>
    obtain ⟨stage', e', effects, hhandle, hmove⟩ :=
      Negotiation.handle_moves c config ⟨call.link, event⟩ stage served.entropy
    rw [bare, hhandle]
    exact Negotiation.registrations_of_move hmove

/-! ## From the beginning to the end -/

theorem handlers_serve (calls : List Call) :
    (serve assign c config e calls).session.handlers =
      StanzaKind.all.map fun kind => (kind, assign kind) := by
  induction calls using List.reverseRecOn with
  | nil => rfl
  | append_singleton calls call ih =>
    rw [serve_concat, ← ih]
    exact handlers_of_reaction _ call

theorem registrations_serve (calls : List Call) :
    (serve assign c config e calls).effects.filterMap Effect.registration? =
      StanzaKind.all.map fun kind => .made kind .first (assign kind) := by
  induction calls using List.reverseRecOn with
  | nil => rfl
  | append_singleton calls call ih =>
    rw [serve_concat, Service.take, List.filterMap_append, ih, registrations_of_reaction,
      List.append_nil]

/-- A session registers one handler for each kind of stanza, and takes back each of them with the
identifier that the connection gave it, even if the connection gave one of them twice. No stanza
registers anything or takes anything back, and closing the session neither sends nor reports. -/
theorem handlers_are_taken_back (calls : List Call) :
    (lifetime assign c config e calls).filterMap Effect.registration? =
        [.made .streamFeatures .first (assign .streamFeatures),
          .made .challenge .first (assign .challenge), .made .success .first (assign .success),
          .made .failure .first (assign .failure), .undone .streamFeatures (assign .streamFeatures),
          .undone .challenge (assign .challenge), .undone .success (assign .success),
          .undone .failure (assign .failure)] ∧
      (∀ call, ((serve assign c config e calls).reaction call).effects.filterMap
        Effect.registration? = []) ∧
      (serve assign c config e calls).session.close.filterMap Effect.stanza? = [] ∧
      (serve assign c config e calls).session.close.filterMap Effect.outcome? = [] := by
  have hclose : (serve assign c config e calls).session.close =
      StanzaKind.all.map fun kind => .unregistered kind (assign kind) := by
    rw [close, handlers_serve, List.map_map]
    rfl
  refine ⟨?_, ?_, ?_, ?_⟩
  · rw [lifetime, List.filterMap_append, registrations_serve, hclose]
    rfl
  · intro call
    exact registrations_of_reaction assign c config e calls call
  · rw [hclose]
    rfl
  · rw [hclose]
    rfl

end Session

end SaslClient
