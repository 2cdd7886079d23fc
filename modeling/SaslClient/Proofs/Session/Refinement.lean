import Mathlib.Data.List.Induction
import SaslClient.Proofs.Negotiation.Frame
import SaslClient.Proofs.Negotiation.Reached
import SaslClient.Session
/-!
# Sessions refine negotiations

A session is an attempt behind a connection. Stanzas of any shape arrive, each handed over as being
of a kind or dispatched by its name, and some of them stand for events. What the session does is
what a bare attempt does on these events, and it consumes just the stanzas that stand for
challenges, success and failure.
-/
namespace SaslClient.Session

inductive Arrival
  | handed (kind : StanzaKind) (stanza : Element)
  | dispatched (stanza : Element)

structure Call where
  link : Link
  arrival : Arrival

def kindNamed? (name : String) : Option StanzaKind :=
  if name = "features" then some .streamFeatures
  else if name = "challenge" then some .challenge
  else if name = "success" then some .success
  else if name = "failure" then some .failure
  else none

/-- The mechanisms on offer in the features of a stream. The first list counts, and an empty name is
no name. -/
def offer? (stanza : Element) : Option (List String) :=
  match stanza.elements.find? (·.name = "mechanisms") with
  | none => none
  | some list =>
    if list.ns = saslNamespace then some ((list.elements.map (·.text)).filter (· ≠ "")) else none

def reason? (stanza : Element) : Option String :=
  match stanza.elements with
  | [] => none
  | first :: _ => if first.text = "" then none else some first.text

def event? (kind : StanzaKind) (stanza : Element) : Option Event :=
  match kind with
  | .streamFeatures => (offer? stanza).map .start
  | .challenge => if stanza.ns = saslNamespace then some (.challenge stanza.text) else none
  | .success => if stanza.ns = saslNamespace then some .success else none
  | .failure => if stanza.ns = saslNamespace then some (.failure (reason? stanza)) else none

def resultFor : Option Event → HandlerResult
  | some (.challenge _) => .removeMessage
  | some .success => .removeMessage
  | some (.failure _) => .removeMessage
  | some (.start _) => .allowMoreHandlers
  | none => .allowMoreHandlers

namespace Call

def event? (call : Call) : Option Event :=
  match call.arrival with
  | .handed kind stanza => Session.event? kind stanza
  | .dispatched stanza => (kindNamed? stanza.name).bind (Session.event? · stanza)

def input? (call : Call) : Option Input :=
  call.event?.map (⟨call.link, ·⟩)

def result (call : Call) : HandlerResult :=
  resultFor call.event?

end Call

/-- A session after calls: the entropy that is left, all that was done, and what became of the
stanzas. -/
structure Service where
  session : Session
  entropy : Entropy
  effects : List Effect
  results : List HandlerResult

namespace Service

def reaction (s : Service) (call : Call) : Reaction :=
  match call.arrival with
  | .handed kind stanza => s.session.handle call.link kind stanza s.entropy
  | .dispatched stanza => s.session.dispatch call.link stanza s.entropy

def take (s : Service) (call : Call) : Service :=
  { session := (s.reaction call).session
    entropy := (s.reaction call).entropy
    effects := s.effects ++ (s.reaction call).effects
    results := s.results ++ [(s.reaction call).result] }

end Service

def serve (assign : StanzaKind → HandlerId) (c : Credentials) (config : Config) (e : Entropy)
    (calls : List Call) : Service :=
  let attached := attach assign c config
  calls.foldl Service.take
    { session := attached.1, entropy := e, effects := attached.2, results := [] }

/-- A session is where a bare attempt is, and it has sent and reported the same. -/
structure Service.Mirrors (s : Service) (t : Turn) : Prop where
  negotiation : s.session.negotiation = t.attempt
  entropy : s.entropy = t.entropy
  stanzas : s.effects.filterMap Effect.stanza? = t.stanzas
  outcomes : s.effects.filterMap Effect.outcome? = t.outcomes

/-! ## One stanza -/

def bare (link : Link) (event : Option Event) (n : Negotiation) (e : Entropy) : Turn :=
  match event with
  | none => { attempt := n, entropy := e }
  | some event => Negotiation.handle link event n e

/-- A reaction is that of a bare attempt, with more in the log. -/
structure Follows (r : Reaction) (t : Turn) (event : Option Event) : Prop where
  negotiation : r.session.negotiation = t.attempt
  entropy : r.entropy = t.entropy
  effects : ∃ entries : List LogEntry, r.effects = entries.map .logged ++ t.effects
  result : r.result = resultFor event

variable {link : Link} {kind : StanzaKind} {stanza : Element} {s : Session} {e : Entropy}

theorem ofElement?_eq (stanza : Element) :
    StanzaKind.ofElement? stanza = kindNamed? stanza.name := by
  simp only [StanzaKind.ofElement?, StanzaKind.all, kindNamed?, List.find?_cons,
    StanzaKind.elementName, List.find?_nil, eq_comm (b := stanza.name)]
  split_ifs <;> simp_all

theorem refusalReason_eq (stanza : Element) : refusalReason stanza = reason? stanza := by
  rw [refusalReason, reason?]
  cases stanza.elements with
  | nil => rfl
  | cons first rest =>
    by_cases hempty : first.text = ""
    · simp [hempty]
    · simp [hempty]

theorem follows_of_features :
    Follows (s.handle link .streamFeatures stanza e)
      (bare link (event? .streamFeatures stanza) s.negotiation e)
      (event? .streamFeatures stanza) := by
  rw [handle, if_pos rfl, features, event?, offer?]
  cases stanza.elements.find? (·.name = "mechanisms") with
  | none => exact ⟨rfl, rfl, ⟨[], rfl⟩, rfl⟩
  | some list =>
    by_cases hns : list.ns = saslNamespace
    · simp only [if_pos hns]
      exact ⟨rfl, rfl, ⟨[], rfl⟩, rfl⟩
    · simp only [if_neg hns]
      exact ⟨rfl, rfl, ⟨[.foreignList], rfl⟩, rfl⟩

theorem follows_of_foreign (hkind : kind ≠ .streamFeatures) (hns : stanza.ns ≠ saslNamespace) :
    Follows (s.handle link kind stanza e) (bare link (event? kind stanza) s.negotiation e)
      (event? kind stanza) := by
  have hevent : event? kind stanza = none := by
    cases kind with
    | streamFeatures => exact absurd rfl hkind
    | _ => exact if_neg hns
  rw [handle, if_neg hkind, if_neg hns, hevent]
  exact ⟨rfl, rfl, ⟨[], rfl⟩, rfl⟩

theorem follows_of_consumed (hkind : kind ≠ .streamFeatures) (hns : stanza.ns = saslNamespace) :
    Follows (s.handle link kind stanza e) (bare link (event? kind stanza) s.negotiation e)
      (event? kind stanza) := by
  rw [handle, if_neg hkind, if_pos hns]
  let t : Turn := { attempt := s.negotiation, entropy := e }
  let before : List Effect := [.logged (.received stanza.name)]
  have follows {event : Event} {u : Turn}
      (hu : u = (Negotiation.handle link event s.negotiation e).precededBy before)
      (hresult : resultFor (some event) = .removeMessage) :
      Follows (s.react u .removeMessage) (bare link (some event) s.negotiation e) (some event) := by
    subst hu
    exact ⟨rfl, rfl, ⟨[.received stanza.name], rfl⟩, hresult.symm⟩
  cases kind with
  | streamFeatures => exact absurd rfl hkind
  | challenge =>
    rw [event?, if_pos hns]
    exact follows (Negotiation.challenge_precededBy (t := t) before link stanza.text) rfl
  | success =>
    rw [event?, if_pos hns]
    exact follows (Negotiation.success_precededBy (t := t) before) rfl
  | failure =>
    rw [event?, if_pos hns, ← refusalReason_eq]
    exact follows (Negotiation.fail_precededBy (t := t) before (refusalReason stanza)) rfl

theorem follows_handle (link : Link) (kind : StanzaKind) (stanza : Element) (s : Session)
    (e : Entropy) :
    Follows (s.handle link kind stanza e) (bare link (event? kind stanza) s.negotiation e)
      (event? kind stanza) := by
  by_cases hkind : kind = .streamFeatures
  · subst hkind
    exact follows_of_features
  by_cases hns : stanza.ns = saslNamespace
  · exact follows_of_consumed hkind hns
  · exact follows_of_foreign hkind hns

theorem follows_dispatch (link : Link) (stanza : Element) (s : Session) (e : Entropy) :
    let event := (kindNamed? stanza.name).bind (event? · stanza)
    Follows (s.dispatch link stanza e) (bare link event s.negotiation e) event := by
  rw [dispatch, ofElement?_eq]
  cases kindNamed? stanza.name with
  | none => exact ⟨rfl, rfl, ⟨[], rfl⟩, rfl⟩
  | some kind => exact follows_handle link kind stanza s e

/-! ## One stanza after the other -/

namespace Service

variable {served : Service} {t : Turn}

theorem follows_reaction (served : Service) (call : Call) :
    Follows (served.reaction call)
      (bare call.link call.event? served.session.negotiation served.entropy) call.event? := by
  rw [reaction, Call.event?]
  cases call.arrival with
  | handed kind stanza => exact follows_handle call.link kind stanza served.session served.entropy
  | dispatched stanza => exact follows_dispatch call.link stanza served.session served.entropy

theorem follow_input? (t : Turn) (call : Call) :
    t.follow call.input?.toList =
      (bare call.link call.event? t.attempt t.entropy).precededBy t.effects := by
  rw [Call.input?]
  cases call.event? with
  | none =>
    rw [bare, Turn.precededBy, List.append_nil]
    rfl
  | some event => rfl

/-- A session stays with the bare attempt, which takes an event if the stanza stands for one. -/
theorem mirrors_take (h : served.Mirrors t) (call : Call) :
    (served.take call).Mirrors (t.follow call.input?.toList) := by
  obtain ⟨hnegotiation, hentropy, ⟨entries, heffects⟩, -⟩ := follows_reaction served call
  rw [h.negotiation, h.entropy] at hnegotiation hentropy heffects
  rw [follow_input?]
  generalize bare call.link call.event? t.attempt t.entropy = u at hnegotiation hentropy heffects
  refine ⟨hnegotiation, hentropy, ?_, ?_⟩
  · have hstanzas := Effect.stanzas_of_logged entries u.effects
    rw [← heffects] at hstanzas
    rw [take, List.filterMap_append, h.stanzas, hstanzas, Turn.stanzas, Turn.stanzas,
      Turn.precededBy, List.filterMap_append]
  · have houtcomes := Effect.outcomes_of_logged entries u.effects
    rw [← heffects] at houtcomes
    rw [take, List.filterMap_append, h.outcomes, houtcomes, Turn.outcomes, Turn.outcomes,
      Turn.precededBy, List.filterMap_append]

theorem results_take (served : Service) (call : Call) :
    (served.take call).results = served.results ++ [call.result] :=
  congrArg (fun result => served.results ++ [result]) (follows_reaction served call).result

end Service

section

variable (assign : StanzaKind → HandlerId) (c : Credentials) (config : Config) (e : Entropy)

theorem serve_concat (calls : List Call) (call : Call) :
    serve assign c config e (calls ++ [call]) = (serve assign c config e calls).take call := by
  rw [serve, serve, List.foldl_append]
  rfl

theorem mirrors_serve (calls : List Call) :
    (serve assign c config e calls).Mirrors
      (Negotiation.run c config e (calls.filterMap Call.input?)) := by
  induction calls using List.reverseRecOn with
  | nil => exact ⟨rfl, rfl, rfl, rfl⟩
  | append_singleton calls call ih =>
    have hlast : [call].filterMap Call.input? = call.input?.toList := by
      cases hinput : call.input? <;> simp [hinput]
    have hnext := Service.mirrors_take ih call
    rw [← Negotiation.run_append] at hnext
    rw [serve_concat, List.filterMap_append, hlast]
    exact hnext

theorem results_serve (calls : List Call) :
    (serve assign c config e calls).results = calls.map Call.result := by
  induction calls using List.reverseRecOn with
  | nil => rfl
  | append_singleton calls call ih =>
    rw [serve_concat, Service.results_take, ih, List.map_append]
    rfl

end

/-- A session does what a bare attempt does on the events that the stanzas stand for. It consumes
challenges, success and failure, whatever the attempt makes of them, and without the stanzas that
stand for nothing it does the same. -/
theorem session_refines_negotiation (assign : StanzaKind → HandlerId) (c : Credentials)
    (config : Config) (e : Entropy) (calls : List Call) :
    let run := Negotiation.run c config e (calls.filterMap Call.input?)
    let translated := calls.filter fun call => call.event?.isSome
    (serve assign c config e calls).Mirrors run ∧
      (serve assign c config e calls).results = calls.map Call.result ∧
      (serve assign c config e translated).Mirrors run ∧
      (serve assign c config e translated).results = translated.map Call.result := by
  intro run translated
  have hsame : translated.filterMap Call.input? = calls.filterMap Call.input? := by
    rw [List.filterMap_filter]
    congr 1
    funext call
    rw [Call.input?]
    cases call.event? <;> rfl
  have htranslated := mirrors_serve assign c config e translated
  rw [hsame] at htranslated
  exact ⟨mirrors_serve assign c config e calls, results_serve assign c config e calls,
    htranslated, results_serve assign c config e translated⟩

end SaslClient.Session
