import SaslClient.Proofs.Session.Refinement
/-!
# Features with foreign children

The features of a stream have children of many kinds, and those in other namespaces are not meant
for the negotiation. They make no difference, unless one of them is a list of mechanisms and stands
before the list that is meant. Such a list hides the other one, and nothing starts.
-/
namespace SaslClient

/-- Elements of other namespaces stand between nodes, any number of them in any place. -/
inductive Interspersed : List Node → List Node → Prop
  | nil : Interspersed [] []
  | own {nodes more : List Node} (node : Node) (tail : Interspersed nodes more) :
      Interspersed (node :: nodes) (node :: more)
  | foreign {nodes more : List Node} {e : Element} (ns_ne : e.ns ≠ saslNamespace)
      (tail : Interspersed nodes more) : Interspersed nodes (e.toNode :: more)

/-- A stanza that has more children of other namespaces than another one. -/
structure Element.Widened (narrow wide : Element) : Prop where
  tag : wide.tag = narrow.tag
  children : Interspersed narrow.children wide.children

def Element.firstList? (stanza : Element) : Option Element :=
  stanza.elements.find? (·.name = "mechanisms")

/-- A stanza has a list for the negotiation, and in the wider one a foreign list stands before
it. -/
structure Element.Hidden (narrow wide : Element) : Prop where
  listed : ∃ list, narrow.firstList? = some list ∧ list.ns = saslNamespace
  foreign : ∃ list, wide.firstList? = some list ∧ list.ns ≠ saslNamespace

/-- Two reactions that differ in the log alone. -/
structure Reaction.Agree (r q : Reaction) : Prop where
  negotiation : r.session.negotiation = q.session.negotiation
  entropy : r.entropy = q.entropy
  stanzas : r.effects.filterMap Effect.stanza? = q.effects.filterMap Effect.stanza?
  outcomes : r.effects.filterMap Effect.outcome? = q.effects.filterMap Effect.outcome?
  result : r.result = q.result

theorem Reaction.Agree.trans {r q p : Reaction} (h : r.Agree q) (h' : q.Agree p) : r.Agree p where
  negotiation := h.negotiation.trans h'.negotiation
  entropy := h.entropy.trans h'.entropy
  stanzas := h.stanzas.trans h'.stanzas
  outcomes := h.outcomes.trans h'.outcomes
  result := h.result.trans h'.result

theorem Reaction.Agree.symm {r q : Reaction} (h : r.Agree q) : q.Agree r where
  negotiation := h.negotiation.symm
  entropy := h.entropy.symm
  stanzas := h.stanzas.symm
  outcomes := h.outcomes.symm
  result := h.result.symm

namespace Session

open Element (Widened Hidden)
open Negotiation (Stage)

variable {narrow wide : Element} {call call' : Call}

inductive Call.Brings (stanza : Element) : Call → Prop
  | handed {link : Link} : Brings stanza ⟨link, .handed .streamFeatures stanza⟩
  | dispatched {link : Link} (name_eq : stanza.name = "features") :
      Brings stanza ⟨link, .dispatched stanza⟩

/-! ## The first list -/

private theorem firstList?_element (tag inner : Tag) (children nodes : List Node) :
    Element.firstList? ⟨tag, .element inner children :: nodes⟩ =
      if inner.name = "mechanisms" then some ⟨inner, children⟩
      else Element.firstList? ⟨tag, nodes⟩ := by
  have helements : Element.elements ⟨tag, .element inner children :: nodes⟩ =
      ⟨inner, children⟩ :: Element.elements ⟨tag, nodes⟩ :=
    rfl
  rw [Element.firstList?, helements, List.find?_cons]
  by_cases hname : inner.name = "mechanisms" <;> simp [hname, Element.firstList?, Element.name]

private theorem firstList?_of_interspersed {nodes more : List Node} (h : Interspersed nodes more)
    (tag : Tag) :
    Element.firstList? ⟨tag, more⟩ = Element.firstList? ⟨tag, nodes⟩ ∨
      ∃ list, Element.firstList? ⟨tag, more⟩ = some list ∧ list.ns ≠ saslNamespace := by
  -- The first list among the children decides, whichever of the two it belongs to.
  induction h with
  | nil => exact .inl rfl
  | own node tail ih =>
    cases node with
    | text content => exact ih
    | element inner children =>
      rw [firstList?_element, firstList?_element]
      by_cases hname : inner.name = "mechanisms"
      · exact .inl (by rw [if_pos hname, if_pos hname])
      · rwa [if_neg hname, if_neg hname]
  | @foreign nodes more e ns_ne tail ih =>
    obtain ⟨inner, children⟩ := e
    rw [Element.toNode, firstList?_element]
    by_cases hname : inner.name = "mechanisms"
    · exact .inr ⟨⟨inner, children⟩, if_pos hname, ns_ne⟩
    · rwa [if_neg hname]

private theorem offer?_eq (stanza : Element) :
    offer? stanza =
      match stanza.firstList? with
      | none => none
      | some list =>
        if list.ns = saslNamespace then some ((list.elements.map (·.text)).filter (· ≠ ""))
        else none :=
  rfl

/-- Foreign children that hide nothing leave the offer as it is. -/
theorem offer?_of_widened (h : Widened narrow wide) (not_hidden : ¬Hidden narrow wide) :
    offer? wide = offer? narrow := by
  obtain ⟨tag, nodes⟩ := narrow
  obtain ⟨tag', more⟩ := wide
  obtain ⟨rfl, hchildren⟩ := h
  rcases firstList?_of_interspersed hchildren tag' with hsame | ⟨list, hlist, hns⟩
  · rw [offer?_eq, offer?_eq, hsame]
  · rw [offer?_eq, offer?_eq, hlist]
    cases hown : Element.firstList? ⟨tag', nodes⟩ with
    | none => exact if_neg hns
    | some own =>
      have hother : own.ns ≠ saslNamespace := by
        intro hown_ns
        exact not_hidden ⟨⟨own, hown, hown_ns⟩, list, hlist, hns⟩
      simp only [if_neg hns, if_neg hother]

theorem offer?_of_hidden (h : Hidden narrow wide) :
    offer? wide = none ∧ ∃ offered, offer? narrow = some offered := by
  obtain ⟨⟨own, hown, hown_ns⟩, list, hlist, hns⟩ := h
  rw [offer?_eq, offer?_eq, hlist, hown]
  exact ⟨if_neg hns, _, if_pos hown_ns⟩

/-! ## Calls -/

theorem Call.event?_of_brings (h : call.Brings narrow) :
    call.event? = (offer? narrow).map .start := by
  cases h with
  | handed => rfl
  | dispatched name_eq =>
    simp only [Call.event?, name_eq]
    rfl

private theorem agree_of_event? (served : Service) (hlink : call'.link = call.link)
    (hevent : call'.event? = call.event?) :
    (served.reaction call').Agree (served.reaction call) := by
  obtain ⟨hnegotiation, hentropy, ⟨entries, heffects⟩, hresult⟩ :=
    Service.follows_reaction served call
  obtain ⟨hnegotiation', hentropy', ⟨entries', heffects'⟩, hresult'⟩ :=
    Service.follows_reaction served call'
  rw [hlink, hevent] at hnegotiation' hentropy' heffects'
  rw [hevent] at hresult'
  refine ⟨by rw [hnegotiation, hnegotiation'], by rw [hentropy, hentropy'], ?_, ?_, ?_⟩
  · rw [heffects, heffects', Effect.stanzas_of_logged, Effect.stanzas_of_logged]
  · rw [heffects, heffects', Effect.outcomes_of_logged, Effect.outcomes_of_logged]
  · rw [hresult, hresult']

def Service.untouched (served : Service) : Reaction :=
  { session := served.session, entropy := served.entropy, effects := [],
    result := .allowMoreHandlers }

private theorem agree_untouched {served : Service} (entries : List LogEntry)
    (hbare : bare call.link call.event? served.session.negotiation served.entropy =
      ⟨served.session.negotiation, served.entropy, entries.map .logged⟩)
    (hresult : call.result = .allowMoreHandlers) :
    (served.reaction call).Agree served.untouched := by
  obtain ⟨hnegotiation, hentropy, ⟨more, heffects⟩, hresult'⟩ :=
    Service.follows_reaction served call
  rw [hbare] at hnegotiation hentropy heffects
  have hunsent := Effect.stanzas_of_logged entries []
  have hunreported := Effect.outcomes_of_logged entries []
  rw [List.append_nil] at hunsent hunreported
  refine ⟨hnegotiation, hentropy, ?_, ?_, hresult'.trans hresult⟩
  · rw [heffects, Effect.stanzas_of_logged, hunsent]
    rfl
  · rw [heffects, Effect.outcomes_of_logged, hunreported]
    rfl

private theorem agree_of_no_event (served : Service) (h : call.event? = none) :
    (served.reaction call).Agree served.untouched := by
  apply agree_untouched []
  · rw [h]
    rfl
  · rw [Call.result, h]
    rfl

private theorem agree_of_later_offer {served : Service} {offered : List String}
    (h : call.event? = some (.start offered))
    (hstate : served.session.negotiation.state ≠ .noMechanism) :
    (served.reaction call).Agree served.untouched := by
  apply agree_untouched [.listIgnored served.session.negotiation.state]
  · rw [h]
    exact if_pos hstate
  · rw [Call.result, h]
    rfl

private theorem state_of_start (c : Credentials) (config : Config) (e : Entropy) {stage : Stage}
    (hidle : stage.state = .noMechanism) (link : Link) (offered : List String) :
    (bare link (some (.start offered)) (stage.attempt c config) e).attempt.state ≠
      .noMechanism := by
  obtain rfl := Stage.eq_idle hidle
  obtain ⟨stage', e', effects, hhandle, hmove⟩ :=
    Negotiation.handle_moves c config ⟨link, .start offered⟩ .idle e
  rw [bare, hhandle, Stage.attempt_state]
  cases hmove with
  | relisted not_idle => exact absurd rfl not_idle
  | @launched _ _ _ m => cases m <;> simp [Stage.first, Stage.state]
  | _ => simp [Stage.state, Negotiation.endState]

theorem exists_stage (assign : StanzaKind → HandlerId) (c : Credentials) (config : Config)
    (e : Entropy) (calls : List Call) :
    ∃ stage : Stage,
      (serve assign c config e calls).session.negotiation = stage.attempt c config := by
  obtain ⟨stage, e', effects, hreached⟩ :=
    Negotiation.reached_run c config e (calls.filterMap Call.input?)
  have hmirrors := mirrors_serve assign c config e calls
  rw [Negotiation.run_of_reached hreached] at hmirrors
  exact ⟨stage, hmirrors.negotiation⟩

/-- Foreign children of features make no difference, unless they hide the list from an attempt that
has no mechanism. Features with a hidden list have no effect at all. -/
theorem foreign_children_hide_or_make_no_difference (assign : StanzaKind → HandlerId)
    (c : Credentials) (config : Config) (e : Entropy) (calls : List Call)
    (hwide : Widened narrow wide) (brings : call.Brings narrow) (brings' : call'.Brings wide)
    (hlink : call'.link = call.link) :
    let served := serve assign c config e calls
    ((served.reaction call').Agree (served.reaction call) ↔
        ¬(Hidden narrow wide ∧ served.session.negotiation.state = .noMechanism)) ∧
      (Hidden narrow wide → (served.reaction call').Agree served.untouched) := by
  intro served
  have hevent := Call.event?_of_brings brings
  have hevent' := Call.event?_of_brings brings'
  have huntouched (hhidden : Hidden narrow wide) :
      (served.reaction call').Agree served.untouched := by
    apply agree_of_no_event
    rw [hevent', (offer?_of_hidden hhidden).1]
    rfl
  refine ⟨⟨?_, ?_⟩, huntouched⟩
  · rintro hagree ⟨hhidden, hidle⟩
    obtain ⟨-, offered, hoffer⟩ := offer?_of_hidden hhidden
    obtain ⟨stage, hstage⟩ := exists_stage assign c config e calls
    have hfollows := (Service.follows_reaction served call).negotiation
    rw [hevent, hoffer, Option.map_some, hstage] at hfollows
    have hstill : (served.reaction call).session.negotiation = served.session.negotiation :=
      (hagree.symm.trans (huntouched hhidden)).negotiation
    rw [hstage] at hidle hstill
    have hleft := state_of_start c config served.entropy hidle call.link offered
    rw [← hfollows, hstill] at hleft
    exact hleft hidle
  · intro hnot
    by_cases hhidden : Hidden narrow wide
    · obtain ⟨-, offered, hoffer⟩ := offer?_of_hidden hhidden
      rw [hoffer] at hevent
      have hstate : served.session.negotiation.state ≠ .noMechanism := fun h => hnot ⟨hhidden, h⟩
      exact (huntouched hhidden).trans (agree_of_later_offer hevent hstate).symm
    · apply agree_of_event? served hlink
      rw [hevent, hevent', offer?_of_widened hwide hhidden]

theorem foreign_children_make_no_difference_behind :
    let meant : Element := ⟨{ name := "mechanisms", ns := saslNamespace }, []⟩
    let other : Element := .empty "mechanisms" "urn:example:other"
    let tag : Tag := { name := "features", ns := "http://etherx.jabber.org/streams" }
    let narrow : Element := ⟨tag, [meant.toNode]⟩
    let wide : Element := ⟨tag, [meant.toNode, other.toNode]⟩
    let call : Call := ⟨.up, .dispatched narrow⟩
    let call' : Call := ⟨.up, .dispatched wide⟩
    let served := serve (fun _ => 0) {} {} { answer := fun _ => .error .unsupported } []
    Widened narrow wide ∧ call.Brings narrow ∧ call'.Brings wide ∧ call'.link = call.link ∧
      (served.reaction call').Agree (served.reaction call) := by
  intro meant other tag narrow wide call call' served
  have hforeign : other.ns ≠ saslNamespace := by decide
  have hwide : Widened narrow wide := ⟨rfl, .own _ (.foreign hforeign .nil)⟩
  have hshown : ¬Hidden narrow wide := by
    rintro ⟨-, list, hlist, hns⟩
    obtain rfl : meant = list := Option.some.inj hlist
    exact hns rfl
  have brings : call.Brings narrow := .dispatched rfl
  have brings' : call'.Brings wide := .dispatched rfl
  have hagree := foreign_children_hide_or_make_no_difference (fun _ => 0) {} {}
    { answer := fun _ => .error .unsupported } [] hwide brings brings' rfl
  exact ⟨hwide, brings, brings', rfl, hagree.1.2 fun h => hshown h.1⟩

/-- A foreign list in front of the one that is meant keeps an attempt from its start. -/
theorem foreign_list_hides_offer :
    let meant : Element := ⟨{ name := "mechanisms", ns := saslNamespace },
      [.element { name := "mechanism", ns := saslNamespace } [.text "PLAIN"]]⟩
    let other : Element := .empty "mechanisms" "urn:example:other"
    let tag : Tag := { name := "features", ns := "http://etherx.jabber.org/streams" }
    let narrow : Element := ⟨tag, [meant.toNode]⟩
    let wide : Element := ⟨tag, [other.toNode, meant.toNode]⟩
    let served := serve (fun _ => 0) { username := some "u", password := some "p" } {}
      { answer := fun _ => .error .unsupported } []
    Widened narrow wide ∧
      (served.reaction ⟨.up, .dispatched narrow⟩).session.negotiation.state = .simpleAuthSent ∧
      (served.reaction ⟨.up, .dispatched wide⟩).session.negotiation.state = .noMechanism := by
  intro meant other tag narrow wide served
  have hforeign : other.ns ≠ saslNamespace := by decide
  have hwide : Widened narrow wide := ⟨rfl, .foreign hforeign (.own _ .nil)⟩
  exact ⟨hwide, by decide +kernel, by decide +kernel⟩

end Session

end SaslClient
