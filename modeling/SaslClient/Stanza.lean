import SaslClient.Fields
/-!
# Stanzas

XML elements as trees of texts and elements, and their written form. A namespace is declared where
it begins to hold, and an element whose namespace has a prefix is written with it. A negotiation
listens to some kinds of them, in a namespace of its own.
-/
namespace SaslClient

structure Tag where
  name : String
  ns : String
  prefixes : Fields := ∅
  attributes : Fields := ∅
deriving DecidableEq

inductive Node
  | text (content : String)
  | element (tag : Tag) (children : List Node)
deriving Inhabited

structure Element where
  tag : Tag
  children : List Node := []

inductive StanzaError
  | endOfDocument
  | invalidPrefix
  | missingNamespace
  | duplicatePrefix
deriving DecidableEq, Repr

def StanzaError.message : StanzaError → String
  | endOfDocument => "the end of the document has been reached prematurely"
  | invalidPrefix => "the prefix is invalid"
  | missingNamespace => "the XML element is missing a namespace"
  | duplicatePrefix => "the prefix is already defined"

namespace Node

/-- A text as it stands between tags. A carriage return would be read as the end of a line. -/
def escapeText (s : String) : String :=
  String.ofList <| s.toList.flatMap fun c =>
    match c with
    | '&' => "&amp;".toList
    | '<' => "&lt;".toList
    | '>' => "&gt;".toList
    | '\r' => "&#xd;".toList
    | c => [c]

theorem escapeText_eq_self {s : String} (h : ∀ c ∈ s.toList, c ∉ ['&', '<', '>', '\r']) :
    escapeText s = s := by
  have hkept : ∀ cs : List Char, (∀ c ∈ cs, c ∉ ['&', '<', '>', '\r']) →
      (escapeText (String.ofList cs)).toList = cs := by
    intro cs
    induction cs with
    | nil => simp [escapeText]
    | cons c cs ih =>
      intro hcs
      obtain ⟨hc, hcs⟩ := List.forall_mem_cons.1 hcs
      simp only [List.mem_cons, List.not_mem_nil, or_false, not_or] at hc
      have hrest := ih hcs
      simp only [escapeText, String.toList_ofList, List.flatMap_cons] at hrest ⊢
      rw [hrest]
      split <;> simp_all
  have := hkept s.toList h
  rwa [String.ofList_toList, String.toList_inj] at this

/-- A text as it stands between quotes of either kind. White space other than U+0020 would be read
as U+0020. -/
def escapeValue (s : String) : String :=
  String.ofList <| s.toList.flatMap fun c =>
    match c with
    | '&' => "&amp;".toList
    | '<' => "&lt;".toList
    | '>' => "&gt;".toList
    | '"' => "&#34;".toList
    | '\'' => "&#39;".toList
    | '\t' => "&#x9;".toList
    | '\n' => "&#xa;".toList
    | '\r' => "&#xd;".toList
    | c => [c]

def boundPrefixes : List (String × String) :=
  [("xml", "http://www.w3.org/XML/1998/namespace"), ("xmlns", "http://www.w3.org/2000/xmlns/")]

structure Scope where
  unprefixed : String := ""
  prefixed : List (String × String) := boundPrefixes

def Scope.enter (scope : Scope) (tag : Tag) : String × String × Scope :=
  let prefixed := tag.prefixes.entries ++ scope.prefixed
  let declared := String.join <| tag.prefixes.entries.map fun (name, ns) =>
    " xmlns:" ++ name ++ "='" ++ escapeValue ns ++ "'"
  if scope.unprefixed = tag.ns then
    (tag.name, declared, ⟨scope.unprefixed, prefixed⟩)
  else
    match prefixed.find? (·.2 = tag.ns) with
    | some (name, _) => (name ++ ":" ++ tag.name, declared, ⟨scope.unprefixed, prefixed⟩)
    | none =>
      (tag.name, " xmlns='" ++ escapeValue tag.ns ++ "'" ++ declared, ⟨tag.ns, prefixed⟩)

def renderAttributes (attributes : Fields) : String :=
  String.join <| attributes.entries.map fun (name, value) =>
    " " ++ name ++ "=\"" ++ escapeValue value ++ "\""

mutual

def render (scope : Scope) : Node → String
  | text content => escapeText content
  | element tag children =>
    let (name, declarations, inner) := scope.enter tag
    let head := "<" ++ name ++ declarations ++ renderAttributes tag.attributes
    if children.isEmpty then head ++ "/>"
    else head ++ ">" ++ renderAll inner children ++ "</" ++ name ++ ">"

def renderAll (scope : Scope) : List Node → String
  | [] => ""
  | node :: rest => render scope node ++ renderAll scope rest

end

end Node

namespace Element

def empty (name ns : String) : Element :=
  ⟨{ name, ns }, []⟩

def name (e : Element) : String :=
  e.tag.name

def ns (e : Element) : String :=
  e.tag.ns

def append (e : Element) (node : Node) : Element :=
  { e with children := e.children ++ [node] }

def withAttribute (e : Element) (name value : String) : Element :=
  { e with tag := { e.tag with attributes := e.tag.attributes.insert name value } }

def declare (e : Element) (name ns : String) : Except StanzaError Element :=
  if (e.tag.prefixes.get? name).isSome then .error .duplicatePrefix
  else .ok { e with tag := { e.tag with prefixes := e.tag.prefixes.insert name ns } }

def text (e : Element) : String :=
  String.join <| e.children.map fun
    | .text content => content
    | .element _ _ => ""

def elements (e : Element) : List Element :=
  e.children.filterMap fun
    | .text _ => none
    | .element tag children => some ⟨tag, children⟩

def toNode (e : Element) : Node :=
  .element e.tag e.children

def render (e : Element) : String :=
  e.toNode.render {}

end Element

/-! ## Stanzas of a negotiation -/

def saslNamespace : String := "urn:ietf:params:xml:ns:xmpp-sasl"

def googleAuthNamespace : String := "http://www.google.com/talk/protocol/auth"

inductive StanzaKind
  | streamFeatures
  | challenge
  | success
  | failure
deriving DecidableEq, Repr

namespace StanzaKind

def all : List StanzaKind :=
  [streamFeatures, challenge, success, failure]

def name : StanzaKind → String
  | streamFeatures => "StreamFeatures"
  | challenge => "Challenge"
  | success => "Success"
  | failure => "Failure"

def elementName : StanzaKind → String
  | streamFeatures => "features"
  | challenge => "challenge"
  | success => "success"
  | failure => "failure"

/-- The kind of a stanza, by its name alone. -/
def ofElement? (stanza : Element) : Option StanzaKind :=
  all.find? (·.elementName = stanza.name)

end StanzaKind

end SaslClient
