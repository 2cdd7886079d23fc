import SaslClient.Directive.Basic
/-!
# The grammar of a payload

What a list of directives looks like, and what it looks like where it breaks off, without a word
about how it is read. `Payload` relates a text to the names and values in it, and `Malformed`
relates a text to the fault of its leftmost broken element; `Escaped` says what a backslash does.
-/
namespace SaslClient.Grammar

open Scan (Fault)

abbrev Pair := List Char × List Char

def IsBlank (c : Char) : Prop :=
  c = ' ' ∨ c = '\t' ∨ c = '\r' ∨ c = '\n'

def IsSeparator (c : Char) : Prop :=
  c = ',' ∨ IsBlank c

instance : DecidablePred IsSeparator := fun c =>
  inferInstanceAs (Decidable (c = ',' ∨ c = ' ' ∨ c = '\t' ∨ c = '\r' ∨ c = '\n'))

/-- A text between quotes, and the value that it stands for. -/
inductive Escaped : List Char → List Char → Prop
  | nil : Escaped [] []
  | plain {c : Char} {raw value : List Char} (not_quote : c ≠ '"') (not_backslash : c ≠ '\\')
      (tail : Escaped raw value) : Escaped (c :: raw) (c :: value)
  | escape {c : Char} {raw value : List Char} (tail : Escaped raw value) :
      Escaped ('\\' :: c :: raw) (c :: value)

/-- No quote closes this text: it ends between characters, or after a backslash that takes none. -/
def Unclosed (s : List Char) : Prop :=
  (∃ value, Escaped s value) ∨ ∃ raw value, Escaped raw value ∧ s = raw ++ ['\\']

structure IsName (name : List Char) : Prop where
  ne_nil : name ≠ []
  no_equals : '=' ∉ name
  head : ∀ c ∈ name.head?, ¬IsSeparator c

theorem isName_cons {c : Char} {rest : List Char} :
    IsName (c :: rest) ↔ '=' ∉ c :: rest ∧ ¬IsSeparator c := by
  refine ⟨fun h => ⟨h.no_equals, h.head c rfl⟩, fun h => ⟨List.cons_ne_nil _ _, h.1, ?_⟩⟩
  rintro _ ⟨⟩
  exact h.2

instance (name : List Char) : Decidable (IsName name) :=
  match name with
  | [] => isFalse fun h => h.ne_nil rfl
  | _ :: _ => decidable_of_iff _ isName_cons.symm

/-- What stands after an equals sign, and the value that it stands for. -/
inductive Value : List Char → List Char → Prop
  | bare {value : List Char} (ne_nil : value ≠ []) (no_comma : ',' ∉ value)
      (head : ∀ c ∈ value.head?, c ≠ '"') : Value value value
  | quoted {raw value blank : List Char} (escaped : Escaped raw value) (ne_nil : value ≠ [])
      (blanks : ∀ c ∈ blank, IsBlank c) : Value ('"' :: raw ++ '"' :: blank) value

inductive Directive : List Char → Pair → Prop
  | mk {name raw value : List Char} (isName : IsName name) (isValue : Value raw value) :
      Directive (name ++ '=' :: raw) (name, value)

/-- Directives with commas between them and separators before each; a comma and more separators may
come last. -/
inductive Payload : List Char → List Pair → Prop
  | last {lead text : List Char} {d : Pair} (leads : ∀ c ∈ lead, IsSeparator c)
      (directive : Directive text d) : Payload (lead ++ text) [d]
  | trailing {lead text trail : List Char} {d : Pair} (leads : ∀ c ∈ lead, IsSeparator c)
      (directive : Directive text d) (trails : ∀ c ∈ trail, IsSeparator c) :
      Payload (lead ++ text ++ ',' :: trail) [d]
  | cons {lead text rest : List Char} {d : Pair} {ds : List Pair}
      (leads : ∀ c ∈ lead, IsSeparator c) (directive : Directive text d)
      (tail : Payload rest ds) : Payload (lead ++ text ++ ',' :: rest) (d :: ds)

theorem Directive.isName_and_ne_nil {text : List Char} {d : Pair} (h : Directive text d) :
    IsName d.1 ∧ d.2 ≠ [] := by
  obtain ⟨isName, isValue⟩ := h
  cases isValue with
  | bare ne_nil no_comma head => exact ⟨isName, ne_nil⟩
  | quoted escaped ne_nil blanks => exact ⟨isName, ne_nil⟩

theorem Payload.ne_nil {s : List Char} {ds : List Pair} (h : Payload s ds) : ds ≠ [] := by
  cases h <;> simp

theorem Payload.isName_and_ne_nil {s : List Char} {ds : List Pair} (h : Payload s ds) :
    ∀ d ∈ ds, IsName d.1 ∧ d.2 ≠ [] := by
  induction h with
  | last leads directive => simpa using directive.isName_and_ne_nil
  | trailing leads directive trails => simpa using directive.isName_and_ne_nil
  | cons leads directive tail ih =>
    exact List.forall_mem_cons.2 ⟨directive.isName_and_ne_nil, ih⟩

def AtBoundary (s : List Char) : Prop :=
  ∀ c ∈ s.head?, c = ','

/-- An element that is no directive, with all that follows it, and its fault. -/
inductive BrokenElement : List Char → Fault (List Char) → Prop
  | emptyName {rest : List Char} : BrokenElement ('=' :: rest) .emptyName
  | missingEquals {name : List Char} (isName : IsName name) :
      BrokenElement name (.missingEquals name)
  | unterminatedQuote {name raw : List Char} (isName : IsName name) (unclosed : Unclosed raw) :
      BrokenElement (name ++ '=' :: '"' :: raw) (.unterminatedQuote name)
  | trailingData {name raw value blank rest : List Char} {c : Char} (isName : IsName name)
      (escaped : Escaped raw value) (blanks : ∀ c ∈ blank, IsBlank c) (not_blank : ¬IsBlank c)
      (not_comma : c ≠ ',') :
      BrokenElement (name ++ '=' :: '"' :: raw ++ '"' :: blank ++ c :: rest) (.trailingData name)
  | emptyBare {name rest : List Char} (isName : IsName name) (boundary : AtBoundary rest) :
      BrokenElement (name ++ '=' :: rest) (.emptyValue name)
  | emptyQuoted {name blank rest : List Char} (isName : IsName name)
      (blanks : ∀ c ∈ blank, IsBlank c) (boundary : AtBoundary rest) :
      BrokenElement (name ++ '=' :: '"' :: '"' :: blank ++ rest) (.emptyValue name)

/-- The leftmost broken element comes after any number of directives. -/
inductive Broken : List Char → Fault (List Char) → Prop
  | here {lead text : List Char} {fault : Fault (List Char)} (leads : ∀ c ∈ lead, IsSeparator c)
      (element : BrokenElement text fault) : Broken (lead ++ text) fault
  | later {lead text rest : List Char} {d : Pair} {fault : Fault (List Char)}
      (leads : ∀ c ∈ lead, IsSeparator c) (directive : Directive text d)
      (tail : Broken rest fault) : Broken (lead ++ text ++ ',' :: rest) fault

inductive Malformed : List Char → Fault (List Char) → Prop
  | empty {s : List Char} (separators : ∀ c ∈ s, IsSeparator c) : Malformed s .emptyName
  | broken {s : List Char} {fault : Fault (List Char)} (broken : Broken s fault) :
      Malformed s fault

def lastValue? (name : String) (ds : List Pair) : Option String :=
  (ds.reverse.find? (·.1 = name.toList)).map fun d => String.ofList d.2

end SaslClient.Grammar
