import Mathlib.Control.Monad.Basic
import SaslClient.Proofs.Directive.Reading
/-!
# White space around directives

White space may stand around each directive of a payload. In front of a name and behind a closing
quote it is passed over. Behind a bare value it is not: such a value goes on to the comma, and the
white space becomes a part of it. So white space makes no difference exactly where each bare value
that counts is followed by a comma or the end: `Directives.parse_join`.
-/
namespace SaslClient.Grammar

/-- A value as it stands in a payload. In quotes there may be more backslashes than needed. -/
inductive Spelling
  | bare (value : List Char)
  | quoted (raw value : List Char)

namespace Spelling

def text : Spelling → List Char
  | bare value => value
  | quoted raw _ => '"' :: raw ++ ['"']

/-- The value with what is written behind it, which only a closing quote keeps out. -/
def valueBefore (after : List Char) : Spelling → List Char
  | bare value => value ++ after
  | quoted _ value => value

inductive Valid : Spelling → Prop
  | bare {value : List Char} (ne_nil : value ≠ []) (no_comma : ',' ∉ value)
      (head : ∀ c ∈ value.head?, c ≠ '"') : Valid (bare value)
  | quoted {raw value : List Char} (escaped : Escaped raw value) (ne_nil : value ≠ []) :
      Valid (quoted raw value)

end Spelling

structure Spaced where
  before : List Char := []
  name : List Char
  spelling : Spelling
  after : List Char := []
  isName : IsName name
  valid : spelling.Valid
  blank_before : ∀ c ∈ before, IsBlank c := by simp
  blank_after : ∀ c ∈ after, IsBlank c := by simp

namespace Spaced

def text (d : Spaced) : List Char :=
  d.before ++ (d.name ++ '=' :: d.spelling.text ++ d.after)

def strip (d : Spaced) : Spaced :=
  { name := d.name, spelling := d.spelling, isName := d.isName, valid := d.valid }

def pair (d : Spaced) : Pair :=
  (d.name, d.spelling.valueBefore d.after)

/-- The directive has white space behind a bare value. -/
def Stretched (d : Spaced) : Prop :=
  d.after ≠ [] ∧ ∃ value, d.spelling = .bare value

theorem pair_strip_eq_iff (d : Spaced) : d.strip.pair = d.pair ↔ ¬d.Stretched := by
  obtain ⟨before, name, spelling, after, isName, valid, blank_before, blank_after⟩ := d
  cases spelling <;> simp [pair, strip, Spelling.valueBefore, Stretched]

end Spaced

def join (ds : List Spaced) : List Char :=
  [','].intercalate (ds.map (·.text))

private theorem comma_not_mem_of_blank {s : List Char} (h : ∀ c ∈ s, IsBlank c) : ',' ∉ s := by
  intro hc
  have hcomma : ¬IsBlank ',' := by
    unfold IsBlank
    decide
  exact hcomma (h ',' hc)

private theorem directive_of_spaced (d : Spaced) :
    Directive (d.name ++ '=' :: d.spelling.text ++ d.after) d.pair := by
  obtain ⟨before, name, spelling, after, isName, valid, blank_before, blank_after⟩ := d
  rw [List.append_assoc, List.cons_append]
  refine .mk isName ?_
  cases valid with
  | @bare value ne_nil no_comma head =>
    have hcomma : ',' ∉ value ++ after := by
      simpa using ⟨no_comma, comma_not_mem_of_blank blank_after⟩
    have hhead : ∀ c ∈ (value ++ after).head?, c ≠ '"' := by
      obtain ⟨a, rest, rfl⟩ := List.exists_cons_of_ne_nil ne_nil
      exact head
    exact .bare (List.append_ne_nil_of_left_ne_nil ne_nil after) hcomma hhead
  | @quoted raw value escaped ne_nil =>
    have htext : (Spelling.quoted raw value).text ++ after = '"' :: raw ++ '"' :: after := by
      simp [Spelling.text]
    rw [htext]
    exact .quoted escaped ne_nil blank_after

theorem payload_join {ds : List Spaced} (hne : ds ≠ []) : Payload (join ds) (ds.map (·.pair)) := by
  induction ds with
  | nil => exact absurd rfl hne
  | cons d ds ih =>
    have hlead : ∀ c ∈ d.before, IsSeparator c := by
      intro c hc
      exact .inr (d.blank_before c hc)
    have hd := directive_of_spaced d
    cases ds with
    | nil => simpa [join, Spaced.text] using Payload.last hlead hd
    | cons e ds =>
      have hrest := Payload.cons hlead hd (ih (by simp))
      simpa [join, Spaced.text] using hrest

private theorem lastValue?_map_pair (name : String) (ds : List Spaced) :
    lastValue? name (ds.map (·.pair)) =
      (ds.reverse.find? (·.name = name.toList)).map fun d => String.ofList d.pair.2 := by
  rw [lastValue?, ← List.map_reverse, List.find?_map, Option.map_map]
  rfl

end SaslClient.Grammar

namespace SaslClient.Directives

open Grammar

private theorem get?_strip_eq_iff (ds : List Spaced) (name : String) :
    (ofPairs (ds.map (·.pair))).get? name = (ofPairs ((ds.map (·.strip)).map (·.pair))).get? name ↔
      ∀ d, ds.reverse.find? (·.name = name.toList) = some d → ¬d.Stretched := by
  have hstrip : (ds.map (·.strip)).reverse.find? (·.name = name.toList) =
      (ds.reverse.find? (·.name = name.toList)).map (·.strip) := by
    rw [← List.map_reverse, List.find?_map]
    rfl
  rw [get?_ofPairs, get?_ofPairs, lastValue?_map_pair, lastValue?_map_pair, hstrip]
  cases ds.reverse.find? (·.name = name.toList) with
  | none => simp
  | some d =>
    have hpair : d.pair.2 = d.strip.pair.2 ↔ d.strip.pair = d.pair :=
      ⟨fun h => Prod.ext rfl h.symm, fun h => congrArg Prod.snd h.symm⟩
    simp [String.ofList_inj, hpair, d.pair_strip_eq_iff]

private theorem ofPairs_strip_eq_iff (ds : List Spaced) :
    ofPairs (ds.map (·.pair)) = ofPairs ((ds.map (·.strip)).map (·.pair)) ↔
      ∀ earlier d later, ds = earlier ++ d :: later → d.Stretched →
        ∃ e ∈ later, e.name = d.name := by
  constructor
  · rintro h earlier d later rfl hd
    by_contra hlast
    have hlater : later.reverse.find? (·.name = d.name) = none := by
      rw [List.find?_eq_none]
      intro e he hname
      exact hlast ⟨e, List.mem_reverse.1 he, of_decide_eq_true hname⟩
    have hfind : (earlier ++ d :: later).reverse.find? (·.name = d.name) = some d := by
      simp [List.find?_append, hlater]
    have hget := (get?_strip_eq_iff (earlier ++ d :: later) (String.ofList d.name)).1 (by rw [h])
    rw [String.toList_ofList] at hget
    exact hget d hfind hd
  · intro h
    apply Fields.ext_get?
    intro name
    rw [get?_strip_eq_iff]
    intro d hfind hd
    obtain ⟨hname, later, earlier, hds, hlater⟩ := List.find?_eq_some_iff_append.1 hfind
    have hsplit : ds = earlier.reverse ++ d :: later.reverse := by
      rw [← ds.reverse_reverse, hds]
      simp
    obtain ⟨e, he, heq⟩ := h _ d _ hsplit hd
    have hother := hlater e (List.mem_reverse.1 he)
    rw [heq, hname] at hother
    cases hother

/-- Directives with white space around them are read, a bare value with the white space behind it.
So it makes no difference exactly where each value that it stretches gives way to a later one. -/
theorem parse_join {ds : List Spaced} (hne : ds ≠ []) :
    parse (Utf8.encode (join ds)) = .ok (ofPairs (ds.map (·.pair))) ∧
      (parse (Utf8.encode (join ds)) = parse (Utf8.encode (join (ds.map (·.strip)))) ↔
        ∀ earlier d later, ds = earlier ++ d :: later → d.Stretched →
          ∃ e ∈ later, e.name = d.name) := by
  have hread {es : List Spaced} (hes : es ≠ []) :
      parse (Utf8.encode (join es)) = .ok (ofPairs (es.map (·.pair))) := by
    rw [parse_encode, parseText_of_payload (payload_join hes)]
    rfl
  refine ⟨hread hne, ?_⟩
  rw [hread hne, hread (by simpa using hne), Except.ok.injEq]
  exact ofPairs_strip_eq_iff ds

theorem parse_join_repeated :
    let bare : Spaced :=
      { name := ['a'], spelling := .bare ['b'], after := [' ', '\t'], isName := by decide
        valid := .bare (by decide) (by decide) (by simp), blank_after := by simp [IsBlank] }
    let quoted : Spaced :=
      { before := ['\n'], name := ['a'], spelling := .quoted ['\\', 'c'] ['c'], after := [' ']
        isName := by decide, valid := .quoted (.escape .nil) (by decide)
        blank_before := by simp [IsBlank], blank_after := by simp [IsBlank] }
    [bare, quoted] ≠ [] ∧
      parse (Utf8.bytes "a=b \t,\na=\"\\c\" ") = parse (Utf8.bytes "a=b,a=\"\\c\"") := by
  intro bare quoted
  have hne : [bare, quoted] ≠ [] := by simp
  refine ⟨hne, (parse_join hne).2.2 ?_⟩
  intro earlier d later hsplit hd
  cases earlier with
  | nil =>
    obtain ⟨rfl, rfl⟩ := List.cons.inj hsplit
    exact ⟨quoted, by simp, rfl⟩
  | cons first earlier =>
    have hlast : quoted = d := by
      cases earlier <;> simp_all
    obtain ⟨-, value, hspelling⟩ := hd
    rw [← hlast] at hspelling
    cases hspelling

/-- White space behind a bare value is read as a part of it. -/
theorem parse_ne_of_blank_behind_value :
    parse (Utf8.bytes "a=b ,c=d") ≠ parse (Utf8.bytes "a=b,c=d") := by
  decide +kernel

end SaslClient.Directives
