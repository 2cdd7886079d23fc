import Mathlib.Control.Monad.Basic
import SaslClient.Proofs.Directive.Reading
/-!
# Joining payloads with a comma

A payload that was read is read the same when a comma and more octets follow, and these are read as
they would be alone: `Directives.parse_append_comma`. Only an error that tells a position tells one
further on.
-/
namespace SaslClient.Scan

open Grammar

/-- Behind the comma after a payload the reading goes on. The comma ends the last directive, or it
is one more separator after it. -/
theorem elements_append_comma {s : List Char} {ds : List Pair} (h : Payload s ds)
    (t : List Char) : elements (s ++ ',' :: t) = (elements t).map (ds ++ ·) := by
  induction h with
  | last leads directive =>
    rw [elements_of_directive leads directive (atBoundary_comma t)]
    rfl
  | @trailing lead text trail d leads directive trails =>
    have hcomma : ∀ c ∈ trail ++ [','], IsSeparator c :=
      List.forall_mem_append.2 ⟨trails, by simp [IsSeparator]⟩
    have hrest : trail ++ ',' :: t = trail ++ [','] ++ t := List.append_cons trail ',' t
    rw [List.append_assoc, List.cons_append,
      elements_of_directive leads directive (atBoundary_comma _), hrest]
    rw [List.drop_one, List.tail_cons, elements_separators_append hcomma]
    rfl
  | cons leads directive tail ih =>
    rw [List.append_assoc, List.cons_append,
      elements_of_directive leads directive (atBoundary_comma _)]
    rw [List.drop_one, List.tail_cons, ih]
    cases elements t <;> rfl

end SaslClient.Scan

namespace SaslClient

/-- The same error in a payload that has `n` more octets in front. -/
def DirectiveError.shift (n : Nat) : DirectiveError → DirectiveError
  | invalidUtf8 reason => invalidUtf8 (reason.shift n)
  | malformed fault => malformed fault

namespace Directives

open Grammar

def comma : UInt8 := 0x2C

def separators : List UInt8 := [comma, 0x20, 0x09, 0x0D, 0x0A]

private theorem encode_concat_comma (cs : List Char) (rest : List UInt8) :
    Utf8.encode cs ++ comma :: rest = Utf8.encode (cs ++ [',']) ++ rest := by
  have hcomma : String.utf8EncodeChar ',' = [comma] := by decide
  simp [Utf8.encode, hcomma]

private theorem encode_append_comma (cs ts : List Char) :
    Utf8.encode cs ++ comma :: Utf8.encode ts = Utf8.encode (cs ++ ',' :: ts) := by
  rw [encode_concat_comma, List.append_cons cs ',' ts]
  exact List.flatMap_append.symm

private theorem forall_mem_separators_iff {b : List UInt8} :
    (∀ x ∈ b, x ∈ separators) ↔ ∃ cs, b = Utf8.encode cs ∧ ∀ c ∈ cs, IsSeparator c := by
  have hlist (c : Char) : IsSeparator c ↔ c ∈ [',', ' ', '\t', '\r', '\n'] := by
    simp [IsSeparator, IsBlank]
  constructor
  · intro h
    have hoctet : ∀ x ∈ separators,
        ∃ c ∈ [',', ' ', '\t', '\r', '\n'], String.utf8EncodeChar c = [x] := by
      simp [separators, comma, String.utf8EncodeChar]
    induction b with
    | nil => exact ⟨[], rfl, by simp⟩
    | cons x b ih =>
      obtain ⟨hx, hb⟩ := List.forall_mem_cons.1 h
      obtain ⟨cs, rfl, hcs⟩ := ih hb
      obtain ⟨c, hc, hencode⟩ := hoctet x hx
      refine ⟨c :: cs, ?_, List.forall_mem_cons.2 ⟨(hlist c).2 hc, hcs⟩⟩
      rw [Utf8.encode, Utf8.encode, List.flatMap_cons, hencode]
      rfl
  · rintro ⟨cs, rfl, hcs⟩ x hx
    have hcharacter : ∀ c ∈ [',', ' ', '\t', '\r', '\n'],
        ∀ x ∈ String.utf8EncodeChar c, x ∈ separators := by
      simp [separators, comma, String.utf8EncodeChar]
    obtain ⟨c, hc, hx⟩ := List.mem_flatMap.1 hx
    exact hcharacter c ((hlist c).1 (hcs c hc)) x hx

private theorem parseText_append_comma {cs : List Char} {ds : List Pair} (h : Payload cs ds)
    (ts : List Char) :
    parseText (cs ++ ',' :: ts) =
      match Scan.elements ts with
      | .ok es => .ok (ofPairs (ds ++ es))
      | .error fault => .error (fault.map String.ofList) := by
  obtain ⟨d, ds, rfl⟩ := List.exists_cons_of_ne_nil h.ne_nil
  rw [parseText, Scan.directives, Scan.elements_append_comma h]
  cases Scan.elements ts <;> rfl

private theorem ofPairs_append (ds es : List Pair) :
    ofPairs (ds ++ es) = (ofPairs ds).override (ofPairs es) := by
  apply Fields.ext_get?
  intro name
  rw [Fields.get?_override, get?_ofPairs, get?_ofPairs, get?_ofPairs, lastValue?,
    List.reverse_append, List.find?_append]
  cases hes : es.reverse.find? (·.1 = name.toList) <;> simp [lastValue?, hes]

/-- What was read stays when a comma and more octets follow. Separators add nothing, directives
take the place of those with the same name before them, and what cannot be read is refused for the
same error as alone. -/
theorem parse_append_comma {a : List UInt8} {m : Directives} (ha : parse a = .ok m)
    (b : List UInt8) :
    ((∀ x ∈ b, x ∈ separators) → parse (a ++ comma :: b) = .ok m) ∧
    ((∃ x ∈ b, x ∉ separators) →
      parse (a ++ comma :: b) =
        match parse b with
        | .ok m' => .ok (m.override m')
        | .error error => .error (error.shift (a.length + 1))) := by
  obtain ⟨cs, rfl, -⟩ := parse_eq_ok_iff.1 ha
  obtain ⟨ds, hds, rfl⟩ := parse_encode_eq_ok_iff.1 ha
  constructor
  · intro hb
    obtain ⟨ts, rfl, hts⟩ := forall_mem_separators_iff.1 hb
    rw [encode_append_comma, parse_encode, parseText_append_comma hds,
      Scan.elements_eq_ok_nil_iff.2 hts]
    simp only [List.append_nil]
    rfl
  · intro hb
    cases hdecode : Utf8.decode b with
    | error reason =>
      have hlength : (Utf8.encode (cs ++ [','])).length = (Utf8.encode cs).length + 1 := by
        rw [← List.append_nil (Utf8.encode (cs ++ [','])), ← encode_concat_comma]
        simp
      have hjoined := Utf8.decode_encode_append (cs ++ [',']) b
      rw [hdecode, ← encode_concat_comma, hlength] at hjoined
      rw [parse, hjoined, parse, hdecode]
      rfl
    | ok ts =>
      obtain rfl := Utf8.decode_eq_ok_iff.1 hdecode
      rw [encode_append_comma, parse_encode, parseText_append_comma hds, parse_encode, parseText,
        Scan.directives]
      cases helements : Scan.elements ts with
      | error fault => rfl
      | ok es =>
        cases es with
        | nil =>
          obtain ⟨x, hx, hother⟩ := hb
          have hseparators := Scan.elements_eq_ok_nil_iff.1 helements
          exact absurd (forall_mem_separators_iff.2 ⟨ts, rfl, hseparators⟩ x hx) hother
        | cons e es => exact congrArg Except.ok (ofPairs_append ds (e :: es))

theorem parse_append_comma_nonce :
    let a := Utf8.bytes "nonce=\"a,b\" ,"
    let m := Fields.ofList [("nonce", "a,b")]
    parse a = .ok m ∧
      (parse (a ++ comma :: Utf8.bytes " ,\t") = .ok m) ∧
      (parse (a ++ comma :: Utf8.bytes "nonce=c,x=1") =
        .ok (Fields.ofList [("nonce", "c"), ("x", "1")])) ∧
      parse (a ++ comma :: (Utf8.bytes "x=é" ++ [0xC3])) =
        .error (.invalidUtf8 ⟨18, .truncated⟩) := by
  intro a m
  have ha : parse a = .ok m := by decide +kernel
  have hseparators : ∀ x ∈ Utf8.bytes " ,\t", x ∈ separators :=
    forall_mem_separators_iff.2 ⟨[' ', ',', '\t'], by decide, by simp [IsSeparator, IsBlank]⟩
  have hblank : parse (a ++ comma :: Utf8.bytes " ,\t") = .ok m :=
    (parse_append_comma ha _).1 hseparators
  refine ⟨ha, hblank, ?_, ?_⟩
  · rw [(parse_append_comma ha _).2 (by decide)]
    decide +kernel
  · rw [(parse_append_comma ha _).2 (by decide)]
    decide +kernel

end Directives

end SaslClient
