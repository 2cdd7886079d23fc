import SaslClient.Directive.Basic
import SaslClient.Text.Utf8.RoundTrip
/-!
# Octets and characters of a payload

A payload is scanned as octets, and it is meant as characters. Both readings give the same names,
values and faults, because what the reader looks for is ASCII and occurs in no other character:
`Scan.directives_encode`, and for whole payloads `Directives.parse_encode`.
-/
namespace SaslClient.Scan

open Utf8 (encode_cons encode_eq_nil_iff)

/-- Two tests that mean the same ASCII characters. -/
def Agree (p : UInt8 → Bool) (q : Char → Bool) : Prop :=
  ∀ c, (∃ b, String.utf8EncodeChar c = [b] ∧ p b = q c) ∨
    q c = false ∧ ∃ b bs, String.utf8EncodeChar c = b :: bs ∧ p b = false ∧ ∀ x ∈ bs, p x = false

/-- A test of octets that does to each octet of a character what another does to the character. -/
def Uniform (p : UInt8 → Bool) (q : Char → Bool) : Prop :=
  ∀ c, ∀ b ∈ String.utf8EncodeChar c, p b = q c

theorem Agree.uniform {p : UInt8 → Bool} {q : Char → Bool} (h : Agree p q) : Uniform p q := by
  intro c x hx
  rcases h c with ⟨b, hb, hp⟩ | ⟨hq, b, bs, hb, hp, hbs⟩
  · rw [hb, List.mem_singleton] at hx
    rw [hx, hp]
  · rw [hb] at hx
    rcases List.mem_cons.1 hx with rfl | hx
    · rw [hp, hq]
    · rw [hbs x hx, hq]

theorem Uniform.not {p : UInt8 → Bool} {q : Char → Bool} (h : Uniform p q) :
    Uniform (!p ·) (!q ·) := by
  intro c b hb
  simp only [h c b hb]

private theorem Uniform.octets {p : UInt8 → Bool} {q : Char → Bool} (h : Uniform p q) (c : Char) :
    (q c = true ∧ ∀ b ∈ String.utf8EncodeChar c, p b = true) ∨
      q c = false ∧ ∃ b bs, String.utf8EncodeChar c = b :: bs ∧ p b = false := by
  cases hq : q c with
  | true => exact .inl ⟨rfl, fun b hb => (h c b hb).trans hq⟩
  | false =>
    obtain ⟨b, bs, hb⟩ : ∃ b bs, String.utf8EncodeChar c = b :: bs :=
      List.exists_cons_of_ne_nil String.utf8EncodeChar_ne_nil
    exact .inr ⟨rfl, b, bs, hb, (h c b (hb ▸ List.mem_cons_self)).trans hq⟩

theorem takeWhile_encode {p : UInt8 → Bool} {q : Char → Bool} (h : Uniform p q)
    (cs : List Char) : (Utf8.encode cs).takeWhile p = Utf8.encode (cs.takeWhile q) := by
  induction cs with
  | nil => rfl
  | cons c cs ih =>
    rw [encode_cons]
    rcases h.octets c with ⟨hq, hp⟩ | ⟨hq, b, bs, hb, hp⟩
    · rw [List.takeWhile_append_of_pos hp, ih, List.takeWhile_cons_of_pos hq, encode_cons]
    · rw [hb, List.cons_append, List.takeWhile_cons_of_neg (by simp [hp]),
        List.takeWhile_cons_of_neg (by simp [hq])]
      rfl

theorem dropWhile_encode {p : UInt8 → Bool} {q : Char → Bool} (h : Uniform p q)
    (cs : List Char) : (Utf8.encode cs).dropWhile p = Utf8.encode (cs.dropWhile q) := by
  induction cs with
  | nil => rfl
  | cons c cs ih =>
    rw [encode_cons]
    rcases h.octets c with ⟨hq, hp⟩ | ⟨hq, b, bs, hb, hp⟩
    · rw [List.dropWhile_append_of_pos hp, ih, List.dropWhile_cons_of_pos hq]
    · rw [hb, List.cons_append, List.dropWhile_cons_of_neg (by simp [hp]),
        List.dropWhile_cons_of_neg (by simp [hq]), encode_cons, hb]
      rfl

private theorem unquote_append {x : List UInt8} (hx : ∀ b ∈ x, 0x80 ≤ b.toNat) (s : List UInt8) :
    unquote (x ++ s) = (unquote s).map fun (value, rest) => (x ++ value, rest) := by
  induction x with
  | nil => simp
  | cons b x ih =>
    have hb := hx b List.mem_cons_self
    have hq : isQuote b = false := by
      simp only [isQuote, Symbol.code, beq_eq_false_iff_ne]
      omega
    have hs : isBackslash b = false := by
      simp only [isBackslash, Symbol.code, beq_eq_false_iff_ne]
      omega
    rw [List.cons_append, unquote.eq_def]
    simp only [hq, hs, ih fun b hb => hx b (List.mem_cons_of_mem _ hb), Option.map_map]
    rfl

private theorem agree_of_code {p : UInt8 → Bool} {q : Char → Bool} {r : Nat → Bool}
    (hp : ∀ b, p b = r b.toNat) (hq : ∀ c, q c = r c.toNat) (hr : ∀ n, 0x80 ≤ n → r n = false) :
    Agree p q := by
  intro c
  rcases Utf8.utf8EncodeChar_cases c with ⟨b, hb, hn⟩ | ⟨hc, b, bs, hb, hn, hx⟩
  · exact .inl ⟨b, hb, by rw [hp, hq, hn]⟩
  · refine .inr ⟨by rw [hq, hr _ hc], b, bs, hb, by rw [hp, hr _ hn], fun x hm => ?_⟩
    rw [hp, hr _ (hx x hm)]

private theorem ne_of_ge {n k : Nat} (hk : k < 0x80) (hn : 0x80 ≤ n) : (n == k) = false := by
  rw [beq_eq_false_iff_ne]
  omega

theorem agree_isComma : Agree isComma isComma :=
  agree_of_code (r := (· == 0x2C)) (fun _ => rfl) (fun _ => rfl) fun _ hn =>
    ne_of_ge (by decide) hn

theorem agree_isEquals : Agree isEquals isEquals :=
  agree_of_code (r := (· == 0x3D)) (fun _ => rfl) (fun _ => rfl) fun _ hn =>
    ne_of_ge (by decide) hn

theorem agree_isQuote : Agree isQuote isQuote :=
  agree_of_code (r := (· == 0x22)) (fun _ => rfl) (fun _ => rfl) fun _ hn =>
    ne_of_ge (by decide) hn

theorem agree_isBackslash : Agree isBackslash isBackslash :=
  agree_of_code (r := (· == 0x5C)) (fun _ => rfl) (fun _ => rfl) fun _ hn =>
    ne_of_ge (by decide) hn

theorem agree_isSpace : Agree isSpace isSpace :=
  agree_of_code (r := fun n => n == 0x20 || n == 0x09 || n == 0x0D || n == 0x0A) (fun _ => rfl)
    (fun _ => rfl) fun n hn => by
      simp only [Bool.or_eq_false_iff]
      exact ⟨⟨⟨ne_of_ge (by decide) hn, ne_of_ge (by decide) hn⟩, ne_of_ge (by decide) hn⟩,
        ne_of_ge (by decide) hn⟩

theorem agree_isSeparator : Agree isSeparator isSeparator :=
  agree_of_code
    (r := fun n => n == 0x2C || (n == 0x20 || n == 0x09 || n == 0x0D || n == 0x0A)) (fun _ => rfl)
    (fun _ => rfl) fun n hn => by
      simp only [Bool.or_eq_false_iff]
      exact ⟨ne_of_ge (by decide) hn, ⟨⟨ne_of_ge (by decide) hn, ne_of_ge (by decide) hn⟩,
        ne_of_ge (by decide) hn⟩, ne_of_ge (by decide) hn⟩

theorem Agree.octet {p : UInt8 → Bool} {q : Char → Bool} (h : Agree p q) {c : Char}
    (hc : q c = true) : ∃ b, String.utf8EncodeChar c = [b] ∧ p b = true := by
  rcases h c with ⟨b, hb, hp⟩ | ⟨hq, -⟩
  · exact ⟨b, hb, hp.trans hc⟩
  · simp [hc] at hq

private theorem isQuote_eq_false_of_isBackslash {b : UInt8} (h : isBackslash b = true) :
    isQuote b = false := by
  simp only [isBackslash, Symbol.code, beq_iff_eq] at h
  simp only [isQuote, Symbol.code, h]
  rfl

theorem unquote_encode (cs : List Char) :
    unquote (Utf8.encode cs) =
      (unquote cs).map fun (value, rest) => (Utf8.encode value, Utf8.encode rest) := by
  fun_induction unquote cs with
  | case1 => rfl
  | case2 c cs hc =>
    obtain ⟨b, hb, hq⟩ := agree_isQuote.octet hc
    rw [encode_cons, hb, List.cons_append, unquote.eq_def]
    simp only [hq]
    rfl
  | case3 c hc hs =>
    obtain ⟨b, hb, hs⟩ := agree_isBackslash.octet hs
    rw [encode_cons, hb, List.cons_append, unquote.eq_def]
    simp only [hs, isQuote_eq_false_of_isBackslash hs]
    rfl
  | case4 c hc hs d cs ih =>
    obtain ⟨b, hb, hs⟩ := agree_isBackslash.octet hs
    obtain ⟨x, xs, hx, hxs⟩ : ∃ x xs, String.utf8EncodeChar d = x :: xs ∧
        ∀ y ∈ xs, 0x80 ≤ y.toNat := by
      rcases Utf8.utf8EncodeChar_cases d with ⟨x, hx, -⟩ | ⟨-, x, xs, hx, -, hxs⟩
      · exact ⟨x, [], hx, by simp⟩
      · exact ⟨x, xs, hx, hxs⟩
    rw [encode_cons, hb, encode_cons, hx, List.cons_append, List.nil_append, List.cons_append,
      unquote.eq_def]
    simp only [hs, isQuote_eq_false_of_isBackslash hs, unquote_append hxs, ih, Option.map_map,
      Bool.false_eq_true, ↓reduceIte]
    congr 1
    funext p
    simp [encode_cons, hx]
  | case5 c cs hc hs ih =>
    rcases Utf8.utf8EncodeChar_cases c with ⟨b, hb, hn⟩ | ⟨-, b, bs, hb, hn, hx⟩
    · have hcb : ¬isQuote b = true := by
        simpa only [isQuote, Symbol.code, hn] using hc
      have hsb : ¬isBackslash b = true := by
        simpa only [isBackslash, Symbol.code, hn] using hs
      rw [encode_cons, hb, List.cons_append, List.nil_append, unquote.eq_def]
      simp only [hcb, hsb, ih, Option.map_map, Bool.false_eq_true, ↓reduceIte]
      congr 1
      funext p
      simp [encode_cons, hb]
    · rw [encode_cons, hb, unquote_append (by simpa using ⟨hn, hx⟩), ih, Option.map_map,
        Option.map_map, ← hb]
      rfl

def encodePair (d : List Char × List Char) : List UInt8 × List UInt8 :=
  (Utf8.encode d.1, Utf8.encode d.2)

def encodeResult {ρ σ : Type} (f : ρ → σ) :
    Except (Fault (List Char)) ρ → Except (Fault (List UInt8)) σ
  | .error fault => .error (fault.map Utf8.encode)
  | .ok result => .ok (f result)

private theorem isEmpty_encode (cs : List Char) : (Utf8.encode cs).isEmpty = cs.isEmpty := by
  rw [Bool.eq_iff_iff, List.isEmpty_iff, List.isEmpty_iff, encode_eq_nil_iff]

theorem Agree.head {p : UInt8 → Bool} {q : Char → Bool} (h : Agree p q) (c : Char)
    (cs : List Char) : ∃ b bs, Utf8.encode (c :: cs) = b :: bs ∧ p b = q c ∧
      (q c = true → bs = Utf8.encode cs) := by
  rcases h c with ⟨b, hb, hp⟩ | ⟨hq, b, bs, hb, hp, -⟩
  · exact ⟨b, Utf8.encode cs, by rw [encode_cons, hb]; rfl, hp, fun _ => rfl⟩
  · refine ⟨b, bs ++ Utf8.encode cs, by rw [encode_cons, hb]; rfl, by rw [hp, hq], fun hc => ?_⟩
    simp [hq] at hc

private theorem quotedValue_encode (name cs : List Char) :
    quotedValue (Utf8.encode name) (Utf8.encode cs) =
      encodeResult encodePair (quotedValue name cs) := by
  rw [quotedValue, quotedValue, unquote_encode]
  cases unquote cs with
  | none => rfl
  | some p =>
    obtain ⟨text, after⟩ := p
    simp only [Option.map_some, dropWhile_encode agree_isSpace.uniform]
    cases after.dropWhile isSpace with
    | nil => rfl
    | cons c rest =>
      obtain ⟨b, bs, hb, hc, -⟩ := agree_isComma.head c rest
      simp only [hb, hc]
      cases isComma c
      · rfl
      · simp [encodeResult, encodePair, hb]

private theorem value_encode (name cs : List Char) :
    value (Utf8.encode name) (Utf8.encode cs) = encodeResult encodePair (value name cs) := by
  cases cs with
  | nil => rfl
  | cons c rest =>
    obtain ⟨b, bs, hb, hc, hrest⟩ := agree_isQuote.head c rest
    rw [hb, value, value, hc]
    cases hq : isQuote c
    · simp only [Bool.false_eq_true, ↓reduceIte, bareValue, ← hb,
        takeWhile_encode agree_isComma.uniform.not, dropWhile_encode agree_isComma.uniform.not]
      rfl
    · rw [hrest hq]
      exact quotedValue_encode name rest

private theorem element_encode (cs : List Char) :
    element (Utf8.encode cs) =
      encodeResult (fun (d, rest) => (encodePair d, Utf8.encode rest)) (element cs) := by
  simp only [element, takeWhile_encode agree_isEquals.uniform.not,
    dropWhile_encode agree_isEquals.uniform.not, isEmpty_encode]
  cases (cs.takeWhile (!isEquals ·)).isEmpty with
  | true => rfl
  | false =>
    simp only [Bool.false_eq_true, ↓reduceIte]
    cases hd : cs.dropWhile (!isEquals ·) with
    | nil => rfl
    | cons c rest =>
      have hc : isEquals c = true := by
        have := List.head_dropWhile_not (p := (!isEquals ·)) (l := cs) (by simp [hd])
        simpa [hd] using this
      obtain ⟨b, bs, hb, -, hrest⟩ := agree_isEquals.head c rest
      simp only [hb, hrest hc, value_encode]
      cases value (cs.takeWhile (!isEquals ·)) rest with
      | error fault => cases fault <;> rfl
      | ok p =>
        simp only [encodeResult, encodePair, isEmpty_encode]
        split <;> rfl

def AtComma {α : Type} [Symbol α] (s : List α) : Prop :=
  ∀ a rest, s = a :: rest → isComma a = true

private theorem atComma_nil {α : Type} [Symbol α] : AtComma ([] : List α) := by
  intro a rest h
  simp at h

private theorem atComma_of_quotedValue {α : Type} [Symbol α] {name s v rest : List α}
    (h : quotedValue name s = .ok (v, rest)) : AtComma rest := by
  unfold quotedValue at h
  split at h
  · simp at h
  · split at h
    · simp only [Except.ok.injEq, Prod.mk.injEq] at h
      exact h.2 ▸ atComma_nil
    · split at h
      · next hc =>
        simp only [Except.ok.injEq, Prod.mk.injEq] at h
        intro a r hr
        rw [← h.2, List.cons.injEq] at hr
        exact hr.1 ▸ hc
      · simp at h

theorem atComma_of_value {α : Type} [Symbol α] {name s v rest : List α}
    (h : value name s = .ok (v, rest)) : AtComma rest := by
  cases s with
  | nil =>
    simp only [value, Except.ok.injEq, Prod.mk.injEq] at h
    exact h.2 ▸ atComma_nil
  | cons a s =>
    simp only [value] at h
    split at h
    · exact atComma_of_quotedValue h
    · simp only [bareValue, Except.ok.injEq, Prod.mk.injEq] at h
      intro c r hr
      have := List.head_dropWhile_not (p := (!isComma ·)) (l := a :: s) (by simp [h.2, hr])
      simpa [h.2, hr] using this

private theorem atComma_of_element {α : Type} [Symbol α] {s rest : List α} {d : List α × List α}
    (h : element s = .ok (d, rest)) : AtComma rest := by
  simp only [element] at h
  split at h
  · simp at h
  · split at h
    · simp at h
    · split at h
      · simp at h
      · next hv =>
        split at h
        · simp at h
        · simp only [Except.ok.injEq, Prod.mk.injEq] at h
          exact h.2 ▸ atComma_of_value hv

private theorem drop_one_encode {cs : List Char} (h : AtComma cs) :
    (Utf8.encode cs).drop 1 = Utf8.encode (cs.drop 1) := by
  cases cs with
  | nil => rfl
  | cons c cs =>
    obtain ⟨b, hb, -⟩ := agree_isComma.octet (h c cs rfl)
    rw [encode_cons, hb]
    rfl

private theorem elements_encode (cs : List Char) :
    elements (Utf8.encode cs) = encodeResult (·.map encodePair) (elements cs) := by
  fun_induction elements cs with
  | case1 cs hs =>
    rw [elements_eq, dropWhile_encode agree_isSeparator.uniform, hs]
    rfl
  | case2 cs c rest hs fault he =>
    obtain ⟨b, bs, hb, -⟩ := agree_isComma.head c rest
    rw [elements_eq, dropWhile_encode agree_isSeparator.uniform, hs, hb]
    simp only [← hb, element_encode, he]
    rfl
  | case3 cs c rest hs d after he ih =>
    obtain ⟨b, bs, hb, -⟩ := agree_isComma.head c rest
    rw [elements_eq, dropWhile_encode agree_isSeparator.uniform, hs, hb]
    simp only [← hb, element_encode, he, encodeResult, drop_one_encode (atComma_of_element he), ih]
    cases elements (after.drop 1) <;> rfl

theorem directives_encode (cs : List Char) :
    directives (Utf8.encode cs) = encodeResult (·.map encodePair) (directives cs) := by
  rw [directives, directives, elements_encode]
  rcases elements cs with fault | _ | ⟨d, ds⟩ <;> rfl

end SaslClient.Scan

namespace SaslClient.Directives

theorem parse_encode (cs : List Char) :
    parse (Utf8.encode cs) = (parseText cs).mapError .malformed := by
  rw [parse, parseText, Utf8.decode_encode, Scan.directives_encode]
  cases Scan.directives cs with
  | error fault =>
    have hfault : (fault.map Utf8.encode).map Utf8.text = fault.map String.ofList := by
      cases fault <;> simp [Scan.Fault.map, Utf8.text_encode]
    exact congrArg (fun f => Except.error (DirectiveError.malformed f)) hfault
  | ok found =>
    simp only [Scan.encodeResult, Scan.encodePair, List.map_map, Function.comp_def,
      Utf8.text_encode]
    rfl

end SaslClient.Directives
