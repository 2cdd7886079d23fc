import SaslClient.Encoding.Base64
import SaslClient.Text.Utf8.RoundTrip
/-!
# Reading back Base64

Octets are read back from their written form. The proof follows them three at a time, as they are
written, and each group gives a quad without a fault.
-/
namespace SaslClient.Base64

private def octet (n : Nat) : UInt8 :=
  UInt8.ofNat (symbol n).toNat

private theorem utf8EncodeChar_symbol {n : Nat} (h : n < 64) :
    String.utf8EncodeChar (symbol n) = [octet n] := by
  have : ∀ i : Fin 64, String.utf8EncodeChar (symbol i.val) = [octet i.val] := by decide
  exact this ⟨n, h⟩

private theorem value?_octet {n : Nat} (h : n < 64) : value? (octet n) = some n := by
  have : ∀ i : Fin 64, value? (octet i.val) = some i.val := by decide
  exact this ⟨n, h⟩

private theorem isSymbol_octet {n : Nat} (h : n < 64) : isSymbol (octet n) = true := by
  rw [isSymbol, value?_octet h]
  rfl

private theorem isSymbol_pad : isSymbol pad = false := by
  decide

private theorem value?_pad : value? pad = none := by
  decide

private theorem encode_cons_symbol {n : Nat} (h : n < 64) (cs : List Char) :
    Utf8.encode (symbol n :: cs) = octet n :: Utf8.encode cs := by
  rw [Utf8.encode, List.flatMap_cons, utf8EncodeChar_symbol h]
  rfl

private theorem encode_symbols_one (a : UInt8) :
    Utf8.encode (symbols [a]) = [octet (a.toNat / 4), octet (a.toNat % 4 * 16), pad, pad] := by
  have := a.toNat_lt
  rw [symbols, encode_cons_symbol (by omega), encode_cons_symbol (by omega)]
  rfl

private theorem encode_symbols_two (a b : UInt8) :
    Utf8.encode (symbols [a, b]) =
      [octet (a.toNat / 4), octet (a.toNat % 4 * 16 + b.toNat / 16), octet (b.toNat % 16 * 4),
        pad] := by
  have := a.toNat_lt
  have := b.toNat_lt
  rw [symbols, encode_cons_symbol (by omega), encode_cons_symbol (by omega),
    encode_cons_symbol (by omega)]
  rfl

private theorem encode_symbols_three (a b c : UInt8) (rest : List UInt8) :
    Utf8.encode (symbols (a :: b :: c :: rest)) =
      octet (a.toNat / 4) :: octet (a.toNat % 4 * 16 + b.toNat / 16) ::
        octet (b.toNat % 16 * 4 + c.toNat / 64) :: octet (c.toNat % 64) ::
          Utf8.encode (symbols rest) := by
  have := a.toNat_lt
  have := b.toNat_lt
  have := c.toNat_lt
  rw [symbols, encode_cons_symbol (by omega), encode_cons_symbol (by omega),
    encode_cons_symbol (by omega), encode_cons_symbol (by omega)]

private theorem ofNat_eq_of_mod_eq {n : Nat} {b : UInt8} (h : n % 256 = b.toNat) :
    UInt8.ofNat n = b := by
  rw [← UInt8.toNat_inj, UInt8.toNat_ofNat', ← h]

private theorem regroup_encode_symbols (bs : List UInt8) :
    regroup ((Utf8.encode (symbols bs)).filterMap value?) = bs := by
  induction bs using symbols.induct with
  | case1 => rfl
  | case2 a =>
    have := a.toNat_lt
    rw [encode_symbols_one]
    simp only [List.filterMap_cons, List.filterMap_nil, value?_pad]
    rw [value?_octet (by omega), value?_octet (by omega)]
    simp only [regroup]
    rw [ofNat_eq_of_mod_eq (b := a) (by omega)]
  | case3 a b =>
    have := a.toNat_lt
    have := b.toNat_lt
    rw [encode_symbols_two]
    simp only [List.filterMap_cons, List.filterMap_nil, value?_pad]
    rw [value?_octet (by omega), value?_octet (by omega), value?_octet (by omega)]
    simp only [regroup]
    rw [ofNat_eq_of_mod_eq (b := a) (by omega), ofNat_eq_of_mod_eq (b := b) (by omega)]
  | case4 a b c rest ih =>
    have := a.toNat_lt
    have := b.toNat_lt
    have := c.toNat_lt
    rw [encode_symbols_three]
    simp only [List.filterMap_cons]
    rw [value?_octet (by omega), value?_octet (by omega), value?_octet (by omega),
      value?_octet (by omega)]
    simp only [regroup, ih]
    rw [ofNat_eq_of_mod_eq (b := a) (by omega), ofNat_eq_of_mod_eq (b := b) (by omega),
      ofNat_eq_of_mod_eq (b := c) (by omega)]

private theorem firstInvalid?_eq_none_iff {position : Nat} {octets : List UInt8} :
    firstInvalid? position octets = none ↔ ∀ b ∈ octets, isSymbol b = true := by
  induction octets generalizing position with
  | nil => simp [firstInvalid?]
  | cons b rest ih =>
    rw [firstInvalid?]
    cases hb : isSymbol b <;> simp [hb, ih]

private theorem lastQuadFault?_position {quad : List UInt8} {p : Nat} (q : Nat)
    (h : lastQuadFault? p quad = none) : lastQuadFault? q quad = none := by
  revert h
  simp only [lastQuadFault?, lastQuadFault?.close]
  repeat' split
  all_goals simp_all

private theorem lastQuadFault?_lone {p : Nat} (b : UInt8) : lastQuadFault? p [b] ≠ none := by
  cases hb : isSymbol b <;>
    simp [lastQuadFault?, lastQuadFault?.close, hb]

private theorem fault?_eq_none_iff {octets : List UInt8} :
    fault? octets = none ↔
      (∀ b ∈ octets.take ((octets.length - 1) / 4 * 4), isSymbol b = true) ∧
        lastQuadFault? 0 (octets.drop ((octets.length - 1) / 4 * 4)) = none := by
  -- A stray octet at the end is also a fault of the last quad.
  have hstray (h : lastQuadFault? 0 (octets.drop ((octets.length - 1) / 4 * 4)) = none) :
      strayFault? octets = none := by
    unfold strayFault?
    split
    · refine if_neg fun hb => ?_
      have hlength : (octets.drop ((octets.length - 1) / 4 * 4)).length = 1 := by
        rw [List.length_drop]
        omega
      obtain ⟨b, hdrop⟩ := List.length_eq_one_iff.1 hlength
      exact lastQuadFault?_lone b (hdrop ▸ h)
    · rfl
  simp only [fault?, Option.or_eq_none_iff, firstInvalid?_eq_none_iff]
  constructor
  · intro h
    exact ⟨h.2.1, lastQuadFault?_position 0 h.2.2⟩
  · intro h
    exact ⟨hstray h.2, h.1, lastQuadFault?_position _ h.2⟩

private theorem fault?_cons_quad {w x y z : UInt8} {octets : List UInt8} (h : octets ≠ []) :
    fault? (w :: x :: y :: z :: octets) = none ↔
      isSymbol w = true ∧ isSymbol x = true ∧ isSymbol y = true ∧ isSymbol z = true ∧
        fault? octets = none := by
  have hpos := List.length_pos_iff.2 h
  have hstart : ((w :: x :: y :: z :: octets).length - 1) / 4 * 4 =
      (octets.length - 1) / 4 * 4 + 4 := by
    simp only [List.length_cons]
    omega
  rw [fault?_eq_none_iff, fault?_eq_none_iff, hstart]
  simp [List.take, List.drop, and_assoc]

private theorem lastQuadFault?_two {m n : Nat} (hm : m < 64) (hn : n < 64) :
    lastQuadFault? 0 [octet m, octet n, pad, pad] = none ↔ n % 16 = 0 := by
  simp [lastQuadFault?, lastQuadFault?.close, isSymbol_octet, value?_octet, hm, hn, isSymbol_pad,
    hasTrailingBits]

private theorem lastQuadFault?_three {l m n : Nat} (hl : l < 64) (hm : m < 64) (hn : n < 64) :
    lastQuadFault? 0 [octet l, octet m, octet n, pad] = none ↔ n % 4 = 0 := by
  simp [lastQuadFault?, lastQuadFault?.close, isSymbol_octet, value?_octet, hl, hm, hn,
    isSymbol_pad, hasTrailingBits]

private theorem lastQuadFault?_four {k l m n : Nat} (hk : k < 64) (hl : l < 64) (hm : m < 64)
    (hn : n < 64) : lastQuadFault? 0 [octet k, octet l, octet m, octet n] = none := by
  simp [lastQuadFault?, lastQuadFault?.close, isSymbol_octet, value?_octet, hk, hl, hm, hn,
    hasTrailingBits]

private theorem fault?_encode_symbols (bs : List UInt8) :
    fault? (Utf8.encode (symbols bs)) = none := by
  induction bs using symbols.induct with
  | case1 => rfl
  | case2 a =>
    have := a.toNat_lt
    rw [encode_symbols_one, fault?_eq_none_iff]
    simpa using (lastQuadFault?_two (m := a.toNat / 4) (by omega)
      (n := a.toNat % 4 * 16) (by omega)).2 (by omega)
  | case3 a b =>
    have := a.toNat_lt
    have := b.toNat_lt
    rw [encode_symbols_two, fault?_eq_none_iff]
    simpa using (lastQuadFault?_three (l := a.toNat / 4) (by omega)
      (m := a.toNat % 4 * 16 + b.toNat / 16) (by omega)
      (n := b.toNat % 16 * 4) (by omega)).2 (by omega)
  | case4 a b c rest ih =>
    have := a.toNat_lt
    have := b.toNat_lt
    have := c.toNat_lt
    rw [encode_symbols_three]
    by_cases hrest : Utf8.encode (symbols rest) = []
    · rw [hrest, fault?_eq_none_iff]
      simpa using lastQuadFault?_four (k := a.toNat / 4) (by omega)
        (l := a.toNat % 4 * 16 + b.toNat / 16) (by omega)
        (m := b.toNat % 16 * 4 + c.toNat / 64) (by omega) (n := c.toNat % 64) (by omega)
    · rw [fault?_cons_quad hrest]
      exact ⟨isSymbol_octet (by omega), isSymbol_octet (by omega), isSymbol_octet (by omega),
        isSymbol_octet (by omega), ih⟩

theorem decode_encode (bs : List UInt8) : decode (encode bs) = .ok bs := by
  have hbytes : Utf8.bytes (encode bs) = Utf8.encode (symbols bs) := by
    rw [Utf8.bytes, encode, String.toList_ofList]
  simp only [decode, hbytes, fault?_encode_symbols, regroup_encode_symbols]

theorem encode_injective {bs cs : List UInt8} (h : encode bs = encode cs) : bs = cs := by
  have hd := decode_encode bs
  rw [h, decode_encode] at hd
  exact (Except.ok.inj hd).symm

theorem encode_ne_empty {bs : List UInt8} (h : bs ≠ []) : encode bs ≠ "" := by
  intro hempty
  have hnil : encode [] = "" := rfl
  exact h (encode_injective (hempty.trans hnil.symm))

end SaslClient.Base64
