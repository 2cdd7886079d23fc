import SaslClient.Text.Utf8
/-!
# Reading back UTF-8

The octets of a text are read as that text, and no other octets are: `decode_eq_ok_iff`. The bounds
of the octet after a leading one are what makes the second half true.
-/
namespace SaslClient.Utf8

private theorem toNat_ofNat_of_lt {n : Nat} (h : n < 256) : (UInt8.ofNat n).toNat = n := by
  simpa using Nat.mod_eq_of_lt h

private theorem continuation_succ {seen code low high more b : Nat} {bs : List UInt8}
    (hlow : low ≤ b) (hhigh : b ≤ high) (hb : b < 256) :
    continuation seen code low high (more + 1) (UInt8.ofNat b :: bs) =
      continuation (seen + 1) (code * 64 + (b - 0x80)) 0x80 0xBF more bs := by
  rw [continuation, toNat_ofNat_of_lt hb, if_pos ⟨hlow, hhigh⟩]

private theorem decodeChar_of_lead {b : Nat} {lead : Lead} {bs rest : List UInt8} {n m : Nat}
    (hb : b < 256) (hascii : 0x80 ≤ b) (hlead : lead? b = some lead)
    (h : continuation 1 lead.bits lead.low lead.high lead.following bs = .ok (n, rest))
    (hn : n = m) :
    decodeChar (UInt8.ofNat b) bs = .ok (Char.ofNat m, rest) := by
  subst hn
  rw [decodeChar, toNat_ofNat_of_lt hb, if_neg (Nat.not_lt.2 hascii), hlead]
  simp only [h]

private theorem lead?_two {n : Nat} (h : 0x7F < n ∧ n ≤ 0x7FF) :
    lead? (n / 64 % 32 + 192) = some ⟨n / 64 % 32, 0x80, 0xBF, 1⟩ := by
  rw [lead?, if_neg (by omega), if_pos (by omega), Nat.add_sub_cancel]

private theorem lead?_three {n : Nat} (h : 0x7FF < n ∧ n ≤ 0xFFFF) (hs : n < 0xD800 ∨ 0xDFFF < n) :
    ∃ low high, lead? (n / 4096 % 16 + 224) = some ⟨n / 4096 % 16, low, high, 2⟩ ∧
      low ≤ n / 64 % 64 + 128 ∧ n / 64 % 64 + 128 ≤ high := by
  have hc : n / 4096 % 16 = 0 ∨ n / 4096 % 16 = 13 ∨
      n / 4096 % 16 ≠ 0 ∧ n / 4096 % 16 ≠ 13 := by omega
  rcases hc with hc | hc | hc
  · refine ⟨0xA0, 0xBF, ?_, by omega, by omega⟩
    rw [hc]
    rfl
  · refine ⟨0x80, 0x9F, ?_, by omega, by omega⟩
    rw [hc]
    rfl
  · refine ⟨0x80, 0xBF, ?_, by omega, by omega⟩
    rw [lead?, if_neg (by omega), if_neg (by omega), if_neg (by omega), if_neg (by omega),
      if_pos (by omega), Nat.add_sub_cancel]

private theorem lead?_four {n : Nat} (h : 0xFFFF < n ∧ n < 0x110000) :
    ∃ low high, lead? (n / 262144 % 8 + 240) = some ⟨n / 262144 % 8, low, high, 3⟩ ∧
      low ≤ n / 4096 % 64 + 128 ∧ n / 4096 % 64 + 128 ≤ high := by
  have hc : n / 262144 % 8 = 0 ∨ n / 262144 % 8 = 4 ∨
      1 ≤ n / 262144 % 8 ∧ n / 262144 % 8 ≤ 3 := by omega
  rcases hc with hc | hc | hc
  · refine ⟨0x90, 0xBF, ?_, by omega, by omega⟩
    rw [hc]
    rfl
  · refine ⟨0x80, 0x8F, ?_, by omega, by omega⟩
    rw [hc]
    rfl
  · refine ⟨0x80, 0xBF, ?_, by omega, by omega⟩
    rw [lead?, if_neg (by omega), if_neg (by omega), if_neg (by omega), if_neg (by omega),
      if_neg (by omega), if_neg (by omega), if_pos (by omega), Nat.add_sub_cancel]

theorem decodeChar_of_utf8EncodeChar {c : Char} {b : UInt8} {bs : List UInt8} (rest : List UInt8)
    (h : String.utf8EncodeChar c = b :: bs) : decodeChar b (bs ++ rest) = .ok (c, rest) := by
  have hc : c.val.toNat < 0xD800 ∨ 0xDFFF < c.val.toNat ∧ c.val.toNat < 0x110000 := c.valid
  have hv : Char.ofNat c.val.toNat = c := Char.ofNat_toNat c
  simp only [String.utf8EncodeChar] at h
  generalize c.val.toNat = n at hc hv h
  subst hv
  split at h
  · simp only [List.cons.injEq] at h
    obtain ⟨rfl, rfl⟩ := h
    rw [decodeChar, toNat_ofNat_of_lt (by omega), if_pos (by omega), List.nil_append]
  · split at h
    · simp only [List.cons.injEq] at h
      obtain ⟨rfl, rfl⟩ := h
      have hcont : continuation 1 (n / 64 % 32) 0x80 0xBF 1 ([UInt8.ofNat (n % 64 + 128)] ++ rest) =
          .ok (n / 64 % 32 * 64 + (n % 64 + 128 - 0x80), rest) := by
        rw [List.cons_append, continuation_succ (by omega) (by omega) (by omega)]
        rfl
      exact decodeChar_of_lead (by omega) (by omega) (lead?_two (by omega)) hcont (by omega)
    · split at h
      · simp only [List.cons.injEq] at h
        obtain ⟨rfl, rfl⟩ := h
        obtain ⟨low, high, hlead, hlow, hhigh⟩ := lead?_three (n := n) (by omega) (by omega)
        have hcont : continuation 1 (n / 4096 % 16) low high 2
            ([UInt8.ofNat (n / 64 % 64 + 128), UInt8.ofNat (n % 64 + 128)] ++ rest) =
            .ok ((n / 4096 % 16 * 64 + (n / 64 % 64 + 128 - 0x80)) * 64 + (n % 64 + 128 - 0x80),
              rest) := by
          rw [List.cons_append, continuation_succ hlow hhigh (by omega), List.cons_append,
            continuation_succ (by omega) (by omega) (by omega)]
          rfl
        exact decodeChar_of_lead (by omega) (by omega) hlead hcont (by omega)
      · simp only [List.cons.injEq] at h
        obtain ⟨rfl, rfl⟩ := h
        obtain ⟨low, high, hlead, hlow, hhigh⟩ := lead?_four (n := n) (by omega)
        have hcont : continuation 1 (n / 262144 % 8) low high 3
            ([UInt8.ofNat (n / 4096 % 64 + 128), UInt8.ofNat (n / 64 % 64 + 128),
              UInt8.ofNat (n % 64 + 128)] ++ rest) =
            .ok (((n / 262144 % 8 * 64 + (n / 4096 % 64 + 128 - 0x80)) * 64 +
              (n / 64 % 64 + 128 - 0x80)) * 64 + (n % 64 + 128 - 0x80), rest) := by
          rw [List.cons_append, continuation_succ hlow hhigh (by omega), List.cons_append,
            continuation_succ (by omega) (by omega) (by omega), List.cons_append,
            continuation_succ (by omega) (by omega) (by omega)]
          rfl
        exact decodeChar_of_lead (by omega) (by omega) hlead hcont (by omega)

/-- Behind the octets of a text the reading goes on at the position after them. -/
theorem decodeFrom_encode_append (start : Nat) (cs : List Char) (rest : List UInt8) :
    decodeFrom start (encode cs ++ rest) =
      (decodeFrom (start + (encode cs).length) rest).map (cs ++ ·) := by
  induction cs generalizing start with
  | nil => cases h : decodeFrom start rest <;> simp [encode, h, Except.map]
  | cons c cs ih =>
    obtain ⟨b, bs, hb⟩ : ∃ b bs, String.utf8EncodeChar c = b :: bs :=
      List.exists_cons_of_length_pos (by simpa using c.utf8Size_pos)
    have hc := decodeChar_of_utf8EncodeChar (encode cs ++ rest) hb
    have he : encode (c :: cs) = b :: (bs ++ encode cs) := by
      simp [encode, hb]
    have hlength : (encode (c :: cs)).length = c.utf8Size + (encode cs).length := by
      simp [encode]
    rw [hlength, he, List.cons_append, List.append_assoc, decodeFrom]
    split
    · next h => simp [hc] at h
    · next h =>
      simp only [hc, Except.ok.injEq, Prod.mk.injEq] at h
      obtain ⟨rfl, rfl⟩ := h
      rw [ih, Nat.add_assoc]
      cases decodeFrom (start + (c.utf8Size + (encode cs).length)) rest <;> rfl

theorem decodeFrom_encode (start : Nat) (cs : List Char) :
    decodeFrom start (encode cs) = .ok cs := by
  have h := decodeFrom_encode_append start cs []
  rw [List.append_nil] at h
  simpa [decodeFrom, Except.map] using h

theorem decode_encode (cs : List Char) : decode (encode cs) = .ok cs :=
  decodeFrom_encode 0 cs

private theorem continuation_succ_eq_ok {seen code low high more n : Nat} {bs rest : List UInt8}
    (h : continuation seen code low high (more + 1) bs = .ok (n, rest)) :
    ∃ b bs', bs = b :: bs' ∧ low ≤ b.toNat ∧ b.toNat ≤ high ∧
      continuation (seen + 1) (code * 64 + (b.toNat - 0x80)) 0x80 0xBF more bs' =
        .ok (n, rest) := by
  cases bs with
  | nil => simp [continuation] at h
  | cons b bs =>
    simp only [continuation] at h
    split at h
    · next hb => exact ⟨b, bs, rfl, hb.1, hb.2, h⟩
    · simp at h

private theorem continuation_zero_eq_ok {seen code low high n : Nat} {bs rest : List UInt8}
    (h : continuation seen code low high 0 bs = .ok (n, rest)) : n = code ∧ bs = rest := by
  simp only [continuation, Except.ok.injEq, Prod.mk.injEq] at h
  exact ⟨h.1.symm, h.2⟩

private theorem of_lead?_eq_some {b : Nat} {lead : Lead} (h : lead? b = some lead) :
    lead.following = 1 ∧ b = lead.bits + 0xC0 ∧ 2 ≤ lead.bits ∧ lead.bits < 32 ∧
        lead.low = 0x80 ∧ lead.high = 0xBF ∨
      lead.following = 2 ∧ b = lead.bits + 0xE0 ∧ lead.bits < 16 ∧
        0x80 ≤ lead.low ∧ lead.high ≤ 0xBF ∧ (lead.bits = 0 → lead.low = 0xA0) ∧
        (lead.bits = 13 → lead.high = 0x9F) ∨
      lead.following = 3 ∧ b = lead.bits + 0xF0 ∧ lead.bits < 5 ∧
        0x80 ≤ lead.low ∧ lead.high ≤ 0xBF ∧ (lead.bits = 0 → lead.low = 0x90) ∧
        (lead.bits = 4 → lead.high = 0x8F) := by
  unfold lead? at h
  repeat' split at h
  all_goals simp only [Option.some.injEq, reduceCtorEq] at h
  all_goals subst h
  all_goals simp
  all_goals omega

private theorem utf8EncodeChar_ofNat {n : Nat} (h : n < 0xD800 ∨ 0xDFFF < n ∧ n < 0x110000) :
    String.utf8EncodeChar (Char.ofNat n) =
      if n ≤ 0x7F then [UInt8.ofNat n]
      else if n ≤ 0x7FF then [UInt8.ofNat (n / 64 % 32 + 192), UInt8.ofNat (n % 64 + 128)]
      else if n ≤ 0xFFFF then
        [UInt8.ofNat (n / 4096 % 16 + 224), UInt8.ofNat (n / 64 % 64 + 128),
          UInt8.ofNat (n % 64 + 128)]
      else
        [UInt8.ofNat (n / 262144 % 8 + 240), UInt8.ofNat (n / 4096 % 64 + 128),
          UInt8.ofNat (n / 64 % 64 + 128), UInt8.ofNat (n % 64 + 128)] := by
  have hn : (Char.ofNat n).val.toNat = n := by
    rw [Char.ofNat, dif_pos h]
    rfl
  simp only [String.utf8EncodeChar, hn]

private theorem utf8EncodeChar_two {n a b : Nat} (hn : n = a * 64 + (b - 0x80))
    (ha : 2 ≤ a ∧ a < 32) (hb : 0x80 ≤ b ∧ b ≤ 0xBF) :
    String.utf8EncodeChar (Char.ofNat n) = [UInt8.ofNat (a + 0xC0), UInt8.ofNat b] := by
  rw [utf8EncodeChar_ofNat (by omega), if_neg (by omega), if_pos (by omega),
    show n / 64 % 32 + 192 = a + 0xC0 by omega, show n % 64 + 128 = b by omega]

private theorem utf8EncodeChar_three {n a b c : Nat}
    (hn : n = (a * 64 + (b - 0x80)) * 64 + (c - 0x80)) (ha : a < 16)
    (hb : 0x80 ≤ b ∧ b ≤ 0xBF) (hc : 0x80 ≤ c ∧ c ≤ 0xBF) (hlow : a = 0 → 0xA0 ≤ b)
    (hhigh : a = 13 → b ≤ 0x9F) :
    String.utf8EncodeChar (Char.ofNat n) =
      [UInt8.ofNat (a + 0xE0), UInt8.ofNat b, UInt8.ofNat c] := by
  rw [utf8EncodeChar_ofNat (by omega), if_neg (by omega), if_neg (by omega), if_pos (by omega),
    show n / 4096 % 16 + 224 = a + 0xE0 by omega, show n / 64 % 64 + 128 = b by omega,
    show n % 64 + 128 = c by omega]

private theorem utf8EncodeChar_four {n a b c d : Nat}
    (hn : n = ((a * 64 + (b - 0x80)) * 64 + (c - 0x80)) * 64 + (d - 0x80)) (ha : a < 5)
    (hb : 0x80 ≤ b ∧ b ≤ 0xBF) (hc : 0x80 ≤ c ∧ c ≤ 0xBF) (hd : 0x80 ≤ d ∧ d ≤ 0xBF)
    (hlow : a = 0 → 0x90 ≤ b) (hhigh : a = 4 → b ≤ 0x8F) :
    String.utf8EncodeChar (Char.ofNat n) =
      [UInt8.ofNat (a + 0xF0), UInt8.ofNat b, UInt8.ofNat c, UInt8.ofNat d] := by
  rw [utf8EncodeChar_ofNat (by omega), if_neg (by omega), if_neg (by omega), if_neg (by omega),
    show n / 262144 % 8 + 240 = a + 0xF0 by omega, show n / 4096 % 64 + 128 = b by omega,
    show n / 64 % 64 + 128 = c by omega, show n % 64 + 128 = d by omega]

/-- Only the octets of a character are read as that character. -/
theorem eq_append_of_decodeChar {b : UInt8} {bs rest : List UInt8} {c : Char}
    (h : decodeChar b bs = .ok (c, rest)) : b :: bs = String.utf8EncodeChar c ++ rest := by
  unfold decodeChar at h
  split at h
  · next hb =>
    simp only [Except.ok.injEq, Prod.mk.injEq] at h
    obtain ⟨rfl, rfl⟩ := h
    rw [utf8EncodeChar_ofNat (by omega), if_pos (by omega), UInt8.ofNat_toNat]
    rfl
  · next hb =>
    split at h
    · simp at h
    · next lead hlead =>
      split at h
      · simp at h
      · next n rest' hcont =>
        simp only [Except.ok.injEq, Prod.mk.injEq] at h
        obtain ⟨rfl, rfl⟩ := h
        obtain ⟨bits, low, high, following⟩ := lead
        rcases of_lead?_eq_some hlead with h | h | h
        all_goals
          simp only at h hcont
          obtain ⟨rfl, hb, h⟩ := h
          obtain ⟨b₁, bs, rfl, hl₁, hh₁, hcont⟩ := continuation_succ_eq_ok hcont
        · obtain ⟨hn, rfl⟩ := continuation_zero_eq_ok hcont
          rw [utf8EncodeChar_two hn (by omega) (by omega), ← hb, UInt8.ofNat_toNat,
            UInt8.ofNat_toNat]
          rfl
        · obtain ⟨b₂, bs, rfl, hl₂, hh₂, hcont⟩ := continuation_succ_eq_ok hcont
          obtain ⟨hn, rfl⟩ := continuation_zero_eq_ok hcont
          rw [utf8EncodeChar_three hn (by omega) (by omega) (by omega) (by omega) (by omega), ← hb,
            UInt8.ofNat_toNat, UInt8.ofNat_toNat, UInt8.ofNat_toNat]
          rfl
        · obtain ⟨b₂, bs, rfl, hl₂, hh₂, hcont⟩ := continuation_succ_eq_ok hcont
          obtain ⟨b₃, bs, rfl, hl₃, hh₃, hcont⟩ := continuation_succ_eq_ok hcont
          obtain ⟨hn, rfl⟩ := continuation_zero_eq_ok hcont
          rw [utf8EncodeChar_four hn (by omega) (by omega) (by omega) (by omega) (by omega)
            (by omega), ← hb, UInt8.ofNat_toNat, UInt8.ofNat_toNat, UInt8.ofNat_toNat,
            UInt8.ofNat_toNat]
          rfl

theorem eq_encode_of_decodeFrom {start : Nat} {bs : List UInt8} {cs : List Char}
    (h : decodeFrom start bs = .ok cs) : bs = encode cs := by
  fun_induction decodeFrom start bs generalizing cs with
  | case1 =>
    simp only [Except.ok.injEq] at h
    simp [← h, encode]
  | case2 => simp at h
  | case3 start b bs c rest hc _ ih =>
    cases hr : decodeFrom (start + c.utf8Size) rest with
    | error e => simp [hr, Except.map] at h
    | ok ds =>
      simp only [hr, Except.map, Except.ok.injEq] at h
      rw [eq_append_of_decodeChar hc, ih hr, ← h]
      simp [encode]

theorem decode_eq_ok_iff {bs : List UInt8} {cs : List Char} :
    decode bs = .ok cs ↔ bs = encode cs :=
  ⟨eq_encode_of_decodeFrom, fun h => h ▸ decode_encode cs⟩

theorem encode_cons (c : Char) (cs : List Char) :
    encode (c :: cs) = String.utf8EncodeChar c ++ encode cs :=
  rfl

theorem encode_append (cs ds : List Char) : encode (cs ++ ds) = encode cs ++ encode ds :=
  List.flatMap_append

theorem length_encode_cons (c : Char) (cs : List Char) :
    (encode (c :: cs)).length = c.utf8Size + (encode cs).length := by
  rw [encode_cons, List.length_append, String.length_utf8EncodeChar]

theorem text_encode (cs : List Char) : text (encode cs) = String.ofList cs := by
  rw [text, decode_encode]

theorem encode_injective {cs ds : List Char} (h : encode cs = encode ds) : cs = ds := by
  have hd := decode_encode cs
  rw [h, decode_encode] at hd
  exact (Except.ok.inj hd).symm

theorem encode_eq_nil_iff {cs : List Char} : encode cs = [] ↔ cs = [] :=
  ⟨fun h => encode_injective (h.trans rfl), fun h => h ▸ rfl⟩

def Error.shift (n : Nat) (e : Error) : Error :=
  { e with validUpTo := e.validUpTo + n }

private theorem decodeFrom_add (n start : Nat) (bs : List UInt8) :
    decodeFrom (start + n) bs = (decodeFrom start bs).mapError (Error.shift n) := by
  fun_induction decodeFrom start bs with
  | case1 =>
    rw [decodeFrom]
    rfl
  | case2 start b bs defect hc =>
    rw [decodeFrom]
    split
    · next hc' =>
      rw [hc, Except.error.injEq] at hc'
      rw [← hc']
      rfl
    · next hc' =>
      rw [hc] at hc'
      cases hc'
  | case3 start b bs c rest hc _ ih =>
    rw [decodeFrom]
    split
    · next hc' =>
      rw [hc] at hc'
      cases hc'
    · next hc' =>
      rw [hc, Except.ok.injEq, Prod.mk.injEq] at hc'
      obtain ⟨rfl, rfl⟩ := hc'
      rw [show start + n + c.utf8Size = start + c.utf8Size + n by omega, ih]
      cases decodeFrom (start + c.utf8Size) rest <;> rfl

/-- Behind the octets of a text an error is that much further on. -/
theorem decode_encode_append (cs : List Char) (rest : List UInt8) :
    decode (encode cs ++ rest) =
      ((decode rest).mapError (Error.shift (encode cs).length)).map (cs ++ ·) := by
  rw [decode, decodeFrom_encode_append, decodeFrom_add]
  rfl

theorem bytes_append (s t : String) : bytes (s ++ t) = bytes s ++ bytes t := by
  rw [bytes, String.toList_append, encode_append]
  rfl

theorem bytes_injective {s t : String} (h : bytes s = bytes t) : s = t :=
  String.toList_inj.1 (encode_injective h)

/-- An ASCII character is one octet, its code. The octets of the others are not in that range. -/
theorem utf8EncodeChar_cases (c : Char) :
    (∃ b, String.utf8EncodeChar c = [b] ∧ b.toNat = c.toNat) ∨
      0x80 ≤ c.toNat ∧ ∃ b bs, String.utf8EncodeChar c = b :: bs ∧ 0x80 ≤ b.toNat ∧
        ∀ x ∈ bs, 0x80 ≤ x.toNat := by
  have hc : c.val.toNat = c.toNat := rfl
  have octet {n : Nat} : 0x80 ≤ (UInt8.ofNat (n % 64 + 128)).toNat := by
    rw [UInt8.toNat_ofNat']
    omega
  simp only [String.utf8EncodeChar, hc]
  split
  · refine .inl ⟨_, rfl, ?_⟩
    rw [UInt8.toNat_ofNat']
    omega
  · refine .inr ⟨by omega, ?_⟩
    split
    · refine ⟨_, _, rfl, ?_, by simpa using octet⟩
      rw [UInt8.toNat_ofNat']
      omega
    · split
      · refine ⟨_, _, rfl, ?_, by simpa using ⟨octet, octet⟩⟩
        rw [UInt8.toNat_ofNat']
        omega
      · refine ⟨_, _, rfl, ?_, by simpa using ⟨octet, octet, octet⟩⟩
        rw [UInt8.toNat_ofNat']
        omega

theorem length_encode {cs : List Char} (h : ∀ c ∈ cs, c.utf8Size = 1) :
    (encode cs).length = cs.length := by
  induction cs with
  | nil => rfl
  | cons c cs ih =>
    obtain ⟨hc, hcs⟩ := List.forall_mem_cons.1 h
    rw [length_encode_cons, hc, ih hcs, List.length_cons, Nat.add_comm]

theorem bytes_ne_nil {s : String} (h : s ≠ "") : bytes s ≠ [] := by
  intro hnil
  exact h (String.toList_eq_nil_iff.1 (encode_eq_nil_iff.1 hnil))

end SaslClient.Utf8
