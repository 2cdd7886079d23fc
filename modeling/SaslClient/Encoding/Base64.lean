import SaslClient.Text.Utf8
/-!
# Base64

Octets as letters of the standard alphabet, three octets to a quad of four symbols, with `=` to fill
up the last quad. Decoding takes the one written form of an octet string and says otherwise what is
wrong with a text and where.
-/
namespace SaslClient.Base64

def symbol (n : Nat) : Char :=
  Char.ofNat <|
    if n < 26 then 0x41 + n
    else if n < 52 then 0x61 + (n - 26)
    else if n < 62 then 0x30 + (n - 52)
    else if n = 62 then 0x2B
    else 0x2F

/-- The octets of three to a quad of symbols, and the last one or two to a filled quad. -/
def symbols : List UInt8 → List Char
  | [] => []
  | [a] => [symbol (a.toNat / 4), symbol (a.toNat % 4 * 16), '=', '=']
  | [a, b] =>
    [symbol (a.toNat / 4), symbol (a.toNat % 4 * 16 + b.toNat / 16), symbol (b.toNat % 16 * 4), '=']
  | a :: b :: c :: rest =>
    symbol (a.toNat / 4) :: symbol (a.toNat % 4 * 16 + b.toNat / 16) ::
      symbol (b.toNat % 16 * 4 + c.toNat / 64) :: symbol (c.toNat % 64) :: symbols rest

def encode (bs : List UInt8) : String :=
  String.ofList (symbols bs)

inductive Error
  | invalidSymbol (octet : UInt8) (position : Nat)
  | invalidLength (length : Nat)
  | invalidPadding
  | invalidLastSymbol (octet : UInt8) (position : Nat)
deriving DecidableEq, Repr

def Error.message : Error → String
  | invalidSymbol octet position =>
    "Invalid symbol " ++ toString octet.toNat ++ ", offset " ++ toString position ++ "."
  | invalidLength length => "Invalid input length: " ++ toString length
  | invalidPadding => "Invalid padding"
  | invalidLastSymbol octet position =>
    "Invalid last symbol " ++ toString octet.toNat ++ ", offset " ++ toString position ++ "."

def pad : UInt8 := 0x3D

def value? (octet : UInt8) : Option Nat :=
  let n := octet.toNat
  if 0x41 ≤ n ∧ n ≤ 0x5A then some (n - 0x41)
  else if 0x61 ≤ n ∧ n ≤ 0x7A then some (n - 0x61 + 26)
  else if 0x30 ≤ n ∧ n ≤ 0x39 then some (n - 0x30 + 52)
  else if n = 0x2B then some 62
  else if n = 0x2F then some 63
  else none

def isSymbol (octet : UInt8) : Bool :=
  (value? octet).isSome

def regroup : List Nat → List UInt8
  | a :: b :: c :: d :: rest =>
    UInt8.ofNat (a * 4 + b / 16) :: UInt8.ofNat (b % 16 * 16 + c / 4) ::
      UInt8.ofNat (c % 4 * 64 + d) :: regroup rest
  | [a, b, c] => [UInt8.ofNat (a * 4 + b / 16), UInt8.ofNat (b % 16 * 16 + c / 4)]
  | [a, b] => [UInt8.ofNat (a * 4 + b / 16)]
  | _ => []

def firstInvalid? (position : Nat) : List UInt8 → Option Error
  | [] => none
  | b :: rest =>
    if isSymbol b then firstInvalid? (position + 1) rest else some (.invalidSymbol b position)

def hasTrailingBits : List Nat → Bool
  | [_, b] => b % 16 != 0
  | [_, _, c] => c % 4 != 0
  | _ => false

/-- What is wrong with the last quad, which begins at a position. Its symbols may be followed by
padding and by nothing else, and the octet that ends the symbols is at fault if they are not, or if
the padding begins too early. -/
def lastQuadFault? (position : Nat) (quad : List UInt8) : Option Error :=
  let found := quad.takeWhile isSymbol
  let padding := quad.dropWhile isSymbol
  match padding with
  | b :: _ =>
    if b ≠ pad ∨ found.length < 2 ∨ padding.any (· != pad) then
      some (.invalidSymbol b (position + found.length))
    else close found padding
  | [] => close found padding
where
  close (found padding : List UInt8) : Option Error :=
    if found.length = 0 ∧ padding.length = 0 then none
    else if found.length < 2 then some (.invalidLength (position + found.length))
    else if (found.length + padding.length) % 4 ≠ 0 then some .invalidPadding
    else if hasTrailingBits (found.filterMap value?) then
      some (.invalidLastSymbol (found.getLastD 0) (position + (found.length - 1)))
    else none

def strayFault? (octets : List UInt8) : Option Error :=
  match octets.getLast? with
  | some b =>
    if octets.length % 4 = 1 ∧ b ≠ pad ∧ isSymbol b = false then
      some (.invalidSymbol b (octets.length - 1))
    else none
  | none => none

/-- What is wrong with the octets of a text: a stray octet at its end first, then the quads before
the last from left to right, then the last quad. -/
def fault? (octets : List UInt8) : Option Error :=
  let start := (octets.length - 1) / 4 * 4
  (strayFault? octets).or <|
    (firstInvalid? 0 (octets.take start)).or (lastQuadFault? start (octets.drop start))

def decode (text : String) : Except Error (List UInt8) :=
  let octets := Utf8.bytes text
  match fault? octets with
  | some error => .error error
  | none => .ok (regroup (octets.filterMap value?))

/-! ## Symbols that are written -/

def alphabet : List Char :=
  "ABCDEFGHIJKLMNOPQRSTUVWXYZabcdefghijklmnopqrstuvwxyz0123456789+/".toList

private theorem symbol_mem_alphabet {n : Nat} (h : n < 64) : symbol n ∈ alphabet := by
  have all : ∀ i : Fin 64, symbol i.val ∈ alphabet := by decide +kernel
  exact all ⟨n, h⟩

/-- Octets are written in symbols of the alphabet, and then in as many padding signs as octets are
missing in the last group of three. -/
theorem symbols_eq_append (bs : List UInt8) :
    ∃ front, symbols bs = front ++ List.replicate ((3 - bs.length % 3) % 3) '=' ∧
      ∀ c ∈ front, c ∈ alphabet := by
  induction bs using symbols.induct with
  | case1 => exact ⟨[], rfl, by simp⟩
  | case2 a =>
    have ha := a.toNat_lt
    refine ⟨[symbol (a.toNat / 4), symbol (a.toNat % 4 * 16)], rfl, ?_⟩
    simp only [List.forall_mem_cons]
    exact ⟨symbol_mem_alphabet (by omega), symbol_mem_alphabet (by omega), by simp⟩
  | case3 a b =>
    have ha := a.toNat_lt
    have hb := b.toNat_lt
    refine ⟨[symbol (a.toNat / 4), symbol (a.toNat % 4 * 16 + b.toNat / 16),
      symbol (b.toNat % 16 * 4)], rfl, ?_⟩
    simp only [List.forall_mem_cons]
    exact ⟨symbol_mem_alphabet (by omega), symbol_mem_alphabet (by omega),
      symbol_mem_alphabet (by omega), by simp⟩
  | case4 a b c rest ih =>
    have ha := a.toNat_lt
    have hb := b.toNat_lt
    have hc := c.toNat_lt
    obtain ⟨front, hrest, hfront⟩ := ih
    refine ⟨symbol (a.toNat / 4) :: symbol (a.toNat % 4 * 16 + b.toNat / 16) ::
      symbol (b.toNat % 16 * 4 + c.toNat / 64) :: symbol (c.toNat % 64) :: front, ?_, ?_⟩
    · have hlength : (a :: b :: c :: rest).length % 3 = rest.length % 3 :=
        Nat.add_mod_right rest.length 3
      rw [symbols, hrest, hlength]
      rfl
    · simp only [List.forall_mem_cons]
      exact ⟨symbol_mem_alphabet (by omega), symbol_mem_alphabet (by omega),
        symbol_mem_alphabet (by omega), symbol_mem_alphabet (by omega), hfront⟩

theorem mem_symbols (bs : List UInt8) : ∀ c ∈ symbols bs, c ∈ alphabet ∨ c = '=' := by
  obtain ⟨front, hsymbols, hfront⟩ := symbols_eq_append bs
  intro c hc
  rw [hsymbols] at hc
  rcases List.mem_append.1 hc with hc | hc
  · exact .inl (hfront c hc)
  · exact .inr (List.eq_of_mem_replicate hc)

theorem forall_mem_symbols {p : Char → Prop} [DecidablePred p]
    (hsymbols : alphabet.all (fun c => p c) = true) (hpadding : p '=') (bs : List UInt8) :
    ∀ c ∈ symbols bs, p c := by
  intro c hc
  rcases mem_symbols bs c hc with hc | rfl
  · exact of_decide_eq_true (List.all_eq_true.1 hsymbols c hc)
  · exact hpadding

theorem length_symbols (bs : List UInt8) : (symbols bs).length = (bs.length + 2) / 3 * 4 := by
  induction bs using symbols.induct with
  | case1 => rfl
  | case2 a => simp [symbols]
  | case3 a b => simp [symbols]
  | case4 a b c rest ih =>
    simp only [symbols, List.length_cons, ih]
    omega

/-- A text that octets can be written as, by the look of it: there is something, in whole quads of
symbols and padding. -/
structure IsQuads (text : String) : Prop where
  ne_empty : text ≠ ""
  symbols : ∀ c ∈ text.toList, c ∈ alphabet ∨ c = '='
  length : text.length % 4 = 0

theorem isQuads_encode {bs : List UInt8} (h : bs ≠ []) : IsQuads (encode bs) := by
  have hlength : (encode bs).length = (bs.length + 2) / 3 * 4 := by
    rw [encode, String.length_ofList, length_symbols]
  have hpos := List.length_pos_iff.2 h
  refine ⟨?_, ?_, by omega⟩
  · intro hempty
    rw [hempty, String.length_empty] at hlength
    omega
  · rw [encode, String.toList_ofList]
    exact mem_symbols bs

end SaslClient.Base64
