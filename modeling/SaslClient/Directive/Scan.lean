/-!
# Reading a list of directives

A payload such as `realm="a",qop=auth` is a list of elements between commas, each a name, an equals
sign and a bare or quoted value. The reader works on any symbols that have a code: on the octets of
a payload, which is how a payload arrives, and on the characters of a text. Every character that
means something to it is ASCII, so the two readings can be compared.
-/
namespace SaslClient.Scan

/-- A unit of text with a code: an octet of its UTF-8 form, or a character. -/
class Symbol (α : Type) where
  code : α → Nat

instance : Symbol UInt8 := ⟨UInt8.toNat⟩

instance : Symbol Char := ⟨Char.toNat⟩

variable {α : Type} [Symbol α]

def isComma (a : α) : Bool :=
  Symbol.code a == 0x2C

def isEquals (a : α) : Bool :=
  Symbol.code a == 0x3D

def isQuote (a : α) : Bool :=
  Symbol.code a == 0x22

def isBackslash (a : α) : Bool :=
  Symbol.code a == 0x5C

def isSpace (a : α) : Bool :=
  Symbol.code a == 0x20 || Symbol.code a == 0x09 || Symbol.code a == 0x0D ||
    Symbol.code a == 0x0A

def isSeparator (a : α) : Bool :=
  isComma a || isSpace a

inductive Fault (ν : Type)
  | emptyName
  | missingEquals (name : ν)
  | emptyValue (name : ν)
  | unterminatedQuote (name : ν)
  | trailingData (name : ν)
deriving DecidableEq, Repr

def Fault.map {ν μ : Type} (f : ν → μ) : Fault ν → Fault μ
  | emptyName => emptyName
  | missingEquals name => missingEquals (f name)
  | emptyValue name => emptyValue (f name)
  | unterminatedQuote name => unterminatedQuote (f name)
  | trailingData name => trailingData (f name)

/-- Reads a quoted value after its opening quote: the value, and what follows the closing quote.
A backslash takes the next symbol as it is. -/
def unquote : List α → Option (List α × List α)
  | [] => none
  | a :: rest =>
    if isQuote a then some ([], rest)
    else if isBackslash a then
      match rest with
      | [] => none
      | b :: rest => (unquote rest).map fun (value, after) => (b :: value, after)
    else (unquote rest).map fun (value, after) => (a :: value, after)

def bareValue (s : List α) : List α × List α :=
  (s.takeWhile (!isComma ·), s.dropWhile (!isComma ·))

/-- Reads a quoted value after its opening quote, and the white space after its closing quote; a
comma or the end follows. -/
def quotedValue (name : List α) (s : List α) : Except (Fault (List α)) (List α × List α) :=
  match unquote s with
  | none => .error (.unterminatedQuote name)
  | some (value, after) =>
    match after.dropWhile isSpace with
    | [] => .ok (value, [])
    | a :: rest => if isComma a then .ok (value, a :: rest) else .error (.trailingData name)

def value (name : List α) : List α → Except (Fault (List α)) (List α × List α)
  | [] => .ok ([], [])
  | a :: rest => if isQuote a then quotedValue name rest else .ok (bareValue (a :: rest))

/-- Reads one element, from its name up to the comma after it or the end: the name, the value and
the rest, which begins with the comma. -/
def element (s : List α) : Except (Fault (List α)) ((List α × List α) × List α) :=
  let name := s.takeWhile (!isEquals ·)
  if name.isEmpty then .error .emptyName
  else
    match s.dropWhile (!isEquals ·) with
    | [] => .error (.missingEquals name)
    | _ :: rest =>
      match value name rest with
      | .error fault => .error fault
      | .ok (text, rest) =>
        if text.isEmpty then .error (.emptyValue name) else .ok ((name, text), rest)

private theorem length_dropWhile_le {β : Type} (p : β → Bool) (s : List β) :
    (s.dropWhile p).length ≤ s.length :=
  (List.dropWhile_sublist p).length_le

theorem length_lt_of_unquote {s v rest : List α} (h : unquote s = some (v, rest)) :
    rest.length < s.length := by
  fun_induction unquote s generalizing v with
  | case1 => simp at h
  | case2 a s ha =>
    simp only [Option.some.injEq, Prod.mk.injEq] at h
    simp [h.2]
  | case3 => simp at h
  | case4 a ha hb b s ih =>
    simp only [Option.map_eq_some_iff, Prod.mk.injEq] at h
    obtain ⟨w, hw, -, rfl⟩ := h
    have := ih hw
    simp only [List.length_cons]
    omega
  | case5 a s ha hb ih =>
    simp only [Option.map_eq_some_iff, Prod.mk.injEq] at h
    obtain ⟨w, hw, -, rfl⟩ := h
    have := ih hw
    simp only [List.length_cons]
    omega

theorem length_lt_of_quotedValue {name s v rest : List α}
    (h : quotedValue name s = .ok (v, rest)) : rest.length < s.length := by
  unfold quotedValue at h
  split at h
  · simp at h
  · next text after hu =>
    have hlt := length_lt_of_unquote hu
    have hle := length_dropWhile_le isSpace after
    split at h
    · simp only [Except.ok.injEq, Prod.mk.injEq] at h
      rw [← h.2]
      exact Nat.lt_of_le_of_lt (Nat.zero_le _) hlt
    · next hd =>
      rw [hd] at hle
      split at h
      · simp only [Except.ok.injEq, Prod.mk.injEq] at h
        exact h.2 ▸ Nat.lt_of_le_of_lt hle hlt
      · simp at h

theorem length_le_of_value {name s v rest : List α} (h : value name s = .ok (v, rest)) :
    rest.length ≤ s.length := by
  cases s with
  | nil =>
    simp only [value, Except.ok.injEq, Prod.mk.injEq] at h
    simp [← h.2]
  | cons a s =>
    simp only [value] at h
    split at h
    · exact Nat.le_succ_of_le (Nat.le_of_lt (length_lt_of_quotedValue h))
    · simp only [bareValue, Except.ok.injEq, Prod.mk.injEq] at h
      exact h.2 ▸ length_dropWhile_le _ _

theorem length_lt_of_element {s rest : List α} {d : List α × List α}
    (h : element s = .ok (d, rest)) : rest.length < s.length := by
  simp only [element] at h
  split at h
  · simp at h
  · split at h
    · simp at h
    · next b r hd =>
      have hle := length_dropWhile_le (!isEquals ·) s
      rw [hd] at hle
      split at h
      · simp at h
      · next hv =>
        have := length_le_of_value hv
        split at h
        · simp at h
        · simp only [Except.ok.injEq, Prod.mk.injEq] at h
          rw [← h.2]
          simp only [List.length_cons] at *
          omega

def elements (s : List α) : Except (Fault (List α)) (List (List α × List α)) :=
  match _hs : s.dropWhile isSeparator with
  | [] => .ok []
  | a :: rest =>
    match _he : element (a :: rest) with
    | .error fault => .error fault
    | .ok (directive, rest) => (elements (rest.drop 1)).map (directive :: ·)
termination_by s.length
decreasing_by
  have h₁ := length_dropWhile_le isSeparator s
  have h₂ := length_lt_of_element _he
  rw [_hs] at h₁
  simp only [List.length_drop, List.length_cons] at *
  omega

/-- The equation of `elements`, without the facts that its end rests on. -/
theorem elements_eq (s : List α) :
    elements s =
      match s.dropWhile isSeparator with
      | [] => .ok []
      | a :: rest =>
        match element (a :: rest) with
        | .error fault => .error fault
        | .ok (directive, rest) => (elements (rest.drop 1)).map (directive :: ·) := by
  rw [elements]
  split
  · next h => rw [h]
  · next h =>
    rw [h]
    split
    · next he => simp only [he]
    · next he => simp only [he]

def directives (s : List α) : Except (Fault (List α)) (List (List α × List α)) :=
  match elements s with
  | .ok [] => .error .emptyName
  | result => result

end SaslClient.Scan
