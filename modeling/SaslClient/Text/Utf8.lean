/-!
# UTF-8

A text as octets. `encode` and `bytes` write the octets of a text, `decode` reads them back and
otherwise says where the well-formed part ends and what is wrong after it.
-/
namespace SaslClient.Utf8

def encode (cs : List Char) : List UInt8 :=
  cs.flatMap String.utf8EncodeChar

def bytes (s : String) : List UInt8 :=
  encode s.toList

inductive Defect
  | malformed (length : Nat)
  | truncated
deriving DecidableEq, Repr

/-- Why an octet string is not a text: the length of its well-formed part, and the defect
after it. -/
structure Error where
  validUpTo : Nat
  defect : Defect
deriving DecidableEq, Repr

def Error.message (e : Error) : String :=
  match e.defect with
  | .malformed length =>
    "invalid utf-8 sequence of " ++ toString length ++ " bytes from index " ++
      toString e.validUpTo
  | .truncated => "incomplete utf-8 byte sequence from index " ++ toString e.validUpTo

/-- The first octet of a character of several octets: the bits it carries, the bounds of the
octet after it, and how many octets follow in all. -/
structure Lead where
  bits : Nat
  low : Nat
  high : Nat
  following : Nat

/-- The leading octets. The bounds of the second octet keep out forms that are longer than
needed, surrogates and codes above the last character. -/
def lead? (octet : Nat) : Option Lead :=
  if octet < 0xC2 then none
  else if octet < 0xE0 then some ⟨octet - 0xC0, 0x80, 0xBF, 1⟩
  else if octet = 0xE0 then some ⟨0, 0xA0, 0xBF, 2⟩
  else if octet = 0xED then some ⟨13, 0x80, 0x9F, 2⟩
  else if octet < 0xF0 then some ⟨octet - 0xE0, 0x80, 0xBF, 2⟩
  else if octet = 0xF0 then some ⟨0, 0x90, 0xBF, 3⟩
  else if octet < 0xF4 then some ⟨octet - 0xF0, 0x80, 0xBF, 3⟩
  else if octet = 0xF4 then some ⟨4, 0x80, 0x8F, 3⟩
  else none

/-- Reads the octets of a character that are still to come, the next of them between `low` and
`high`: `seen` octets have been read, and `code` is what they carry. -/
def continuation (seen code low high : Nat) : Nat → List UInt8 → Except Defect (Nat × List UInt8)
  | 0, rest => .ok (code, rest)
  | _ + 1, [] => .error .truncated
  | more + 1, b :: rest =>
    if low ≤ b.toNat ∧ b.toNat ≤ high then
      continuation (seen + 1) (code * 64 + (b.toNat - 0x80)) 0x80 0xBF more rest
    else
      .error (.malformed seen)

def decodeChar (b : UInt8) (rest : List UInt8) : Except Defect (Char × List UInt8) :=
  if b.toNat < 0x80 then
    .ok (Char.ofNat b.toNat, rest)
  else
    match lead? b.toNat with
    | none => .error (.malformed 1)
    | some lead =>
      match continuation 1 lead.bits lead.low lead.high lead.following rest with
      | .error defect => .error defect
      | .ok (code, rest) => .ok (Char.ofNat code, rest)

theorem length_le_of_continuation {seen code low high more : Nat} {bs rest : List UInt8} {n : Nat}
    (h : continuation seen code low high more bs = .ok (n, rest)) : rest.length ≤ bs.length := by
  induction more generalizing seen code low high bs with
  | zero =>
    simp only [continuation, Except.ok.injEq, Prod.mk.injEq] at h
    simp [h.2]
  | succ more ih =>
    cases bs with
    | nil => simp [continuation] at h
    | cons b bs =>
      simp only [continuation] at h
      split at h
      · exact Nat.le_succ_of_le (ih h)
      · simp at h

theorem length_le_of_decodeChar {b : UInt8} {bs rest : List UInt8} {c : Char}
    (h : decodeChar b bs = .ok (c, rest)) : rest.length ≤ bs.length := by
  unfold decodeChar at h
  split at h
  · simp only [Except.ok.injEq, Prod.mk.injEq] at h
    simp [h.2]
  · split at h
    · simp at h
    · split at h
      · simp at h
      · next hc =>
        simp only [Except.ok.injEq, Prod.mk.injEq] at h
        exact h.2 ▸ length_le_of_continuation hc

def decodeFrom (start : Nat) : List UInt8 → Except Error (List Char)
  | [] => .ok []
  | b :: bs =>
    match h : decodeChar b bs with
    | .error defect => .error ⟨start, defect⟩
    | .ok (c, rest) =>
      have : rest.length < bs.length + 1 := Nat.lt_succ_of_le (length_le_of_decodeChar h)
      (decodeFrom (start + c.utf8Size) rest).map (c :: ·)
termination_by bs => bs.length

def decode (bs : List UInt8) : Except Error (List Char) :=
  decodeFrom 0 bs

def text (bs : List UInt8) : String :=
  match decode bs with
  | .ok cs => String.ofList cs
  | .error _ => ""

end SaslClient.Utf8
