import SaslClient.Digest.Md5
import SaslClient.Encoding.Base64
import SaslClient.Text.Utf8
/-!
# The response of DIGEST-MD5

Client and server show each other that they know a password by hashing it together with a nonce of
each of them. The client sends `response`, and the server answers with `serverProof`. Hashes are
written in hexadecimal digits, and the nonce of the client is made of random octets, which a source
gives or fails to give.
-/
namespace SaslClient

namespace Hex

def digit (n : Nat) : Char :=
  Char.ofNat (if n < 10 then 0x30 + n else 0x57 + n)

def digits (bs : List UInt8) : List Char :=
  bs.flatMap fun b => [digit (b.toNat / 16), digit (b.toNat % 16)]

def encode (bs : List UInt8) : String :=
  String.ofList (digits bs)

theorem digits_cons (b : UInt8) (bs : List UInt8) :
    digits (b :: bs) = digit (b.toNat / 16) :: digit (b.toNat % 16) :: digits bs :=
  rfl

private theorem digit_injective {m n : Nat} (hm : m < 16) (hn : n < 16)
    (h : digit m = digit n) : m = n := by
  have all : ∀ i j : Fin 16, digit i.val = digit j.val → i = j := by decide
  exact congrArg Fin.val (all ⟨m, hm⟩ ⟨n, hn⟩ h)

theorem digits_injective {bs cs : List UInt8} (h : digits bs = digits cs) : bs = cs := by
  induction bs generalizing cs with
  | nil =>
    cases cs with
    | nil => rfl
    | cons c cs => cases h
  | cons b bs ih =>
    cases cs with
    | nil => cases h
    | cons c cs =>
      rw [digits_cons, digits_cons] at h
      obtain ⟨hhigh, h⟩ := List.cons.inj h
      obtain ⟨hlow, hrest⟩ := List.cons.inj h
      have hb := b.toNat_lt
      have hc := c.toNat_lt
      have hhigh := digit_injective (by omega) (by omega) hhigh
      have hlow := digit_injective (by omega) (by omega) hlow
      have hoctet : b = c := UInt8.toNat_inj.1 (by omega)
      rw [hoctet, ih hrest]

theorem encode_injective {bs cs : List UInt8} (h : encode bs = encode cs) : bs = cs :=
  digits_injective (String.ofList_injective h)

end Hex

inductive EntropyError
  | unsupported
  | unexpected
  | unknown (code : Nat)
deriving DecidableEq, Repr

def EntropyError.message : EntropyError → String
  | unsupported => "getrandom: this target is not supported"
  | unexpected => "unexpected situation"
  | unknown code => "Unknown Error: " ++ toString code

abbrev Draw := Except EntropyError (Vector UInt8 32)

/-- A source of random octets, by its answers to the draws in their order, and the number of draws
so far. -/
structure Entropy where
  answer : Nat → Draw
  drawn : Nat := 0

def Entropy.draw (e : Entropy) : Draw × Entropy :=
  (e.answer e.drawn, { e with drawn := e.drawn + 1 })

namespace Digest

def nonceCount : String := "00000001"

def qualityOfProtection : String := "auth"

def xmppService : String := "xmpp"

structure Inputs where
  username : String
  realm : String
  password : String
  nonce : String
  cnonce : String
  service : String
deriving DecidableEq, Repr

inductive Prover
  | client
  | server
deriving DecidableEq, Repr

def Prover.method : Prover → String
  | client => "AUTHENTICATE"
  | server => ""

def hexHash (message : List UInt8) : String :=
  Hex.encode (Md5.hash message).toList

namespace Inputs

def digestUri (x : Inputs) : String :=
  x.service ++ "/" ++ x.realm

def secret (x : Inputs) : List UInt8 :=
  Utf8.bytes (x.username ++ ":" ++ x.realm ++ ":" ++ x.password)

/-- The hash of the secret as it is, not in digits, with both nonces. -/
def a1 (x : Inputs) : List UInt8 :=
  (Md5.hash x.secret).toList ++ Utf8.bytes (":" ++ x.nonce ++ ":" ++ x.cnonce)

def a2 (x : Inputs) (prover : Prover) : List UInt8 :=
  Utf8.bytes (prover.method ++ ":" ++ x.digestUri)

def outer (x : Inputs) (prover : Prover) : List UInt8 :=
  Utf8.bytes (hexHash x.a1 ++ ":" ++ x.nonce ++ ":" ++ nonceCount ++ ":" ++ x.cnonce ++ ":" ++
    qualityOfProtection ++ ":" ++ hexHash (x.a2 prover))

def proof (x : Inputs) (prover : Prover) : String :=
  hexHash (x.outer prover)

def response (x : Inputs) : String :=
  x.proof .client

def serverProof (x : Inputs) : String :=
  x.proof .server

end Inputs

/-- The nonce of a client: 32 random octets in Base64, so that it needs no escape in quotes. -/
def nonceOf (octets : Vector UInt8 32) : String :=
  Base64.encode octets.toList

def drawNonce (entropy : Entropy) : Except EntropyError String × Entropy :=
  let (drawn, entropy) := entropy.draw
  (drawn.map nonceOf, entropy)

end Digest

end SaslClient
