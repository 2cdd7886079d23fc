import SaslClient.Encoding.Base64
import SaslClient.Proofs.Digest.Written
/-!
# Nonces of clients

A nonce shows 32 octets as 43 symbols and a padding sign, and other octets have another nonce. There
is nothing in it to escape, so it stands in a directive, and in the text of a response, as it is.
Each call for a nonce draws once, so the nonces are those of the draws in their order.
-/
namespace SaslClient

def Entropy.answers (e : Entropy) (n : Nat) : List Draw :=
  (List.range n).map fun i => e.answer (e.drawn + i)

theorem Entropy.answers_succ (e : Entropy) (n : Nat) :
    e.answers (n + 1) = e.draw.1 :: e.draw.2.answers n := by
  rw [answers, List.range_succ_eq_map, List.map_cons, List.map_map]
  refine congrArg _ (List.map_congr_left ?_)
  intro i _
  simp only [Function.comp_apply, draw, Nat.succ_eq_add_one, Nat.add_assoc, Nat.add_comm i]

namespace Digest

structure IsNonce (nonce : String) : Prop where
  length : nonce.length = 44
  symbols : ∀ c ∈ nonce.toList.take 43, c ∈ Base64.alphabet
  padding : nonce.toList.drop 43 = ['=']

theorem isNonce_nonceOf (octets : Vector UInt8 32) : IsNonce (nonceOf octets) := by
  obtain ⟨front, hsymbols, hfront⟩ := Base64.symbols_eq_append octets.toList
  have hlength := Base64.length_symbols octets.toList
  rw [Vector.length_toList] at hsymbols hlength
  have hsplit : (nonceOf octets).toList = front ++ ['='] := by
    rw [nonceOf, Base64.encode, String.toList_ofList, hsymbols]
    rfl
  have hcount : front.length = 43 := by
    rw [hsymbols, List.length_append, List.length_replicate] at hlength
    omega
  refine ⟨?_, ?_, ?_⟩
  · rw [← String.length_toList, hsplit, List.length_append, hcount]
    rfl
  · rw [hsplit, List.take_left' hcount]
    exact hfront
  · rw [hsplit, List.drop_left' hcount]

theorem nonceOf_injective {octets other : Vector UInt8 32} (h : nonceOf octets = nonceOf other) :
    octets = other :=
  Vector.toList_inj.1 (Base64.encode_injective h)

theorem escape_nonceOf (octets : Vector UInt8 32) :
    Directives.escape (nonceOf octets).toList = (nonceOf octets).toList := by
  apply Directives.escape_eq_self
  rw [nonceOf, Base64.encode, String.toList_ofList]
  exact Base64.forall_mem_symbols (by decide) (by decide) octets.toList

theorem written_quoted_nonceOf (w : Directives.Writer) (name : String)
    (octets : Vector UInt8 32) :
    (w.quoted name (nonceOf octets)).written =
      (if w.written = "" then "" else w.written ++ ",") ++
        (name ++ "=\"" ++ nonceOf octets ++ "\"") := by
  rw [Directives.Writer.quoted, escape_nonceOf, String.ofList_toList, Directives.Writer.append]
  split
  · exact String.empty_append.symm
  · rfl

/-! ## One call after the other -/

theorem drawNonce_eq (e : Entropy) : drawNonce e = (e.draw.1.map nonceOf, e.draw.2) :=
  rfl

def drawNonces : Nat → Entropy → List (Except EntropyError String) × Entropy
  | 0, e => ([], e)
  | n + 1, e =>
    let (nonce, e) := drawNonce e
    let (rest, e) := drawNonces n e
    (nonce :: rest, e)

theorem drawNonces_eq (n : Nat) (e : Entropy) :
    drawNonces n e =
      ((e.answers n).map (·.map nonceOf), { e with drawn := e.drawn + n }) := by
  induction n generalizing e with
  | zero => rfl
  | succ n ih =>
    rw [drawNonces, drawNonce_eq]
    simp only [ih, Entropy.answers_succ, List.map_cons, Entropy.draw, Nat.add_assoc,
      Nat.add_comm 1 n]

def successes {ε α : Type} (results : List (Except ε α)) : List α :=
  results.filterMap Except.toOption

theorem successes_map {ε α β : Type} (f : α → β) (results : List (Except ε α)) :
    successes (results.map (·.map f)) = (successes results).map f := by
  induction results with
  | nil => rfl
  | cons result results ih =>
    cases result with
    | error reason => exact ih
    | ok value => exact congrArg (f value :: ·) ih

theorem successes_drawNonces (n : Nat) (e : Entropy) :
    successes (drawNonces n e).1 = (successes (e.answers n)).map nonceOf := by
  rw [drawNonces_eq, successes_map]

end Digest

namespace DigestMd5

open Directives (Item Writer)

variable {x y : Digest.Inputs}

theorem exists_responseText_eq {octets : Vector UInt8 32} (h : x.cnonce = Digest.nonceOf octets) :
    ∃ front back, responseText x =
      front ++ "," ++ ("cnonce=\"" ++ Digest.nonceOf octets ++ "\"") ++ "," ++ back := by
  have hform : (Item.quoted "cnonce" x.cnonce).form =
      "cnonce=\"" ++ Digest.nonceOf octets ++ "\"" := by
    rw [Item.form, h, Digest.escape_nonceOf, String.ofList_toList]
    rfl
  have hbefore : (responseItems x).take 5 ≠ [] := List.cons_ne_nil _ _
  have hafter : (responseItems x).drop 6 ≠ [] := List.cons_ne_nil _ _
  have htext := Directives.intercalate_form_between (.quoted "cnonce" x.cnonce) hbefore hafter
  rw [hform] at htext
  rw [responseText_eq, Writer.written_addAll]
  exact ⟨_, _, htext⟩

/-- A response determines all that it was computed from but the password. -/
theorem eq_of_responseText (h : responseText x = responseText y) :
    x.username = y.username ∧ x.realm = y.realm ∧ x.digestUri = y.digestUri ∧
      x.nonce = y.nonce ∧ x.cnonce = y.cnonce := by
  rw [responseText_eq, responseText_eq, Writer.written_addAll, Writer.written_addAll] at h
  obtain ⟨husername, h⟩ := Directives.eq_of_intercalate_quoted h
  obtain ⟨hrealm, h⟩ := Directives.eq_of_intercalate_quoted h
  obtain ⟨huri, h⟩ := Directives.eq_of_intercalate_quoted h
  obtain ⟨hnonce, h⟩ := Directives.eq_of_intercalate_quoted h
  have h := Directives.eq_of_intercalate_cons h
  obtain ⟨hcnonce, -⟩ := Directives.eq_of_intercalate_quoted h
  exact ⟨husername, hrealm, huri, hnonce, hcnonce⟩

end DigestMd5

end SaslClient
