import SaslClient.Encoding.Base64.RoundTrip
import SaslClient.Mechanism
import SaslClient.Proofs.Directive.Writing
/-!
# The response and the proof in writing

A response is the list `responseItems` of nine items, so a server reads back what it was computed
from, and the challenge that a server answers with holds its proof and nothing else.
-/
namespace SaslClient.Digest

open Directives (Item)

private theorem digit_mem {n : Nat} (h : n < 16) : Hex.digit n ∈ "0123456789abcdef".toList := by
  have all : ∀ i : Fin 16, Hex.digit i.val ∈ "0123456789abcdef".toList := by decide
  exact all ⟨n, h⟩

theorem mem_hexHash {message : List UInt8} {c : Char} (h : c ∈ (hexHash message).toList) :
    c ∈ "0123456789abcdef".toList := by
  rw [hexHash, Hex.encode, String.toList_ofList, Hex.digits, List.mem_flatMap] at h
  obtain ⟨b, -, hc⟩ := h
  have hb := b.toNat_lt
  simp only [List.mem_cons, List.not_mem_nil, or_false] at hc
  rcases hc with rfl | rfl
  · exact digit_mem (by omega)
  · exact digit_mem (by omega)

theorem length_hexHash (message : List UInt8) : (hexHash message).toList.length = 32 := by
  rw [hexHash, Hex.encode, String.toList_ofList, Hex.digits]
  simp [List.length_flatMap, List.map_const']

theorem valid_hexHash {name : String} (hname : Grammar.IsName name.toList) (message : List UInt8) :
    (Item.bare name (hexHash message)).Valid := by
  apply Item.valid_bare hname
  · intro h
    have := length_hexHash message
    simp [h] at this
  · intro hcomma
    have := mem_hexHash hcomma
    revert this
    decide
  · rintro c hquote rfl
    have := mem_hexHash (List.mem_of_mem_head? hquote)
    revert this
    decide

theorem nonceOf_ne_empty (octets : Vector UInt8 32) : nonceOf octets ≠ "" := by
  apply Base64.encode_ne_empty
  intro h
  have := congrArg List.length h
  simp at this

end SaslClient.Digest

namespace SaslClient.DigestMd5

open Directives (Item Writer)

def responseItems (x : Digest.Inputs) : List Item :=
  [.quoted "username" x.username, .quoted "realm" x.realm, .quoted "digest-uri" x.digestUri,
    .quoted "nonce" x.nonce, .bare "nc" Digest.nonceCount, .quoted "cnonce" x.cnonce,
    .bare "qop" Digest.qualityOfProtection, .bare "charset" "utf-8", .bare "response" x.response]

theorem responseText_eq (x : Digest.Inputs) :
    responseText x = (({} : Writer).addAll (responseItems x)).written := by
  simp only [responseText, responseItems, Writer.addAll, List.foldl_cons, List.foldl_nil,
    Writer.add, Writer.finish]

theorem responseText_ne_empty (x : Digest.Inputs) : responseText x ≠ "" := by
  rw [responseText_eq, Writer.written_addAll]
  intro h
  have := congrArg String.toList h
  simp [responseItems, Item.form, String.toList_append] at this

theorem valid_responseItems {x : Digest.Inputs} (husername : x.username ≠ "")
    (hrealm : x.realm ≠ "") (hnonce : x.nonce ≠ "") (hcnonce : x.cnonce ≠ "") :
    ∀ i ∈ responseItems x, i.Valid := by
  have huri : x.digestUri ≠ "" := by
    intro h
    have := congrArg String.toList h
    simp [Digest.Inputs.digestUri, String.toList_append] at this
  simp only [responseItems, List.forall_mem_cons]
  exact ⟨Item.valid_quoted (by decide) husername, Item.valid_quoted (by decide) hrealm,
    Item.valid_quoted (by decide) huri, Item.valid_quoted (by decide) hnonce, by decide,
    Item.valid_quoted (by decide) hcnonce, by decide, by decide,
    Digest.valid_hexHash (by decide) _, by simp⟩

/-- A server reads back the directives of a response. -/
theorem parse_responseText {x : Digest.Inputs} (husername : x.username ≠ "")
    (hrealm : x.realm ≠ "") (hnonce : x.nonce ≠ "") (hcnonce : x.cnonce ≠ "") :
    Directives.parse (Utf8.bytes (responseText x)) =
      .ok (Fields.ofList ((responseItems x).map (·.entry))) := by
  rw [responseText_eq]
  apply Directives.parse_write
  · simp [responseItems]
  · exact valid_responseItems husername hrealm hnonce hcnonce

/-- The text of the challenge in which a server shows its proof. -/
def proofText (proof : String) : String :=
  "rspauth=" ++ proof

theorem parse_proofText (x : Digest.Inputs) :
    Directives.parse (Utf8.bytes (proofText x.serverProof)) =
      .ok (Fields.ofList [("rspauth", x.serverProof)]) := by
  have hvalid : ∀ i ∈ [Item.bare "rspauth" x.serverProof], i.Valid := by
    intro i hi
    rw [List.mem_singleton.1 hi]
    exact Digest.valid_hexHash (by decide) _
  have hread := Directives.parse_write (by simp) hvalid
  rw [Writer.written_addAll, List.map_singleton, String.intercalate_singleton] at hread
  exact hread

end SaslClient.DigestMd5
