import SaslClient.Encoding.Base64
import SaslClient.Proofs.Digest.Written
/-!
# What a proof binds

A proof is a hash of hashes. Two logins have the same proof only if they have the same transcript,
or if two messages that were hashed on the way to it are different and have the same hash. In the
same way the proofs of client and server are the same only by such a collision. Nothing is used of
the hash function but that it has 16 octets.
-/
namespace SaslClient

/-- Two different messages with the same hash. -/
def Md5.Collide (m n : List UInt8) : Prop :=
  m ≠ n ∧ hash m = hash n

theorem Md5.eq_or_collide {m n : List UInt8} (h : hash m = hash n) : m = n ∨ Collide m n := by
  by_cases heq : m = n
  · exact .inl heq
  · exact .inr ⟨heq, h⟩

namespace Digest

theorem hexHash_eq_iff {m n : List UInt8} : hexHash m = hexHash n ↔ Md5.hash m = Md5.hash n := by
  constructor
  · intro h
    exact Vector.toList_inj.1 (Hex.encode_injective h)
  · intro h
    rw [hexHash, hexHash, h]

theorem length_bytes_hexHash (message : List UInt8) :
    (Utf8.bytes (hexHash message)).length = 32 := by
  have hdigits : "0123456789abcdef".toList.all (·.utf8Size = 1) := by decide
  have hsingle : ∀ c ∈ (hexHash message).toList, c.utf8Size = 1 := by
    intro c hc
    exact of_decide_eq_true (List.all_eq_true.1 hdigits c (mem_hexHash hc))
  rw [Utf8.bytes, Utf8.length_encode hsingle, length_hexHash]

theorem length_bytes_nonceOf (octets : Vector UInt8 32) :
    (Utf8.bytes (nonceOf octets)).length = 44 := by
  have hsingle : ∀ c ∈ Base64.symbols octets.toList, c.utf8Size = 1 :=
    Base64.forall_mem_symbols (by decide) (by decide) octets.toList
  rw [Utf8.bytes, nonceOf, Base64.encode, String.toList_ofList, Utf8.length_encode hsingle,
    Base64.length_symbols, Vector.length_toList]

namespace Inputs

/-- The same was said in two logins, and with the same secret. Of name, realm and password only the
joined text counts. -/
structure SameTranscript (x y : Inputs) : Prop where
  nonce : x.nonce = y.nonce
  cnonce : x.cnonce = y.cnonce
  digestUri : x.digestUri = y.digestUri
  secret : x.username ++ ":" ++ x.realm ++ ":" ++ x.password =
    y.username ++ ":" ++ y.realm ++ ":" ++ y.password

/-- One of the four messages that a proof is hashed from, and its counterpart, collide. -/
inductive Collision (x y : Inputs) (prover : Prover) : Prop
  | secret (collide : Md5.Collide x.secret y.secret)
  | a1 (collide : Md5.Collide x.a1 y.a1)
  | a2 (collide : Md5.Collide (x.a2 prover) (y.a2 prover))
  | outer (collide : Md5.Collide (x.outer prover) (y.outer prover))

variable {x y : Inputs} {prover : Prover}

theorem proof_eq_of_sameTranscript (h : SameTranscript x y) (prover : Prover) :
    x.proof prover = y.proof prover := by
  have hsecret : x.secret = y.secret := congrArg Utf8.bytes h.secret
  have ha1 : x.a1 = y.a1 := by rw [a1, a1, hsecret, h.nonce, h.cnonce]
  have ha2 : x.a2 prover = y.a2 prover := by rw [a2, a2, h.digestUri]
  rw [proof, proof, outer, outer, ha1, ha2, h.nonce, h.cnonce]

private theorem parts_of_outer (hlength : (Utf8.bytes x.cnonce).length = (Utf8.bytes y.cnonce).length)
    (h : x.outer prover = y.outer prover) :
    hexHash x.a1 = hexHash y.a1 ∧ x.nonce = y.nonce ∧ x.cnonce = y.cnonce ∧
      hexHash (x.a2 prover) = hexHash (y.a2 prover) := by
  simp only [outer, Utf8.bytes_append, List.append_assoc] at h
  -- The hash in front has a known length, and so has all behind the nonce of the server. What is
  -- left between them is that nonce, colons or not.
  obtain ⟨ha1, h⟩ := List.append_inj h (by rw [length_bytes_hexHash, length_bytes_hexHash])
  have h := List.append_cancel_left h
  obtain ⟨hnonce, h⟩ := List.append_inj' h (by
    simp only [List.length_append, length_bytes_hexHash, hlength])
  have h := List.append_cancel_left (List.append_cancel_left (List.append_cancel_left h))
  obtain ⟨hcnonce, h⟩ := List.append_inj h hlength
  have ha2 := List.append_cancel_left (List.append_cancel_left (List.append_cancel_left h))
  exact ⟨Utf8.bytes_injective ha1, Utf8.bytes_injective hnonce, Utf8.bytes_injective hcnonce,
    Utf8.bytes_injective ha2⟩

private theorem hash_secret_of_a1 (h : x.a1 = y.a1) : Md5.hash x.secret = Md5.hash y.secret := by
  have hhash := List.append_inj_left h (by rw [Vector.length_toList, Vector.length_toList])
  exact Vector.toList_inj.1 hhash

private theorem digestUri_of_a2 (h : x.a2 prover = y.a2 prover) : x.digestUri = y.digestUri := by
  simp only [a2, Utf8.bytes_append, List.append_assoc] at h
  have h := List.append_cancel_left h
  exact Utf8.bytes_injective (List.append_cancel_left h)

/-- From the outside to the inside, each hash that is the same has the same message, or there is a
collision. -/
theorem sameTranscript_or_collision
    (hlength : (Utf8.bytes x.cnonce).length = (Utf8.bytes y.cnonce).length)
    (h : x.proof prover = y.proof prover) : SameTranscript x y ∨ Collision x y prover := by
  rcases Md5.eq_or_collide (hexHash_eq_iff.1 h) with houter | houter
  case inr => exact .inr (.outer houter)
  obtain ⟨hsession, hnonce, hcnonce, hrequest⟩ := parts_of_outer hlength houter
  rcases Md5.eq_or_collide (hexHash_eq_iff.1 hrequest) with ha2 | ha2
  case inr => exact .inr (.a2 ha2)
  rcases Md5.eq_or_collide (hexHash_eq_iff.1 hsession) with ha1 | ha1
  case inr => exact .inr (.a1 ha1)
  rcases Md5.eq_or_collide (hash_secret_of_a1 ha1) with hsecret | hsecret
  case inr => exact .inr (.secret hsecret)
  exact .inl ⟨hnonce, hcnonce, digestUri_of_a2 ha2, Utf8.bytes_injective hsecret⟩

/-- Both proofs bind the whole transcript, as far as no messages collide, between clients that draw
nonces of one length. -/
theorem proofs_bind_transcript (x y : Inputs)
    (same_length : (Utf8.bytes x.cnonce).length = (Utf8.bytes y.cnonce).length) :
    (x.response = y.response → SameTranscript x y ∨ Collision x y .client) ∧
      (x.serverProof = y.serverProof → SameTranscript x y ∨ Collision x y .server) ∧
      (SameTranscript x y → x.response = y.response ∧ x.serverProof = y.serverProof) ∧
      ∀ octets, (Utf8.bytes (nonceOf octets)).length = 44 := by
  refine ⟨?_, ?_, ?_, length_bytes_nonceOf⟩
  · intro h
    exact sameTranscript_or_collision same_length h
  · intro h
    exact sameTranscript_or_collision same_length h
  · intro h
    exact ⟨proof_eq_of_sameTranscript h .client, proof_eq_of_sameTranscript h .server⟩

theorem proofs_bind_transcript_shifted :
    let x : Inputs := ⟨"u:r", "r", "p", "n:", "c", "xmpp"⟩
    let y : Inputs := ⟨"u", "r", "r:p", "n:", "c", "xmpp"⟩
    x ≠ y ∧ (Utf8.bytes x.cnonce).length = (Utf8.bytes y.cnonce).length ∧
      x.response = y.response ∧ x.serverProof = y.serverProof ∧
      (SameTranscript x y ∨ Collision x y .client) ∧
      (SameTranscript x y ∨ Collision x y .server) := by
  intro x y
  have hsame : SameTranscript x y := ⟨rfl, rfl, rfl, by decide⟩
  have hlength : (Utf8.bytes x.cnonce).length = (Utf8.bytes y.cnonce).length := rfl
  obtain ⟨hclient, hserver, hproofs, -⟩ := proofs_bind_transcript x y hlength
  obtain ⟨hresponse, hproof⟩ := hproofs hsame
  exact ⟨by decide, hlength, hresponse, hproof, hclient hresponse, hserver hproof⟩

theorem a2_client (x : Inputs) : x.a2 .client = Utf8.bytes ("AUTHENTICATE:" ++ x.digestUri) :=
  rfl

theorem a2_server (x : Inputs) : x.a2 .server = Utf8.bytes (":" ++ x.digestUri) :=
  rfl

theorem a2_client_ne_server (x : Inputs) : x.a2 .client ≠ x.a2 .server := by
  intro h
  have hlength := congrArg List.length h
  have hclient : (Utf8.bytes "AUTHENTICATE:").length = 13 := by decide
  have hserver : (Utf8.bytes ":").length = 1 := by decide
  rw [a2_client, a2_server, Utf8.bytes_append, Utf8.bytes_append, List.length_append,
    List.length_append, hclient, hserver] at hlength
  omega

private theorem exists_front (x : Inputs) :
    ∃ front, ∀ prover, x.outer prover = Utf8.bytes (front ++ hexHash (x.a2 prover)) :=
  ⟨_, fun _ => rfl⟩

/-- A response is the proof of the server as well exactly by a collision: of what tells the two
apart, or of the outer messages, which then differ in their last 32 characters. -/
theorem response_eq_serverProof_iff (x : Inputs) :
    x.response = x.serverProof ↔
      Md5.Collide (Utf8.bytes ("AUTHENTICATE:" ++ x.digestUri)) (Utf8.bytes (":" ++ x.digestUri)) ∨
        ∃ front client server : String,
          x.outer .client = Utf8.bytes (front ++ client) ∧
            x.outer .server = Utf8.bytes (front ++ server) ∧
            client.length = 32 ∧ server.length = 32 ∧ client ≠ server ∧
            Md5.Collide (x.outer .client) (x.outer .server) := by
  obtain ⟨front, hfront⟩ := exists_front x
  constructor
  · intro h
    have hhash := hexHash_eq_iff.1 h
    by_cases hlast : hexHash (x.a2 .client) = hexHash (x.a2 .server)
    · exact .inl ⟨a2_client_ne_server x, hexHash_eq_iff.1 hlast⟩
    · have houter : x.outer .client ≠ x.outer .server := by
        intro heq
        rw [hfront, hfront, Utf8.bytes_append, Utf8.bytes_append] at heq
        exact hlast (Utf8.bytes_injective (List.append_cancel_left heq))
      exact .inr ⟨front, _, _, hfront .client, hfront .server, length_hexHash _, length_hexHash _,
        hlast, houter, hhash⟩
  · rintro (⟨-, hhash⟩ | ⟨-, -, -, -, -, -, -, -, -, hhash⟩)
    · rw [← a2_client, ← a2_server, ← hexHash_eq_iff] at hhash
      rw [response, serverProof, proof, proof, hfront, hfront, hhash]
    · exact hexHash_eq_iff.2 hhash

end Inputs

end Digest

end SaslClient
