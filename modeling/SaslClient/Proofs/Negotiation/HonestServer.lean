import SaslClient.Dialogue
import SaslClient.Encoding.Base64
import SaslClient.Proofs.Mechanism.Preference
import SaslClient.Proofs.Negotiation.Authentication
/-!
# A server that knows the password

Such a server finds in a response all that the response was computed from. It computes the response
again, finds it right, and shows its own proof, and the client ends the attempt with success.
-/
namespace SaslClient

namespace Selection

theorem select_digestMd5 {offered : List String} {allowed : List MechanismKind}
    (hallowed : .digestMd5 ∈ allowed) (hoffered : "DIGEST-MD5" ∈ offered) :
    ∃ entries, select offered allowed = (some .digestMd5, entries) := by
  have hpreferred : IsPreferred (Available offered allowed) .digestMd5 := by
    refine ⟨⟨hoffered, hallowed⟩, ?_⟩
    intro other _
    cases other <;> decide
  exact ⟨_, Prod.ext (select_eq_some_iff.2 hpreferred) rfl⟩

end Selection

namespace Base64

private theorem isBlank_of_mem_symbols (bs : List UInt8) :
    ∀ c ∈ symbols bs, Blank.isBlank c = false :=
  forall_mem_symbols (by decide +kernel) (by decide) bs

end Base64

theorem Negotiation.readChallenge_encode {octets : List UInt8} {m : Directives}
    (h : Directives.parse octets = .ok m) : readChallenge (Base64.encode octets) = .ok m := by
  have hblank := Base64.isBlank_of_mem_symbols octets
  have htrim : String.ofList (Blank.trim (Base64.encode octets).toList) = Base64.encode octets := by
    rw [Base64.encode, String.toList_ofList, Blank.trim_eq_self hblank]
  rw [readChallenge, htrim, Base64.decode_encode]
  simp only [h]

namespace Server

def inputs? (password : String) (m : Directives) : Option Digest.Inputs :=
  match m.get? "username", m.get? "realm", m.get? "nonce", m.get? "cnonce" with
  | some username, some realm, some nonce, some cnonce =>
    some { username, realm, password, nonce, cnonce, service := Digest.xmppService }
  | _, _, _, _ => none

def proofChallenge (x : Digest.Inputs) : String :=
  Base64.encode (Utf8.bytes (DigestMd5.proofText x.serverProof))

def directivesOf (x : Digest.Inputs) : Directives :=
  Fields.ofList ((DigestMd5.responseItems x).map (·.entry))

/-- A server finds in a response what it was computed from. -/
theorem inputs?_directivesOf {x : Digest.Inputs} (h : x.service = Digest.xmppService) :
    inputs? x.password (directivesOf x) = some x := by
  have hget (name : String) : (directivesOf x).get? name = _ := Fields.get?_ofList _ name
  simp [inputs?, hget, DigestMd5.responseItems, Directives.Item.entry, ← h]

theorem get?_response (x : Digest.Inputs) :
    (directivesOf x).get? "response" = some x.response := by
  rw [directivesOf, Fields.get?_ofList]
  rfl

theorem readResponse_answerStanza {x : Digest.Inputs} (husername : x.username ≠ "")
    (hrealm : x.realm ≠ "") (hnonce : x.nonce ≠ "") (hcnonce : x.cnonce ≠ "") :
    Dialogue.readResponse (Negotiation.answerStanza x) = some (directivesOf x) := by
  rw [Dialogue.readResponse, Negotiation.text_answerStanza, Base64.decode_encode]
  simp only [DigestMd5.parse_responseText husername hrealm hnonce hcnonce]
  rfl

theorem readChallenge_proofChallenge (x : Digest.Inputs) :
    ∃ shown, Negotiation.readChallenge (proofChallenge x) = .ok shown ∧
      shown.get? "rspauth" = some x.serverProof := by
  refine ⟨_, Negotiation.readChallenge_encode (DigestMd5.parse_proofText x), ?_⟩
  rw [Fields.get?_ofList]
  rfl

end Server

namespace Negotiation

variable {c : Credentials} {config : Config} {e : Entropy}

/-- What follows on two inputs, where the server knows the password: it reads the response, finds
it right, and shows its proof. -/
structure Accepted (c : Credentials) (config : Config) (e : Entropy) (password : String)
    (opening : List Input) where
  auth : Element
  response : Element
  directives : Directives
  inputs : Digest.Inputs
  opened : (run c config e opening).stanzas = [auth, response]
  read : Dialogue.readResponse response = some directives
  recomputed : Server.inputs? password directives = some inputs
  right : directives.get? "response" = some inputs.response
  final : (run c config e (opening ++
    [⟨.up, .challenge (Server.proofChallenge inputs)⟩])).attempt.state =
      .challengeResponseFinalSent
  stanzas : (run c config e (opening ++
    [⟨.up, .challenge (Server.proofChallenge inputs)⟩])).stanzas =
      [auth, response, responseStanza none]
  succeeded : (run c config e (opening ++
    [⟨.up, .challenge (Server.proofChallenge inputs)⟩, ⟨.up, .success⟩])).attempt.state =
      .succeeded
  outcomes : (run c config e (opening ++
    [⟨.up, .challenge (Server.proofChallenge inputs)⟩, ⟨.up, .success⟩])).outcomes =
      [.authenticated]

private theorem ne_empty_of_readChallenge {payload name value : String} {challenge : Directives}
    (h : readChallenge payload = .ok challenge) (hvalue : challenge.get? name = some value) :
    value ≠ "" := by
  rw [readChallenge] at h
  split at h
  next => cases h
  next octets _ =>
    split at h
    next => cases h
    next m hparse =>
      cases h
      exact Directives.ne_empty_of_parse hparse hvalue

private theorem exists_grounds {username password payload nonce : String} {challenge : Directives}
    {octets : Vector UInt8 32} (husername : c.username = some username)
    (hpassword : c.password = some password) (hdrawn : e.draw.1 = .ok octets)
    (hread : readChallenge payload = .ok challenge)
    (hnonce : challenge.get? "nonce" = some nonce)
    (hrealm : (∃ realm, challenge.get? "realm" = some realm) ∨
      ∃ server, c.server = some server ∧ server ≠ "") :
    ∃ g : Grounds c payload e, g.username = username ∧ g.password = password ∧
      g.realm ≠ "" ∧ g.nonce ≠ "" := by
  have hparsed {name value : String} (h : challenge.get? name = some value) : value ≠ "" :=
    ne_empty_of_readChallenge hread h
  obtain ⟨realm, hsome, hne⟩ :
      ∃ realm, (challenge.get? "realm").or c.server = some realm ∧ realm ≠ "" := by
    cases hchallenge : challenge.get? "realm" with
    | some realm => exact ⟨realm, rfl, hparsed hchallenge⟩
    | none =>
      rcases hrealm with ⟨realm, hrealm⟩ | hserver
      · rw [hchallenge] at hrealm
        cases hrealm
      · exact hserver
  exact ⟨⟨challenge, username, password, nonce, realm, octets, hread, husername, hpassword, hnonce,
    hsome, hdrawn⟩, rfl, rfl, hne, hparsed hnonce⟩

/-- A server that knows the password is always accepted. -/
theorem honest_server_is_accepted {username password payload : String} {offered : List String}
    {challenge : Directives} {octets : Vector UInt8 32}
    (hallowed : .digestMd5 ∈ config.mechanisms) (hoffered : "DIGEST-MD5" ∈ offered)
    (husername : c.username = some username) (hne : username ≠ "")
    (hpassword : c.password = some password) (hdrawn : e.draw.1 = .ok octets)
    (hread : readChallenge payload = .ok challenge)
    (hnonce : ∃ nonce, challenge.get? "nonce" = some nonce)
    (hrealm : (∃ realm, challenge.get? "realm" = some realm) ∨
      ∃ server, c.server = some server ∧ server ≠ "") :
    Nonempty (Accepted c config e password
      [⟨.up, .start offered⟩, ⟨.up, .challenge payload⟩]) := by
  obtain ⟨nonce, hnonce⟩ := hnonce
  obtain ⟨g, rfl, rfl, hrealmNe, hnonceNe⟩ :=
    exists_grounds husername hpassword hdrawn hread hnonce hrealm
  obtain ⟨entries, hselect⟩ := Selection.select_digestMd5 hallowed hoffered
  obtain ⟨auth, hauth⟩ : ∃ auth, authStanza config .digestMd5 none = .ok auth :=
    ⟨_, authStanza_eq config .digestMd5 none⟩
  obtain ⟨shown, hshown, hproof⟩ := Server.readChallenge_proofChallenge g.digest
  -- The four moves, one after the other.
  have hopening : Reached c config e [⟨.up, .start offered⟩, ⟨.up, .challenge payload⟩] _ _ _ :=
    (Reached.start.step (.launched hselect rfl hauth)).step (.responded g)
  have hproved := hopening.step (.proven hshown hproof)
  have hwhole := hproved.step (i := ⟨.up, .success⟩) (.completed rfl rfl)
  refine ⟨⟨auth, answerStanza g.digest, Server.directivesOf g.digest, g.digest, ?_,
    Server.readResponse_answerStanza hne hrealmNe hnonceNe (Digest.nonceOf_ne_empty _),
    Server.inputs?_directivesOf rfl, Server.get?_response g.digest, ?_, ?_, ?_, ?_⟩⟩
  · rw [run_of_reached hopening, ← answerStanza_eq]
    simp only [Turn.stanzas, List.nil_append, List.append_assoc, Effect.stanzas_of_logged]
    rfl
  · rw [run_of_reached hproved]
    rfl
  · rw [run_of_reached hproved, ← answerStanza_eq]
    simp only [Turn.stanzas, List.nil_append, List.append_assoc, Effect.stanzas_of_logged]
    rfl
  · exact congrArg (·.attempt.state) (run_of_reached hwhole)
  · refine (congrArg Turn.outcomes (run_of_reached hwhole)).trans ?_
    simp only [Turn.outcomes, List.nil_append, List.append_assoc, Effect.outcomes_of_logged]
    rfl

theorem honest_server_is_accepted_escaped :
    let c : Credentials := { username := some "a\"b\\c,=é", password := some "" }
    let e : Entropy := { answer := fun _ => .ok (Vector.replicate 32 7) }
    -- The challenge is the text `realm="r",nonce="n"` in Base64.
    let payload := "cmVhbG09InIiLG5vbmNlPSJuIg=="
    ∃ challenge, readChallenge payload = .ok challenge ∧ challenge.get? "nonce" = some "n" ∧
      challenge.get? "realm" = some "r" ∧
      Nonempty (Accepted c {} e "" [⟨.up, .start ["DIGEST-MD5"]⟩, ⟨.up, .challenge payload⟩]) := by
  intro c e payload
  have hsome : (readChallenge payload).toOption.isSome = true := by decide +kernel
  cases hread : readChallenge payload with
  | error failure =>
    rw [hread] at hsome
    cases hsome
  | ok challenge =>
    have hget (name : String) :
        (readChallenge payload).toOption.bind (·.get? name) = challenge.get? name := by
      rw [hread]
      rfl
    have hnonce : challenge.get? "nonce" = some "n" := by
      rw [← hget]
      decide +kernel
    have hrealm : challenge.get? "realm" = some "r" := by
      rw [← hget]
      decide +kernel
    refine ⟨challenge, rfl, hnonce, hrealm, ?_⟩
    exact honest_server_is_accepted (by decide) (by decide) rfl (by decide) rfl rfl hread
      ⟨"n", hnonce⟩ (.inl ⟨"r", hrealm⟩)

end Negotiation

end SaslClient
