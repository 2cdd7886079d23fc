import SaslClient.Proofs.Digest.Written
import SaslClient.Proofs.Mechanism.Answers
/-!
# The response reads back

Names, realms and nonces are any text. Whatever they are, the payload of a response holds its nine
directives and no other, and the response in it is computed from the values that are written. A
reader finds fault only with a value that is empty.
-/
namespace SaslClient.DigestMd5

open Directives (Item)

variable {x : Digest.Inputs}

def responseFor (password username realm uri nonce count cnonce quality : String) : String :=
  let secret := Md5.hash (Utf8.bytes (username ++ ":" ++ realm ++ ":" ++ password))
  let session := Digest.hexHash (secret.toList ++ Utf8.bytes (":" ++ nonce ++ ":" ++ cnonce))
  let request := Digest.hexHash (Utf8.bytes ("AUTHENTICATE" ++ ":" ++ uri))
  Digest.hexHash (Utf8.bytes (session ++ ":" ++ nonce ++ ":" ++ count ++ ":" ++ cnonce ++ ":" ++
    quality ++ ":" ++ request))

theorem response_eq (x : Digest.Inputs) :
    x.response = responseFor x.password x.username x.realm x.digestUri x.nonce Digest.nonceCount
      x.cnonce Digest.qualityOfProtection :=
  rfl

theorem entries_responseItems (hservice : x.service = Digest.xmppService) :
    (responseItems x).map (·.entry) =
      [("username", x.username), ("realm", x.realm), ("digest-uri", "xmpp/" ++ x.realm),
        ("nonce", x.nonce), ("nc", "00000001"), ("cnonce", x.cnonce), ("qop", "auth"),
        ("charset", "utf-8"),
        ("response", responseFor x.password x.username x.realm ("xmpp/" ++ x.realm) x.nonce
          "00000001" x.cnonce "auth")] := by
  have huri : x.digestUri = "xmpp/" ++ x.realm := by
    rw [Digest.Inputs.digestUri, hservice]
    rfl
  have hresponse := response_eq x
  rw [huri] at hresponse
  simp only [responseItems, List.map_cons, List.map_nil, Item.entry, huri, hresponse]
  rfl

theorem nodup_names_responseItems (x : Digest.Inputs) :
    (((responseItems x).map (·.entry)).map (·.1)).Nodup := by
  simp only [responseItems, List.map_cons, List.map_nil, Item.entry]
  decide

private theorem parse_responseText_of_empty {before after : List Item} {name : String}
    (hitems : responseItems x = before ++ .quoted name "" :: after)
    (hbefore : ∀ i ∈ before, i.Valid) (hname : Grammar.IsName name.toList) :
    Directives.parse (Utf8.bytes (responseText x)) = .error (.malformed (.emptyValue name)) := by
  rw [responseText_eq, hitems]
  exact Directives.parse_write_of_empty hbefore hname

theorem parse_responseText_of_nameless (h : x.username = "") :
    Directives.parse (Utf8.bytes (responseText x)) =
      .error (.malformed (.emptyValue "username")) := by
  have hitems : responseItems x = [] ++ .quoted "username" "" :: (responseItems x).tail := by
    rw [responseItems, h]
    rfl
  exact parse_responseText_of_empty hitems (List.forall_mem_nil _) (by decide)

theorem parse_responseText_of_realmless (husername : x.username ≠ "") (h : x.realm = "") :
    Directives.parse (Utf8.bytes (responseText x)) =
      .error (.malformed (.emptyValue "realm")) := by
  have hitems : responseItems x =
      [.quoted "username" x.username] ++ .quoted "realm" "" :: (responseItems x).tail.tail := by
    rw [responseItems, h]
    rfl
  refine parse_responseText_of_empty hitems ?_ (by decide)
  intro i hi
  rw [List.mem_singleton.1 hi]
  exact Item.valid_quoted (by decide) husername

/-- A reader accepts a response with a user name and a realm. -/
theorem exists_parse_responseText_iff (hnonce : x.nonce ≠ "") (hcnonce : x.cnonce ≠ "") :
    (∃ d, Directives.parse (Utf8.bytes (responseText x)) = .ok d) ↔
      x.username ≠ "" ∧ x.realm ≠ "" := by
  constructor
  · intro ⟨d, hd⟩
    have husername : x.username ≠ "" := by
      intro h
      cases (parse_responseText_of_nameless h).symm.trans hd
    refine ⟨husername, ?_⟩
    intro h
    cases (parse_responseText_of_realmless husername h).symm.trans hd
  · intro ⟨husername, hrealm⟩
    exact ⟨_, parse_responseText husername hrealm hnonce hcnonce⟩

/-- The payload of a response is accepted if the user name and the realm are not empty. It then
yields the nine directives of the response, and the response is computed from the values that stand
there. -/
theorem response_reads_back {m : DigestMd5} {data : List UInt8} {challenge : Directives}
    {e : Entropy} {username password nonce realm : String} {octets : Vector UInt8 32}
    (has_username : m.username = some username) (has_password : m.password = some password)
    (parsed : Directives.parse data = .ok challenge)
    (has_nonce : challenge.get? "nonce" = some nonce)
    (has_realm : (challenge.get? "realm").or m.server = some realm)
    (drawn : e.draw.1 = .ok octets) :
    let cnonce := Base64.encode octets.toList
    let response :=
      responseFor password username realm ("xmpp/" ++ realm) nonce "00000001" cnonce "auth"
    ∃ payload,
      (m.respond .challengeResponsePending challenge e).result =
          .ok ⟨some payload, .challengeResponseAuthSent⟩ ∧
        ((∃ d, Directives.parse payload = .ok d) ↔ username ≠ "" ∧ realm ≠ "") ∧
        (∀ d, Directives.parse payload = .ok d → d.entries.Perm
          [("username", username), ("realm", realm), ("digest-uri", "xmpp/" ++ realm),
            ("nonce", nonce), ("nc", "00000001"), ("cnonce", cnonce), ("qop", "auth"),
            ("charset", "utf-8"), ("response", response)]) ∧
        response.toList.length = 32 ∧
        (∀ c ∈ response.toList, c ∈ "0123456789abcdef".toList) ∧
        (username = "" →
          Directives.parse payload = .error (.malformed (.emptyValue "username"))) ∧
        (username ≠ "" → realm = "" →
          Directives.parse payload = .error (.malformed (.emptyValue "realm"))) := by
  intro cnonce response
  let x : Digest.Inputs :=
    { username, realm, password, nonce, cnonce, service := Digest.xmppService }
  have hbasis : Basis m challenge e x :=
    ⟨has_username, has_password, has_nonce, has_realm, ⟨octets, drawn, rfl⟩, rfl⟩
  have hnonce : x.nonce ≠ "" := Directives.ne_empty_of_parse parsed has_nonce
  have hcnonce : x.cnonce ≠ "" := Digest.nonceOf_ne_empty octets
  have haccepted := exists_parse_responseText_iff hnonce hcnonce
  refine ⟨Utf8.bytes (responseText x), ?_, haccepted, ?_, Digest.length_hexHash _, ?_, ?_, ?_⟩
  · exact congrArg (·.result) (respondFirst_of_basis hbasis)
  · intro d hd
    obtain ⟨husername, hrealm⟩ := haccepted.1 ⟨d, hd⟩
    have hread := parse_responseText husername hrealm hnonce hcnonce
    obtain rfl := Except.ok.inj (hd.symm.trans hread)
    have hperm := Fields.perm_entries_ofList (nodup_names_responseItems x)
    rw [entries_responseItems rfl] at hperm ⊢
    exact hperm
  · intro c hc
    exact Digest.mem_hexHash hc
  · intro h
    exact parse_responseText_of_nameless (x := x) h
  · intro husername h
    exact parse_responseText_of_realmless (x := x) husername h

theorem response_reads_back_escaped :
    let m : DigestMd5 :=
      { username := some "a\",realm=\"b\\", password := some "é", server := some "x,y=\"" }
    let e : Entropy := { answer := fun _ => .ok (Vector.replicate 32 7) }
    let data := Utf8.bytes (({} : Directives.Writer).addAll [.quoted "nonce" "n\",="]).written
    let challenge := Fields.ofList [("nonce", "n\",=")]
    Directives.parse data = .ok challenge ∧ challenge.get? "nonce" = some "n\",=" ∧
      (challenge.get? "realm").or m.server = some "x,y=\"" ∧
      e.draw.1 = .ok (Vector.replicate 32 7) ∧
      ∃ payload d,
        (m.respond .challengeResponsePending challenge e).result =
            .ok ⟨some payload, .challengeResponseAuthSent⟩ ∧
          Directives.parse payload = .ok d ∧ d.entries.length = 9 := by
  intro m e data challenge
  have hparsed : Directives.parse data = .ok challenge :=
    Directives.parse_write (by simp) (by decide)
  have hnonce : challenge.get? "nonce" = some "n\",=" := by decide
  have hrealm : (challenge.get? "realm").or m.server = some "x,y=\"" := by decide
  have hdrawn : e.draw.1 = .ok (Vector.replicate 32 7) := rfl
  obtain ⟨payload, hresult, haccepted, hentries, -⟩ :=
    response_reads_back (m := m) rfl rfl hparsed hnonce hrealm hdrawn
  obtain ⟨d, hd⟩ := haccepted.2 (by decide)
  exact ⟨hparsed, hnonce, hrealm, hdrawn, payload, d, hresult, hd, (hentries d hd).length_eq⟩

end SaslClient.DigestMd5
