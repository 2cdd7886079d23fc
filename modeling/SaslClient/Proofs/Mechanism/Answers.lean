import SaslClient.Mechanism
/-!
# Answers of DIGEST-MD5

All that the mechanism can answer to a challenge, with the conditions and with what it leaves. The
first answer rests on a `Basis`, which determines what the response is computed from.
-/
namespace SaslClient.DigestMd5

variable {m : DigestMd5} {challenge : Directives} {e : Entropy} {x y : Digest.Inputs}

/-- What a response is computed from: the credentials, the challenge and a draw. -/
structure Basis (m : DigestMd5) (challenge : Directives) (e : Entropy) (x : Digest.Inputs) :
    Prop where
  username : m.username = some x.username
  password : m.password = some x.password
  nonce : challenge.get? "nonce" = some x.nonce
  realm : (challenge.get? "realm").or m.server = some x.realm
  cnonce : ∃ octets, e.draw.1 = .ok octets ∧ x.cnonce = Digest.nonceOf octets
  service : x.service = Digest.xmppService

/-- The answers to a first challenge, with the reasons in their order. -/
inductive FirstAnswer (m : DigestMd5) (challenge : Directives) (e : Entropy) :
    Answer DigestMd5 → Prop
  | lacking (credentials : m.username = none ∨ m.password = none) :
      FirstAnswer m challenge e
        { mechanism := m, entropy := e, result := .error .missingCredentials }
  | nonceless {username password : String} (has_username : m.username = some username)
      (has_password : m.password = some password) (nonce : challenge.get? "nonce" = none) :
      FirstAnswer m challenge e { mechanism := m, entropy := e, result := .error .noServerNonce }
  | realmless {username password nonce : String} (has_username : m.username = some username)
      (has_password : m.password = some password) (has_nonce : challenge.get? "nonce" = some nonce)
      (realm : (challenge.get? "realm").or m.server = none) :
      FirstAnswer m challenge e { mechanism := m, entropy := e, result := .error .noRealm }
  | undrawn {username password nonce realm : String} {reason : EntropyError}
      (has_username : m.username = some username) (has_password : m.password = some password)
      (has_nonce : challenge.get? "nonce" = some nonce)
      (has_realm : (challenge.get? "realm").or m.server = some realm)
      (failed : e.draw.1 = .error reason) :
      FirstAnswer m challenge e
        { mechanism := m, entropy := e.draw.2, result := .error (.cannotGenerateNonce reason) }
  | answered {x : Digest.Inputs} (basis : Basis m challenge e x) :
      FirstAnswer m challenge e
        { mechanism := { m with serverProof := some x.serverProof }
          entropy := e.draw.2
          result := .ok ⟨some (Utf8.bytes (responseText x)), .challengeResponseAuthSent⟩ }

theorem firstAnswer (m : DigestMd5) (challenge : Directives) (e : Entropy) :
    FirstAnswer m challenge e (m.respondFirst challenge e) := by
  rw [respondFirst]
  split
  next username password husername hpassword =>
    cases hnonce : challenge.get? "nonce" with
    | none => exact .nonceless husername hpassword hnonce
    | some nonce =>
      cases hrealm : (challenge.get? "realm").or m.server with
      | none => exact .realmless husername hpassword hnonce hrealm
      | some realm =>
        cases hdraw : e.draw.1 with
        | error reason =>
          have hfailed : Digest.drawNonce e = (.error reason, e.draw.2) := by
            simp only [Digest.drawNonce, hdraw]
            rfl
          rw [hfailed]
          exact .undrawn husername hpassword hnonce hrealm hdraw
        | ok octets =>
          have hdrawn : Digest.drawNonce e = (.ok (Digest.nonceOf octets), e.draw.2) := by
            simp only [Digest.drawNonce, hdraw]
            rfl
          rw [hdrawn]
          exact .answered ⟨husername, hpassword, hnonce, hrealm, ⟨octets, hdraw, rfl⟩, rfl⟩
  next hlacking =>
    apply FirstAnswer.lacking
    cases husername : m.username with
    | none => exact .inl rfl
    | some username =>
      cases hpassword : m.password with
      | none => exact .inr rfl
      | some password => exact absurd hpassword (hlacking username password husername)

theorem Basis.unique (hx : Basis m challenge e x) (hy : Basis m challenge e y) : x = y := by
  have husername := Option.some.inj (hx.username.symm.trans hy.username)
  have hpassword := Option.some.inj (hx.password.symm.trans hy.password)
  have hnonce := Option.some.inj (hx.nonce.symm.trans hy.nonce)
  have hrealm := Option.some.inj (hx.realm.symm.trans hy.realm)
  have hcnonce : x.cnonce = y.cnonce := by
    obtain ⟨octets, hdrawn, hx⟩ := hx.cnonce
    obtain ⟨octets', hdrawn', hy⟩ := hy.cnonce
    obtain rfl := Except.ok.inj (hdrawn.symm.trans hdrawn')
    rw [hx, hy]
  have hservice := hx.service.trans hy.service.symm
  cases x
  cases y
  simp_all only

theorem respondFirst_of_basis (h : Basis m challenge e x) :
    m.respondFirst challenge e =
      { mechanism := { m with serverProof := some x.serverProof }
        entropy := e.draw.2
        result := .ok ⟨some (Utf8.bytes (responseText x)), .challengeResponseAuthSent⟩ } := by
  have hanswer := firstAnswer m challenge e
  generalize m.respondFirst challenge e = answer at hanswer
  cases hanswer with
  | lacking credentials =>
    rw [h.username, h.password] at credentials
    rcases credentials with hnone | hnone <;> cases hnone
  | nonceless has_username has_password nonce => cases h.nonce.symm.trans nonce
  | realmless has_username has_password has_nonce realm => cases h.realm.symm.trans realm
  | undrawn has_username has_password has_nonce has_realm failed =>
    obtain ⟨octets, hdrawn, -⟩ := h.cnonce
    cases hdrawn.symm.trans failed
  | answered basis =>
    obtain rfl := basis.unique h
    rfl

/-- A first answer goes on if it has a basis, and otherwise leaves the mechanism as it is. -/
theorem basis_or_refused (m : DigestMd5) (challenge : Directives) (e : Entropy) :
    (∃ x, Basis m challenge e x) ∨ ∃ error,
      (m.respondFirst challenge e).result = .error error ∧
        (m.respondFirst challenge e).mechanism = m := by
  have hanswer := firstAnswer m challenge e
  generalize m.respondFirst challenge e = answer at hanswer ⊢
  cases hanswer with
  | answered basis => exact .inl ⟨_, basis⟩
  | _ => exact .inr ⟨_, rfl, rfl⟩

theorem entropy_respondFirst (m : DigestMd5) (challenge : Directives) (e : Entropy) :
    (m.respondFirst challenge e).entropy = e ∨ (m.respondFirst challenge e).entropy = e.draw.2 := by
  have hanswer := firstAnswer m challenge e
  generalize m.respondFirst challenge e = answer at hanswer ⊢
  cases hanswer with
  | lacking | nonceless | realmless => exact .inl rfl
  | undrawn | answered => exact .inr rfl

/-- The answers to a second challenge. A proof that was compared is not kept. -/
inductive SecondAnswer (m : DigestMd5) (challenge : Directives) (e : Entropy) :
    Answer DigestMd5 → Prop
  | unshown (rspauth : challenge.get? "rspauth" = none) :
      SecondAnswer m challenge e { mechanism := m, entropy := e, result := .error .noServerProof }
  | proofless {shown : String} (has_rspauth : challenge.get? "rspauth" = some shown)
      (proof : m.serverProof = none) :
      SecondAnswer m challenge e
        { mechanism := m, entropy := e
          result := .error (.unexpectedChallenge .challengeResponseAuthSent) }
  | mismatched {shown expected : String} (has_rspauth : challenge.get? "rspauth" = some shown)
      (has_proof : m.serverProof = some expected) (ne : shown ≠ expected) :
      SecondAnswer m challenge e
        { mechanism := { m with serverProof := none }, entropy := e, log := [.proofMismatch]
          result := .error .invalidServerProof }
  | matched {shown : String} (has_rspauth : challenge.get? "rspauth" = some shown)
      (has_proof : m.serverProof = some shown) :
      SecondAnswer m challenge e
        { mechanism := { m with serverProof := none }, entropy := e
          result := .ok ⟨none, .challengeResponseFinalSent⟩ }

theorem secondAnswer (m : DigestMd5) (challenge : Directives) (e : Entropy) :
    SecondAnswer m challenge e (m.respondSecond challenge e) := by
  rw [respondSecond]
  split
  next hshown => exact .unshown hshown
  next shown hshown =>
    split
    next hproof => exact .proofless hshown hproof
    next expected hproof =>
      by_cases heq : shown = expected
      · subst heq
        rw [if_pos rfl]
        exact .matched hshown hproof
      · rw [if_neg heq]
        exact .mismatched hshown hproof heq

theorem respondSecond_of_shown {proof : String} (m : DigestMd5)
    (h : challenge.get? "rspauth" = some proof) :
    respondSecond { m with serverProof := some proof } challenge e =
      { mechanism := { m with serverProof := none }, entropy := e
        result := .ok ⟨none, .challengeResponseFinalSent⟩ } := by
  simp only [respondSecond, h, if_true]

theorem entropy_respondSecond (m : DigestMd5) (challenge : Directives) (e : Entropy) :
    (m.respondSecond challenge e).entropy = e := by
  have hanswer := secondAnswer m challenge e
  generalize m.respondSecond challenge e = answer at hanswer ⊢
  cases hanswer <;> rfl

end SaslClient.DigestMd5
