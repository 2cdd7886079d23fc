import SaslClient.Digest.Response
import SaslClient.Directive.Basic
import SaslClient.Effect
import SaslClient.Text.Characters
import SaslClient.Text.Utf8
/-!
# Mechanisms

What a mechanism makes of credentials and wants sent, and what it answers to a challenge. With PLAIN
the client sends its name and password in one message, and the server says whether they are right.
With DIGEST-MD5 the server sends a nonce in its first challenge, and the client answers with a nonce
of its own and a proof that it knows the password. The second challenge holds the proof of the
server, which is good once only.
-/
namespace SaslClient

structure Credentials where
  username : Option String := none
  password : Option String := none
  server : Option String := none
deriving DecidableEq

namespace Credentials

def wipe (_ : Credentials) : Credentials :=
  {}

/-- A text for logs, which shows whether there is a password, and never the password itself. -/
def describe (c : Credentials) : String :=
  "Credentials \x7b username: " ++ Quoted.quoteOption c.username ++
    ", password: " ++ Quoted.quoteOption (c.password.map fun _ => "[redacted]") ++
    ", server: " ++ Quoted.quoteOption c.server ++ " \x7d"

end Credentials

structure Step where
  payload : Option (List UInt8)
  next : State
deriving DecidableEq

/-- What a mechanism makes of a challenge: itself afterwards, the entropy that is left, what it
logs, and the next step or a refusal. -/
structure Answer (μ : Type) where
  mechanism : μ
  entropy : Entropy
  log : List LogEntry := []
  result : Except MechanismError Step

/-! ## PLAIN -/

structure Plain where
  username : String
  password : String
deriving DecidableEq

namespace Plain

def ofCredentials (c : Credentials) : Except MechanismError Plain :=
  match c.username, c.password with
  | some username, some password => .ok ⟨username, password⟩
  | _, _ => .error .missingCredentials

/-- The name and the password, each after a zero octet. -/
def message (m : Plain) : List UInt8 :=
  0 :: Utf8.bytes m.username ++ 0 :: Utf8.bytes m.password

def initial (m : Plain) : Step :=
  ⟨some m.message, .simpleAuthSent⟩

def success (state : State) : Except MechanismError Unit :=
  match state with
  | .simpleAuthSent => .ok ()
  | other => .error (.prematureSuccess other)

def wipe (_ : Plain) : Plain :=
  ⟨"", ""⟩

end Plain

/-! ## DIGEST-MD5 -/

structure DigestMd5 where
  username : Option String
  password : Option String
  server : Option String
  serverProof : Option String := none
deriving DecidableEq

namespace DigestMd5

def ofCredentials (c : Credentials) : DigestMd5 :=
  { username := c.username, password := c.password, server := c.server }

def initial (_ : DigestMd5) : Step :=
  ⟨none, .challengeResponsePending⟩

def accepts (state : State) : Bool :=
  match state with
  | .challengeResponsePending => true
  | .challengeResponseAuthSent => true
  | _ => false

def responseText (x : Digest.Inputs) : String :=
  let w : Directives.Writer := {}
  let w := w.quoted "username" x.username
  let w := w.quoted "realm" x.realm
  let w := w.quoted "digest-uri" x.digestUri
  let w := w.quoted "nonce" x.nonce
  let w := w.bare "nc" Digest.nonceCount
  let w := w.quoted "cnonce" x.cnonce
  let w := w.bare "qop" Digest.qualityOfProtection
  let w := w.bare "charset" "utf-8"
  let w := w.bare "response" x.response
  w.finish.1

/-- Answers the first challenge. The realm is that of the challenge, or else the server. A nonce is
drawn once everything else is there, and the proof that the server is to show is kept. -/
def respondFirst (m : DigestMd5) (challenge : Directives) (entropy : Entropy) :
    Answer DigestMd5 :=
  let refuse := fun error => { mechanism := m, entropy, result := .error error }
  match m.username, m.password with
  | some username, some password =>
    match challenge.get? "nonce" with
    | none => refuse .noServerNonce
    | some nonce =>
      match (challenge.get? "realm").or m.server with
      | none => refuse .noRealm
      | some realm =>
        match Digest.drawNonce entropy with
        | (.error reason, entropy) =>
          { mechanism := m, entropy, result := .error (.cannotGenerateNonce reason) }
        | (.ok cnonce, entropy) =>
          let x : Digest.Inputs :=
            { username, realm, password, nonce, cnonce, service := Digest.xmppService }
          { mechanism := { m with serverProof := some x.serverProof }
            entropy
            result := .ok ⟨some (Utf8.bytes (responseText x)), .challengeResponseAuthSent⟩ }
  | _, _ => refuse .missingCredentials

/-- Answers the second challenge. A proof that was compared is not kept, whether it was right or
not. -/
def respondSecond (m : DigestMd5) (challenge : Directives) (entropy : Entropy) :
    Answer DigestMd5 :=
  match challenge.get? "rspauth" with
  | none => { mechanism := m, entropy, result := .error .noServerProof }
  | some shown =>
    match m.serverProof with
    | none =>
      { mechanism := m, entropy
        result := .error (.unexpectedChallenge .challengeResponseAuthSent) }
    | some expected =>
      let m := { m with serverProof := none }
      if shown = expected then
        { mechanism := m, entropy, result := .ok ⟨none, .challengeResponseFinalSent⟩ }
      else
        { mechanism := m, entropy, log := [.proofMismatch], result := .error .invalidServerProof }

def respond (m : DigestMd5) (state : State) (challenge : Directives) (entropy : Entropy) :
    Answer DigestMd5 :=
  match state with
  | .challengeResponsePending => m.respondFirst challenge entropy
  | .challengeResponseAuthSent => m.respondSecond challenge entropy
  | other => { mechanism := m, entropy, result := .error (.unexpectedChallenge other) }

def success (state : State) : Except MechanismError Unit :=
  match state with
  | .challengeResponseFinalSent => .ok ()
  | other => .error (.prematureSuccess other)

def wipe (_ : DigestMd5) : DigestMd5 :=
  { username := none, password := none, server := none }

end DigestMd5

/-! ## Either mechanism -/

inductive Mechanism
  | plain (m : Plain)
  | digestMd5 (m : DigestMd5)
deriving DecidableEq

namespace Mechanism

def ofCredentials (kind : MechanismKind) (c : Credentials) : Except MechanismError Mechanism :=
  match kind with
  | .plain => (Plain.ofCredentials c).map plain
  | .digestMd5 => .ok (digestMd5 (DigestMd5.ofCredentials c))

theorem eq_of_ofCredentials {kind : MechanismKind} {c : Credentials} {m : Mechanism}
    (h : ofCredentials kind c = .ok m) :
    (kind = .digestMd5 ∧ m = digestMd5 (.ofCredentials c)) ∨
      ∃ username password, kind = .plain ∧ c.username = some username ∧
        c.password = some password ∧ m = plain ⟨username, password⟩ := by
  cases kind with
  | digestMd5 => exact .inl ⟨rfl, (Except.ok.inj h).symm⟩
  | plain =>
    rw [ofCredentials, Plain.ofCredentials] at h
    split at h
    next username password husername hpassword =>
      exact .inr ⟨username, password, rfl, husername, hpassword, (Except.ok.inj h).symm⟩
    next => cases h

theorem eq_missingCredentials {kind : MechanismKind} {c : Credentials} {error : MechanismError}
    (h : ofCredentials kind c = .error error) : error = .missingCredentials := by
  cases kind with
  | digestMd5 => cases h
  | plain =>
    rw [ofCredentials, Plain.ofCredentials] at h
    split at h
    · cases h
    · exact (Except.error.inj h).symm

def kind : Mechanism → MechanismKind
  | plain _ => .plain
  | digestMd5 _ => .digestMd5

def pendingState : Mechanism → State
  | plain _ => .simplePending
  | digestMd5 _ => .challengeResponsePending

def initial : Mechanism → Step
  | plain m => m.initial
  | digestMd5 m => m.initial

def accepts (m : Mechanism) (state : State) : Bool :=
  match m with
  | plain _ => false
  | digestMd5 _ => DigestMd5.accepts state

def respond (m : Mechanism) (state : State) (challenge : Directives) (entropy : Entropy) :
    Answer Mechanism :=
  match m with
  | plain _ => { mechanism := m, entropy, result := .error (.unexpectedChallenge state) }
  | digestMd5 d =>
    let answer := d.respond state challenge entropy
    { mechanism := digestMd5 answer.mechanism, entropy := answer.entropy, log := answer.log
      result := answer.result }

def success (m : Mechanism) (state : State) : Except MechanismError Unit :=
  match m with
  | plain _ => Plain.success state
  | digestMd5 _ => DigestMd5.success state

def wipe : Mechanism → Mechanism
  | plain m => plain m.wipe
  | digestMd5 m => digestMd5 m.wipe

end Mechanism

end SaslClient
