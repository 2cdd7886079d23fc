import SaslClient.Effect
import SaslClient.Mechanism
import SaslClient.State
import SaslClient.Text.Characters
/-!
# Negotiation

One attempt to authenticate. It is driven by what the server sends: a list of mechanisms,
challenges, success and failure. Of the mechanisms on offer that may be used, the preferred one is
taken, wherever it stands in the offer. `Negotiation.handle` says what one event makes of an attempt
and what the attempt does about it.
-/
namespace SaslClient

/-- What to make of a success that comes before the mechanism is done. -/
inductive SuccessPolicy
  | trustServer
  | strict
deriving DecidableEq, Repr

def SuccessPolicy.name : SuccessPolicy → String
  | trustServer => "TrustServer"
  | strict => "Strict"

structure Config where
  successPolicy : SuccessPolicy := .trustServer
  googleFullBindResult : Bool := true
  mechanisms : List MechanismKind := MechanismKind.all
deriving DecidableEq, Repr

/-! ## The choice of a mechanism -/

namespace Selection

def consider (allowed : List MechanismKind) (best : Option MechanismKind) (name : String) :
    Option MechanismKind × List LogEntry :=
  match MechanismKind.ofName? name with
  | none => (best, [.mechanismUnknown name])
  | some kind =>
    if kind ∈ allowed then
      match best with
      | none => (some kind, [])
      | some other => (some (if other.preference < kind.preference then kind else other), [])
    else (best, [.mechanismDisabled kind])

def selectFrom (allowed : List MechanismKind) (best : Option MechanismKind) :
    List String → Option MechanismKind × List LogEntry
  | [] => (best, [])
  | name :: rest =>
    let (best, entries) := consider allowed best name
    let (best, later) := selectFrom allowed best rest
    (best, entries ++ later)

def select (offered : List String) (allowed : List MechanismKind) :
    Option MechanismKind × List LogEntry :=
  selectFrom allowed none offered

end Selection

/-! ## An attempt -/

/-- An attempt. The kind of its mechanism stays after the end, and the mechanism does not. -/
structure Negotiation where
  credentials : Credentials
  config : Config := {}
  kind : Option MechanismKind := none
  mechanism : Option Mechanism := none
  state : State := .noMechanism
  reported : Bool := false
  failure : Option Failure := none

inductive Event
  | start (offered : List String)
  | challenge (payload : String)
  | success
  | failure (reason : Option String)
deriving DecidableEq, Repr

/-- An attempt within an event, the entropy that is left, and the effects so far. -/
structure Turn where
  attempt : Negotiation
  entropy : Entropy
  effects : List Effect := []

namespace Turn

def emit (t : Turn) (effect : Effect) : Turn :=
  { t with effects := t.effects ++ [effect] }

def log (t : Turn) (entry : LogEntry) : Turn :=
  t.emit (.logged entry)

def logAll (t : Turn) (entries : List LogEntry) : Turn :=
  { t with effects := t.effects ++ entries.map .logged }

def enter (t : Turn) (next : State) : Turn :=
  let t := t.log (.transition t.attempt.state next)
  { t with attempt := { t.attempt with state := next } }

def send (t : Turn) (link : Link) (stanza : Element) (next : State) : Turn × Option Failure :=
  let t := t.log (.sending stanza.name)
  match link with
  | .down reason => (t, some (.transport reason))
  | .up => ((t.emit (.sent stanza)).enter next, none)

/-- Tells how the attempt ended, which is done once. -/
def report (t : Turn) (outcome : Outcome) : Turn :=
  if t.attempt.reported then t.log .alreadyReported
  else
    let t := t.emit (.reported outcome)
    { t with attempt := { t.attempt with reported := true } }

/-- Ends the attempt, with a failure or without. The mechanism goes, and what it knows with it. -/
def finish (t : Turn) (verdict : Option Failure) : Turn :=
  let t := t.enter (match verdict with | none => .succeeded | some _ => .failed)
  let t := { t with attempt := { t.attempt with mechanism := none } }
  let t := t.report (match verdict with
    | none => .authenticated
    | some failure => .failed failure.message)
  { t with attempt := { t.attempt with failure := verdict } }

def settle : Turn × Option Failure → Turn
  | (t, none) => t
  | (t, some failure) => t.finish (some failure)

end Turn

namespace Negotiation

def isFinished (n : Negotiation) : Bool :=
  n.state.isTerminal

def withPayload (stanza : Element) (payload : Option (List UInt8)) : Element :=
  match payload with
  | none => stanza
  | some octets => stanza.append (.text (Base64.encode octets))

def markAuth (auth : Element) : Except StanzaError Element :=
  (auth.declare "ga" googleAuthNamespace).map
    (·.withAttribute "ga:client-uses-full-bind-result" "true")

def authStanza (config : Config) (kind : MechanismKind) (payload : Option (List UInt8)) :
    Except StanzaError Element :=
  let auth := (Element.empty "auth" saslNamespace).withAttribute "mechanism" kind.name
  let marked := if kind = .plain ∧ config.googleFullBindResult then markAuth auth else .ok auth
  marked.map (withPayload · payload)

def responseStanza (payload : Option (List UInt8)) : Element :=
  withPayload (Element.empty "response" saslNamespace) payload

def launch (link : Link) (kind : MechanismKind) (t : Turn) : Turn × Option Failure :=
  let t := t.log (.mechanismChosen kind)
  let t := { t with attempt := { t.attempt with kind := some kind } }
  match Mechanism.ofCredentials kind t.attempt.credentials with
  | .error error => (t, some (.mechanism error))
  | .ok mechanism =>
    let t := t.enter mechanism.pendingState
    let t := { t with attempt := { t.attempt with mechanism := some mechanism } }
    match authStanza t.attempt.config kind mechanism.initial.payload with
    | .error error => (t, some (.stanza error))
    | .ok auth => t.send link auth mechanism.initial.next

def choose (link : Link) (offered : List String) (t : Turn) : Turn × Option Failure :=
  let (best, entries) := Selection.select offered t.attempt.config.mechanisms
  let t := t.logAll entries
  match best with
  | none => (t.log .noMechanismFound, some .noSupportedMechanism)
  | some kind => launch link kind t

def start (link : Link) (offered : List String) (t : Turn) : Turn :=
  if t.attempt.state ≠ .noMechanism then t.log (.listIgnored t.attempt.state)
  else Turn.settle (choose link offered t)

def readChallenge (payload : String) : Except Failure Directives :=
  match Base64.decode (String.ofList (Blank.trim payload.toList)) with
  | .error error => .error (.cannotDecodeChallenge error)
  | .ok octets =>
    match Directives.parse octets with
    | .error error => .error (.invalidChallenge error)
    | .ok challenge => .ok challenge

def readingLog : Failure → List LogEntry
  | .invalidChallenge error => [.invalidChallenge error]
  | _ => []

def respond (link : Link) (mechanism : Mechanism) (challenge : Directives) (t : Turn) :
    Turn × Option Failure :=
  let answer := mechanism.respond t.attempt.state challenge t.entropy
  let t := { t with
    attempt := { t.attempt with mechanism := some answer.mechanism }
    entropy := answer.entropy }
  let t := t.logAll answer.log
  match answer.result with
  | .error error => (t, some (.mechanism error))
  | .ok step => t.send link (responseStanza step.payload) step.next

def answer (link : Link) (payload : String) (t : Turn) : Turn × Option Failure :=
  match t.attempt.mechanism with
  | none => (t, some (.unexpectedStanza .challenge t.attempt.state))
  | some mechanism =>
    if mechanism.accepts t.attempt.state then
      match readChallenge payload with
      | .error failure => (t.logAll (readingLog failure), some failure)
      | .ok challenge => respond link mechanism challenge t
    else
      (t.log (.untimelyChallenge mechanism.kind),
        some (.mechanism (.unexpectedChallenge t.attempt.state)))

def challenge (link : Link) (payload : String) (t : Turn) : Turn :=
  if t.attempt.isFinished then t.log (.stanzaIgnored .challenge)
  else Turn.settle (answer link payload t)

def prematurity (n : Negotiation) : Option Failure :=
  match n.mechanism with
  | none => some (.unexpectedStanza .success n.state)
  | some mechanism =>
    match mechanism.success n.state with
    | .ok () => none
    | .error error => some (.mechanism error)

def success (t : Turn) : Turn :=
  if t.attempt.isFinished then t.log (.stanzaIgnored .success)
  else
    match prematurity t.attempt with
    | none => (t.log .authenticated).finish none
    | some failure =>
      match t.attempt.config.successPolicy with
      | .trustServer => (t.log (.successTrusted failure)).finish none
      | .strict => t.finish (some failure)

def fail (reason : Option String) (t : Turn) : Turn :=
  if t.attempt.isFinished then t.log (.stanzaIgnored .failure)
  else
    let reason := reason.getD "unknown reason"
    (t.log (.rejected reason)).finish (some (.rejected reason))

def handle (link : Link) (event : Event) (n : Negotiation) (entropy : Entropy) : Turn :=
  let t : Turn := { attempt := n, entropy }
  match event with
  | .start offered => start link offered t
  | .challenge payload => challenge link payload t
  | .success => success t
  | .failure reason => fail reason t

end Negotiation

end SaslClient
