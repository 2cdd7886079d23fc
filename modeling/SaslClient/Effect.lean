import SaslClient.Failure
import SaslClient.State
/-!
# Effects

What a negotiation does to the world around it, in order, and what it is told about the connection.
No log entry has a place for a password or a proof.
-/
namespace SaslClient

inductive LogLevel
  | debug
  | warn
deriving DecidableEq, Repr

def LogLevel.name : LogLevel → String
  | debug => "DEBUG"
  | warn => "WARN"

inductive LogEntry
  | listIgnored (state : State)
  | mechanismDisabled (kind : MechanismKind)
  | mechanismUnknown (name : String)
  | noMechanismFound
  | mechanismChosen (kind : MechanismKind)
  | transition (before after : State)
  | sending (name : String)
  | stanzaIgnored (kind : StanzaKind)
  | untimelyChallenge (kind : MechanismKind)
  | invalidChallenge (error : DirectiveError)
  | proofMismatch
  | authenticated
  | rejected (reason : String)
  | successTrusted (failure : Failure)
  | alreadyReported
  | received (name : String)
  | foreignList
deriving DecidableEq, Repr

namespace LogEntry

def level : LogEntry → LogLevel
  | listIgnored _ | stanzaIgnored _ | successTrusted _ | alreadyReported => .warn
  | _ => .debug

def message : LogEntry → String
  | listIgnored state => "ignoring SASL mechanism list received in state " ++ state.name
  | mechanismDisabled kind => "SASL mechanism " ++ kind.name ++ " disabled in configuration"
  | mechanismUnknown name => "unknown SASL auth mechanism: " ++ name
  | noMechanismFound => "no supported SASL auth mechanisms found"
  | mechanismChosen kind => "using SASL mechanism " ++ kind.name
  | transition before after => "SASL state " ++ before.name ++ " -> " ++ after.name
  | sending name => "sending SASL <" ++ name ++ "/>"
  | stanzaIgnored kind =>
    "ignoring SASL " ++ kind.elementName ++ " received after the attempt ended"
  | untimelyChallenge kind => "server sent a " ++ kind.name ++ " challenge at the wrong time"
  | invalidChallenge error => "server sent an invalid challenge: " ++ error.message
  | proofMismatch => "server sent an invalid reply (rspauth not matching)"
  | authenticated => "SASL authentication successful"
  | rejected reason => "SASL authentication failed: " ++ reason
  | successTrusted failure => "server sent success before finishing auth: " ++ failure.message
  | alreadyReported => "SASL outcome already reported"
  | received name => "received SASL <" ++ name ++ "/>"
  | foreignList => "ignoring mechanisms outside of the SASL namespace"

end LogEntry

inductive Outcome
  | authenticated
  | failed (reason : String)
deriving DecidableEq, Repr

inductive Priority
  | first
  | normal
  | last
deriving DecidableEq, Repr

def Priority.name : Priority → String
  | first => "First"
  | normal => "Normal"
  | last => "Last"

abbrev HandlerId := Nat

inductive Effect
  | logged (entry : LogEntry)
  | sent (stanza : Element)
  | reported (outcome : Outcome)
  | registered (kind : StanzaKind) (priority : Priority) (id : HandlerId)
  | unregistered (kind : StanzaKind) (id : HandlerId)

inductive Link
  | up
  | down (reason : String)
deriving DecidableEq, Repr

end SaslClient
