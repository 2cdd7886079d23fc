import SaslClient.Digest.Response
import SaslClient.Directive.Basic
import SaslClient.Encoding.Base64
import SaslClient.Stanza
import SaslClient.State
/-!
# Failures

Why a mechanism does not go on, and why an attempt to authenticate failed, in words and by whose
fault.
-/
namespace SaslClient

inductive MechanismError
  | missingCredentials
  | noRealm
  | cannotGenerateNonce (reason : EntropyError)
  | noServerNonce
  | noServerProof
  | invalidServerProof
  | unexpectedChallenge (state : State)
  | prematureSuccess (state : State)
deriving DecidableEq, Repr

namespace MechanismError

def message : MechanismError → String
  | missingCredentials => "no username/password provided"
  | noRealm => "no realm in challenge and no server name"
  | cannotGenerateNonce reason => "can't generate nonce: " ++ reason.message
  | noServerNonce => "server error: no nonce in challenge"
  | noServerProof => "server error: no rspauth in final challenge"
  | invalidServerProof => "server error: rspauth doesn't match"
  | unexpectedChallenge state => "server error: challenge received in state " ++ state.name
  | prematureSuccess state => "server error: success received in state " ++ state.name

def source? : MechanismError → Option String
  | cannotGenerateNonce reason => some reason.message
  | _ => none

end MechanismError

inductive Failure
  | noSupportedMechanism
  | mechanism (error : MechanismError)
  | cannotDecodeChallenge (error : Base64.Error)
  | invalidChallenge (error : DirectiveError)
  | unexpectedStanza (kind : StanzaKind) (state : State)
  | transport (reason : String)
  | rejected (reason : String)
  | stanza (error : StanzaError)
deriving DecidableEq, Repr

inductive FailureKind
  | configuration
  | unsupportedMechanism
  | malformedInput
  | protocolViolation
  | verification
  | transport
  | rejected
deriving DecidableEq, Repr

namespace FailureKind

def name : FailureKind → String
  | configuration => "Configuration"
  | unsupportedMechanism => "UnsupportedMechanism"
  | malformedInput => "MalformedInput"
  | protocolViolation => "ProtocolViolation"
  | verification => "Verification"
  | transport => "Transport"
  | rejected => "Rejected"

end FailureKind

namespace Failure

def mechanismKind : MechanismError → FailureKind
  | .missingCredentials | .noRealm | .cannotGenerateNonce _ => .configuration
  | .noServerNonce | .noServerProof => .malformedInput
  | .invalidServerProof => .verification
  | .unexpectedChallenge _ | .prematureSuccess _ => .protocolViolation

def kind : Failure → FailureKind
  | noSupportedMechanism => .unsupportedMechanism
  | mechanism error => mechanismKind error
  | cannotDecodeChallenge _ => .malformedInput
  | invalidChallenge _ => .malformedInput
  | unexpectedStanza _ _ => .protocolViolation
  | transport _ => .transport
  | rejected _ => .rejected
  | stanza _ => .configuration

def message : Failure → String
  | noSupportedMechanism => "no supported SASL mechanism"
  | mechanism error => error.message
  | cannotDecodeChallenge error => "server error: can't decode challenge: " ++ error.message
  | invalidChallenge error => "server error: invalid challenge: " ++ error.message
  | unexpectedStanza kind state =>
    "server error: " ++ kind.elementName ++ " received in state " ++ state.name
  | transport reason => "transport error: " ++ reason
  | rejected reason => reason
  | stanza error => "can't build stanza: " ++ error.message

def source? : Failure → Option String
  | mechanism error => some error.message
  | cannotDecodeChallenge error => some error.message
  | invalidChallenge error => some error.message
  | stanza error => some error.message
  | _ => none

end Failure

end SaslClient
