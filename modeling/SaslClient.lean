import SaslClient.Directive.Characters
import SaslClient.Directive.Cursor
import SaslClient.Encoding.Base64.RoundTrip
import SaslClient.Main
import SaslClient.Proofs.Digest.Binding
import SaslClient.Proofs.Digest.Nonce
import SaslClient.Proofs.Digest.Written
import SaslClient.Proofs.Directive.Grammar
import SaslClient.Proofs.Directive.Image
import SaslClient.Proofs.Directive.Joining
import SaslClient.Proofs.Directive.LoneName
import SaslClient.Proofs.Directive.Positions
import SaslClient.Proofs.Directive.Quoting
import SaslClient.Proofs.Directive.Reading
import SaslClient.Proofs.Directive.Spacing
import SaslClient.Proofs.Mechanism.Answers
import SaslClient.Proofs.Mechanism.Guess
import SaslClient.Proofs.Mechanism.Preference
import SaslClient.Proofs.Mechanism.Response
import SaslClient.Proofs.Negotiation.Authentication
import SaslClient.Proofs.Negotiation.Checks
import SaslClient.Proofs.Negotiation.Delivery
import SaslClient.Proofs.Negotiation.Failures
import SaslClient.Proofs.Negotiation.Frame
import SaslClient.Proofs.Negotiation.Freshness
import SaslClient.Proofs.Negotiation.HonestServer
import SaslClient.Proofs.Negotiation.Message
import SaslClient.Proofs.Negotiation.Policy
import SaslClient.Proofs.Negotiation.Reached
import SaslClient.Proofs.Negotiation.Secrecy
import SaslClient.Proofs.Negotiation.Stage
import SaslClient.Proofs.Negotiation.Stanzas
import SaslClient.Proofs.Negotiation.Transitions
import SaslClient.Proofs.Session.Dialogue
import SaslClient.Proofs.Session.Features
import SaslClient.Proofs.Session.Refinement
import SaslClient.Proofs.Session.Registrations
