import SaslClient.Negotiation
/-!
# Sessions

A negotiation on a connection that hands over the stanzas it receives. The session registers a
handler for each kind of stanza when it is attached and takes them back when it is closed. In
between it turns stanzas into events and says which stanzas it has consumed.
-/
namespace SaslClient

inductive HandlerResult
  | removeMessage
  | allowMoreHandlers
deriving DecidableEq, Repr

def HandlerResult.name : HandlerResult → String
  | removeMessage => "RemoveMessage"
  | allowMoreHandlers => "AllowMoreHandlers"

structure Session where
  negotiation : Negotiation
  handlers : List (StanzaKind × HandlerId)

structure Reaction where
  session : Session
  entropy : Entropy
  effects : List Effect
  result : HandlerResult

namespace Session

def attach (assign : StanzaKind → HandlerId) (credentials : Credentials) (config : Config := {}) :
    Session × List Effect :=
  let session : Session :=
    { negotiation := { credentials, config }
      handlers := StanzaKind.all.map fun kind => (kind, assign kind) }
  (session, session.handlers.map fun (kind, id) => .registered kind .first id)

def close (s : Session) : List Effect :=
  s.handlers.map fun (kind, id) => .unregistered kind id

def features (link : Link) (stanza : Element) (t : Turn) : Turn :=
  match stanza.elements.find? (·.name = "mechanisms") with
  | none => t
  | some list =>
    if list.ns = saslNamespace then
      Negotiation.start link ((list.elements.map (·.text)).filter (· ≠ "")) t
    else t.log .foreignList

/-- The reason in a refusal: the text of its first element, unless that is empty. -/
def refusalReason (stanza : Element) : Option String :=
  (stanza.elements.head?.map (·.text)).filter (· ≠ "")

def consume (link : Link) (kind : StanzaKind) (stanza : Element) (t : Turn) : Turn :=
  match kind with
  | .challenge => Negotiation.challenge link stanza.text t
  | .success => Negotiation.success t
  | .failure => Negotiation.fail (refusalReason stanza) t
  | .streamFeatures => t

def react (s : Session) (t : Turn) (result : HandlerResult) : Reaction :=
  { session := { s with negotiation := t.attempt }, entropy := t.entropy, effects := t.effects
    result }

/-- Handles a stanza that the connection hands over as being of a kind. Features are left for
others, and so is what is not in the namespace of the negotiation. -/
def handle (link : Link) (kind : StanzaKind) (stanza : Element) (s : Session)
    (entropy : Entropy) : Reaction :=
  let t : Turn := { attempt := s.negotiation, entropy }
  if kind = .streamFeatures then s.react (features link stanza t) .allowMoreHandlers
  else if stanza.ns = saslNamespace then
    s.react (consume link kind stanza (t.log (.received stanza.name))) .removeMessage
  else s.react t .allowMoreHandlers

def dispatch (link : Link) (stanza : Element) (s : Session) (entropy : Entropy) : Reaction :=
  match StanzaKind.ofElement? stanza with
  | some kind => s.handle link kind stanza entropy
  | none => { session := s, entropy, effects := [], result := .allowMoreHandlers }

end Session

end SaslClient
