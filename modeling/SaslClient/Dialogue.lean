import SaslClient.Session
/-!
# A dialogue with a server

A session talks to a server that is played here: the server offers both mechanisms, sends a
challenge, checks the response, proves that it knows the password too, and reports success. The
dialogue is the list of the lines that tell it.
-/
namespace SaslClient.Dialogue

def realm : String := "capulet.lit"

def nonce : String := "OA6MG9tEQGm2hh"

def streamNamespace : String := "http://etherx.jabber.org/streams"

def offer : Element :=
  let mechanism := fun name =>
    ((Element.empty "mechanism" saslNamespace).append (.text name)).toNode
  let list := ((Element.empty "mechanisms" saslNamespace).append (mechanism "PLAIN")).append
    (mechanism "DIGEST-MD5")
  let tag : Tag :=
    { name := "features", ns := streamNamespace
      prefixes := (∅ : Fields).insert "stream" streamNamespace }
  { tag, children := [list.toNode] }

def challengeOf (text : String) : Element :=
  (Element.empty "challenge" saslNamespace).append (.text (Base64.encode (Utf8.bytes text)))

def firstChallenge : Element :=
  challengeOf ("realm=\"" ++ realm ++ "\",nonce=\"" ++ nonce ++
    "\",qop=\"auth\",charset=utf-8,algorithm=md5-sess")

def refusal : Element :=
  (Element.empty "failure" saslNamespace).append
    ((Element.empty "text" saslNamespace).append (.text "bad response")).toNode

def accepted : Element :=
  Element.empty "success" saslNamespace

def line? : Effect → Option String
  | .logged _ => none
  | .sent stanza => some ("C: " ++ stanza.render)
  | .reported .authenticated => some "Authenticated."
  | .reported (.failed reason) =>
    some ("Authentication failed: " ++ Quoted.quoteOption (some reason))
  | .registered kind priority _ =>
    some ("registered " ++ kind.name ++ " handler at " ++ priority.name ++ " priority")
  | .unregistered kind id =>
    some ("unregistered " ++ kind.name ++ " handler HandlerId(" ++ toString id ++ ")")

/-- The dialogue so far, and the stanza that the client sent last. -/
structure Scene where
  session : Session
  entropy : Entropy
  lines : List String
  last? : Option Element := none

namespace Scene

def opening (username password : String) (entropy : Entropy) : Scene :=
  let assign : StanzaKind → HandlerId := fun kind => StanzaKind.all.idxOf kind + 1
  let (session, effects) := Session.attach assign
    { username := some username, password := some password, server := some realm }
  { session, entropy, lines := effects.filterMap line? }

def hear (scene : Scene) (stanza : Element) : Scene :=
  let reaction := scene.session.dispatch .up stanza scene.entropy
  let sent := reaction.effects.filterMap fun
    | .sent stanza => some stanza
    | _ => none
  { session := reaction.session
    entropy := reaction.entropy
    lines := scene.lines ++ ("S: " ++ stanza.render) :: reaction.effects.filterMap line?
    last? := sent.getLast?.or scene.last? }

def tell (scene : Scene) (line : String) : Scene :=
  { scene with lines := scene.lines ++ [line] }

end Scene

/-- The lines of a dialogue, and whether it broke off because the server could not read a
response. -/
structure Transcript where
  lines : List String
  broken : Bool := false
deriving DecidableEq, Repr

def Scene.closing (scene : Scene) (broken : Bool) : Transcript :=
  { lines := scene.lines ++ scene.session.close.filterMap line?, broken }

def readResponse (response : Element) : Option Directives :=
  match Base64.decode response.text with
  | .error _ => none
  | .ok octets => (Directives.parse octets).toOption

def expected (username password : String) (response : Directives) : Digest.Inputs :=
  { username, realm, password, nonce
    cnonce := (response.get? "cnonce").getD ""
    service := Digest.xmppService }

def check (username password : String) (response : Directives) (scene : Scene) : Scene :=
  let x := expected username password response
  if response.get? "response" = some x.response then
    let scene := (scene.hear (challengeOf ("rspauth=" ++ x.serverProof))).hear accepted
    scene.tell ("Final state: " ++ scene.session.negotiation.state.name)
  else scene.hear refusal

def Scene.finish (username password : String) (scene : Scene) : Transcript :=
  match scene.last? with
  | none => scene.closing false
  | some response =>
    match readResponse response with
    | none => scene.closing true
    | some directives => (check username password directives scene).closing false

def play (username password : String) (entropy : Entropy) : Transcript :=
  (((Scene.opening username password entropy).hear offer).hear firstChallenge).finish username
    password

def usage (program : String) : String :=
  "Usage: " ++ program ++ " <username> <password>"

/-- The dialogue for a command line: the name of the program, and the arguments after it, which are
a name and a password. -/
def command (program : String) (args : List String) (entropy : Entropy) : Transcript :=
  match args with
  | [username, password] => play username password entropy
  | _ => { lines := [usage program] }

def run (args : List String) (entropy : Entropy) : Transcript :=
  command "negotiate" args entropy

end SaslClient.Dialogue
