import SaslClient.Proofs.Mechanism.Response
import SaslClient.Proofs.Negotiation.HonestServer
import SaslClient.Proofs.Session.Registrations
/-!
# How a dialogue ends

The server that is played in a dialogue reads the response with the parser and computes what it
expects from the name and the password that the client was given. The dialogue breaks off exactly
where there is no response to read, that is where the user has no name or the client could draw no
nonce. In the second case the stanza that the client sent last is still its choice of a mechanism.
Everywhere else the dialogue is known line by line.
-/
namespace SaslClient.Dialogue

open Negotiation (Stage Move Grounds answerStanza responseStanza)
open Session (kindNamed? event?)

section

variable {c : Credentials} {config : Config} {s s' : Stage} {e' : Entropy} {effects : List Effect}
  {scene : Scene} {stanza : Element} {event : Event}

/-- What a scene comes to where the stanza that the server sends stands for an event. -/
theorem hear_of_move (hscene : scene.session.negotiation = s.attempt c config)
    (hevent : (kindNamed? stanza.name).bind (event? · stanza) = some event)
    (hmove : Move c config ⟨.up, event⟩ s scene.entropy s' e' effects) :
    scene.hear stanza =
      { session := ⟨s'.attempt c config, scene.session.handlers⟩
        entropy := e'
        lines := scene.lines ++ ("S: " ++ stanza.render) :: effects.filterMap line?
        last? := (effects.filterMap Effect.stanza?).getLast?.or scene.last? } := by
  have hhandlers := Session.handlers_of_dispatch .up stanza scene.session scene.entropy
  have hfollows := Session.follows_dispatch .up stanza scene.session scene.entropy
  simp only [hevent, Session.bare, hscene, Negotiation.handle_of_move hmove] at hfollows
  obtain ⟨hnegotiation, hentropy, ⟨entries, heffects⟩, -⟩ := hfollows
  dsimp only at hnegotiation hentropy heffects
  have hlines : (entries.map Effect.logged ++ effects).filterMap line? = effects.filterMap line? :=
    Effect.filterMap_of_logged (fun _ _ => rfl) effects
  have hstanzas := Effect.stanzas_of_logged entries effects
  rw [← heffects] at hlines hstanzas
  rw [← hlines, ← hstanzas, ← hentropy, ← hnegotiation, ← hhandlers]
  rfl

end

def credentials (username password : String) : Credentials :=
  { username := some username, password := some password, server := some realm }

def greeting : List String :=
  ["registered StreamFeatures handler at First priority",
    "registered Challenge handler at First priority",
    "registered Success handler at First priority",
    "registered Failure handler at First priority"]

def farewell : List String :=
  ["unregistered StreamFeatures handler HandlerId(1)",
    "unregistered Challenge handler HandlerId(2)", "unregistered Success handler HandlerId(3)",
    "unregistered Failure handler HandlerId(4)"]

def handlers : List (StanzaKind × HandlerId) :=
  [(.streamFeatures, 1), (.challenge, 2), (.success, 3), (.failure, 4)]

def choice : Element :=
  ⟨Negotiation.choiceTag {} .digestMd5, []⟩

variable {username password : String} {e : Entropy}

theorem event_challengeOf (text : String) :
    (kindNamed? (challengeOf text).name).bind (event? · (challengeOf text)) =
      some (.challenge (Base64.encode (Utf8.bytes text))) := by
  have : (challengeOf text).text = Base64.encode (Utf8.bytes text) := String.empty_append
  rw [← this]
  rfl

theorem hear_offer :
    (Scene.opening username password e).hear offer =
      { session := ⟨Stage.chosen.attempt (credentials username password) {}, handlers⟩
        entropy := e
        lines := greeting ++ ["S: " ++ offer.render, "C: " ++ choice.render]
        last? := some choice } := by
  have hevent : (kindNamed? offer.name).bind (event? · offer) =
      some (.start ["PLAIN", "DIGEST-MD5"]) := by
    rfl
  have hselect : Selection.select ["PLAIN", "DIGEST-MD5"] MechanismKind.all =
      (some .digestMd5, []) := by
    rfl
  have hbuilt : Negotiation.authStanza {} .digestMd5 none = .ok choice :=
    Negotiation.authStanza_eq {} .digestMd5 none
  have hmove : Move (credentials username password) {} ⟨.up, .start ["PLAIN", "DIGEST-MD5"]⟩ .idle e
      (.first (.digestMd5 (.ofCredentials (credentials username password)))) e _ :=
    .launched hselect rfl hbuilt
  rw [hear_of_move (s := .idle) rfl hevent hmove]
  rfl

def firstText : String :=
  "realm=\"" ++ realm ++ "\",nonce=\"" ++ nonce ++
    "\",qop=\"auth\",charset=utf-8,algorithm=md5-sess"

def firstDirectives : Directives :=
  Fields.ofList [("realm", realm), ("nonce", nonce), ("qop", "auth"), ("charset", "utf-8"),
    ("algorithm", "md5-sess")]

theorem read_firstText :
    Negotiation.readChallenge (Base64.encode (Utf8.bytes firstText)) = .ok firstDirectives := by
  let items : List Directives.Item :=
    [.quoted "realm" realm, .quoted "nonce" nonce, .quoted "qop" "auth", .bare "charset" "utf-8",
      .bare "algorithm" "md5-sess"]
  have hvalid : ∀ i ∈ items, i.Valid := by decide
  have hwritten : (({} : Directives.Writer).addAll items).written = firstText := by
    decide +kernel
  rw [← hwritten]
  exact Negotiation.readChallenge_encode (Directives.parse_write (by simp [items]) hvalid)

def inputs (username password : String) (octets : Vector UInt8 32) : Digest.Inputs :=
  { username, realm, password, nonce, cnonce := Digest.nonceOf octets
    service := Digest.xmppService }

theorem hear_firstChallenge {octets : Vector UInt8 32} (h : e.draw.1 = .ok octets) :
    ((Scene.opening username password e).hear offer).hear firstChallenge =
      { session := ⟨(Stage.responseSent (inputs username password octets).serverProof).attempt
          (credentials username password) {}, handlers⟩
        entropy := e.draw.2
        lines := greeting ++ ["S: " ++ offer.render, "C: " ++ choice.render,
          "S: " ++ firstChallenge.render,
          "C: " ++ (answerStanza (inputs username password octets)).render]
        last? := some (answerStanza (inputs username password octets)) } := by
  let g : Grounds (credentials username password) (Base64.encode (Utf8.bytes firstText)) e :=
    ⟨firstDirectives, username, password, nonce, realm, octets, read_firstText, rfl, rfl, by decide,
      rfl, h⟩
  rw [hear_offer, firstChallenge, ← firstText,
    hear_of_move (s := .chosen) rfl (event_challengeOf firstText) (.responded g),
    ← Negotiation.answerStanza_eq]
  rfl

theorem last_of_undrawn {reason : EntropyError} (h : e.draw.1 = .error reason) :
    (((Scene.opening username password e).hear offer).hear firstChallenge).last? =
      some choice := by
  rw [hear_offer, firstChallenge, ← firstText]
  cases hresult : ((Mechanism.digestMd5 (.ofCredentials (credentials username password))).respond
      .challengeResponsePending firstDirectives e).result with
  | error error =>
    rw [hear_of_move (s := .chosen) rfl (event_challengeOf firstText)
      (.unanswered rfl rfl read_firstText hresult), Effect.stanzas_of_logged]
    rfl
  | ok step =>
    obtain ⟨g⟩ := Negotiation.of_respondFirst read_firstText hresult
    have hdrawn := g.drawn
    rw [h] at hdrawn
    cases hdrawn

theorem readResponse_choice : readResponse choice = none := by
  have hnone : (readResponse choice).isNone = true := by decide +kernel
  exact Option.isNone_iff_eq_none.1 hnone

theorem readResponse_of_nameless {x : Digest.Inputs} (h : x.username = "") :
    readResponse (answerStanza x) = none := by
  rw [readResponse, Negotiation.text_answerStanza, Base64.decode_encode]
  simp only [DigestMd5.parse_responseText_of_nameless h]
  rfl

theorem readResponse_of_named (password : String) (octets : Vector UInt8 32)
    (h : username ≠ "") :
    ∃ directives, readResponse (answerStanza (inputs username password octets)) = some directives ∧
      expected username password directives = inputs username password octets ∧
      directives.get? "response" = some (expected username password directives).response := by
  have hrealm : realm ≠ "" := by decide
  have hnonce : nonce ≠ "" := by decide
  have hread := Server.readResponse_answerStanza (x := inputs username password octets) h hrealm
    hnonce (Digest.nonceOf_ne_empty octets)
  have hexpected : expected username password
      (Server.directivesOf (inputs username password octets)) =
        inputs username password octets := by
    have hcnonce : (Server.directivesOf (inputs username password octets)).get? "cnonce" =
        some (Digest.nonceOf octets) := by
      rw [Server.directivesOf, Fields.get?_ofList]
      rfl
    rw [expected, hcnonce]
    rfl
  refine ⟨_, hread, hexpected, ?_⟩
  rw [hexpected]
  exact Server.get?_response _

private theorem broken_of_unread {scene : Scene} {response : Element}
    (hlast : scene.last? = some response) (hread : readResponse response = none) :
    (scene.finish username password).broken = true := by
  rw [Scene.finish, hlast]
  simp only [hread]
  rfl

theorem play_of_undrawn (username password : String) {reason : EntropyError}
    (h : e.draw.1 = .error reason) :
    (play username password e).broken = true :=
  broken_of_unread (last_of_undrawn h) readResponse_choice

theorem play_of_nameless {octets : Vector UInt8 32} (h : e.draw.1 = .ok octets) :
    (play "" password e).broken = true := by
  rw [play, hear_firstChallenge h]
  exact broken_of_unread rfl (readResponse_of_nameless rfl)

def course (x : Digest.Inputs) : List String :=
  ["S: " ++ offer.render, "C: " ++ choice.render, "S: " ++ firstChallenge.render,
    "C: " ++ (answerStanza x).render,
    "S: " ++ (challengeOf (DigestMd5.proofText x.serverProof)).render,
    "C: " ++ (responseStanza none).render, "S: " ++ accepted.render, "Authenticated.",
    "Final state: Succeeded"]

theorem hear_proof (x : Digest.Inputs) {c : Credentials} {e : Entropy} {lines : List String}
    {last? : Option Element} :
    Scene.hear ⟨⟨(Stage.responseSent x.serverProof).attempt c {}, handlers⟩, e, lines, last?⟩
        (challengeOf (DigestMd5.proofText x.serverProof)) =
      { session := ⟨Stage.acknowledged.attempt c {}, handlers⟩
        entropy := e
        lines := lines ++ ["S: " ++ (challengeOf (DigestMd5.proofText x.serverProof)).render,
          "C: " ++ (responseStanza none).render]
        last? := some (responseStanza none) } := by
  obtain ⟨shown, hshown, hproof⟩ := Server.readChallenge_proofChallenge x
  rw [hear_of_move (s := .responseSent x.serverProof) rfl (event_challengeOf _)
    (.proven hshown hproof)]
  rfl

theorem hear_accepted {c : Credentials} {e : Entropy} {lines : List String}
    {last? : Option Element} :
    Scene.hear ⟨⟨Stage.acknowledged.attempt c {}, handlers⟩, e, lines, last?⟩ accepted =
      { session := ⟨(Stage.ended (some .digestMd5) none).attempt c {}, handlers⟩
        entropy := e
        lines := lines ++ ["S: " ++ accepted.render, "Authenticated."]
        last? } := by
  have hevent : (kindNamed? accepted.name).bind (event? · accepted) = some .success := by
    rfl
  rw [hear_of_move (s := .acknowledged) rfl hevent (.completed rfl rfl)]
  rfl

theorem play_of_named (password : String) {octets : Vector UInt8 32} (hname : username ≠ "")
    (h : e.draw.1 = .ok octets) :
    play username password e =
      { lines := greeting ++ course (inputs username password octets) ++ farewell } := by
  obtain ⟨directives, hread, hexpected, hright⟩ :=
    readResponse_of_named password octets hname
  rw [play, hear_firstChallenge h, Scene.finish]
  simp only [hread]
  rw [check, if_pos hright, hexpected]
  dsimp only
  rw [← DigestMd5.proofText, hear_proof, hear_accepted]
  rfl

/-! ## The lines -/

private theorem render_eq_append (element : Element) :
    ∃ rest, element.render = "<" ++ (Node.Scope.enter {} element.tag).1 ++ rest := by
  obtain ⟨tag, children⟩ := element
  simp only [Element.render, Element.toNode, Node.render]
  generalize Node.Scope.enter {} tag = entered
  obtain ⟨name, declarations, inner⟩ := entered
  split
  · exact ⟨declarations ++ Node.renderAttributes tag.attributes ++ "/>",
      by simp only [String.append_assoc]⟩
  · exact ⟨declarations ++ Node.renderAttributes tag.attributes ++ ">" ++
      Node.renderAll inner children ++ "</" ++ name ++ ">", by simp only [String.append_assoc]⟩

private theorem render_ne {a b : Element} {x y : Char} {more rest : List Char}
    (ha : (Node.Scope.enter {} a.tag).1.toList = x :: more)
    (hb : (Node.Scope.enter {} b.tag).1.toList = y :: rest) (hne : x ≠ y) :
    a.render ≠ b.render := by
  obtain ⟨behind, hbehind⟩ := render_eq_append a
  obtain ⟨after, hafter⟩ := render_eq_append b
  intro h
  rw [hbehind, hafter, String.append_assoc, String.append_assoc, String.append_right_inj] at h
  have hlists := congrArg String.toList h
  rw [String.toList_append, String.toList_append, ha, hb] at hlists
  exact hne (List.cons.inj hlists).1

private theorem refusal_ne_offer : refusal.render ≠ offer.render :=
  have hname : (Node.Scope.enter {} offer.tag).1 = "stream:features" := rfl
  render_ne (x := 'f') (y := 's') rfl (by rw [hname]; rfl) (by decide)

private theorem refusal_ne_challenge (text : String) :
    refusal.render ≠ (challengeOf text).render :=
  have hname : (Node.Scope.enter {} (challengeOf text).tag).1 = "challenge" := rfl
  render_ne (x := 'f') (y := 'c') rfl (by rw [hname]; rfl) (by decide)

private theorem refusal_ne_accepted : refusal.render ≠ accepted.render :=
  render_ne (x := 'f') (y := 's') rfl rfl (by decide)

private def starting (first : Char) (lines : List String) : List String :=
  lines.filter (·.toList.head? = some first)

private theorem mem_starting (first : Char) {line : String} {lines : List String}
    (h : line ∈ lines) (hfirst : line.toList.head? = some first) : line ∈ starting first lines :=
  List.mem_filter.2 ⟨h, decide_eq_true hfirst⟩

private theorem starting_server (x : Digest.Inputs) :
    starting 'S' (greeting ++ course x ++ farewell) =
      ["S: " ++ offer.render, "S: " ++ firstChallenge.render,
        "S: " ++ (challengeOf (DigestMd5.proofText x.serverProof)).render,
        "S: " ++ accepted.render] := by
  simp [starting, greeting, course, farewell, String.toList_append]

private theorem starting_outcome (x : Digest.Inputs) :
    starting 'A' (greeting ++ course x ++ farewell) = ["Authenticated."] := by
  simp [starting, greeting, course, farewell, String.toList_append]

private theorem refusal_not_mem (x : Digest.Inputs) :
    "S: " ++ refusal.render ∉ greeting ++ course x ++ farewell := by
  intro h
  have hserver := mem_starting 'S' h (by simp [String.toList_append])
  rw [starting_server] at hserver
  simp [String.append_right_inj, refusal_ne_offer, refusal_ne_challenge, refusal_ne_accepted,
    firstChallenge] at hserver

private theorem failed_not_mem (x : Digest.Inputs) (text : String) :
    "Authentication failed: " ++ text ∉ greeting ++ course x ++ farewell := by
  intro h
  have houtcome := mem_starting 'A' h (by simp [String.toList_append])
  rw [starting_outcome, List.mem_singleton] at houtcome
  have hlists := congrArg (fun line => line.toList[14]?) houtcome
  simp [String.toList_append] at hlists

private theorem count_authenticated (x : Digest.Inputs) :
    (greeting ++ course x ++ farewell).count "Authenticated." = 1 := by
  have hcount := List.count_filter (p := (·.toList.head? = some 'A')) (a := "Authenticated.")
    (l := greeting ++ course x ++ farewell) (by decide)
  rw [← hcount]
  exact congrArg (List.count "Authenticated.") (starting_outcome x)

/-- What a dialogue comes to in which the server finds the response right. -/
structure Concludes (username password : String) (e : Entropy) (t : Transcript) : Prop where
  compared : ∃ response directives,
    (((Scene.opening username password e).hear offer).hear firstChallenge).last? = some response ∧
      readResponse response = some directives ∧
      directives.get? "response" = some (expected username password directives).response
  unrefused : "S: " ++ refusal.render ∉ t.lines
  authenticated : t.lines.count "Authenticated." = 1
  unfailed : ∀ text, "Authentication failed: " ++ text ∉ t.lines
  ending : ∃ before, t.lines = before ++ "Final state: Succeeded" :: farewell

theorem concludes_of_named (password : String) {octets : Vector UInt8 32} (hname : username ≠ "")
    (h : e.draw.1 = .ok octets) : Concludes username password e (play username password e) := by
  have hlines : (play username password e).lines = _ :=
    congrArg Transcript.lines (play_of_named password hname h)
  refine ⟨?_, ?_, ?_, ?_, ?_⟩
  · obtain ⟨directives, hread, -, hright⟩ := readResponse_of_named password octets hname
    exact ⟨_, directives, congrArg Scene.last? (hear_firstChallenge h), hread, hright⟩
  · rw [hlines]
    exact refusal_not_mem _
  · rw [hlines]
    exact count_authenticated _
  · intro text
    rw [hlines]
    exact failed_not_mem _ text
  · refine ⟨greeting ++ (course (inputs username password octets)).take 8, ?_⟩
    rw [hlines]
    simp [course]

/-- A dialogue breaks off if the user has no name or no nonce can be drawn. Every other dialogue of
a user concludes, whatever the password, and without a user there is only a line that tells how to
call the program. -/
theorem dialogue_concludes (program : String) (args : List String) (e : Entropy) :
    ((command program args e).broken = true ↔
        ∃ username password, args = [username, password] ∧
          (username = "" ∨ ∃ reason, e.draw.1 = .error reason)) ∧
      (∀ username password, args = [username, password] →
        (command program args e).broken = false →
          Concludes username password e (command program args e)) ∧
      (args.length ≠ 2 → command program args e = { lines := [usage program] }) := by
  rcases args with _ | ⟨username, _ | ⟨password, _ | ⟨more, rest⟩⟩⟩
  case cons.cons.nil =>
    change ((play username password e).broken = true ↔ _) ∧ (∀ _ _, _ →
      (play username password e).broken = false → Concludes _ _ e (play username password e)) ∧ _
    cases h : e.draw.1 with
    | error reason =>
      have hbroken := play_of_undrawn username password h
      simp [hbroken]
    | ok octets =>
      by_cases hname : username = ""
      · subst hname
        simp [play_of_nameless h]
      · have hconcludes := concludes_of_named password hname h
        have hunbroken : (play username password e).broken = false := by
          rw [play_of_named password hname h]
        refine ⟨?_, ?_, ?_⟩
        · simp [hunbroken, hname]
        · rintro _ _ ⟨⟩ -
          exact hconcludes
        · simp
  all_goals simp [command]

theorem dialogue_concludes_escaped :
    let e : Entropy := { answer := fun _ => .ok (Vector.replicate 32 7) }
    (command "negotiate" ["a\",é", ""] e).broken = false ∧
      Concludes "a\",é" "" e (command "negotiate" ["a\",é", ""] e) ∧
      ["juliet"].length ≠ 2 ∧
      command "negotiate" ["juliet"] e =
        { lines := ["Usage: negotiate <username> <password>"] } := by
  intro e
  have hunbroken : (command "negotiate" ["a\",é", ""] e).broken = false := by
    have hiff := (dialogue_concludes "negotiate" ["a\",é", ""] e).1
    rw [Bool.eq_false_iff, ne_eq, hiff]
    rintro ⟨_, _, ⟨⟩, hname | ⟨reason, hreason⟩⟩
    · exact absurd hname (by decide)
    · cases hreason
  refine ⟨hunbroken, ?_, by decide, ?_⟩
  · exact (dialogue_concludes "negotiate" ["a\",é", ""] e).2.1 _ _ rfl hunbroken
  · exact (dialogue_concludes "negotiate" ["juliet"] e).2.2 (by decide)

end SaslClient.Dialogue
