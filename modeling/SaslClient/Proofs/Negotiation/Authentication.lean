import SaslClient.Proofs.Digest.Written
import SaslClient.Proofs.Negotiation.Outcome
/-!
# What success rests on

Under the strict policy an attempt succeeds with PLAIN after its message was sent, and with
DIGEST-MD5 after the server showed its proof for the response that was sent.
-/
namespace SaslClient.Negotiation

open Directives (Item)

variable {c : Credentials} {config : Config} {e e' e'' : Entropy} {s s' : Stage} {i : Input}
  {inputs : List Input} {effects more : List Effect} {auth : Element}

structure IsAuth (kind : MechanismKind) (payload : Option (List UInt8)) (stanza : Element) :
    Prop where
  name : stanza.name = "auth"
  ns : stanza.ns = saslNamespace
  mechanism : stanza.tag.attributes.get? "mechanism" = some kind.name
  elements : stanza.elements = []
  text : stanza.text = (payload.map Base64.encode).getD ""

private theorem isAuth_append {kind : MechanismKind}
    (h : IsAuth kind none auth) (hempty : auth.children = []) (octets : Option (List UInt8)) :
    IsAuth kind octets (withPayload auth octets) := by
  cases octets with
  | none => exact h
  | some octets =>
    refine ⟨h.name, h.ns, h.mechanism, ?_, ?_⟩
    · simp [withPayload, Element.append, Element.elements, hempty]
    · simp [withPayload, Element.append, Element.text, hempty]

theorem isAuth_of_authStanza {kind : MechanismKind} {octets : Option (List UInt8)}
    (h : authStanza config kind octets = .ok auth) : IsAuth kind octets auth := by
  rw [authStanza_eq] at h
  obtain rfl := Except.ok.inj h
  apply isAuth_append _ rfl octets
  exact ⟨name_choiceTag config kind, ns_choiceTag config kind, mechanism_choiceTag config kind, rfl,
    rfl⟩

structure MessageSent (c : Credentials) (t : Turn) : Prop where
  kind : t.attempt.kind = some .plain
  state : t.attempt.state = .simpleAuthSent
  stanzas : ∃ username password auth, c.username = some username ∧ c.password = some password ∧
    IsAuth .plain (some (0 :: Utf8.bytes username ++ 0 :: Utf8.bytes password)) auth ∧
    t.stanzas = [auth]

def answerStanza (x : Digest.Inputs) : Element :=
  responseStanza (some (Utf8.bytes (",".intercalate ((DigestMd5.responseItems x).map Item.form))))

/-- Among offers there was one challenge, and a response was sent. -/
structure Answered (c : Credentials) (config : Config) (e : Entropy) (inputs : List Input) where
  before : List Input
  between : List Input
  first : String
  auth : Element
  grounds : Grounds c first (run c config e before).entropy
  inputs_eq : inputs = before ++ ⟨.up, .challenge first⟩ :: between
  offers_before : ∀ i ∈ before, i.IsOffer
  offers_between : ∀ i ∈ between, i.IsOffer
  isAuth : IsAuth .digestMd5 none auth
  entropy : (run c config e inputs).entropy = (run c config e before).entropy.draw.2
  stanzas : (run c config e inputs).stanzas = [auth, answerStanza grounds.digest]
  not_empty : (answerStanza grounds.digest).text ≠ ""

/-- A second challenge showed the proof for the response, and was acknowledged. -/
structure Proven (c : Credentials) (config : Config) (e : Entropy) (inputs : List Input) where
  opening : List Input
  answered : Answered c config e opening
  second : String
  shown : Directives
  after : List Input
  inputs_eq : inputs = opening ++ ⟨.up, .challenge second⟩ :: after
  offers_after : ∀ i ∈ after, i.IsOffer
  read : readChallenge second = .ok shown
  proof : shown.get? "rspauth" = some answered.grounds.digest.serverProof
  kind : (run c config e inputs).attempt.kind = some .digestMd5
  state : (run c config e inputs).attempt.state = .challengeResponseFinalSent
  entropy : (run c config e inputs).entropy = (run c config e answered.before).entropy.draw.2
  stanzas : (run c config e inputs).stanzas =
    [answered.auth, answerStanza answered.grounds.digest, responseStanza none]

/-- What a run that has not ended consists of, by the stage that it reached. -/
def Story (c : Credentials) (config : Config) (e : Entropy) (inputs : List Input) : Stage → Prop
  | .idle => inputs = []
  | .messageSent _ => MessageSent c (run c config e inputs)
  | .chosen => (∀ i ∈ inputs, i.IsOffer) ∧
    ∃ auth, IsAuth .digestMd5 none auth ∧ (run c config e inputs).stanzas = [auth]
  | .responseSent proof =>
    ∃ a : Answered c config e inputs, proof = a.grounds.digest.serverProof
  | .acknowledged => Nonempty (Proven c config e inputs)
  | .ended _ _ => True

private theorem forall_mem_concat {p : Input → Prop} (h : ∀ j ∈ inputs, p j) (hi : p i) :
    ∀ j ∈ inputs ++ [i], p j := by
  intro j hj
  rcases List.mem_append.1 hj with hj | hj
  · exact h j hj
  · obtain rfl := List.mem_singleton.1 hj
    exact hi

private theorem story_concat (hi : i.IsOffer)
    (hsame : (run c config e inputs).Unmoved (run c config e (inputs ++ [i])))
    (hs : s ≠ .idle) (h : Story c config e inputs s) : Story c config e (inputs ++ [i]) s := by
  cases s with
  | idle => exact absurd rfl hs
  | messageSent m =>
    refine ⟨hsame.kind.trans h.kind, hsame.state.trans h.state, ?_⟩
    rw [hsame.stanzas]
    exact h.stanzas
  | chosen =>
    obtain ⟨hoffers, auth, hauth, hstanzas⟩ := h
    exact ⟨forall_mem_concat hoffers hi, auth, hauth, hsame.stanzas.trans hstanzas⟩
  | responseSent proof =>
    obtain ⟨a, rfl⟩ := h
    have hinputs := (congrArg (· ++ [i]) a.inputs_eq).trans (List.append_assoc ..)
    exact ⟨⟨a.before, a.between ++ [i], a.first, a.auth, a.grounds, hinputs, a.offers_before,
      forall_mem_concat a.offers_between hi, a.isAuth, hsame.entropy.trans a.entropy,
      hsame.stanzas.trans a.stanzas, a.not_empty⟩, rfl⟩
  | acknowledged =>
    obtain ⟨p⟩ := h
    have hinputs := (congrArg (· ++ [i]) p.inputs_eq).trans (List.append_assoc ..)
    exact ⟨⟨p.opening, p.answered, p.second, p.shown, p.after ++ [i], hinputs,
      forall_mem_concat p.offers_after hi, p.read, p.proof, hsame.kind.trans p.kind,
      hsame.state.trans p.state, hsame.entropy.trans p.entropy, hsame.stanzas.trans p.stanzas⟩⟩
  | ended kind verdict => trivial

theorem stanzas_concat (before : Reached c config e inputs s e' effects)
    (move : Move c config i s e' s' e'' more) :
    (run c config e (inputs ++ [i])).stanzas =
      (run c config e inputs).stanzas ++ more.filterMap Effect.stanza? := by
  rw [run_of_reached (before.step move), run_of_reached before]
  exact List.filterMap_append

private theorem unmoved_of_relisted {entry : LogEntry}
    (before : Reached c config e inputs s e' effects)
    (after : Reached c config e (inputs ++ [i]) s e' (effects ++ [.logged entry])) :
    (run c config e inputs).Unmoved (run c config e (inputs ++ [i])) := by
  rw [run_of_reached before, run_of_reached after]
  refine ⟨rfl, rfl, rfl, rfl, ?_, ?_⟩
  · simp [Turn.stanzas, Effect.stanza?]
  · simp [Turn.outcomes, Effect.outcome?]

theorem of_plain {kind : MechanismKind} {m : Plain}
    (h : Mechanism.ofCredentials kind c = .ok (.plain m)) :
    kind = .plain ∧ c.username = some m.username ∧ c.password = some m.password := by
  rcases Mechanism.eq_of_ofCredentials h with ⟨-, hm⟩ | ⟨_, _, hkind, husername, hpassword, hm⟩
  · cases hm
  · obtain rfl := Mechanism.plain.inj hm
    exact ⟨hkind, husername, hpassword⟩

theorem answerStanza_eq (x : Digest.Inputs) :
    responseStanza (some (Utf8.bytes (DigestMd5.responseText x))) = answerStanza x := by
  rw [DigestMd5.responseText_eq, Directives.Writer.written_addAll]
  rfl

theorem text_answerStanza (x : Digest.Inputs) :
    (answerStanza x).text = Base64.encode (Utf8.bytes (DigestMd5.responseText x)) := by
  rw [← answerStanza_eq]
  exact String.empty_append

theorem text_answerStanza_ne_empty (x : Digest.Inputs) : (answerStanza x).text ≠ "" := by
  rw [text_answerStanza]
  exact Base64.encode_ne_empty (Utf8.bytes_ne_nil (DigestMd5.responseText_ne_empty x))

private theorem story_step (before : Reached c config e inputs s e' effects)
    (h : Story c config e inputs s) (move : Move c config i s e' s' e'' more) :
    Story c config e (inputs ++ [i]) s' := by
  have after := before.step move
  have hrun := run_of_reached after
  have hstanzas := stanzas_concat before move
  obtain rfl : (run c config e inputs).entropy = e' := by
    rw [run_of_reached before]
  cases move with
  | relisted not_idle =>
    apply story_concat ⟨_, rfl⟩ (unmoved_of_relisted before after) _ h
    rintro rfl
    exact not_idle rfl
  | late not_offer => trivial
  | @launched _ _ _ m auth _ selected created built =>
    obtain rfl : inputs = [] := h
    rw [Effect.stanzas_of_logged] at hstanzas
    cases m with
    | plain m =>
      obtain ⟨rfl, husername, hpassword⟩ := of_plain created
      have hauth := isAuth_of_authStanza built
      refine ⟨?_, ?_, m.username, m.password, auth, husername, hpassword, hauth, hstanzas⟩
      · rw [hrun]
        rfl
      · rw [hrun]
        rfl
    | digestMd5 d =>
      obtain rfl := kind_of_ofCredentials created
      refine ⟨?_, auth, isAuth_of_authStanza built, hstanzas⟩
      exact forall_mem_concat (by simp) ⟨_, rfl⟩
  | responded g =>
    obtain ⟨hoffers, auth, hauth, hauthStanza⟩ := h
    rw [hauthStanza] at hstanzas
    refine ⟨⟨inputs, [], _, auth, g, rfl, hoffers, by simp, hauth, ?_, ?_, ?_⟩, rfl⟩
    · rw [hrun]
    · rw [hstanzas, ← answerStanza_eq]
      rfl
    · exact text_answerStanza_ne_empty _
  | proven read shown =>
    -- The proof kept at this stage is that of the response, so what was shown is compared with it.
    obtain ⟨a, rfl⟩ := h
    rw [a.stanzas] at hstanzas
    refine ⟨⟨inputs, a, _, _, [], rfl, by simp, read, shown, ?_, ?_, ?_, hstanzas⟩⟩
    · rw [hrun]
      rfl
    · rw [hrun]
      rfl
    · rw [hrun]
      exact a.entropy
  | _ => trivial

theorem story_of_reached (h : Reached c config e inputs s e' effects) :
    Story c config e inputs s := by
  induction h with
  | start => rfl
  | step before move ih => exact story_step before ih move

private theorem exists_end {kind : Option MechanismKind} {verdict : Option Failure}
    (h : Reached c config e inputs (.ended kind verdict) e' effects) :
    ∃ before i after s e₁ sent more, inputs = before ++ i :: after ∧ s.isEnded = false ∧
      Reached c config e before s e₁ sent ∧
      Move c config i s e₁ (.ended kind verdict) e' more ∧
      effects.filterMap Effect.stanza? = sent.filterMap Effect.stanza? := by
  generalize hs' : Stage.ended kind verdict = s' at h
  induction h with
  | start => cases hs'
  | @step inputs i s s' e₁ e₂ effects more before move ih =>
    subst hs'
    cases outline_of_move move with
    | stays unsent unreported =>
      obtain ⟨first, j, after, s, e₁, sent, more, rfl, hs, hreached, hmove, hstanzas⟩ := ih rfl
      refine ⟨first, j, after ++ [i], s, e₁, sent, more, ?_, hs, hreached, hmove, ?_⟩
      · rw [List.append_assoc, List.cons_append]
      · rw [List.filterMap_append, unsent, List.append_nil, hstanzas]
    | ends not_ended unsent reported =>
      refine ⟨inputs, i, [], s, e₁, effects, more, rfl, not_ended, before, move, ?_⟩
      rw [List.filterMap_append, unsent, List.append_nil]
    | goesOn not_ended still_not unreported => cases still_not

private theorem due_cases (hs : s.isEnded = false) (h : prematurity (s.attempt c config) = none) :
    (∃ m, s = .messageSent m) ∨ s = .acknowledged := by
  cases s with
  | messageSent m => exact .inl ⟨m, rfl⟩
  | acknowledged => exact .inr rfl
  | ended kind verdict => cases hs
  | _ => cases h

private theorem of_strict_end {kind : Option MechanismKind}
    (hpolicy : config.successPolicy = .strict) (hs : s.isEnded = false)
    (h : Move c config i s e (.ended kind none) e' effects) :
    (∃ link, i = ⟨link, .success⟩) ∧ kind = s.kind ∧
      ((∃ m, s = .messageSent m) ∨ s = .acknowledged) := by
  generalize hend : Stage.ended kind none = s' at h
  cases h with
  | relisted not_idle =>
    subst hend
    cases hs
  | late not_offer => cases hs
  | @launched _ _ _ m => cases m <;> cases hend
  | completed not_ended due =>
    obtain ⟨rfl, -⟩ := Stage.ended.inj hend
    exact ⟨⟨_, rfl⟩, rfl, due_cases hs due⟩
  | trusted not_ended premature policy =>
    rw [hpolicy] at policy
    cases policy
  | _ => cases hend

/-- Under the strict policy, success comes after the message of PLAIN or the proof of the server.
The proof of the server is acknowledged under either policy only if it was shown. -/
theorem success_is_proven (c : Credentials) (config : Config) (e : Entropy) (inputs : List Input) :
    (config.successPolicy = .strict → (run c config e inputs).attempt.state = .succeeded →
      ∃ before link after, inputs = before ++ ⟨link, .success⟩ :: after ∧
        (run c config e inputs).attempt.kind = (run c config e before).attempt.kind ∧
        (run c config e inputs).stanzas = (run c config e before).stanzas ∧
        (MessageSent c (run c config e before) ∨ Nonempty (Proven c config e before))) ∧
    ((run c config e inputs).attempt.state = .challengeResponseFinalSent →
      Nonempty (Proven c config e inputs)) := by
  obtain ⟨s, e', effects, hreached⟩ := reached_run c config e inputs
  refine ⟨?_, ?_⟩
  · intro hpolicy hstate
    rw [run_of_reached hreached] at hstate
    obtain ⟨kind, rfl⟩ := Stage.eq_of_succeeded hstate
    obtain ⟨before, i, after, s, e₁, sent, more, rfl, hs, hbefore, hmove, hstanzas⟩ :=
      exists_end hreached
    obtain ⟨⟨link, rfl⟩, rfl, hcases⟩ := of_strict_end hpolicy hs hmove
    refine ⟨before, link, after, rfl, ?_, ?_, ?_⟩
    · rw [run_of_reached hreached, run_of_reached hbefore]
      rfl
    · rw [run_of_reached hreached, run_of_reached hbefore]
      exact hstanzas
    · have hstory := story_of_reached hbefore
      rcases hcases with ⟨m, rfl⟩ | rfl
      · exact .inl hstory
      · exact .inr hstory
  · intro hstate
    rw [run_of_reached hreached] at hstate
    obtain rfl := Stage.eq_acknowledged hstate
    exact story_of_reached hreached

theorem success_is_proven_digestMd5 :
    let c : Credentials := { username := some "u", password := some "p" }
    let config : Config := { successPolicy := .strict }
    let e : Entropy := { answer := fun _ => .ok (Vector.replicate 32 7) }
    -- The challenges are the texts `realm="r",nonce="n"` and `rspauth=d6d3…c6aa` in Base64.
    let inputs : List Input := [⟨.up, .start ["PLAIN", "DIGEST-MD5"]⟩,
      ⟨.up, .challenge "cmVhbG09InIiLG5vbmNlPSJuIg=="⟩,
      ⟨.up, .challenge "cnNwYXV0aD1kNmQzZDM0ZGI2ZjgwOWNkMTU3MzI2YTcwODNjYzZhYQ=="⟩]
    let whole := inputs ++ [⟨.up, .success⟩]
    (config.successPolicy = .strict ∧ (run c config e whole).attempt.state = .succeeded ∧
      ∃ before link after, whole = before ++ ⟨link, .success⟩ :: after ∧
        (run c config e whole).attempt.kind = (run c config e before).attempt.kind ∧
        (run c config e whole).stanzas = (run c config e before).stanzas ∧
        (MessageSent c (run c config e before) ∨ Nonempty (Proven c config e before))) ∧
    (run c config e inputs).attempt.state = .challengeResponseFinalSent ∧
      Nonempty (Proven c config e inputs) := by
  intro c config e inputs whole
  have hsucceeded : (run c config e whole).attempt.state = .succeeded := by decide +kernel
  have hfinal : (run c config e inputs).attempt.state = .challengeResponseFinalSent := by
    decide +kernel
  exact ⟨⟨rfl, hsucceeded, (success_is_proven c config e whole).1 rfl hsucceeded⟩,
    hfinal, (success_is_proven c config e inputs).2 hfinal⟩

end SaslClient.Negotiation
