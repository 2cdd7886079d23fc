import SaslClient.Proofs.Negotiation.Reached
/-!
# Stages that look the same

Stages that differ in their secrets alone are moved by an input to such stages, and what it does
looks the same from outside. There is one exception: a challenge that shows the proof which is
expected at one of the stages and not at the other.
-/
namespace SaslClient

structure Credentials.SameFields (c₁ c₂ : Credentials) : Prop where
  username : c₁.username.isSome = c₂.username.isSome
  password : c₁.password.isSome = c₂.password.isSome
  server : c₁.server.isSome = c₂.server.isSome

/-- The draws to come succeed and fail alike, with any octets. -/
def Entropy.Alike (e₁ e₂ : Entropy) : Prop :=
  ∀ n, (e₁.answer (e₁.drawn + n)).map (fun _ => ()) = (e₂.answer (e₂.drawn + n)).map (fun _ => ())

private theorem both_of_isSome {o₁ o₂ : Option String} (h : o₁.isSome = o₂.isSome) :
    (o₁ = none ∧ o₂ = none) ∨ ∃ a₁ a₂, o₁ = some a₁ ∧ o₂ = some a₂ := by
  cases o₁ with
  | none =>
    cases o₂ with
    | none => exact .inl ⟨rfl, rfl⟩
    | some a₂ => cases h
  | some a₁ =>
    cases o₂ with
    | none => cases h
    | some a₂ => exact .inr ⟨a₁, a₂, rfl, rfl⟩

theorem Credentials.describe_eq {c₁ c₂ : Credentials} (husername : c₁.username = c₂.username)
    (hserver : c₁.server = c₂.server) (hpassword : c₁.password.isSome = c₂.password.isSome) :
    c₁.describe = c₂.describe := by
  obtain ⟨username, password₁, server⟩ := c₁
  obtain ⟨_, password₂, _⟩ := c₂
  obtain rfl : username = _ := husername
  obtain rfl : server = _ := hserver
  have hboth : (password₁ = none ∧ password₂ = none) ∨
      ∃ p₁ p₂, password₁ = some p₁ ∧ password₂ = some p₂ := both_of_isSome hpassword
  rcases hboth with ⟨rfl, rfl⟩ | ⟨p₁, p₂, rfl, rfl⟩
  · rfl
  · rfl

namespace Entropy

variable {e₁ e₂ : Entropy}

theorem Alike.draw (h : e₁.Alike e₂) : e₁.draw.2.Alike e₂.draw.2 := by
  intro n
  have hnext := h (1 + n)
  rw [← Nat.add_assoc, ← Nat.add_assoc] at hnext
  exact hnext

theorem Alike.drawn (h : e₁.Alike e₂) :
    (∃ error, e₁.draw.1 = .error error ∧ e₂.draw.1 = .error error) ∨
      ∃ octets₁ octets₂, e₁.draw.1 = .ok octets₁ ∧ e₂.draw.1 = .ok octets₂ := by
  have hfirst : e₁.draw.1.map (fun _ => ()) = e₂.draw.1.map (fun _ => ()) := h 0
  cases h₁ : e₁.draw.1 with
  | error error₁ =>
    cases h₂ : e₂.draw.1 with
    | error error₂ =>
      rw [h₁, h₂] at hfirst
      obtain rfl := Except.error.inj hfirst
      exact .inl ⟨error₁, rfl, rfl⟩
    | ok octets₂ =>
      rw [h₁, h₂] at hfirst
      cases hfirst
  | ok octets₁ =>
    cases h₂ : e₂.draw.1 with
    | error error₂ =>
      rw [h₁, h₂] at hfirst
      cases hfirst
    | ok octets₂ => exact .inr ⟨octets₁, octets₂, rfl, rfl⟩

end Entropy

/-- A stanza with its tag, and with an empty text for each of its nodes. -/
def Element.veil (stanza : Element) : Element :=
  ⟨stanza.tag, stanza.children.map fun _ => .text ""⟩

def Effect.veil : Effect → Effect
  | sent stanza => sent stanza.veil
  | effect => effect

namespace Negotiation

variable {c₁ c₂ : Credentials} {config : Config} {e₁ e₂ : Entropy} {s₁ s₂ : Stage} {i : Input}
  {inputs : List Input} {link : Link} {payload : String} {challenge : Directives}

/-- Stages that differ in their secrets alone. -/
inductive Stage.Alike : Stage → Stage → Prop
  | idle : Alike .idle .idle
  | messageSent (m₁ m₂ : Plain) : Alike (.messageSent m₁) (.messageSent m₂)
  | chosen : Alike .chosen .chosen
  | responseSent (proof₁ proof₂ : String) : Alike (.responseSent proof₁) (.responseSent proof₂)
  | acknowledged : Alike .acknowledged .acknowledged
  | ended (kind : Option MechanismKind) (verdict : Option Failure) :
    Alike (.ended kind verdict) (.ended kind verdict)

structure Alike (s₁ s₂ : Stage) (e₁ e₂ : Entropy) (effects₁ effects₂ : List Effect) : Prop where
  stages : s₁.Alike s₂
  entropies : e₁.Alike e₂
  effects : effects₁.map Effect.veil = effects₂.map Effect.veil

def MovesAlike (c₁ c₂ : Credentials) (config : Config) (i : Input) (s₁ s₂ : Stage)
    (e₁ e₂ : Entropy) : Prop :=
  ∃ s₁' e₁' effects₁ s₂' e₂' effects₂, Move c₁ config i s₁ e₁ s₁' e₁' effects₁ ∧
    Move c₂ config i s₂ e₂ s₂' e₂' effects₂ ∧ Alike s₁' s₂' e₁' e₂' effects₁ effects₂

namespace Stage.Alike

theorem state_eq (h : s₁.Alike s₂) : s₁.state = s₂.state := by
  cases h <;> rfl

theorem kind_eq (h : s₁.Alike s₂) : s₁.kind = s₂.kind := by
  cases h <;> rfl

theorem verdict_eq (h : s₁.Alike s₂) : s₁.verdict = s₂.verdict := by
  cases h <;> rfl

theorem isEnded_eq (h : s₁.Alike s₂) : s₁.isEnded = s₂.isEnded := by
  cases h <;> rfl

theorem prematurity_eq (h : s₁.Alike s₂) :
    prematurity (s₁.attempt c₁ config) = prematurity (s₂.attempt c₂ config) := by
  cases h <;> rfl

theorem end_with (h : s₁.Alike s₂) (verdict : Option Failure) :
    Stage.Alike (.ended s₁.kind verdict) (.ended s₂.kind verdict) := by
  rw [h.kind_eq]
  exact .ended _ _

theorem mechanism (h : s₁.Alike s₂) {m₁ : Mechanism} (hm : s₁.mechanism c₁ = some m₁) :
    ∃ m₂, s₂.mechanism c₂ = some m₂ ∧ m₂.kind = m₁.kind := by
  cases h with
  | idle => cases hm
  | ended kind verdict => cases hm
  | _ =>
    obtain rfl := Option.some.inj hm
    exact ⟨_, rfl, rfl⟩

theorem of_first {m₁ m₂ : Mechanism} (h : m₁.kind = m₂.kind) : (first m₁).Alike (first m₂) := by
  cases m₁ <;> cases m₂ <;> cases h <;> constructor

end Stage.Alike

private theorem accepts_eq {m₁ m₂ : Mechanism} (h : m₁.kind = m₂.kind) (state : State) :
    m₁.accepts state = m₂.accepts state := by
  cases m₁ <;> cases m₂ <;> cases h <;> rfl

private theorem pendingState_eq {m₁ m₂ : Mechanism} (h : m₁.kind = m₂.kind) :
    m₁.pendingState = m₂.pendingState := by
  cases m₁ <;> cases m₂ <;> cases h <;> rfl

private theorem next_initial_eq {m₁ m₂ : Mechanism} (h : m₁.kind = m₂.kind) :
    m₁.initial.next = m₂.initial.next := by
  cases m₁ <;> cases m₂ <;> cases h <;> rfl

private theorem isSome_initial_eq {m₁ m₂ : Mechanism} (h : m₁.kind = m₂.kind) :
    m₁.initial.payload.isSome = m₂.initial.payload.isSome := by
  cases m₁ <;> cases m₂ <;> cases h <;> rfl

private theorem ofCredentials_alike (hc : c₁.SameFields c₂) (kind : MechanismKind) :
    (∃ error, Mechanism.ofCredentials kind c₁ = .error error ∧
        Mechanism.ofCredentials kind c₂ = .error error) ∨
      ∃ m₁ m₂, Mechanism.ofCredentials kind c₁ = .ok m₁ ∧
        Mechanism.ofCredentials kind c₂ = .ok m₂ := by
  cases kind with
  | digestMd5 => exact .inr ⟨_, _, rfl, rfl⟩
  | plain =>
    simp only [Mechanism.ofCredentials, Plain.ofCredentials]
    rcases both_of_isSome hc.username with ⟨hu₁, hu₂⟩ | ⟨u₁, u₂, hu₁, hu₂⟩
    · rw [hu₁, hu₂]
      exact .inl ⟨_, rfl, rfl⟩
    · rcases both_of_isSome hc.password with ⟨hp₁, hp₂⟩ | ⟨p₁, p₂, hp₁, hp₂⟩
      · rw [hu₁, hu₂, hp₁, hp₂]
        exact .inl ⟨_, rfl, rfl⟩
      · rw [hu₁, hu₂, hp₁, hp₂]
        exact .inr ⟨_, _, rfl, rfl⟩

private theorem veil_withPayload {stanza : Element} {octets₁ octets₂ : Option (List UInt8)}
    (h : octets₁.isSome = octets₂.isSome) :
    (withPayload stanza octets₁).veil = (withPayload stanza octets₂).veil := by
  cases octets₁ with
  | none =>
    cases octets₂ with
    | none => rfl
    | some octets₂ => cases h
  | some octets₁ =>
    cases octets₂ with
    | none => cases h
    | some octets₂ => simp [withPayload, Element.append, Element.veil]

private theorem veil_responseStanza (octets₁ octets₂ : List UInt8) :
    (responseStanza (some octets₁)).veil = (responseStanza (some octets₂)).veil := by
  apply veil_withPayload
  rfl

private theorem veil_authStanza {kind : MechanismKind} {octets₁ octets₂ : Option (List UInt8)}
    {auth₁ auth₂ : Element} (h₁ : authStanza config kind octets₁ = .ok auth₁)
    (h₂ : authStanza config kind octets₂ = .ok auth₂) (h : octets₁.isSome = octets₂.isSome) :
    auth₁.veil = auth₂.veil := by
  rw [authStanza_eq] at h₁ h₂
  obtain rfl := Except.ok.inj h₁
  obtain rfl := Except.ok.inj h₂
  exact veil_withPayload h

private theorem name_eq_of_veil {stanza₁ stanza₂ : Element} (h : stanza₁.veil = stanza₂.veil) :
    stanza₁.name = stanza₂.name :=
  congrArg (·.tag.name) h

private theorem launches_alike (hc : c₁.SameFields c₂) {kind : MechanismKind} {m₁ : Mechanism}
    {auth₁ : Element} (hm₁ : Mechanism.ofCredentials kind c₁ = .ok m₁)
    (hauth₁ : authStanza config kind m₁.initial.payload = .ok auth₁) :
    ∃ m₂ auth₂, Mechanism.ofCredentials kind c₂ = .ok m₂ ∧
      authStanza config kind m₂.initial.payload = .ok auth₂ ∧ m₁.kind = m₂.kind ∧
      auth₁.veil = auth₂.veil := by
  rcases ofCredentials_alike hc kind with ⟨error, h₁, h₂⟩ | ⟨m, m₂, h₁, hm₂⟩
  · rw [hm₁] at h₁
    cases h₁
  · have hauth₂ := authStanza_eq config kind m₂.initial.payload
    have hkind : m₁.kind = m₂.kind :=
      (kind_of_ofCredentials hm₁).trans (kind_of_ofCredentials hm₂).symm
    exact ⟨m₂, _, hm₂, hauth₂, hkind, veil_authStanza hauth₁ hauth₂ (isSome_initial_eq hkind)⟩

structure AnswersAlike (a₁ a₂ : Answer Mechanism) : Prop where
  log : a₁.log = a₂.log
  entropy : a₁.entropy.Alike a₂.entropy
  result : a₁.result.map (·.next) = a₂.result.map (·.next)

private theorem first_alike (hc : c₁.SameFields c₂) (he : e₁.Alike e₂) (challenge : Directives) :
    AnswersAlike
      (Mechanism.respond (.digestMd5 (.ofCredentials c₁)) .challengeResponsePending challenge e₁)
      (Mechanism.respond (.digestMd5 (.ofCredentials c₂)) .challengeResponsePending challenge
        e₂) := by
  simp only [Mechanism.respond, DigestMd5.respond, DigestMd5.respondFirst, DigestMd5.ofCredentials,
    Digest.drawNonce]
  rcases both_of_isSome hc.username with ⟨hu₁, hu₂⟩ | ⟨u₁, u₂, hu₁, hu₂⟩
  · rw [hu₁, hu₂]
    exact ⟨rfl, he, rfl⟩
  rcases both_of_isSome hc.password with ⟨hp₁, hp₂⟩ | ⟨p₁, p₂, hp₁, hp₂⟩
  · rw [hu₁, hu₂, hp₁, hp₂]
    exact ⟨rfl, he, rfl⟩
  rw [hu₁, hu₂, hp₁, hp₂]
  cases challenge.get? "nonce" with
  | none => exact ⟨rfl, he, rfl⟩
  | some nonce =>
    have hrealm : ((challenge.get? "realm").or c₁.server).isSome =
        ((challenge.get? "realm").or c₂.server).isSome := by
      rw [Option.isSome_or, Option.isSome_or, hc.server]
    rcases both_of_isSome hrealm with ⟨hr₁, hr₂⟩ | ⟨r₁, r₂, hr₁, hr₂⟩
    · rw [hr₁, hr₂]
      exact ⟨rfl, he, rfl⟩
    rw [hr₁, hr₂]
    rcases he.drawn with ⟨error, hd₁, hd₂⟩ | ⟨octets₁, octets₂, hd₁, hd₂⟩
    · rw [hd₁, hd₂]
      exact ⟨rfl, he.draw, rfl⟩
    · rw [hd₁, hd₂]
      refine ⟨rfl, he.draw, ?_⟩
      simp only [Except.map]

private theorem second_alike (c₁ c₂ : Credentials) (he : e₁.Alike e₂) {proof₁ proof₂ : String}
    (h : ∀ shown, challenge.get? "rspauth" = some shown → (shown = proof₁ ↔ shown = proof₂)) :
    AnswersAlike
      (Mechanism.respond (.digestMd5 { DigestMd5.ofCredentials c₁ with serverProof := some proof₁ })
        .challengeResponseAuthSent challenge e₁)
      (Mechanism.respond (.digestMd5 { DigestMd5.ofCredentials c₂ with serverProof := some proof₂ })
        .challengeResponseAuthSent challenge e₂) := by
  simp only [Mechanism.respond, DigestMd5.respond, DigestMd5.respondSecond]
  cases hshown : challenge.get? "rspauth" with
  | none => exact ⟨rfl, he, rfl⟩
  | some shown =>
    have hiff := h shown hshown
    by_cases h₁ : shown = proof₁
    · simp only [if_pos h₁, if_pos (hiff.1 h₁)]
      exact ⟨rfl, he, rfl⟩
    · simp only [if_neg h₁, if_neg (h₁ ∘ hiff.2)]
      exact ⟨rfl, he, rfl⟩

private theorem moves_of_answers {m₁ m₂ : Mechanism} (link : Link) (hs : s₁.Alike s₂)
    (hm₁ : s₁.mechanism c₁ = some m₁) (hm₂ : s₂.mechanism c₂ = some m₂)
    (haccepts₁ : m₁.accepts s₁.state = true) (haccepts₂ : m₂.accepts s₂.state = true)
    (hread : readChallenge payload = .ok challenge)
    (h : AnswersAlike (m₁.respond s₁.state challenge e₁) (m₂.respond s₂.state challenge e₂)) :
    MovesAlike c₁ c₂ config ⟨link, .challenge payload⟩ s₁ s₂ e₁ e₂ ∨
      link = .up ∧ ∃ step₁ step₂, (m₁.respond s₁.state challenge e₁).result = .ok step₁ ∧
        (m₂.respond s₂.state challenge e₂).result = .ok step₂ := by
  have hresult := h.result
  cases h₁ : (m₁.respond s₁.state challenge e₁).result with
  | error error₁ =>
    cases h₂ : (m₂.respond s₂.state challenge e₂).result with
    | error error₂ =>
      rw [h₁, h₂] at hresult
      obtain rfl := Except.error.inj hresult
      refine .inl ⟨_, _, _, _, _, _, .unanswered hm₁ haccepts₁ hread h₁,
        .unanswered hm₂ haccepts₂ hread h₂, hs.end_with _, h.entropy, ?_⟩
      rw [h.log, hs.state_eq]
    | ok step₂ =>
      rw [h₁, h₂] at hresult
      cases hresult
  | ok step₁ =>
    cases h₂ : (m₂.respond s₂.state challenge e₂).result with
    | error error₂ =>
      rw [h₁, h₂] at hresult
      cases hresult
    | ok step₂ =>
      cases link with
      | up => exact .inr ⟨rfl, step₁, step₂, rfl, rfl⟩
      | down reason =>
        refine .inl ⟨_, _, _, _, _, _, .undelivered hm₁ haccepts₁ hread h₁,
          .undelivered hm₂ haccepts₂ hread h₂, hs.end_with _, h.entropy, ?_⟩
        rw [h.log, hs.state_eq]

private theorem moves_of_chosen (hc : c₁.SameFields c₂) (he : e₁.Alike e₂)
    (hread : readChallenge payload = .ok challenge) :
    MovesAlike c₁ c₂ config ⟨link, .challenge payload⟩ .chosen .chosen e₁ e₂ := by
  have hanswers := first_alike hc he challenge
  rcases moves_of_answers link .chosen rfl rfl rfl rfl hread hanswers with
    hmoves | ⟨rfl, step₁, step₂, h₁, h₂⟩
  · exact hmoves
  · obtain ⟨g₁⟩ := of_respondFirst hread h₁
    obtain ⟨g₂⟩ := of_respondFirst hread h₂
    refine ⟨_, _, _, _, _, _, .responded g₁, .responded g₂, .responseSent _ _, he.draw, ?_⟩
    have hveil := veil_responseStanza (Utf8.bytes (DigestMd5.responseText g₁.digest))
      (Utf8.bytes (DigestMd5.responseText g₂.digest))
    simp only [List.map_cons, List.map_nil, Effect.veil, hveil]

/-- A challenge shows the proof that is expected at one of two stages, and not at the other. -/
inductive Parting : Input → Stage → Stage → Prop
  | one {link : Link} {payload proof₁ proof₂ : String} {challenge : Directives}
      (read : readChallenge payload = .ok challenge)
      (shown : challenge.get? "rspauth" = some proof₁) (not_other : proof₁ ≠ proof₂) :
      Parting ⟨link, .challenge payload⟩ (.responseSent proof₁) (.responseSent proof₂)
  | other {link : Link} {payload proof₁ proof₂ : String} {challenge : Directives}
      (read : readChallenge payload = .ok challenge)
      (shown : challenge.get? "rspauth" = some proof₂) (not_one : proof₂ ≠ proof₁) :
      Parting ⟨link, .challenge payload⟩ (.responseSent proof₁) (.responseSent proof₂)

private theorem moves_of_same_verdict (he : e₁.Alike e₂) {proof₁ proof₂ : String}
    (hread : readChallenge payload = .ok challenge)
    (hsame : ∀ shown, challenge.get? "rspauth" = some shown → (shown = proof₁ ↔ shown = proof₂)) :
    MovesAlike c₁ c₂ config ⟨link, .challenge payload⟩ (.responseSent proof₁)
      (.responseSent proof₂) e₁ e₂ := by
  have hanswers := second_alike c₁ c₂ he hsame
  rcases moves_of_answers link (.responseSent proof₁ proof₂) rfl rfl rfl rfl hread hanswers with
    hmoves | ⟨rfl, step₁, step₂, h₁, h₂⟩
  · exact hmoves
  · have hshown₁ := of_respondSecond h₁
    have hshown₂ := of_respondSecond h₂
    exact ⟨_, _, _, _, _, _, .proven hread hshown₁, .proven hread hshown₂, .acknowledged, he, rfl⟩

private theorem moves_of_responseSent (he : e₁.Alike e₂) (proof₁ proof₂ : String)
    (hread : readChallenge payload = .ok challenge) :
    MovesAlike c₁ c₂ config ⟨link, .challenge payload⟩ (.responseSent proof₁)
        (.responseSent proof₂) e₁ e₂ ∨
      Parting ⟨link, .challenge payload⟩ (.responseSent proof₁) (.responseSent proof₂) := by
  by_cases hone : challenge.get? "rspauth" = some proof₁
  · by_cases hsame : proof₁ = proof₂
    · subst hsame
      exact .inl (moves_of_same_verdict he hread fun shown hshown => Iff.rfl)
    · exact .inr (.one hread hone hsame)
  · by_cases hother : challenge.get? "rspauth" = some proof₂
    · refine .inr (.other hread hother ?_)
      rintro rfl
      exact hone hother
    · apply Or.inl
      apply moves_of_same_verdict he hread
      intro shown hshown
      rw [hshown, Option.some_inj] at hone hother
      exact iff_of_false hone hother

private theorem moves_of_read (hc : c₁.SameFields c₂) (he : e₁.Alike e₂) (hs : s₁.Alike s₂)
    {m : Mechanism} (hm : s₁.mechanism c₁ = some m) (haccepts : m.accepts s₁.state = true)
    (hread : readChallenge payload = .ok challenge) :
    MovesAlike c₁ c₂ config ⟨link, .challenge payload⟩ s₁ s₂ e₁ e₂ ∨
      Parting ⟨link, .challenge payload⟩ s₁ s₂ := by
  rcases accepted_cases hm haccepts with rfl | ⟨proof₁, rfl⟩
  · cases hs
    exact .inl (moves_of_chosen hc he hread)
  · cases hs with
    | responseSent proof₁ proof₂ => exact moves_of_responseSent he proof₁ proof₂ hread

/-- An input moves stages that look the same to stages that look the same, unless it is a challenge
over which they part. -/
theorem moves_alike (hc : c₁.SameFields c₂) (he : e₁.Alike e₂) (hs : s₁.Alike s₂)
    (i : Input) : MovesAlike c₁ c₂ config i s₁ s₂ e₁ e₂ ∨ Parting i s₁ s₂ := by
  obtain ⟨s₁', e₁', effects₁, hmove⟩ := exists_move c₁ config i s₁ e₁
  -- The other stage has the move of the same form. Only in an answer there is something to compare.
  cases hmove with
  | relisted not_idle =>
    refine .inl ⟨_, _, _, _, _, _, .relisted not_idle, .relisted ?_, hs, he, ?_⟩
    · rw [← hs.state_eq]
      exact not_idle
    · rw [hs.state_eq]
  | late not_offer =>
    cases hs
    exact .inl ⟨_, _, _, _, _, _, .late not_offer, .late not_offer, .ended _ _, he, rfl⟩
  | unsupported selected =>
    cases hs
    exact .inl ⟨_, _, _, _, _, _, .unsupported selected, .unsupported selected, .ended _ _, he, rfl⟩
  | lacking selected refused =>
    cases hs
    rcases ofCredentials_alike hc _ with ⟨error, h₁, h₂⟩ | ⟨m₁, m₂, h₁, h₂⟩
    · exact .inl ⟨_, _, _, _, _, _, .lacking selected h₁, .lacking selected h₂, .ended _ _, he, rfl⟩
    · rw [refused] at h₁
      cases h₁
  | launched selected created built =>
    cases hs
    obtain ⟨m₂, auth₂, hm₂, hauth₂, hkind, hveil⟩ := launches_alike hc created built
    refine .inl ⟨_, _, _, _, _, _, .launched selected created built,
      .launched selected hm₂ hauth₂, .of_first hkind, he, ?_⟩
    simp only [List.map_append, List.map_cons, List.map_nil, Effect.veil, pendingState_eq hkind,
      next_initial_eq hkind, name_eq_of_veil hveil, hveil]
  | unlaunched selected created built =>
    cases hs
    obtain ⟨m₂, auth₂, hm₂, hauth₂, hkind, hveil⟩ := launches_alike hc created built
    refine .inl ⟨_, _, _, _, _, _, .unlaunched selected created built,
      .unlaunched selected hm₂ hauth₂, .ended _ _, he, ?_⟩
    simp only [pendingState_eq hkind, name_eq_of_veil hveil]
  | early =>
    cases hs
    exact .inl ⟨_, _, _, _, _, _, .early, .early, .ended _ _, he, rfl⟩
  | untimely mechanism unaccepted =>
    obtain ⟨m₂, hm₂, hkind⟩ := hs.mechanism mechanism
    refine .inl ⟨_, _, _, _, _, _, .untimely mechanism unaccepted, .untimely hm₂ ?_, ?_, he, ?_⟩
    · rw [accepts_eq hkind, ← hs.state_eq]
      exact unaccepted
    · rw [hs.state_eq]
      exact hs.end_with _
    · rw [hs.state_eq, hkind]
  | unreadable mechanism accepted unread =>
    obtain ⟨m₂, hm₂, hkind⟩ := hs.mechanism mechanism
    refine .inl ⟨_, _, _, _, _, _, .unreadable mechanism accepted unread,
      .unreadable hm₂ ?_ unread, hs.end_with _, he, ?_⟩
    · rw [accepts_eq hkind, ← hs.state_eq]
      exact accepted
    · rw [hs.state_eq]
  | unanswered mechanism accepted read refused =>
    exact moves_of_read hc he hs mechanism accepted read
  | undelivered mechanism accepted read answered =>
    exact moves_of_read hc he hs mechanism accepted read
  | responded g => exact moves_of_read hc he hs rfl rfl g.read
  | proven read shown => exact moves_of_read hc he hs rfl rfl read
  | completed not_ended due =>
    have not_ended₂ := hs.isEnded_eq.symm.trans not_ended
    have due₂ : prematurity (s₂.attempt c₂ config) = none := hs.prematurity_eq.symm.trans due
    refine .inl ⟨_, _, _, _, _, _, .completed not_ended due, .completed not_ended₂ due₂,
      hs.end_with _, he, ?_⟩
    rw [hs.state_eq]
  | @trusted _ _ failure _ not_ended premature policy =>
    have not_ended₂ := hs.isEnded_eq.symm.trans not_ended
    have premature₂ : prematurity (s₂.attempt c₂ config) = some failure :=
      hs.prematurity_eq.symm.trans premature
    refine .inl ⟨_, _, _, _, _, _, .trusted not_ended premature policy,
      .trusted not_ended₂ premature₂ policy, hs.end_with _, he, ?_⟩
    rw [hs.state_eq]
  | @distrusted _ _ failure _ not_ended premature policy =>
    have not_ended₂ := hs.isEnded_eq.symm.trans not_ended
    have premature₂ : prematurity (s₂.attempt c₂ config) = some failure :=
      hs.prematurity_eq.symm.trans premature
    refine .inl ⟨_, _, _, _, _, _, .distrusted not_ended premature policy,
      .distrusted not_ended₂ premature₂ policy, hs.end_with _, he, ?_⟩
    rw [hs.state_eq]
  | refused not_ended =>
    have not_ended₂ := hs.isEnded_eq.symm.trans not_ended
    refine .inl ⟨_, _, _, _, _, _, .refused not_ended, .refused not_ended₂, hs.end_with _, he, ?_⟩
    rw [hs.state_eq]

end Negotiation

end SaslClient
