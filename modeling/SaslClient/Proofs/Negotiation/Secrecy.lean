import Mathlib.Data.List.Infix
import SaslClient.Proofs.Negotiation.Alike
/-!
# What stays secret

Two runs on the same inputs look the same from outside, whatever the credentials and the random
octets are, until a challenge shows the proof that one of them expects and the other does not.
-/
namespace SaslClient

/-- Two turns look the same from outside. -/
structure Turn.Alike (t u : Turn) : Prop where
  state : t.attempt.state = u.attempt.state
  kind : t.attempt.kind = u.attempt.kind
  failure : t.attempt.failure = u.attempt.failure
  effects : t.effects.map Effect.veil = u.effects.map Effect.veil

open Negotiation (readChallenge) in
structure Turn.Compares (t : Turn) (payload shown expected : String) : Prop where
  state : t.attempt.state = .challengeResponseAuthSent
  expects : ∃ d, t.attempt.mechanism = some (.digestMd5 d) ∧ d.serverProof = some expected
  shows : ∃ challenge, readChallenge payload = .ok challenge ∧
    challenge.get? "rspauth" = some shown

/-- A challenge shows the proof that one attempt expects, and not the one that the other expects.
The one goes on, if its answer can be sent, and the other fails. -/
structure Turn.Disputes (link : Link) (payload : String) (one other : Turn) : Prop where
  accepts : ∃ shown, one.Compares payload shown shown ∧
    ∃ expected, other.Compares payload shown expected ∧ shown ≠ expected
  acknowledged : link = .up →
    (one.next ⟨link, .challenge payload⟩).attempt.state = .challengeResponseFinalSent
  undelivered : ∀ reason, link = .down reason →
    (one.next ⟨link, .challenge payload⟩).attempt.failure = some (.transport reason)
  refuses : (other.next ⟨link, .challenge payload⟩).attempt.failure =
    some (.mechanism .invalidServerProof)

namespace Negotiation

variable {c₁ c₂ : Credentials} {config : Config} {e₁ e₂ : Entropy} {s₁ s₂ : Stage} {i : Input}
  {inputs : List Input} {link : Link} {payload : String} {challenge : Directives}

private def ReachedAlike (c₁ c₂ : Credentials) (config : Config) (e₁ e₂ : Entropy)
    (inputs : List Input) : Prop :=
  ∃ s₁ e₁' effects₁ s₂ e₂' effects₂, Reached c₁ config e₁ inputs s₁ e₁' effects₁ ∧
    Reached c₂ config e₂ inputs s₂ e₂' effects₂ ∧ Alike s₁ s₂ e₁' e₂' effects₁ effects₂

private def ReachedParting (c₁ c₂ : Credentials) (config : Config) (e₁ e₂ : Entropy)
    (inputs : List Input) (i : Input) : Prop :=
  ∃ s₁ e₁' effects₁ s₂ e₂' effects₂, Reached c₁ config e₁ inputs s₁ e₁' effects₁ ∧
    Reached c₂ config e₂ inputs s₂ e₂' effects₂ ∧ Parting i s₁ s₂

private theorem reachedAlike_step (hc : c₁.SameFields c₂) (before : List Input) (i : Input)
    (h : ReachedAlike c₁ c₂ config e₁ e₂ before) :
    ReachedAlike c₁ c₂ config e₁ e₂ (before ++ [i]) ∨
      ReachedParting c₁ c₂ config e₁ e₂ before i := by
  obtain ⟨s₁, e₁', effects₁, s₂, e₂', effects₂, h₁, h₂, hs, he, heffects⟩ := h
  rcases moves_alike hc he hs i with
    ⟨s₁', e₁'', more₁, s₂', e₂'', more₂, hmove₁, hmove₂, hs', he', hmore⟩ | hparting
  · refine .inl ⟨_, _, _, _, _, _, h₁.step hmove₁, h₂.step hmove₂, hs', he', ?_⟩
    rw [List.map_append, List.map_append, heffects, hmore]
  · exact .inr ⟨_, _, _, _, _, _, h₁, h₂, hparting⟩

private theorem turn_alike (h : ReachedAlike c₁ c₂ config e₁ e₂ inputs) :
    (run c₁ config e₁ inputs).Alike (run c₂ config e₂ inputs) := by
  obtain ⟨s₁, e₁', effects₁, s₂, e₂', effects₂, h₁, h₂, hs, he, heffects⟩ := h
  rw [run_of_reached h₁, run_of_reached h₂]
  exact ⟨hs.state_eq, hs.kind_eq, hs.verdict_eq, heffects⟩

section

variable {c : Credentials} {e e' e'' : Entropy} {s s' : Stage} {effects more : List Effect}
  {shown proof proof₁ proof₂ : String}

private theorem attempt_next (h : Reached c config e inputs s e' effects)
    (move : Move c config i s e' s' e'' more) :
    ((run c config e inputs).next i).attempt = s'.attempt c config := by
  rw [← run_concat, run_of_reached (h.step move)]

private theorem compares_of_reached (h : Reached c config e inputs (.responseSent proof) e' effects)
    (hread : readChallenge payload = .ok challenge)
    (hshown : challenge.get? "rspauth" = some shown) :
    (run c config e inputs).Compares payload shown proof := by
  rw [run_of_reached h]
  exact ⟨rfl, ⟨_, rfl, rfl⟩, challenge, hread, hshown⟩

private theorem result_of_shown (hshown : challenge.get? "rspauth" = some proof) :
    (Mechanism.respond (.digestMd5 { DigestMd5.ofCredentials c with serverProof := some proof })
      .challengeResponseAuthSent challenge e).result = .ok ⟨none, .challengeResponseFinalSent⟩ := by
  simp only [Mechanism.respond, DigestMd5.respond,
    DigestMd5.respondSecond_of_shown (.ofCredentials c) hshown]

private theorem result_of_ne (hshown : challenge.get? "rspauth" = some shown)
    (hne : shown ≠ proof) :
    (Mechanism.respond (.digestMd5 { DigestMd5.ofCredentials c with serverProof := some proof })
      .challengeResponseAuthSent challenge e).result = .error .invalidServerProof := by
  simp only [Mechanism.respond, DigestMd5.respond, DigestMd5.respondSecond, hshown, if_neg hne]

private theorem disputes_of_reached {e₁' e₂' : Entropy} {effects₁ effects₂ : List Effect}
    (h₁ : Reached c₁ config e₁ inputs (.responseSent proof₁) e₁' effects₁)
    (h₂ : Reached c₂ config e₂ inputs (.responseSent proof₂) e₂' effects₂)
    (hread : readChallenge payload = .ok challenge)
    (hshown : challenge.get? "rspauth" = some proof₁) (hne : proof₁ ≠ proof₂) (link : Link) :
    Turn.Disputes link payload (run c₁ config e₁ inputs) (run c₂ config e₂ inputs) := by
  refine ⟨⟨proof₁, compares_of_reached h₁ hread hshown, proof₂,
    compares_of_reached h₂ hread hshown, hne⟩, ?_, ?_, ?_⟩
  · rintro rfl
    rw [attempt_next h₁ (.proven hread hshown)]
    rfl
  · rintro reason rfl
    rw [attempt_next h₁ (.undelivered rfl rfl hread (result_of_shown hshown))]
    rfl
  · rw [attempt_next h₂ (.unanswered rfl rfl hread (result_of_ne hshown hne))]
    rfl

private theorem disputes_of_parting {e₁' e₂' : Entropy} {effects₁ effects₂ : List Effect}
    (h₁ : Reached c₁ config e₁ inputs s₁ e₁' effects₁)
    (h₂ : Reached c₂ config e₂ inputs s₂ e₂' effects₂) (h : Parting i s₁ s₂) :
    ∃ link payload, i = ⟨link, .challenge payload⟩ ∧ s₁.kind = some .digestMd5 ∧
      (Turn.Disputes link payload (run c₁ config e₁ inputs) (run c₂ config e₂ inputs) ∨
        Turn.Disputes link payload (run c₂ config e₂ inputs) (run c₁ config e₁ inputs)) := by
  cases h with
  | one read shown not_other =>
    exact ⟨_, _, rfl, rfl, .inl (disputes_of_reached h₁ h₂ read shown not_other _)⟩
  | other read shown not_one =>
    exact ⟨_, _, rfl, rfl, .inr (disputes_of_reached h₂ h₁ read shown not_one _)⟩

end

private theorem not_acknowledged_of_failure {c : Credentials} {e : Entropy} {failure : Failure}
    (h : (run c config e inputs).attempt.failure = some failure) :
    (run c config e inputs).attempt.state ≠ .challengeResponseFinalSent := by
  obtain ⟨s, e', effects, hreached⟩ := reached_run c config e inputs
  rw [run_of_reached hreached] at h ⊢
  intro hstate
  obtain rfl := Stage.eq_acknowledged hstate
  cases h

/-- Whatever the secrets are, two runs on the same inputs look the same, until a challenge shows the
proof that one of them expects and the other does not. With PLAIN there is no such challenge. -/
theorem runs_look_alike (hc : c₁.SameFields c₂) (he : e₁.Alike e₂) (config : Config)
    (inputs : List Input) :
    let one := run c₁ config e₁
    let other := run c₂ config e₂
    ((∀ earlier, earlier <+: inputs → (one earlier).Alike (other earlier)) ∨
      ∃ before link payload after, inputs = before ++ ⟨link, .challenge payload⟩ :: after ∧
        (∀ earlier, earlier <+: before → (one earlier).Alike (other earlier)) ∧
        (Turn.Disputes link payload (one before) (other before) ∨
          Turn.Disputes link payload (other before) (one before))) ∧
      ((one inputs).attempt.kind = some .plain →
        ∀ earlier, earlier <+: inputs → (one earlier).Alike (other earlier)) ∧
      ∀ d₁ d₂ : Credentials, d₁.username = d₂.username → d₁.server = d₂.server →
        d₁.password.isSome = d₂.password.isSome → d₁.describe = d₂.describe := by
  intro one other
  have hstart : ReachedAlike c₁ c₂ config e₁ e₂ [] :=
    ⟨_, _, _, _, _, _, .start, .start, .idle, he, rfl⟩
  rw [← and_assoc]
  refine ⟨?_, fun d₁ d₂ => Credentials.describe_eq⟩
  rcases holds_or_breaks hstart (reachedAlike_step hc) inputs with
    halike | ⟨before, i, after, rfl, halike, hparting⟩
  · have hturns := fun earlier hearlier => turn_alike (halike earlier hearlier)
    exact ⟨.inl hturns, fun _ => hturns⟩
  · obtain ⟨s₁, e₁', effects₁, s₂, e₂', effects₂, h₁, h₂, hparts⟩ := hparting
    obtain ⟨link, payload, rfl, hkind, hdisputes⟩ := disputes_of_parting h₁ h₂ hparts
    refine ⟨.inr ⟨before, link, payload, after, rfl, ?_, hdisputes⟩, ?_⟩
    · intro earlier hearlier
      exact turn_alike (halike earlier hearlier)
    · intro hplain
      have hlater := kind_of_later h₁ hkind (⟨link, .challenge payload⟩ :: after)
      cases hlater.symm.trans hplain

theorem runs_look_alike_plain :
    let c₁ : Credentials := { username := some "u", password := some "p" }
    let c₂ : Credentials := { username := some "someone", password := some "secret" }
    let e₁ : Entropy := { answer := fun _ => .ok (Vector.replicate 32 7) }
    let e₂ : Entropy := { answer := fun _ => .ok (Vector.replicate 32 9) }
    let inputs : List Input := [⟨.up, .start ["PLAIN"]⟩, ⟨.up, .success⟩]
    let known : Credentials := { username := some "u", password := some "q" }
    c₁.SameFields c₂ ∧ e₁.Alike e₂ ∧ (run c₁ {} e₁ inputs).attempt.kind = some .plain ∧
      (∀ earlier, earlier <+: inputs → (run c₁ {} e₁ earlier).Alike (run c₂ {} e₂ earlier)) ∧
      c₁.describe = known.describe := by
  intro c₁ c₂ e₁ e₂ inputs known
  have hc : c₁.SameFields c₂ := ⟨rfl, rfl, rfl⟩
  have he : e₁.Alike e₂ := fun _ => rfl
  have hplain : (run c₁ {} e₁ inputs).attempt.kind = some .plain := by decide +kernel
  obtain ⟨-, halike, hdescribe⟩ := runs_look_alike hc he {} inputs
  exact ⟨hc, he, hplain, halike hplain, hdescribe c₁ known rfl rfl rfl⟩

/-- Where the answer to the proof cannot be sent, two runs differ although neither goes on. -/
theorem runs_differ_undelivered :
    let c₁ : Credentials := { username := some "u", password := some "p" }
    let c₂ : Credentials := { username := some "u", password := some "q" }
    let e : Entropy := { answer := fun _ => .ok (Vector.replicate 32 7) }
    -- The second challenge shows the proof for the password of the first run.
    let inputs : List Input := [⟨.up, .start ["DIGEST-MD5"]⟩,
      ⟨.up, .challenge "cmVhbG09InIiLG5vbmNlPSJuIg=="⟩,
      ⟨.down "broken", .challenge "cnNwYXV0aD1kNmQzZDM0ZGI2ZjgwOWNkMTU3MzI2YTcwODNjYzZhYQ=="⟩]
    let one := run c₁ {} e
    let other := run c₂ {} e
    c₁.SameFields c₂ ∧ e.Alike e ∧
      ¬((∀ earlier, earlier <+: inputs → (one earlier).Alike (other earlier)) ∨
        ∃ before link payload after, inputs = before ++ ⟨link, .challenge payload⟩ :: after ∧
          (∀ earlier, earlier <+: before → (one earlier).Alike (other earlier)) ∧
          let i : Input := ⟨link, .challenge payload⟩
          ((one before).next i).attempt.state = .challengeResponseFinalSent ∧
              ((other before).next i).attempt.failure = some (.mechanism .invalidServerProof) ∨
            ((other before).next i).attempt.state = .challengeResponseFinalSent ∧
              ((one before).next i).attempt.failure = some (.mechanism .invalidServerProof)) := by
  intro c₁ c₂ e inputs one other
  refine ⟨⟨rfl, rfl, rfl⟩, fun _ => rfl, ?_⟩
  have hone : (one inputs).attempt.failure = some (.transport "broken") := by decide +kernel
  have hother : (other inputs).attempt.failure = some (.mechanism .invalidServerProof) := by
    decide +kernel
  have hunfinished : ∀ earlier ∈ inputs.dropLast.inits,
      (one earlier).attempt.state ≠ .challengeResponseFinalSent ∧
        (other earlier).attempt.state ≠ .challengeResponseFinalSent := by
    decide +kernel
  have hnever : ∀ earlier, earlier <+: inputs →
      (one earlier).attempt.state ≠ .challengeResponseFinalSent ∧
        (other earlier).attempt.state ≠ .challengeResponseFinalSent := by
    intro earlier hearlier
    rcases List.prefix_concat_iff.1 (show earlier <+: inputs.dropLast ++ [_] from hearlier) with
      hwhole | hearlier
    · obtain rfl : earlier = inputs := hwhole
      exact ⟨not_acknowledged_of_failure hone, not_acknowledged_of_failure hother⟩
    · exact hunfinished earlier ((List.mem_inits _ _).2 hearlier)
  rintro (halike | ⟨before, link, payload, after, hinputs, -, hends⟩)
  · have hfailure := (halike inputs (List.prefix_refl inputs)).failure
    rw [hone, hother] at hfailure
    cases hfailure
  · have hprefix : before ++ [⟨link, .challenge payload⟩] <+: inputs := by
      refine ⟨after, ?_⟩
      rw [hinputs, List.append_assoc]
      rfl
    rcases hends with ⟨hfinal, -⟩ | ⟨hfinal, -⟩
    · rw [← run_concat] at hfinal
      exact (hnever _ hprefix).1 hfinal
    · rw [← run_concat] at hfinal
      exact (hnever _ hprefix).2 hfinal

end Negotiation

end SaslClient
