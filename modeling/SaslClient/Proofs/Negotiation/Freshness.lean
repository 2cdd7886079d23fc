import Mathlib.Logic.Function.Basic
import SaslClient.Proofs.Digest.Nonce
import SaslClient.Proofs.Negotiation.Checks
import SaslClient.Proofs.Negotiation.HonestServer
/-!
# Fresh nonces

Attempts can go on side by side and draw from one source, in whatever order their events come. Each
response is then computed with a draw of its own, which belongs to this attempt and to no other. So
two attempts tell the same nonce exactly if the source gave the same octets twice.
-/
namespace SaslClient

theorem Mechanism.entropy_respond (m : Mechanism) (state : State) (challenge : Directives)
    (e : Entropy) :
    (m.respond state challenge e).entropy = e ∨
      (m.respond state challenge e).entropy = e.draw.2 := by
  cases m with
  | plain m => exact .inl rfl
  | digestMd5 d =>
    cases state with
    | challengeResponsePending => exact DigestMd5.entropy_respondFirst d challenge e
    | challengeResponseAuthSent => exact .inl (DigestMd5.entropy_respondSecond d challenge e)
    | _ => exact .inl rfl

namespace Negotiation

variable {c : Credentials} {config : Config} {i : Input} {s s' : Stage} {e e' : Entropy}
  {effects : List Effect} {x : Digest.Inputs}

theorem entropy_eq_or_draw (h : Move c config i s e s' e' effects) : e' = e ∨ e' = e.draw.2 := by
  cases h with
  | unanswered | undelivered => exact Mechanism.entropy_respond _ _ _ _
  | responded g => exact .inr rfl
  | _ => exact .inl rfl

theorem draws_le_of_move (h : Move c config i s e s' e' effects) :
    s.draws ≤ s'.draws ∧ e.drawn ≤ e'.drawn := by
  have hdraws := draws_of_move h
  rcases entropy_eq_or_draw h with rfl | rfl
  · exact ⟨by omega, Nat.le_refl _⟩
  · refine ⟨?_, Nat.le_succ _⟩
    change e.drawn + 1 + s.draws ≤ e.drawn + s'.draws at hdraws
    omega

theorem draw_of_response (h : Move c config i s e s' e' effects)
    (sent : answerStanza x ∈ effects.filterMap Effect.stanza?) :
    s = .chosen ∧ s'.draws = 1 ∧ e' = e.draw.2 ∧
      ∃ octets, e.draw.1 = .ok octets ∧ x.cnonce = Digest.nonceOf octets := by
  cases outline_of_move h with
  | stays unsent _ =>
    rw [unsent] at sent
    cases sent
  | ends _ unsent _ =>
    rw [unsent] at sent
    cases sent
  | goesOn _ still_not _ =>
    cases h with
    | relisted | late => cases sent
    | launched selected created built =>
      rw [Effect.stanzas_of_logged] at sent
      have hname := (isAuth_of_authStanza built).name
      have hresponse : (answerStanza x).name = "response" := rfl
      rw [← List.mem_singleton.1 sent, hresponse] at hname
      exact absurd hname (by decide)
    | responded g =>
      have hstanza := List.mem_singleton.1 sent
      have htext := congrArg Element.text (hstanza.trans (answerStanza_eq g.digest))
      rw [text_answerStanza, text_answerStanza] at htext
      have hresponse := Utf8.bytes_injective (Base64.encode_injective htext)
      obtain ⟨-, -, -, -, hcnonce⟩ := DigestMd5.eq_of_responseText hresponse
      exact ⟨rfl, rfl, rfl, g.octets, g.drawn, hcnonce⟩
    | proven read shown =>
      have htext := congrArg Element.text (List.mem_singleton.1 sent)
      exact absurd htext (text_answerStanza_ne_empty x)
    | _ => cases still_not

end Negotiation

open Negotiation (Stage Move Grounds answerStanza)

/-- Numbered attempts that draw from one source. -/
structure Pool where
  attempts : Nat → Negotiation
  entropy : Entropy

namespace Pool

def opening (c : Nat → Credentials) (config : Nat → Config) (e : Entropy) : Pool :=
  { attempts := fun k => { credentials := c k, config := config k }, entropy := e }

def turn (p : Pool) (k : Nat) (i : Input) : Turn :=
  Negotiation.handle i.link i.event (p.attempts k) p.entropy

def next (p : Pool) (call : Nat × Input) : Pool :=
  { attempts := Function.update p.attempts call.1 (p.turn call.1 call.2).attempt
    entropy := (p.turn call.1 call.2).entropy }

def after (p : Pool) (calls : List (Nat × Input)) : Pool :=
  calls.foldl next p

/-- In one of the calls an attempt sent a response computed from `x`, and `n` draws had been made
before. -/
def Tells (p : Pool) (calls : List (Nat × Input)) (k : Nat) (x : Digest.Inputs) (n : Nat) : Prop :=
  ∃ before i later, calls = before ++ (k, i) :: later ∧
    answerStanza x ∈ ((p.after before).turn k i).stanzas ∧ (p.after before).entropy.drawn = n

theorem after_append (p : Pool) (before later : List (Nat × Input)) :
    p.after (before ++ later) = (p.after before).after later :=
  List.foldl_append

/-! ## The stages of the attempts -/

variable {c : Nat → Credentials} {config : Nat → Config} {e e' : Entropy} {p : Pool}
  {stages : Nat → Stage} {k l : Nat} {i j : Input} {x y : Digest.Inputs}

/-- The attempts are at these stages, and the source is the same as in the beginning. -/
structure At (c : Nat → Credentials) (config : Nat → Config) (e : Entropy) (p : Pool)
    (stages : Nat → Stage) : Prop where
  attempts : ∀ k, p.attempts k = (stages k).attempt (c k) (config k)
  source : p.entropy.answer = e.answer

theorem at_opening (c : Nat → Credentials) (config : Nat → Config) (e : Entropy) :
    At c config e (opening c config e) fun _ => .idle :=
  ⟨fun _ => rfl, rfl⟩

theorem At.turn_of_move {s' : Stage} {effects : List Effect} (h : At c config e p stages)
    (move : Move (c k) (config k) i (stages k) p.entropy s' e' effects) :
    p.turn k i = ⟨s'.attempt (c k) (config k), e', effects⟩ := by
  rw [turn, h.attempts, Negotiation.handle_of_move move]

theorem At.next_of_move {s' : Stage} {effects : List Effect} (h : At c config e p stages)
    (move : Move (c k) (config k) i (stages k) p.entropy s' e' effects) :
    At c config e (p.next (k, i)) (Function.update stages k s') ∧
      (p.next (k, i)).entropy = e' := by
  have hturn := h.turn_of_move move
  have hentropy : (p.next (k, i)).entropy = e' := congrArg Turn.entropy hturn
  refine ⟨⟨?_, ?_⟩, hentropy⟩
  · intro l
    by_cases hl : l = k
    · subst hl
      simp only [next, hturn, Function.update_self]
    · simp only [next, Function.update_of_ne hl, h.attempts]
  · rw [hentropy]
    rcases Negotiation.entropy_eq_or_draw move with rfl | rfl
    · exact h.source
    · exact h.source

theorem At.after (h : At c config e p stages) (calls : List (Nat × Input)) :
    ∃ stages', At c config e (p.after calls) stages' ∧
      (∀ k, (stages k).draws ≤ (stages' k).draws) ∧
      p.entropy.drawn ≤ (p.after calls).entropy.drawn := by
  -- No move takes a draw back, neither from the source nor from its attempt.
  induction calls generalizing p stages with
  | nil => exact ⟨stages, h, fun _ => Nat.le_refl _, Nat.le_refl _⟩
  | cons call calls ih =>
    obtain ⟨k, i⟩ := call
    obtain ⟨s', e', effects, hmove⟩ :=
      Negotiation.exists_move (c k) (config k) i (stages k) p.entropy
    obtain ⟨hnext, hentropy⟩ := h.next_of_move hmove
    obtain ⟨hdraws, hdrawn⟩ := Negotiation.draws_le_of_move hmove
    obtain ⟨stages', hafter, hmore, hlater⟩ := ih hnext
    refine ⟨stages', hafter, ?_, ?_⟩
    · intro l
      refine Nat.le_trans ?_ (hmore l)
      by_cases hl : l = k
      · subst hl
        rwa [Function.update_self]
      · rw [Function.update_of_ne hl]
    · rw [hentropy] at hlater
      exact Nat.le_trans hdrawn hlater

/-! ## Responses and their draws -/

/-- A response is sent at the stage before the only draw of its attempt, and is computed with it. -/
theorem At.draw_of_response (h : At c config e p stages)
    (sent : answerStanza x ∈ (p.turn k i).stanzas) :
    stages k = .chosen ∧
      (∃ stages', At c config e (p.next (k, i)) stages' ∧ (stages' k).draws = 1) ∧
      (p.next (k, i)).entropy.drawn = p.entropy.drawn + 1 ∧
      ∃ octets, e.answer p.entropy.drawn = .ok octets ∧ x.cnonce = Digest.nonceOf octets := by
  obtain ⟨s', e', effects, hmove⟩ :=
    Negotiation.exists_move (c k) (config k) i (stages k) p.entropy
  rw [h.turn_of_move hmove] at sent
  obtain ⟨hstage, hdraws, rfl, octets, hdrawn, hcnonce⟩ := Negotiation.draw_of_response hmove sent
  obtain ⟨hnext, hentropy⟩ := h.next_of_move hmove
  refine ⟨hstage, ⟨_, hnext, ?_⟩, ?_, octets, ?_, hcnonce⟩
  · rwa [Function.update_self]
  · rw [hentropy]
    rfl
  · rw [← h.source]
    exact hdrawn

theorem At.chosen_of_offer {offered : List String} (h : At c config e p stages)
    (hstage : stages k = .idle) (hallowed : .digestMd5 ∈ (config k).mechanisms)
    (hoffered : "DIGEST-MD5" ∈ offered) :
    At c config e (p.next (k, ⟨.up, .start offered⟩)) (Function.update stages k .chosen) ∧
      (p.next (k, ⟨.up, .start offered⟩)).entropy = p.entropy := by
  obtain ⟨entries, hselect⟩ := Selection.select_digestMd5 hallowed hoffered
  have hauth := Negotiation.authStanza_eq (config k) .digestMd5 none
  have hmove : Move (c k) (config k) _ .idle p.entropy _ _ _ := .launched hselect rfl hauth
  rw [← hstage] at hmove
  exact h.next_of_move hmove

theorem At.response_of_grounds {payload : String} (h : At c config e p stages)
    (hstage : stages k = .chosen) (g : Grounds (c k) payload p.entropy) :
    answerStanza g.digest ∈ (p.turn k ⟨.up, .challenge payload⟩).stanzas ∧
      At c config e (p.next (k, ⟨.up, .challenge payload⟩))
        (Function.update stages k (.responseSent g.digest.serverProof)) := by
  have hmove : Move (c k) (config k) _ .chosen p.entropy _ _ _ := .responded g
  rw [← hstage] at hmove
  obtain ⟨hnext, -⟩ := h.next_of_move hmove
  refine ⟨?_, hnext⟩
  rw [h.turn_of_move hmove, ← Negotiation.answerStanza_eq]
  exact List.mem_singleton.2 rfl

theorem At.ne_of_later_response (h : At c config e p stages)
    (sent : answerStanza x ∈ (p.turn k i).stanzas) (between : List (Nat × Input))
    (later : answerStanza y ∈ (((p.next (k, i)).after between).turn l j).stanzas) :
    k ≠ l ∧ p.entropy.drawn < ((p.next (k, i)).after between).entropy.drawn := by
  obtain ⟨-, ⟨stages', hnext, hspent⟩, hdrawn, -⟩ := h.draw_of_response sent
  obtain ⟨stages'', hbetween, hdraws, hmore⟩ := hnext.after between
  obtain ⟨hstage, -⟩ := hbetween.draw_of_response later
  refine ⟨?_, by omega⟩
  rintro rfl
  have hk := hdraws k
  rw [hspent, hstage] at hk
  exact absurd hk (by decide)

theorem exists_at (c : Nat → Credentials) (config : Nat → Config) (e : Entropy)
    (calls : List (Nat × Input)) :
    ∃ stages, At c config e ((opening c config e).after calls) stages ∧
      e.drawn ≤ ((opening c config e).after calls).entropy.drawn := by
  obtain ⟨stages, hafter, -, hdrawn⟩ := (at_opening c config e).after calls
  exact ⟨stages, hafter, hdrawn⟩

variable {calls : List (Nat × Input)} {m n : Nat}

theorem draw_of_tells (h : Tells (opening c config e) calls k x n) :
    (∃ octets, e.answer n = .ok octets ∧ x.cnonce = Digest.nonceOf octets) ∧ e.drawn ≤ n ∧
      n < ((opening c config e).after calls).entropy.drawn := by
  obtain ⟨before, i, later, rfl, hsent, rfl⟩ := h
  obtain ⟨stages, hbefore, hle⟩ := exists_at c config e before
  obtain ⟨-, ⟨stages', hnext, -⟩, hdrawn, hoctets⟩ := hbefore.draw_of_response hsent
  obtain ⟨-, -, -, hmore⟩ := hnext.after later
  refine ⟨hoctets, hle, ?_⟩
  rw [after_append]
  exact Nat.lt_of_lt_of_le (by omega) hmore

private theorem eq_or_before_or_after {α : Type} {before later before' later' : List α} {a b : α}
    (h : before ++ a :: later = before' ++ b :: later') :
    (before = before' ∧ a = b) ∨ (∃ between, before' = before ++ a :: between) ∨
      ∃ between, before = before' ++ b :: between := by
  rcases List.append_eq_append_iff.1 h with ⟨between, hbefore, hrest⟩ | ⟨between, hbefore, hrest⟩
  · cases between with
    | nil => exact .inl ⟨by simpa using hbefore.symm, (List.cons.inj hrest).1⟩
    | cons d between =>
      obtain ⟨rfl, -⟩ := List.cons.inj hrest
      exact .inr (.inl ⟨between, hbefore⟩)
  · cases between with
    | nil => exact .inl ⟨by simpa using hbefore, (List.cons.inj hrest).1.symm⟩
    | cons d between =>
      obtain ⟨rfl, -⟩ := List.cons.inj hrest
      exact .inr (.inr ⟨between, hbefore⟩)

/-- Each attempt tells one nonce at most, and each draw is told by one attempt at most. -/
theorem eq_iff_of_tells (hx : Tells (opening c config e) calls k x m)
    (hy : Tells (opening c config e) calls l y n) : k = l ↔ m = n := by
  obtain ⟨before, i, later, rfl, hx, rfl⟩ := hx
  obtain ⟨before', j, later', hcalls, hy, rfl⟩ := hy
  rcases eq_or_before_or_after hcalls with ⟨rfl, hcall⟩ | ⟨between, rfl⟩ | ⟨between, rfl⟩
  · exact iff_of_true (Prod.mk.inj hcall).1 rfl
  · obtain ⟨stages, hbefore, -⟩ := exists_at c config e before
    rw [after_append] at hy ⊢
    obtain ⟨hne, hlt⟩ := hbefore.ne_of_later_response hx between hy
    exact iff_of_false hne (Nat.ne_of_lt hlt)
  · obtain ⟨stages, hbefore, -⟩ := exists_at c config e before'
    rw [after_append] at hx ⊢
    obtain ⟨hne, hlt⟩ := hbefore.ne_of_later_response hy between hx
    exact iff_of_false (Ne.symm hne) (Nat.ne_of_gt hlt)

/-- A nonce is made of the octets of one draw, in 43 symbols and a padding sign. It shows which
octets they were, and needs no escape. The calls that succeed have the nonces of the draws that
succeed, one after the other. Responses are computed with draws of their own, whatever attempts there
are and in whatever order they take their inputs, so two of them tell the same nonce exactly if they
drew the same octets. -/
theorem nonces_follow_draws (c : Nat → Credentials) (config : Nat → Config) (e : Entropy) :
    (∀ octets, e.draw.1 = .ok octets →
      Digest.drawNonce e = (.ok (Digest.nonceOf octets), e.draw.2)) ∧
    (∀ octets, Digest.IsNonce (Digest.nonceOf octets) ∧
      (∀ other, Digest.nonceOf octets = Digest.nonceOf other → octets = other) ∧
      ∀ (w : Directives.Writer) (name : String),
        (w.quoted name (Digest.nonceOf octets)).written =
          (if w.written = "" then "" else w.written ++ ",") ++
            (name ++ "=\"" ++ Digest.nonceOf octets ++ "\"")) ∧
    (∀ n, Digest.drawNonces n e =
      ((e.answers n).map (·.map Digest.nonceOf), { e with drawn := e.drawn + n })) ∧
    (∀ n k : Nat, (Digest.successes (Digest.drawNonces n e).1)[k]? =
      (Digest.successes (e.answers n))[k]?.map Digest.nonceOf) ∧
    (∀ calls k x n, Tells (opening c config e) calls k x n →
      e.drawn ≤ n ∧ n < ((opening c config e).after calls).entropy.drawn ∧
        ∃ octets, e.answer n = .ok octets ∧ x.cnonce = Digest.nonceOf octets ∧
          ∃ front back, DigestMd5.responseText x =
            front ++ "," ++ ("cnonce=\"" ++ Digest.nonceOf octets ++ "\"") ++ "," ++ back) ∧
    ∀ calls k l x y m n, Tells (opening c config e) calls k x m →
      Tells (opening c config e) calls l y n →
        (k = l ↔ m = n) ∧ (x.cnonce = y.cnonce ↔ e.answer m = e.answer n) := by
  refine ⟨?_, ?_, ?_, ?_, ?_, ?_⟩
  · intro octets hdrawn
    rw [Digest.drawNonce_eq, hdrawn]
    rfl
  · intro octets
    refine ⟨Digest.isNonce_nonceOf octets, ?_, ?_⟩
    · intro other h
      exact Digest.nonceOf_injective h
    · intro w name
      exact Digest.written_quoted_nonceOf w name octets
  · intro n
    exact Digest.drawNonces_eq n e
  · intro n k
    rw [Digest.successes_drawNonces, List.getElem?_map]
  · intro calls k x n h
    obtain ⟨⟨octets, hdrawn, hcnonce⟩, hle, hlt⟩ := draw_of_tells h
    exact ⟨hle, hlt, octets, hdrawn, hcnonce, DigestMd5.exists_responseText_eq hcnonce⟩
  · intro calls k l x y m n hx hy
    obtain ⟨⟨octets, hoctets, hxnonce⟩, -⟩ := draw_of_tells hx
    obtain ⟨⟨other, hother, hynonce⟩, -⟩ := draw_of_tells hy
    refine ⟨eq_iff_of_tells hx hy, ?_⟩
    rw [hxnonce, hynonce, hoctets, hother, Except.ok.injEq]
    exact ⟨Digest.nonceOf_injective, congrArg Digest.nonceOf⟩

theorem nonces_follow_draws_interleaved :
    let c : Nat → Credentials := fun _ =>
      { username := some "u", password := some "p", server := some "r" }
    let e : Entropy := { answer := fun n => .ok (Vector.replicate 32 (UInt8.ofNat n)) }
    let offer : Input := ⟨.up, .start ["DIGEST-MD5"]⟩
    let challenge : Input := ⟨.up, .challenge (Base64.encode (Utf8.bytes
      (({} : Directives.Writer).addAll [.quoted "nonce" "n"]).written))⟩
    let calls := [(0, offer), (1, offer), (1, challenge), (0, challenge)]
    let p := opening c (fun _ => {}) e
    (∃ octets, e.draw.1 = .ok octets ∧
      Digest.drawNonce e = (.ok (Digest.nonceOf octets), e.draw.2)) ∧
    ∃ x y, Tells p calls 1 x 0 ∧ Tells p calls 0 y 1 ∧ x.cnonce ≠ y.cnonce := by
  intro c e offer challenge calls p
  obtain ⟨hdrawNonce, -, -, -, -, htells⟩ := nonces_follow_draws c (fun _ => {}) e
  have hoffer {q : Pool} {stages : Nat → Stage} (k : Nat) (hq : At c (fun _ => {}) e q stages)
      (hidle : stages k = .idle) :
      At c (fun _ => {}) e (q.next (k, offer)) (Function.update stages k .chosen) ∧
        (q.next (k, offer)).entropy = q.entropy :=
    hq.chosen_of_offer hidle (by decide) (by decide)
  have hresponse {q : Pool} {stages : Nat → Stage} (k : Nat) (hq : At c (fun _ => {}) e q stages)
      (hchosen : stages k = .chosen) :
      ∃ x s, answerStanza x ∈ (q.turn k challenge).stanzas ∧
        At c (fun _ => {}) e (q.next (k, challenge)) (Function.update stages k s) := by
    have hread := Negotiation.readChallenge_encode
      (Directives.parse_write (List.cons_ne_nil (.quoted "nonce" "n") []) (by decide))
    have hdrawn : q.entropy.draw.1 = .ok (Vector.replicate 32 (UInt8.ofNat q.entropy.drawn)) :=
      congrFun hq.source q.entropy.drawn
    have g : Grounds (c k) _ q.entropy :=
      ⟨_, "u", "p", "n", "r", _, hread, rfl, rfl, by decide, by decide, hdrawn⟩
    obtain ⟨hsent, hnext⟩ := hq.response_of_grounds hchosen g
    exact ⟨_, _, hsent, hnext⟩
  obtain ⟨hfirst, hfirst'⟩ := hoffer 0 (at_opening c (fun _ => {}) e) rfl
  obtain ⟨hboth, hboth'⟩ := hoffer 1 hfirst rfl
  obtain ⟨x, s, hx, hnext⟩ := hresponse 1 hboth rfl
  obtain ⟨y, -, hy, -⟩ := hresponse 0 hnext rfl
  obtain ⟨-, -, hdrawn, -⟩ := hboth.draw_of_response hx
  rw [hboth', hfirst'] at hdrawn
  have hxtells : Tells p calls 1 x 0 :=
    ⟨[(0, offer), (1, offer)], challenge, _, rfl, hx, congrArg Entropy.drawn (hboth'.trans hfirst')⟩
  have hytells : Tells p calls 0 y 1 :=
    ⟨[(0, offer), (1, offer), (1, challenge)], challenge, _, rfl, hy, hdrawn⟩
  refine ⟨⟨_, rfl, hdrawNonce _ rfl⟩, x, y, hxtells, hytells, ?_⟩
  intro hsame
  have hoctets := ((htells calls 1 0 x y 0 1 hxtells hytells).2.1 hsame)
  exact absurd (Except.ok.inj hoctets) (by decide)

end Pool

end SaslClient
