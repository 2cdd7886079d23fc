import Mathlib.Data.List.Induction
import SaslClient.Proofs.Mechanism.Answers
/-!
# One proof, one guess

A mechanism expects the proof for its last response, until a challenge shows some proof or the
mechanism is wiped. So whatever calls are made on it, for each response there is one guess at most.
-/
namespace SaslClient.DigestMd5

inductive Call
  | initial
  | accepts (state : State)
  | success (state : State)
  | respond (state : State) (challenge : Directives)
  | wipe
deriving DecidableEq

/-- Such a call takes away the proof that is expected. -/
inductive Call.Spends : Call → Prop
  | guess {challenge : Directives} {shown : String}
      (has_rspauth : challenge.get? "rspauth" = some shown) :
      Spends (.respond .challengeResponseAuthSent challenge)
  | wipe : Spends .wipe

structure Use where
  mechanism : DigestMd5
  entropy : Entropy

namespace Use

def answer (t : Use) (state : State) (challenge : Directives) : Answer DigestMd5 :=
  t.mechanism.respond state challenge t.entropy

def call (t : Use) : Call → Use
  | .initial => t
  | .accepts _ => t
  | .success _ => t
  | .respond state challenge =>
    ⟨(t.answer state challenge).mechanism, (t.answer state challenge).entropy⟩
  | .wipe => ⟨t.mechanism.wipe, t.entropy⟩

def after (t : Use) (calls : List Call) : Use :=
  calls.foldl call t

def Responds (t : Use) (challenge : Directives) : Prop :=
  ∃ step, (t.answer .challengeResponsePending challenge).result = .ok step

/-- After a response computed from `x` there was no other response, and its proof was not taken
away. -/
structure Expects (t : Use) (opening : List Call) (challenge : Directives) (since : List Call)
    (x : Digest.Inputs) : Prop where
  responded : (t.after opening).Responds challenge
  basis : Basis (t.after opening).mechanism challenge (t.after opening).entropy x
  last : ∀ earlier other later,
    since = earlier ++ .respond .challengeResponsePending other :: later →
    ¬(t.after (opening ++ .respond .challengeResponsePending challenge :: earlier)).Responds other
  unspent : ∀ call ∈ since, ¬call.Spends

/-- Among the calls was a response computed from `x` whose proof is still expected. -/
def Outstanding (t : Use) (calls : List Call) (x : Digest.Inputs) : Prop :=
  ∃ opening challenge since,
    calls = opening ++ .respond .challengeResponsePending challenge :: since ∧
      t.Expects opening challenge since x

variable {t : Use} {calls : List Call} {call : Call} {x : Digest.Inputs} {proof : String}

theorem after_concat (t : Use) (calls : List Call) (call : Call) :
    t.after (calls ++ [call]) = (t.after calls).call call := by
  rw [after, after, List.foldl_append]
  rfl

theorem responds_iff {challenge : Directives} :
    t.Responds challenge ↔ ∃ x, Basis t.mechanism challenge t.entropy x := by
  constructor
  · rintro ⟨step, hstep⟩
    rcases basis_or_refused t.mechanism challenge t.entropy with hbasis | ⟨error, hrefused, -⟩
    · exact hbasis
    · cases hrefused.symm.trans hstep
  · rintro ⟨x, hbasis⟩
    refine ⟨_, congrArg (·.result) (respondFirst_of_basis hbasis)⟩

theorem mechanism_of_refused {challenge : Directives} (h : ¬t.Responds challenge) :
    (t.answer .challengeResponsePending challenge).mechanism = t.mechanism := by
  rcases basis_or_refused t.mechanism challenge t.entropy with hbasis | ⟨error, -, hsame⟩
  · exact absurd (responds_iff.2 hbasis) h
  · exact hsame

theorem answer_of_other {state : State} (hfirst : state ≠ .challengeResponsePending)
    (hsecond : state ≠ .challengeResponseAuthSent) (challenge : Directives) :
    t.answer state challenge =
      { mechanism := t.mechanism, entropy := t.entropy
        result := .error (.unexpectedChallenge state) } := by
  cases state with
  | challengeResponsePending => exact absurd rfl hfirst
  | challengeResponseAuthSent => exact absurd rfl hsecond
  | _ => rfl

private theorem answer_second (t : Use) (d : Directives) :
    t.answer .challengeResponseAuthSent d = t.mechanism.respondSecond d t.entropy :=
  rfl

/-- A second challenge is answered if it shows the proof that is expected. -/
theorem guess_iff {d : Directives} :
    (∃ step, (t.answer .challengeResponseAuthSent d).result = .ok step) ↔
      ∃ proof, d.get? "rspauth" = some proof ∧ t.mechanism.serverProof = some proof := by
  rw [answer_second]
  have hanswer := secondAnswer t.mechanism d t.entropy
  generalize t.mechanism.respondSecond d t.entropy = answer at hanswer ⊢
  cases hanswer with
  | unshown rspauth => simp [rspauth]
  | proofless has_rspauth proof => simp [proof]
  | mismatched has_rspauth has_proof ne => simp [has_rspauth, has_proof, Ne.symm ne]
  | matched has_rspauth has_proof => simp [has_rspauth, has_proof]

theorem answer_of_unshown {d : Directives} (h : d.get? "rspauth" = none) :
    (t.answer .challengeResponseAuthSent d).result = .error .noServerProof ∧
      (t.answer .challengeResponseAuthSent d).mechanism = t.mechanism := by
  rw [answer_second, respondSecond, h]
  exact ⟨rfl, rfl⟩

theorem answer_of_proofless {d : Directives} {shown : String}
    (hshown : d.get? "rspauth" = some shown) (h : t.mechanism.serverProof = none) :
    (t.answer .challengeResponseAuthSent d).result =
      .error (.unexpectedChallenge .challengeResponseAuthSent) := by
  rw [answer_second, respondSecond, hshown]
  simp only [h]

structure Passes (t : Use) (call : Call) : Prop where
  unspent : ¬call.Spends
  refused : ∀ challenge, call = .respond .challengeResponsePending challenge →
    ¬t.Responds challenge

inductive Change (t : Use) : Call → Option String → Prop
  | renewed {challenge : Directives} {x : Digest.Inputs}
      (basis : Basis t.mechanism challenge t.entropy x) :
      Change t (.respond .challengeResponsePending challenge) (some x.serverProof)
  | spent {call : Call} (spends : call.Spends) : Change t call none
  | kept {call : Call} (passes : t.Passes call) : Change t call t.mechanism.serverProof

private theorem change_of_first (t : Use) (challenge : Directives) :
    t.Change (.respond .challengeResponsePending challenge)
      (t.answer .challengeResponsePending challenge).mechanism.serverProof := by
  by_cases hresponds : t.Responds challenge
  · obtain ⟨x, hbasis⟩ := responds_iff.1 hresponds
    have hproof := congrArg (·.mechanism.serverProof) (respondFirst_of_basis hbasis)
    exact hproof ▸ .renewed hbasis
  · rw [mechanism_of_refused hresponds]
    refine .kept ⟨nofun, ?_⟩
    rintro other ⟨⟩
    exact hresponds

private theorem change_of_second (t : Use) (challenge : Directives) :
    t.Change (.respond .challengeResponseAuthSent challenge)
      (t.answer .challengeResponseAuthSent challenge).mechanism.serverProof := by
  rw [answer_second]
  have hanswer := secondAnswer t.mechanism challenge t.entropy
  generalize t.mechanism.respondSecond challenge t.entropy = answer at hanswer
  cases hanswer with
  | unshown rspauth =>
    refine .kept ⟨?_, nofun⟩
    rintro ⟨hshown⟩
    cases hshown.symm.trans rspauth
  | proofless has_rspauth proof => exact proof ▸ .spent (.guess has_rspauth)
  | mismatched has_rspauth has_proof ne => exact .spent (.guess has_rspauth)
  | matched has_rspauth has_proof => exact .spent (.guess has_rspauth)

theorem change_of_call (t : Use) (call : Call) :
    t.Change call (t.call call).mechanism.serverProof := by
  cases call with
  | initial => exact .kept ⟨nofun, nofun⟩
  | accepts state => exact .kept ⟨nofun, nofun⟩
  | success state => exact .kept ⟨nofun, nofun⟩
  | wipe => exact .spent .wipe
  | respond state challenge =>
    by_cases hfirst : state = .challengeResponsePending
    · subst hfirst
      exact change_of_first t challenge
    by_cases hsecond : state = .challengeResponseAuthSent
    · subst hsecond
      exact change_of_second t challenge
    change t.Change _ (t.answer state challenge).mechanism.serverProof
    rw [answer_of_other hfirst hsecond]
    refine .kept ⟨?_, ?_⟩
    · rintro ⟨⟩
      exact hsecond rfl
    · rintro other ⟨⟩
      exact absurd rfl hfirst

theorem serverProof_call_iff :
    (t.call call).mechanism.serverProof = some proof ↔
      (∃ challenge x, call = .respond .challengeResponsePending challenge ∧
        Basis t.mechanism challenge t.entropy x ∧ x.serverProof = proof) ∨
      (t.mechanism.serverProof = some proof ∧ t.Passes call) := by
  have hchange := change_of_call t call
  generalize (t.call call).mechanism.serverProof = after at hchange ⊢
  cases hchange with
  | @renewed challenge x basis =>
    constructor
    · intro hproof
      exact .inl ⟨challenge, x, rfl, basis, Option.some.inj hproof⟩
    · rintro (⟨_, y, ⟨⟩, hy, rfl⟩ | ⟨-, hpasses⟩)
      · rw [basis.unique hy]
      · exact absurd (responds_iff.2 ⟨x, basis⟩) (hpasses.refused challenge rfl)
  | spent spends =>
    constructor
    · exact nofun
    · rintro (⟨challenge, x, rfl, -, -⟩ | ⟨-, hpasses⟩)
      · cases spends
      · exact absurd spends hpasses.unspent
  | kept passes =>
    constructor
    · intro hproof
      exact .inr ⟨hproof, passes⟩
    · rintro (⟨challenge, x, rfl, hx, -⟩ | ⟨hproof, -⟩)
      · exact absurd (responds_iff.2 ⟨x, hx⟩) (passes.refused challenge rfl)
      · exact hproof

private theorem concat_eq_append_cons {calls opening since : List Call} {call first : Call}
    (h : calls ++ [call] = opening ++ first :: since) :
    (opening = calls ∧ first = call ∧ since = []) ∨
      ∃ rest, calls = opening ++ first :: rest ∧ since = rest ++ [call] := by
  rcases List.eq_nil_or_concat since with rfl | ⟨rest, last, rfl⟩
  · obtain ⟨rfl, hcall⟩ := List.append_inj' h rfl
    exact .inl ⟨rfl, (List.singleton_inj.1 hcall).symm, rfl⟩
  · rw [List.concat_eq_append, ← List.cons_append, ← List.append_assoc] at h
    obtain ⟨rfl, hcall⟩ := List.append_inj' h rfl
    obtain rfl := List.singleton_inj.1 hcall
    exact .inr ⟨rest, rfl, List.concat_eq_append⟩

private theorem Outstanding.concat (h : t.Outstanding calls x)
    (hpasses : (t.after calls).Passes call) : t.Outstanding (calls ++ [call]) x := by
  obtain ⟨opening, challenge, since, rfl, hexpects⟩ := h
  refine ⟨opening, challenge, since ++ [call], by simp, hexpects.responded, hexpects.basis, ?_, ?_⟩
  · intro earlier other later hsince
    rcases concat_eq_append_cons hsince with ⟨rfl, hcall, rfl⟩ | ⟨rest, hrest, rfl⟩
    · exact hpasses.refused other hcall.symm
    · exact hexpects.last earlier other rest hrest
  · intro other hother
    rcases List.mem_append.1 hother with hother | hother
    · exact hexpects.unspent other hother
    · obtain rfl := List.mem_singleton.1 hother
      exact hpasses.unspent

private theorem Expects.of_concat {opening rest : List Call} {challenge : Directives}
    (h : t.Expects opening challenge (rest ++ [call]) x) :
    t.Expects opening challenge rest x ∧
      (t.after (opening ++ .respond .challengeResponsePending challenge :: rest)).Passes call := by
  refine ⟨⟨h.responded, h.basis, ?_, ?_⟩, ⟨h.unspent call (by simp), ?_⟩⟩
  · rintro earlier other later rfl
    exact h.last earlier other (later ++ [call]) (by simp)
  · intro other hother
    exact h.unspent other (List.mem_append_left _ hother)
  · rintro other rfl
    exact h.last rest other [] rfl

theorem outstanding_concat_iff :
    t.Outstanding (calls ++ [call]) x ↔
      (∃ challenge, call = .respond .challengeResponsePending challenge ∧
        Basis (t.after calls).mechanism challenge (t.after calls).entropy x) ∨
      (t.Outstanding calls x ∧ (t.after calls).Passes call) := by
  constructor
  · rintro ⟨opening, challenge, since, hcalls, hexpects⟩
    rcases concat_eq_append_cons hcalls with ⟨rfl, hcall, rfl⟩ | ⟨rest, rfl, rfl⟩
    · exact .inl ⟨challenge, hcall.symm, hexpects.basis⟩
    · obtain ⟨hrest, hpasses⟩ := hexpects.of_concat
      exact .inr ⟨⟨opening, challenge, rest, rfl, hrest⟩, hpasses⟩
  · rintro (⟨challenge, rfl, hbasis⟩ | ⟨houtstanding, hpasses⟩)
    · refine ⟨calls, challenge, [], rfl, responds_iff.2 ⟨x, hbasis⟩, hbasis, ?_, by simp⟩
      intro earlier other later hsince
      cases earlier <;> cases hsince
    · exact houtstanding.concat hpasses

/-- The proof that a mechanism holds is that for the response that is outstanding. -/
theorem serverProof_after_iff (fresh : t.mechanism.serverProof = none) :
    (t.after calls).mechanism.serverProof = some proof ↔
      ∃ x, t.Outstanding calls x ∧ x.serverProof = proof := by
  -- The last call renews the proof, takes it away, or leaves it as the calls before it have.
  induction calls using List.reverseRecOn with
  | nil =>
    constructor
    · intro hproof
      cases fresh.symm.trans hproof
    · rintro ⟨x, ⟨opening, challenge, since, hcalls, -⟩, -⟩
      cases opening <;> cases hcalls
  | append_singleton calls call ih =>
    rw [after_concat, serverProof_call_iff, ih]
    simp only [outstanding_concat_iff]
    constructor
    · rintro (⟨challenge, x, rfl, hbasis, hproof⟩ | ⟨⟨x, hbefore, hproof⟩, hpasses⟩)
      · exact ⟨x, .inl ⟨challenge, rfl, hbasis⟩, hproof⟩
      · exact ⟨x, .inr ⟨hbefore, hpasses⟩, hproof⟩
    · rintro ⟨x, ⟨challenge, rfl, hbasis⟩ | ⟨hbefore, hpasses⟩, hproof⟩
      · exact .inl ⟨challenge, x, rfl, hbasis, hproof⟩
      · exact .inr ⟨⟨x, hbefore, hproof⟩, hpasses⟩

end Use

/-- A second challenge is answered if it shows the proof for the last response, and if no guess came
before it and the mechanism was not wiped. What is refused for another reason leaves the mechanism
as it was. -/
theorem one_proof_one_guess {m : DigestMd5} (fresh : m.serverProof = none) (e : Entropy)
    (calls : List Call) (d : Directives) :
    let t := (Use.mk m e).after calls
    let guess := t.answer .challengeResponseAuthSent d
    ((∃ step, guess.result = .ok step) ↔
        ∃ x, Use.Outstanding ⟨m, e⟩ calls x ∧ d.get? "rspauth" = some x.serverProof) ∧
      (d.get? "rspauth" = none →
        guess.result = .error .noServerProof ∧ guess.mechanism = t.mechanism) ∧
      (∀ shown, d.get? "rspauth" = some shown → (¬∃ x, Use.Outstanding ⟨m, e⟩ calls x) →
        guess.result = .error (.unexpectedChallenge .challengeResponseAuthSent)) ∧
      (∀ challenge error, (t.answer .challengeResponsePending challenge).result = .error error →
        (t.answer .challengeResponsePending challenge).mechanism = t.mechanism) ∧
      ∀ state challenge, state ≠ .challengeResponsePending → state ≠ .challengeResponseAuthSent →
        (t.answer state challenge).mechanism = t.mechanism := by
  intro t guess
  have hproof (proof : String) : t.mechanism.serverProof = some proof ↔
      ∃ x, Use.Outstanding ⟨m, e⟩ calls x ∧ x.serverProof = proof :=
    Use.serverProof_after_iff fresh
  refine ⟨?_, Use.answer_of_unshown, ?_, ?_, ?_⟩
  · rw [Use.guess_iff]
    constructor
    · rintro ⟨proof, hshown, hkept⟩
      obtain ⟨x, hx, rfl⟩ := (hproof proof).1 hkept
      exact ⟨x, hx, hshown⟩
    · rintro ⟨x, hx, hshown⟩
      exact ⟨x.serverProof, hshown, (hproof _).2 ⟨x, hx, rfl⟩⟩
  · intro shown hshown hnothing
    apply Use.answer_of_proofless hshown
    rw [Option.eq_none_iff_forall_ne_some]
    intro proof hkept
    obtain ⟨x, hx, -⟩ := (hproof proof).1 hkept
    exact hnothing ⟨x, hx⟩
  · intro challenge error herror
    apply Use.mechanism_of_refused
    rintro ⟨step, hstep⟩
    cases hstep.symm.trans herror
  · intro state challenge hfirst hsecond
    rw [Use.answer_of_other hfirst hsecond]

theorem one_proof_one_guess_repeated :
    let m := ofCredentials { username := some "u", password := some "p", server := some "r" }
    let e : Entropy := { answer := fun _ => .ok (Vector.replicate 32 7) }
    let x : Digest.Inputs :=
      { username := "u", realm := "r", password := "p", nonce := "n"
        cnonce := Digest.nonceOf (Vector.replicate 32 7), service := "xmpp" }
    let calls : List Call :=
      [.initial, .respond .challengeResponsePending (Fields.ofList [("nonce", "n")])]
    let d : Directives := Fields.ofList [("rspauth", x.serverProof)]
    let guess : Call := .respond .challengeResponseAuthSent d
    m.serverProof = none ∧
      (∃ step, (((Use.mk m e).after calls).answer .challengeResponseAuthSent d).result = .ok step) ∧
      ¬∃ step, (((Use.mk m e).after (calls ++ [guess])).answer .challengeResponseAuthSent
        d).result = .ok step := by
  intro m e x calls d guess
  have hfresh : m.serverProof = none := rfl
  have hshown : d.get? "rspauth" = some x.serverProof := Fields.get?_ofList _ _
  have hbasis : Basis m (Fields.ofList [("nonce", "n")]) e x :=
    ⟨rfl, rfl, by decide, by decide, ⟨_, rfl, rfl⟩, rfl⟩
  have houtstanding : Use.Outstanding ⟨m, e⟩ ([.initial] ++ calls.tail) x :=
    Use.outstanding_concat_iff.2 (.inl ⟨_, rfl, hbasis⟩)
  refine ⟨hfresh, (one_proof_one_guess hfresh e calls d).1.2 ⟨x, houtstanding, hshown⟩, ?_⟩
  intro hanswered
  obtain ⟨y, hy, -⟩ := (one_proof_one_guess hfresh e (calls ++ [guess]) d).1.1 hanswered
  rcases Use.outstanding_concat_iff.1 hy with ⟨challenge, hguess, -⟩ | ⟨-, hpasses⟩
  · cases (Call.respond.inj hguess).1
  · exact hpasses.unspent (.guess hshown)

end SaslClient.DigestMd5
