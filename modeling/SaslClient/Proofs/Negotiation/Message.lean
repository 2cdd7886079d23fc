import SaslClient.Proofs.Negotiation.Authentication
/-!
# The message of PLAIN

A server tells the name from the password in a message by the first zero octet behind the leading
one. It finds the right ones exactly if there is no zero in the name, and messages are the same
exactly if name, zero and password join to the same octets.
-/
namespace SaslClient

theorem Utf8.zero_mem_bytes_iff {text : String} : 0 ∈ bytes text ↔ '\x00' ∈ text.toList := by
  have hchar (c : Char) : 0 ∈ String.utf8EncodeChar c ↔ c = '\x00' := by
    rw [← Char.toNat_inj]
    rcases utf8EncodeChar_cases c with ⟨b, hb, hcode⟩ | ⟨hc, b, bs, hb, hlead, hrest⟩
    · rw [hb, List.mem_singleton, ← hcode, ← UInt8.toNat_inj]
      exact eq_comm
    · constructor
      · intro h
        rw [hb] at h
        rcases List.mem_cons.1 h with rfl | h
        · exact absurd hlead (by decide)
        · exact absurd (hrest 0 h) (by decide)
      · intro h
        rw [h] at hc
        exact absurd hc (by decide)
  simp [bytes, encode, List.mem_flatMap, hchar]

def splitAtZero? : List UInt8 → Option (List UInt8 × List UInt8)
  | [] => none
  | b :: rest =>
    if b = 0 then some ([], rest)
    else (splitAtZero? rest).map fun (front, back) => (b :: front, back)

theorem splitAtZero?_append_iff {front back : List UInt8} :
    splitAtZero? (front ++ 0 :: back) = some (front, back) ↔ 0 ∉ front := by
  induction front with
  | nil => simp [splitAtZero?]
  | cons b front ih =>
    rw [List.cons_append, splitAtZero?]
    by_cases hb : b = 0
    · simp [hb]
    · rw [if_neg hb, Option.map_eq_some_iff, List.mem_cons, not_or, ← ih]
      constructor
      · rintro ⟨⟨front', back'⟩, hsplit, hjoin⟩
        simp only [Prod.mk.injEq, List.cons.injEq, true_and] at hjoin
        rw [hsplit, hjoin.1, hjoin.2]
        exact ⟨Ne.symm hb, rfl⟩
      · intro h
        exact ⟨(front, back), h.2, rfl⟩

namespace Negotiation

variable {username password : String} {auth : Element}

/-- An attempt with this name and password took an offer, wherever it was, chose PLAIN and sent this
stanza. -/
inductive SendsMessage (username password : String) (auth : Element) : Prop
  | sends {c : Credentials} {config : Config} {e : Entropy} {before : List Input} {link : Link}
      {offered : List String} (has_username : c.username = some username)
      (has_password : c.password = some password)
      (chosen : (run c config e (before ++ [⟨link, .start offered⟩])).attempt.kind = some .plain)
      (sent : (run c config e (before ++ [⟨link, .start offered⟩])).stanzas =
        (run c config e before).stanzas ++ [auth]) :
      SendsMessage username password auth

theorem text_of_sendsMessage (h : SendsMessage username password auth) :
    auth.text = Base64.encode (Plain.message ⟨username, password⟩) := by
  cases h with
  | @sends c config e before link offered has_username has_password chosen sent =>
    obtain ⟨s, e', effects, hreached⟩ := reached_run c config e before
    obtain ⟨s', e'', more, hmove⟩ := exists_move c config ⟨link, .start offered⟩ s e'
    rw [stanzas_concat hreached hmove] at sent
    rw [run_of_reached (hreached.step hmove)] at chosen
    have hmore := List.append_cancel_left sent
    cases hmove with
    | relisted not_idle => cases hmore
    | late not_offer => exact absurd rfl not_offer
    | @launched _ _ _ m _ _ selected created built =>
      rw [Effect.stanzas_of_logged] at hmore
      obtain rfl := (List.cons.inj hmore).1
      cases m with
      | digestMd5 d => cases chosen
      | plain m =>
        obtain ⟨-, husername, hpassword⟩ := of_plain created
        obtain rfl := Option.some.inj (husername.symm.trans has_username)
        obtain rfl := Option.some.inj (hpassword.symm.trans has_password)
        exact (isAuth_of_authStanza built).text
    | unsupported | lacking | unlaunched =>
      rw [Effect.stanzas_of_logged] at hmore
      cases hmore

/-- Whatever the name and the password, there are attempts that send their message. -/
theorem exists_sendsMessage (username password : String) :
    ∃ auth, SendsMessage username password auth := by
  let c : Credentials := { username := some username, password := some password }
  let e : Entropy := { answer := fun _ => .error .unsupported }
  have hselected : Selection.select ["PLAIN"] MechanismKind.all = (some .plain, []) := by decide
  have hcreated : Mechanism.ofCredentials .plain c = .ok (.plain ⟨username, password⟩) := rfl
  have hbuilt := authStanza_eq {} .plain (some (Plain.message ⟨username, password⟩))
  have hreached : Reached c {} e [⟨.up, .start ["PLAIN"]⟩] _ e _ :=
    Reached.start.step (.launched hselected hcreated hbuilt)
  have hrun := run_of_reached hreached
  have hkind : (run c {} e ([] ++ [⟨.up, .start ["PLAIN"]⟩])).attempt.kind = some .plain :=
    congrArg (·.attempt.kind) hrun
  exact ⟨_, .sends rfl rfl hkind (congrArg Turn.stanzas hrun)⟩

/-- The message gives back the name and the password exactly if there is no zero in the name. Two
messages are the same exactly if name, zero and password are the same octets. -/
theorem message_determines_credentials (username password : String) :
    (∃ auth, SendsMessage username password auth) ∧
    (∀ auth, SendsMessage username password auth →
      ∃ rest, Base64.decode auth.text = .ok (0 :: rest) ∧
        (splitAtZero? rest = some (Utf8.bytes username, Utf8.bytes password) ↔
          '\x00' ∉ username.toList)) ∧
    ∀ username' password' auth auth', SendsMessage username password auth →
      SendsMessage username' password' auth' →
      (auth.text = auth'.text ↔
        Utf8.bytes username ++ 0 :: Utf8.bytes password =
          Utf8.bytes username' ++ 0 :: Utf8.bytes password') := by
  refine ⟨exists_sendsMessage username password, ?_, ?_⟩
  · intro auth h
    refine ⟨Utf8.bytes username ++ 0 :: Utf8.bytes password, ?_, ?_⟩
    · rw [text_of_sendsMessage h, Base64.decode_encode]
      rfl
    · rw [splitAtZero?_append_iff, Utf8.zero_mem_bytes_iff]
  · intro username' password' auth auth' h h'
    rw [text_of_sendsMessage h, text_of_sendsMessage h']
    constructor
    · intro htext
      exact (List.cons.inj (Base64.encode_injective htext)).2
    · intro hjoined
      exact congrArg (fun rest => Base64.encode (0 :: rest)) hjoined

theorem message_determines_credentials_confused :
    ∃ auth auth', SendsMessage "a" "b\x00c" auth ∧ SendsMessage "a\x00b" "c" auth' ∧
      auth.text = auth'.text ∧
      (∃ rest, Base64.decode auth.text = .ok (0 :: rest) ∧
        splitAtZero? rest = some (Utf8.bytes "a", Utf8.bytes "b\x00c")) ∧
      ∃ rest, Base64.decode auth'.text = .ok (0 :: rest) ∧
        splitAtZero? rest ≠ some (Utf8.bytes "a\x00b", Utf8.bytes "c") := by
  obtain ⟨⟨auth, hauth⟩, hread, hsame⟩ := message_determines_credentials "a" "b\x00c"
  obtain ⟨⟨auth', hauth'⟩, hread', -⟩ := message_determines_credentials "a\x00b" "c"
  obtain ⟨rest, hrest, hright⟩ := hread auth hauth
  obtain ⟨rest', hrest', hwrong⟩ := hread' auth' hauth'
  refine ⟨auth, auth', hauth, hauth', ?_, ⟨rest, hrest, ?_⟩, rest', hrest', ?_⟩
  · exact (hsame "a\x00b" "c" auth auth' hauth hauth').2 (by decide)
  · exact hright.2 (by decide)
  · exact fun h => hwrong.1 h (by decide)

end Negotiation

end SaslClient
