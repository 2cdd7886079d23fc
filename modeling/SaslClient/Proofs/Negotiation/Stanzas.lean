import Mathlib.Data.List.Forall2
import SaslClient.Encoding.Base64
import SaslClient.Proofs.Negotiation.Authentication
/-!
# What an attempt sends and holds

An attempt sends what its mechanism has it send, in order and one stanza at a time. Between two
events its state tells how far it got, whether there is a mechanism, and whether it expects a proof.
-/
namespace SaslClient

def State.waiting : List State :=
  [.simpleAuthSent, .challengeResponsePending, .challengeResponseAuthSent,
    .challengeResponseFinalSent]

/-- How many stanzas were sent before a state between two events in which the attempt goes on. -/
def State.stanzaCount? : State → Option Nat
  | noMechanism => some 0
  | simpleAuthSent | challengeResponsePending => some 1
  | challengeResponseAuthSent => some 2
  | challengeResponseFinalSent => some 3
  | simplePending | succeeded | failed => none

namespace Negotiation

inductive Form
  | message
  | choice
  | response
  | acknowledgement
deriving DecidableEq, Repr

namespace Form

def name : Form → String
  | message | choice => "auth"
  | response | acknowledgement => "response"

def mechanism? : Form → Option MechanismKind
  | message => some .plain
  | choice => some .digestMd5
  | response | acknowledgement => none

def hasText : Form → Bool
  | message | response => true
  | choice | acknowledgement => false

def isMarked (config : Config) (form : Form) : Bool :=
  form = message && config.googleFullBindResult

structure Fits (config : Config) (form : Form) (stanza : Element) : Prop where
  name : stanza.name = form.name
  ns : stanza.ns = saslNamespace
  mechanism : stanza.tag.attributes.get? "mechanism" = form.mechanism?.map MechanismKind.name
  text : form.hasText = true →
    ∃ octets, octets ≠ [] ∧ stanza.children = [.text (Base64.encode octets)]
  empty : form.hasText = false → stanza.children = []
  marker : stanza.tag.attributes.get? "ga:client-uses-full-bind-result" =
    if form.isMarked config then some "true" else none
  declared : stanza.tag.prefixes.get? "ga" =
    if form.isMarked config then some googleAuthNamespace else none

end Form

def script : Option MechanismKind → List Form
  | none => []
  | some .plain => [.message]
  | some .digestMd5 => [.choice, .response, .acknowledgement]

end Negotiation

open Negotiation (Form script)

/-- What an attempt has sent and holds between two events. -/
structure Turn.Regular (config : Config) (t : Turn) : Prop where
  stanzas : ∃ forms, forms <+: script t.attempt.kind ∧
    List.Forall₂ (Form.Fits config) forms t.stanzas
  count : ∀ n, t.attempt.state.stanzaCount? = some n → t.stanzas.length = n
  not_pending : t.attempt.state ≠ .simplePending
  mechanism_iff : (∃ m, t.attempt.mechanism = some m) ↔ t.attempt.state ∈ State.waiting
  mechanism_kind : ∀ m, t.attempt.mechanism = some m → t.attempt.kind = some m.kind
  proof_iff : (∃ d proof, t.attempt.mechanism = some (.digestMd5 d) ∧
    d.serverProof = some proof) ↔ t.attempt.state = .challengeResponseAuthSent
  texts : ∀ stanza ∈ t.stanzas, ∀ text, .text text ∈ stanza.children →
    Base64.IsQuads text ∧ Node.escapeText text = text

namespace Negotiation

variable {c : Credentials} {config : Config} {e e' e'' : Entropy} {s s' : Stage} {i : Input}
  {inputs : List Input} {effects more : List Effect} {auth : Element}

private theorem fits_message {octets : List UInt8} (hne : octets ≠ [])
    (h : authStanza config .plain (some octets) = .ok auth) : Form.message.Fits config auth := by
  have hempty : Form.message.hasText ≠ false := by decide
  rw [authStanza_eq] at h
  obtain rfl := Except.ok.inj h
  refine ⟨name_choiceTag config _, ns_choiceTag config _, mechanism_choiceTag config _,
    fun _ => ⟨octets, hne, rfl⟩, hempty.elim, ?_, ?_⟩
  · apply (marker_choiceTag config .plain).trans
    simp [Form.isMarked]
  · apply (declared_choiceTag config .plain).trans
    simp [Form.isMarked]

private theorem fits_choice (h : authStanza config .digestMd5 none = .ok auth) :
    Form.choice.Fits config auth := by
  have htext : Form.choice.hasText ≠ true := by decide
  rw [authStanza_eq] at h
  obtain rfl := Except.ok.inj h
  exact ⟨name_choiceTag config _, ns_choiceTag config _, mechanism_choiceTag config _, htext.elim,
    fun _ => rfl, marker_choiceTag config .digestMd5, declared_choiceTag config .digestMd5⟩

private theorem fits_response (x : Digest.Inputs) :
    Form.response.Fits config (responseStanza (some (Utf8.bytes (DigestMd5.responseText x)))) := by
  have hne := Utf8.bytes_ne_nil (DigestMd5.responseText_ne_empty x)
  exact ⟨rfl, rfl, rfl, fun _ => ⟨_, hne, rfl⟩, nofun, rfl, rfl⟩

private theorem fits_acknowledgement :
    Form.acknowledgement.Fits config (responseStanza none) :=
  ⟨rfl, rfl, rfl, nofun, fun _ => rfl, rfl, rfl⟩

private theorem texts_of_fits {form : Form} {stanza : Element} (h : form.Fits config stanza)
    {text : String} (htext : .text text ∈ stanza.children) :
    Base64.IsQuads text ∧ Node.escapeText text = text := by
  cases hform : form.hasText with
  | false =>
    rw [h.empty hform] at htext
    cases htext
  | true =>
    obtain ⟨octets, hne, hchildren⟩ := h.text hform
    rw [hchildren, List.mem_singleton] at htext
    obtain rfl := Node.text.inj htext
    have hquads := Base64.isQuads_encode hne
    refine ⟨hquads, Node.escapeText_eq_self ?_⟩
    intro a ha
    have halphabet : Base64.alphabet.all (· ∉ ['&', '<', '>', '\r']) = true := by decide +kernel
    rcases hquads.symbols a ha with ha | rfl
    · simpa using List.all_eq_true.1 halphabet a ha
    · decide

def Stage.forms : Stage → List Form
  | idle | ended _ _ => []
  | messageSent _ => [.message]
  | chosen => [.choice]
  | responseSent _ => [.choice, .response]
  | acknowledged => [.choice, .response, .acknowledgement]

private theorem forms_prefix (s : Stage) : s.forms <+: script s.kind := by
  cases s with
  | ended kind verdict => exact List.nil_prefix
  | _ => exact ⟨_, rfl⟩

inductive Sends (config : Config) (s s' : Stage) : List Element → Prop
  | nothing (stays : s' = s ∨ s'.isEnded = true) : Sends config s s' []
  | one {form : Form} {stanza : Element} (fits : form.Fits config stanza)
      (not_ended : s.isEnded = false) (still_not : s'.isEnded = false)
      (forms : s'.forms = s.forms ++ [form]) : Sends config s s' [stanza]

private theorem sends_of_move (h : Move c config i s e s' e' effects) :
    Sends config s s' (effects.filterMap Effect.stanza?) := by
  have hunsent : s'.isEnded = true → effects.filterMap Effect.stanza? = [] := by
    intro hended
    cases outline_of_move h with
    | stays unsent _ => exact unsent
    | ends _ unsent _ => exact unsent
    | goesOn _ still_not _ =>
      rw [hended] at still_not
      cases still_not
  cases h with
  | relisted not_idle => exact .nothing (.inl rfl)
  | @launched _ _ _ m auth _ selected created built =>
    obtain rfl := kind_of_ofCredentials created
    rw [Effect.stanzas_of_logged]
    cases m with
    | plain m => exact .one (fits_message (List.cons_ne_nil _ _) built) rfl rfl rfl
    | digestMd5 d => exact .one (fits_choice built) rfl rfl rfl
  | responded g => exact .one (fits_response _) rfl rfl rfl
  | proven read shown => exact .one fits_acknowledgement rfl rfl rfl
  | _ =>
    rw [hunsent rfl]
    exact .nothing (.inr rfl)

private theorem length_le_of_sends {new : List Element} (h : Sends config s s' new) :
    new.length ≤ 1 := by
  cases h with
  | nothing stays => exact Nat.zero_le 1
  | one fits not_ended still_not forms => exact Nat.le_refl 1

private def Sent (config : Config) (s : Stage) (stanzas : List Element) : Prop :=
  ∃ forms, forms <+: script s.kind ∧ (s.isEnded = false → forms = s.forms) ∧
    List.Forall₂ (Form.Fits config) forms stanzas

private theorem sent_step {stanzas new : List Element} (h : Sent config s stanzas)
    (hkind : s.kind = none ∨ s'.kind = s.kind) (hsends : Sends config s s' new) :
    Sent config s' (stanzas ++ new) := by
  obtain ⟨forms, hprefix, hforms, hfits⟩ := h
  cases hsends with
  | nothing stays =>
    rw [List.append_nil]
    rcases stays with rfl | hended
    · exact ⟨forms, hprefix, hforms, hfits⟩
    · refine ⟨forms, ?_, ?_, hfits⟩
      · -- Without a mechanism nothing was sent, so it does not matter that one may be chosen now.
        rcases hkind with hnone | hkind
        · rw [hnone] at hprefix
          rw [List.prefix_nil.1 hprefix]
          exact List.nil_prefix
        · rw [hkind]
          exact hprefix
      · rw [hended]
        exact nofun
  | @one form stanza fits not_ended still_not next =>
    obtain rfl := hforms not_ended
    refine ⟨s'.forms, forms_prefix s', fun _ => rfl, ?_⟩
    rw [next]
    exact List.rel_append hfits (.cons fits .nil)

private theorem sent_of_reached (h : Reached c config e inputs s e' effects) :
    Sent config s (effects.filterMap Effect.stanza?) := by
  induction h with
  | start => exact ⟨[], List.nil_prefix, fun _ => rfl, .nil⟩
  | step before move ih =>
    rw [List.filterMap_append]
    exact sent_step ih (kind_of_move move) (sends_of_move move)

private theorem exists_fits {forms : List Form} {stanzas : List Element}
    (h : List.Forall₂ (Form.Fits config) forms stanzas) :
    ∀ stanza ∈ stanzas, ∃ form : Form, form.Fits config stanza := by
  induction h with
  | nil => simp
  | cons hfits _ ih => exact List.forall_mem_cons.2 ⟨⟨_, hfits⟩, ih⟩

private theorem count_of_sent {stanzas : List Element} (h : Sent config s stanzas) (n : Nat)
    (hn : s.state.stanzaCount? = some n) : stanzas.length = n := by
  obtain ⟨forms, -, hforms, hfits⟩ := h
  rw [← hfits.length_eq]
  cases s with
  | ended kind verdict => cases verdict <;> cases hn
  | _ =>
    rw [hforms rfl]
    exact Option.some.inj hn

private theorem mechanism_iff (c : Credentials) (s : Stage) :
    (∃ m, s.mechanism c = some m) ↔ s.state ∈ State.waiting := by
  cases s with
  | ended kind verdict =>
    cases verdict <;> simp [Stage.mechanism, Stage.state, endState, State.waiting]
  | _ => simp [Stage.mechanism, Stage.state, State.waiting]

private theorem kind_of_mechanism {m : Mechanism} (h : s.mechanism c = some m) :
    s.kind = some m.kind := by
  cases s with
  | idle => cases h
  | ended kind verdict => cases h
  | _ =>
    obtain rfl := Option.some.inj h
    rfl

private theorem proof_iff (c : Credentials) (s : Stage) :
    (∃ d proof, s.mechanism c = some (.digestMd5 d) ∧ d.serverProof = some proof) ↔
      s.state = .challengeResponseAuthSent := by
  cases s with
  | ended kind verdict => cases verdict <;> simp [Stage.mechanism, Stage.state, endState]
  | _ => simp [Stage.mechanism, Stage.state, DigestMd5.ofCredentials]

private theorem regular_of_sent (h : Sent config s (effects.filterMap Effect.stanza?)) :
    Turn.Regular config ⟨s.attempt c config, e', effects⟩ := by
  obtain ⟨forms, hprefix, hforms, hfits⟩ := id h
  refine ⟨⟨forms, hprefix, hfits⟩, count_of_sent h, ?_, mechanism_iff c s,
    fun m => kind_of_mechanism, proof_iff c s, ?_⟩
  · cases s with
    | ended kind verdict => cases verdict <;> exact nofun
    | _ => exact nofun
  · intro stanza hstanza text htext
    obtain ⟨form, hform⟩ := exists_fits hfits stanza hstanza
    exact texts_of_fits hform htext

/-- A run sends what its mechanism has it send, one stanza at a time, and never changes the
mechanism. -/
theorem run_is_regular (c : Credentials) (config : Config) (e : Entropy) (inputs : List Input) :
    (run c config e inputs).Regular config ∧
      (∀ i, ∃ new, (run c config e (inputs ++ [i])).stanzas =
        (run c config e inputs).stanzas ++ new ∧ new.length ≤ 1) ∧
      ∀ kind, (run c config e inputs).attempt.kind = some kind →
        ∀ later, (run c config e (inputs ++ later)).attempt.kind = some kind := by
  obtain ⟨s, e', effects, hreached⟩ := reached_run c config e inputs
  refine ⟨?_, ?_, ?_⟩
  · rw [run_of_reached hreached]
    exact regular_of_sent (sent_of_reached hreached)
  · intro i
    obtain ⟨s', e'', more, hmove⟩ := exists_move c config i s e'
    refine ⟨more.filterMap Effect.stanza?, ?_, ?_⟩
    · rw [run_of_reached (hreached.step hmove), run_of_reached hreached]
      exact List.filterMap_append
    · exact length_le_of_sends (sends_of_move hmove)
  · intro kind hkind later
    rw [run_of_reached hreached] at hkind
    exact kind_of_later hreached hkind later

theorem run_is_regular_digestMd5 :
    let e : Entropy := { answer := fun _ => .error .unsupported }
    let inputs : List Input := [⟨.up, .start ["PLAIN", "DIGEST-MD5"]⟩]
    let t := run {} {} e inputs
    t.attempt.kind = some .digestMd5 ∧ t.Regular {} ∧
      ∀ later, (run {} {} e (inputs ++ later)).attempt.kind = some .digestMd5 := by
  intro e inputs t
  have hkind : t.attempt.kind = some .digestMd5 := by decide
  obtain ⟨hregular, -, hkept⟩ := run_is_regular {} {} e inputs
  exact ⟨hkind, hregular, hkept _ hkind⟩

end Negotiation

end SaslClient
