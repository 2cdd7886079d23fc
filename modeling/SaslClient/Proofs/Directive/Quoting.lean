import SaslClient.Directive.Cursor
import SaslClient.Proofs.Directive.Writing
/-!
# Quoting and unquoting

Reading a quoted value undoes the escaping of the writer. A quote closes the value unless a
backslash takes it, and whether one does can be told from the text before it: its last backslashes
are then odd in number. So the first quote that none takes is where the reading ends, in a text
without such a quote it does not end, and the octets that are read are those up to that quote.
-/
namespace SaslClient.Cursor

open Grammar (Escaped Unclosed)
open Directives (escape escaped_escape)
open Utf8 (length_encode_cons)

private theorem push_append (acc : String) (c : Char) (value : List Char) :
    acc.push c ++ String.ofList value = acc ++ String.ofList (c :: value) := by
  apply String.toList_inj.1
  simp

private theorem unquoteFrom_of_escaped {raw value : List Char} (h : Escaped raw value)
    (acc : String) (pos : Nat) (s : List Char) :
    unquoteFrom acc false pos (raw ++ s) =
      unquoteFrom (acc ++ String.ofList value) false (pos + (Utf8.encode raw).length) s := by
  induction h generalizing acc pos with
  | nil => simp [Utf8.encode]
  | @plain c raw value not_quote not_backslash tail ih =>
    rw [List.cons_append, unquoteFrom]
    simp only [not_backslash, not_quote, Bool.false_eq_true, ↓reduceIte]
    rw [ih, push_append, length_encode_cons, Nat.add_assoc]
  | @escape c raw value tail ih =>
    rw [List.cons_append, unquoteFrom]
    simp only [Bool.false_eq_true, ↓reduceIte]
    rw [List.cons_append, unquoteFrom]
    simp only [↓reduceIte]
    rw [ih, push_append, length_encode_cons, length_encode_cons]
    simp only [Nat.add_assoc]

theorem unquote_of_escaped {raw value : List Char} (h : Escaped raw value) (rest : List Char) :
    unquote (String.ofList (raw ++ '"' :: rest)) =
      some (String.ofList value, (Utf8.encode raw).length + 1) := by
  rw [unquote, String.toList_ofList, unquoteFrom_of_escaped h, unquoteFrom]
  simp

theorem unquote_of_unclosed {s : List Char} (h : Unclosed s) :
    unquote (String.ofList s) = none := by
  rw [unquote, String.toList_ofList]
  rcases h with ⟨value, hs⟩ | ⟨raw, value, hraw, rfl⟩
  · rw [← List.append_nil s, unquoteFrom_of_escaped hs, unquoteFrom]
  · rw [unquoteFrom_of_escaped hraw]
    rfl

/-! ## Which quotes are taken -/

/-- A backslash at the end of this text takes the character behind it: the backslashes that the text
ends with are odd in number. -/
def IsTaken (before : List Char) : Prop :=
  (before.reverse.takeWhile (· = '\\')).length % 2 = 1

instance : DecidablePred IsTaken := fun before =>
  inferInstanceAs (Decidable ((before.reverse.takeWhile (· = '\\')).length % 2 = 1))

theorem isTaken_concat_backslash (before : List Char) :
    IsTaken (before ++ ['\\']) ↔ ¬IsTaken before := by
  simp only [IsTaken, List.reverse_append, List.reverse_singleton, List.singleton_append,
    decide_true, List.takeWhile_cons_of_pos, List.length_cons]
  omega

theorem not_isTaken_concat {c : Char} (h : c ≠ '\\') (before : List Char) :
    ¬IsTaken (before ++ [c]) := by
  simp [IsTaken, h]

private theorem isTaken_of_escaped {raw value : List Char} (h : Escaped raw value)
    {front : List Char} (hfront : ¬IsTaken front) :
    ¬IsTaken (front ++ raw) ∧ ∀ a b, raw = a ++ '"' :: b → IsTaken (front ++ a) := by
  induction h generalizing front with
  | nil =>
    refine ⟨by simpa using hfront, ?_⟩
    intro a b h
    simp at h
  | @plain c raw value not_quote not_backslash tail ih =>
    obtain ⟨hend, hquotes⟩ := ih (not_isTaken_concat not_backslash front)
    refine ⟨by simpa using hend, ?_⟩
    rintro (_ | ⟨_, a⟩) b ⟨⟩
    · exact absurd rfl not_quote
    · simpa using hquotes a b rfl
  | @escape c raw value tail ih =>
    have htaken : IsTaken (front ++ ['\\']) := (isTaken_concat_backslash front).2 hfront
    have hnext : ¬IsTaken ((front ++ ['\\']) ++ [c]) := by
      by_cases hc : c = '\\'
      · rw [hc, isTaken_concat_backslash]
        exact not_not_intro htaken
      · exact not_isTaken_concat hc _
    obtain ⟨hend, hquotes⟩ := ih hnext
    refine ⟨by simpa using hend, ?_⟩
    rintro (_ | ⟨_, _ | ⟨_, a⟩⟩) b ⟨⟩
    · exact htaken
    · simpa using hquotes a b rfl

private theorem not_isTaken_nil : ¬IsTaken [] := by
  decide

/-- The first quote of a text that no backslash takes, by the text before it and the text after
it. -/
structure FirstQuote (s before after : List Char) : Prop where
  split : s = before ++ '"' :: after
  free : ¬IsTaken before
  first : ∀ front back, before = front ++ '"' :: back → IsTaken front

theorem firstQuote_of_escaped {raw value : List Char} (h : Escaped raw value)
    (rest : List Char) : FirstQuote (raw ++ '"' :: rest) raw rest := by
  obtain ⟨hend, hquotes⟩ := isTaken_of_escaped h not_isTaken_nil
  exact ⟨rfl, hend, hquotes⟩

theorem isTaken_of_unclosed {s before after : List Char} (h : Unclosed s)
    (hsplit : s = before ++ '"' :: after) : IsTaken before := by
  rcases h with ⟨value, hs⟩ | ⟨raw, value, hraw, rfl⟩
  · exact (isTaken_of_escaped hs not_isTaken_nil).2 before after hsplit
  · -- The backslash at the end is not the quote, so the quote stands in the escaped text.
    obtain ⟨front, last, rfl⟩ | rfl := after.eq_nil_or_concat'.symm
    · have hraw' : raw = before ++ '"' :: front := by
        rw [← List.cons_append, ← List.append_assoc] at hsplit
        exact (List.append_inj' hsplit rfl).1
      exact (isTaken_of_escaped hraw not_isTaken_nil).2 before front hraw'
    · have := (List.append_inj' hsplit rfl).2
      simp at this

/-! ## Where the reading ends -/

/-- A text is read up to a quote behind an escaped text, or there is no value in it. -/
theorem unquote_cases (s : String) :
    (∃ raw value rest, s.toList = raw ++ '"' :: rest ∧ Escaped raw value ∧
        unquote s = some (String.ofList value, (Utf8.encode raw).length + 1)) ∨
      (Unclosed s.toList ∧ unquote s = none) := by
  rcases Scan.closed_or_unclosed s.toList with ⟨raw, value, rest, hs, hraw⟩ | hs
  · have hread := unquote_of_escaped hraw rest
    rw [← hs, String.ofList_toList] at hread
    exact .inl ⟨raw, value, rest, hs, hraw, hread⟩
  · have hread := unquote_of_unclosed hs
    rw [String.ofList_toList] at hread
    exact .inr ⟨hs, hread⟩

private theorem encode_split (raw rest : List Char) :
    Utf8.encode (raw ++ '"' :: rest) = Utf8.encode raw ++ 0x22 :: Utf8.encode rest := by
  rw [Utf8.encode_append]
  rfl

theorem unquote_escape (v rest : String) :
    unquote (String.ofList (escape v.toList) ++ "\"" ++ rest) =
      some (v, (Utf8.encode (escape v.toList)).length + 1) := by
  have htext : String.ofList (escape v.toList) ++ "\"" ++ rest =
      String.ofList (escape v.toList ++ '"' :: rest.toList) := by
    apply String.toList_inj.1
    simp
  rw [htext, unquote_of_escaped (escaped_escape _), String.ofList_toList]

/-- What a value that was read says about the text: it is the value of the text before the first
quote that no backslash takes, and the octets that were read are those of that text and the
quote. -/
structure ReadFrom (s v : String) (n : Nat) (before after : List Char) : Prop where
  quote : FirstQuote s.toList before after
  escaped : Escaped before v.toList
  pos : 0 < n
  octet : (Utf8.bytes s)[n - 1]? = some 0x22
  octets : (Utf8.bytes s).take (n - 1) = Utf8.encode before
  apart : ∀ other, unquote (String.ofList (before ++ '"' :: other)) = some (v, n)

theorem readFrom_of_unquote {s v : String} {n : Nat} (h : unquote s = some (v, n)) :
    ∃ before after, ReadFrom s v n before after := by
  rcases unquote_cases s with ⟨raw, value, rest, hs, hraw, hread⟩ | ⟨-, hread⟩
  · rw [h] at hread
    obtain ⟨rfl, rfl⟩ := Prod.mk.inj (Option.some.inj hread)
    refine ⟨raw, rest, ⟨?_, ?_, Nat.succ_pos _, ?_, ?_, unquote_of_escaped hraw⟩⟩
    · rw [hs]
      exact firstQuote_of_escaped hraw rest
    · rwa [String.toList_ofList]
    · simp [Utf8.bytes, hs, encode_split]
    · simp [Utf8.bytes, hs, encode_split]
  · rw [h] at hread
    cases hread

theorem unquote_eq_none_iff (s : String) :
    unquote s = none ↔ ∀ before after, s.toList = before ++ '"' :: after → IsTaken before := by
  rcases unquote_cases s with ⟨raw, value, rest, hs, hraw, hread⟩ | ⟨hs, hread⟩
  · rw [hread]
    refine iff_of_false (by simp) ?_
    intro htaken
    exact (firstQuote_of_escaped hraw rest).free (htaken raw rest hs)
  · refine iff_of_true hread ?_
    intro before after hsplit
    exact isTaken_of_unclosed hs hsplit

theorem scan_unquote_bytes (s : String) :
    Scan.unquote (Utf8.bytes s) =
      (unquote s).map fun (v, n) => (Utf8.bytes v, (Utf8.bytes s).drop n) := by
  rw [Utf8.bytes, Scan.unquote_encode]
  rcases unquote_cases s with ⟨raw, value, rest, hs, hraw, hread⟩ | ⟨hs, hread⟩
  · rw [hread, hs, Scan.unquote_of_escaped hraw, encode_split]
    simp [Utf8.bytes]
  · rw [hread, Scan.unquote_of_unclosed hs]
    rfl

/-- Reading a quoted value undoes the escaping of the writer and stops at the first quote that no
backslash takes. There is no value exactly where a backslash takes every quote, which is so if the
last backslash of the text takes nothing. -/
theorem unquote_inverts_escape :
    (∀ v rest : String, unquote (String.ofList (escape v.toList) ++ "\"" ++ rest) =
        some (v, (Utf8.encode (escape v.toList)).length + 1)) ∧
      (∀ s v n, unquote s = some (v, n) → ∃ before after, ReadFrom s v n before after) ∧
      (∀ s, unquote s = none ↔
        ∀ before after, s.toList = before ++ '"' :: after → IsTaken before) ∧
      (∀ raw value, Escaped raw value → unquote (String.ofList (raw ++ ['\\'])) = none) ∧
      ∀ s, Scan.unquote (Utf8.bytes s) =
        (unquote s).map fun (v, n) => (Utf8.bytes v, (Utf8.bytes s).drop n) :=
  ⟨unquote_escape, fun _ _ _ h => readFrom_of_unquote h, unquote_eq_none_iff,
    fun raw value h => unquote_of_unclosed (.inr ⟨raw, value, h, rfl⟩), scan_unquote_bytes⟩

theorem unquote_inverts_escape_of_runs :
    unquote "a\\\"é\\\\\"b" = some ("a\"é\\", 8) ∧
      (∃ before after, ReadFrom "a\\\"é\\\\\"b" "a\"é\\" 8 before after) ∧
      (∀ before after, "\\\"".toList = before ++ '"' :: after → IsTaken before) ∧
      Escaped ['a'] ['a'] ∧ unquote (String.ofList (['a'] ++ ['\\'])) = none := by
  have hread : unquote "a\\\"é\\\\\"b" = some ("a\"é\\", 8) := by decide +kernel
  have hnone : unquote "\\\"" = none := by decide +kernel
  have hraw : Escaped ['a'] ['a'] := .plain (by decide) (by decide) .nil
  obtain ⟨-, hsome, hiff, hopen, -⟩ := unquote_inverts_escape
  exact ⟨hread, hsome _ _ _ hread, (hiff _).1 hnone, hraw, hopen _ _ hraw⟩

end SaslClient.Cursor
