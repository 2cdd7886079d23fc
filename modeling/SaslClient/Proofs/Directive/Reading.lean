import Mathlib.Data.List.TakeWhile
import SaslClient.Directive.Characters
import SaslClient.Proofs.Directive.Grammar
/-!
# Reading follows the grammar

The reader takes exactly the payloads of the grammar, and blames exactly the faults of the grammar.
Each stage has a lemma for what it makes of a text of some form, and one for the forms that a text
can have where the stage gives some result.
-/
namespace SaslClient.Scan

open Grammar

private theorem code_beq_iff (c d : Char) : (Symbol.code c == d.toNat) = true ↔ c = d := by
  rw [beq_iff_eq]
  exact Char.toNat_inj

theorem isComma_iff {c : Char} : isComma c = true ↔ c = ',' :=
  code_beq_iff c ','

theorem isEquals_iff {c : Char} : isEquals c = true ↔ c = '=' :=
  code_beq_iff c '='

theorem isQuote_iff {c : Char} : isQuote c = true ↔ c = '"' :=
  code_beq_iff c '"'

theorem isBackslash_iff {c : Char} : isBackslash c = true ↔ c = '\\' :=
  code_beq_iff c '\\'

theorem isSpace_iff {c : Char} : isSpace c = true ↔ IsBlank c := by
  simp only [isSpace, IsBlank, Bool.or_eq_true, or_assoc]
  rw [← code_beq_iff c ' ', ← code_beq_iff c '\t', ← code_beq_iff c '\r', ← code_beq_iff c '\n']
  rfl

theorem isSeparator_iff {c : Char} : isSeparator c = true ↔ IsSeparator c := by
  simp only [isSeparator, IsSeparator, Bool.or_eq_true, isComma_iff, isSpace_iff]

/-! ## Runs of characters -/

private theorem takeWhile_exact {p : Char → Bool} {body rest : List Char}
    (inside : ∀ c ∈ body, p c = true) (boundary : ∀ c ∈ rest.head?, p c = false) :
    (body ++ rest).takeWhile p = body := by
  rw [List.takeWhile_append_of_pos inside]
  cases rest with
  | nil => simp
  | cons c rest => simp [boundary c rfl]

private theorem dropWhile_exact {p : Char → Bool} {body rest : List Char}
    (inside : ∀ c ∈ body, p c = true) (boundary : ∀ c ∈ rest.head?, p c = false) :
    (body ++ rest).dropWhile p = rest := by
  rw [List.dropWhile_append_of_pos inside]
  cases rest with
  | nil => rfl
  | cons c rest => simp [boundary c rfl]

theorem exists_run (p : Char → Bool) (s : List Char) :
    ∃ body rest, s = body ++ rest ∧ (∀ c ∈ body, p c = true) ∧ ∀ c ∈ rest.head?, p c = false := by
  refine ⟨s.takeWhile p, s.dropWhile p, List.takeWhile_append_dropWhile.symm, ?_, ?_⟩
  · intro c hc
    exact List.all_eq_true.1 List.all_takeWhile c hc
  · intro c hc
    have hne : s.dropWhile p ≠ [] := by
      intro h
      simp [h] at hc
    have hhead := List.head_dropWhile_not (p := p) hne
    rw [List.head?_eq_some_head hne, Option.mem_some_iff] at hc
    rwa [hc] at hhead

/-! ## Quoted values -/

private theorem unquote_escaped_append {raw value : List Char} (h : Escaped raw value)
    (s : List Char) :
    unquote (raw ++ s) = (unquote s).map fun (tail, rest) => (value ++ tail, rest) := by
  induction h with
  | nil => simp
  | plain not_quote not_backslash tail ih =>
    have hq := mt isQuote_iff.1 not_quote
    have hb := mt isBackslash_iff.1 not_backslash
    rw [List.cons_append, unquote.eq_def]
    simp [hq, hb, ih, Function.comp_def]
  | escape tail ih =>
    rw [List.cons_append, List.cons_append, unquote.eq_def]
    simp only [ih, Option.map_map]
    rfl

theorem unquote_of_escaped {raw value : List Char} (h : Escaped raw value) (rest : List Char) :
    unquote (raw ++ '"' :: rest) = some (value, rest) := by
  have hclose : unquote ('"' :: rest) = some ([], rest) := by
    rw [unquote.eq_def]
    exact if_pos (isQuote_iff.2 rfl)
  simp [unquote_escaped_append h, hclose]

theorem unquote_of_unclosed {s : List Char} (h : Unclosed s) : unquote s = none := by
  rcases h with ⟨value, hs⟩ | ⟨raw, value, hraw, rfl⟩
  · have hend := unquote_escaped_append hs []
    rw [List.append_nil] at hend
    exact hend
  · exact unquote_escaped_append hraw _

/-- A text has a closing quote after an escaped text, or it has none. -/
theorem closed_or_unclosed (s : List Char) :
    (∃ raw value rest, s = raw ++ '"' :: rest ∧ Escaped raw value) ∨ Unclosed s := by
  fun_induction unquote s with
  | case1 => exact .inr (.inl ⟨[], .nil⟩)
  | case2 c rest hc =>
    rw [isQuote_iff] at hc
    exact .inl ⟨[], [], rest, by rw [hc]; rfl, .nil⟩
  | case3 c hc hb =>
    rw [isBackslash_iff] at hb
    exact .inr (.inr ⟨[], [], .nil, by rw [hb]; rfl⟩)
  | case4 c hc hb d rest ih =>
    rw [isBackslash_iff] at hb
    subst hb
    rcases ih with ⟨raw, value, after, rfl, hraw⟩ | ⟨value, hs⟩ | ⟨raw, value, hraw, rfl⟩
    · exact .inl ⟨_, _, after, rfl, .escape hraw⟩
    · exact .inr (.inl ⟨_, .escape hs⟩)
    · exact .inr (.inr ⟨_, _, .escape hraw, rfl⟩)
  | case5 c rest hc hb ih =>
    rw [isQuote_iff] at hc
    rw [isBackslash_iff] at hb
    rcases ih with ⟨raw, value, after, rfl, hraw⟩ | ⟨value, hs⟩ | ⟨raw, value, hraw, rfl⟩
    · exact .inl ⟨_, _, after, rfl, .plain hc hb hraw⟩
    · exact .inr (.inl ⟨_, .plain hc hb hs⟩)
    · exact .inr (.inr ⟨_, _, .plain hc hb hraw, rfl⟩)

private theorem after_quoted {raw value blank rest : List Char} (hraw : Escaped raw value)
    (hblank : ∀ c ∈ blank, IsBlank c) (hrest : ∀ c ∈ rest.head?, ¬IsBlank c) :
    unquote (raw ++ '"' :: blank ++ rest) = some (value, blank ++ rest) ∧
      (blank ++ rest).dropWhile isSpace = rest := by
  constructor
  · rw [List.append_assoc, List.cons_append, unquote_of_escaped hraw]
  · apply dropWhile_exact
    · intro c hc
      exact isSpace_iff.2 (hblank c hc)
    · intro c hc
      exact Bool.eq_false_iff.2 (mt isSpace_iff.1 (hrest c hc))

private theorem not_isBlank_of_atBoundary {rest : List Char} (h : AtBoundary rest) :
    ∀ c ∈ rest.head?, ¬IsBlank c := by
  intro c hc
  rw [h c hc]
  unfold IsBlank
  decide

theorem quotedValue_of_boundary (name : List Char) {raw v blank rest : List Char}
    (hraw : Escaped raw v) (hblank : ∀ c ∈ blank, IsBlank c) (hrest : AtBoundary rest) :
    quotedValue name (raw ++ '"' :: blank ++ rest) = .ok (v, rest) := by
  obtain ⟨hread, hdrop⟩ := after_quoted hraw hblank (not_isBlank_of_atBoundary hrest)
  rw [quotedValue, hread]
  simp only [hdrop]
  cases rest with
  | nil => rfl
  | cons c rest => exact if_pos (isComma_iff.2 (hrest c rfl))

theorem quotedValue_of_trailing (name rest : List Char) {raw v blank : List Char}
    {c : Char} (hraw : Escaped raw v) (hblank : ∀ c ∈ blank, IsBlank c) (hc : ¬IsBlank c)
    (hcomma : c ≠ ',') :
    quotedValue name (raw ++ '"' :: blank ++ c :: rest) = .error (.trailingData name) := by
  have hrest : ∀ b ∈ (c :: rest).head?, ¬IsBlank b := by simpa using hc
  obtain ⟨hread, hdrop⟩ := after_quoted hraw hblank hrest
  rw [quotedValue, hread]
  simp only [hdrop]
  exact if_neg (mt isComma_iff.1 hcomma)

/-! ## Elements -/

theorem element_of_name {name : List Char} (hne : name ≠ []) (heq : '=' ∉ name)
    (rest : List Char) :
    element (name ++ '=' :: rest) =
      match value name rest with
      | .error fault => .error fault
      | .ok (text, rest) =>
        if text.isEmpty then .error (.emptyValue name) else .ok ((name, text), rest) := by
  have inside : ∀ c ∈ name, (!isEquals c) = true := by
    intro c hc
    have : c ≠ '=' := fun h => heq (h ▸ hc)
    simpa using mt isEquals_iff.1 this
  have boundary : ∀ c ∈ ('=' :: rest).head?, (!isEquals c) = false := by
    intro c hc
    simp only [List.head?_cons, Option.mem_some_iff] at hc
    simp [← hc, isEquals_iff]
  simp only [element, takeWhile_exact inside boundary, dropWhile_exact inside boundary,
    List.isEmpty_eq_false_iff.2 hne, Bool.false_eq_true, ↓reduceIte]
  cases value name rest <;> rfl

theorem value_of_bare {name v rest : List Char} (hcomma : ',' ∉ v)
    (hhead : ∀ c ∈ (v ++ rest).head?, c ≠ '"') (hrest : AtBoundary rest) :
    value name (v ++ rest) = .ok (v, rest) := by
  have inside : ∀ c ∈ v, (!isComma c) = true := by
    intro c hc
    have : c ≠ ',' := fun h => hcomma (h ▸ hc)
    simpa using mt isComma_iff.1 this
  have boundary : ∀ c ∈ rest.head?, (!isComma c) = false := by
    intro c hc
    simp [isComma_iff, hrest c hc]
  have hbare : bareValue (v ++ rest) = (v, rest) :=
    Prod.ext (takeWhile_exact inside boundary) (dropWhile_exact inside boundary)
  cases hs : v ++ rest with
  | nil =>
    obtain ⟨rfl, rfl⟩ := List.append_eq_nil_iff.1 hs
    rfl
  | cons c s =>
    rw [hs] at hhead hbare
    have hc : ¬isQuote c = true := mt isQuote_iff.1 (hhead c rfl)
    rw [value, if_neg hc]
    exact congrArg Except.ok hbare

theorem value_quote (name rest : List Char) :
    value name ('"' :: rest) = quotedValue name rest := by
  rw [value, if_pos (isQuote_iff.2 rfl)]

theorem element_of_directive {text rest : List Char} {d : Pair} (h : Directive text d)
    (hrest : AtBoundary rest) : element (text ++ rest) = .ok (d, rest) := by
  obtain ⟨isName, isValue⟩ := h
  rw [List.append_assoc, List.cons_append, element_of_name isName.ne_nil isName.no_equals]
  cases isValue with
  | bare ne_nil no_comma head =>
    rw [value_of_bare no_comma _ hrest]
    · simp [ne_nil]
    · intro c hc
      obtain ⟨a, v, rfl⟩ := List.exists_cons_of_ne_nil ne_nil
      exact head c hc
  | quoted escaped ne_nil blanks =>
    rw [List.append_assoc, List.cons_append, value_quote]
    rw [← List.append_assoc, quotedValue_of_boundary _ escaped blanks hrest]
    simp [ne_nil]

theorem element_of_broken {s : List Char} {fault : Fault (List Char)} (h : BrokenElement s fault) :
    element s = .error fault := by
  cases h with
  | emptyName =>
    have : isEquals '=' = true := isEquals_iff.2 rfl
    simp [element, this]
  | missingEquals isName =>
    have inside : ∀ c ∈ s, (!isEquals c) = true := by
      intro c hc
      have : c ≠ '=' := fun h => isName.no_equals (h ▸ hc)
      simpa using mt isEquals_iff.1 this
    have boundary : ∀ c ∈ ([] : List Char).head?, (!isEquals c) = false := by simp
    have htake := takeWhile_exact inside boundary
    have hdrop := dropWhile_exact inside boundary
    rw [List.append_nil] at htake hdrop
    simp [element, htake, hdrop, isName.ne_nil]
  | unterminatedQuote isName unclosed =>
    rw [element_of_name isName.ne_nil isName.no_equals, value_quote, quotedValue,
      unquote_of_unclosed unclosed]
  | @trailingData name raw v blank rest c isName escaped blanks not_blank not_comma =>
    have hread := quotedValue_of_trailing name rest escaped blanks not_blank not_comma
    simp only [List.append_assoc, List.cons_append] at hread ⊢
    rw [element_of_name isName.ne_nil isName.no_equals, value_quote, hread]
  | @emptyBare name rest isName boundary =>
    have hread : value name rest = .ok ([], rest) := by
      apply value_of_bare (v := []) (by simp) _ boundary
      intro c hc
      rw [boundary c hc]
      decide
    rw [element_of_name isName.ne_nil isName.no_equals, hread]
    rfl
  | @emptyQuoted name blank rest isName blanks boundary =>
    have hread := quotedValue_of_boundary name .nil blanks boundary
    simp only [List.append_assoc, List.cons_append] at hread ⊢
    rw [element_of_name isName.ne_nil isName.no_equals, value_quote]
    rw [List.nil_append] at hread
    rw [hread]
    rfl

private theorem eq_nil_of_escaped_nil {raw : List Char} (h : Escaped raw []) : raw = [] := by
  cases h
  rfl

private theorem atBoundary_of_run {rest : List Char}
    (h : ∀ c ∈ rest.head?, (!isComma c) = false) : AtBoundary rest := by
  intro c hc
  simpa [isComma_iff] using h c hc

private theorem quoted_or_broken {name : List Char} (isName : IsName name) (s : List Char) :
    (∃ text rest d, name ++ '=' :: '"' :: s = text ++ rest ∧ Directive text d ∧ AtBoundary rest) ∨
      ∃ fault, BrokenElement (name ++ '=' :: '"' :: s) fault := by
  rcases closed_or_unclosed s with ⟨raw, v, after, rfl, hraw⟩ | hs
  · obtain ⟨blank, rest, rfl, hblank, hrest⟩ := exists_run isSpace after
    have blanks : ∀ c ∈ blank, IsBlank c := fun c hc => isSpace_iff.1 (hblank c hc)
    by_cases boundary : AtBoundary rest
    · by_cases hv : v = []
      · subst hv
        rw [eq_nil_of_escaped_nil hraw]
        refine .inr ⟨.emptyValue name, ?_⟩
        simpa using BrokenElement.emptyQuoted isName blanks boundary
      · refine .inl ⟨_, rest, _, ?_, .mk isName (.quoted hraw hv blanks), boundary⟩
        simp
    · cases rest with
      | nil => exact absurd (by simp [AtBoundary]) boundary
      | cons c rest =>
        have not_blank : ¬IsBlank c := by
          intro hc
          simpa [isSpace_iff.2 hc] using hrest c rfl
        have not_comma : c ≠ ',' := by
          intro hc
          exact boundary (by simp [AtBoundary, hc])
        refine .inr ⟨.trailingData name, ?_⟩
        have := @BrokenElement.trailingData name _ _ _ rest _ isName hraw blanks not_blank not_comma
        simpa using this
  · exact .inr ⟨_, .unterminatedQuote isName hs⟩

private theorem bare_or_broken {name s : List Char} (isName : IsName name)
    (hs : ∀ c ∈ s.head?, c ≠ '"') :
    (∃ text rest d, name ++ '=' :: s = text ++ rest ∧ Directive text d ∧ AtBoundary rest) ∨
      ∃ fault, BrokenElement (name ++ '=' :: s) fault := by
  obtain ⟨v, rest, rfl, hv, hrest⟩ := exists_run (!isComma ·) s
  have boundary := atBoundary_of_run hrest
  cases v with
  | nil => exact .inr ⟨_, .emptyBare isName boundary⟩
  | cons c v =>
    have no_comma : ',' ∉ c :: v := by
      intro hc
      simpa [isComma_iff.2 rfl] using hv ',' hc
    have isValue : Value (c :: v) (c :: v) := .bare (by simp) no_comma (by simpa using hs)
    refine .inl ⟨_, rest, _, ?_, .mk isName isValue, boundary⟩
    simp

/-- A text that begins with no separator begins with a directive, or with a broken element. -/
theorem directive_or_broken {s : List Char} (hne : s ≠ [])
    (hhead : ∀ c ∈ s.head?, ¬IsSeparator c) :
    (∃ text rest d, s = text ++ rest ∧ Directive text d ∧ AtBoundary rest) ∨
      ∃ fault, BrokenElement s fault := by
  obtain ⟨name, rest, rfl, hname, hrest⟩ := exists_run (!isEquals ·) s
  have no_equals : '=' ∉ name := by
    intro hc
    simpa [isEquals_iff.2 rfl] using hname '=' hc
  cases rest with
  | nil =>
    rw [List.append_nil] at hne hhead ⊢
    exact .inr ⟨_, .missingEquals ⟨hne, no_equals, hhead⟩⟩
  | cons c rest =>
    have hc : c = '=' := by simpa [isEquals_iff] using hrest c rfl
    subst hc
    by_cases hempty : name = []
    · subst hempty
      exact .inr ⟨_, .emptyName⟩
    · have head : ∀ c ∈ name.head?, ¬IsSeparator c := by
        intro c hc
        apply hhead
        obtain ⟨a, name, rfl⟩ := List.exists_cons_of_ne_nil hempty
        exact hc
      have isName : IsName name := ⟨hempty, no_equals, head⟩
      by_cases hquote : ∃ s, rest = '"' :: s
      · obtain ⟨s, rfl⟩ := hquote
        exact quoted_or_broken isName s
      · apply bare_or_broken isName
        intro c hc hq
        cases rest with
        | nil => simp at hc
        | cons a rest =>
          simp only [List.head?_cons, Option.mem_some_iff] at hc
          exact hquote ⟨rest, by rw [hc, hq]⟩

/-! ## Payloads -/

private theorem exists_cons_of_directive {text : List Char} {d : Pair} (h : Directive text d)
    (rest : List Char) : ∃ c cs, text ++ rest = c :: cs ∧ ¬IsSeparator c := by
  obtain ⟨isName, -⟩ := h
  obtain ⟨c, cs, rfl⟩ := List.exists_cons_of_ne_nil isName.ne_nil
  exact ⟨c, _, rfl, isName.head c rfl⟩

private theorem exists_cons_of_broken {s : List Char} {fault : Fault (List Char)}
    (h : BrokenElement s fault) : ∃ c cs, s = c :: cs ∧ ¬IsSeparator c := by
  have of_name {name : List Char} (isName : IsName name) (rest : List Char) :
      ∃ c cs, name ++ rest = c :: cs ∧ ¬IsSeparator c := by
    obtain ⟨c, cs, rfl⟩ := List.exists_cons_of_ne_nil isName.ne_nil
    exact ⟨c, _, rfl, isName.head c rfl⟩
  cases h with
  | emptyName =>
    refine ⟨_, _, rfl, ?_⟩
    unfold IsSeparator IsBlank
    decide
  | missingEquals isName => simpa using of_name isName []
  | unterminatedQuote isName => exact of_name isName _
  | trailingData isName => simpa using of_name isName _
  | emptyBare isName => exact of_name isName _
  | emptyQuoted isName => simpa using of_name isName _

private theorem dropWhile_lead {lead s : List Char} (leads : ∀ c ∈ lead, IsSeparator c)
    (hs : ∀ c ∈ s.head?, ¬IsSeparator c) : (lead ++ s).dropWhile isSeparator = s := by
  apply dropWhile_exact
  · intro c hc
    exact isSeparator_iff.2 (leads c hc)
  · intro c hc
    exact Bool.eq_false_iff.2 (mt isSeparator_iff.1 (hs c hc))

theorem elements_separators_append {lead : List Char} (h : ∀ c ∈ lead, IsSeparator c)
    (s : List Char) : elements (lead ++ s) = elements s := by
  have hlead : ∀ c ∈ lead, isSeparator c = true := by
    intro c hc
    exact isSeparator_iff.2 (h c hc)
  rw [elements_eq, List.dropWhile_append_of_pos hlead, ← elements_eq]

theorem elements_eq_ok_nil_iff {s : List Char} :
    elements s = .ok [] ↔ ∀ c ∈ s, IsSeparator c := by
  constructor
  · intro h
    rw [elements_eq] at h
    split at h
    · next hs =>
      intro c hc
      exact isSeparator_iff.1 (List.dropWhile_eq_nil_iff.1 hs c hc)
    · split at h
      · cases h
      · next rest _ =>
        generalize elements (rest.drop 1) = read at h
        cases read <;> cases h
  · intro h
    have hread := elements_separators_append h []
    rw [List.append_nil] at hread
    rw [hread, elements_eq]
    rfl

theorem elements_of_directive {lead text rest : List Char} {d : Pair}
    (leads : ∀ c ∈ lead, IsSeparator c) (directive : Directive text d) (hrest : AtBoundary rest) :
    elements (lead ++ text ++ rest) = (elements (rest.drop 1)).map (d :: ·) := by
  obtain ⟨c, cs, hcs, hc⟩ := exists_cons_of_directive directive rest
  have hread := element_of_directive directive hrest
  rw [hcs] at hread
  rw [List.append_assoc, hcs, elements_eq, dropWhile_lead leads (by simpa using hc)]
  simp only [hread]

theorem atBoundary_comma (rest : List Char) : AtBoundary (',' :: rest) := by
  simp [AtBoundary]

theorem elements_of_payload {s : List Char} {ds : List Pair} (h : Payload s ds) :
    elements s = .ok ds := by
  induction h with
  | last leads directive =>
    have boundary : AtBoundary [] := by simp [AtBoundary]
    have hread := elements_of_directive leads directive boundary
    rw [List.append_nil] at hread
    rw [hread, List.drop_nil, elements_eq_ok_nil_iff.2 (by simp)]
    rfl
  | trailing leads directive trails =>
    rw [elements_of_directive leads directive (atBoundary_comma _)]
    rw [List.drop_one, List.tail_cons, elements_eq_ok_nil_iff.2 trails]
    rfl
  | cons leads directive tail ih =>
    rw [elements_of_directive leads directive (atBoundary_comma _)]
    rw [List.drop_one, List.tail_cons, ih]
    rfl

theorem elements_of_broken {s : List Char} {fault : Fault (List Char)} (h : Broken s fault) :
    elements s = .error fault := by
  induction h with
  | here leads element =>
    obtain ⟨c, cs, rfl, hc⟩ := exists_cons_of_broken element
    rw [elements_eq, dropWhile_lead leads (by simpa using hc)]
    simp only [element_of_broken element]
  | later leads directive tail ih =>
    rw [elements_of_directive leads directive (atBoundary_comma _)]
    rw [List.drop_one, List.tail_cons, ih]
    rfl

theorem directives_of_payload {s : List Char} {ds : List Pair} (h : Payload s ds) :
    directives s = .ok ds := by
  rw [directives, elements_of_payload h]
  cases h <;> rfl

theorem directives_of_malformed {s : List Char} {fault : Fault (List Char)}
    (h : Malformed s fault) : directives s = .error fault := by
  cases h with
  | empty separators => rw [directives, elements_eq_ok_nil_iff.2 separators]
  | broken broken => rw [directives, elements_of_broken broken]

/-- Every text is a payload or has a fault. -/
theorem payload_or_malformed (s : List Char) :
    (∃ ds, Payload s ds) ∨ ∃ fault, Malformed s fault := by
  have split : ∀ n, ∀ s : List Char, s.length ≤ n →
      (∃ ds, Payload s ds) ∨ (∀ c ∈ s, IsSeparator c) ∨ ∃ fault, Broken s fault := by
    -- A directive with a comma behind it leaves a shorter text.
    intro n
    induction n with
    | zero =>
      intro s hs
      rw [List.eq_nil_of_length_eq_zero (Nat.le_zero.1 hs)]
      exact .inr (.inl (by simp))
    | succ n ih =>
      intro s hs
      obtain ⟨lead, t, rfl, hlead, ht⟩ := exists_run isSeparator s
      have leads : ∀ c ∈ lead, IsSeparator c := fun c hc => isSeparator_iff.1 (hlead c hc)
      have head : ∀ c ∈ t.head?, ¬IsSeparator c := by
        intro c hc hsep
        simpa [isSeparator_iff.2 hsep] using ht c hc
      by_cases hne : t = []
      · subst hne
        exact .inr (.inl (by simpa using leads))
      rcases directive_or_broken hne head with ⟨text, rest, d, rfl, directive, boundary⟩ | ⟨f, hf⟩
      · cases rest with
        | nil => exact .inl ⟨_, by simpa using Payload.last leads directive⟩
        | cons c rest =>
          have hc := boundary c rfl
          subst hc
          rw [← List.append_assoc]
          have hlength : rest.length ≤ n := by
            simp only [List.length_append, List.length_cons] at hs
            omega
          rcases ih rest hlength with ⟨ds, hds⟩ | trails | ⟨f, hf⟩
          · exact .inl ⟨_, .cons leads directive hds⟩
          · exact .inl ⟨_, .trailing leads directive trails⟩
          · exact .inr (.inr ⟨_, .later leads directive hf⟩)
      · exact .inr (.inr ⟨_, .here leads hf⟩)
  rcases split s.length s (Nat.le_refl _) with hds | hsep | ⟨f, hf⟩
  · exact .inl hds
  · exact .inr ⟨_, .empty hsep⟩
  · exact .inr ⟨_, .broken hf⟩

/-- The reader takes the payloads of the grammar. -/
theorem directives_eq_ok_iff {s : List Char} {ds : List Pair} :
    directives s = .ok ds ↔ Payload s ds := by
  refine ⟨?_, directives_of_payload⟩
  intro h
  rcases payload_or_malformed s with ⟨es, hes⟩ | ⟨fault, hfault⟩
  · rw [directives_of_payload hes, Except.ok.injEq] at h
    exact h ▸ hes
  · rw [directives_of_malformed hfault] at h
    simp at h

/-- The directives of a payload are its elements, of which there has to be one. -/
theorem payload_iff {s : List Char} {ds : List Pair} :
    Payload s ds ↔ elements s = .ok ds ∧ ds ≠ [] := by
  constructor
  · intro h
    exact ⟨elements_of_payload h, h.ne_nil⟩
  · rintro ⟨h, hne⟩
    obtain ⟨d, ds, rfl⟩ := List.exists_cons_of_ne_nil hne
    rw [← directives_eq_ok_iff, directives, h]

/-- The reader blames the faults of the grammar. -/
theorem directives_eq_error_iff {s : List Char} {fault : Fault (List Char)} :
    directives s = .error fault ↔ Malformed s fault := by
  refine ⟨?_, directives_of_malformed⟩
  intro h
  rcases payload_or_malformed s with ⟨ds, hds⟩ | ⟨other, hother⟩
  · rw [directives_of_payload hds] at h
    simp at h
  · rw [directives_of_malformed hother, Except.error.injEq] at h
    exact h ▸ hother

end SaslClient.Scan

namespace SaslClient.Directives

open Grammar

def ofPairs (ds : List Pair) : Directives :=
  Fields.ofList (ds.map fun d => (String.ofList d.1, String.ofList d.2))

theorem get?_ofPairs (ds : List Pair) (name : String) :
    (ofPairs ds).get? name = lastValue? name ds := by
  have hname (d : Pair) : (String.ofList d.1 = name) = (d.1 = name.toList) := by
    rw [← String.toList_inj, String.toList_ofList]
  rw [ofPairs, Fields.get?_ofList, ← List.map_reverse, List.find?_map, lastValue?, Option.map_map]
  simp only [Function.comp_def, hname]

theorem parseText_of_payload {cs : List Char} {ds : List Pair} (h : Payload cs ds) :
    parseText cs = .ok (ofPairs ds) := by
  rw [parseText, Scan.directives_of_payload h]
  rfl

theorem parseText_of_malformed {cs : List Char} {fault : Scan.Fault (List Char)}
    (h : Malformed cs fault) : parseText cs = .error (fault.map String.ofList) := by
  rw [parseText, Scan.directives_of_malformed h]

theorem parseText_eq_ok_iff {cs : List Char} {m : Directives} :
    parseText cs = .ok m ↔ ∃ ds, Payload cs ds ∧ ∀ name, m.get? name = lastValue? name ds := by
  constructor
  · intro h
    rw [parseText] at h
    split at h
    · simp at h
    · next ds hds =>
      rw [Except.ok.injEq] at h
      refine ⟨ds, Scan.directives_eq_ok_iff.1 hds, ?_⟩
      intro name
      rw [← h]
      exact get?_ofPairs ds name
  · rintro ⟨ds, hds, hm⟩
    rw [parseText_of_payload hds]
    congr 1
    apply Fields.ext_get?
    intro name
    rw [hm, get?_ofPairs]

private theorem parseText_eq_error_iff {cs : List Char} {fault : Scan.Fault String} :
    parseText cs = .error fault ↔ ∃ f, Malformed cs f ∧ fault = f.map String.ofList := by
  constructor
  · intro h
    rw [parseText] at h
    split at h
    · next f hf =>
      rw [Except.error.injEq] at h
      exact ⟨f, Scan.directives_eq_error_iff.1 hf, h.symm⟩
    · simp at h
  · rintro ⟨f, hf, rfl⟩
    exact parseText_of_malformed hf

private theorem parse_eq_iff {payload : List UInt8} {r : Except (Scan.Fault String) Directives} :
    parse payload = r.mapError .malformed ↔
      ∃ cs, payload = Utf8.encode cs ∧ parseText cs = r := by
  constructor
  · intro h
    cases hd : Utf8.decode payload with
    | error reason =>
      simp only [parse, hd] at h
      cases r <;> cases h
    | ok cs =>
      obtain rfl := Utf8.decode_eq_ok_iff.1 hd
      refine ⟨cs, rfl, ?_⟩
      rw [parse_encode] at h
      generalize parseText cs = found at h
      cases found <;> cases r <;> cases h <;> rfl
  · rintro ⟨cs, rfl, rfl⟩
    exact parse_encode cs

theorem parse_eq_ok_iff {payload : List UInt8} {m : Directives} :
    parse payload = .ok m ↔ ∃ cs, payload = Utf8.encode cs ∧ parseText cs = .ok m :=
  parse_eq_iff (r := .ok m)

private theorem parse_eq_malformed_iff {payload : List UInt8} {fault : Scan.Fault String} :
    parse payload = .error (.malformed fault) ↔
      ∃ cs, payload = Utf8.encode cs ∧ parseText cs = .error fault :=
  parse_eq_iff (r := .error fault)

theorem parse_encode_eq_ok_iff {cs : List Char} {m : Directives} :
    parse (Utf8.encode cs) = .ok m ↔ ∃ ds, Payload cs ds ∧ m = ofPairs ds := by
  constructor
  · intro h
    obtain ⟨text, hencode, ht⟩ := parse_eq_ok_iff.1 h
    obtain rfl := Utf8.encode_injective hencode
    obtain ⟨ds, hds, -⟩ := parseText_eq_ok_iff.1 ht
    rw [parseText_of_payload hds, Except.ok.injEq] at ht
    exact ⟨ds, hds, ht.symm⟩
  · rintro ⟨ds, hds, rfl⟩
    exact parse_eq_ok_iff.2 ⟨cs, rfl, parseText_of_payload hds⟩

private theorem parse_eq_invalidUtf8_iff {payload : List UInt8} :
    (∃ reason, parse payload = .error (.invalidUtf8 reason)) ↔
      ¬∃ cs, payload = Utf8.encode cs := by
  constructor
  · rintro ⟨reason, h⟩ ⟨cs, rfl⟩
    rw [parse_encode] at h
    cases ht : parseText cs with
    | error fault =>
      rw [ht] at h
      cases h
    | ok found =>
      rw [ht] at h
      cases h
  · intro hno
    cases hd : Utf8.decode payload with
    | error reason => exact ⟨reason, by rw [parse, hd]⟩
    | ok cs => exact absurd ⟨cs, Utf8.decode_eq_ok_iff.1 hd⟩ hno

theorem ne_empty_of_parse {payload : List UInt8} {m : Directives} {name value : String}
    (h : parse payload = .ok m) (hvalue : m.get? name = some value) : value ≠ "" := by
  obtain ⟨cs, -, ht⟩ := parse_eq_ok_iff.1 h
  obtain ⟨ds, hds, hm⟩ := parseText_eq_ok_iff.1 ht
  rw [hm, lastValue?] at hvalue
  obtain ⟨d, hd, rfl⟩ := Option.map_eq_some_iff.1 hvalue
  have hmem := List.mem_reverse.1 (List.mem_of_find?_eq_some hd)
  intro hempty
  exact (hds.isName_and_ne_nil d hmem).2 (String.ofList_eq_empty_iff.1 hempty)

/-- Reading takes the octets of the payloads of the grammar, each name with its last value. Other
octets are refused: where they are no text for that, and where they are for the leftmost element
that is broken. -/
theorem parse_follows_grammar (payload : List UInt8) :
    (∀ m : Directives, parse payload = .ok m ↔ ∃ cs ds, payload = Utf8.encode cs ∧
      Payload cs ds ∧ ∀ name, m.get? name = lastValue? name ds) ∧
    ((∃ reason, parse payload = .error (.invalidUtf8 reason)) ↔
      ¬∃ cs, payload = Utf8.encode cs) ∧
    ∀ fault, parse payload = .error (.malformed fault) ↔ ∃ cs f, payload = Utf8.encode cs ∧
      Malformed cs f ∧ fault = f.map String.ofList := by
  refine ⟨?_, parse_eq_invalidUtf8_iff, ?_⟩
  · intro m
    rw [parse_eq_ok_iff]
    constructor
    · rintro ⟨cs, hcs, ht⟩
      obtain ⟨ds, hds, hm⟩ := parseText_eq_ok_iff.1 ht
      exact ⟨cs, ds, hcs, hds, hm⟩
    · rintro ⟨cs, ds, hcs, hds, hm⟩
      exact ⟨cs, hcs, parseText_eq_ok_iff.2 ⟨ds, hds, hm⟩⟩
  · intro fault
    rw [parse_eq_malformed_iff]
    constructor
    · rintro ⟨cs, hcs, ht⟩
      obtain ⟨f, hf, rfl⟩ := parseText_eq_error_iff.1 ht
      exact ⟨cs, f, hcs, hf, rfl⟩
    · rintro ⟨cs, f, hcs, hf, hfault⟩
      exact ⟨cs, hcs, parseText_eq_error_iff.2 ⟨f, hf, hfault⟩⟩

end SaslClient.Directives
