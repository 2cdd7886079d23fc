import Mathlib.Control.Monad.Basic
import Mathlib.Data.List.Induction
import SaslClient.Proofs.Directive.Reading
/-!
# Names without a value

Commas outside of quoted values divide a payload into segments. A segment may be a name with neither
an equals sign nor a value. If no equals sign follows it, the payload is refused. If one does, the
reader takes all up to that sign for a name, commas included, and reads on: a payload that it takes
has such a segment exactly where a name in it has a comma.
-/
namespace SaslClient.Grammar

/-- What stands between an equals sign and the comma that ends a value. It is quoted if it begins
with a quote, and then it goes on behind the closing one. -/
inductive ValuePart : List Char → Prop
  | bare {value : List Char} (no_comma : ',' ∉ value) (head : ∀ c ∈ value.head?, c ≠ '"') :
      ValuePart value
  | quoted {raw value tail : List Char} (escaped : Escaped raw value) (no_comma : ',' ∉ tail) :
      ValuePart ('"' :: raw ++ '"' :: tail)

/-- A part of a payload with no comma outside of a quoted value. -/
inductive Segment : List Char → Prop
  | lone {name : List Char} (no_comma : ',' ∉ name) (no_equals : '=' ∉ name) : Segment name
  | valued {name part : List Char} (no_comma : ',' ∉ name) (no_equals : '=' ∉ name)
      (valuePart : ValuePart part) : Segment (name ++ '=' :: part)

inductive Segments : List Char → Prop
  | nil : Segments []
  | cons {text rest : List Char} (segment : Segment text) (tail : Segments rest) :
      Segments (text ++ ',' :: rest)

/-- A segment between others that is neither blank nor has an equals sign. -/
structure LoneName (before name after : List Char) : Prop where
  segments : Segments before
  no_comma : ',' ∉ name
  no_equals : '=' ∉ name
  not_blank : ∃ c ∈ name, ¬IsBlank c
  boundary : AtBoundary after

theorem Segments.append {s t : List Char} (hs : Segments s) (ht : Segments t) :
    Segments (s ++ t) := by
  induction hs with
  | nil => exact ht
  | cons segment tail ih =>
    rw [List.append_assoc, List.cons_append]
    exact .cons segment ih

private theorem no_equals_of_separators {lead : List Char} (h : ∀ c ∈ lead, IsSeparator c) :
    '=' ∉ lead :=
  fun hc => absurd (h '=' hc) (by decide)

theorem exists_segments {s : List Char} (h : '=' ∉ s) :
    ∃ before last, s = before ++ last ∧ Segments before ∧ ',' ∉ last := by
  -- The induction is from the end, where a comma ends one more segment.
  induction s using List.reverseRecOn with
  | nil => exact ⟨[], [], rfl, .nil, by simp⟩
  | append_singleton s c ih =>
    have hs : '=' ∉ s := fun hc => h (List.mem_append_left _ hc)
    obtain ⟨before, last, rfl, hbefore, hlast⟩ := ih hs
    by_cases hc : c = ','
    · subst hc
      have hsegment : Segment last := .lone hlast fun hc => hs (List.mem_append_right _ hc)
      refine ⟨before ++ (last ++ [',']), [], by simp, ?_, by simp⟩
      exact hbefore.append (.cons hsegment .nil)
    · refine ⟨before, last ++ [c], by simp, hbefore, ?_⟩
      simpa [hlast] using Ne.symm hc

end SaslClient.Grammar

namespace SaslClient.Scan

open Grammar

/-! ## What the reader makes of segments -/

private theorem exists_name {s : List Char} (hequals : '=' ∉ s) (hname : ∃ c ∈ s, ¬IsSeparator c) :
    ∃ lead, s = lead ++ s.dropWhile isSeparator ∧ (∀ c ∈ lead, IsSeparator c) ∧
      IsName (s.dropWhile isSeparator) := by
  refine ⟨s.takeWhile isSeparator, List.takeWhile_append_dropWhile.symm, ?_, ?_, ?_, ?_⟩
  · intro c hc
    exact isSeparator_iff.1 (List.all_eq_true.1 List.all_takeWhile c hc)
  · intro hnil
    obtain ⟨c, hc, hother⟩ := hname
    exact hother (isSeparator_iff.1 (List.dropWhile_eq_nil_iff.1 hnil c hc))
  · intro hc
    exact hequals ((List.dropWhile_sublist _).subset hc)
  · intro c hc hsep
    have hhead := List.head?_dropWhile_not isSeparator s
    rw [hc] at hhead
    simp [isSeparator_iff.2 hsep] at hhead

theorem elements_of_name {s : List Char} (hequals : '=' ∉ s) (hname : ∃ c ∈ s, ¬IsSeparator c)
    (rest : List Char) :
    elements (s ++ '=' :: rest) =
      match value (s.dropWhile isSeparator) rest with
      | .error fault => .error fault
      | .ok (text, rest) =>
        if text.isEmpty then .error (.emptyValue (s.dropWhile isSeparator))
        else (elements (rest.drop 1)).map ((s.dropWhile isSeparator, text) :: ·) := by
  obtain ⟨lead, hs, hlead, isName⟩ := exists_name hequals hname
  generalize s.dropWhile isSeparator = name at hs isName
  subst hs
  obtain ⟨c, cs, rfl⟩ := List.exists_cons_of_ne_nil isName.ne_nil
  have hc : isSeparator c = false := by
    rw [Bool.eq_false_iff]
    exact mt isSeparator_iff.1 (isName.head c rfl)
  rw [List.append_assoc, elements_separators_append hlead, elements_eq, List.cons_append,
    List.dropWhile_cons, hc]
  have hread := element_of_name isName.ne_nil isName.no_equals rest
  rw [List.cons_append] at hread
  simp only [Bool.false_eq_true, ↓reduceIte, hread]
  cases value (c :: cs) rest with
  | error fault => rfl
  | ok r => cases htext : r.1.isEmpty <;> simp [htext]

theorem elements_of_lone {s : List Char} (hequals : '=' ∉ s) (hname : ∃ c ∈ s, ¬IsSeparator c) :
    elements s = .error (.missingEquals (s.dropWhile isSeparator)) := by
  obtain ⟨lead, hs, hlead, isName⟩ := exists_name hequals hname
  generalize s.dropWhile isSeparator = name at hs isName
  subst hs
  exact elements_of_broken (.here hlead (.missingEquals isName))

private theorem value_of_part {v : List Char} (h : ValuePart v) (name : List Char) :
    ∃ r : Except (Fault (List Char)) (List Char),
      ∀ rest, AtBoundary rest → value name (v ++ rest) = r.map fun text => (text, rest) := by
  cases h with
  | bare no_comma head =>
    refine ⟨.ok v, ?_⟩
    intro rest hrest
    apply value_of_bare no_comma _ hrest
    intro c hc
    cases v with
    | nil =>
      rw [hrest c hc]
      decide
    | cons a v => exact head c hc
  | @quoted raw value tail escaped no_comma =>
    obtain ⟨blank, t, rfl, hblank, ht⟩ := exists_run isSpace tail
    have blanks : ∀ c ∈ blank, IsBlank c := fun c hc => isSpace_iff.1 (hblank c hc)
    cases t with
    | nil =>
      refine ⟨.ok value, ?_⟩
      intro rest hrest
      have hread := quotedValue_of_boundary name escaped blanks hrest
      simpa [value_quote, Except.map] using hread
    | cons c t =>
      have not_blank : ¬IsBlank c := by
        intro hc
        simpa [isSpace_iff.2 hc] using ht c rfl
      have not_comma : c ≠ ',' := by
        rintro rfl
        simp at no_comma
      refine ⟨.error (.trailingData name), ?_⟩
      intro rest hrest
      have hread := quotedValue_of_trailing name (t ++ rest) escaped blanks not_blank not_comma
      simpa [value_quote, Except.map] using hread

private theorem elements_of_valued {s v : List Char} (hequals : '=' ∉ s) (hv : ValuePart v) :
    (∃ fault, ∀ rest, elements (s ++ '=' :: v ++ ',' :: rest) = .error fault) ∨
      ∃ d, ∀ rest, elements (s ++ '=' :: v ++ ',' :: rest) = (elements rest).map (d :: ·) := by
  by_cases hname : ∃ c ∈ s, ¬IsSeparator c
  · obtain ⟨r, hr⟩ := value_of_part hv (s.dropWhile isSeparator)
    have hread (rest : List Char) := elements_of_name hequals hname (v ++ ',' :: rest)
    simp only [hr _ (atBoundary_comma _)] at hread
    simp only [List.append_assoc, List.cons_append, hread]
    cases r with
    | error fault => exact .inl ⟨fault, fun _ => rfl⟩
    | ok text =>
      by_cases htext : text = []
      · subst htext
        exact .inl ⟨_, fun _ => rfl⟩
      · refine .inr ⟨(s.dropWhile isSeparator, text), ?_⟩
        intro rest
        simp [Except.map, htext]
  · have hsep : ∀ c ∈ s, IsSeparator c := by
      intro c hc
      exact Decidable.not_not.1 fun hother => hname ⟨c, hc, hother⟩
    refine .inl ⟨.emptyName, ?_⟩
    intro rest
    rw [List.append_assoc]
    exact elements_of_broken (.here hsep .emptyName)

/-- The reader stops in segments at a fault, or it comes to their end. There it has read some
directives, and what it has seen of the next name has no equals sign. -/
theorem elements_of_segments {before : List Char} (h : Segments before) :
    ∀ s, '=' ∉ s →
      (∃ fault, ∀ rest, elements (s ++ before ++ rest) = .error fault) ∨
      ∃ ds s', '=' ∉ s' ∧
        ∀ rest, elements (s ++ before ++ rest) = (elements (s' ++ rest)).map (ds ++ ·) := by
  induction h with
  | nil =>
    intro s hs
    refine .inr ⟨[], s, hs, ?_⟩
    intro rest
    rw [List.append_nil]
    cases elements (s ++ rest) <;> rfl
  | @cons text before segment tail ih =>
    intro s hs
    cases segment with
    | lone no_comma no_equals =>
      have hmore : '=' ∉ s ++ text ++ [','] := by
        simp [hs, no_equals]
      have hread := ih (s ++ text ++ [',']) hmore
      simpa using hread
    | @valued name part no_comma no_equals valuePart =>
      have hmore : '=' ∉ s ++ name := by
        simp [hs, no_equals]
      rcases elements_of_valued hmore valuePart with ⟨fault, hfault⟩ | ⟨d, hd⟩
      · refine .inl ⟨fault, ?_⟩
        intro rest
        have hread := hfault (before ++ rest)
        simpa using hread
      · have hrest (rest : List Char) :
            elements (s ++ (name ++ '=' :: part ++ ',' :: before) ++ rest) =
              (elements (before ++ rest)).map (d :: ·) := by
          rw [← hd]
          simp
        rcases ih [] (by simp) with ⟨fault, hfault⟩ | ⟨ds, s', hs', hds⟩
        · refine .inl ⟨fault, ?_⟩
          intro rest
          rw [hrest, ← List.nil_append before, hfault]
          rfl
        · refine .inr ⟨d :: ds, s', hs', ?_⟩
          intro rest
          rw [hrest, ← List.nil_append before, hds]
          cases elements (s' ++ rest) <;> rfl

private theorem value_eq_ok_of_name {name s : List Char} {r : List Char × List Char}
    (h : value name s = .ok r) (other : List Char) : value other s = .ok r := by
  cases s with
  | nil => exact h
  | cons c s =>
    rw [value] at h ⊢
    split at h
    · next hquote =>
      rw [if_pos hquote]
      rw [quotedValue] at h ⊢
      cases hread : unquote s with
      | none =>
        rw [hread] at h
        cases h
      | some read =>
        rw [hread] at h
        cases hrest : read.2.dropWhile isSpace with
        | nil =>
          simp only [hrest] at h ⊢
          exact h
        | cons a rest =>
          simp only [hrest] at h ⊢
          split at h
          · next hcomma =>
            rw [if_pos hcomma]
            exact h
          · cases h
    · next hbare =>
      rw [if_neg hbare]
      exact h

theorem of_elements_of_name {s rest : List Char} {ds : List Pair} (hequals : '=' ∉ s)
    (hname : ∃ c ∈ s, ¬IsSeparator c) (h : elements (s ++ '=' :: rest) = .ok ds) :
    ∃ text after tail, (∀ name, value name rest = .ok (text, after)) ∧ text ≠ [] ∧
      elements (after.drop 1) = .ok tail ∧ ds = (s.dropWhile isSeparator, text) :: tail := by
  rw [elements_of_name hequals hname] at h
  cases hvalue : value (s.dropWhile isSeparator) rest with
  | error fault =>
    rw [hvalue] at h
    cases h
  | ok r =>
    obtain ⟨text, after⟩ := r
    simp only [hvalue] at h
    split at h
    · cases h
    · next htext =>
      cases htail : elements (after.drop 1) with
      | error fault =>
        rw [htail] at h
        cases h
      | ok tail =>
        rw [htail] at h
        refine ⟨text, after, tail, value_eq_ok_of_name hvalue, ?_, htail, ?_⟩
        · simpa using htext
        · exact (Except.ok.inj h).symm

theorem accepted_of_name {s t rest : List Char} {ds : List Pair} (hs : '=' ∉ s)
    (hsname : ∃ c ∈ s, ¬IsSeparator c) (ht : '=' ∉ t) (htname : ∃ c ∈ t, ¬IsSeparator c)
    (h : elements (s ++ '=' :: rest) = .ok ds) :
    ∃ d es, elements (t ++ '=' :: rest) = .ok (d :: es) := by
  obtain ⟨text, after, tail, hvalue, htext, htail, -⟩ := of_elements_of_name hs hsname h
  refine ⟨(t.dropWhile isSeparator, text), tail, ?_⟩
  rw [elements_of_name ht htname, hvalue]
  simp only [List.isEmpty_eq_false_iff.2 htext, htail]
  rfl

end SaslClient.Scan

namespace SaslClient.Grammar

open Scan (elements)

variable {before name after : List Char}

theorem LoneName.not_separator (h : LoneName before name after) : ∃ c ∈ name, ¬IsSeparator c := by
  obtain ⟨c, hc, hblank⟩ := h.not_blank
  refine ⟨c, hc, ?_⟩
  rintro (rfl | hsep)
  · exact h.no_comma hc
  · exact hblank hsep

private theorem elements_behind {rest : List Char} {ds : List Pair} (h : Segments before)
    (hpayload : Payload (before ++ rest) ds) :
    ∃ es s fs, '=' ∉ s ∧ elements (s ++ rest) = .ok fs ∧ ds = es ++ fs ∧
      ∀ t, elements (before ++ t) = (elements (s ++ t)).map (es ++ ·) := by
  obtain ⟨hread, -⟩ := Scan.payload_iff.1 hpayload
  rcases Scan.elements_of_segments h [] (by simp) with ⟨fault, hfault⟩ | ⟨es, s, hs, hes⟩
  · rw [List.nil_append] at hfault
    rw [hfault] at hread
    cases hread
  · rw [List.nil_append] at hes
    cases hrest : elements (s ++ rest) with
    | error fault =>
      rw [hes, hrest] at hread
      cases hread
    | ok fs =>
      rw [hes, hrest] at hread
      exact ⟨es, s, fs, hs, hrest, (Except.ok.inj hread).symm, hes⟩

theorem LoneName.refused (h : LoneName before name after) (hequals : '=' ∉ after) (ds : List Pair) :
    ¬Payload (before ++ name ++ after) ds := by
  intro hpayload
  rw [List.append_assoc] at hpayload
  obtain ⟨es, s, fs, hs, hrest, -⟩ := elements_behind h.segments hpayload
  obtain ⟨c, hc, hsep⟩ := h.not_separator
  have hlone : '=' ∉ s ++ (name ++ after) := by
    simp [hs, h.no_equals, hequals]
  rw [Scan.elements_of_lone hlone ⟨c, by simp [hc], hsep⟩] at hrest
  cases hrest

private theorem payload_of_name {s t rest : List Char} {ds : List Pair} (h : Segments before)
    (hs : '=' ∉ s) (hsname : ∃ c ∈ s, ¬IsSeparator c) (ht : '=' ∉ t)
    (htname : ∃ c ∈ t, ¬IsSeparator c) (hpayload : Payload (before ++ (s ++ '=' :: rest)) ds) :
    ∃ es, Payload (before ++ (t ++ '=' :: rest)) es := by
  obtain ⟨es, p, fs, hp, hrest, -, hread⟩ := elements_behind h hpayload
  have hmore {u : List Char} (hu : '=' ∉ u) (huname : ∃ c ∈ u, ¬IsSeparator c) :
      '=' ∉ p ++ u ∧ ∃ c ∈ p ++ u, ¬IsSeparator c := by
    obtain ⟨c, hc, hsep⟩ := huname
    exact ⟨by simp [hp, hu], c, by simp [hc], hsep⟩
  obtain ⟨hps, hpsname⟩ := hmore hs hsname
  obtain ⟨hpt, hptname⟩ := hmore ht htname
  rw [← List.append_assoc] at hrest
  obtain ⟨d, gs, hgs⟩ := Scan.accepted_of_name hps hpsname hpt hptname hrest
  refine ⟨es ++ d :: gs, Scan.payload_iff.2 ⟨?_, by simp⟩⟩
  rw [hread, ← List.append_assoc, hgs]
  rfl

private theorem IsName.not_separator {name : List Char} (h : IsName name) :
    ∃ c ∈ name, ¬IsSeparator c := by
  obtain ⟨c, cs, rfl⟩ := List.exists_cons_of_ne_nil h.ne_nil
  exact ⟨c, by simp, h.head c rfl⟩

/-- A name alone is read with all up to the next equals sign as any other name would be there. -/
theorem LoneName.payload_iff {gap rest other : List Char}
    (h : LoneName before name (gap ++ '=' :: rest)) (hgap : '=' ∉ gap) (hother : IsName other) :
    (∃ ds, Payload (before ++ name ++ (gap ++ '=' :: rest)) ds) ↔
      ∃ ds, Payload (before ++ other ++ '=' :: rest) ds := by
  obtain ⟨c, hc, hsep⟩ := h.not_separator
  have hequals : '=' ∉ name ++ gap := by
    simp [h.no_equals, hgap]
  have hname : ∃ c ∈ name ++ gap, ¬IsSeparator c := ⟨c, by simp [hc], hsep⟩
  have hjoined : before ++ name ++ (gap ++ '=' :: rest) =
      before ++ (name ++ gap ++ '=' :: rest) := by
    simp
  have hreplaced : before ++ other ++ '=' :: rest = before ++ (other ++ '=' :: rest) := by
    simp
  rw [hjoined, hreplaced]
  constructor
  · rintro ⟨ds, hds⟩
    exact payload_of_name h.segments hequals hname hother.no_equals hother.not_separator hds
  · rintro ⟨ds, hds⟩
    exact payload_of_name h.segments hother.no_equals hother.not_separator hequals hname hds

theorem LoneName.exists_comma {ds : List Pair} (h : LoneName before name after)
    (hpayload : Payload (before ++ name ++ after) ds) : ∃ d ∈ ds, ',' ∈ d.1 := by
  obtain ⟨c, hc, hsep⟩ := h.not_separator
  have hequals : '=' ∈ after := by
    by_contra hequals
    exact h.refused hequals ds hpayload
  obtain ⟨gap, rest, rfl, hgap⟩ := List.eq_append_cons_of_mem hequals
  have hcomma : ',' ∈ gap := by
    cases gap with
    | nil => exact absurd (h.boundary '=' rfl) (by decide)
    | cons a gap => simp [h.boundary a rfl]
  rw [List.append_assoc] at hpayload
  obtain ⟨es, s, fs, hs, hrest, rfl, -⟩ := elements_behind h.segments hpayload
  have hnone : '=' ∉ s ++ name ++ gap := by
    simp [hs, h.no_equals, hgap]
  have htext : s ++ (name ++ (gap ++ '=' :: rest)) = s ++ name ++ gap ++ '=' :: rest := by
    simp
  rw [htext] at hrest
  obtain ⟨text, rest', tail, -, -, -, rfl⟩ :=
    Scan.of_elements_of_name hnone ⟨c, by simp [hc], hsep⟩ hrest
  refine ⟨_, List.mem_append_right es List.mem_cons_self, ?_⟩
  have hbegun : (s ++ name).dropWhile Scan.isSeparator ≠ [] := by
    intro hnil
    have hall := List.dropWhile_eq_nil_iff.1 hnil c (List.mem_append_right s hc)
    exact hsep (Scan.isSeparator_iff.1 hall)
  rw [List.dropWhile_append, if_neg (by simpa using hbegun)]
  exact List.mem_append_right _ hcomma

private theorem exists_segments_of_directive {lead text : List Char} {d : Pair}
    (leads : ∀ c ∈ lead, IsSeparator c) (directive : Directive text d) (hcomma : ',' ∉ d.1) :
    Segments (lead ++ text ++ [',']) := by
  obtain ⟨before, last, rfl, hbefore, hlast⟩ := exists_segments (no_equals_of_separators leads)
  have hlast_equals : '=' ∉ last := by
    intro hc
    exact no_equals_of_separators leads (List.mem_append_right _ hc)
  cases directive with
  | @mk name raw v isName isValue =>
    have hpart : ValuePart raw := by
      cases isValue with
      | bare ne_nil no_comma head => exact .bare no_comma head
      | quoted escaped ne_nil blanks =>
        refine .quoted escaped fun hc => ?_
        have hblank := blanks ',' hc
        revert hblank
        unfold IsBlank
        decide
    have hsegment : Segment (last ++ name ++ '=' :: raw) :=
      .valued (by simp [hlast, hcomma]) (by simp [hlast_equals, isName.no_equals]) hpart
    have hsegments := hbefore.append (.cons hsegment .nil)
    simpa using hsegments

private theorem exists_loneName_of_comma {lead text : List Char} {d : Pair}
    (leads : ∀ c ∈ lead, IsSeparator c) (directive : Directive text d) (hcomma : ',' ∈ d.1)
    (rest : List Char) :
    ∃ before name after, lead ++ text ++ rest = before ++ name ++ after ∧
      LoneName before name after := by
  obtain ⟨before, last, rfl, hbefore, hlast⟩ := exists_segments (no_equals_of_separators leads)
  cases directive with
  | @mk whole raw v isName isValue =>
    obtain ⟨name, others, rfl, hname⟩ := List.eq_append_cons_of_mem hcomma
    refine ⟨before, last ++ name, ',' :: others ++ '=' :: raw ++ rest, by simp, hbefore, ?_, ?_, ?_,
      Scan.atBoundary_comma _⟩
    · simp [hlast, hname]
    · have hequals := no_equals_of_separators leads
      have hwhole := isName.no_equals
      simp only [List.mem_append, not_or] at hequals hwhole ⊢
      exact ⟨hequals.2, hwhole.1⟩
    · cases name with
      | nil => exact absurd (.inl rfl) (isName.head ',' rfl)
      | cons c name => exact ⟨c, by simp, fun hc => isName.head c rfl (.inr hc)⟩

theorem exists_loneName {s : List Char} {ds : List Pair} (h : Payload s ds)
    (hcomma : ∃ d ∈ ds, ',' ∈ d.1) :
    ∃ before name after, s = before ++ name ++ after ∧ LoneName before name after := by
  -- The first name with a comma counts, and what stands before it are segments.
  induction h with
  | last leads directive =>
    have hd := exists_loneName_of_comma leads directive (by simpa using hcomma) []
    simpa using hd
  | trailing leads directive trails =>
    exact exists_loneName_of_comma leads directive (by simpa using hcomma) _
  | @cons lead text rest d ds leads directive tail ih =>
    by_cases hd : ',' ∈ d.1
    · exact exists_loneName_of_comma leads directive hd _
    · have hlater : ∃ d ∈ ds, ',' ∈ d.1 := by simpa [hd] using hcomma
      obtain ⟨before, name, after, rfl, hlone⟩ := ih hlater
      have hsegments := (exists_segments_of_directive leads directive hd).append hlone.segments
      refine ⟨lead ++ text ++ [','] ++ before, name, after, by simp, ?_⟩
      exact ⟨hsegments, hlone.no_comma, hlone.no_equals, hlone.not_blank, hlone.boundary⟩

end SaslClient.Grammar

namespace SaslClient.Directives

open Grammar

theorem exists_get?_ofPairs {ds : List Pair} {name : String} :
    (∃ value, (ofPairs ds).get? name = some value) ↔ ∃ d ∈ ds, d.1 = name.toList := by
  simp only [get?_ofPairs, lastValue?]
  constructor
  · rintro ⟨value, h⟩
    obtain ⟨d, hd, -⟩ := Option.map_eq_some_iff.1 h
    have hname := List.find?_some hd
    exact ⟨d, List.mem_reverse.1 (List.mem_of_find?_eq_some hd), by simpa using hname⟩
  · rintro ⟨d, hd, hname⟩
    have hfound : (ds.reverse.find? (·.1 = name.toList)).isSome :=
      List.find?_isSome.2 ⟨d, List.mem_reverse.2 hd, by simpa using hname⟩
    obtain ⟨e, he⟩ := Option.isSome_iff_exists.1 hfound
    exact ⟨_, by rw [he]; rfl⟩

private theorem accepted_iff {cs : List Char} :
    (∃ m, parse (Utf8.encode cs) = .ok m) ↔ ∃ ds, Payload cs ds := by
  simp only [parse_encode_eq_ok_iff]
  constructor
  · rintro ⟨m, ds, hds, -⟩
    exact ⟨ds, hds⟩
  · rintro ⟨ds, hds⟩
    exact ⟨_, ds, hds, rfl⟩

private theorem refused_iff {payload : List UInt8} :
    (∃ error, parse payload = .error error) ↔ ¬∃ m, parse payload = .ok m := by
  cases parse payload <;> simp

/-- A name alone is refused if no equals sign follows it. Else it is read, with all up to that sign,
as any name would be read in that place, so nothing is wrong with it there. What is read has a name
with a comma exactly if its octets have a name alone. -/
theorem parse_loneName (cs : List Char) :
    (∀ before name after, cs = before ++ name ++ after → LoneName before name after →
      ('=' ∉ after → ∃ error, parse (Utf8.encode cs) = .error error) ∧
      ∀ gap rest, after = gap ++ '=' :: rest → '=' ∉ gap → ∀ other, IsName other →
        ((∃ m, parse (Utf8.encode cs) = .ok m) ↔
          ∃ m, parse (Utf8.encode (before ++ other ++ '=' :: rest)) = .ok m)) ∧
    ∀ m, parse (Utf8.encode cs) = .ok m →
      ((∃ key value, m.get? key = some value ∧ ',' ∈ key.toList) ↔
        ∃ before name after, cs = before ++ name ++ after ∧ LoneName before name after) := by
  constructor
  · rintro before name after rfl hlone
    constructor
    · intro hequals
      rw [refused_iff, accepted_iff]
      rintro ⟨ds, hds⟩
      exact hlone.refused hequals ds hds
    · rintro gap rest rfl hgap other hother
      rw [accepted_iff, accepted_iff]
      exact hlone.payload_iff hgap hother
  · intro m hm
    obtain ⟨ds, hds, rfl⟩ := parse_encode_eq_ok_iff.1 hm
    constructor
    · rintro ⟨key, value, hvalue, hcomma⟩
      obtain ⟨d, hd, hname⟩ := exists_get?_ofPairs.1 ⟨value, hvalue⟩
      exact exists_loneName hds ⟨d, hd, hname ▸ hcomma⟩
    · rintro ⟨before, name, after, rfl, hlone⟩
      obtain ⟨d, hd, hcomma⟩ := hlone.exists_comma hds
      obtain ⟨value, hvalue⟩ := exists_get?_ofPairs.2 ⟨d, hd, String.toList_ofList.symm⟩
      exact ⟨String.ofList d.1, value, hvalue, by simpa using hcomma⟩

private theorem loneName_nonce : LoneName "a=b,".toList "nonce".toList ",c=d".toList := by
  have hsegment : Segment ("a".toList ++ '=' :: "b".toList) :=
    .valued (by decide) (by decide) (.bare (by decide) (by simp))
  have hletter : ¬IsSeparator 'n' := by decide
  have hblank : ∃ c ∈ "nonce".toList, ¬IsBlank c := ⟨'n', by decide, fun hc => hletter (.inr hc)⟩
  refine ⟨.cons hsegment .nil, by decide, by decide, hblank, ?_⟩
  simp [AtBoundary]

theorem parse_loneName_nonce :
    LoneName "a=b,".toList "nonce".toList ",c=d".toList ∧
      ((∃ m, parse (Utf8.encode "a=b,nonce,c=d".toList) = .ok m) ↔
        ∃ m, parse (Utf8.encode "a=b,c=d".toList) = .ok m) := by
  refine ⟨loneName_nonce, ?_⟩
  have hread := (parse_loneName "a=b,nonce,c=d".toList).1 _ _ _ rfl loneName_nonce
  exact hread.2 ",c".toList "d".toList rfl (by decide) "c".toList (by decide)

/-- A name alone between two directives is not refused. -/
theorem parse_eq_ok_of_loneName :
    LoneName "a=b,".toList "nonce".toList ",c=d".toList ∧
      parse (Utf8.encode "a=b,nonce,c=d".toList) =
        .ok (Fields.ofList [("a", "b"), ("nonce,c", "d")]) :=
  ⟨loneName_nonce, by decide +kernel⟩

end SaslClient.Directives
