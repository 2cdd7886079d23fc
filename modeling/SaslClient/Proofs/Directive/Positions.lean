import Mathlib.Data.List.Chain
import SaslClient.Proofs.Directive.Quoting
/-!
# Positions in a payload

The cursor moves over octets, and what it cuts out has to be text. Every position that it cuts at
lies between two characters: the tests that it makes do the same to each octet of a character that
they would do to the character, and the octets that stand for something are characters of their own.
So each function of the cursor is followed on the characters before and behind its position, and the
result is that of the reader of characters.
-/
namespace SaslClient.Cursor

open Scan (Fault Agree Uniform AtComma isComma isEquals isQuote isSpace isSeparator)

/-- A position between two characters of a text: `before` stands before it, and `rest` behind it. -/
structure At (cs : List Char) (pos : Nat) (before rest : List Char) : Prop where
  split : cs = before ++ rest
  pos_eq : pos = (Utf8.encode before).length

def IsBoundary (cs : List Char) (pos : Nat) : Prop :=
  ∃ before rest, At cs pos before rest

/-- A slice that lies in a text and cuts no character. -/
structure Slice.Sound (cs : List Char) (slice : Slice) : Prop where
  le : slice.start ≤ slice.stop
  inside : slice.stop ≤ (Utf8.encode cs).length
  start : IsBoundary cs slice.start
  stop : IsBoundary cs slice.stop

section

variable {cs before mid rest : List Char} {pos stop : Nat} {c : Char} {p : UInt8 → Bool}
  {q : Char → Bool}

theorem At.isBoundary (h : At cs pos before rest) : IsBoundary cs pos :=
  ⟨before, rest, h⟩

theorem At.drop_eq (h : At cs pos before rest) : (Utf8.encode cs).drop pos = Utf8.encode rest := by
  rw [h.split, Utf8.encode_append, h.pos_eq, List.drop_left]

theorem At.length_eq (h : At cs pos before rest) :
    (Utf8.encode cs).length = pos + (Utf8.encode rest).length := by
  rw [h.split, Utf8.encode_append, List.length_append, h.pos_eq]

theorem IsBoundary.le (h : IsBoundary cs pos) : pos ≤ (Utf8.encode cs).length := by
  obtain ⟨before, rest, h⟩ := h
  rw [h.length_eq]
  exact Nat.le_add_right _ _

theorem At.eq_length_iff (h : At cs pos before rest) :
    pos = (Utf8.encode cs).length ↔ rest = [] := by
  rw [h.length_eq, Nat.left_eq_add, List.length_eq_zero_iff, Utf8.encode_eq_nil_iff]

theorem At.lt_length_iff (h : At cs pos before rest) :
    pos < (Utf8.encode cs).length ↔ rest ≠ [] := by
  rw [ne_eq, ← h.eq_length_iff]
  exact ⟨Nat.ne_of_lt, Nat.lt_of_le_of_ne h.isBoundary.le⟩

theorem At.forward (h : At cs pos before (mid ++ rest)) :
    At cs (pos + (Utf8.encode mid).length) (before ++ mid) rest := by
  refine ⟨?_, ?_⟩
  · rw [h.split, List.append_assoc]
  · rw [Utf8.encode_append, List.length_append, h.pos_eq]

/-- A test that octets and characters agree on has the same outcome on the next of each. -/
theorem At.test (h : At cs pos before rest) (htest : Uniform p q) :
    (Utf8.encode cs)[pos]?.any p = rest.head?.any q := by
  have hhead : (Utf8.encode cs)[pos]? = (Utf8.encode rest).head? := by
    rw [← h.drop_eq, List.head?_drop]
  rw [hhead]
  cases rest with
  | nil => rfl
  | cons c rest =>
    obtain ⟨b, bs, hb⟩ : ∃ b bs, String.utf8EncodeChar c = b :: bs :=
      List.exists_cons_of_ne_nil String.utf8EncodeChar_ne_nil
    rw [Utf8.encode_cons, hb]
    exact htest c b (hb ▸ List.mem_cons_self)

theorem At.next (h : At cs pos before (c :: rest)) (hagree : Agree p q) (hc : q c = true) :
    At cs (pos + 1) (before ++ [c]) rest := by
  obtain ⟨b, hb, -⟩ := hagree.octet hc
  have hone : (Utf8.encode [c]).length = 1 := by
    rw [Utf8.encode_cons, hb]
    rfl
  rw [← hone]
  exact At.forward h

theorem skip_eq (test : UInt8 → Bool) (payload : List UInt8) (pos : Nat) :
    skip test payload pos = pos + ((payload.drop pos).takeWhile test).length := by
  fun_induction skip test payload pos with
  | case1 pos h htest ih =>
    rw [ih, List.drop_eq_getElem_cons h, List.takeWhile_cons_of_pos htest, List.length_cons]
    omega
  | case2 pos h htest =>
    rw [List.drop_eq_getElem_cons h, List.takeWhile_cons_of_neg htest]
    rfl
  | case3 pos h =>
    rw [List.drop_eq_nil_of_le (Nat.le_of_not_lt h)]
    rfl

theorem At.skip (h : At cs pos before rest) (htest : Uniform p q) :
    At cs (skip p (Utf8.encode cs) pos) (before ++ rest.takeWhile q) (rest.dropWhile q) := by
  rw [skip_eq, h.drop_eq, Scan.takeWhile_encode htest]
  exact At.forward (List.takeWhile_append_dropWhile.symm ▸ h)

theorem At.slice {after : List Char} (h : At cs pos before rest)
    (h' : At cs stop (before ++ mid) after) :
    Slice.Sound cs ⟨pos, stop⟩ ∧ Slice.text (Utf8.encode cs) ⟨pos, stop⟩ = String.ofList mid := by
  have hstop : stop = pos + (Utf8.encode mid).length := by
    rw [h'.pos_eq, h.pos_eq, Utf8.encode_append, List.length_append]
  have hrest : rest = mid ++ after := by
    apply List.append_cancel_left
    rw [← h.split, h'.split, List.append_assoc]
  refine ⟨⟨hstop ▸ Nat.le_add_right _ _, h'.isBoundary.le, h.isBoundary, h'.isBoundary⟩, ?_⟩
  rw [Slice.text, Slice.octets, h.drop_eq, hstop, Nat.add_sub_cancel_left, hrest,
    Utf8.encode_append, List.take_left, Utf8.text_encode]

/-! ## One round -/

structure Reading.Follows (cs : List Char) (reading : Reading)
    (result : Except (Fault (List Char)) (List Char × List Char)) : Prop where
  slices : ∀ slice ∈ reading.slices, slice.Sound cs
  boundary : IsBoundary cs reading.stop
  value : reading.value =
    (result.map fun (value, _) => String.ofList value).mapError (Fault.map String.ofList)
  rest : ∀ value rest, result = .ok (value, rest) → ∃ before, At cs reading.stop before rest

theorem Reading.Follows.of_error {reading : Reading} {fault : Fault (List Char)}
    (hslices : ∀ slice ∈ reading.slices, slice.Sound cs) (hstop : IsBoundary cs reading.stop)
    (hvalue : reading.value = .error (fault.map String.ofList)) :
    reading.Follows cs (.error fault) := by
  refine ⟨hslices, hstop, hvalue, ?_⟩
  rintro _ _ ⟨⟩

theorem follows_bareValue (h : At cs pos before rest) :
    (bareValue (Utf8.encode cs) pos).Follows cs (.ok (Scan.bareValue rest)) := by
  have hstop := h.skip Scan.agree_isComma.uniform.not
  obtain ⟨hsound, htext⟩ := h.slice hstop
  refine ⟨?_, hstop.isBoundary, ?_, ?_⟩
  · simpa [bareValue] using hsound
  · exact congrArg Except.ok htext
  · rintro _ _ ⟨⟩
    exact ⟨_, hstop⟩

private theorem quotedValue_of_closed {raw value : List Char} (h : Grammar.Escaped raw value)
    (name after : List Char) :
    Scan.quotedValue name (raw ++ '"' :: after) =
      if (after.dropWhile isSpace).head?.any (!isComma ·) then .error (.trailingData name)
      else .ok (value, after.dropWhile isSpace) := by
  rw [Scan.quotedValue, Scan.unquote_of_escaped h]
  dsimp only
  cases after.dropWhile isSpace with
  | nil => rfl
  | cons c rest => cases hc : isComma c <;> simp [hc]

theorem follows_quotedValue (name : List Char) (h : At cs pos before rest) :
    (quotedValue (Utf8.encode cs) (String.ofList name) pos).Follows cs
      (Scan.quotedValue name rest) := by
  have hend : At cs (Utf8.encode cs).length (before ++ rest) [] :=
    ⟨by rw [h.split, List.append_nil], by rw [h.split]⟩
  obtain ⟨hsound, htext⟩ := h.slice hend
  have hslices : ∀ slice ∈ [(⟨pos, (Utf8.encode cs).length⟩ : Slice)], slice.Sound cs := by
    simpa using hsound
  rw [quotedValue]
  dsimp only
  rw [htext]
  rcases Scan.closed_or_unclosed rest with ⟨raw, value, after, rfl, hraw⟩ | hrest
  · rw [unquote_of_escaped hraw, quotedValue_of_closed hraw]
    dsimp only
    have hclosed : At cs (pos + ((Utf8.encode raw).length + 1)) (before ++ raw ++ ['"']) after := by
      rw [← Nat.add_assoc]
      exact (At.forward h).next Scan.agree_isQuote (by decide)
    have hblank := hclosed.skip Scan.agree_isSpace.uniform
    rw [hblank.test Scan.agree_isComma.uniform.not]
    split
    · exact .of_error hslices hblank.isBoundary rfl
    · refine ⟨hslices, hblank.isBoundary, rfl, ?_⟩
      rintro _ _ ⟨⟩
      exact ⟨_, hblank⟩
  · rw [unquote_of_unclosed hrest, Scan.quotedValue, Scan.unquote_of_unclosed hrest]
    exact .of_error hslices h.isBoundary rfl

theorem follows_value (name : List Char) (h : At cs pos before rest) :
    (value (Utf8.encode cs) (String.ofList name) pos).Follows cs (Scan.value name rest) := by
  rw [value, h.test Scan.agree_isQuote.uniform]
  cases rest with
  | nil => exact follows_bareValue h
  | cons c rest =>
    rw [Scan.value, List.head?_cons, Option.any_some]
    cases hc : isQuote c with
    | true =>
      rw [if_pos rfl, if_pos rfl]
      exact follows_quotedValue name (h.next Scan.agree_isQuote hc)
    | false => exact follows_bareValue h

def endingOf : Except (Fault (List Char)) ((List Char × List Char) × List Char) → Ending
  | .error fault => .fault (fault.map String.ofList)
  | .ok ((name, value), _) => .found (String.ofList name) (String.ofList value)

/-- The slices of a round are sound and it ends on a boundary, further on than it began if it reads
anything. -/
structure Round.Sound (cs : List Char) (r : Round) : Prop where
  slices : ∀ slice ∈ r.slices, slice.Sound cs
  boundary : IsBoundary cs r.stop
  progress : r.start < r.stop ∨ r.start = r.stop ∧ r.ending = .fault .emptyName

structure Round.Follows (cs : List Char) (r : Round)
    (result : Except (Fault (List Char)) ((List Char × List Char) × List Char)) : Prop where
  sound : r.Sound cs
  ending : r.ending = endingOf result
  rest : ∀ d rest, result = .ok (d, rest) → ∃ before, At cs r.stop before (rest.drop 1)

theorem Round.Follows.of_error {r : Round} {fault : Fault (List Char)} (hsound : r.Sound cs)
    (hending : r.ending = .fault (fault.map String.ofList)) : r.Follows cs (.error fault) := by
  refine ⟨hsound, hending, ?_⟩
  rintro _ _ ⟨⟩

section

variable {start : Nat} {slice : Slice} {reading : Reading} {name : List Char}

theorem follows_close_of_error {fault : Fault (List Char)} (hslice : slice.Sound cs)
    (hfollows : reading.Follows cs (.error fault)) (hlt : start < reading.stop) :
    (reading.close (Utf8.encode cs) start slice).Follows cs (.error fault) := by
  rw [Reading.close, hfollows.value]
  have hslices := List.forall_mem_cons.2 ⟨hslice, hfollows.slices⟩
  exact .of_error ⟨hslices, hfollows.boundary, .inl hlt⟩ rfl

theorem follows_close_of_ok {text after : List Char} (hslice : slice.Sound cs)
    (hname : slice.text (Utf8.encode cs) = String.ofList name)
    (hfollows : reading.Follows cs (.ok (text, after))) (hafter : AtComma after)
    (hlt : start < reading.stop) :
    (reading.close (Utf8.encode cs) start slice).Follows cs
      (if text.isEmpty then .error (.emptyValue name) else .ok ((name, text), after)) := by
  have hslices := List.forall_mem_cons.2 ⟨hslice, hfollows.slices⟩
  obtain ⟨before, hat⟩ := hfollows.rest text after rfl
  have hempty : (String.ofList text).isEmpty = text.isEmpty := by
    rw [Bool.eq_iff_iff, String.isEmpty_iff, List.isEmpty_iff, ← String.toList_eq_nil_iff,
      String.toList_ofList]
  rw [Reading.close, hfollows.value]
  simp only [Except.map, Except.mapError, hempty, hname]
  cases text.isEmpty with
  | true => exact .of_error ⟨hslices, hfollows.boundary, .inl hlt⟩ rfl
  | false =>
    simp only [Bool.false_eq_true, ↓reduceIte, hat.lt_length_iff]
    cases after with
    | nil =>
      refine ⟨⟨hslices, hat.isBoundary, .inl hlt⟩, rfl, ?_⟩
      rintro _ _ ⟨⟩
      exact ⟨before, hat⟩
    | cons c after =>
      have hnext := hat.next Scan.agree_isComma (hafter c after rfl)
      refine ⟨⟨hslices, hnext.isBoundary, .inl (Nat.lt_succ_of_lt hlt)⟩, rfl, ?_⟩
      rintro _ _ ⟨⟩
      exact ⟨_, hnext⟩

end

theorem follows_element {start : Nat} (h : At cs pos before rest) (hle : start ≤ pos) :
    (element (Utf8.encode cs) start pos).Follows cs (Scan.element rest) := by
  have hname := h.skip Scan.agree_isEquals.uniform.not
  obtain ⟨hsound, htext⟩ := h.slice hname
  have hempty : Cursor.skip (!isEquals ·) (Utf8.encode cs) pos = pos ↔
      (rest.takeWhile (!isEquals ·)).isEmpty = true := by
    rw [skip_eq, h.drop_eq, Scan.takeWhile_encode Scan.agree_isEquals.uniform.not,
      Nat.add_eq_left, List.length_eq_zero_iff, Utf8.encode_eq_nil_iff, List.isEmpty_iff]
  have hpos := le_skip (!isEquals ·) (Utf8.encode cs) pos
  rw [element, Scan.element]
  simp only [hempty, hname.eq_length_iff, htext]
  by_cases hnil : (rest.takeWhile (!isEquals ·)).isEmpty = true
  · rw [if_pos hnil, if_pos hnil]
    refine .of_error ⟨by simp, hname.isBoundary, ?_⟩ rfl
    rcases Nat.lt_or_eq_of_le (Nat.le_trans hle hpos) with hlt | heq
    · exact .inl hlt
    · exact .inr ⟨heq, rfl⟩
  · rw [if_neg hnil, if_neg hnil]
    have hlt := Nat.lt_of_le_of_ne hpos (Ne.symm (mt hempty.1 hnil))
    cases hrest : rest.dropWhile (!isEquals ·) with
    | nil =>
      rw [if_pos rfl]
      exact .of_error
        ⟨by simpa using hsound, hname.isBoundary, .inl (Nat.lt_of_le_of_lt hle hlt)⟩ rfl
    | cons c after =>
      rw [if_neg (by simp)]
      have hc : isEquals c = true := by
        have := List.head_dropWhile_not (p := (!isEquals ·)) (l := rest) (by simp [hrest])
        simpa [hrest] using this
      rw [hrest] at hname
      have hvalue := follows_value (rest.takeWhile (!isEquals ·))
        (hname.next Scan.agree_isEquals hc)
      have hstop := Nat.lt_of_le_of_lt (Nat.le_trans hle hpos) (le_stop_of_value (Utf8.encode cs)
        (String.ofList (rest.takeWhile (!isEquals ·))) _)
      dsimp only
      cases hread : Scan.value (rest.takeWhile (!isEquals ·)) after with
      | error fault =>
        rw [hread] at hvalue
        exact follows_close_of_error hsound hvalue hstop
      | ok read =>
        rw [hread] at hvalue
        exact follows_close_of_ok hsound htext hvalue (Scan.atComma_of_value hread) hstop

theorem follows_round {found : Directives} (h : At cs pos before rest)
    (hmore : found.isEmpty = true ∨ rest ≠ []) :
    (round (Utf8.encode cs) found pos).Sound cs ∧
      ((round (Utf8.encode cs) found pos).ending = .over ∧ found.isEmpty = false ∧
          rest.dropWhile isSeparator = [] ∨
        (rest.dropWhile isSeparator = [] → found.isEmpty = true) ∧
          (round (Utf8.encode cs) found pos).Follows cs
            (Scan.element (rest.dropWhile isSeparator))) := by
  have hname := h.skip Scan.agree_isSeparator.uniform
  have hle := le_skip isSeparator (Utf8.encode cs) pos
  rw [round]
  by_cases hover : rest.dropWhile isSeparator = [] ∧ found.isEmpty = false
  · have hlt : pos < Cursor.skip isSeparator (Utf8.encode cs) pos := by
      rw [hname.eq_length_iff.2 hover.1, h.lt_length_iff]
      exact hmore.resolve_left (by simp [hover.2])
    rw [if_pos ⟨hname.eq_length_iff.2 hover.1, hover.2⟩]
    exact ⟨⟨by simp, hname.isBoundary, .inl hlt⟩, .inl ⟨rfl, hover.2, hover.1⟩⟩
  · rw [if_neg (by rwa [hname.eq_length_iff])]
    have hfollows := follows_element hname hle
    refine ⟨hfollows.sound, .inr ⟨?_, hfollows⟩⟩
    intro hnil
    simpa [hnil] using hover

end

/-! ## All rounds -/

def insertAll (found : Directives) (ds : List (List Char × List Char)) : Directives :=
  ds.foldl (fun f (name, value) => f.insert (String.ofList name) (String.ofList value)) found

/-- The result of the rounds where the rest of the text is read as characters. -/
def resultOf (found : Directives) :
    Except (Fault (List Char)) (List (List Char × List Char)) → Except (Fault String) Directives
  | .error fault => .error (fault.map String.ofList)
  | .ok ds => if found.isEmpty ∧ ds = [] then .error .emptyName else .ok (insertAll found ds)

private theorem resultOf_of_over {found : Directives} {rest : List Char}
    (hfound : found.isEmpty = false) (hrest : rest.dropWhile isSeparator = []) :
    resultOf found (Scan.elements rest) = .ok found := by
  rw [Scan.elements_eq, hrest, resultOf, if_neg (by simp [hfound])]
  rfl

private theorem resultOf_of_fault {found : Directives} {rest : List Char}
    {fault : Fault (List Char)} (hfound : rest.dropWhile isSeparator = [] → found.isEmpty = true)
    (hfault : Scan.element (rest.dropWhile isSeparator) = .error fault) :
    resultOf found (Scan.elements rest) = .error (fault.map String.ofList) := by
  rw [Scan.elements_eq]
  cases hrest : rest.dropWhile isSeparator with
  | nil =>
    rw [hrest] at hfault
    cases hfault
    rw [resultOf, if_pos ⟨hfound hrest, rfl⟩]
    rfl
  | cons c after =>
    rw [hrest] at hfault
    simp only [hfault]
    rfl

private theorem resultOf_of_found {found : Directives} {rest name value after : List Char}
    (helement : Scan.element (rest.dropWhile isSeparator) = .ok ((name, value), after)) :
    resultOf found (Scan.elements rest) =
      resultOf (found.insert (String.ofList name) (String.ofList value))
        (Scan.elements (after.drop 1)) := by
  rw [Scan.elements_eq]
  cases hrest : rest.dropWhile isSeparator with
  | nil =>
    rw [hrest] at helement
    cases helement
  | cons c more =>
    rw [hrest] at helement
    simp only [helement]
    cases Scan.elements (after.drop 1) with
    | error fault => rfl
    | ok ds => simp [Except.map, resultOf, Fields.isEmpty_insert, insertAll]

private theorem of_found {cs before rest : List Char} {found : Directives} {pos : Nat}
    {name value : String} (h : At cs pos before rest)
    (hmore : found.isEmpty = true ∨ rest ≠ [])
    (hending : (round (Utf8.encode cs) found pos).ending = .found name value) :
    ∃ before after, At cs (round (Utf8.encode cs) found pos).stop before after ∧
      resultOf found (Scan.elements rest) =
        resultOf (found.insert name value) (Scan.elements after) := by
  obtain ⟨-, ⟨hover, -⟩ | ⟨-, hfollows⟩⟩ := follows_round h hmore
  · rw [hover] at hending
    cases hending
  · rw [hfollows.ending] at hending
    cases helement : Scan.element (rest.dropWhile isSeparator) with
    | error fault =>
      rw [helement] at hending
      cases hending
    | ok read =>
      rw [helement] at hending
      cases hending
      obtain ⟨before, hat⟩ := hfollows.rest _ _ helement
      exact ⟨before, _, hat, resultOf_of_found helement⟩

/-- All rounds are sound, and they come to what reading characters comes to. -/
theorem follows_rounds {cs before rest : List Char} {found : Directives} {pos : Nat}
    (h : At cs pos before rest) (hmore : found.isEmpty = true ∨ rest ≠ []) :
    (∀ r ∈ (rounds (Utf8.encode cs) found pos).1, r.Sound cs) ∧
      (rounds (Utf8.encode cs) found pos).2 = resultOf found (Scan.elements rest) := by
  have hround := follows_round h hmore
  generalize hpayload : Utf8.encode cs = payload
  fun_induction rounds payload found pos generalizing before rest with
  | case1 found pos hending =>
    subst hpayload
    refine ⟨by simpa using hround.1, ?_⟩
    obtain ⟨-, hfound, hrest⟩ | ⟨-, hfollows⟩ := hround.2
    · exact (resultOf_of_over hfound hrest).symm
    · rw [hfollows.ending] at hending
      cases helement : Scan.element (rest.dropWhile isSeparator) <;>
      · rw [helement] at hending
        cases hending
  | case2 found pos fault hending =>
    subst hpayload
    refine ⟨by simpa using hround.1, ?_⟩
    obtain ⟨hover, -⟩ | ⟨hfound, hfollows⟩ := hround.2
    · rw [hover] at hending
      cases hending
    · rw [hfollows.ending] at hending
      cases helement : Scan.element (rest.dropWhile isSeparator) with
      | ok read =>
        rw [helement] at hending
        cases hending
      | error fault =>
        rw [helement] at hending
        cases hending
        exact (resultOf_of_fault hfound helement).symm
  | case3 found pos name value hending hlt later result hlater ih =>
    subst hpayload
    obtain ⟨front, after, hat, hresult⟩ := of_found h hmore hending
    have hmore' : (found.insert name value).isEmpty = true ∨ after ≠ [] :=
      .inr (hat.lt_length_iff.1 hlt)
    have hlast := ih hat hmore' (follows_round hat hmore')
    rw [hlater] at hlast
    exact ⟨List.forall_mem_cons.2 ⟨hround.1, hlast.1⟩, hlast.2.trans hresult.symm⟩
  | case4 found pos name value hending hlt =>
    subst hpayload
    obtain ⟨front, after, hat, hresult⟩ := of_found h hmore hending
    obtain rfl : after = [] := Classical.not_not.1 (mt hat.lt_length_iff.2 hlt)
    refine ⟨by simpa using hround.1, hresult.symm ▸ ?_⟩
    exact (resultOf_of_over (Fields.isEmpty_insert found name value) rfl).symm

/-! ## The whole payload -/

private theorem start_eq (payload : List UInt8) (found : Directives) (start : Nat) :
    (round payload found start).start = start := by
  rw [round]
  split
  · rfl
  · rw [element]
    split
    · rfl
    · split
      · rfl
      · rw [Reading.close]
        split
        · rfl
        · dsimp only
          split <;> rfl

/-- Each round begins where the one before has ended, which is further on than that one began. -/
theorem isChain_rounds (payload : List UInt8) (found : Directives) (start : Nat) :
    (rounds payload found start).1.head?.map Round.start = some start ∧
      (rounds payload found start).1.IsChain fun r next =>
        next.start = r.stop ∧ r.start < next.start := by
  fun_induction rounds payload found start with
  | case1 found start hending => exact ⟨congrArg some (start_eq _ _ _), .singleton _⟩
  | case2 found start fault hending => exact ⟨congrArg some (start_eq _ _ _), .singleton _⟩
  | case3 found start name value hending hlt later result hlater ih =>
    rw [hlater] at ih
    obtain ⟨hhead, hchain⟩ := ih
    refine ⟨congrArg some (start_eq _ _ _), hchain.cons ?_⟩
    intro next hnext
    rw [hnext] at hhead
    have hnext := Option.some.inj hhead
    rw [hnext, start_eq]
    exact ⟨rfl, lt_stop_of_found hending⟩
  | case4 found start name value hending hlt =>
    exact ⟨congrArg some (start_eq _ _ _), .singleton _⟩

theorem parse_eq (payload : List UInt8) : parse payload = Directives.parse payload := by
  cases hdecode : Utf8.decode payload with
  | error reason => rw [parse, Directives.parse, hdecode]
  | ok cs =>
    obtain rfl := Utf8.decode_eq_ok_iff.1 hdecode
    have hstart : At cs 0 [] cs := ⟨rfl, rfl⟩
    have hrounds : (rounds (Utf8.encode cs) ∅ 0).2 = _ := (follows_rounds hstart (.inl rfl)).2
    rw [Directives.parse_encode, parse, hdecode, Directives.parseText, Scan.directives]
    dsimp only
    rw [hrounds]
    rcases Scan.elements cs with fault | _ | ⟨d, ds⟩
    · rfl
    · rfl
    · simp [resultOf, insertAll, Fields.ofList, List.foldl_map]

/-- The cursor reads a text in UTF-8 without a slice that begins or ends inside a character or
outside the text. Each round begins further on than the one before, and the last one reads on too
unless it fails because there is no name where it stands. The result is that of reading characters,
with the names that the faults tell. -/
theorem cursor_stays_on_boundaries (text : String) :
    let payload := Utf8.bytes text
    let trace := (rounds payload ∅ 0).1
    (∀ r ∈ trace, ∀ slice ∈ r.slices, slice.Sound text.toList) ∧
      trace.head?.map Round.start = some 0 ∧
      (trace.IsChain fun r next => next.start = r.stop ∧ r.start < next.start) ∧
      (∀ r ∈ trace, r.start < r.stop ∨ r.start = r.stop ∧ r.ending = .fault .emptyName) ∧
      (∀ r ∈ trace, r.stop ≤ payload.length) ∧
      parse payload = Directives.parse payload ∧
      parse payload = (Directives.parseText text.toList).mapError .malformed := by
  intro payload trace
  have hstart : At text.toList 0 [] text.toList := ⟨rfl, rfl⟩
  have hsound : ∀ r ∈ trace, r.Sound text.toList := (follows_rounds hstart (.inl rfl)).1
  obtain ⟨hhead, hchain⟩ := isChain_rounds payload ∅ 0
  refine ⟨fun r hr => (hsound r hr).slices, hhead, hchain, fun r hr => (hsound r hr).progress,
    fun r hr => (hsound r hr).boundary.le, parse_eq payload, ?_⟩
  rw [parse_eq]
  exact Directives.parse_encode text.toList

/-- Where there is no name, a round ends at the position at which it began. -/
theorem cursor_stays_without_name :
    ¬(∀ r ∈ (rounds (Utf8.bytes "") ∅ 0).1, r.start < r.stop) ∧
      ¬(∀ r ∈ (rounds (Utf8.bytes "a=b,=c") ∅ 0).1, r.start < r.stop) := by
  decide +kernel

theorem cursor_stays_on_boundaries_multibyte :
    let text := "é=\"\\€\",x=é"
    let r : Round := ⟨0, 10, [⟨0, 2⟩, ⟨4, 14⟩], .found "é" "€"⟩
    r ∈ (rounds (Utf8.bytes text) ∅ 0).1 ∧ (∀ slice ∈ r.slices, slice.Sound text.toList) ∧
      r.stop ≤ (Utf8.bytes text).length := by
  intro text r
  have hmem : r ∈ (rounds (Utf8.bytes text) ∅ 0).1 := by decide +kernel
  obtain ⟨hslices, -, -, -, hstop, -⟩ := cursor_stays_on_boundaries text
  exact ⟨hmem, hslices r hmem, hstop r hmem⟩

end SaslClient.Cursor
