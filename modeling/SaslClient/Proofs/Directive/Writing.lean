import Mathlib.Data.List.Forall2
import SaslClient.Directive.Basic
import SaslClient.Proofs.Directive.Reading
/-!
# Reading what was written

A writer puts down items one after the other. What it writes is a payload of the grammar, so the
reader finds the items in it again: `Directives.parse_write`. A writer that has finished starts
anew, so each text that it returns holds the items since the one before. An empty value in quotes
cannot be read, and the reader says which one is the first.
-/
namespace SaslClient.Directives

open Grammar

inductive Item
  | quoted (name value : String)
  | bare (name value : String)
deriving DecidableEq, Repr

namespace Item

def entry : Item → String × String
  | quoted name value => (name, value)
  | bare name value => (name, value)

def form : Item → String
  | quoted name value => name ++ "=\"" ++ String.ofList (escape value.toList) ++ "\""
  | bare name value => name ++ "=" ++ value

structure Valid (i : Item) : Prop where
  name : IsName i.entry.1.toList
  value : i.entry.2 ≠ ""
  bare : ∀ name value, i = .bare name value →
    ',' ∉ value.toList ∧ ∀ c ∈ value.toList.head?, c ≠ '"'

theorem valid_quoted {name value : String} (hname : IsName name.toList) (hvalue : value ≠ "") :
    (quoted name value).Valid :=
  ⟨hname, hvalue, by simp⟩

theorem valid_bare {name value : String} (hname : IsName name.toList) (hvalue : value ≠ "")
    (hcomma : ',' ∉ value.toList) (hhead : ∀ c ∈ value.toList.head?, c ≠ '"') :
    (bare name value).Valid := by
  refine ⟨hname, hvalue, ?_⟩
  intro n v h
  obtain ⟨-, rfl⟩ := Item.bare.inj h
  exact ⟨hcomma, hhead⟩

instance (i : Item) : Decidable i.Valid :=
  match i with
  | quoted name value =>
    decidable_of_iff (IsName name.toList ∧ value ≠ "")
      ⟨fun h => valid_quoted h.1 h.2, fun h => ⟨h.name, h.value⟩⟩
  | bare name value =>
    decidable_of_iff (IsName name.toList ∧ value ≠ "" ∧ ',' ∉ value.toList ∧
        value.toList.head? ≠ some '"')
      ⟨fun h => valid_bare h.1 h.2.1 h.2.2.1 fun _ hc heq => h.2.2.2 (heq ▸ hc),
        fun h => ⟨h.name, h.value, (h.bare name value rfl).1,
          fun hquote => (h.bare name value rfl).2 _ hquote rfl⟩⟩

def pair (i : Item) : Pair :=
  (i.entry.1.toList, i.entry.2.toList)

end Item

theorem escaped_escape (value : List Char) : Escaped (escape value) value := by
  induction value with
  | nil => exact .nil
  | cons c value ih =>
    rw [escape_cons]
    by_cases hc : c = '\\' ∨ c = '"'
    · rw [if_pos hc]
      exact .escape ih
    · rw [if_neg hc]
      exact .plain (fun h => hc (.inr h)) (fun h => hc (.inl h)) ih

/-- What stands in quotes ends at the first quote that is not escaped. -/
theorem eq_of_escape_append {v w rest other : List Char}
    (h : escape v ++ '"' :: rest = escape w ++ '"' :: other) : v = w ∧ rest = other := by
  have hv := Scan.unquote_of_escaped (escaped_escape v) rest
  rw [h, Scan.unquote_of_escaped (escaped_escape w) other] at hv
  obtain ⟨rfl, rfl⟩ := Prod.mk.inj (Option.some.inj hv)
  exact ⟨rfl, rfl⟩

private theorem toList_ne_nil {s : String} (h : s ≠ "") : s.toList ≠ [] := by
  intro hs
  exact h (String.toList_eq_nil_iff.1 hs)

theorem directive_of_valid {i : Item} (h : i.Valid) : Directive i.form.toList i.pair := by
  have hvalue := toList_ne_nil h.value
  cases i with
  | quoted name value =>
    have hform : (Item.quoted name value).form.toList =
        name.toList ++ '=' :: ('"' :: escape value.toList ++ ['"']) := by
      simp [Item.form, String.toList_append]
    rw [hform]
    exact .mk h.name (.quoted (escaped_escape _) hvalue (by simp))
  | bare name value =>
    have hform : (Item.bare name value).form.toList = name.toList ++ '=' :: value.toList := by
      simp [Item.form, String.toList_append]
    obtain ⟨hcomma, hhead⟩ := h.bare name value rfl
    rw [hform]
    exact .mk h.name (.bare hvalue hcomma hhead)

theorem form_ne_empty (i : Item) : i.form ≠ "" := by
  intro h
  have := congrArg String.toList h
  cases i <;> simp [Item.form, String.toList_append] at this

namespace Writer

def add (w : Writer) : Item → Writer
  | .quoted name value => w.quoted name value
  | .bare name value => w.bare name value

def addAll (w : Writer) (items : List Item) : Writer :=
  items.foldl add w

theorem add_eq (w : Writer) (i : Item) : w.add i = w.append i.form := by
  cases i <;> rfl

private theorem written_addAll_of_ne {w : Writer} (hw : w.written ≠ "") (items : List Item) :
    (w.addAll items).written = ",".intercalate (w.written :: items.map Item.form) := by
  induction items generalizing w with
  | nil => simp [addAll]
  | cons i items ih =>
    have hadd : (w.add i).written = w.written ++ "," ++ i.form := by
      rw [add_eq, append]
      exact if_neg hw
    have hne : (w.add i).written ≠ "" := by
      intro h
      have := congrArg String.toList (hadd.symm.trans h)
      simp [String.toList_append] at this
    change ((w.add i).addAll items).written = _
    rw [ih hne, hadd, List.map_cons]
    simp [String.append_assoc]

theorem written_addAll (items : List Item) :
    (({} : Writer).addAll items).written = ",".intercalate (items.map Item.form) := by
  cases items with
  | nil => rfl
  | cons i items =>
    have hfirst : (({} : Writer).add i).written = i.form := by
      rw [add_eq]
      rfl
    have hne : (({} : Writer).add i).written ≠ "" := hfirst ▸ form_ne_empty i
    change ((({} : Writer).add i).addAll items).written = _
    rw [written_addAll_of_ne hne, hfirst, List.map_cons]

end Writer

theorem intercalate_form (i j : Item) (items : List Item) :
    ",".intercalate ((i :: j :: items).map Item.form) =
      i.form ++ ("," ++ ",".intercalate ((j :: items).map Item.form)) := by
  rw [List.map_cons, List.map_cons, String.intercalate_cons_cons, String.append_assoc]

theorem intercalate_form_between {before after : List Item} (i : Item)
    (hbefore : before ≠ []) (hafter : after ≠ []) :
    ",".intercalate ((before ++ i :: after).map Item.form) =
      ",".intercalate (before.map Item.form) ++ "," ++ i.form ++ "," ++
        ",".intercalate (after.map Item.form) := by
  rw [List.map_append, List.map_cons,
    String.intercalate_append_of_ne_nil (mt List.map_eq_nil_iff.1 hbefore) (List.cons_ne_nil _ _),
    String.intercalate_cons_of_ne_nil (mt List.map_eq_nil_iff.1 hafter)]
  simp only [String.append_assoc]

theorem eq_of_intercalate_cons {i j k : Item} {items others : List Item}
    (h : ",".intercalate ((i :: j :: items).map Item.form) =
      ",".intercalate ((i :: k :: others).map Item.form)) :
    ",".intercalate ((j :: items).map Item.form) =
      ",".intercalate ((k :: others).map Item.form) := by
  rw [intercalate_form, intercalate_form, String.append_right_inj] at h
  exact (String.append_right_inj _).1 h

/-- If two lists are written alike and begin with a value in quotes under the same name, the value
is the same, and the others are written alike. -/
theorem eq_of_intercalate_quoted {name v w : String} {i j : Item} {items others : List Item}
    (h : ",".intercalate ((.quoted name v :: i :: items).map Item.form) =
      ",".intercalate ((.quoted name w :: j :: others).map Item.form)) :
    v = w ∧ ",".intercalate ((i :: items).map Item.form) =
      ",".intercalate ((j :: others).map Item.form) := by
  rw [intercalate_form, intercalate_form, ← String.toList_inj] at h
  simp only [Item.form, String.toList_append, String.toList_ofList, List.append_assoc,
    List.append_cancel_left_eq] at h
  obtain ⟨hvalue, hrest⟩ := eq_of_escape_append h
  exact ⟨String.toList_inj.1 hvalue, String.toList_inj.1 (List.cons.inj hrest).2⟩

private theorem payload_of_valid {items : List Item} (hne : items ≠ [])
    (h : ∀ i ∈ items, i.Valid) :
    Payload (",".intercalate (items.map Item.form)).toList (items.map (·.pair)) := by
  have noLead : ∀ c ∈ ([] : List Char), IsSeparator c := by simp
  induction items with
  | nil => exact absurd rfl hne
  | cons i items ih =>
    have hi := directive_of_valid (h i (by simp))
    cases items with
    | nil => simpa using Payload.last noLead hi
    | cons j items =>
      have hrest := ih (by simp) fun k hk => h k (List.mem_cons_of_mem _ hk)
      simpa [String.toList_append] using Payload.cons noLead hi hrest

theorem parse_write {items : List Item} (hne : items ≠ []) (h : ∀ i ∈ items, i.Valid) :
    parse (Utf8.bytes (({} : Writer).addAll items).written) =
      .ok (Fields.ofList (items.map (·.entry))) := by
  have hpairs : ofPairs (items.map (·.pair)) = Fields.ofList (items.map (·.entry)) := by
    rw [ofPairs, List.map_map]
    congr 1
    apply List.map_congr_left
    intro i _
    simp [Item.pair, String.ofList_toList]
  rw [Writer.written_addAll, Utf8.bytes, parse_encode]
  rw [parseText_of_payload (payload_of_valid hne h), hpairs]
  rfl

private theorem broken_of_empty {before after : List Item} {name : String}
    (hbefore : ∀ i ∈ before, i.Valid) (hname : IsName name.toList) :
    Broken (",".intercalate ((before ++ .quoted name "" :: after).map Item.form)).toList
      (.emptyValue name.toList) := by
  have noLead : ∀ c ∈ ([] : List Char), IsSeparator c := by simp
  have noBlank : ∀ c ∈ ([] : List Char), IsBlank c := by simp
  induction before with
  | nil =>
    -- The quotes are followed by the end, or by the comma before the next item.
    have hbroken (rest : List Char) (hrest : AtBoundary rest) :=
      Broken.here noLead (.emptyQuoted hname noBlank hrest)
    cases after with
    | nil =>
      simpa [Item.form, escape, String.toList_append] using hbroken [] (by simp [AtBoundary])
    | cons i after =>
      simpa [Item.form, escape, String.toList_append] using
        hbroken (',' :: (",".intercalate ((i :: after).map Item.form)).toList)
          (by simp [AtBoundary])
  | cons i before ih =>
    obtain ⟨hi, hbefore⟩ := List.forall_mem_cons.1 hbefore
    have hrest := Broken.later noLead (directive_of_valid hi) (ih hbefore)
    cases before with
    | nil => simpa [String.toList_append] using hrest
    | cons j before => simpa [String.toList_append] using hrest

/-- Of items in quotes, the first one without a value is to blame. -/
theorem parse_write_of_empty {before after : List Item} {name : String}
    (hbefore : ∀ i ∈ before, i.Valid) (hname : IsName name.toList) :
    parse (Utf8.bytes (({} : Writer).addAll (before ++ .quoted name "" :: after)).written) =
      .error (.malformed (.emptyValue name)) := by
  rw [Writer.written_addAll, Utf8.bytes, parse_encode]
  rw [parseText_of_malformed (.broken (broken_of_empty hbefore hname))]
  simp only [Scan.Fault.map, String.ofList_toList]
  rfl

/-! ## One text after the other -/

inductive Call
  | write (i : Item)
  | finish
deriving DecidableEq, Repr

def Call.Valid : Call → Prop
  | write i => i.Valid
  | finish => True

instance : DecidablePred Call.Valid := fun call =>
  match call with
  | .write i => inferInstanceAs (Decidable i.Valid)
  | .finish => inferInstanceAs (Decidable True)

namespace Writer

def returns (w : Writer) : List Call → List String
  | [] => []
  | .write i :: calls => (w.add i).returns calls
  | .finish :: calls => w.finish.1 :: w.finish.2.returns calls

theorem addAll_concat (w : Writer) (items : List Item) (i : Item) :
    w.addAll (items ++ [i]) = (w.addAll items).add i := by
  rw [addAll, addAll, List.foldl_append, List.foldl_cons, List.foldl_nil]

end Writer

/-- The items up to each call that finishes, from the one before it on; `pending` are those that
stand before all calls. -/
def batches (pending : List Item) : List Call → List (List Item)
  | [] => []
  | .write i :: calls => batches (pending ++ [i]) calls
  | .finish :: calls => pending :: batches [] calls

/-- The values of items under their names, put in one after the other. -/
def mapping (items : List Item) : Directives :=
  items.foldl (fun m i => m.insert i.entry.1 i.entry.2) ∅

theorem mapping_eq (items : List Item) : mapping items = Fields.ofList (items.map (·.entry)) := by
  rw [mapping, Fields.ofList, List.foldl_map]

theorem get?_mapping (items : List Item) (name : String) :
    (mapping items).get? name = (items.reverse.find? (·.entry.1 = name)).map (·.entry.2) := by
  rw [mapping_eq, Fields.get?_ofList, ← List.map_reverse, List.find?_map, Option.map_map]
  rfl

/-- A text from which the items are read, and nothing else. Without items there is nothing to read,
and the text is empty. -/
structure Transcribes (items : List Item) (text : String) : Prop where
  empty : items = [] → text = ""
  read : items ≠ [] → parse (Utf8.bytes text) = .ok (mapping items)
  last : ∀ d, parse (Utf8.bytes text) = .ok d → ∀ name,
    d.get? name = (items.reverse.find? (·.entry.1 = name)).map (·.entry.2)

private theorem transcribes_written {items : List Item} (h : ∀ i ∈ items, i.Valid) :
    Transcribes items (({} : Writer).addAll items).written := by
  have hread (hne : items ≠ []) :
      parse (Utf8.bytes (({} : Writer).addAll items).written) = .ok (mapping items) := by
    rw [mapping_eq]
    exact parse_write hne h
  refine ⟨?_, hread, ?_⟩
  · rintro rfl
    rfl
  · intro d hd name
    have hne : items ≠ [] := by
      rintro rfl
      have hrefused : parse (Utf8.bytes "") = .error (.malformed .emptyName) := by decide +kernel
      cases hrefused.symm.trans hd
    rw [hread hne, Except.ok.injEq] at hd
    rw [← hd, get?_mapping]

private theorem transcribes_returns {pending : List Item} {calls : List Call}
    (hpending : ∀ i ∈ pending, i.Valid) (h : ∀ call ∈ calls, call.Valid) :
    List.Forall₂ Transcribes (batches pending calls)
      ((({} : Writer).addAll pending).returns calls) := by
  -- What was written since the last text are the items that are pending.
  induction calls generalizing pending with
  | nil => exact .nil
  | cons call calls ih =>
    obtain ⟨hcall, hcalls⟩ := List.forall_mem_cons.1 h
    cases call with
    | write i =>
      have hmore : ∀ j ∈ pending ++ [i], j.Valid := by
        intro j hj
        rcases List.mem_append.1 hj with hj | hj
        · exact hpending j hj
        · obtain rfl := List.mem_singleton.1 hj
          exact hcall
      have hrest := ih hmore hcalls
      rw [Writer.addAll_concat] at hrest
      exact hrest
    | finish => exact .cons (transcribes_written hpending) (ih (by simp) hcalls)

/-- Each text that a writer returns reads back as the items written since the one before. -/
theorem returns_read_back {calls : List Call} (h : ∀ call ∈ calls, call.Valid) :
    List.Forall₂ Transcribes (batches [] calls) (({} : Writer).returns calls) :=
  transcribes_returns (by simp) h

theorem returns_read_back_escaped :
    let calls : List Call :=
      [.finish, .write (.quoted "re,alm" "ą\"b\\c,=é"), .write (.bare "qop" "a\"=b "), .finish,
        .write (.bare "nc" "1"), .write (.quoted "nc" " "), .finish]
    (∀ call ∈ calls, call.Valid) ∧
      List.Forall₂ Transcribes (batches [] calls) (({} : Writer).returns calls) := by
  intro calls
  have hvalid : ∀ call ∈ calls, call.Valid := by decide
  exact ⟨hvalid, returns_read_back hvalid⟩

end SaslClient.Directives
