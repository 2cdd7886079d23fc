/-!
# Fields

Texts under names. A name has one text, a later one replaces it, and the fields stand in the order
of their names, so that two collections with the same texts under the same names are equal.
-/
namespace SaslClient

private theorem pairwise_lt_nil : ([] : List (String × String)).Pairwise (·.1 < ·.1) :=
  List.Pairwise.nil

/-- Texts under names, in the strict order of the names. -/
structure Fields where
  entries : List (String × String) := []
  sorted : entries.Pairwise (·.1 < ·.1) := by exact pairwise_lt_nil

namespace Fields

@[ext] theorem ext {f g : Fields} (h : f.entries = g.entries) : f = g := by
  cases f
  cases g
  simpa using h

instance : DecidableEq Fields := fun f g =>
  decidable_of_iff (f.entries = g.entries) ⟨ext, fun h => h ▸ rfl⟩

instance : EmptyCollection Fields := ⟨{}⟩

instance : Inhabited Fields := ⟨∅⟩

def insertEntry (name value : String) : List (String × String) → List (String × String)
  | [] => [(name, value)]
  | (n, v) :: rest =>
    if name < n then (name, value) :: (n, v) :: rest
    else if name = n then (name, value) :: rest
    else (n, v) :: insertEntry name value rest

theorem mem_insertEntry {name value : String} {entries : List (String × String)}
    {entry : String × String} (h : entry ∈ insertEntry name value entries) :
    entry = (name, value) ∨ entry ∈ entries := by
  induction entries with
  | nil => simpa [insertEntry] using h
  | cons first rest ih =>
    simp only [insertEntry] at h
    split at h
    · simpa using h
    · split at h
      · rcases List.mem_cons.1 h with h | h
        · exact .inl h
        · exact .inr (List.mem_cons_of_mem _ h)
      · rcases List.mem_cons.1 h with h | h
        · exact .inr (h ▸ List.mem_cons_self)
        · exact (ih h).imp_right (List.mem_cons_of_mem _)

theorem pairwise_insertEntry (name value : String) {entries : List (String × String)}
    (h : entries.Pairwise (·.1 < ·.1)) :
    (insertEntry name value entries).Pairwise (·.1 < ·.1) := by
  induction entries with
  | nil => simp [insertEntry]
  | cons first rest ih =>
    obtain ⟨hfirst, hrest⟩ := List.pairwise_cons.1 h
    simp only [insertEntry]
    split
    · next hlt =>
      refine List.pairwise_cons.2 ⟨fun entry hentry => ?_, h⟩
      rcases List.mem_cons.1 hentry with rfl | hentry
      · exact hlt
      · exact String.lt_trans hlt (hfirst _ hentry)
    · next hlt =>
      split
      · next heq =>
        subst heq
        exact List.pairwise_cons.2 ⟨hfirst, hrest⟩
      · next hne =>
        refine List.pairwise_cons.2 ⟨fun entry hentry => ?_, ih hrest⟩
        rcases mem_insertEntry hentry with rfl | hentry
        · exact Std.lt_of_le_of_ne (String.not_lt.1 hlt) (Ne.symm hne)
        · exact hfirst _ hentry

def insert (f : Fields) (name value : String) : Fields :=
  ⟨insertEntry name value f.entries, pairwise_insertEntry name value f.sorted⟩

def lookup? (name : String) : List (String × String) → Option String
  | [] => none
  | (n, v) :: rest => if name = n then some v else lookup? name rest

def get? (f : Fields) (name : String) : Option String :=
  lookup? name f.entries

def size (f : Fields) : Nat :=
  f.entries.length

def isEmpty (f : Fields) : Bool :=
  f.entries.isEmpty

/-- The texts of a list under their names, the last one where a name comes back. -/
def ofList (entries : List (String × String)) : Fields :=
  entries.foldl (fun f (name, value) => f.insert name value) ∅

@[simp] theorem get?_empty (name : String) : (∅ : Fields).get? name = none :=
  rfl

private theorem lookup?_eq_none_of_lt {name : String} {entries : List (String × String)}
    (h : ∀ entry ∈ entries, name < entry.1) : lookup? name entries = none := by
  induction entries with
  | nil => rfl
  | cons first rest ih =>
    have hne : name ≠ first.1 := fun heq =>
      String.lt_irrefl _ (heq ▸ h first List.mem_cons_self)
    rw [lookup?, if_neg hne, ih fun entry hentry => h _ (List.mem_cons_of_mem _ hentry)]

private theorem lookup?_insertEntry (name value other : String)
    (entries : List (String × String)) :
    lookup? other (insertEntry name value entries) =
      if other = name then some value else lookup? other entries := by
  induction entries with
  | nil => rfl
  | cons first rest ih =>
    simp only [insertEntry]
    split
    · rfl
    · split
      · next heq =>
        subst heq
        by_cases hn : other = first.1 <;> simp [lookup?, hn]
      · next hne =>
        simp only [lookup?, ih]
        by_cases hn : other = name
        · subst hn
          simp [hne]
        · simp [hn]

theorem get?_insert (f : Fields) (name value other : String) :
    (f.insert name value).get? other = if other = name then some value else f.get? other :=
  lookup?_insertEntry name value other f.entries

theorem isEmpty_insert (f : Fields) (name value : String) :
    (f.insert name value).isEmpty = false := by
  cases hempty : (f.insert name value).isEmpty with
  | false => rfl
  | true =>
    have hget := get?_insert f name value name
    rw [isEmpty, List.isEmpty_iff] at hempty
    rw [get?, hempty, if_pos rfl] at hget
    cases hget

private theorem get?_foldl_insert (entries : List (String × String)) (f : Fields) (name : String) :
    (entries.foldl (fun f (name, value) => f.insert name value) f).get? name =
      ((entries.reverse.find? (·.1 = name)).map (·.2)).or (f.get? name) := by
  induction entries generalizing f with
  | nil => rfl
  | cons entry rest ih =>
    rw [List.foldl_cons, ih, get?_insert, List.reverse_cons, List.find?_append]
    cases rest.reverse.find? (·.1 = name) with
    | some later => rfl
    | none =>
      by_cases hn : name = entry.1
      · simp [hn]
      · simp [hn, Ne.symm hn]

theorem get?_ofList (entries : List (String × String)) (name : String) :
    (ofList entries).get? name = (entries.reverse.find? (·.1 = name)).map (·.2) := by
  rw [ofList, get?_foldl_insert, get?_empty, Option.or_none]

private theorem perm_insertEntry {name : String} (value : String)
    {entries : List (String × String)} (h : ∀ entry ∈ entries, entry.1 ≠ name) :
    (insertEntry name value entries).Perm ((name, value) :: entries) := by
  induction entries with
  | nil => exact .refl _
  | cons first rest ih =>
    obtain ⟨hfirst, hrest⟩ := List.forall_mem_cons.1 h
    simp only [insertEntry]
    split
    · exact .refl _
    · rw [if_neg (Ne.symm hfirst)]
      exact ((ih hrest).cons first).trans (.swap _ _ _)

/-- Of names that do not come back, no text is replaced. -/
theorem perm_entries_ofList {entries : List (String × String)}
    (h : (entries.map (·.1)).Nodup) : (ofList entries).entries.Perm entries := by
  have hinto : ∀ f : Fields, ((entries ++ f.entries).map (·.1)).Nodup →
      (entries.foldl (fun f (name, value) => f.insert name value) f).entries.Perm
        (entries ++ f.entries) := by
    clear h
    induction entries with
    | nil => exact fun f _ => .refl _
    | cons entry rest ih =>
      intro f hnames
      rw [List.cons_append, List.map_cons, List.nodup_cons] at hnames
      obtain ⟨hnew, hnames⟩ := hnames
      have hinsert : (f.insert entry.1 entry.2).entries.Perm (entry :: f.entries) := by
        apply perm_insertEntry
        intro other hother hname
        exact hnew (List.mem_map.2 ⟨other, List.mem_append_right _ hother, hname⟩)
      have hmiddle := (hinsert.append_left rest).trans List.perm_middle
      rw [List.foldl_cons]
      refine (ih _ ?_).trans hmiddle
      exact ((hmiddle.map _).nodup_iff).2 (List.nodup_cons.2 ⟨hnew, hnames⟩)
  have hempty : (∅ : Fields).entries = [] := rfl
  have hall := hinto ∅
  rw [hempty, List.append_nil] at hall
  exact hall h

private theorem entries_eq_of_lookup? {es fs : List (String × String)}
    (hes : es.Pairwise (·.1 < ·.1)) (hfs : fs.Pairwise (·.1 < ·.1))
    (h : ∀ name, lookup? name es = lookup? name fs) : es = fs := by
  induction es generalizing fs with
  | nil =>
    cases fs with
    | nil => rfl
    | cons f fs => simpa [lookup?] using h f.1
  | cons e es ih =>
    obtain ⟨he, hes⟩ := List.pairwise_cons.1 hes
    cases fs with
    | nil => simpa [lookup?] using h e.1
    | cons f fs =>
      obtain ⟨hf, hfs⟩ := List.pairwise_cons.1 hfs
      have before {a b : String × String} {rest : List (String × String)} (hlt : a.1 < b.1)
          (hb : ∀ c ∈ rest, b.1 < c.1) : lookup? a.1 (b :: rest) = none :=
        lookup?_eq_none_of_lt fun c hc => by
          rcases List.mem_cons.1 hc with rfl | hc
          · exact hlt
          · exact String.lt_trans hlt (hb c hc)
      have hname : e.1 = f.1 := by
        rcases Decidable.em (e.1 = f.1) with heq | hne
        · exact heq
        · rcases Decidable.em (e.1 < f.1) with hlt | hge
          · have := h e.1
            rw [before hlt hf] at this
            simp [lookup?] at this
          · have hlt := Std.lt_of_le_of_ne (String.not_lt.1 hge) (Ne.symm hne)
            have := h f.1
            rw [before hlt he] at this
            simp [lookup?] at this
      have hvalue : e.2 = f.2 := by
        have := h e.1
        simpa [lookup?, hname] using this
      have hrest : es = fs := by
        refine ih hes hfs fun name => ?_
        have := h name
        simp only [lookup?, ← hname] at this
        by_cases hn : name = e.1
        · subst hn
          rw [lookup?_eq_none_of_lt he, lookup?_eq_none_of_lt (hname ▸ hf)]
        · simpa [hn] using this
      rw [hrest, show e = f from Prod.ext hname hvalue]

theorem ext_get? {f g : Fields} (h : ∀ name, f.get? name = g.get? name) : f = g :=
  ext (entries_eq_of_lookup? f.sorted g.sorted h)

theorem ofList_of_perm {entries : List (String × String)} {f : Fields}
    (h : entries.Perm f.entries) : ofList entries = f := by
  apply ext
  have hnames : (f.entries.map (·.1)).Nodup := by
    rw [List.Nodup, List.pairwise_map]
    apply f.sorted.imp
    intro entry other hlt heq
    exact String.lt_irrefl _ (heq ▸ hlt)
  have hperm := (perm_entries_ofList ((h.map _).nodup_iff.2 hnames)).trans h
  apply List.Perm.eq_of_pairwise _ (ofList entries).sorted f.sorted hperm
  intro entry other _ _ hlt hgt
  exact absurd (String.lt_trans hlt hgt) (String.lt_irrefl _)

theorem ofList_entries (f : Fields) : ofList f.entries = f :=
  ofList_of_perm (.refl _)

theorem ofList_ne_empty {entries : List (String × String)} (h : entries ≠ []) :
    ofList entries ≠ ∅ := by
  obtain ⟨last, earlier, hreverse⟩ := List.exists_cons_of_ne_nil (mt List.reverse_eq_nil_iff.1 h)
  intro hempty
  have hlast := get?_ofList entries last.1
  rw [hempty, get?_empty, hreverse] at hlast
  simp at hlast

theorem mem_of_mem_ofList {entries : List (String × String)} {entry : String × String}
    (h : entry ∈ (ofList entries).entries) : entry ∈ entries := by
  have hinto : ∀ f : Fields,
      entry ∈ (entries.foldl (fun f (name, value) => f.insert name value) f).entries →
        entry ∈ entries ∨ entry ∈ f.entries := by
    clear h
    induction entries with
    | nil => exact fun f h => .inr h
    | cons first rest ih =>
      intro f h
      rcases ih _ h with hrest | hinsert
      · exact .inl (List.mem_cons_of_mem _ hrest)
      · rcases mem_insertEntry hinsert with rfl | hf
        · exact .inl List.mem_cons_self
        · exact .inr hf
  exact (hinto ∅ h).resolve_right List.not_mem_nil

def override (f g : Fields) : Fields :=
  g.entries.foldl (fun f (name, value) => f.insert name value) f

theorem get?_override (f g : Fields) (name : String) :
    (f.override g).get? name = (g.get? name).or (f.get? name) := by
  rw [override, get?_foldl_insert, ← get?_ofList, ofList_entries]

end Fields

end SaslClient
