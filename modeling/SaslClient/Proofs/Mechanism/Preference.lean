import SaslClient.Negotiation
/-!
# The preferred mechanism

Of the mechanisms that are on offer and may be used the preferred one is chosen:
`select_eq_some_iff`. So only the set of them counts, and not the order of the lists or what else
stands in them, and a longer offer never makes the choice worse.
-/
namespace SaslClient.Selection

variable {offered : List String} {allowed : List MechanismKind} {best : Option MechanismKind}
  {kind : MechanismKind} {name : String} {p q : MechanismKind → Prop}

def Available (offered : List String) (allowed : List MechanismKind) (kind : MechanismKind) : Prop :=
  kind.name ∈ offered ∧ kind ∈ allowed

/-- Of the mechanisms with a property, one that no other is preferred to. -/
def IsPreferred (p : MechanismKind → Prop) (kind : MechanismKind) : Prop :=
  p kind ∧ ∀ other, p other → other.preference ≤ kind.preference

private theorem isPreferred_congr (h : ∀ k, p k ↔ q k) : IsPreferred p kind ↔ IsPreferred q kind := by
  rw [funext fun k => propext (h k)]

private theorem isPreferred_or_iff {less more : MechanismKind} (hmore : p more)
    (hle : less.preference ≤ more.preference) :
    IsPreferred (fun k => less = k ∨ p k) kind ↔ IsPreferred p kind := by
  constructor
  · rintro ⟨hkind, hbest⟩
    refine ⟨?_, fun other hother => hbest other (.inr hother)⟩
    rcases hkind with rfl | hkind
    · have hge := hbest more (.inr hmore)
      rw [MechanismKind.preference_injective (Nat.le_antisymm hle hge)]
      exact hmore
    · exact hkind
  · rintro ⟨hkind, hbest⟩
    refine ⟨.inr hkind, ?_⟩
    rintro other (rfl | hother)
    · exact Nat.le_trans hle (hbest more hmore)
    · exact hbest other hother

private theorem isPreferred_better_iff (old new : MechanismKind) :
    IsPreferred (fun k => (if old.preference < new.preference then new else old) = k ∨ q k) kind ↔
      IsPreferred (fun k => old = k ∨ new = k ∨ q k) kind := by
  by_cases hlt : old.preference < new.preference
  · rw [if_pos hlt]
    exact (isPreferred_or_iff (p := fun k => new = k ∨ q k) (.inl rfl) (Nat.le_of_lt hlt)).symm
  · rw [if_neg hlt, isPreferred_congr fun k => or_left_comm]
    exact (isPreferred_or_iff (p := fun k => old = k ∨ q k) (.inl rfl) (Nat.le_of_not_lt hlt)).symm

theorem exists_isPreferred (h : p kind) : ∃ k, IsPreferred p k := by
  by_cases hdigest : p .digestMd5
  · refine ⟨.digestMd5, hdigest, ?_⟩
    intro other _
    cases other <;> decide
  · refine ⟨kind, h, ?_⟩
    intro other hother
    cases other with
    | plain => cases kind <;> decide
    | digestMd5 => exact absurd hother hdigest

private theorem isPreferred_consider_iff :
    IsPreferred (fun k => (consider allowed best name).1 = some k ∨ q k) kind ↔
      IsPreferred (fun k => best = some k ∨ (k.name = name ∧ k ∈ allowed) ∨ q k) kind := by
  rw [consider]
  cases hname : MechanismKind.ofName? name with
  | none =>
    apply isPreferred_congr
    intro k
    simp [MechanismKind.name_ne_of_ofName? hname k]
  | some new =>
    obtain rfl := MechanismKind.ofName?_eq_some_iff.1 hname
    have hk (k : MechanismKind) : k.name = new.name ∧ k ∈ allowed ↔ new = k ∧ new ∈ allowed := by
      constructor
      · rintro ⟨h, hallowed⟩
        obtain rfl := MechanismKind.name_injective h
        exact ⟨rfl, hallowed⟩
      · rintro ⟨rfl, hallowed⟩
        exact ⟨rfl, hallowed⟩
    simp only [hk]
    by_cases hnew : new ∈ allowed
    · cases best with
      | none => simp [hnew]
      | some old => simpa [hnew] using isPreferred_better_iff old new
    · simp [hnew]

private theorem selectFrom_eq_some_iff :
    (selectFrom allowed best offered).1 = some kind ↔
      IsPreferred (fun k => best = some k ∨ Available offered allowed k) kind := by
  induction offered generalizing best with
  | nil =>
    constructor
    · rintro rfl
      refine ⟨.inl rfl, ?_⟩
      rintro other (hother | ⟨hother, -⟩)
      · obtain rfl := Option.some.inj hother
        exact Nat.le_refl _
      · cases hother
    · rintro ⟨hbest | ⟨hkind, -⟩, -⟩
      · exact hbest
      · cases hkind
  | cons name rest ih =>
    have hcons (k : MechanismKind) : Available (name :: rest) allowed k ↔
        (k.name = name ∧ k ∈ allowed) ∨ Available rest allowed k := by
      rw [Available, List.mem_cons, or_and_right, Available]
    simp only [hcons]
    rw [← isPreferred_consider_iff]
    exact ih

/-- What is chosen is preferred among the mechanisms that are on offer and may be used. -/
theorem select_eq_some_iff :
    (select offered allowed).1 = some kind ↔ IsPreferred (Available offered allowed) kind := by
  rw [select, selectFrom_eq_some_iff]
  apply isPreferred_congr
  intro k
  simp

theorem select_congr {offered' : List String} {allowed' : List MechanismKind}
    (h : ∀ kind, Available offered' allowed' kind ↔ Available offered allowed kind) :
    (select offered' allowed').1 = (select offered allowed).1 := by
  apply Option.ext
  intro kind
  rw [select_eq_some_iff, select_eq_some_iff, isPreferred_congr h]

/-- With more mechanisms available something at least as good is chosen. -/
theorem exists_select_of_available {offered' : List String}
    (h : ∀ kind, Available offered allowed kind → Available offered' allowed kind)
    (hselect : (select offered allowed).1 = some kind) :
    ∃ kind', (select offered' allowed).1 = some kind' ∧ kind.preference ≤ kind'.preference := by
  have havailable := h kind (select_eq_some_iff.1 hselect).1
  obtain ⟨kind', hkind'⟩ := exists_isPreferred havailable
  exact ⟨kind', select_eq_some_iff.2 hkind', hkind'.2 kind havailable⟩

def IsUsable (allowed : List MechanismKind) (name : String) : Prop :=
  ∃ kind ∈ allowed, kind.name = name

instance (allowed : List MechanismKind) : DecidablePred (IsUsable allowed) :=
  fun name => inferInstanceAs (Decidable (∃ kind ∈ allowed, kind.name = name))

def dismissal (name : String) : LogLevel × String :=
  if name ∈ MechanismKind.all.map (·.name) then
    (.debug, "SASL mechanism " ++ name ++ " disabled in configuration")
  else (.debug, "unknown SASL auth mechanism: " ++ name)

def lines (entries : List LogEntry) : List (LogLevel × String) :=
  entries.map fun entry => (entry.level, entry.message)

private theorem lines_of_consider :
    lines (consider allowed best name).2 = if IsUsable allowed name then [] else [dismissal name] := by
  rw [consider]
  cases hname : MechanismKind.ofName? name with
  | none =>
    have hk := MechanismKind.name_ne_of_ofName? hname
    have hunusable : ¬ IsUsable allowed name := fun ⟨k, _, h⟩ => hk k h
    have hunknown : name ∉ MechanismKind.all.map (·.name) := by
      intro h
      obtain ⟨k, -, h⟩ := List.mem_map.1 h
      exact hk k h
    rw [if_neg hunusable, dismissal, if_neg hunknown]
    rfl
  | some new =>
    obtain rfl := MechanismKind.ofName?_eq_some_iff.1 hname
    by_cases hnew : new ∈ allowed
    · have husable : IsUsable allowed new.name := ⟨new, hnew, rfl⟩
      rw [if_pos husable]
      cases best <;> simp [hnew, lines]
    · have hunusable : ¬ IsUsable allowed new.name := by
        rintro ⟨k, hk, h⟩
        obtain rfl := MechanismKind.name_injective h
        exact hnew hk
      have hknown : new.name ∈ MechanismKind.all.map (·.name) := by
        cases new <;> decide
      rw [if_neg hunusable, dismissal, if_pos hknown]
      simp only [if_neg hnew]
      rfl

private theorem lines_of_selectFrom :
    lines (selectFrom allowed best offered).2 =
      (offered.filter (¬ IsUsable allowed ·)).map dismissal := by
  induction offered generalizing best with
  | nil => rfl
  | cons name rest ih =>
    have hcons : (selectFrom allowed best (name :: rest)).2 = (consider allowed best name).2 ++
        (selectFrom allowed (consider allowed best name).1 rest).2 :=
      rfl
    have happend : lines (selectFrom allowed best (name :: rest)).2 =
        lines (consider allowed best name).2 ++
          lines (selectFrom allowed (consider allowed best name).1 rest).2 := by
      rw [hcons, lines, List.map_append]
      rfl
    rw [happend, lines_of_consider, ih]
    by_cases husable : IsUsable allowed name <;> simp [husable]

/-- The preferred one of the mechanisms on offer that may be used is chosen. It stays so however the
names are ordered and repeated and whatever names that are not usable stand among them, and it gets
no worse with a longer offer. Each name that is not usable is logged, in the order of the offer. -/
theorem select_takes_preferred (offered : List String) (allowed : List MechanismKind) :
    (∀ kind, (select offered allowed).1 = some kind ↔
      (kind.name ∈ offered ∧ kind ∈ allowed) ∧ ∀ other : MechanismKind,
        other.name ∈ offered ∧ other ∈ allowed → other.preference ≤ kind.preference) ∧
    (∀ offered' allowed',
      (∀ kind, kind ∈ allowed' ↔ kind ∈ allowed) → (∀ name ∈ offered, name ∈ offered') →
        (∀ name ∈ offered', name ∈ offered ∨ ¬ IsUsable allowed name) →
          (select offered' allowed').1 = (select offered allowed).1) ∧
    (∀ offered' kind, (∀ name ∈ offered, name ∈ offered') →
      (select offered allowed).1 = some kind →
        ∃ kind', (select offered' allowed).1 = some kind' ∧
          (kind = .digestMd5 → kind' = .digestMd5)) ∧
    lines (select offered allowed).2 = (offered.filter (¬ IsUsable allowed ·)).map dismissal := by
  refine ⟨fun kind => select_eq_some_iff, ?_, ?_, lines_of_selectFrom⟩
  · intro offered' allowed' hallowed hoffered hadded
    apply select_congr
    intro kind
    constructor
    · rintro ⟨hname, hkind⟩
      have hkind := (hallowed kind).1 hkind
      rcases hadded kind.name hname with hname | hunusable
      · exact ⟨hname, hkind⟩
      · exact absurd ⟨kind, hkind, rfl⟩ hunusable
    · rintro ⟨hname, hkind⟩
      exact ⟨hoffered kind.name hname, (hallowed kind).2 hkind⟩
  · intro offered' kind hoffered hselect
    obtain ⟨kind', hselect', hle⟩ := exists_select_of_available
      (fun k hk => ⟨hoffered k.name hk.1, hk.2⟩) hselect
    refine ⟨kind', hselect', ?_⟩
    rintro rfl
    cases kind' with
    | plain => exact absurd hle (by decide)
    | digestMd5 => rfl

theorem select_takes_preferred_mixed :
    let offered := ["DIGEST-MD5", "PLAIN", "X", "PLAIN"]
    (∀ kind, kind ∈ [.plain, .plain] ↔ kind ∈ [MechanismKind.plain]) ∧
      (∀ name ∈ ["PLAIN"], name ∈ offered) ∧
      (∀ name ∈ offered, name ∈ ["PLAIN"] ∨ ¬ IsUsable [.plain] name) ∧
      (select offered [.plain, .plain]).1 = some .plain ∧
      (∃ kind', (select offered MechanismKind.all).1 = some kind') ∧
      lines (select offered [.plain]).2 =
        [(.debug, "SASL mechanism DIGEST-MD5 disabled in configuration"),
          (.debug, "unknown SASL auth mechanism: X")] := by
  intro offered
  have hallowed : ∀ kind, kind ∈ [.plain, .plain] ↔ kind ∈ [MechanismKind.plain] := by simp
  have hoffered : ∀ name ∈ ["PLAIN"], name ∈ offered := by decide
  have hadded : ∀ name ∈ offered, name ∈ ["PLAIN"] ∨ ¬ IsUsable [.plain] name := by decide
  have hplain : (select ["PLAIN"] [.plain]).1 = some .plain := by decide
  have hany : (select ["PLAIN"] MechanismKind.all).1 = some .plain := by decide
  obtain ⟨-, hsame, -, -⟩ := select_takes_preferred ["PLAIN"] [.plain]
  obtain ⟨-, -, hlonger, -⟩ := select_takes_preferred ["PLAIN"] MechanismKind.all
  obtain ⟨-, -, -, hlines⟩ := select_takes_preferred offered [.plain]
  obtain ⟨kind', hkind', -⟩ := hlonger offered .plain hoffered hany
  refine ⟨hallowed, hoffered, hadded, ?_, ⟨kind', hkind'⟩, hlines.trans (by decide)⟩
  exact (hsame offered _ hallowed hoffered hadded).trans hplain

end SaslClient.Selection
