import Mathlib.Algebra.GroupWithZero.Nat
import Mathlib.Data.List.AList
import Mathlib.Data.List.Induction

/-!
# Maps

A hash map is a list of entries with distinct keys, in some order of iteration : Mathlib's
`AList` at a constant family. Its `lookup`, `insert` and `erase` are `get`, `insert` and
`remove`; here are the operations that go through all entries, `mapWithKey`
(`values_mut`, `get_mut`), `filterWithKey` (`retain`) and `mapKeys`, and what a lookup gives after
them. `total` is a sum over all entries, which an entry contributes to (`total_erase`). `ofList` is
a map collected from entries, of which the last of a key stays.
-/

/-- A map from `κ` to `α`. -/
abbrev Assoc (κ α : Type) := AList fun _ : κ => α

namespace Assoc

variable {κ α : Type}

/-- Change every value. -/
def mapWithKey (f : κ → α → α) (s : Assoc κ α) : Assoc κ α where
  entries := s.entries.map fun e => ⟨e.1, f e.1 e.2⟩
  nodupKeys := by
    have hkeys : (s.entries.map fun e => (⟨e.1, f e.1 e.2⟩ : Sigma fun _ : κ => α)).keys =
        s.entries.keys := by
      simp [List.keys, Function.comp_def]
    exact (congrArg List.Nodup hkeys).mpr s.keys_nodup

/-- Keep the entries with `p`. -/
def filterWithKey (p : κ → α → Bool) (s : Assoc κ α) : Assoc κ α where
  entries := s.entries.filter fun e => p e.1 e.2
  nodupKeys := s.nodupKeys.sublist List.filter_sublist

/-- Change every key. -/
def mapKeys (f : κ → κ) (hf : Function.Injective f) (s : Assoc κ α) : Assoc κ α where
  entries := s.entries.map fun e => ⟨f e.1, e.2⟩
  nodupKeys := by
    have hkeys : (s.entries.map fun e => (⟨f e.1, e.2⟩ : Sigma fun _ : κ => α)).keys =
        s.entries.keys.map f := by
      simp [List.keys, Function.comp_def]
    exact (congrArg List.Nodup hkeys).mpr (s.keys_nodup.map hf)

/-- The sum over all entries. -/
def total (f : κ → α → ℕ) (s : Assoc κ α) : ℕ :=
  (s.entries.map fun e => f e.1 e.2).sum

theorem total_filterWithKey_le (f : κ → α → ℕ) (p : κ → α → Bool) (s : Assoc κ α) :
    total f (s.filterWithKey p) ≤ total f s := by
  obtain ⟨entries, hnodup⟩ := s
  simp only [total, filterWithKey]
  clear hnodup
  induction entries with
  | nil => exact Nat.le_refl _
  | cons e entries ih =>
    rw [List.filter_cons]
    split <;> simp only [List.map_cons, List.sum_cons] <;> omega

variable [DecidableEq κ]

variable {k : κ}

theorem dlookup_cons_of_ne {j : κ} (h : ¬ j = k) (v : α) (l : List (Sigma fun _ : κ => α)) :
    List.dlookup k (⟨j, v⟩ :: l) = List.dlookup k l :=
  List.dlookup_cons_ne l ⟨j, v⟩ (Ne.symm h)

@[simp] theorem lookup_mapWithKey (f : κ → α → α) (s : Assoc κ α) (k : κ) :
    (s.mapWithKey f).lookup k = (s.lookup k).map (f k) := by
  obtain ⟨entries, hnodup⟩ := s
  simp only [mapWithKey, AList.lookup]
  clear hnodup
  induction entries with
  | nil => rfl
  | cons e entries ih =>
    obtain ⟨j, v⟩ := e
    by_cases hj : j = k
    · subst hj
      simp [List.dlookup_cons_eq]
    · simp [dlookup_cons_of_ne hj, ih]

@[simp] theorem lookup_filterWithKey (p : κ → α → Bool) (s : Assoc κ α) (k : κ) :
    (s.filterWithKey p).lookup k = (s.lookup k).filter (p k) := by
  obtain ⟨entries, hnodup⟩ := s
  simp only [filterWithKey, AList.lookup]
  induction entries with
  | nil => rfl
  | cons e entries ih =>
    obtain ⟨j, v⟩ := e
    rw [List.nodupKeys_cons] at hnodup
    by_cases hj : j = k
    · subst hj
      -- The only entry of the key is kept, or none is left.
      cases hp : p j v with
      | true => simp [hp, List.dlookup_cons_eq, Option.filter]
      | false =>
        have hnone : j ∉ (entries.filter fun e => p e.1 e.2).keys := fun hmem =>
          hnodup.1 (List.Sublist.subset (List.filter_sublist.map _) hmem)
        simp [hp, List.dlookup_cons_eq, List.dlookup_eq_none.2 hnone, Option.filter]
    · have hrest := ih hnodup.2
      cases hp : p j v with
      | true => simp [hp, dlookup_cons_of_ne hj, hrest]
      | false => simp [hp, dlookup_cons_of_ne hj, hrest]

theorem lookup_mapKeys (f : κ → κ) (hf : Function.Injective f) (s : Assoc κ α) (k : κ) :
    (s.mapKeys f hf).lookup (f k) = s.lookup k := by
  obtain ⟨entries, hnodup⟩ := s
  simp only [mapKeys, AList.lookup]
  clear hnodup
  induction entries with
  | nil => rfl
  | cons e entries ih =>
    obtain ⟨j, v⟩ := e
    by_cases hj : j = k
    · subst hj
      simp [List.dlookup_cons_eq]
    · simp [dlookup_cons_of_ne hj, dlookup_cons_of_ne (hf.ne hj), ih]

/-! ## Totals -/

/-- What an entry contributes. -/
theorem total_erase (f : κ → α → ℕ) (s : Assoc κ α) (k : κ) :
    total f (s.erase k) + ((s.lookup k).map (f k)).getD 0 = total f s := by
  obtain ⟨entries, hnodup⟩ := s
  show (((List.kerase k entries).map fun e => f e.1 e.2).sum +
    ((List.dlookup k entries).map (f k)).getD 0) = (entries.map fun e => f e.1 e.2).sum
  clear hnodup
  induction entries with
  | nil => rfl
  | cons e entries ih =>
    obtain ⟨j, v⟩ := e
    by_cases hj : j = k
    · subst hj
      have hkerase : List.kerase j ((⟨j, v⟩ : Sigma fun _ : κ => α) :: entries) = entries :=
        List.kerase_cons_eq rfl
      rw [List.dlookup_cons_eq, hkerase]
      simp only [List.map_cons, List.sum_cons, Option.map_some, Option.getD_some]
      omega
    · rw [List.kerase_cons_ne (Ne.symm hj), dlookup_cons_of_ne hj]
      simp only [List.map_cons, List.sum_cons]
      omega

theorem total_erase_le (f : κ → α → ℕ) (s : Assoc κ α) (k : κ) :
    total f (s.erase k) ≤ total f s := by
  have := total_erase f s k
  omega

theorem total_insert (f : κ → α → ℕ) (s : Assoc κ α) (k : κ) (v : α) :
    total f (s.insert k v) = f k v + total f (s.erase k) := by
  rw [total, AList.entries_insert, total]
  rfl

/-! ## Collected maps -/

/-- The entries, inserted in their order. -/
def ofList (l : List (κ × α)) : Assoc κ α :=
  l.foldl (fun s e => s.insert e.1 e.2) ∅

@[simp] theorem ofList_nil : ofList ([] : List (κ × α)) = ∅ :=
  rfl

theorem ofList_snoc (l : List (κ × α)) (e : κ × α) :
    ofList (l ++ [e]) = (ofList l).insert e.1 e.2 := by
  simp [ofList]

/-- A lookup gives the last entry of the key. -/
theorem lookup_ofList (l : List (κ × α)) (k : κ) :
    (ofList l).lookup k = (l.reverse.find? fun e => e.1 = k).map (·.2) := by
  induction l using List.reverseRecOn with
  | nil => rfl
  | append_singleton l e ih =>
    rw [ofList_snoc, List.reverse_append, List.reverse_singleton, List.singleton_append,
      List.find?_cons]
    by_cases he : e.1 = k
    · subst he
      simp [AList.lookup_insert]
    · rw [AList.lookup_insert_ne (Ne.symm he), ih]
      simp [he]

variable {l : List (κ × α)}

theorem mem_of_lookup_ofList {v : α} (h : (ofList l).lookup k = some v) : (k, v) ∈ l := by
  rw [lookup_ofList, Option.map_eq_some_iff] at h
  obtain ⟨e, he, rfl⟩ := h
  obtain rfl : e.1 = k := by simpa using List.find?_some he
  exact List.mem_reverse.1 (List.mem_of_find?_eq_some he)

theorem mem_ofList : k ∈ ofList l ↔ k ∈ l.map (·.1) := by
  induction l using List.reverseRecOn with
  | nil => simp
  | append_singleton l e ih =>
    rw [ofList_snoc, AList.mem_insert, ih]
    simp [or_comm, eq_comm]

theorem lookup_ofList_eq_none : (ofList l).lookup k = none ↔ k ∉ l.map (·.1) := by
  rw [AList.lookup_eq_none, mem_ofList]

/-- With distinct keys a lookup gives the only entry of the key. -/
theorem lookup_ofList_of_nodup (hnodup : (l.map (·.1)).Nodup) {v : α} :
    (ofList l).lookup k = some v ↔ (k, v) ∈ l := by
  induction l using List.reverseRecOn with
  | nil => simp
  | append_singleton l e ih =>
    rw [List.map_append, List.map_singleton, List.nodup_append] at hnodup
    obtain ⟨hl, -, hnew⟩ := hnodup
    rw [ofList_snoc, List.mem_append, List.mem_singleton]
    by_cases he : e.1 = k
    · subst he
      have hnot : (e.1, v) ∉ l := fun hmem =>
        hnew e.1 (List.mem_map.2 ⟨_, hmem, rfl⟩) e.1 (by simp) rfl
      simp [AList.lookup_insert, hnot, Prod.ext_iff, eq_comm]
    · rw [AList.lookup_insert_ne (Ne.symm he), ih hl]
      refine ⟨Or.inl, fun h => h.resolve_right ?_⟩
      rintro rfl
      exact he rfl

/-- With values that increase a lookup gives the greatest one of the key. -/
theorem lookup_ofList_of_pairwise {f : α → ℕ} (hl : l.Pairwise fun e e' => f e.2 < f e'.2) {v : α} :
    (ofList l).lookup k = some v ↔ (k, v) ∈ l ∧ ∀ v', (k, v') ∈ l → f v' ≤ f v := by
  induction l using List.reverseRecOn with
  | nil => simp
  | append_singleton l e ih =>
    obtain ⟨hinit, -, hlast⟩ := List.pairwise_append.1 hl
    obtain ⟨j, w⟩ := e
    rw [ofList_snoc]
    by_cases hj : j = k
    · subst hj
      rw [AList.lookup_insert, Option.some.injEq]
      constructor
      · rintro rfl
        refine ⟨by simp, fun v' hv' => ?_⟩
        rcases List.mem_append.1 hv' with hv' | hv'
        · exact le_of_lt (hlast _ hv' _ (List.mem_singleton_self _))
        · cases List.mem_singleton.1 hv'
          exact le_refl _
      · rintro ⟨hv, hmax⟩
        rcases List.mem_append.1 hv with hv | hv
        · have hlt := hlast _ hv _ (List.mem_singleton_self _)
          have hle := hmax w (by simp)
          simp only at hlt
          omega
        · cases List.mem_singleton.1 hv
          rfl
    · have hmem : ∀ v', (k, v') ∈ l ++ [(j, w)] ↔ (k, v') ∈ l := fun v' => by
        rw [List.mem_append, List.mem_singleton, Prod.mk.injEq, or_iff_left]
        exact fun h => hj h.1.symm
      simp only [AList.lookup_insert_ne (Ne.symm hj), ih hinit, hmem]

end Assoc
