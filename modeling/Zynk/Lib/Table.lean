import Mathlib.Data.List.Nodup

/-!
# Tables keyed by a column

A table is the list of its rows in insertion order, and a unique column is a key function
whose values on the rows have no duplicates. These are the rules for inserting a row,
replacing one and looking one up, and for `ORDER BY key DESC LIMIT 1`.
-/

namespace Table

variable {α β : Type*} {key : α → β} {rows : List α} {a : α}

/-! ## Unique columns -/

/-- Two rows under one value of a unique column are one row. -/
theorem unique (h : (rows.map key).Nodup) {b : α} (ha : a ∈ rows) (hb : b ∈ rows)
    (hab : key a = key b) : a = b :=
  List.inj_on_of_nodup_map h ha hb hab

/-- Inserting a row under a free value keeps the column unique. -/
theorem nodup_concat (h : (rows.map key).Nodup) (hfree : ∀ r ∈ rows, key r ≠ key a) :
    ((rows ++ [a]).map key).Nodup := by
  rw [List.map_append, List.nodup_append]
  refine ⟨h, List.nodup_singleton _, ?_⟩
  intro k hk l hl
  obtain ⟨r, hr, rfl⟩ := List.mem_map.1 hk
  obtain rfl : l = key a := by simpa using hl
  exact hfree r hr

/-- Replacing the row under a value keeps the column unique. -/
theorem nodup_replace (h : (rows.map key).Nodup) {p : α → Bool}
    (hp : ∀ r, p r = true → key r ≠ key a) : (((rows.filter p) ++ [a]).map key).Nodup := by
  refine nodup_concat (h.sublist (List.filter_sublist.map key)) fun r hr => ?_
  exact hp r (List.mem_filter.1 hr).2

/-- Exactly one row is found under a value of a unique column. -/
theorem filter_eq_singleton [BEq β] [LawfulBEq β] {b : β}
    (hnodup : (rows.map key).Nodup) (hb : b ∈ rows.map key) :
    ∃ a, rows.filter (fun r => key r == b) = [a] := by
  obtain ⟨a, ha, rfl⟩ := List.mem_map.1 hb
  refine ⟨a, ?_⟩
  induction rows with
  | nil => cases ha
  | cons r rows ih =>
    rw [List.map_cons, List.nodup_cons] at hnodup
    rcases List.mem_cons.1 ha with rfl | ha
    · have hrest : rows.filter (fun r => key r == key a) = [] := by
        rw [List.filter_eq_nil_iff]
        intro c hc hca
        exact hnodup.1 (List.mem_map.2 ⟨c, hc, beq_iff_eq.1 hca⟩)
      simp [hrest]
    · have hne : key r ≠ key a := fun h => hnodup.1 (h ▸ List.mem_map_of_mem ha)
      rw [List.filter_cons_of_neg (by simpa using hne)]
      exact ih hnodup.2 ha (List.mem_map_of_mem ha)

/-! ## The latest row -/

/-- The row of `rows` with the greatest key : `ORDER BY key DESC LIMIT 1`. -/
def latestBy (key : α → ℕ) : List α → Option α
  | [] => none
  | a :: rows =>
    match latestBy key rows with
    | some b => if key a < key b then some b else some a
    | none => some a

/-- No row is returned only when there is none. -/
theorem latestBy_none {key : α → ℕ} {rows : List α} (h : latestBy key rows = none) :
    rows = [] := by
  cases rows with
  | nil => rfl
  | cons a rows =>
    rw [latestBy] at h
    split at h <;> [split at h; skip] <;> cases h

/-- The row returned is one of the rows, and no row has a greater key. -/
theorem latestBy_some {key : α → ℕ} :
    ∀ {rows : List α} {b : α}, latestBy key rows = some b → b ∈ rows ∧ ∀ a ∈ rows, key a ≤ key b
  | [], b, h => by cases h
  | a :: rows, b, h => by
    cases hrest : latestBy key rows with
    | none =>
      obtain rfl := latestBy_none hrest
      obtain rfl : a = b := by simpa [latestBy] using h
      simp
    | some c =>
      obtain ⟨hc, hmax⟩ := latestBy_some hrest
      by_cases hlt : key a < key c
      · obtain rfl : c = b := by simpa [latestBy, hrest, hlt] using h
        refine ⟨List.mem_cons_of_mem _ hc, fun d hd => ?_⟩
        rcases List.mem_cons.1 hd with rfl | hd
        · exact Nat.le_of_lt hlt
        · exact hmax d hd
      · obtain rfl : a = b := by simpa [latestBy, hrest, hlt] using h
        refine ⟨List.mem_cons_self, fun d hd => ?_⟩
        rcases List.mem_cons.1 hd with rfl | hd
        · exact Nat.le_refl _
        · exact Nat.le_trans (hmax d hd) (Nat.le_of_not_lt hlt)

/-- On rows whose keys increase, the row with the greatest key is the last one. -/
theorem latestBy_eq_getLast? {α : Type} {key : α → ℕ} :
    ∀ {rows : List α}, rows.Pairwise (fun a b => key a < key b) → latestBy key rows = rows.getLast?
  | [], _ => rfl
  | [a], _ => rfl
  | a :: b :: rows, h => by
    obtain ⟨ha, h⟩ := List.pairwise_cons.1 h
    rw [latestBy, latestBy_eq_getLast? h, List.getLast?_cons_cons]
    obtain ⟨c, hc⟩ : ∃ c, (b :: rows).getLast? = some c := by simp [List.getLast?_eq_some_getLast]
    simp [hc, ha c (List.mem_of_getLast? hc)]

end Table
