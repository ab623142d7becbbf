import Mathlib.Data.List.TakeDrop

/-!
# Numbered logs

The entries of a log have the numbers 1, 2, 3, … in the order they were written in. A reader keeps
the number of the last entry it has read, and asks for the entries with a greater one.
-/

namespace Numbered

variable {α : Type*}

/-- The entries of `l`, numbered on from `k`. -/
def after : ℕ → List α → List (ℕ × α)
  | _, [] => []
  | k, a :: l => (k + 1, a) :: after (k + 1) l

@[simp] theorem after_nil (k : ℕ) : after k ([] : List α) = [] :=
  rfl

@[simp] theorem after_cons (k : ℕ) (a : α) (l : List α) :
    after k (a :: l) = (k + 1, a) :: after (k + 1) l :=
  rfl

@[simp] theorem length_after (k : ℕ) (l : List α) : (after k l).length = l.length := by
  induction l generalizing k with
  | nil => rfl
  | cons a l ih => simp [ih]

theorem after_append (k : ℕ) (l m : List α) :
    after k (l ++ m) = after k l ++ after (k + l.length) m := by
  induction l generalizing k with
  | nil => rfl
  | cons a l ih => simp [ih, Nat.add_right_comm, Nat.add_assoc]

theorem drop_after (k n : ℕ) (l : List α) : (after k l).drop n = after (k + n) (l.drop n) := by
  induction n generalizing k l with
  | zero => rfl
  | succ n ih =>
    rcases l with _ | ⟨a, l⟩
    · simp
    · simp [ih, Nat.add_right_comm, Nat.add_assoc]

/-- The entries with a number greater than `s`. -/
theorem filter_after (k s : ℕ) (l : List α) :
    ((after k l).filter fun e => s < e.1) = after (max k s) (l.drop (s - k)) := by
  induction l generalizing k with
  | nil => simp
  | cons a l ih =>
    rcases Nat.lt_or_ge k s with h | h
    · have hdrop : (a :: l).drop (s - k) = l.drop (s - (k + 1)) := by
        rw [show s - k = s - (k + 1) + 1 by omega, List.drop_succ_cons]
      rw [after_cons, List.filter_cons_of_neg (by simp; omega), ih, hdrop,
        show max (k + 1) s = max k s by omega]
    · rw [after_cons, List.filter_cons_of_pos (by simp; omega), ih, Nat.max_eq_left (by omega),
        Nat.max_eq_left h, show s - (k + 1) = 0 by omega, show s - k = 0 by omega]
      rfl

end Numbered
