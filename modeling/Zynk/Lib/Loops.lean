import Mathlib.Data.List.Range

/-!
# Counted loops

A counted loop whose body may stop the program is a `foldlM` over a range, in `Option`. Its
invariant says what holds when `i` rounds are done : `forRange_run` carries it through a loop that
ends, `exists_forRange` says that a loop ends if each of its rounds does.
-/

namespace Loops

variable {σ : Type*} {f : σ → ℕ → Option σ} {n : ℕ} {s s' : σ} {P : ℕ → σ → Prop}

/-- `for i in 0..n`. -/
def forRange (n : ℕ) (f : σ → ℕ → Option σ) (s : σ) : Option σ :=
  (List.range n).foldlM f s

theorem forRange_succ (n : ℕ) (f : σ → ℕ → Option σ) (s : σ) :
    forRange (n + 1) f s = (forRange n f s).bind fun t => f t n := by
  rw [forRange, List.range_succ, List.foldlM_append]
  refine congrArg _ (funext fun t => ?_)
  rw [List.foldlM_cons]
  exact bind_pure (f t n)

/-- What every round keeps holds when the loop has ended. -/
theorem forRange_run (h : forRange n f s = some s') (hinit : P 0 s)
    (hstep : ∀ i < n, ∀ t t', P i t → f t i = some t' → P (i + 1) t') : P n s' := by
  induction n generalizing s' with
  | zero =>
    cases h
    exact hinit
  | succ n ih =>
    rw [forRange_succ, Option.bind_eq_some_iff] at h
    obtain ⟨t, ht, hlast⟩ := h
    exact hstep n n.lt_succ_self t s' (ih ht fun i hi => hstep i (hi.trans n.lt_succ_self)) hlast

/-- A loop ends if every round does. -/
theorem exists_forRange (s : σ) (hstep : ∀ i < n, ∀ t, ∃ t', f t i = some t') :
    ∃ s', forRange n f s = some s' := by
  induction n with
  | zero => exact ⟨s, rfl⟩
  | succ n ih =>
    obtain ⟨t, ht⟩ := ih fun i hi => hstep i (hi.trans n.lt_succ_self)
    obtain ⟨s', hlast⟩ := hstep n n.lt_succ_self t
    exact ⟨s', by rw [forRange_succ, ht, Option.bind_some, hlast]⟩

end Loops
