import Mathlib.Data.List.Basic

/-!
# Resumable loops

A loop that consumes a buffer is a function `iter` that makes one iteration : it stops, or
emits some outputs and goes on from another state. `drain` runs it to the end, with as
much fuel as the measure of the state, and `drain_eq` is its unfolding.

The input of a loop may arrive in pieces. `drain_extend` says when that cannot be seen :
an iteration that goes on does the same when more input is there, and an iteration that
stops leaves a state from which more input goes on as it would have from the state before.
-/

namespace Resumable

variable {σ ω β : Type*}

/-- The outcome of one iteration. -/
inductive Iter (σ ω : Type*) where
  | stop (s : σ)
  | next (out : List ω) (s : σ)

section

variable (iter : σ → Iter σ ω)

/-- At most `fuel` iterations. -/
def loop : ℕ → σ → List ω × σ
  | 0, s => ([], s)
  | fuel + 1, s =>
    match iter s with
    | .stop s' => ([], s')
    | .next out s' => (out ++ (loop fuel s').1, (loop fuel s').2)

/-- Run to the end : `μ` bounds the number of iterations that go on. -/
def drain (μ : σ → ℕ) (s : σ) : List ω × σ :=
  loop iter (μ s + 1) s

end

variable {iter : σ → Iter σ ω} {μ : σ → ℕ}

/-- More fuel than the measure changes nothing. -/
theorem loop_fuel (hμ : ∀ s out s', iter s = .next out s' → μ s' < μ s) {n m : ℕ} {s : σ}
    (hn : μ s < n) (hm : μ s < m) : loop iter n s = loop iter m s := by
  induction n generalizing m s with
  | zero => omega
  | succ n ih =>
    obtain ⟨m, rfl⟩ : ∃ k, m = k + 1 := ⟨m - 1, by omega⟩
    rw [loop, loop]
    cases hs : iter s with
    | stop s' => rfl
    | next out s' =>
      have hlt := hμ s out s' hs
      have heq : loop iter n s' = loop iter m s' := ih (by omega) (by omega)
      simp only [heq]

/-- One iteration of a run to the end. -/
theorem drain_eq (hμ : ∀ s out s', iter s = .next out s' → μ s' < μ s) (s : σ) :
    drain iter μ s = match iter s with
      | .stop s' => ([], s')
      | .next out s' => (out ++ (drain iter μ s').1, (drain iter μ s').2) := by
  rw [drain, loop]
  cases hs : iter s with
  | stop s' => rfl
  | next out s' =>
    have hlt := hμ s out s' hs
    have heq : loop iter (μ s) s' = drain iter μ s' := loop_fuel hμ (by omega) (by omega)
    simp only [heq]

/-- States with the same next iteration run to the same end. -/
theorem drain_congr (hμ : ∀ s out s', iter s = .next out s' → μ s' < μ s) {s t : σ}
    (hst : iter s = iter t) : drain iter μ s = drain iter μ t := by
  rw [drain_eq hμ s, drain_eq hμ t, hst]

/-- An invariant of the state and of the outputs so far, kept by every iteration, holds at
the end. -/
theorem drain_induction (hμ : ∀ s out s', iter s = .next out s' → μ s' < μ s)
    {I : σ → List ω → σ → Prop} (hstop : ∀ s s', iter s = .stop s' → I s [] s')
    (hnext : ∀ s out s' outs t, iter s = .next out s' → I s' outs t → I s (out ++ outs) t)
    (s : σ) : I s (drain iter μ s).1 (drain iter μ s).2 := by
  induction hn : μ s using Nat.strongRecOn generalizing s with
  | _ n ih =>
    rw [drain_eq hμ s]
    cases hs : iter s with
    | stop s' => exact hstop s s' hs
    | next out s' => exact hnext s out s' _ _ hs (ih (μ s') (hn ▸ hμ s out s' hs) s' rfl)

/-- Input that arrives later is as input that is there at once, on the states with `P` that
the loop does not leave. -/
theorem drain_extend (hμ : ∀ s out s', iter s = .next out s' → μ s' < μ s)
    {extend : σ → β → σ} {b : β} {P : σ → Prop}
    (hgood : ∀ s out s', P s → iter s = .next out s' → P s')
    (hnext : ∀ s out s', P s → iter s = .next out s' →
      iter (extend s b) = .next out (extend s' b))
    (hstop : ∀ s s', P s → iter s = .stop s' → iter (extend s b) = iter (extend s' b))
    (s : σ) (hs : P s) :
    drain iter μ (extend s b) =
      ((drain iter μ s).1 ++ (drain iter μ (extend (drain iter μ s).2 b)).1,
        (drain iter μ (extend (drain iter μ s).2 b)).2) := by
  induction hn : μ s using Nat.strongRecOn generalizing s with
  | _ n ih =>
    rw [drain_eq hμ s]
    cases hit : iter s with
    | stop s' =>
      simp only [List.nil_append]
      exact drain_congr hμ (hstop s s' hs hit)
    | next out s' =>
      have hrest := ih (μ s') (hn ▸ hμ s out s' hit) s' (hgood s out s' hs hit) rfl
      rw [drain_eq hμ (extend s b), hnext s out s' hs hit]
      simp only [hrest, List.append_assoc]

end Resumable
