import Zynk.Lib.Run

/-!
# Programs of atomic operations

A `Script` returns a value, or calls an operation and goes on with its result. What an operation
does to the state is said apart from the script, with what the environment chooses (a failure, a
fresh value) as an event.

A `Contract` bounds a script among others : what it may do to the state with one operation
(`guar`), what the others may do between two of its operations (`rely`), and in which states it is
assumed to perform an operation (`allowed`). `Performs` bounds the operations alone. `Meets` is the
weakest precondition of a script under a contract : `meets_bind` takes a script apart, `Meets.returns` is the rule for a script that runs
alone, `Meets.among` for one among others of which nothing but its rely is known, and
`meets_parallel` for any interleaving of scripts whose guarantees are what the others rely on.
-/

open StepRun

inductive Script (Op : Type) (Res : Op → Type) (α : Type) where
  | done (value : α)
  | call (op : Op) (next : Res op → Script Op Res α)

namespace Script

variable {Op : Type} {Res : Op → Type} {α β : Type}

def bind : Script Op Res α → (α → Script Op Res β) → Script Op Res β
  | .done a, f => f a
  | .call op next, f => .call op fun r => (next r).bind f

instance : Monad (Script Op Res) where
  pure := .done
  bind := bind

/-- One operation. -/
def perform (op : Op) : Script Op Res (Res op) :=
  .call op .done

/-- Whatever the operations give, the script performs only operations with `P` and returns a value
with `Q`. -/
def Performs (P : Op → Prop) (Q : α → Prop) : Script Op Res α → Prop
  | .done a => Q a
  | .call op next => P op ∧ ∀ r, Performs P Q (next r)

/-- What the script returns, if it has ended. -/
def result? : Script Op Res α → Option α
  | .done a => some a
  | .call .. => none

theorem eq_done_of_result? {script : Script Op Res α} {a : α} (h : script.result? = some a) :
    script = .done a := by
  cases script with
  | done b => cases h; rfl
  | call op next => cases h

theorem exists_done {ι : Type} {scripts : ι → Script Op Res α}
    (h : ∀ i, (scripts i).result?.isSome = true) :
    ∃ results : ι → α, ∀ i, scripts i = .done (results i) :=
  ⟨fun i => (scripts i).result?.get (h i), fun i => eq_done_of_result? (Option.some_get (h i)).symm⟩

variable {P : Op → Prop}

theorem Performs.mono {P' : Op → Prop} {Q Q' : α → Prop} {script : Script Op Res α}
    (hscript : script.Performs P Q) (hP : ∀ op, P op → P' op) (hQ : ∀ a, Q a → Q' a) :
    script.Performs P' Q' := by
  induction script with
  | done a => exact hQ a hscript
  | call op next ih => exact ⟨hP op hscript.1, fun r => ih r (hscript.2 r)⟩

theorem performs_bind {Q : β → Prop} {script : Script Op Res α} {f : α → Script Op Res β} :
    (script >>= f).Performs P Q ↔ script.Performs P fun a => (f a).Performs P Q := by
  change (script.bind f).Performs P Q ↔ _
  induction script with
  | done a => exact Iff.rfl
  | call op next ih => exact and_congr_right fun _ => forall_congr' ih

end Script

/-- How a script and its environment treat the state. -/
structure Contract (Op : Type) (Res : Op → Type) (ε σ : Type) where
  /-- What an operation gives and does. -/
  act : ε → σ → (op : Op) → Res op × σ
  allowed : ε → σ → Op → Prop
  guar : σ → σ → Prop
  rely : σ → σ → Prop

namespace Contract

variable {Op : Type} {Res : Op → Type} {ε σ α β : Type} (C : Contract Op Res ε σ)

/-- From the state on, the script keeps its guarantee, and it returns with the postcondition. -/
def Meets (post : α → σ → Prop) : Script Op Res α → σ → Prop
  | .done a, s => post a s
  | .call op next, s => ∀ e, C.allowed e s op → C.guar s (C.act e s op).2 ∧
      ∀ s', C.rely (C.act e s op).2 s' → Meets post (next (C.act e s op).1) s'

variable {C}

variable {script : Script Op Res α} {s : σ}

theorem Meets.mono {post post' : α → σ → Prop} (h : ∀ a s, post a s → post' a s)
    (hscript : C.Meets post script s) : C.Meets post' script s := by
  induction script generalizing s with
  | done a => exact h a s hscript
  | call op next ih =>
    intro e he
    obtain ⟨hguar, hnext⟩ := hscript e he
    exact ⟨hguar, fun s' hs' => ih _ (hnext s' hs')⟩

/-- One script after the other. -/
theorem meets_bind {post : β → σ → Prop} {f : α → Script Op Res β} :
    C.Meets post (script >>= f) s ↔ C.Meets (fun a s => C.Meets post (f a) s) script s := by
  change C.Meets post (script.bind f) s ↔ _
  induction script generalizing s with
  | done a => exact Iff.rfl
  | call op next ih =>
    exact forall₂_congr fun e he => and_congr_right fun hguar =>
      forall₂_congr fun s' hs' => ih _

/-- Where every operation with `P` keeps the guarantee, so does a script of such operations. -/
theorem meets_of_performs {P : Op → Prop} {Q : α → Prop}
    (h : ∀ op, P op → ∀ e s, C.allowed e s op → C.guar s (C.act e s op).2)
    (hscript : script.Performs P Q) (s : σ) : C.Meets (fun a _ => Q a) script s := by
  induction script generalizing s with
  | done a => exact hscript
  | call op next ih =>
    exact fun e he => ⟨h op hscript.1 e s he, fun s' _ => ih _ (hscript.2 _) s'⟩

/-! ## A script alone -/

/-- Perform the next operation. -/
def step (C : Contract Op Res ε σ) (c : σ × Script Op Res α) (e : ε) : σ × Script Op Res α :=
  match c.2 with
  | .done _ => c
  | .call op next => ((C.act e c.1 op).2, next (C.act e c.1 op).1)

/-- The operation that is next, if there is one, is performed as assumed. -/
def StepAllowed (C : Contract Op Res ε σ) (c : σ × Script Op Res α) (e : ε) : Prop :=
  match c.2 with
  | .done _ => True
  | .call op _ => C.allowed e c.1 op

/-- A script that runs alone returns, whatever its environment chooses, and it returns with the
postcondition. -/
theorem Meets.returns {post : α → σ → Prop} (hrely : ∀ s, C.rely s s)
    (hscript : C.Meets post script s) (events : ℕ → ε)
    (hevents : ∀ n, Along C.step C.StepAllowed (s, script) ((List.range n).map events)) :
    ∃ n a s', StepRun.run C.step (s, script) ((List.range n).map events) = (s', .done a) ∧
      post a s' := by
  induction script generalizing s events with
  | done a => exact ⟨0, a, s, rfl, hscript⟩
  | call op next ih =>
    have hrange : ∀ n, (List.range (n + 1)).map events =
        events 0 :: (List.range n).map fun k => events (k + 1) := fun n => by
      rw [List.range_succ_eq_map, List.map_cons, List.map_map]
      rfl
    have hfirst : C.allowed (events 0) s op := by
      have h := hevents 1
      rw [hrange] at h
      exact h.1
    obtain ⟨n, a, s', hrun, hpost⟩ := ih _ ((hscript _ hfirst).2 _ (hrely _))
      (fun k => events (k + 1)) fun n => by
        have h := hevents (n + 1)
        rw [hrange] at h
        exact h.2
    exact ⟨n + 1, a, s', by rw [hrange, run_cons]; exact hrun, hpost⟩

/-! ## A script among others -/

/-- Perform the next operation, or let the others change the state. -/
def stepAmong (C : Contract Op Res ε σ) (c : σ × Script Op Res α) :
    ε ⊕ σ → σ × Script Op Res α
  | .inl e => C.step c e
  | .inr s' => (s', c.2)

def AmongAllowed (C : Contract Op Res ε σ) (c : σ × Script Op Res α) : ε ⊕ σ → Prop
  | .inl e => C.StepAllowed c e
  | .inr s' => C.rely c.1 s'

/-- The operation, if this is one of the script, keeps the guarantee. -/
def StepGuarantees (C : Contract Op Res ε σ) (c : σ × Script Op Res α) : ε ⊕ σ → Prop
  | .inl e => C.guar c.1 (C.step c e).1
  | .inr _ => True

/-- A script keeps its guarantee whatever the others do between its operations. -/
theorem Meets.among {post : α → σ → Prop} (hrefl : ∀ s, C.rely s s)
    (htrans : ∀ s s' s'', C.rely s s' → C.rely s' s'' → C.rely s s'') (hguar : ∀ s, C.guar s s)
    (hscript : ∀ s', C.rely s s' → C.Meets post script s') (es : List (ε ⊕ σ))
    (hes : Along C.stepAmong C.AmongAllowed (s, script) es) :
    Along C.stepAmong C.StepGuarantees (s, script) es := by
  induction es generalizing s script with
  | nil => trivial
  | cons ev es ih =>
    obtain ⟨hallowed, hes⟩ := hes
    cases ev with
    | inr s' => exact ⟨trivial, ih (fun s'' h => hscript s'' (htrans _ _ _ hallowed h)) hes⟩
    | inl e =>
      cases script with
      | done a => exact ⟨hguar s, ih hscript hes⟩
      | call op next =>
        obtain ⟨hstep, hnext⟩ := hscript s (hrefl s) e hallowed
        exact ⟨hstep, ih hnext hes⟩

/-! ## Scripts in parallel -/

section

variable {ι : Type} [DecidableEq ι] (act : ι → ε → σ → (op : Op) → Res op × σ)
  (allowed : ι → ε → σ → Op → Prop)

/-- One script performs its next operation. -/
def parallelStep (c : σ × (ι → Script Op Res α)) (e : ι × ε) : σ × (ι → Script Op Res α) :=
  match c.2 e.1 with
  | .done _ => c
  | .call op next =>
    ((act e.1 e.2 c.1 op).2, Function.update c.2 e.1 (next (act e.1 e.2 c.1 op).1))

def ParallelAllowed (c : σ × (ι → Script Op Res α)) (e : ι × ε) : Prop :=
  match c.2 e.1 with
  | .done _ => True
  | .call op _ => allowed e.1 e.2 c.1 op

instance [∀ i e s op, Decidable (allowed i e s op)] (c : σ × (ι → Script Op Res α)) (e : ι × ε) :
    Decidable (ParallelAllowed allowed c e) :=
  match h : c.2 e.1 with
  | .done _ => isTrue (by rw [ParallelAllowed, h]; trivial)
  | .call op _ => decidable_of_iff (allowed e.1 e.2 c.1 op) (by rw [ParallelAllowed, h])

/-- Where each script guarantees what the others rely on, every script meets its contract over any
interleaving, whatever the others do next. -/
theorem meets_parallel {P : ι → Contract Op Res ε σ} {post : ι → α → σ → Prop}
    {scripts : ι → Script Op Res α} {s : σ} (hrefl : ∀ i s, (P i).rely s s)
    (htrans : ∀ i s s' s'', (P i).rely s s' → (P i).rely s' s'' → (P i).rely s s'')
    (hguar : ∀ i j, i ≠ j → ∀ s s', (P i).guar s s' → (P j).rely s s')
    (hscripts : ∀ i s', (P i).rely s s' → (P i).Meets (post i) (scripts i) s')
    (es : List (ι × ε))
    (hes : Along (parallelStep fun i => (P i).act) (ParallelAllowed fun i => (P i).allowed)
      (s, scripts) es) (i : ι) :
    (P i).Meets (post i) ((StepRun.run (parallelStep fun i => (P i).act) (s, scripts) es).2 i)
      (StepRun.run (parallelStep fun i => (P i).act) (s, scripts) es).1 := by
  have hall := run_induction
    (I := fun _ c => ∀ i s', (P i).rely c.1 s' → (P i).Meets (post i) (c.2 i) s') hscripts ?_ es hes
  · exact hall i _ (hrefl i _)
  · rintro - ⟨s, scripts⟩ ⟨j, e⟩ h hallowed i s' hs'
    unfold parallelStep at hs' ⊢
    unfold ParallelAllowed at hallowed
    simp only at hs' hallowed ⊢
    cases hj : scripts j with
    | done a =>
      rw [hj] at hs'
      exact h i s' hs'
    | call op next =>
      rw [hj] at hs' hallowed
      have hmeets : (P j).Meets (post j) (scripts j) s := h j s (hrefl j s)
      rw [hj] at hmeets
      obtain ⟨hstep, hnext⟩ := hmeets e hallowed
      by_cases hij : i = j
      · subst hij
        simp only [Function.update_self]
        exact hnext s' hs'
      · simp only [Function.update_of_ne hij]
        exact h i s' (htrans i _ _ _ (hguar j i (Ne.symm hij) _ _ hstep) hs')

end

end Contract
