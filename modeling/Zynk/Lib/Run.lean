import Mathlib.Data.List.Induction

/-!
# Runs of a step function

A system is a step function `step : σ → ε → σ`. An event carries everything the step
reads from outside (generated ids, clock readings, which worker moves), so an
interleaving of any number of actors is a list of events and `run` is the state it ends
in.

`Along` says that a condition on the state before a step and on the step holds at every
step of a run. `run_induction` is the invariant rule : an invariant of the history and
the state, kept by one step that meets the condition, holds after a run that meets it
along. `forall_prefix_iff_along` is the rule for a condition that is also necessary.
`run_invariant` is the case with no condition and no history. `run_flatten` compares a run
with a machine that takes its events in chunks.

`Occurs` says that some step of a run meets a condition, which may speak of the events before
it.
-/

namespace StepRun

variable {σ ε : Type*} (step : σ → ε → σ)

/-- The state after the events `es`, from `s`. -/
def run (s : σ) (es : List ε) : σ :=
  es.foldl step s

@[simp] theorem run_nil (s : σ) : run step s [] = s :=
  rfl

@[simp] theorem run_cons (s : σ) (e : ε) (es : List ε) :
    run step s (e :: es) = run step (step s e) es :=
  rfl

theorem run_append (s : σ) (es fs : List ε) :
    run step s (es ++ fs) = run step (run step s es) fs :=
  List.foldl_append

@[simp] theorem run_snoc (s : σ) (es : List ε) (e : ε) :
    run step s (es ++ [e]) = step (run step s es) e := by
  simp [run_append]

/-- `P` holds at every step of the run of `es` from `s` : of the state before the step
and of its event. -/
def Along (P : σ → ε → Prop) : σ → List ε → Prop
  | _, [] => True
  | s, e :: es => P s e ∧ Along P (step s e) es

variable {step} {P : σ → ε → Prop}

theorem along_append {s : σ} {es fs : List ε} :
    Along step P s (es ++ fs) ↔ Along step P s es ∧ Along step P (run step s es) fs := by
  induction es generalizing s with
  | nil => simp [Along]
  | cons e es ih => simp [Along, ih, and_assoc]

theorem along_snoc {s : σ} {es : List ε} {e : ε} :
    Along step P s (es ++ [e]) ↔ Along step P s es ∧ P (run step s es) e := by
  simp [along_append, Along]

theorem along_and {Q : σ → ε → Prop} {s : σ} {es : List ε} :
    Along step (fun s e => P s e ∧ Q s e) s es ↔ Along step P s es ∧ Along step Q s es := by
  induction es generalizing s with
  | nil => simp [Along]
  | cons e es ih => simp [Along, ih, and_assoc, and_left_comm]

theorem along_of_forall (es : List ε) (h : ∀ s, ∀ e ∈ es, P s e) {s : σ} : Along step P s es := by
  induction es generalizing s with
  | nil => trivial
  | cons e es ih =>
    exact ⟨h s e List.mem_cons_self, ih fun s e' he' => h s e' (List.mem_cons_of_mem _ he')⟩

/-- The invariant rule. `I` may speak of the events so far. -/
theorem run_induction {I : List ε → σ → Prop} {s : σ} (h0 : I [] s)
    (hstep : ∀ es t e, I es t → P t e → I (es ++ [e]) (step t e)) (es : List ε)
    (hes : Along step P s es) : I es (run step s es) := by
  induction es using List.reverseRecOn with
  | nil => exact h0
  | append_singleton es e ih =>
    obtain ⟨hes, he⟩ := along_snoc.1 hes
    rw [run_snoc]
    exact hstep es _ e (ih hes) he

/-- The invariant rule for an invariant of the state that every step keeps. -/
theorem run_invariant {I : σ → Prop} (hstep : ∀ t e, I t → I (step t e)) {s : σ} (h0 : I s)
    (es : List ε) : I (run step s es) := by
  induction es generalizing s with
  | nil => exact h0
  | cons e es ih => exact ih (hstep s e h0)

/-- An invariant holds all along a run exactly if every step meets the condition on which it is
kept. -/
theorem forall_prefix_iff_along {I : σ → Prop} {Q : σ → ε → Prop}
    (hstep : ∀ t e, I t → P t e → (I (step t e) ↔ Q t e)) (es : List ε) {s : σ} (h0 : I s)
    (hes : Along step P s es) :
    (∀ fs, fs <+: es → I (run step s fs)) ↔ Along step Q s es := by
  induction es generalizing s with
  | nil => exact iff_of_true (fun fs hfs => List.prefix_nil.1 hfs ▸ h0) trivial
  | cons e es ih =>
    have hiff := hstep s e h0 hes.1
    constructor
    · intro h
      have hkept : I (step s e) := h [e] (List.prefix_cons_inj e |>.2 (List.nil_prefix))
      exact ⟨hiff.1 hkept, (ih hkept hes.2).1 fun fs hfs =>
        h (e :: fs) ((List.prefix_cons_inj e).2 hfs)⟩
    · rintro ⟨he, h⟩ fs hfs
      cases fs with
      | nil => exact h0
      | cons f fs =>
        obtain ⟨rfl, hrest⟩ := List.cons_prefix_cons.1 hfs
        exact (ih (hiff.2 he) hes.2).2 h fs hrest

/-- A second machine takes the events in chunks. If it keeps up with the run over one chunk, it
keeps up over any. -/
theorem run_flatten {τ : Type*} {R : σ → τ → Prop} {observe : τ → List ε → τ}
    (hobserve : ∀ s t es, R s t → Along step P s es → R (run step s es) (observe t es))
    (chunks : List (List ε)) {s : σ} {t : τ} (h : R s t) (hes : Along step P s chunks.flatten) :
    R (run step s chunks.flatten) (chunks.foldl observe t) := by
  induction chunks generalizing s t with
  | nil => exact h
  | cons chunk chunks ih =>
    obtain ⟨hchunk, hchunks⟩ := along_append.1 hes
    rw [List.flatten_cons, run_append]
    exact ih (hobserve s t chunk h hchunk) hchunks

instance decidableAlong [∀ s e, Decidable (P s e)] :
    ∀ (s : σ) (es : List ε), Decidable (Along step P s es)
  | _, [] => .isTrue trivial
  | s, e :: es =>
    have := decidableAlong (step s e) es
    inferInstanceAs (Decidable (P s e ∧ Along step P (step s e) es))

variable (step)

/-- At some step of the run `Q` holds : of the events before the step, of the state they lead
to and of the event. -/
def Occurs (Q : List ε → σ → ε → Prop) (s : σ) (es : List ε) : Prop :=
  ∃ pre e post, es = pre ++ e :: post ∧ Q pre (run step s pre) e

variable {step} {Q : List ε → σ → ε → Prop}

@[simp] theorem not_occurs_nil (s : σ) : ¬ Occurs step Q s [] := by
  rintro ⟨pre, e, post, h, -⟩
  simp at h

/-- The first step, or a later one. -/
@[simp] theorem occurs_cons {s : σ} {e : ε} {es : List ε} :
    Occurs step Q s (e :: es) ↔ Q [] s e ∨ Occurs step (fun pre => Q (e :: pre)) (step s e) es := by
  constructor
  · rintro ⟨_ | ⟨e', pre⟩, e'', post, h, hQ⟩
    · simp only [List.nil_append, List.cons.injEq] at h
      exact Or.inl (h.1 ▸ hQ)
    · simp only [List.cons_append, List.cons.injEq] at h
      obtain ⟨rfl, rfl⟩ := h
      exact Or.inr ⟨pre, e'', post, rfl, hQ⟩
  · rintro (hQ | ⟨pre, e', post, rfl, hQ⟩)
    · exact ⟨[], e, es, rfl, hQ⟩
    · exact ⟨e :: pre, e', post, rfl, hQ⟩

/-- Steps before, and steps after that know of those before. -/
theorem occurs_append {s : σ} {es fs : List ε} :
    Occurs step Q s (es ++ fs) ↔
      Occurs step Q s es ∨ Occurs step (fun pre => Q (es ++ pre)) (run step s es) fs := by
  induction es generalizing s Q with
  | nil => simp
  | cons e es ih => simp [ih, or_assoc]

theorem occurs_snoc {s : σ} {es : List ε} {e : ε} :
    Occurs step Q s (es ++ [e]) ↔ Occurs step Q s es ∨ Q es (run step s es) e := by
  simp [occurs_append]

end StepRun
