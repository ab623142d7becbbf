import Mathlib.Data.List.Basic

/-!
# Pieces of a list, in order

A consumer takes a list from its front : it hands on some pieces and drops what lies between
them. `Pieces ps x` says that `ps` are such pieces of `x`, disjoint and in order. `Taken x ps y`
is the consumer's step : `y` is what it still holds of `x`, and every piece it handed on lies
before that.
-/

variable {α : Type*}

/-- The lists `ps` lie in `x` one after the other. -/
inductive Pieces : List (List α) → List α → Prop where
  | nil (x : List α) : Pieces [] x
  | cons {ps : List (List α)} {x : List α} (skipped p : List α) (h : Pieces ps x) :
      Pieces (p :: ps) (skipped ++ (p ++ x))

namespace Pieces

theorem single (p : List α) : Pieces [p] p := by
  have h := cons [] p (nil [])
  simpa using h

/-- What is in front may be skipped. -/
theorem skip {ps : List (List α)} {x : List α} (h : Pieces ps x) (y : List α) :
    Pieces ps (y ++ x) := by
  cases h with
  | nil => exact nil _
  | cons skipped p h =>
    rw [← List.append_assoc]
    exact cons (y ++ skipped) p h

theorem append {ps qs : List (List α)} {x y : List α} (hx : Pieces ps x) (hy : Pieces qs y) :
    Pieces (ps ++ qs) (x ++ y) := by
  induction hx with
  | nil x => exact hy.skip x
  | cons skipped p _ ih =>
    rw [List.cons_append, List.append_assoc, List.append_assoc]
    exact cons skipped p ih

/-- The first of the pieces. -/
theorem of_append {ps qs : List (List α)} {x : List α} (h : Pieces (ps ++ qs) x) : Pieces ps x := by
  induction ps generalizing x with
  | nil => exact nil x
  | cons p ps ih =>
    cases h with
    | cons skipped _ h => exact cons skipped p (ih h)

end Pieces

/-- Of `x` the pieces `ps` were handed on and `y` is still held, behind all of them. -/
def Taken (x : List α) (ps : List (List α)) (y : List α) : Prop :=
  ∃ settled, x = settled ++ y ∧ Pieces ps settled

namespace Taken

theorem refl (x : List α) : Taken x [] x :=
  ⟨[], rfl, .nil []⟩

/-- Everything is handed on at once. -/
theorem all (x : List α) : Taken x [x] [] :=
  ⟨x, (List.append_nil x).symm, .single x⟩

/-- The front is handed on. -/
theorem front (p x : List α) : Taken (p ++ x) [p] x :=
  ⟨p, rfl, .single p⟩

/-- Something is dropped. -/
theorem dropped {x y : List α} (h : y <:+ x) : Taken x [] y := by
  obtain ⟨settled, rfl⟩ := h
  exact ⟨settled, rfl, .nil settled⟩

theorem trans {x y z : List α} {ps qs : List (List α)} (hxy : Taken x ps y)
    (hyz : Taken y qs z) : Taken x (ps ++ qs) z := by
  obtain ⟨a, rfl, ha⟩ := hxy
  obtain ⟨b, rfl, hb⟩ := hyz
  exact ⟨a ++ b, (List.append_assoc a b z).symm, ha.append hb⟩

/-- What was taken last may be left out of the pieces. -/
theorem of_append {x y : List α} {ps qs : List (List α)} (h : Taken x (ps ++ qs) y) :
    Taken x ps y := by
  obtain ⟨a, rfl, ha⟩ := h
  exact ⟨a, rfl, ha.of_append⟩

/-- More arrives behind. -/
theorem extend {x y : List α} {ps : List (List α)} (h : Taken x ps y) (t : List α) :
    Taken (x ++ t) ps (y ++ t) := by
  obtain ⟨a, rfl, ha⟩ := h
  exact ⟨a, List.append_assoc a y t, ha⟩

end Taken
