import Mathlib.Order.Lattice

/-!
# A window on a column of rows

`height` rows of a column are in view, and `above` rows stand over the lowest place the window can
take. The window is `offset` rows up from that place, and a cursor is on its row `row`. The line of
the cursor is its row in the column (`line`).

A move of the cursor splits its distance between the window and the row. `lineUp` and `lineDown`
move the row first and the window at an edge, `pageUp` and `pageDown` move the window first and the
row by what is left, `goTo` moves the window by as little as brings a line into view.
-/

namespace Zynk

/-- A window with a cursor in it. -/
@[ext]
structure Window where
  above : ℕ
  height : ℕ
  offset : ℕ
  row : ℕ
  deriving DecidableEq, Repr

namespace Window

variable {w : Window}

/-- The rows of the column. -/
def rows (w : Window) : ℕ :=
  w.above + w.height

/-- The first line in view. -/
def top (w : Window) : ℕ :=
  w.above - w.offset

/-- The line of the cursor. -/
def line (w : Window) : ℕ :=
  w.top + w.row

/-- The window is on the column, and the cursor in the window. -/
structure Fits (w : Window) : Prop where
  offset_le : w.offset ≤ w.above
  row_lt : w.row < w.height

theorem Fits.line_lt (h : w.Fits) : w.line < w.rows := by
  have := h.offset_le
  have := h.row_lt
  simp only [line, top, rows]
  omega

/-! ## Lines -/

def lineUp (w : Window) : Window :=
  if 1 ≤ w.row then { w with row := w.row - 1 }
  else { w with offset := min (w.offset + 1) w.above, row := 0 }

def lineDown (w : Window) : Window :=
  if w.row + 1 ≤ w.height - 1 then { w with row := w.row + 1 }
  else { w with offset := w.offset - 1, row := w.height - 1 }

theorem above_lineUp (w : Window) : w.lineUp.above = w.above := by
  unfold lineUp
  split <;> rfl

theorem height_lineUp (w : Window) : w.lineUp.height = w.height := by
  unfold lineUp
  split <;> rfl

theorem above_lineDown (w : Window) : w.lineDown.above = w.above := by
  unfold lineDown
  split <;> rfl

theorem height_lineDown (w : Window) : w.lineDown.height = w.height := by
  unfold lineDown
  split <;> rfl

theorem Fits.lineUp (h : w.Fits) : w.lineUp.Fits := by
  have hoffset := h.offset_le
  have hrow := h.row_lt
  unfold Window.lineUp
  split
  · exact ⟨hoffset, by dsimp only; omega⟩
  · exact ⟨by dsimp only; omega, by dsimp only; omega⟩

theorem Fits.lineDown (h : w.Fits) : w.lineDown.Fits := by
  have hoffset := h.offset_le
  have hrow := h.row_lt
  unfold Window.lineDown
  split
  · exact ⟨hoffset, by dsimp only; omega⟩
  · exact ⟨by dsimp only; omega, by dsimp only; omega⟩

/-- One line up, and not past the first. -/
theorem Fits.line_lineUp (h : w.Fits) : w.lineUp.line = w.line - 1 := by
  have hoffset := h.offset_le
  unfold Window.lineUp
  split <;> simp only [line, top] <;> omega

/-- One line down, and not past the last. -/
theorem Fits.line_lineDown (h : w.Fits) : w.lineDown.line = min (w.line + 1) (w.rows - 1) := by
  have hoffset := h.offset_le
  have hrow := h.row_lt
  unfold Window.lineDown
  split <;> simp only [line, top, rows] <;> omega

/-! ## Pages -/

def pageUp (n : ℕ) (w : Window) : Window :=
  { w with offset := min (w.offset + n) w.above, row := w.row - (w.offset + n - w.above) }

def pageDown (n : ℕ) (w : Window) : Window :=
  { w with offset := w.offset - n, row := min (w.row + (n - w.offset)) (w.height - 1) }

theorem Fits.pageDown (h : w.Fits) (n : ℕ) : (w.pageDown n).Fits := by
  have hoffset := h.offset_le
  have hrow := h.row_lt
  exact ⟨by simp only [Window.pageDown]; omega, by simp only [Window.pageDown]; omega⟩

theorem Fits.line_pageUp (h : w.Fits) (n : ℕ) : (w.pageUp n).line = w.line - n := by
  have hoffset := h.offset_le
  simp only [Window.pageUp, line, top]
  omega

theorem Fits.line_pageDown (h : w.Fits) (n : ℕ) :
    (w.pageDown n).line = min (w.line + n) (w.rows - 1) := by
  have hoffset := h.offset_le
  have hrow := h.row_lt
  simp only [Window.pageDown, line, top, rows]
  omega

/-! ## Lines given by their number -/

def toTop (w : Window) : Window :=
  { w with offset := w.above, row := 0 }

def toBottom (w : Window) : Window :=
  { w with offset := 0, row := w.height - 1 }

/-- The first line in view once `target` is among the first `reach + 1` lines in view. -/
def topFor (reach target : ℕ) (w : Window) : ℕ :=
  if target < w.top then target
  else if w.top + reach < target then target - reach
  else w.top

def goTo (reach target : ℕ) (w : Window) : Window :=
  { w with
    offset := min (w.above - w.topFor reach target) w.above
    row := min (target - (w.above - min (w.above - w.topFor reach target) w.above)) (w.height - 1) }

theorem line_toTop (w : Window) : w.toTop.line = 0 := by
  simp [toTop, line, top]

theorem Fits.line_toBottom (h : w.Fits) : w.toBottom.line = w.rows - 1 := by
  have hrow := h.row_lt
  simp only [Window.toBottom, line, top, rows]
  omega

/-- The cursor is on the target, whatever part of the window it was to be in. -/
theorem Fits.line_goTo (h : w.Fits) {reach target : ℕ} (hreach : reach ≤ w.height - 1)
    (htarget : target < w.rows) : (w.goTo reach target).line = target := by
  have hoffset := h.offset_le
  have hrow := h.row_lt
  simp only [rows] at htarget
  have htop : w.topFor reach target ≤ target ∧ target ≤ w.topFor reach target + (w.height - 1) := by
    rcases lt_or_ge target w.top with hover | hunder
    · rw [topFor, if_pos hover]
      omega
    · rcases lt_or_ge (w.top + reach) target with hbelow | hin
      · rw [topFor, if_neg (by omega), if_pos hbelow]
        omega
      · rw [topFor, if_neg (by omega), if_neg (by omega)]
        omega
  simp only [goTo, line, top]
  omega

end Window

end Zynk
