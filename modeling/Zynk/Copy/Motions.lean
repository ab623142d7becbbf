import Zynk.Copy.Runs

/-!
# Where the motions of copy mode land

With as many rows in the viewport as the pane has, the cursor of copy mode is a cursor in a window
on the history (`Spot.window`), and the motions across rows are those of such a window
(`Spot.window_up`, `Spot.Sized.window_pageUp` and so on). A paragraph motion takes such a window
line by line to the first blank row or to the edge (`Spot.Sized.paragraph_stop`).
-/

namespace Zynk

namespace CopyMode

open Text

/-! ## The window of a spot -/

/-- The cursor in its window on the history. -/
def Spot.window (p : CopyPane) (a : Spot) : Window where
  above := a.metrics.maxOffsetFromBottom
  height := p.height
  offset := a.metrics.offsetFromBottom
  row := a.row

/-- The cursor is in its row of the pane, and the rows fit into `u32`. -/
structure Spot.Sized (p : CopyPane) (a : Spot) : Prop where
  row_lt : a.row < p.height
  width_pos : 0 < p.width
  viewportRows : a.metrics.viewportRows = p.height
  rows_lt : a.metrics.maxOffsetFromBottom + p.height < 2 ^ 32

namespace Spot

variable {p : CopyPane} {a : Spot} {unicode : Unicode}

theorem Sized.fits (h : a.Sized p) : (a.window p).Fits :=
  ⟨a.metrics.offset_le, h.row_lt⟩

theorem Sized.viewportTopRow (h : a.Sized p) : a.metrics.viewportTopRow = (a.window p).top := by
  have hrows := h.rows_lt
  simp only [ScrollMetrics.viewportTopRow, Window.top, window]
  omega

theorem height_le (p : CopyPane) : p.height ≤ 65535 := by
  have := p.info.innerRect.height_lt
  rw [CopyPane.height]
  omega

theorem width_le (p : CopyPane) : p.width ≤ 65535 := by
  have := p.info.innerRect.width_lt
  rw [CopyPane.width]
  omega

theorem window_up (a : Spot) : a.up.window p = (a.window p).lineUp := by
  by_cases hrow : 1 ≤ a.row
  · rw [up, if_pos hrow, Window.lineUp, if_pos (show 1 ≤ (a.window p).row from hrow)]
    rfl
  · rw [up, if_neg hrow, Window.lineUp, if_neg (show ¬ 1 ≤ (a.window p).row from hrow)]
    rfl

theorem saturatingAdd16_one_le {row bottom : ℕ} (hbottom : bottom < 65535) :
    saturatingAdd16 row 1 ≤ bottom ↔ row + 1 ≤ bottom := by
  rw [saturatingAdd16]
  omega

theorem window_down (a : Spot) : (a.down p).window p = (a.window p).lineDown := by
  have hheight := height_le p
  have hsat : saturatingAdd16 a.row 1 ≤ p.height - 1 ↔ (a.window p).row + 1 ≤ p.height - 1 :=
    saturatingAdd16_one_le (by omega)
  by_cases hin : saturatingAdd16 a.row 1 ≤ p.height - 1
  · rw [down, if_pos hin, Window.lineDown,
      if_pos (show (a.window p).row + 1 ≤ (a.window p).height - 1 from hsat.mp hin)]
    rfl
  · rw [down, if_neg hin, Window.lineDown,
      if_neg (show ¬ (a.window p).row + 1 ≤ (a.window p).height - 1 from mt hsat.mpr hin)]
    have hoffset := a.metrics.offset_le
    simp only [window, ScrollMetrics.scrollDown, ScrollMetrics.offsetFromBottom_setOffset,
      ScrollMetrics.maxOffsetFromBottom_setOffset, Window.mk.injEq, true_and, and_true]
    omega

theorem copyModePageLines_le (p : CopyPane) (half : Bool) :
    copyModePageLines p.height half ≤ 65535 := by
  have hheight := height_le p
  rw [copyModePageLines]
  split
  · omega
  · split <;> omega

theorem Sized.window_pageUp (h : a.Sized p) {n : ℕ} (hn : n ≤ 65535) :
    (a.pageUp n).window p = (a.window p).pageUp n := by
  have hrows := h.rows_lt
  have hoffset := a.metrics.offset_le
  have hadd : saturatingAdd64 a.metrics.offsetFromBottom n = a.metrics.offsetFromBottom + n := by
    rw [saturatingAdd64]
    omega
  simp only [pageUp, pageCarry, Window.pageUp, window, hadd,
    ScrollMetrics.offsetFromBottom_setOffset, ScrollMetrics.maxOffsetFromBottom_setOffset,
    Window.mk.injEq, true_and]
  split <;> omega

theorem Sized.window_pageDown (h : a.Sized p) {n : ℕ} (hn : n ≤ 65535) :
    (a.pageDown p n).window p = (a.window p).pageDown n := by
  have hrow := h.row_lt
  have hheight := height_le p
  have hoffset := a.metrics.offset_le
  simp only [pageDown, Window.pageDown, window, saturatingAdd16,
    ScrollMetrics.offsetFromBottom_setOffset, ScrollMetrics.maxOffsetFromBottom_setOffset,
    Window.mk.injEq, true_and]
  refine ⟨by omega, ?_⟩
  split <;> omega

theorem window_historyTop (a : Spot) : a.historyTop.window p = (a.window p).toTop := by
  simp [historyTop, Window.toTop, window]

theorem window_historyBottom (a : Spot) :
    (a.historyBottom p).window p = (a.window p).toBottom := by
  simp [historyBottom, Window.toBottom, window]

theorem reach_le (p : CopyPane) (reserveOverlayRow : Bool) :
    reach p reserveOverlayRow ≤ p.height - 1 := by
  rw [reach]
  split <;> omega

theorem Sized.window_goTo (h : a.Sized p) (target : TerminalTextPoint)
    (reserveOverlayRow : Bool) :
    (a.goTo p target reserveOverlayRow).window p =
      (a.window p).goTo (reach p reserveOverlayRow) target.row := by
  have hrows := h.rows_lt
  have htop := h.viewportTopRow
  have hreach := reach_le p reserveOverlayRow
  have hdesired : a.desiredTop p target reserveOverlayRow =
      (a.window p).topFor (reach p reserveOverlayRow) target.row := by
    have hmin : min ((a.window p).top + reach p reserveOverlayRow) 4294967295 =
        (a.window p).top + reach p reserveOverlayRow := by
      simp only [Window.top, window]
      omega
    rw [desiredTop, htop, hmin, Window.topFor]
  simp only [goTo, Window.goTo, hdesired, ScrollMetrics.viewportTopRow]
  generalize (a.window p).topFor (reach p reserveOverlayRow) target.row = top
  simp only [window, ScrollMetrics.offsetFromBottom_setOffset,
    ScrollMetrics.maxOffsetFromBottom_setOffset, Window.mk.injEq, true_and]
  omega

/-! ## Motions keep the pane -/

/-- The metrics differ in the offset. -/
def Scrolled (a b : Spot) : Prop :=
  ∃ n, b.metrics = a.metrics.setOffset n

theorem scrolled_of_eq {b : Spot} (h : b.metrics = a.metrics) : a.Scrolled b := by
  refine ⟨a.metrics.offsetFromBottom, h.trans ?_⟩
  have hoffset := a.metrics.offset_le
  simp only [ScrollMetrics.setOffset, Nat.min_eq_left hoffset]

theorem Scrolled.trans {b c : Spot} (h : a.Scrolled b) (h' : b.Scrolled c) : a.Scrolled c := by
  obtain ⟨n, hn⟩ := h
  obtain ⟨n', hn'⟩ := h'
  exact ⟨n', by rw [hn', hn]; rfl⟩

theorem scrolled_line (a : Spot) (up : Bool) : a.Scrolled (a.line p up) := by
  cases up with
  | true =>
    by_cases hrow : 1 ≤ a.row
    · exact scrolled_of_eq (by rw [line, if_pos rfl, Spot.up, if_pos hrow])
    · exact ⟨_, by rw [line, if_pos rfl, Spot.up, if_neg hrow]; rfl⟩
  | false =>
    by_cases hrow : saturatingAdd16 a.row 1 ≤ p.height - 1
    · exact scrolled_of_eq (by rw [line, if_neg (by simp), Spot.down, if_pos hrow])
    · exact ⟨_, by rw [line, if_neg (by simp), Spot.down, if_neg hrow]; rfl⟩

theorem scrolled_paragraphLoop (up : Bool) (limit : ℕ) :
    ∀ a : Spot, a.Scrolled (paragraphLoop p up limit a) := by
  induction limit with
  | zero => exact fun a => scrolled_of_eq rfl
  | succ limit ih =>
    intro a
    have hline := scrolled_line (p := p) a up
    rw [paragraphLoop]
    split
    · exact hline
    · split
      · exact hline
      · exact hline.trans (ih _)

theorem scrolled_goToTarget (target : Option TerminalTextPoint) (reserveOverlayRow : Bool) :
    a.Scrolled (a.goToTarget p target reserveOverlayRow) := by
  cases target with
  | none => exact scrolled_of_eq rfl
  | some target => exact ⟨_, rfl⟩

/-- A motion scrolls, and does not touch the rows of the history. -/
theorem scrolled_spot (cm : CopyModeState) (m : Motion) :
    a.Scrolled (m.spot p unicode cm a) := by
  cases m with
  | left => exact scrolled_of_eq rfl
  | right => exact scrolled_of_eq rfl
  | up => exact @scrolled_line p a true
  | down => exact scrolled_line a false
  | page up half => cases up <;> exact ⟨_, rfl⟩
  | historyTop => exact ⟨_, rfl⟩
  | historyBottom => exact ⟨_, rfl⟩
  | lineEdge «end» =>
    cases «end» with
    | false => exact scrolled_of_eq rfl
    | true =>
      rw [Motion.spot, lineEnd]
      split <;> exact scrolled_of_eq rfl
  | firstNonBlank =>
    rw [Motion.spot, firstNonBlank]
    split <;> exact scrolled_of_eq rfl
  | word motion => exact scrolled_goToTarget _ _
  | paragraph up => exact scrolled_paragraphLoop up _ a
  | submit query direction => exact scrolled_goToTarget _ _
  | again reverse => exact scrolled_goToTarget _ _

theorem Sized.of_scrolled {b : Spot} (h : a.Sized p) (hb : a.Scrolled b)
    (hrow : b.row < p.height) : b.Sized p := by
  obtain ⟨n, hn⟩ := hb
  exact ⟨hrow, h.width_pos, by rw [hn]; exact h.viewportRows, by rw [hn]; exact h.rows_lt⟩

theorem window_line (a : Spot) (up : Bool) :
    (a.line p up).window p = if up then (a.window p).lineUp else (a.window p).lineDown := by
  cases up with
  | true => exact window_up a
  | false => exact window_down a

theorem Sized.line (h : a.Sized p) (up : Bool) : (a.line p up).Sized p := by
  refine h.of_scrolled (scrolled_line a up) ?_
  have hfits : ((a.line p up).window p).Fits := by
    rw [window_line]
    cases up with
    | true => exact h.fits.lineUp
    | false => exact h.fits.lineDown
  exact hfits.row_lt

theorem Sized.paragraphLoop (up : Bool) (limit : ℕ) :
    ∀ {a : Spot}, a.Sized p → (paragraphLoop p up limit a).Sized p := by
  induction limit with
  | zero => exact fun h => h
  | succ limit ih =>
    intro a h
    rw [Spot.paragraphLoop]
    split
    · exact h.line up
    · split
      · exact h.line up
      · exact ih (h.line up)

theorem Sized.height_pos (h : a.Sized p) : 0 < p.height :=
  Nat.zero_lt_of_lt h.row_lt

theorem Sized.goToTarget (h : a.Sized p) (target : Option TerminalTextPoint)
    (reserveOverlayRow : Bool) : (a.goToTarget p target reserveOverlayRow).Sized p := by
  refine h.of_scrolled (scrolled_goToTarget _ _) ?_
  cases target with
  | none => exact h.row_lt
  | some target =>
    have hheight := h.height_pos
    simp only [Spot.goToTarget, goTo]
    omega

/-- After a motion the cursor is in a row of the pane. -/
theorem Sized.spot (h : a.Sized p) (cm : CopyModeState) (m : Motion) :
    (m.spot p unicode cm a).Sized p := by
  have hrow := h.row_lt
  refine h.of_scrolled (scrolled_spot cm m) ?_
  cases m with
  | left => exact hrow
  | right => exact hrow
  | up => exact (h.line true).row_lt
  | down => exact (h.line false).row_lt
  | page up half =>
    cases up with
    | true => exact (Nat.sub_le _ _).trans_lt hrow
    | false =>
      have hfits := h.fits.pageDown (copyModePageLines p.height half)
      rw [← h.window_pageDown (copyModePageLines_le p half)] at hfits
      exact hfits.row_lt
  | historyTop => exact h.height_pos
  | historyBottom => exact Nat.sub_lt h.height_pos Nat.one_pos
  | lineEdge «end» =>
    cases «end» with
    | false => exact hrow
    | true =>
      rw [Motion.spot, lineEnd]
      split <;> exact hrow
  | firstNonBlank =>
    rw [Motion.spot, firstNonBlank]
    split <;> exact hrow
  | word motion => exact (h.goToTarget _ _).row_lt
  | paragraph up => exact (Sized.paragraphLoop up _ h).row_lt
  | submit query direction => exact (h.goToTarget _ _).row_lt
  | again reverse => exact (h.goToTarget _ _).row_lt

end Spot

/-! ## Paragraphs -/

/-- The edge of a history of `rows` rows. -/
def edge (up : Bool) (rows : ℕ) : ℕ :=
  if up then 0 else rows - 1

/-- The row `k` rows ahead, and the edge past it. -/
def ahead (up : Bool) (rows start k : ℕ) : ℕ :=
  if up then start - k else min (start + k) (rows - 1)

/-- The row a paragraph motion ends at : the nearest one ahead that is blank or at the edge, if
there is one among the next `limit` rows, and the last of these otherwise. -/
def ParagraphStop (blank : ℕ → Prop) (up : Bool) (rows limit start stop : ℕ) : Prop :=
  ∃ k, 1 ≤ k ∧ k ≤ limit ∧ stop = ahead up rows start k ∧
    (∀ j, 1 ≤ j → j < k → ¬ blank (ahead up rows start j) ∧
      ahead up rows start j ≠ edge up rows) ∧
    (blank stop ∨ stop = edge up rows ∨ k = limit)

/-- The row is blank in the terminal. -/
def CopyPane.BlankAt (p : CopyPane) (row : ℕ) : Prop :=
  AppState.isBlankRow (p.content.extractSelection ((row, 0), (row, p.width - 1))) = true

theorem ParagraphStop.cons {blank : ℕ → Prop} {up : Bool} {rows limit start stop : ℕ}
    (hblank : ¬ blank (ahead up rows start 1)) (hedge : ahead up rows start 1 ≠ edge up rows)
    (hstart : start < rows) (h : ParagraphStop blank up rows limit (ahead up rows start 1) stop) :
    ParagraphStop blank up rows (limit + 1) start stop := by
  obtain ⟨k, hk, hlimit, hstop, hbefore, hend⟩ := h
  have hshift (j : ℕ) : ahead up rows (ahead up rows start 1) j = ahead up rows start (j + 1) := by
    cases up <;> simp only [ahead, Bool.false_eq_true, if_true, if_false] <;> omega
  refine ⟨k + 1, by omega, by omega, by rw [hstop, hshift], fun j hj hjk => ?_, ?_⟩
  · rcases Nat.lt_or_ge 1 j with hlt | hge
    · obtain ⟨i, rfl⟩ : ∃ i, j = i + 1 := ⟨j - 1, by omega⟩
      rw [← hshift]
      exact hbefore i (by omega) (by omega)
    · obtain rfl : j = 1 := by omega
      exact ⟨hblank, hedge⟩
  · rcases hend with hend | hend | hend
    · exact Or.inl hend
    · exact Or.inr (Or.inl hend)
    · exact Or.inr (Or.inr (by omega))

namespace Spot

variable {p : CopyPane} {a : Spot} {unicode : Unicode}

/-- What is shown of the row of the cursor is the row of the terminal. -/
theorem Sized.rowText_eq (h : a.Sized p) : p.rowText a.metrics a.row =
    p.content.extractSelection
      (((a.window p).line, 0), ((a.window p).line, p.width - 1)) := by
  have hrow := h.row_lt
  have hwidth := h.width_pos
  have hrows := h.rows_lt
  have hoffset := a.metrics.offset_le
  have hline : absoluteRowForViewportRow a.row (some a.metrics) = (a.window p).line := by
    simp only [absoluteRowForViewportRow, Option.elim_some, Window.line, Window.top, window]
    omega
  rw [CopyPane.rowText, if_neg (by omega), Selection.range, hline, Selection.orderedCells,
    if_pos (Or.inr ⟨rfl, Nat.zero_le _⟩)]

theorem Sized.line_line (h : a.Sized p) (up : Bool) :
    ((a.line p up).window p).line = ahead up (a.window p).rows (a.window p).line 1 := by
  rw [window_line]
  cases up with
  | true => exact h.fits.line_lineUp
  | false => exact h.fits.line_lineDown

/-- A step of a paragraph motion is at the edge when its row is. -/
theorem Sized.atEdge_iff (h : a.Sized p) (up : Bool) : a.AtEdge p up (a.line p up) ↔
    ((a.line p up).window p).line = edge up (a.window p).rows := by
  have hrow := h.row_lt
  have hheight := height_le p
  have hoffset := a.metrics.offset_le
  cases up with
  | true =>
    rw [h.line_line, ahead, edge, if_pos rfl, if_pos rfl]
    by_cases hin : 1 ≤ a.row
    · have hup : a.line p true = { a with row := a.row - 1 } := by
        rw [Spot.line, if_pos rfl, Spot.up, if_pos hin]
      simp only [hup, AtEdge, true_and, and_true, or_false, Bool.true_eq_false, false_and,
        Window.line, Window.top, window]
      omega
    · have hup : a.line p true = { a with metrics := a.metrics.scrollUp 1, row := 0 } := by
        rw [Spot.line, if_pos rfl, Spot.up, if_neg hin]
      simp only [hup, AtEdge, true_and, or_false, Bool.true_eq_false, false_and, Window.line,
        Window.top, window, ScrollMetrics.scrollUp, ScrollMetrics.offsetFromBottom_setOffset,
        ScrollMetrics.maxOffsetFromBottom_setOffset]
      omega
  | false =>
    rw [h.line_line, ahead, edge, if_neg (by simp), if_neg (by simp)]
    have hsat := @saturatingAdd16_one_le a.row (p.height - 1) (by omega)
    by_cases hin : saturatingAdd16 a.row 1 ≤ p.height - 1
    · have hdown : a.line p false = { a with row := a.row + 1 } := by
        rw [Spot.line, if_neg (by simp), Spot.down, if_pos hin]
      have hrow' := hsat.mp hin
      simp only [hdown, AtEdge, Bool.false_eq_true, false_and, true_and, and_true, false_or,
        Window.line, Window.top, window, Window.rows]
      omega
    · have hdown : a.line p false =
          { a with metrics := a.metrics.scrollDown 1, row := p.height - 1 } := by
        rw [Spot.line, if_neg (by simp), Spot.down, if_neg hin]
      have hrow' := mt hsat.mpr hin
      simp only [hdown, AtEdge, Bool.false_eq_true, false_and, true_and, false_or, Window.line,
        Window.top, window, Window.rows, ScrollMetrics.scrollDown,
        ScrollMetrics.offsetFromBottom_setOffset, ScrollMetrics.maxOffsetFromBottom_setOffset]
      omega

theorem rows_line (a : Spot) (up : Bool) : ((a.line p up).window p).rows = (a.window p).rows := by
  rw [window_line, Window.rows, Window.rows]
  cases up with
  | true => rw [if_pos rfl, Window.above_lineUp, Window.height_lineUp]
  | false => rw [if_neg (by simp), Window.above_lineDown, Window.height_lineDown]

theorem Sized.paragraphLoop_stop (up : Bool) (limit : ℕ) : ∀ {a : Spot}, a.Sized p →
    ParagraphStop p.BlankAt up (a.window p).rows (limit + 1) (a.window p).line
      ((Spot.paragraphLoop p up (limit + 1) a).window p).line := by
  induction limit with
  | zero =>
    intro a h
    have hloop : Spot.paragraphLoop p up 1 a = a.line p up := by
      rw [Spot.paragraphLoop]
      split
      · rfl
      · split <;> rfl
    rw [hloop, h.line_line]
    exact ⟨1, le_refl _, le_refl _, rfl, fun j hj hj' => by omega, Or.inr (Or.inr rfl)⟩
  | succ limit ih =>
    intro a h
    have hafter := h.line up
    rw [Spot.paragraphLoop, hafter.rowText_eq]
    by_cases hblank : p.BlankAt ((a.line p up).window p).line
    · rw [if_pos (show AppState.isBlankRow _ = true from hblank)]
      refine ⟨1, le_refl _, by omega, h.line_line up, fun j hj hj' => by omega, Or.inl hblank⟩
    · rw [if_neg (show ¬ AppState.isBlankRow _ = true from hblank)]
      by_cases hedge : a.AtEdge p up (a.line p up)
      · rw [if_pos hedge]
        exact ⟨1, le_refl _, by omega, h.line_line up, fun j hj hj' => by omega,
          Or.inr (Or.inl ((h.atEdge_iff up).mp hedge))⟩
      · rw [if_neg hedge]
        have hrest := ih hafter
        rw [rows_line, h.line_line] at hrest
        rw [h.line_line] at hblank
        rw [h.atEdge_iff, h.line_line] at hedge
        exact ParagraphStop.cons hblank hedge h.fits.line_lt hrest

/-- A paragraph motion looks at the next thousand rows, or at all there are. -/
theorem Sized.paragraph_stop (h : a.Sized p) (up : Bool) :
    ParagraphStop p.BlankAt up (a.window p).rows 1000 (a.window p).line
      ((a.paragraph p up).window p).line := by
  have hlt := h.fits.line_lt
  have hlimit : a.paragraphLimit = min (a.window p).rows 1000 := by
    rw [paragraphLimit, h.viewportRows, Window.rows]
    have := h.height_pos
    simp only [window]
    omega
  have hpos : 0 < a.paragraphLimit := by omega
  obtain ⟨limit, hsucc⟩ : ∃ limit, a.paragraphLimit = limit + 1 := ⟨a.paragraphLimit - 1, by omega⟩
  rw [paragraph, hsucc]
  obtain ⟨k, hk, hle, hstop, hbefore, hend⟩ := Sized.paragraphLoop_stop up limit h
  refine ⟨k, hk, by omega, hstop, hbefore, ?_⟩
  rcases hend with hend | hend | hend
  · exact Or.inl hend
  · exact Or.inr (Or.inl hend)
  · rcases Nat.lt_or_ge (a.window p).rows 1000 with hfew | hmany
    · refine Or.inr (Or.inl ?_)
      rw [hstop]
      cases up <;> simp only [ahead, edge, Bool.false_eq_true, if_true, if_false] <;> omega
    · exact Or.inr (Or.inr (by omega))

end Spot

end CopyMode

end Zynk
