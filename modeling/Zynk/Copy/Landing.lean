import Zynk.Copy.Motions

/-!
# Copy-mode motions land exactly

In a run without a change of the pane's size every motion across rows takes the line of the cursor
to where it is to be (`Motion.LandsOn`), and leaving copy mode restores the scroll position it was
entered with (`LandsExactly`). The cursor stays in its row of the pane.

The column stays inside the pane under every motion but one. The first character that is not blank
is looked for among the characters of the row, each counted as one column at least, and the column
it is found at is not clamped : a mark that combines with a blank in the last column is found past
it (`cursor_leaves_pane`). So the cursor stays inside the pane exactly in the runs that ask for the
first character only where the blanks before it are narrower than the pane (`motions_land`).
-/

namespace Zynk

namespace CopyMode

open Text

/-! ## Columns -/

/-- The blanks at the front of a text are narrower than the pane, or they are all there is. -/
def LeadingFits (unicode : Unicode) (text : Text) (width : ℕ) : Prop :=
  text.all isWhitespace = true ∨
    ((text.takeWhile isWhitespace).map (charCellWidth unicode)).sum < width

theorem firstNonBlankColFrom_eq (unicode : Unicode) (text : Text) : ∀ {col : ℕ}, col ≤ 65535 →
    firstNonBlankColFrom unicode col text =
      if text.all isWhitespace then none
      else some (min (col + ((text.takeWhile isWhitespace).map (charCellWidth unicode)).sum)
        65535) := by
  induction text with
  | nil => exact fun _ => rfl
  | cons ch text ih =>
    intro col hcol
    cases hblank : isWhitespace ch with
    | false => simp [firstNonBlankColFrom, hblank, hcol]
    | true =>
      have hsat : saturatingAdd16 col (charCellWidth unicode ch) ≤ 65535 := Nat.min_le_right _ _
      have hsum (n : ℕ) : min (saturatingAdd16 col (charCellWidth unicode ch) + n) 65535 =
          min (col + (charCellWidth unicode ch + n)) 65535 := by
        rw [saturatingAdd16]
        omega
      simp [firstNonBlankColFrom, hblank, ih hsat, hsum]

theorem firstNonBlankCol_lt_iff {unicode : Unicode} {text : Text} {width : ℕ} (hpos : 0 < width)
    (hwidth : width ≤ 65535) :
    (firstNonBlankCol unicode text).getD 0 < width ↔ LeadingFits unicode text width := by
  rw [firstNonBlankCol, firstNonBlankColFrom_eq unicode text (Nat.zero_le _), LeadingFits]
  by_cases hall : text.all isWhitespace = true
  · simp [hall, hpos]
  · rw [if_neg hall, Option.getD_some]
    constructor
    · exact fun hlt => Or.inr (by omega)
    · rintro (hall' | hlt)
      · exact absurd hall' hall
      · omega

/-- In the row of the cursor the blanks at the front are narrower than the pane. -/
def AppState.BlanksFit (s : AppState) (unicode : Unicode) : Prop :=
  ∀ cm info text, s.copyMode = some cm → s.paneInfoById cm.paneId = some info →
    s.copyModeVisibleRowText cm.cursorRow = some text →
    LeadingFits unicode text info.innerRect.width

namespace Spot

variable {p : CopyPane} {a : Spot} {unicode : Unicode}

theorem firstNonBlank_col_lt_iff (hcol : a.col < p.width) :
    (a.firstNonBlank p unicode).col < p.width ↔
      ∀ text, p.rowText a.metrics a.row = some text → LeadingFits unicode text p.width := by
  rw [firstNonBlank]
  cases htext : p.rowText a.metrics a.row with
  | none => simp [hcol]
  | some text =>
    simp only [firstNonBlankCol_lt_iff (Nat.zero_lt_of_lt hcol) (width_le p), Option.some.injEq]
    exact ⟨fun h text' htext' => htext' ▸ h, fun h => h text rfl⟩

theorem col_line (a : Spot) (up : Bool) : (a.line p up).col = a.col := by
  cases up with
  | true =>
    rw [line, if_pos rfl, Spot.up]
    split <;> rfl
  | false =>
    rw [line, if_neg (by simp), Spot.down]
    split <;> rfl

theorem col_paragraphLoop (up : Bool) (limit : ℕ) :
    ∀ a : Spot, (paragraphLoop p up limit a).col = a.col := by
  induction limit with
  | zero => exact fun _ => rfl
  | succ limit ih =>
    intro a
    rw [paragraphLoop]
    split
    · exact col_line a up
    · split
      · exact col_line a up
      · rw [ih, col_line]

theorem goToTarget_col_lt (hcol : a.col < p.width) (target : Option TerminalTextPoint)
    (reserveOverlayRow : Bool) : (a.goToTarget p target reserveOverlayRow).col < p.width := by
  cases target with
  | none => exact hcol
  | some target =>
    simp only [goToTarget, goTo]
    omega

/-- Of all motions only the one to the first character may lead out of the pane. -/
theorem Inside.spot_iff (hin : a.Inside p) (h : a.Sized p) (cm : CopyModeState) (m : Motion) :
    (m.spot p unicode cm a).Inside p ↔ (m = .firstNonBlank →
      ∀ text, p.rowText a.metrics a.row = some text → LeadingFits unicode text p.width) := by
  have hcol := hin.col_lt
  have hrow := (@Sized.spot p a unicode h cm m).row_lt
  have hother (hm : m ≠ .firstNonBlank) (hlt : (m.spot p unicode cm a).col < p.width) :
      (m.spot p unicode cm a).Inside p ↔ (m = .firstNonBlank →
        ∀ text, p.rowText a.metrics a.row = some text → LeadingFits unicode text p.width) :=
    iff_of_true ⟨hrow, hlt⟩ fun hm' => absurd hm' hm
  cases m with
  | left => exact hother (by simp) ((Nat.sub_le _ _).trans_lt hcol)
  | right =>
    refine hother (by simp) ?_
    simp only [Motion.spot, right]
    omega
  | up => exact hother (by simp) ((col_line (p := p) a true).trans_lt hcol)
  | down => exact hother (by simp) ((col_line (p := p) a false).trans_lt hcol)
  | page up half => cases up <;> exact hother (by simp) hcol
  | historyTop => exact hother (by simp) hcol
  | historyBottom => exact hother (by simp) hcol
  | lineEdge «end» =>
    refine hother (by simp) ?_
    cases «end» with
    | false => exact Nat.zero_lt_of_lt hcol
    | true =>
      rw [Motion.spot, lineEnd]
      split
      · exact hcol
      · show min _ (p.width - 1) < p.width
        omega
  | firstNonBlank =>
    rw [← firstNonBlank_col_lt_iff hcol]
    exact ⟨fun hin _ => hin.col_lt, fun hlt => ⟨hrow, hlt rfl⟩⟩
  | word motion => exact hother (by simp) (goToTarget_col_lt hcol _ _)
  | paragraph up => exact hother (by simp) ((col_paragraphLoop up _ a).trans_lt hcol)
  | submit query direction => exact hother (by simp) (goToTarget_col_lt hcol _ _)
  | again reverse => exact hother (by simp) (goToTarget_col_lt hcol _ _)

end Spot

/-! ## Lines -/

/-- The line of the cursor in the history. -/
def AppState.absoluteRow (s : AppState) : Option ℕ :=
  s.copyMode.bind fun cm => (s.paneScrollMetrics cm.paneId).map fun metrics =>
    metrics.maxOffsetFromBottom - metrics.offsetFromBottom + cm.cursorRow

/-- Where a word motion or a search goes. -/
def AppState.motionTarget (s : AppState) (unicode : Unicode) (m : Motion) :
    Option TerminalTextPoint := do
  let cm ← s.copyMode
  let wsIdx ← s.active
  let runtime ← s.runtimeForPaneInWorkspace wsIdx cm.paneId
  let metrics ← runtime.scrollMetrics
  let hit (cm : CopyModeState) (query : Text) (direction : CopyModeSearchDirection)
      (again : Bool) : Option TerminalTextPoint :=
    if query.isEmpty then none
    else
      let found := AppState.searchFrom unicode cm runtime metrics query direction again
      (found.2.bind fun index => found.1[index]?).map TerminalTextMatch.start
  match m with
  | .word motion =>
    runtime.content.wordMotionTarget (min (metrics.viewportTopRow + cm.cursorRow) 4294967295)
      cm.cursorCol motion
  | .submit query direction => hit cm.closed query direction false
  | .again reverse =>
    let direction ← cm.search.direction
    hit cm cm.search.query (if reverse then direction.reversed else direction) true
  | _ => none

/-- Where a motion takes the line of the cursor, in a history of `rows` rows. -/
def Motion.LandsOn (p : CopyPane) (rows : ℕ) (target : Option TerminalTextPoint)
    (before after : ℕ) : Motion → Prop
  | .up => after = before - 1
  | .down => after = min (before + 1) (rows - 1)
  | .page true half => after = before - copyModePageLines p.height half
  | .page false half => after = min (before + copyModePageLines p.height half) (rows - 1)
  | .historyTop => after = 0
  | .historyBottom => after = rows - 1
  | .paragraph upward => ParagraphStop p.BlankAt upward rows 1000 before after
  | .word _ | .submit _ _ | .again _ =>
    (target = none → after = before) ∧
      ∀ point, target = some point → point.row < rows → after = point.row
  | .left | .right | .lineEdge _ | .firstNonBlank => after = before

/-- Every motion from a state lands where it is to, and leaving copy mode restores the offset. -/
structure LandsExactly (unicode : Unicode) (p : CopyPane) (rows entry : ℕ) (s : AppState) :
    Prop where
  lands : ∀ key m, s.pressMotion key = some m → ∃ before after,
    s.absoluteRow = some before ∧ (s.pressKey unicode key).absoluteRow = some after ∧
    m.LandsOn p rows (s.motionTarget unicode m) before after
  restores : ∀ key, s.copyMode.isSome → (s.pressKey unicode key).copyMode = none →
    ((s.pressKey unicode key).paneScrollMetrics p.paneId).map ScrollMetrics.offsetFromBottom =
      some entry
  cancels : s.copyMode.isSome →
    (s.cancelCopyMode.paneScrollMetrics p.paneId).map ScrollMetrics.offsetFromBottom = some entry

namespace Placed

variable {s : AppState} {p : CopyPane} {a : Spot} {cm : CopyModeState} {unicode : Unicode}

theorem absoluteRow (h : Placed s p a cm) : s.absoluteRow = some (a.window p).line := by
  rw [AppState.absoluteRow, h.copyMode, Option.bind_some, h.scrollMetrics, Option.map_some]
  rfl

theorem blanksFit_iff (h : Placed s p a cm) : s.BlanksFit unicode ↔
    ∀ text, p.rowText a.metrics a.row = some text → LeadingFits unicode text p.width := by
  constructor
  · intro hfit text htext
    refine hfit _ _ text h.copyMode h.paneInfo ?_
    rw [h.visibleRowText]
    exact htext
  · intro hfit cm' info text hcm hinfo htext
    rw [h.copyMode, Option.some_inj] at hcm
    rw [← hcm, h.paneInfo, Option.some_inj] at hinfo
    rw [← hcm, h.visibleRowText] at htext
    rw [← hinfo]
    exact hfit text htext

theorem motionTarget_word (h : Placed s p a cm) (motion : WordMotion) :
    s.motionTarget unicode (.word motion) = a.wordTarget p motion := by
  rw [AppState.motionTarget, h.copyMode, h.active]
  simp only [Option.bind_eq_bind, Option.bind_some]
  rw [show (cm.at a).paneId = p.paneId from h.paneId, h.runtime]
  rfl

theorem motionTarget_submit (h : Placed s p a cm) (query : Text)
    (direction : CopyModeSearchDirection) :
    s.motionTarget unicode (.submit query direction) =
      a.searchTarget p unicode cm.closed query direction false := by
  rw [AppState.motionTarget, h.copyMode, h.active]
  simp only [Option.bind_eq_bind, Option.bind_some]
  rw [show (cm.at a).paneId = p.paneId from h.paneId, h.runtime]
  rfl

theorem motionTarget_again (h : Placed s p a cm) (reverse : Bool) :
    s.motionTarget unicode (.again reverse) = a.againTarget p unicode cm reverse := by
  rw [AppState.motionTarget, h.copyMode, h.active]
  simp only [Option.bind_eq_bind, Option.bind_some]
  rw [show (cm.at a).paneId = p.paneId from h.paneId, h.runtime]
  rfl

end Placed

theorem Spot.Sized.line_goToTarget {p : CopyPane} {a : Spot} (h : a.Sized p)
    (target : Option TerminalTextPoint) (reserveOverlayRow : Bool) :
    (target = none →
      ((a.goToTarget p target reserveOverlayRow).window p).line = (a.window p).line) ∧
    ∀ point, target = some point → point.row < (a.window p).rows →
      ((a.goToTarget p target reserveOverlayRow).window p).line = point.row := by
  refine ⟨fun hnone => by rw [hnone]; rfl, fun point hsome hlt => ?_⟩
  rw [hsome, Spot.goToTarget, h.window_goTo]
  exact h.fits.line_goTo (Spot.reach_le p reserveOverlayRow) hlt

/-- A motion takes the line of the cursor where it is to go. -/
theorem Placed.landsOn {s : AppState} {p : CopyPane} {a : Spot} {cm : CopyModeState}
    {unicode : Unicode} (h : Placed s p a cm) (hsized : a.Sized p) (m : Motion) :
    m.LandsOn p (a.window p).rows (s.motionTarget unicode m) (a.window p).line
      ((m.spot p unicode cm a).window p).line := by
  have hfits := hsized.fits
  cases m with
  | left => exact rfl
  | right => exact rfl
  | up => exact (congrArg Window.line (Spot.window_up a)).trans hfits.line_lineUp
  | down => exact (congrArg Window.line (Spot.window_down a)).trans hfits.line_lineDown
  | page up half =>
    have hle := Spot.copyModePageLines_le p half
    cases up with
    | true => exact (congrArg Window.line (hsized.window_pageUp hle)).trans (hfits.line_pageUp _)
    | false =>
      exact (congrArg Window.line (hsized.window_pageDown hle)).trans (hfits.line_pageDown _)
  | historyTop =>
    exact (congrArg Window.line (Spot.window_historyTop a)).trans (Window.line_toTop _)
  | historyBottom =>
    exact (congrArg Window.line (Spot.window_historyBottom a)).trans hfits.line_toBottom
  | lineEdge «end» =>
    cases «end» with
    | false => exact rfl
    | true =>
      show ((a.lineEnd p unicode).window p).line = (a.window p).line
      rw [Spot.lineEnd]
      split <;> rfl
  | firstNonBlank =>
    show ((a.firstNonBlank p unicode).window p).line = (a.window p).line
    rw [Spot.firstNonBlank]
    split <;> rfl
  | word motion =>
    rw [h.motionTarget_word]
    exact hsized.line_goToTarget _ false
  | paragraph up => exact hsized.paragraph_stop up
  | submit query direction =>
    rw [h.motionTarget_submit]
    exact hsized.line_goToTarget _ true
  | again reverse =>
    rw [h.motionTarget_again]
    exact hsized.line_goToTarget _ true

/-! ## Runs -/

/-- Copy mode is on in a pane of `above` rows of scrollback, or has been left. -/
def Going (p : CopyPane) (above entry : ℕ) (s : AppState) : Prop :=
  (∃ a cm, Placed s p a cm ∧ a.Sized p ∧ a.metrics.maxOffsetFromBottom = above ∧
    cm.entryOffsetFromBottom = entry) ∨
  (s.copyMode = none ∧ ∃ metrics, Shown s p metrics)

section Runs

variable {s : AppState} {p : CopyPane} {a : Spot} {cm : CopyModeState} {unicode : Unicode}
  {above entry : ℕ}

theorem Rests.going {s' : AppState} (h : Rests s' p a cm) (hsized : a.Sized p) :
    Going p a.metrics.maxOffsetFromBottom cm.entryOffsetFromBottom s' := by
  rcases h with hleft | ⟨cm', hplaced, hentry⟩
  · exact Or.inr ⟨hleft.copyMode, _, hleft.shown⟩
  · exact Or.inl ⟨a, cm', hplaced, hsized, rfl, hentry⟩

theorem Going.step (h : Going p above entry s) {e : Event} (hsize : e.KeepsSize) :
    Going p above entry (s.step unicode p.paneId e) := by
  cases e with
  | resize innerRect metrics content => exact absurd hsize id
  | scroll n =>
    rcases h with ⟨a, cm, hplaced, hsized, habove, hentry⟩ | ⟨hnone, metrics, hshown⟩
    · have hscrolled := hplaced.setPaneScrollOffset n
      rw [show (cm.at a).paneId = p.paneId from hplaced.paneId] at hscrolled
      exact Or.inl ⟨_, cm, hscrolled, hsized.of_scrolled ⟨n, rfl⟩ hsized.row_lt, habove, hentry⟩
    · refine Or.inr ⟨?_, _, hshown.setPaneScrollOffset n⟩
      rw [AppState.step, hshown.setPaneScrollOffset_eq]
      exact hnone
  | press key =>
    rcases h with ⟨a, cm, hplaced, hsized, habove, hentry⟩ | ⟨hnone, hshown⟩
    · rw [AppState.step, hplaced.copyMode, if_pos Option.isSome_some]
      rcases @Placed.pressKey _ _ _ _ unicode hplaced key with
        ⟨m, search, -, hmoved, -, -⟩ | ⟨-, hrests⟩
      · obtain ⟨n, hn⟩ := @Spot.scrolled_spot p a unicode cm m
        refine Or.inl ⟨_, _, hmoved, hsized.spot cm m, ?_, hentry⟩
        rw [hn]
        exact habove
      · rw [← habove, ← hentry]
        exact hrests.going hsized
    · rw [AppState.step, hnone]
      exact Or.inr ⟨hnone, hshown⟩

theorem Going.run (h : Going p above entry s) {events : List Event}
    (hsize : ∀ e ∈ events, e.KeepsSize) : Going p above entry (s.run unicode p.paneId events) := by
  induction events generalizing s with
  | nil => exact h
  | cons e events ih =>
    exact ih (h.step (hsize e (List.mem_cons_self ..)))
      fun e' he' => hsize e' (List.mem_cons_of_mem _ he')

theorem Left.offset_eq (h : Left s p a cm)
    (hentry : cm.entryOffsetFromBottom ≤ a.metrics.maxOffsetFromBottom) :
    (s.paneScrollMetrics p.paneId).map ScrollMetrics.offsetFromBottom =
      some cm.entryOffsetFromBottom := by
  rw [h.shown.paneScrollMetrics, Option.map_some, ScrollMetrics.offsetFromBottom_setOffset,
    Nat.min_eq_left hentry]

/-- While copy mode is on every motion lands, and leaving it restores the scroll position. -/
theorem Going.landsExactly (h : Going p above entry s) (hentry : entry ≤ above) :
    LandsExactly unicode p (above + p.height) entry s := by
  rcases h with ⟨a, cm, hplaced, hsized, rfl, rfl⟩ | ⟨hnone, -⟩
  · refine ⟨fun key m hm => ?_, fun key _ hkey => ?_, fun _ => ?_⟩
    · rcases @Placed.pressKey _ _ _ _ unicode hplaced key with
        ⟨m', search, hm', hmoved, -, -⟩ | ⟨hnone, -⟩
      · obtain rfl : m' = m := Option.some.inj (hm'.symm.trans hm)
        exact ⟨_, _, hplaced.absoluteRow, hmoved.absoluteRow, hplaced.landsOn hsized m'⟩
      · exact absurd (hnone.symm.trans hm) (by simp)
    · rcases @Placed.pressKey _ _ _ _ unicode hplaced key with
        ⟨m, search, -, hmoved, -, -⟩ | ⟨-, hleft | ⟨cm', hplaced', -⟩⟩
      · exact absurd (hmoved.copyMode.symm.trans hkey) (by simp)
      · exact hleft.offset_eq hentry
      · exact absurd (hplaced'.copyMode.symm.trans hkey) (by simp)
    · exact (hplaced.exitCopyMode false).offset_eq hentry
  · refine ⟨fun key m hm => ?_, fun key hsome => ?_, fun hsome => ?_⟩
    · rw [AppState.pressMotion, AppState.motionOf, hnone] at hm
      split at hm
      · exact absurd hm (by simp)
      · split at hm <;> exact absurd hm (by simp)
    · exact absurd hsome (by simp [hnone])
    · exact absurd hsome (by simp [hnone])

/-- The cursor is inside the pane after an event when the motion it is, if it is one, allows it. -/
theorem Going.cursorInPane_step_iff (h : Going p above entry s) (hin : s.CursorInPane) {e : Event}
    (hsize : e.KeepsSize) : (s.step unicode p.paneId e).CursorInPane ↔
      ∀ key, e = .press key → s.pressMotion key = some .firstNonBlank → s.BlanksFit unicode := by
  rcases h with ⟨a, cm, hplaced, hsized, -, -⟩ | ⟨hnone, metrics, hshown⟩
  · have hinside := hplaced.cursorInPane_iff.mp hin
    cases e with
    | resize innerRect metrics content => exact absurd hsize id
    | scroll n =>
      have hscrolled := hplaced.setPaneScrollOffset n
      rw [show (cm.at a).paneId = p.paneId from hplaced.paneId] at hscrolled
      exact iff_of_true (hscrolled.cursorInPane_iff.mpr ⟨hinside.row_lt, hinside.col_lt⟩)
        fun key hkey => absurd hkey (by simp)
    | press key =>
      rw [AppState.step, hplaced.copyMode, if_pos Option.isSome_some]
      rcases @Placed.pressKey _ _ _ _ unicode hplaced key with
        ⟨m, search, hm, hmoved, -, -⟩ | ⟨hm, hleft | ⟨cm', hplaced', -⟩⟩
      · rw [hmoved.cursorInPane_iff, hinside.spot_iff hsized, ← hplaced.blanksFit_iff]
        constructor
        · intro hfits key' hkey hm'
          obtain rfl : key = key' := Event.press.inj hkey
          exact hfits (Option.some.inj (hm.symm.trans hm'))
        · exact fun hfits hm' => hfits key rfl (hm' ▸ hm)
      · refine iff_of_true (fun cm' hcm => absurd (hleft.copyMode.symm.trans hcm) (by simp)) ?_
        intro key' hkey hm'
        obtain rfl : key = key' := Event.press.inj hkey
        exact absurd (hm.symm.trans hm') (by simp)
      · refine iff_of_true (hplaced'.cursorInPane_iff.mpr hinside) ?_
        intro key' hkey hm'
        obtain rfl : key = key' := Event.press.inj hkey
        exact absurd (hm.symm.trans hm') (by simp)
  · refine iff_of_true ?_ fun _ _ _ cm info text hcm => absurd (hnone.symm.trans hcm) (by simp)
    have hnone' : (s.step unicode p.paneId e).copyMode = none := by
      cases e with
      | resize innerRect metrics content => exact absurd hsize id
      | scroll n =>
        rw [AppState.step, hshown.setPaneScrollOffset_eq]
        exact hnone
      | press key =>
        rw [AppState.step, hnone]
        exact hnone
    exact fun cm hcm => absurd (hnone'.symm.trans hcm) (by simp)

/-- Along a run the cursor stays inside the pane exactly when the motions to the first character
are asked for in rows with narrow blanks. -/
theorem Going.everyStep_iff (h : Going p above entry s) (hin : s.CursorInPane)
    {events : List Event} (hsize : ∀ e ∈ events, e.KeepsSize) :
    EveryStep unicode p.paneId (fun t e => (t.step unicode p.paneId e).CursorInPane) s events ↔
      EveryStep unicode p.paneId (fun t e => ∀ key, e = .press key →
        t.pressMotion key = some .firstNonBlank → t.BlanksFit unicode) s events := by
  induction events generalizing s with
  | nil => exact Iff.rfl
  | cons e events ih =>
    have hkeeps := hsize e (List.mem_cons_self ..)
    have hstep := @Going.cursorInPane_step_iff s p unicode above entry h hin e hkeeps
    have hrest (hin' : (s.step unicode p.paneId e).CursorInPane) :=
      ih (h.step hkeeps) hin' fun e' he' => hsize e' (List.mem_cons_of_mem _ he')
    constructor
    · rintro ⟨hin', hevery⟩
      exact ⟨hstep.mp hin', (hrest hin').mp hevery⟩
    · rintro ⟨hfits, hevery⟩
      exact ⟨hstep.mpr hfits, (hrest (hstep.mpr hfits)).mpr hevery⟩

end Runs

/-- In every run of copy mode in a pane that keeps its size, with as many rows in the viewport as
the pane has and fewer than `2 ^ 32` in all, every motion lands where it is to and leaving copy mode
restores the scroll position. The cursor is inside the pane all along exactly when every motion to
the first character starts in a row whose blanks in front of it are narrower than the pane. -/
theorem motions_land {s : AppState} {p : CopyPane} {metrics : ScrollMetrics}
    (h : Enters s p metrics) (hrows : metrics.viewportRows = p.height)
    (hfew : metrics.maxOffsetFromBottom + p.height < 2 ^ 32) (unicode : Unicode)
    {events : List Event} (hsize : ∀ e ∈ events, e.KeepsSize) :
    LandsExactly unicode p (metrics.maxOffsetFromBottom + p.height) metrics.offsetFromBottom
        (s.enterCopyMode.run unicode p.paneId events) ∧
      s.enterCopyMode.CursorInPane ∧
      (EveryStep unicode p.paneId (fun t e => (t.step unicode p.paneId e).CursorInPane)
          s.enterCopyMode events ↔
        EveryStep unicode p.paneId (fun t e => ∀ key, e = .press key →
          t.pressMotion key = some .firstNonBlank → t.BlanksFit unicode)
          s.enterCopyMode events) := by
  obtain ⟨row, col, cm, hplaced, hinside, hentry⟩ := h.enterCopyMode
  have hgoing : Going p metrics.maxOffsetFromBottom metrics.offsetFromBottom s.enterCopyMode :=
    Or.inl ⟨_, cm, hplaced, ⟨hinside.row_lt, h.width_pos, hrows, hfew⟩, rfl, hentry⟩
  have hin := hplaced.cursorInPane_iff.mpr hinside
  exact ⟨(hgoing.run hsize).landsExactly metrics.offset_le, hin, hgoing.everyStep_iff hin hsize⟩

/-! ## A mark in the last column -/

/-- A pane of twenty columns and three rows. -/
def markedInfo : PaneInfo :=
  { id := ⟨0⟩
    innerRect :=
      { x := 0, y := 0, width := 20, height := 3, width_lt := by decide, height_lt := by decide } }

/-- The last row is nineteen spaces, then a no-break space with an accent on it. -/
def markedContent : TerminalContent :=
  { cursorState := fun _ => none
    extractSelection := fun cells =>
      some (if cells.1.1 = 2 then List.replicate 19 ' ' ++ ['\u00a0', '\u0301'] else [])
    searchTextMatches := fun _ _ => []
    textMatchIsCurrent := fun _ => false
    wordMotionTarget := fun _ _ _ => none }

def markedMetrics : ScrollMetrics :=
  { offsetFromBottom := 0, maxOffsetFromBottom := 0, viewportRows := 3, offset_le := le_refl 0 }

def markedPane : CopyPane :=
  { wsIdx := 0, paneId := ⟨0⟩, info := markedInfo, content := markedContent }

def markedApp : AppState :=
  { active := some 0
    workspaces :=
      [{ focusedPaneId := some ⟨0⟩
         runtimes := fun paneId =>
          if paneId = ⟨0⟩ then
            some { scrollMetrics := some markedMetrics, content := markedContent }
          else none }]
    paneInfos := [markedInfo]
    mode := .terminal
    copyMode := none
    selection := none
    requestClipboardWrite := none
    prefixKey := (.char 'b', { control := true }) }

/-- The accent takes no column, the other characters one. -/
def markedUnicode : Unicode :=
  { codepointWidth := fun ch => if ch = '\u0301' then 0 else 1
    isUppercase := fun _ => false }

theorem markedApp_enters : Enters markedApp markedPane markedMetrics where
  active := rfl
  runtime := rfl
  only i hi := by
    cases i with
    | zero => rfl
    | succ i => exact absurd hi (by simp [AppState.runtimeForPaneInWorkspace, markedApp])
  info := rfl
  focused := rfl
  width_pos := by decide
  height_pos := by decide

/-- `^` puts the cursor of this pane into its column twenty, of columns zero to nineteen. -/
theorem cursor_leaves_pane :
    Enters markedApp markedPane markedMetrics ∧ markedMetrics.viewportRows = markedPane.height ∧
      markedApp.enterCopyMode.CursorInPane ∧
      ((markedApp.enterCopyMode.step markedUnicode ⟨0⟩ (.press (.new (.char '^') {}))).copyMode.map
        CopyModeState.cursorCol) = some 20 ∧
      ¬ (markedApp.enterCopyMode.step markedUnicode ⟨0⟩
        (.press (.new (.char '^') {}))).CursorInPane := by
  refine ⟨markedApp_enters, rfl, ?_, by decide, fun h => ?_⟩
  · rintro cm ⟨⟩
    exact ⟨markedInfo, rfl, by decide, by decide⟩
  · obtain ⟨info, hinfo, -, hcol⟩ := h _ rfl
    obtain rfl : markedInfo = info := Option.some.inj hinfo
    exact absurd hcol (by decide)

/-- Every other motion of this pane lands where it is to. -/
theorem motions_land_marked :
    LandsExactly markedUnicode markedPane 3 0
        (markedApp.enterCopyMode.run markedUnicode ⟨0⟩ [.press (.new (.char 'k') {})]) ∧
      markedApp.enterCopyMode.CursorInPane ∧
      (EveryStep markedUnicode ⟨0⟩ (fun t e => (t.step markedUnicode ⟨0⟩ e).CursorInPane)
          markedApp.enterCopyMode [.press (.new (.char 'k') {})] ↔
        EveryStep markedUnicode ⟨0⟩ (fun t e => ∀ key, e = .press key →
          t.pressMotion key = some .firstNonBlank → t.BlanksFit markedUnicode)
          markedApp.enterCopyMode [.press (.new (.char 'k') {})]) :=
  motions_land markedApp_enters rfl (by decide) markedUnicode
    fun e he => by rw [List.mem_singleton.mp he]; exact trivial

end CopyMode

end Zynk
