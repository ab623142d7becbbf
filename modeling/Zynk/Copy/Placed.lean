import Zynk.Copy.Mode
import Zynk.Lib.Window

/-!
# What each motion does

A `Spot` is a scroll position with a cursor, and a motion of copy mode is a function of spots
(`Spot.up`, `Spot.page`, `Spot.goTo` and so on). `Placed s p a cm` says that copy mode is on in the
pane `p` of the active workspace, with the cursor at the spot `a`; each function of the application
leads from a state placed at `a` to one placed where the motion takes `a`
(`Placed.moveCopyCursor_up` and its like). Nothing is assumed of the cursor : it may be stale.
-/

namespace Zynk

namespace CopyMode

/-! ## A pane that is shown -/

/-- What stays the same of a pane while its cursor moves. -/
structure CopyPane where
  wsIdx : ℕ
  paneId : PaneId
  info : PaneInfo
  content : TerminalContent

/-- The pane is shown in the active workspace, and no other workspace has a runtime for it. -/
structure Shown (s : AppState) (p : CopyPane) (metrics : ScrollMetrics) : Prop where
  active : s.active = some p.wsIdx
  runtime : s.runtimeForPaneInWorkspace p.wsIdx p.paneId =
    some { scrollMetrics := some metrics, content := p.content }
  only : ∀ i, (s.runtimeForPaneInWorkspace i p.paneId).isSome → i = p.wsIdx
  info : s.paneInfoById p.paneId = some p.info

namespace Shown

variable {s s' : AppState} {p : CopyPane} {metrics : ScrollMetrics}

/-- Being shown is a matter of three fields. -/
theorem congr (h : Shown s p metrics) (hactive : s'.active = s.active)
    (hworkspaces : s'.workspaces = s.workspaces) (hinfos : s'.paneInfos = s.paneInfos) :
    Shown s' p metrics where
  active := hactive.trans h.active
  runtime := by
    rw [AppState.runtimeForPaneInWorkspace, hworkspaces]
    exact h.runtime
  only i hi := by
    rw [AppState.runtimeForPaneInWorkspace, hworkspaces] at hi
    exact h.only i hi
  info := by
    rw [AppState.paneInfoById, hinfos]
    exact h.info

theorem paneScrollMetrics (h : Shown s p metrics) :
    s.paneScrollMetrics p.paneId = some metrics := by
  rw [AppState.paneScrollMetrics, h.active, Option.bind_some, h.runtime, Option.bind_some]

theorem activeRuntime (h : Shown s p metrics) :
    (s.active.bind fun i => s.runtimeForPaneInWorkspace i p.paneId) =
      some { scrollMetrics := some metrics, content := p.content } := by
  rw [h.active, Option.bind_some, h.runtime]

/-- A scroll operation changes the metrics. -/
theorem scrollRuntime (h : Shown s p metrics) (f : ScrollMetrics → ScrollMetrics) :
    Shown (s.scrollRuntime p.wsIdx p.paneId f) p (f metrics) where
  active := h.active
  runtime := by
    have hruntime := h.runtime
    rw [AppState.runtimeForPaneInWorkspace] at hruntime ⊢
    obtain ⟨ws, hws, hrt⟩ := Option.bind_eq_some_iff.mp hruntime
    rw [AppState.scrollRuntime, List.getElem?_modify_eq, hws]
    simp [hrt]
  only i hi := by
    by_contra hne
    refine hne (h.only i ?_)
    have hother : (s.scrollRuntime p.wsIdx p.paneId f).runtimeForPaneInWorkspace i p.paneId =
        s.runtimeForPaneInWorkspace i p.paneId := by
      simp [AppState.runtimeForPaneInWorkspace, AppState.scrollRuntime, Ne.symm hne]
    rwa [hother] at hi
  info := h.info

theorem setPaneScrollOffset_eq (h : Shown s p metrics) (n : ℕ) :
    s.setPaneScrollOffset p.paneId n =
      s.scrollRuntime p.wsIdx p.paneId fun m => m.setOffset n := by
  have hlt : p.wsIdx < s.workspaces.length := by
    by_contra hge
    have hruntime := h.runtime
    rw [AppState.runtimeForPaneInWorkspace, List.getElem?_eq_none (by omega)] at hruntime
    exact absurd hruntime (by simp)
  have hfind : ((List.range s.workspaces.length).find? fun wsIdx =>
      (s.runtimeForPaneInWorkspace wsIdx p.paneId).isSome) = some p.wsIdx := by
    rw [List.find?_range_eq_some]
    refine ⟨by rw [h.runtime]; rfl, List.mem_range.mpr hlt, fun j hj => ?_⟩
    have hne : ¬ (s.runtimeForPaneInWorkspace j p.paneId).isSome := fun hsome => by
      have := h.only j hsome
      omega
    simpa using hne
  rw [AppState.setPaneScrollOffset, hfind]

theorem setPaneScrollOffset (h : Shown s p metrics) (n : ℕ) :
    Shown (s.setPaneScrollOffset p.paneId n) p (metrics.setOffset n) := by
  rw [h.setPaneScrollOffset_eq]
  exact h.scrollRuntime _

theorem scrollPaneUp (h : Shown s p metrics) (n : ℕ) :
    Shown (s.scrollPaneUp p.paneId n) p (metrics.scrollUp n) := by
  rw [AppState.scrollPaneUp, h.active]
  exact h.scrollRuntime _

theorem scrollPaneDown (h : Shown s p metrics) (n : ℕ) :
    Shown (s.scrollPaneDown p.paneId n) p (metrics.scrollDown n) := by
  rw [AppState.scrollPaneDown, h.active]
  exact h.scrollRuntime _

end Shown

/-! ## Spots -/

/-- A scroll position with a cursor. -/
structure Spot where
  metrics : ScrollMetrics
  row : ℕ
  col : ℕ

/-- The state of copy mode with the cursor at a spot. -/
def CopyModeState.at (cm : CopyModeState) (a : Spot) : CopyModeState :=
  { cm with cursorRow := a.row, cursorCol := a.col }

namespace CopyPane

variable (p : CopyPane)

def width : ℕ :=
  p.info.innerRect.width

def height : ℕ :=
  p.info.innerRect.height

/-- The text of a row in view. -/
def rowText (metrics : ScrollMetrics) (row : ℕ) : Option Text :=
  if p.height ≤ row ∨ p.width = 0 then none
  else
    p.content.extractSelection
      (Selection.range p.paneId row 0 (p.width - 1) (some metrics)).orderedCells

end CopyPane

namespace Spot

variable (p : CopyPane) (unicode : Unicode) (a : Spot)

def left : Spot :=
  { a with col := a.col - 1 }

def right : Spot :=
  { a with col := min (saturatingAdd16 a.col 1) (p.width - 1) }

def up : Spot :=
  if 1 ≤ a.row then { a with row := a.row - 1 }
  else { a with metrics := a.metrics.scrollUp 1, row := 0 }

def down : Spot :=
  if saturatingAdd16 a.row 1 ≤ p.height - 1 then { a with row := a.row + 1 }
  else { a with metrics := a.metrics.scrollDown 1, row := p.height - 1 }

/-- The lines of a page that the history has no room for. -/
def pageCarry (lines : ℕ) : ℕ :=
  if a.metrics.maxOffsetFromBottom < saturatingAdd64 a.metrics.offsetFromBottom lines then
    min (lines - (a.metrics.maxOffsetFromBottom - a.metrics.offsetFromBottom)) 65535
  else 0

def pageUp (lines : ℕ) : Spot :=
  { a with
    metrics := a.metrics.setOffset (saturatingAdd64 a.metrics.offsetFromBottom lines)
    row := a.row - a.pageCarry lines }

def pageDown (lines : ℕ) : Spot :=
  { a with
    metrics := a.metrics.setOffset (a.metrics.offsetFromBottom - lines)
    row :=
      if a.metrics.offsetFromBottom < lines then
        min (saturatingAdd16 a.row (min (lines - a.metrics.offsetFromBottom) 65535)) (p.height - 1)
      else a.row }

def historyTop : Spot :=
  { a with metrics := a.metrics.setOffset a.metrics.maxOffsetFromBottom, row := 0 }

def historyBottom : Spot :=
  { a with metrics := a.metrics.setOffset 0, row := p.height - 1 }

/-- The row of the viewport that a target further down is put on. -/
def reach (reserveOverlayRow : Bool) : ℕ :=
  p.height - if reserveOverlayRow then 2 else 1

def desiredTop (target : TerminalTextPoint) (reserveOverlayRow : Bool) : ℕ :=
  if target.row < a.metrics.viewportTopRow then target.row
  else if min (a.metrics.viewportTopRow + reach p reserveOverlayRow) 4294967295 < target.row then
    target.row - reach p reserveOverlayRow
  else a.metrics.viewportTopRow

def goTo (target : TerminalTextPoint) (reserveOverlayRow : Bool) : Spot :=
  let metrics := a.metrics.setOffset
    (a.metrics.maxOffsetFromBottom - a.desiredTop p target reserveOverlayRow)
  { metrics
    row := min (target.row - metrics.viewportTopRow) (p.height - 1)
    col := min target.col (p.width - 1) }

def lineEnd : Spot :=
  match p.rowText a.metrics a.row with
  | none => a
  | some text => { a with col := min ((lastCharacterCol unicode text).getD 0) (p.width - 1) }

def firstNonBlank : Spot :=
  match p.rowText a.metrics a.row with
  | none => a
  | some text => { a with col := (firstNonBlankCol unicode text).getD 0 }

/-- Where a word motion goes, by the terminal. -/
def wordTarget (motion : WordMotion) : Option TerminalTextPoint :=
  p.content.wordMotionTarget (min (a.metrics.viewportTopRow + a.row) 4294967295) a.col motion

/-- Where a search goes. -/
def searchTarget (cm : CopyModeState) (query : Text) (direction : CopyModeSearchDirection)
    (again : Bool) : Option TerminalTextPoint :=
  if query.isEmpty then none
  else
    let found := AppState.searchFrom unicode (cm.at a)
      { scrollMetrics := some a.metrics, content := p.content } a.metrics query direction again
    (found.2.bind fun index => found.1[index]?).map TerminalTextMatch.start

/-- A motion to a target, and none where there is no target. -/
def goToTarget (target : Option TerminalTextPoint) (reserveOverlayRow : Bool) : Spot :=
  match target with
  | none => a
  | some target => a.goTo p target reserveOverlayRow

end Spot

/-! ## Copy mode in a pane -/

/-- Copy mode is on in a pane that is shown, with the cursor at a spot. -/
structure Placed (s : AppState) (p : CopyPane) (a : Spot) (cm : CopyModeState) : Prop
    extends Shown s p a.metrics where
  copyMode : s.copyMode = some (cm.at a)
  paneId : cm.paneId = p.paneId

@[simp] theorem copyMode_scrollRuntime (s : AppState) (wsIdx : ℕ) (paneId : PaneId)
    (f : ScrollMetrics → ScrollMetrics) :
    (s.scrollRuntime wsIdx paneId f).copyMode = s.copyMode :=
  rfl

theorem syncCopyModeSelection_eq (s : AppState) :
    ∃ selection, s.syncCopyModeSelection = { s with selection } := by
  unfold AppState.syncCopyModeSelection
  split
  · exact ⟨s.selection, rfl⟩
  · split
    · exact ⟨s.selection, rfl⟩
    · split
      · exact ⟨s.selection, rfl⟩
      · split
        · unfold AppState.updateSelectionCursor
          split
          · exact ⟨s.selection, rfl⟩
          · exact ⟨_, rfl⟩
        · exact ⟨_, rfl⟩

namespace Placed

variable {s : AppState} {p : CopyPane} {a : Spot} {cm : CopyModeState} {unicode : Unicode}

theorem syncCopyModeSelection (h : Placed s p a cm) : Placed s.syncCopyModeSelection p a cm := by
  obtain ⟨selection, hsync⟩ := syncCopyModeSelection_eq s
  rw [hsync]
  exact ⟨h.toShown.congr rfl rfl rfl, h.copyMode, h.paneId⟩

theorem paneInfo (h : Placed s p a cm) : s.paneInfoById (cm.at a).paneId = some p.info := by
  rw [show (cm.at a).paneId = p.paneId from h.paneId, h.info]

theorem scrollMetrics (h : Placed s p a cm) :
    s.paneScrollMetrics (cm.at a).paneId = some a.metrics := by
  rw [show (cm.at a).paneId = p.paneId from h.paneId, h.paneScrollMetrics]

theorem placeCopyCursor (h : Placed s p a cm) (cursorRow cursorCol : ℕ) :
    Placed (s.placeCopyCursor cursorRow cursorCol) p
      { a with row := cursorRow, col := cursorCol } cm := by
  refine syncCopyModeSelection ⟨h.toShown.congr rfl rfl rfl, ?_, h.paneId⟩
  rw [AppState.updateCopyMode, h.copyMode]
  rfl

theorem placeCopyRow (h : Placed s p a cm) (cursorRow : ℕ) :
    Placed (s.placeCopyRow cursorRow) p { a with row := cursorRow } cm := by
  refine syncCopyModeSelection ⟨h.toShown.congr rfl rfl rfl, ?_, h.paneId⟩
  rw [AppState.updateCopyMode, h.copyMode]
  rfl

theorem placeCopyCol (h : Placed s p a cm) (cursorCol : ℕ) :
    Placed (s.placeCopyCol cursorCol) p { a with col := cursorCol } cm := by
  refine syncCopyModeSelection ⟨h.toShown.congr rfl rfl rfl, ?_, h.paneId⟩
  rw [AppState.updateCopyMode, h.copyMode]
  rfl

theorem setPaneScrollOffset (h : Placed s p a cm) (n : ℕ) :
    Placed (s.setPaneScrollOffset (cm.at a).paneId n) p
      { a with metrics := a.metrics.setOffset n } cm := by
  rw [show (cm.at a).paneId = p.paneId from h.paneId]
  refine ⟨h.toShown.setPaneScrollOffset n, ?_, h.paneId⟩
  rw [h.setPaneScrollOffset_eq, copyMode_scrollRuntime, h.copyMode]
  rfl

theorem scrollPaneUp (h : Placed s p a cm) (n : ℕ) :
    Placed (s.scrollPaneUp (cm.at a).paneId n) p { a with metrics := a.metrics.scrollUp n } cm := by
  rw [show (cm.at a).paneId = p.paneId from h.paneId]
  refine ⟨h.toShown.scrollPaneUp n, ?_, h.paneId⟩
  rw [AppState.scrollPaneUp, h.active]
  exact h.copyMode

theorem scrollPaneDown (h : Placed s p a cm) (n : ℕ) :
    Placed (s.scrollPaneDown (cm.at a).paneId n) p
      { a with metrics := a.metrics.scrollDown n } cm := by
  rw [show (cm.at a).paneId = p.paneId from h.paneId]
  refine ⟨h.toShown.scrollPaneDown n, ?_, h.paneId⟩
  rw [AppState.scrollPaneDown, h.active]
  exact h.copyMode

theorem visibleRowText (h : Placed s p a cm) (row : ℕ) :
    s.copyModeVisibleRowText row = p.rowText a.metrics row := by
  rw [AppState.copyModeVisibleRowText, h.copyMode, h.active]
  simp only [h.paneInfo]
  rw [show (cm.at a).paneId = p.paneId from h.paneId, h.runtime, h.paneScrollMetrics]
  rfl

/-! ## Lines and pages -/

theorem moveCopyCursor_left (h : Placed s p a cm) :
    Placed (s.moveCopyCursor 0 (-1)) p a.left cm := by
  rw [AppState.moveCopyCursor, h.copyMode]
  simp only [h.paneInfo]
  exact h.placeCopyCursor _ _

theorem moveCopyCursor_right (h : Placed s p a cm) :
    Placed (s.moveCopyCursor 0 1) p (a.right p) cm := by
  rw [AppState.moveCopyCursor, h.copyMode]
  simp only [h.paneInfo]
  exact h.placeCopyCursor _ _

theorem moveCopyCursor_up (h : Placed s p a cm) : Placed (s.moveCopyCursor (-1) 0) p a.up cm := by
  rw [AppState.moveCopyCursor, h.copyMode, Spot.up]
  simp only [h.paneInfo]
  change Placed (if 1 ≤ a.row then s.placeCopyCursor (a.row - 1) a.col
    else (s.scrollPaneUp (cm.at a).paneId 1).placeCopyCursor 0 a.col) p _ cm
  by_cases hrow : 1 ≤ a.row
  · rw [if_pos hrow, if_pos hrow]
    exact h.placeCopyCursor _ _
  · rw [if_neg hrow, if_neg hrow]
    exact (h.scrollPaneUp 1).placeCopyCursor _ _

theorem moveCopyCursor_down (h : Placed s p a cm) :
    Placed (s.moveCopyCursor 1 0) p (a.down p) cm := by
  rw [AppState.moveCopyCursor, h.copyMode, Spot.down]
  simp only [h.paneInfo]
  change Placed (if saturatingAdd16 a.row 1 ≤ p.height - 1 then s.placeCopyCursor (a.row + 1) a.col
    else (s.scrollPaneDown (cm.at a).paneId 1).placeCopyCursor (p.height - 1) a.col) p _ cm
  by_cases hrow : saturatingAdd16 a.row 1 ≤ p.height - 1
  · rw [if_pos hrow, if_pos hrow]
    exact h.placeCopyCursor _ _
  · rw [if_neg hrow, if_neg hrow]
    exact (h.scrollPaneDown 1).placeCopyCursor _ _

/-- A page up is a scroll, with the lines it could not scroll taken from the row. -/
theorem scrollCopyModePage_up (h : Placed s p a cm) (halfPage : Bool) :
    Placed (s.scrollCopyModePage (-1) halfPage) p
      (a.pageUp (copyModePageLines p.height halfPage)) cm := by
  rw [AppState.scrollCopyModePage, h.copyMode]
  simp only [h.paneInfo, h.scrollMetrics]
  rw [Spot.pageUp, Spot.pageCarry, if_pos (by decide), CopyPane.height]
  generalize copyModePageLines p.info.innerRect.height halfPage = lines
  by_cases hover : a.metrics.maxOffsetFromBottom <
      saturatingAdd64 a.metrics.offsetFromBottom lines
  · rw [if_pos hover, if_pos hover]
    have hmax : a.metrics.setOffset (saturatingAdd64 a.metrics.offsetFromBottom lines) =
        a.metrics.setOffset a.metrics.maxOffsetFromBottom := by
      simp only [ScrollMetrics.setOffset, ScrollMetrics.mk.injEq, and_true]
      omega
    rw [hmax]
    exact (h.setPaneScrollOffset _).placeCopyRow _
  · rw [if_neg hover, if_neg hover]
    exact (h.setPaneScrollOffset _).placeCopyRow _

theorem scrollCopyModePage_down (h : Placed s p a cm) (halfPage : Bool) :
    Placed (s.scrollCopyModePage 1 halfPage) p
      (a.pageDown p (copyModePageLines p.height halfPage)) cm := by
  rw [AppState.scrollCopyModePage, h.copyMode]
  simp only [h.paneInfo, h.scrollMetrics]
  rw [Spot.pageDown, if_neg (by decide), CopyPane.height]
  generalize copyModePageLines p.info.innerRect.height halfPage = lines
  by_cases hin : a.metrics.offsetFromBottom < lines
  · rw [if_pos hin, if_pos hin, show a.metrics.offsetFromBottom - lines = 0 by omega]
    exact (h.setPaneScrollOffset _).placeCopyRow _
  · rw [if_neg hin, if_neg hin]
    exact (h.setPaneScrollOffset _).placeCopyRow _

theorem copyModeHistoryTop (h : Placed s p a cm) :
    Placed s.copyModeHistoryTop p a.historyTop cm := by
  rw [AppState.copyModeHistoryTop, h.copyMode]
  simp only [h.scrollMetrics]
  exact (h.setPaneScrollOffset _).placeCopyRow _

theorem copyModeHistoryBottom (h : Placed s p a cm) :
    Placed s.copyModeHistoryBottom p (a.historyBottom p) cm := by
  rw [AppState.copyModeHistoryBottom, h.copyMode]
  simp only [h.paneInfo]
  exact (h.setPaneScrollOffset _).placeCopyRow _

/-! ## Motions to a point -/

theorem moveCopyCursorToAbsolute (h : Placed s p a cm) (target : TerminalTextPoint)
    (reserveOverlayRow : Bool) :
    Placed (s.moveCopyCursorToAbsolute target reserveOverlayRow) p
      (a.goTo p target reserveOverlayRow) cm := by
  rw [AppState.moveCopyCursorToAbsolute, h.copyMode]
  simp only [h.paneInfo, h.scrollMetrics]
  have hset := h.setPaneScrollOffset
    (a.metrics.maxOffsetFromBottom - a.desiredTop p target reserveOverlayRow)
  rw [show (cm.at a).paneId = p.paneId from h.paneId] at hset ⊢
  have hmetrics := hset.paneScrollMetrics
  have hplaced := hset.placeCopyCursor
    (min (target.row - (a.metrics.setOffset (a.metrics.maxOffsetFromBottom -
      a.desiredTop p target reserveOverlayRow)).viewportTopRow) (p.height - 1))
    (min target.col (p.width - 1))
  split
  · rename_i hnone
    exact absurd (hmetrics.symm.trans hnone) (by simp)
  · rename_i updated hsome
    obtain rfl := Option.some.inj (hmetrics.symm.trans hsome)
    exact hplaced

theorem copyModeLineEdge_start (h : Placed s p a cm) :
    Placed (s.copyModeLineEdge unicode false) p { a with col := 0 } cm := by
  rw [AppState.copyModeLineEdge, h.copyMode]
  simp only [h.paneInfo]
  exact h.placeCopyCol 0

theorem copyModeLineEdge_end (h : Placed s p a cm) :
    Placed (s.copyModeLineEdge unicode true) p (a.lineEnd p unicode) cm := by
  rw [AppState.copyModeLineEdge, h.copyMode]
  simp only [h.paneInfo, h.visibleRowText, Spot.lineEnd]
  rw [show (cm.at a).cursorRow = a.row from rfl]
  cases p.rowText a.metrics a.row with
  | none => exact h
  | some text => exact h.placeCopyCol _

theorem copyModeFirstNonBlank (h : Placed s p a cm) :
    Placed (s.copyModeFirstNonBlank unicode) p (a.firstNonBlank p unicode) cm := by
  rw [AppState.copyModeFirstNonBlank, h.copyMode]
  simp only [h.visibleRowText, Spot.firstNonBlank]
  rw [show (cm.at a).cursorRow = a.row from rfl]
  cases p.rowText a.metrics a.row with
  | none => exact h
  | some text => exact h.placeCopyCol _

theorem copyModeWordMotion (h : Placed s p a cm) (motion : WordMotion) :
    Placed (s.copyModeWordMotion motion) p (a.goToTarget p (a.wordTarget p motion) false) cm := by
  rw [AppState.copyModeWordMotion, h.copyMode]
  simp only [h.scrollMetrics]
  rw [show (cm.at a).paneId = p.paneId from h.paneId, h.activeRuntime]
  simp only [Spot.wordTarget, CopyModeState.at, Spot.goToTarget]
  cases p.content.wordMotionTarget (min (a.metrics.viewportTopRow + a.row) 4294967295) a.col
      motion with
  | none => exact h
  | some target => exact h.moveCopyCursorToAbsolute target false

/-- A search writes what it found, and goes to its target. -/
theorem submitCopyModeSearch (h : Placed s p a cm) (query : Text)
    (direction : CopyModeSearchDirection) (again : Bool) :
    ∃ search, Placed (s.submitCopyModeSearch unicode query direction again) p
        (a.goToTarget p (a.searchTarget p unicode cm query direction again) true)
        { cm with search } ∧ search.prompt = cm.search.prompt := by
  rw [AppState.submitCopyModeSearch, Spot.searchTarget]
  by_cases hquery : query.isEmpty = true
  · rw [if_pos hquery, if_pos hquery]
    exact ⟨cm.search, h, rfl⟩
  · rw [if_neg hquery, if_neg hquery, h.copyMode]
    simp only
    rw [show (cm.at a).paneId = p.paneId from h.paneId, h.activeRuntime]
    simp only
    generalize AppState.searchFrom unicode (cm.at a)
      { scrollMetrics := some a.metrics, content := p.content } a.metrics query direction again =
      found
    obtain ⟨found, current⟩ := found
    have hwritten : Placed
        (s.updateCopyMode fun copyMode =>
          { copyMode with
            search :=
              { copyMode.search with
                query
                direction := if again then copyMode.search.direction else some direction
                «matches» := found
                current } }) p a
        { cm with
          search :=
            { cm.search with
              query
              direction := if again then cm.search.direction else some direction
              «matches» := found
              current } } :=
      ⟨h.toShown.congr rfl rfl rfl, by rw [AppState.updateCopyMode, h.copyMode]; rfl, h.paneId⟩
    simp only
    cases hindex : current.bind fun index => found[index]? with
    | none => exact ⟨_, hwritten, rfl⟩
    | some target => exact ⟨_, hwritten.moveCopyCursorToAbsolute target.start true, rfl⟩

end Placed

end CopyMode

end Zynk
