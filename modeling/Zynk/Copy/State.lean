import Zynk.Config.KeyCombo
import Zynk.Layout.Tree

/-!
# Copy mode and the pane it reads

`app/input/copy_mode.rs` with what it uses of `selection.rs`, `app/input/mouse.rs` and
`app/state.rs` : the state of copy mode, the runtimes of the workspaces, and the scroll operations
of a pane. Of a terminal the scroll position is state (`ScrollMetrics`); its text is a parameter
(`TerminalContent`), fixed as long as there is no new output. A scroll operation clamps the offset
to the history.

`u16` and `usize` additions saturate where the source says so; `u32` rows of a selection wrap, as
in a release build.
-/

namespace Zynk

namespace CopyMode

/-! ## Numbers -/

/-- `u16::saturating_add`. -/
def saturatingAdd16 (a b : ℕ) : ℕ :=
  min (a + b) 65535

/-- `usize::saturating_add`. -/
def saturatingAdd64 (a b : ℕ) : ℕ :=
  min (a + b) 18446744073709551615

/-- What the emulator and the standard library know of a character. -/
structure Unicode where
  /-- `ghostty::unicode_codepoint_width`. -/
  codepointWidth : Char → ℕ
  isUppercase : Char → Bool

/-! ## Panes and terminals -/

/-- A `Rect` of `u16` values. -/
structure Rect where
  x : ℕ
  y : ℕ
  width : ℕ
  height : ℕ
  width_lt : width < 2 ^ 16
  height_lt : height < 2 ^ 16
  deriving DecidableEq

structure PaneInfo where
  id : PaneId
  innerRect : Rect
  deriving DecidableEq

structure ScrollMetrics where
  offsetFromBottom : ℕ
  maxOffsetFromBottom : ℕ
  viewportRows : ℕ
  offset_le : offsetFromBottom ≤ maxOffsetFromBottom
  deriving DecidableEq

namespace ScrollMetrics

variable (metrics : ScrollMetrics) (n : ℕ)

/-- `set_scroll_offset_from_bottom`. -/
def setOffset : ScrollMetrics :=
  { metrics with
    offsetFromBottom := min n metrics.maxOffsetFromBottom
    offset_le := Nat.min_le_right _ _ }

/-- `scroll_up`. -/
def scrollUp : ScrollMetrics :=
  metrics.setOffset (metrics.offsetFromBottom + n)

/-- `scroll_down`. -/
def scrollDown : ScrollMetrics :=
  metrics.setOffset (metrics.offsetFromBottom - n)

@[simp] theorem offsetFromBottom_setOffset :
    (metrics.setOffset n).offsetFromBottom = min n metrics.maxOffsetFromBottom :=
  rfl

@[simp] theorem maxOffsetFromBottom_setOffset :
    (metrics.setOffset n).maxOffsetFromBottom = metrics.maxOffsetFromBottom :=
  rfl

@[simp] theorem viewportRows_setOffset :
    (metrics.setOffset n).viewportRows = metrics.viewportRows :=
  rfl

/-- `viewport_top_row` of `copy_mode.rs`. -/
def viewportTopRow : ℕ :=
  min (metrics.maxOffsetFromBottom - metrics.offsetFromBottom) 4294967295

end ScrollMetrics

structure TerminalTextPoint where
  row : ℕ
  col : ℕ
  deriving DecidableEq, Repr

/-- The derived order : rows first. -/
def TerminalTextPoint.before (p q : TerminalTextPoint) : Bool :=
  p.row < q.row || (p.row = q.row && p.col < q.col)

structure TerminalTextMatch where
  start : TerminalTextPoint
  «end» : TerminalTextPoint
  deriving DecidableEq, Repr

structure TerminalCursorState where
  x : ℕ
  y : ℕ
  visible : Bool
  deriving DecidableEq, Repr

inductive WordMotion where
  | nextStart | previousStart | nextEnd | nextBigStart | previousBigStart | nextBigEnd
  deriving DecidableEq, Repr

/-- What a terminal answers about its text. -/
structure TerminalContent where
  cursorState : Rect → Option TerminalCursorState
  extractSelection : (ℕ × ℕ) × (ℕ × ℕ) → Option Text
  searchTextMatches : Text → Bool → List TerminalTextMatch
  textMatchIsCurrent : TerminalTextMatch → Bool
  wordMotionTarget : ℕ → ℕ → WordMotion → Option TerminalTextPoint

/-- The metrics are missing when the emulator does not give them. -/
structure TerminalRuntime where
  scrollMetrics : Option ScrollMetrics
  content : TerminalContent

/-! ## Selections -/

inductive Phase where
  | anchored
  | dragging
  | done
  deriving DecidableEq, Repr

structure Selection where
  paneId : PaneId
  anchor : ℕ × ℕ
  cursor : ℕ × ℕ
  phase : Phase
  deriving DecidableEq, Repr

/-- `absolute_row_for_viewport_row` of `selection.rs`, in `u32`. -/
def absoluteRowForViewportRow (viewportRow : ℕ) (metrics : Option ScrollMetrics) : ℕ :=
  ((metrics.elim 0 fun m => m.maxOffsetFromBottom - m.offsetFromBottom) % 2 ^ 32 + viewportRow)
    % 2 ^ 32

namespace Selection

/-- `Selection::anchor`. -/
def anchorAt (paneId : PaneId) (viewportRow col : ℕ) (metrics : Option ScrollMetrics) :
    Selection :=
  let anchor := (absoluteRowForViewportRow viewportRow metrics, col)
  { paneId, anchor, cursor := anchor, phase := .anchored }

def range (paneId : PaneId) (viewportRow startCol endCol : ℕ) (metrics : Option ScrollMetrics) :
    Selection :=
  let row := absoluteRowForViewportRow viewportRow metrics
  { paneId, anchor := (row, startCol), cursor := (row, endCol), phase := .dragging }

def lineRange (paneId : PaneId) (anchorRow cursorRow endCol : ℕ) : Selection :=
  if anchorRow ≤ cursorRow then
    { paneId, anchor := (anchorRow, 0), cursor := (cursorRow, endCol), phase := .dragging }
  else { paneId, anchor := (anchorRow, endCol), cursor := (cursorRow, 0), phase := .dragging }

/-- `clamp_to_pane`. -/
def clampToPane (screenCol screenRow : ℕ) (paneInner : Rect) : ℕ × ℕ :=
  let clampedCol := min (max screenCol paneInner.x) (paneInner.x + (paneInner.width - 1))
  let clampedRow := min (max screenRow paneInner.y) (paneInner.y + (paneInner.height - 1))
  (clampedRow - paneInner.y, clampedCol - paneInner.x)

def drag (selection : Selection) (screenCol screenRow : ℕ) (paneInner : Rect)
    (metrics : Option ScrollMetrics) : Selection :=
  let (viewportRow, col) := clampToPane screenCol screenRow paneInner
  let cursor := (absoluteRowForViewportRow viewportRow metrics, col)
  { selection with
    cursor
    phase := if cursor ≠ selection.anchor then .dragging else selection.phase }

def isFinalized (selection : Selection) : Bool :=
  selection.phase = .done

/-- `finish`, `none` for a plain click. -/
def finish (selection : Selection) : Option Selection :=
  if selection.phase = .dragging then some { selection with phase := .done } else none

def orderedCells (selection : Selection) : (ℕ × ℕ) × (ℕ × ℕ) :=
  if selection.anchor.1 < selection.cursor.1 ∨
      (selection.anchor.1 = selection.cursor.1 ∧ selection.anchor.2 ≤ selection.cursor.2) then
    (selection.anchor, selection.cursor)
  else (selection.cursor, selection.anchor)

end Selection

/-! ## The state -/

inductive CopyModeSelection where
  | character
  | linewise (anchorRow : ℕ)
  deriving DecidableEq, Repr

inductive CopyModeSearchDirection where
  | forward
  | backward
  deriving DecidableEq, Repr

def CopyModeSearchDirection.reversed : CopyModeSearchDirection → CopyModeSearchDirection
  | forward => backward
  | backward => forward

structure CopyModeSearchPrompt where
  direction : CopyModeSearchDirection
  query : Text
  deriving DecidableEq, Repr

structure CopyModeSearchState where
  prompt : Option CopyModeSearchPrompt := none
  query : Text := []
  direction : Option CopyModeSearchDirection := none
  «matches» : List TerminalTextMatch := []
  current : Option ℕ := none
  geometry : Option (ℕ × ℕ) := none
  deriving DecidableEq, Repr

structure CopyModeState where
  paneId : PaneId
  cursorRow : ℕ
  cursorCol : ℕ
  entryOffsetFromBottom : ℕ
  selection : Option CopyModeSelection
  search : CopyModeSearchState
  deriving DecidableEq, Repr

/-- The modes that copy mode goes to. -/
inductive Mode where
  | terminal
  | copy
  | navigate
  | awaitPrefix
  deriving DecidableEq, Repr

/-- A workspace, with the runtimes of its panes. -/
structure Workspace where
  focusedPaneId : Option PaneId
  runtimes : PaneId → Option TerminalRuntime

structure AppState where
  active : Option ℕ
  workspaces : List Workspace
  paneInfos : List PaneInfo
  mode : Mode
  copyMode : Option CopyModeState
  selection : Option Selection
  requestClipboardWrite : Option Text
  prefixKey : Config.KeyCombo

namespace AppState

variable (s : AppState)

def paneInfoById (paneId : PaneId) : Option PaneInfo :=
  s.paneInfos.find? fun info => info.id = paneId

def runtimeForPaneInWorkspace (wsIdx : ℕ) (paneId : PaneId) : Option TerminalRuntime :=
  (s.workspaces[wsIdx]?).bind fun ws => ws.runtimes paneId

def paneScrollMetrics (paneId : PaneId) : Option ScrollMetrics :=
  (s.active.bind fun i => s.runtimeForPaneInWorkspace i paneId).bind
    TerminalRuntime.scrollMetrics

/-- A scroll operation of the runtime of a pane in a workspace. -/
def scrollRuntime (wsIdx : ℕ) (paneId : PaneId) (f : ScrollMetrics → ScrollMetrics) : AppState :=
  { s with
    workspaces := s.workspaces.modify wsIdx fun ws =>
      { ws with
        runtimes := Function.update ws.runtimes paneId
          ((ws.runtimes paneId).map fun rt =>
            { rt with scrollMetrics := rt.scrollMetrics.map f }) } }

def scrollPaneUp (paneId : PaneId) (lines : ℕ) : AppState :=
  match s.active with
  | none => s
  | some wsIdx => s.scrollRuntime wsIdx paneId fun m => m.scrollUp lines

def scrollPaneDown (paneId : PaneId) (lines : ℕ) : AppState :=
  match s.active with
  | none => s
  | some wsIdx => s.scrollRuntime wsIdx paneId fun m => m.scrollDown lines

/-- The first workspace that has a runtime for the pane is scrolled. -/
def setPaneScrollOffset (paneId : PaneId) (offsetFromBottom : ℕ) : AppState :=
  match (List.range s.workspaces.length).find? fun wsIdx =>
      (s.runtimeForPaneInWorkspace wsIdx paneId).isSome with
  | none => s
  | some wsIdx => s.scrollRuntime wsIdx paneId fun m => m.setOffset offsetFromBottom

def clearSelection : AppState :=
  { s with selection := none }

/-- `if let Some(copy_mode) = self.copy_mode.as_mut()`. -/
def updateCopyMode (f : CopyModeState → CopyModeState) : AppState :=
  { s with copyMode := s.copyMode.map f }

/-- `copy_selection` : what is selected goes to the clipboard, unless it is a plain click. -/
def copySelection : AppState :=
  match s.selection with
  | none => s
  | some sel =>
    let s := { s with selection := none }
    match (if sel.isFinalized then some sel else sel.finish) with
    | none => s
    | some sel =>
      match s.active.filter fun wsIdx => (s.workspaces[wsIdx]?).isSome with
      | none => s
      | some wsIdx =>
        match (s.runtimeForPaneInWorkspace wsIdx sel.paneId).bind
            fun rt => rt.content.extractSelection sel.orderedCells with
        | none => s.clearSelection
        | some text =>
          if text.isEmpty then s.clearSelection
          else { s.clearSelection with requestClipboardWrite := some text }

/-- `update_selection_cursor`. -/
def updateSelectionCursor (paneId : PaneId) (screenCol screenRow : ℕ) : AppState :=
  match s.paneInfoById paneId with
  | none => s
  | some info =>
    { s with
      selection := s.selection.map fun selection =>
        selection.drag screenCol screenRow info.innerRect (s.paneScrollMetrics paneId) }

end AppState

end CopyMode

end Zynk
