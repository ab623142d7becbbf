import Zynk.Layout.Tree

/-!
# Tiling layouts

`TileLayout` of `layout.rs` : a split tree, the pane in focus, and the pane that was in focus
before it. An operation that takes the tree out of the layout leaves a placeholder leaf in its
place until it puts the new tree back, and leaves it for good when there is no new tree.

`none` is a panic (an index or an `unwrap` of `close_focused`).
-/

namespace Zynk

structure TileLayout where
  root : Node
  focus : PaneId
  prevFocus : Option PaneId
  deriving DecidableEq

namespace TileLayout

/-- `TileLayout::new`, with the id it allocates. -/
def new (rootId : PaneId) : TileLayout where
  root := .pane rootId
  focus := rootId
  prevFocus := none

def fromSaved (root : Node) (focus : PaneId) : TileLayout where
  root := root
  focus := focus
  prevFocus := none

def setFocus (l : TileLayout) (id : PaneId) : TileLayout :=
  if id ≠ l.focus then { l with prevFocus := some l.focus, focus := id } else l

def paneCount (l : TileLayout) : ℕ :=
  l.root.countPanes

def paneIds (l : TileLayout) : List PaneId :=
  l.root.paneIds

def panes (l : TileLayout) (area : Rect) : List PaneInfo :=
  l.root.collectPanes l.focus area

def splits (l : TileLayout) (area : Rect) : List SplitBorder :=
  l.root.collectSplits area []

/-- The leaf that stands for the tree while it is being rebuilt. -/
def placeholder : Node :=
  .pane ⟨0⟩

/-- `newId` is the id that `PaneId::alloc` gives when the target is there. -/
def splitPane (l : TileLayout) (target : PaneId) (direction : Direction) (ratio : F32)
    (newId : PaneId) : TileLayout × Option PaneId :=
  if l.paneIds.contains target then
    ({ l with root := l.root.splitAt target direction newId (validSplitRatio ratio) }, some newId)
  else (l, none)

def insertPaneNear (l : TileLayout) (target moved : PaneId) (direction : Direction) (ratio : F32)
    (focus : Bool) : TileLayout × Bool :=
  if target = moved then (l, false)
  else if !l.paneIds.contains target || l.paneIds.contains moved then (l, false)
  else
    let l := { l with root := l.root.splitAt target direction moved (validSplitRatio ratio) }
    (if focus then l.setFocus moved else l, true)

/-- Where focus goes when `target` closes : back where it came from, else to the next pane. -/
def focusAfterClose (ids : List PaneId) (prevFocus : Option PaneId) (target ordered : PaneId) :
    PaneId :=
  match prevFocus with
  | some prev => if prev ≠ target ∧ ids.contains prev then prev else ordered
  | none => ordered

def closeFocused (l : TileLayout) : Option (TileLayout × Bool) :=
  if l.paneCount ≤ 1 then some (l, false)
  else
    let target := l.focus
    let ids := l.paneIds
    (ids.idxOf? target).bind fun pos =>
      let ordered := if pos + 1 < ids.length then ids[pos + 1]? else
        if pos = 0 then none else ids[pos - 1]?
      ordered.map fun ordered =>
        let newFocus := focusAfterClose ids l.prevFocus target ordered
        match l.root.removePane target with
        | some newRoot => ({ root := newRoot, focus := newFocus, prevFocus := none }, true)
        | none => ({ l with root := placeholder }, false)

def closePane (l : TileLayout) (id : PaneId) : Option (TileLayout × Bool) :=
  if l.focus = id then l.closeFocused
  else if l.paneCount ≤ 1 || !l.paneIds.contains id then some (l, false)
  else
    match l.root.removePane id with
    | some newRoot =>
      let prevFocus := if l.prevFocus = some id then none else l.prevFocus
      some ({ l with root := newRoot, prevFocus := prevFocus }, true)
    | none => some ({ l with root := placeholder }, false)

def focusPane (l : TileLayout) (id : PaneId) : TileLayout :=
  if l.paneIds.contains id then l.setFocus id else l

def swapPanes (l : TileLayout) (first second : PaneId) : TileLayout × Bool :=
  if first = second then (l, false)
  else if !l.paneIds.contains first || !l.paneIds.contains second then (l, false)
  else ({ l with root := l.root.swapPaneIds first second }, true)

def setRatioAt (l : TileLayout) (path : List Bool) (ratio : F32) : TileLayout × Bool :=
  let (root, found) := l.root.setRatioAt (clampRatio ratio) path
  ({ l with root := root }, found)

/-! ## Resizing -/

def rangesOverlap (aStart aLen bStart bLen : UInt16) : Bool :=
  aStart < bStart + bLen && bStart < aStart + aLen

def oppositeDirection : NavDirection → NavDirection
  | .left => .right
  | .right => .left
  | .up => .down
  | .down => .up

def splitEdgeDistance (split : SplitBorder) (focused : Rect) (nav : NavDirection) : ℕ :=
  let edge :=
    match nav with
    | .left => focused.x
    | .right => focused.x + focused.width
    | .up => focused.y
    | .down => focused.y + focused.height
  ((split.pos.toNat : ℤ) - edge.toNat).natAbs

def splitOnRequestedEdge (split : SplitBorder) (focused : Rect) (nav : NavDirection) : Bool :=
  splitEdgeDistance split focused nav ≤ 1

def splitAreaOverlapsFocusedPane (split : SplitBorder) (focused : Rect) : NavDirection → Bool
  | .left => rangesOverlap split.area.y split.area.height focused.y focused.height
  | .right => rangesOverlap split.area.y split.area.height focused.y focused.height
  | .up => rangesOverlap split.area.x split.area.width focused.x focused.width
  | .down => rangesOverlap split.area.x split.area.width focused.x focused.width

/-- `min_by_key` gives the first of the nearest ones. -/
def nearestResizeSplit (splits : List SplitBorder) (targetDir : Direction) (focused : Rect)
    (nav : NavDirection) : Option SplitBorder :=
  (splits.filter fun s => s.direction == targetDir && splitAreaOverlapsFocusedPane s focused nav &&
    splitOnRequestedEdge s focused nav).argmin fun s => splitEdgeDistance s focused nav

/-- The split that a resize moves. -/
def resizeTarget (l : TileLayout) (nav : NavDirection) (area : Rect) : Option SplitBorder :=
  ((l.panes area).find? (·.isFocused)).bind fun focused =>
    let targetDir :=
      match nav with
      | .left => Direction.horizontal
      | .right => .horizontal
      | .up => .vertical
      | .down => .vertical
    (nearestResizeSplit (l.splits area) targetDir focused.rect nav).or
      (nearestResizeSplit (l.splits area) targetDir focused.rect (oppositeDirection nav))

def resizeFocused (l : TileLayout) (nav : NavDirection) (delta : F32) (area : Rect) : TileLayout :=
  match l.resizeTarget nav area with
  | none => l
  | some split =>
    let currentRatio := (l.root.getRatioAt split.path).getD halfRatio
    let grows := nav = .right ∨ nav = .down
    let adj := if grows then delta else delta.neg
    (l.setRatioAt split.path (currentRatio.add adj)).1

/-- `==` of two lists of ratios. -/
def ratiosEq : List (List Bool × F32) → List (List Bool × F32) → Bool
  | [], [] => true
  | (path, r) :: rest, (path', r') :: rest' => path == path' && r.eq r' && ratiosEq rest rest'
  | _, _ => false

def resizePane (l : TileLayout) (paneId : PaneId) (nav : NavDirection) (delta : F32) (area : Rect) :
    TileLayout × Bool :=
  if l.paneIds.contains paneId then
    let before := l.root.splitRatios
    let previousFocus := l.focus
    let l := { l with focus := paneId }
    let l := l.resizeFocused nav delta area
    let l := { l with focus := previousFocus }
    (l, !ratiosEq l.root.splitRatios before)
  else (l, false)

end TileLayout

end Zynk
