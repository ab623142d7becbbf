import Mathlib.Data.List.MinMax
import Mathlib.Data.List.Nodup
import Zynk.Lib.F32

/-!
# Split trees

The tree of `layout.rs` : a pane is a leaf, a split has a direction, a ratio and two children.
The panes of a tree are its leaves from left to right (`Node.paneIds`), and what a tree operation
does is what it does to that list.

`u16` arithmetic wraps, as in a release build.
-/

namespace Zynk

/-- `PaneId`, drawn from a counter that all workspaces share. -/
@[ext]
structure PaneId where
  raw : ℕ
  deriving DecidableEq, Repr

inductive Direction where
  | horizontal
  | vertical
  deriving DecidableEq, Repr

inductive NavDirection where
  | left
  | right
  | up
  | down
  deriving DecidableEq, Repr

structure Rect where
  x : UInt16
  y : UInt16
  width : UInt16
  height : UInt16
  deriving DecidableEq, Repr

/-- `Rect::new` of ratatui : the far corner stays within `u16`. -/
def Rect.make (x y width height : UInt16) : Rect :=
  { x, y, width := min width (65535 - x), height := min height (65535 - y) }

inductive Node where
  | pane (id : PaneId)
  | split (direction : Direction) (ratio : F32) (first second : Node)
  deriving DecidableEq

/-- What `PaneInfo` has that the layout itself reads. -/
structure PaneInfo where
  id : PaneId
  rect : Rect
  isFocused : Bool

structure SplitBorder where
  /-- Position of the divider line. -/
  pos : UInt16
  direction : Direction
  ratio : F32
  area : Rect
  /-- From the root to the split : `false` is the first child. -/
  path : List Bool

/-! ## Ratios -/

/-- `0.1`, as the nearest `f32`. -/
def minRatio : F32 :=
  .finite false (13421773 / 134217728)

/-- `0.9`, as the nearest `f32`. -/
def maxRatio : F32 :=
  .finite false (15099494 / 16777216)

def halfRatio : F32 :=
  .half

def clampRatio (ratio : F32) : F32 :=
  ratio.clamp minRatio maxRatio

def validSplitRatio (ratio : F32) : F32 :=
  if ratio.isFinite then clampRatio ratio else halfRatio

namespace Node

/-! ## Tree operations -/

def countPanes : Node → ℕ
  | pane _ => 1
  | split _ _ first second => first.countPanes + second.countPanes

/-- `collect_ids`. -/
def paneIds : Node → List PaneId
  | pane id => [id]
  | split _ _ first second => first.paneIds ++ second.paneIds

def splitRect (area : Rect) (direction : Direction) (ratio : F32) : Rect × Rect :=
  match direction with
  | .horizontal =>
    let firstW := ((F32.ofNat area.width.toNat).mul ratio).round.toUInt16
    let secondW := if firstW ≤ area.width then area.width - firstW else 0
    (Rect.make area.x area.y firstW area.height,
      Rect.make (area.x + firstW) area.y secondW area.height)
  | .vertical =>
    let firstH := ((F32.ofNat area.height.toNat).mul ratio).round.toUInt16
    let secondH := if firstH ≤ area.height then area.height - firstH else 0
    (Rect.make area.x area.y area.width firstH,
      Rect.make area.x (area.y + firstH) area.width secondH)

def collectPanes (focus : PaneId) : Node → Rect → List PaneInfo
  | pane id, area => [{ id, rect := area, isFocused := id == focus }]
  | split direction ratio first second, area =>
    let (a, b) := splitRect area direction ratio
    first.collectPanes focus a ++ second.collectPanes focus b

def collectSplits : Node → Rect → List Bool → List SplitBorder
  | pane _, _, _ => []
  | split direction ratio first second, area, path =>
    let (a, b) := splitRect area direction ratio
    let pos :=
      match direction with
      | .horizontal => a.x + a.width
      | .vertical => a.y + a.height
    { pos, direction, ratio, area, path } ::
      (first.collectSplits a (path ++ [false]) ++ second.collectSplits b (path ++ [true]))

def splitRatiosFrom : Node → List Bool → List (List Bool × F32)
  | pane _, _ => []
  | split _ ratio first second, path =>
    (path, ratio) ::
      (first.splitRatiosFrom (path ++ [false]) ++ second.splitRatiosFrom (path ++ [true]))

def splitRatios (node : Node) : List (List Bool × F32) :=
  node.splitRatiosFrom []

def swapPaneIds (a b : PaneId) : Node → Node
  | pane id => if id = a then pane b else if id = b then pane a else pane id
  | split direction ratio first second =>
    split direction ratio (first.swapPaneIds a b) (second.swapPaneIds a b)

/-- Every leaf `target` gets the new pane beside it. -/
def splitAt (target : PaneId) (direction : Direction) (newId : PaneId) (splitRatio : F32) :
    Node → Node
  | pane id => if id = target then split direction splitRatio (pane id) (pane newId) else pane id
  | split d ratio first second =>
    split d ratio (first.splitAt target direction newId splitRatio)
      (second.splitAt target direction newId splitRatio)

/-- The tree without the leaves `target`; `none` when none is left. -/
def removePane (target : PaneId) : Node → Option Node
  | pane id => if id = target then none else some (pane id)
  | split direction ratio first second =>
    match first.removePane target, second.removePane target with
    | none, some s => some s
    | some f, none => some f
    | some f, some s => some (split direction ratio f s)
    | none, none => none

/-- The tree with the ratio of one split set, and whether the path led to a split. -/
def setRatioAt (newRatio : F32) : Node → List Bool → Node × Bool
  | pane id, _ => (pane id, false)
  | split direction _ first second, [] => (split direction newRatio first second, true)
  | split direction ratio first second, true :: path =>
    let (second, found) := second.setRatioAt newRatio path
    (split direction ratio first second, found)
  | split direction ratio first second, false :: path =>
    let (first, found) := first.setRatioAt newRatio path
    (split direction ratio first second, found)

def getRatioAt : Node → List Bool → Option F32
  | pane _, _ => none
  | split _ ratio _ _, [] => some ratio
  | split _ _ _ second, true :: path => second.getRatioAt path
  | split _ _ first _, false :: path => first.getRatioAt path

/-- The tree with other ids. -/
def rename (f : PaneId → PaneId) : Node → Node
  | pane id => pane (f id)
  | split direction ratio first second => split direction ratio (first.rename f) (second.rename f)

/-! ## What they do to the list of panes -/

@[simp] theorem paneIds_ne_nil (node : Node) : node.paneIds ≠ [] := by
  induction node with
  | pane id => simp [paneIds]
  | split direction ratio first second ih _ => simp [paneIds, ih]

theorem countPanes_eq (node : Node) : node.countPanes = node.paneIds.length := by
  induction node with
  | pane id => rfl
  | split direction ratio first second ih₁ ih₂ => simp [countPanes, paneIds, ih₁, ih₂]

theorem paneIds_swapPaneIds (a b : PaneId) (node : Node) :
    (node.swapPaneIds a b).paneIds = node.paneIds.map (Equiv.swap a b) := by
  induction node with
  | pane id =>
    simp only [swapPaneIds, paneIds, List.map_cons, List.map_nil, Equiv.swap_apply_def]
    split_ifs <;> rfl
  | split direction ratio first second ih₁ ih₂ => simp [swapPaneIds, paneIds, ih₁, ih₂]

theorem paneIds_splitAt (target : PaneId) (direction : Direction) (newId : PaneId) (r : F32)
    (node : Node) : (node.splitAt target direction newId r).paneIds =
      node.paneIds.flatMap fun id => if id = target then [id, newId] else [id] := by
  induction node with
  | pane id =>
    simp only [splitAt, paneIds, List.flatMap_cons, List.flatMap_nil, List.append_nil]
    split_ifs <;> rfl
  | split d ratio first second ih₁ ih₂ => simp [splitAt, paneIds, ih₁, ih₂]

/-- The panes that are left are those that are not the target. -/
theorem paneIds_removePane (target : PaneId) (node : Node) :
    ((node.removePane target).elim [] paneIds) = node.paneIds.filter (· ≠ target) := by
  induction node with
  | pane id =>
    by_cases h : id = target <;> simp [removePane, paneIds, h]
  | split direction ratio first second ih₁ ih₂ =>
    rw [paneIds, List.filter_append, ← ih₁, ← ih₂, removePane]
    rcases first.removePane target with _ | f <;> rcases second.removePane target with _ | s <;>
      simp [paneIds]

theorem paneIds_setRatioAt (r : F32) (node : Node) (path : List Bool) :
    (node.setRatioAt r path).1.paneIds = node.paneIds := by
  fun_induction setRatioAt r node path with
  | case1 => rfl
  | case2 => rfl
  | case3 direction ratio first second path second' found h ih =>
    simp only [paneIds]
    rw [← ih, h]
  | case4 direction ratio first second path first' found h ih =>
    simp only [paneIds]
    rw [← ih, h]

variable {r : F32} {node : Node}

theorem setRatioAt_eq_self {path : List Bool} (hnot : (node.setRatioAt r path).2 = false) :
    (node.setRatioAt r path).1 = node := by
  fun_induction setRatioAt r node path with
  | case1 => rfl
  | case2 => cases hnot
  | case3 direction ratio first second path second' found h ih =>
    rw [h] at ih
    exact congrArg (split direction ratio first) (ih hnot)
  | case4 direction ratio first second path first' found h ih =>
    rw [h] at ih
    exact congrArg (split direction ratio · second) (ih hnot)

/-- Setting a ratio that leaves the list of ratios leaves the tree. -/
theorem setRatioAt_eq_self_of_splitRatios {path from' : List Bool}
    (hsame : (node.setRatioAt r path).1.splitRatiosFrom from' = node.splitRatiosFrom from') :
    (node.setRatioAt r path).1 = node := by
  fun_induction setRatioAt r node path generalizing from' with
  | case1 => rfl
  | case2 direction ratio first second =>
    simp only [splitRatiosFrom, List.cons.injEq, Prod.mk.injEq] at hsame
    rw [hsame.1.2]
  | case3 direction ratio first second path second' found h ih =>
    rw [h] at ih
    simp only [splitRatiosFrom, List.cons.injEq, List.append_cancel_left_eq, true_and] at hsame
    exact congrArg (split direction ratio first) (ih hsame)
  | case4 direction ratio first second path first' found h ih =>
    rw [h] at ih
    simp only [splitRatiosFrom, List.cons.injEq, true_and, List.append_cancel_right_eq] at hsame
    exact congrArg (split direction ratio · second) (ih hsame)

/-! ## Ratios of a tree -/

/-- A condition on every ratio of the tree. -/
def AllRatios (P : F32 → Prop) : Node → Prop
  | pane _ => True
  | split _ ratio first second => P ratio ∧ first.AllRatios P ∧ second.AllRatios P

variable {P : F32 → Prop}

theorem AllRatios.swapPaneIds (h : node.AllRatios P) (a b : PaneId) :
    (node.swapPaneIds a b).AllRatios P := by
  induction node with
  | pane id =>
    rw [Node.swapPaneIds]
    split_ifs <;> trivial
  | split direction ratio first second ih₁ ih₂ => exact ⟨h.1, ih₁ h.2.1, ih₂ h.2.2⟩

theorem AllRatios.splitAt (h : node.AllRatios P) (hr : P r) (target : PaneId)
    (direction : Direction) (newId : PaneId) :
    (node.splitAt target direction newId r).AllRatios P := by
  induction node with
  | pane id =>
    rw [Node.splitAt]
    split_ifs
    · exact ⟨hr, trivial, trivial⟩
    · trivial
  | split d ratio first second ih₁ ih₂ => exact ⟨h.1, ih₁ h.2.1, ih₂ h.2.2⟩

theorem AllRatios.removePane {rest : Node} (h : node.AllRatios P) {target : PaneId}
    (hrest : node.removePane target = some rest) : rest.AllRatios P := by
  induction node generalizing rest with
  | pane id =>
    rw [Node.removePane] at hrest
    split_ifs at hrest
    cases hrest
    trivial
  | split direction ratio first second ih₁ ih₂ =>
    obtain ⟨hratio, h₁, h₂⟩ := h
    rw [Node.removePane] at hrest
    rcases hf : first.removePane target with _ | f <;>
      rcases hs : second.removePane target with _ | s <;> rw [hf, hs] at hrest <;> cases hrest
    · exact ih₂ h₂ hs
    · exact ih₁ h₁ hf
    · exact ⟨hratio, ih₁ h₁ hf, ih₂ h₂ hs⟩

theorem AllRatios.setRatioAt (hr : P r) {path : List Bool} (h : node.AllRatios P) :
    (node.setRatioAt r path).1.AllRatios P := by
  fun_induction Node.setRatioAt r node path with
  | case1 => trivial
  | case2 => exact ⟨hr, h.2⟩
  | case3 direction ratio first second path second' found heq ih =>
    refine ⟨h.1, h.2.1, ?_⟩
    simpa [heq] using ih h.2.2
  | case4 direction ratio first second path first' found heq ih =>
    refine ⟨h.1, ?_, h.2.2⟩
    simpa [heq] using ih h.2.1

end Node

theorem clampRatio_regular (ratio : F32) : (clampRatio ratio).Regular :=
  F32.clamp_regular (by norm_num) (by norm_num) ratio

theorem validSplitRatio_regular (ratio : F32) : (validSplitRatio ratio).Regular := by
  unfold validSplitRatio
  split
  · exact clampRatio_regular ratio
  · exact ⟨rfl, by norm_num⟩

end Zynk
