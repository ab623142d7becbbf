import Zynk.Layout.Invariant
import Zynk.Workspace.Ops

/-!
# Undoing a split

A pane that is put into a layout without focus and closed again leaves the layout as it was : its
tree, its focus and where the focus came from (`closePane_splitAt`). So a tab whose new pane does
not start is the tab before the split, and so is a layout in which two panes are swapped twice
(`swapPaneIds_swapPaneIds`). `layout_edits_undone` puts the three together.
-/

namespace Zynk

namespace Node

/-- The leaf that a split adds, and no other, goes when its pane is removed. -/
theorem removePane_splitAt {node : Node} {target newId : PaneId} (hnew : newId ∉ node.paneIds)
    (direction : Direction) (r : F32) :
    (node.splitAt target direction newId r).removePane newId = some node := by
  induction node with
  | pane id =>
    have hne : id ≠ newId := fun heq => hnew (heq ▸ List.mem_singleton_self id)
    rw [splitAt]
    split
    · simp [removePane, hne]
    · simp [removePane, hne]
  | split d ratio first second ih₁ ih₂ =>
    rw [paneIds, List.mem_append, not_or] at hnew
    rw [splitAt, removePane, ih₁ hnew.1, ih₂ hnew.2]

theorem swapPaneIds_swapPaneIds (a b : PaneId) (node : Node) :
    (node.swapPaneIds a b).swapPaneIds a b = node := by
  induction node with
  | pane id =>
    by_cases ha : id = a
    · subst ha
      by_cases hb : b = id <;> simp [swapPaneIds, hb]
    · by_cases hb : id = b
      · subst hb
        simp [swapPaneIds, ha]
      · simp [swapPaneIds, ha, hb]
  | split direction ratio first second ih₁ ih₂ => rw [swapPaneIds, swapPaneIds, ih₁, ih₂]

end Node

namespace TileLayout

/-- The panes of a layout are distinct, and its focus and where it came from are among them. -/
structure Valid (l : TileLayout) : Prop where
  nodup : l.paneIds.Nodup
  focus : l.focus ∈ l.paneIds
  prevFocus : ∀ prev ∈ l.prevFocus, prev ∈ l.paneIds

theorem WellFormed.valid {l : TileLayout} (h : l.WellFormed) : l.Valid where
  nodup := h.nodup
  focus := h.focus
  prevFocus prev hprev := (h.prevFocus prev hprev).1

/-- Closing a pane that has been put in without focus. -/
theorem closePane_splitAt {l : TileLayout} (h : l.Valid) {target newId : PaneId}
    (htarget : target ∈ l.paneIds) (hnew : newId ∉ l.paneIds) (direction : Direction) (r : F32) :
    ({ l with root := l.root.splitAt target direction newId r } : TileLayout).closePane newId =
      some (l, true) := by
  have hfocus : l.focus ≠ newId := fun heq => hnew (heq ▸ h.focus)
  have hprev : l.prevFocus ≠ some newId := fun heq => hnew (h.prevFocus newId heq)
  have hids : (l.root.splitAt target direction newId r).paneIds =
      l.paneIds.flatMap fun id => if id = target then [id, newId] else [id] :=
    Node.paneIds_splitAt target direction newId r l.root
  have hmem : newId ∈ (l.root.splitAt target direction newId r).paneIds := by
    rw [hids, List.mem_flatMap]
    exact ⟨target, htarget, by simp⟩
  have htarget' : target ∈ (l.root.splitAt target direction newId r).paneIds := by
    rw [hids, List.mem_flatMap]
    exact ⟨target, htarget, by simp⟩
  have hcount : ¬ (l.root.splitAt target direction newId r).countPanes ≤ 1 := by
    rw [Node.countPanes_eq]
    intro hle
    have hne : target ≠ newId := fun heq => hnew (heq ▸ htarget)
    obtain ⟨id, hid⟩ := List.length_eq_one_iff.1
      (le_antisymm hle (List.length_pos_of_mem hmem))
    rw [hid, List.mem_singleton] at hmem htarget'
    exact hne (htarget'.trans hmem.symm)
  simp [closePane, paneCount, paneIds, hfocus, hcount, hmem, hprev,
    Node.removePane_splitAt hnew direction r]

theorem swapPanes_swapPanes {l : TileLayout} {first second : PaneId} (hne : first ≠ second)
    (hfirst : first ∈ l.paneIds) (hsecond : second ∈ l.paneIds) :
    l.swapPanes first second = ({ l with root := l.root.swapPaneIds first second }, true) ∧
      ({ l with root := l.root.swapPaneIds first second } : TileLayout).swapPanes first second =
        (l, true) := by
  have hids : (l.root.swapPaneIds first second).paneIds =
      l.paneIds.map (Equiv.swap first second) := Node.paneIds_swapPaneIds first second l.root
  have hfirst' : first ∈ (l.root.swapPaneIds first second).paneIds := by
    rw [hids, List.mem_map]
    exact ⟨second, hsecond, Equiv.swap_apply_right first second⟩
  have hsecond' : second ∈ (l.root.swapPaneIds first second).paneIds := by
    rw [hids, List.mem_map]
    exact ⟨first, hfirst, Equiv.swap_apply_left first second⟩
  constructor
  · simp [swapPanes, hne, hfirst, hsecond]
  · rw [swapPanes]
    simp [paneIds, hne, hfirst', hsecond', Node.swapPaneIds_swapPaneIds]

end TileLayout

/-- What undoes an edit of a layout : closing the pane that was split off, which a tab does when the
pane does not start, closing the pane that was put in, and swapping again. -/
theorem layout_edits_undone (l : TileLayout) (h : l.Valid) :
    (∀ target ∈ l.paneIds, ∀ (direction : Direction) (ratio : F32), ∀ newId ∉ l.paneIds,
      (∃ l', l.splitPane target direction ratio newId = (l', some newId) ∧
        l'.closePane newId = some (l, true)) ∧
      ∀ (tab : Tab) (focusNewPane : Bool) (ratio : Option F32) (terminalId : TerminalId),
        tab.layout = l → tab.splitPaneWithRuntime target focusNewPane direction ratio false newId
          terminalId = some (tab, none)) ∧
    (∀ target ∈ l.paneIds, ∀ (direction : Direction) (ratio : F32), ∀ moved ∉ l.paneIds,
      ∃ l', l.insertPaneNear target moved direction ratio false = (l', true) ∧
        l'.closePane moved = some (l, true)) ∧
    ∀ first ∈ l.paneIds, ∀ second ∈ l.paneIds, first ≠ second →
      ∃ l', l.swapPanes first second = (l', true) ∧ l'.swapPanes first second = (l, true) := by
  refine ⟨fun target htarget direction ratio newId hnew => ⟨?_, ?_⟩,
    fun target htarget direction ratio moved hmoved => ?_,
    fun first hfirst second hsecond hne => ?_⟩
  · exact ⟨_, by simp [TileLayout.splitPane, htarget],
      TileLayout.closePane_splitAt h htarget hnew direction (validSplitRatio ratio)⟩
  · rintro tab focusNewPane ratio terminalId rfl
    have hclose := TileLayout.closePane_splitAt h htarget hnew direction
      (validSplitRatio (ratio.getD halfRatio))
    simp [Tab.splitPaneWithRuntime, TileLayout.splitPane, htarget, hclose]
  · have hne : target ≠ moved := fun heq => hmoved (heq ▸ htarget)
    exact ⟨_, by simp [TileLayout.insertPaneNear, hne, htarget, hmoved],
      TileLayout.closePane_splitAt h htarget hmoved direction (validSplitRatio ratio)⟩
  · exact ⟨_, TileLayout.swapPanes_swapPanes hne hfirst hsecond⟩

/-- A layout with two panes, with the focus on the second. -/
theorem layout_edits_undone_two :
    ∃ l', (TileLayout.splitPane ⟨.split .horizontal halfRatio (.pane ⟨1⟩) (.pane ⟨2⟩), ⟨2⟩,
        some ⟨1⟩⟩ ⟨1⟩ .vertical .nan ⟨3⟩) = (l', some ⟨3⟩) ∧
      l'.closePane ⟨3⟩ = some (⟨.split .horizontal halfRatio (.pane ⟨1⟩) (.pane ⟨2⟩), ⟨2⟩,
        some ⟨1⟩⟩, true) := by
  have hvalid : TileLayout.WellFormed ⟨.split .horizontal halfRatio (.pane ⟨1⟩) (.pane ⟨2⟩), ⟨2⟩,
      some ⟨1⟩⟩ :=
    { nodup := by decide
      focus := by decide
      prevFocus := by
        rintro prev ⟨⟩
        decide
      ratios := ⟨⟨rfl, by norm_num⟩, trivial, trivial⟩ }
  exact ((layout_edits_undone _ hvalid.valid).1 ⟨1⟩ (by decide) .vertical .nan ⟨3⟩ (by decide)).1

end Zynk
