import Zynk.Layout.Invariant
import Zynk.Persist.Tabs

/-!
# The rectangles of a layout tile the area

A split that takes no more of its area than there is cuts it into two parts (`splitRect_parts`), so
the rectangles of the panes tile the area (`tiled`). It does so where its ratio is not above one,
but for rounding (`Node.TakesPart`), which the operations of a layout see to : every ratio that they
put into a tree is between the two bounds or a NaN. A restored tree has the ratios that were saved,
whatever they are, and the layout of a session that has a ratio of one and a half in it does not
tile its area (`not_restored_tiled`).
-/

namespace Zynk

namespace Rect

/-- The cell at `x` and `y` is in the rectangle. -/
def Covers (r : Rect) (x y : ℕ) : Prop :=
  (r.x.toNat ≤ x ∧ x < r.x.toNat + r.width.toNat) ∧
    (r.y.toNat ≤ y ∧ y < r.y.toNat + r.height.toNat)

/-- The edges of the rectangle are within those of `area`. -/
def Within (r area : Rect) : Prop :=
  (area.x.toNat ≤ r.x.toNat ∧ r.x.toNat + r.width.toNat ≤ area.x.toNat + area.width.toNat) ∧
    (area.y.toNat ≤ r.y.toNat ∧ r.y.toNat + r.height.toNat ≤ area.y.toNat + area.height.toNat)

/-- The right and bottom edges fit in a `u16`. -/
def Fits (r : Rect) : Prop :=
  r.x.toNat + r.width.toNat ≤ 65535 ∧ r.y.toNat + r.height.toNat ≤ 65535

theorem Within.trans {r r' r'' : Rect} (h : r.Within r') (h' : r'.Within r'') : r.Within r'' := by
  simp only [Within] at *
  omega

theorem Within.covers {r area : Rect} (h : r.Within area) {x y : ℕ} (hr : r.Covers x y) :
    area.Covers x y := by
  simp only [Within, Covers] at *
  omega

/-- The rectangles are in the area, no cell is in two of them, and every cell is in one. -/
structure Tiles (rects : List Rect) (area : Rect) : Prop where
  within : ∀ r ∈ rects, r.Within area
  disjoint : rects.Pairwise fun r r' => ∀ x y, ¬ (r.Covers x y ∧ r'.Covers x y)
  cover : ∀ x y, area.Covers x y → ∃ r ∈ rects, r.Covers x y

/-- Two rectangles that an area is cut into. -/
structure Parts (a b area : Rect) : Prop where
  first : a.Within area
  second : b.Within area
  disjoint : ∀ x y, ¬ (a.Covers x y ∧ b.Covers x y)
  cover : ∀ x y, area.Covers x y → a.Covers x y ∨ b.Covers x y

theorem Parts.tiles {a b area : Rect} (h : Parts a b area) {rects rects' : List Rect}
    (ha : Tiles rects a) (hb : Tiles rects' b) : Tiles (rects ++ rects') area where
  within r hr := by
    rcases List.mem_append.1 hr with hr | hr
    · exact (ha.within r hr).trans h.first
    · exact (hb.within r hr).trans h.second
  disjoint := by
    refine List.pairwise_append.2 ⟨ha.disjoint, hb.disjoint, fun r hr r' hr' x y hboth => ?_⟩
    exact h.disjoint x y
      ⟨(ha.within r hr).covers hboth.1, (hb.within r' hr').covers hboth.2⟩
  cover x y hxy := by
    rcases h.cover x y hxy with hin | hin
    · obtain ⟨r, hr, hcovers⟩ := ha.cover x y hin
      exact ⟨r, List.mem_append_left _ hr, hcovers⟩
    · obtain ⟨r, hr, hcovers⟩ := hb.cover x y hin
      exact ⟨r, List.mem_append_right _ hr, hcovers⟩

theorem Fits.within {r area : Rect} (h : area.Fits) (hr : r.Within area) : r.Fits := by
  simp only [Fits, Within] at *
  omega

end Rect

namespace Node

/-- What a ratio takes of an extent. -/
def firstExtent (extent : UInt16) (ratio : F32) : UInt16 :=
  ((F32.ofNat extent.toNat).mul ratio).round.toUInt16

/-- The additions of `collect_panes` do not overflow. -/
def NoOverflow : Node → Rect → Prop
  | pane _, _ => True
  | split direction ratio first second, area =>
    (match direction with
      | .horizontal => area.x.toNat + (firstExtent area.width ratio).toNat ≤ 65535
      | .vertical => area.y.toNat + (firstExtent area.height ratio).toNat ≤ 65535) ∧
      first.NoOverflow (splitRect area direction ratio).1 ∧
      second.NoOverflow (splitRect area direction ratio).2

/-- A ratio that takes no more than there is : it is not above one, or by so little that the
rounding takes it away. -/
def TakesPart (ratio : F32) : Prop :=
  F32.wholeLimit.lt ratio = false

theorem firstExtent_le {ratio : F32} (h : TakesPart ratio) (extent : UInt16) :
    (firstExtent extent ratio).toNat ≤ extent.toNat :=
  F32.toUInt16_round_mul_le h extent.toNat_lt

theorem min_of_le {a b : UInt16} (h : a ≤ b) : min a b = a :=
  if_pos h

theorem le_sub_of_fits {x extent : UInt16} (h : x.toNat + extent.toNat ≤ 65535) :
    extent ≤ 65535 - x := by
  have hx : x ≤ 65535 := UInt16.le_iff_toNat_le.2 (Nat.le_of_lt_succ x.toNat_lt)
  rw [UInt16.le_iff_toNat_le, UInt16.toNat_sub_of_le _ _ hx]
  show extent.toNat ≤ 65535 - x.toNat
  omega

theorem make_eq {x y width height : UInt16} (hwidth : x.toNat + width.toNat ≤ 65535)
    (hheight : y.toNat + height.toNat ≤ 65535) :
    Rect.make x y width height = ⟨x, y, width, height⟩ := by
  rw [Rect.make, min_of_le (le_sub_of_fits hwidth), min_of_le (le_sub_of_fits hheight)]

/-- What an extent is cut into. -/
theorem toNat_extents {x extent part : UInt16} (hfits : x.toNat + extent.toNat ≤ 65535)
    (hpart : part.toNat ≤ extent.toNat) :
    (x + part).toNat = x.toNat + part.toNat ∧
      (if part ≤ extent then extent - part else 0).toNat = extent.toNat - part.toNat := by
  have hle : part ≤ extent := UInt16.le_iff_toNat_le.2 hpart
  rw [if_pos hle, UInt16.toNat_sub_of_le _ _ hle, UInt16.toNat_add]
  omega

/-- A split cuts its area into two parts. -/
theorem splitRect_parts {area : Rect} (harea : area.Fits) (direction : Direction) {ratio : F32}
    (h : TakesPart ratio) :
    Rect.Parts (splitRect area direction ratio).1 (splitRect area direction ratio).2 area := by
  obtain ⟨hright, hbottom⟩ := harea
  cases direction with
  | horizontal =>
    have hpart := firstExtent_le h area.width
    obtain ⟨hx, hrest⟩ := toNat_extents hright hpart
    have hsplit : splitRect area .horizontal ratio =
        (⟨area.x, area.y, firstExtent area.width ratio, area.height⟩,
          ⟨area.x + firstExtent area.width ratio, area.y,
            if firstExtent area.width ratio ≤ area.width then
              area.width - firstExtent area.width ratio else 0, area.height⟩) :=
      Prod.ext (make_eq (Nat.le_trans (Nat.add_le_add_left hpart _) hright) hbottom)
        (make_eq (Nat.le_trans (Nat.le_of_eq (congrArg₂ (· + ·) hx hrest)) (by omega)) hbottom)
    rw [hsplit]
    refine ⟨?_, ?_, ?_, ?_⟩ <;> simp only [Rect.Within, Rect.Covers, hx, hrest] <;> omega
  | vertical =>
    have hpart := firstExtent_le h area.height
    obtain ⟨hy, hrest⟩ := toNat_extents hbottom hpart
    have hsplit : splitRect area .vertical ratio =
        (⟨area.x, area.y, area.width, firstExtent area.height ratio⟩,
          ⟨area.x, area.y + firstExtent area.height ratio, area.width,
            if firstExtent area.height ratio ≤ area.height then
              area.height - firstExtent area.height ratio else 0⟩) :=
      Prod.ext (make_eq hright (Nat.le_trans (Nat.add_le_add_left hpart _) hbottom))
        (make_eq hright (Nat.le_trans (Nat.le_of_eq (congrArg₂ (· + ·) hy hrest)) (by omega)))
    rw [hsplit]
    refine ⟨?_, ?_, ?_, ?_⟩ <;> simp only [Rect.Within, Rect.Covers, hy, hrest] <;> omega

/-! ## Trees -/

theorem map_id_collectPanes (node : Node) (focus : PaneId) (area : Rect) :
    (node.collectPanes focus area).map (·.id) = node.paneIds := by
  induction node generalizing area with
  | pane id => rfl
  | split direction ratio first second ih₁ ih₂ =>
    rw [collectPanes, List.map_append, ih₁, ih₂, paneIds]

/-- The rectangles tile the area, and no addition overflows. -/
theorem tiled {node : Node} (h : node.AllRatios TakesPart) (focus : PaneId) {area : Rect}
    (harea : area.Fits) :
    Rect.Tiles ((node.collectPanes focus area).map (·.rect)) area ∧ node.NoOverflow area := by
  induction node generalizing area with
  | pane id =>
    refine ⟨⟨?_, List.pairwise_singleton _ _, fun x y hxy => ⟨area, by simp [collectPanes], hxy⟩⟩,
      trivial⟩
    intro r hr
    obtain rfl : r = area := by simpa [collectPanes] using hr
    exact ⟨⟨le_rfl, le_rfl⟩, ⟨le_rfl, le_rfl⟩⟩
  | split direction ratio first second ih₁ ih₂ =>
    obtain ⟨hratio, hfirst, hsecond⟩ := h
    have hparts := splitRect_parts harea direction hratio
    obtain ⟨htiles₁, hover₁⟩ := ih₁ hfirst (harea.within hparts.first)
    obtain ⟨htiles₂, hover₂⟩ := ih₂ hsecond (harea.within hparts.second)
    refine ⟨?_, ?_, hover₁, hover₂⟩
    · rw [collectPanes, List.map_append]
      exact hparts.tiles htiles₁ htiles₂
    · obtain ⟨hright, hbottom⟩ := harea
      cases direction with
      | horizontal =>
        have hpart := firstExtent_le hratio area.width
        show area.x.toNat + (firstExtent area.width ratio).toNat ≤ 65535
        omega
      | vertical =>
        have hpart := firstExtent_le hratio area.height
        show area.y.toNat + (firstExtent area.height ratio).toNat ≤ 65535
        omega

end Node

/-! ## Ratios that are set -/

theorem clampRatio_takesPart (ratio : F32) : Node.TakesPart (clampRatio ratio) :=
  F32.not_lt_of_le (by push_cast; norm_num) (F32.not_lt_clamp ratio minRatio maxRatio)

theorem halfRatio_takesPart : Node.TakesPart halfRatio := by
  show F32.wholeLimit.lt F32.half = false
  decide +kernel

theorem validSplitRatio_takesPart (ratio : F32) : Node.TakesPart (validSplitRatio ratio) := by
  unfold validSplitRatio
  split
  · exact clampRatio_takesPart ratio
  · exact halfRatio_takesPart

namespace TileLayout

/-- The panes of the layout, one for each leaf and in the order of the leaves, tile the area. -/
structure Tiled (l : TileLayout) (area : Rect) : Prop where
  leaves : (l.panes area).map (·.id) = l.paneIds
  tiles : Rect.Tiles ((l.panes area).map (·.rect)) area
  noOverflow : l.root.NoOverflow area

theorem tiled {l : TileLayout} (h : l.root.AllRatios Node.TakesPart) {area : Rect}
    (harea : area.Fits) : l.Tiled area :=
  ⟨l.root.map_id_collectPanes l.focus area, (Node.tiled h l.focus harea).1,
    (Node.tiled h l.focus harea).2⟩

@[simp] theorem root_setFocus (l : TileLayout) (id : PaneId) : (l.setFocus id).root = l.root := by
  unfold setFocus
  split <;> rfl

variable {l l' : TileLayout} {changed : Bool}

theorem setRatioAt_takesPart (h : l.root.AllRatios Node.TakesPart) (path : List Bool)
    (ratio : F32) : (l.setRatioAt path ratio).1.root.AllRatios Node.TakesPart :=
  h.setRatioAt (clampRatio_takesPart ratio)

theorem splitPane_takesPart (h : l.root.AllRatios Node.TakesPart) (target : PaneId)
    (direction : Direction) (ratio : F32) (newId : PaneId) :
    (l.splitPane target direction ratio newId).1.root.AllRatios Node.TakesPart := by
  unfold splitPane
  split
  · exact h.splitAt (validSplitRatio_takesPart ratio) target direction newId
  · exact h

theorem insertPaneNear_takesPart (h : l.root.AllRatios Node.TakesPart) (target moved : PaneId)
    (direction : Direction) (ratio : F32) (focus : Bool) :
    (l.insertPaneNear target moved direction ratio focus).1.root.AllRatios Node.TakesPart := by
  have hsplit := h.splitAt (validSplitRatio_takesPart ratio) target direction moved
  unfold insertPaneNear
  split
  · exact h
  · split
    · exact h
    · cases focus with
      | false => exact hsplit
      | true => simpa using hsplit

theorem closeFocused_takesPart (h : l.root.AllRatios Node.TakesPart)
    (hclose : l.closeFocused = some (l', changed)) : l'.root.AllRatios Node.TakesPart := by
  unfold closeFocused at hclose
  split at hclose
  · cases hclose
    exact h
  · obtain ⟨pos, -, hclose⟩ := Option.bind_eq_some_iff.1 hclose
    obtain ⟨ordered, -, hclose⟩ := Option.map_eq_some_iff.1 hclose
    rcases hroot : l.root.removePane l.focus with _ | root
    · simp only [hroot] at hclose
      cases hclose
      trivial
    · simp only [hroot] at hclose
      cases hclose
      exact h.removePane hroot

theorem closePane_takesPart (h : l.root.AllRatios Node.TakesPart) {id : PaneId}
    (hclose : l.closePane id = some (l', changed)) : l'.root.AllRatios Node.TakesPart := by
  unfold closePane at hclose
  split at hclose
  · exact closeFocused_takesPart h hclose
  · split at hclose
    · cases hclose
      exact h
    · rcases hroot : l.root.removePane id with _ | root
      · simp only [hroot] at hclose
        cases hclose
        trivial
      · simp only [hroot] at hclose
        cases hclose
        exact h.removePane hroot

theorem focusPane_takesPart (h : l.root.AllRatios Node.TakesPart) (id : PaneId) :
    (l.focusPane id).root.AllRatios Node.TakesPart := by
  unfold focusPane
  split
  · simpa using h
  · exact h

theorem swapPanes_takesPart (h : l.root.AllRatios Node.TakesPart) (first second : PaneId) :
    (l.swapPanes first second).1.root.AllRatios Node.TakesPart := by
  unfold swapPanes
  split
  · exact h
  · split
    · exact h
    · exact h.swapPaneIds first second

theorem resizeFocused_takesPart (h : l.root.AllRatios Node.TakesPart) (nav : NavDirection)
    (delta : F32) (area : Rect) :
    (l.resizeFocused nav delta area).root.AllRatios Node.TakesPart := by
  rcases l.resizeFocused_eq nav delta area with hsame | ⟨path, ratio, hset⟩
  · rwa [hsame]
  · rw [hset]
    exact setRatioAt_takesPart h path ratio

theorem resizePane_takesPart (h : l.root.AllRatios Node.TakesPart) (paneId : PaneId)
    (nav : NavDirection) (delta : F32) (area : Rect) :
    (l.resizePane paneId nav delta area).1.root.AllRatios Node.TakesPart := by
  rcases l.resizePane_cases paneId nav delta area with hsame | ⟨path, ratio, hset⟩
  · rwa [hsame]
  · rw [hset]
    exact setRatioAt_takesPart h path ratio

end TileLayout

/-- No operation puts a ratio into a tree that takes more than there is. -/
theorem LayoutOp.apply_takesPart {l l' : TileLayout} (h : l.root.AllRatios Node.TakesPart)
    {op : LayoutOp} {reply : LayoutReply} (happly : op.apply l = some (l', reply)) :
    l'.root.AllRatios Node.TakesPart := by
  cases op with
  | splitPane target direction ratio newId =>
    cases happly
    exact TileLayout.splitPane_takesPart h target direction ratio newId
  | insertPaneNear target moved direction ratio focus =>
    cases happly
    exact TileLayout.insertPaneNear_takesPart h target moved direction ratio focus
  | closeFocused =>
    obtain ⟨closed, hclose, heq⟩ := Option.map_eq_some_iff.1 happly
    cases heq
    exact TileLayout.closeFocused_takesPart h hclose
  | closePane id =>
    obtain ⟨closed, hclose, heq⟩ := Option.map_eq_some_iff.1 happly
    cases heq
    exact TileLayout.closePane_takesPart h hclose
  | focusPane id =>
    cases happly
    exact TileLayout.focusPane_takesPart h id
  | swapPanes first second =>
    cases happly
    exact TileLayout.swapPanes_takesPart h first second
  | setRatioAt path ratio =>
    cases happly
    exact TileLayout.setRatioAt_takesPart h path ratio
  | resizeFocused nav delta area =>
    cases happly
    exact TileLayout.resizeFocused_takesPart h nav delta area
  | resizePane paneId nav delta area =>
    cases happly
    exact TileLayout.resizePane_takesPart h paneId nav delta area

/-! ## Runs -/

/-- Every layout that a run reaches tiles every area, when no ratio of the first one takes more than
there is. -/
theorem run_tiled {start : TileLayout} (hstart : start.root.AllRatios Node.TakesPart)
    (ops : List LayoutOp) {l : TileLayout}
    (hrun : StepRun.run LayoutOp.step (some start) ops = some l) {area : Rect}
    (harea : area.Fits) : l.Tiled area := by
  have hstep : ∀ (s : Option TileLayout) (op : LayoutOp),
      (∀ l, s = some l → l.root.AllRatios Node.TakesPart) →
        ∀ l, LayoutOp.step s op = some l → l.root.AllRatios Node.TakesPart := by
    intro s op hs l' hstepped
    obtain ⟨l, rfl, happlied⟩ := Option.bind_eq_some_iff.1 hstepped
    obtain ⟨⟨l'', reply⟩, happly, rfl⟩ := Option.map_eq_some_iff.1 happlied
    exact LayoutOp.apply_takesPart (hs l rfl) happly
  have hstarted : ∀ l, some start = some l → l.root.AllRatios Node.TakesPart := by
    rintro l ⟨⟩
    exact hstart
  exact TileLayout.tiled (StepRun.run_invariant hstep hstarted ops l hrun) harea

/-! ## Restored layouts -/

/-- A condition on every ratio of the saved tree. -/
def LayoutSnapshot.AllRatios (P : F32 → Prop) : LayoutSnapshot → Prop
  | pane _ => True
  | split _ ratio first second => P ratio ∧ first.AllRatios P ∧ second.AllRatios P

theorem SameTree.allRatios {P : F32 → Prop} {snap : LayoutSnapshot} {node : Node}
    (h : SameTree snap node) (hsnap : snap.AllRatios P) : node.AllRatios P := by
  induction h with
  | pane => trivial
  | split _ _ ih₁ ih₂ => exact ⟨hsnap.1, ih₁ hsnap.2.1, ih₂ hsnap.2.2⟩

theorem Collapsed.allRatios {P : F32 → Prop} {survives : PaneId → Prop} {node node' : Node}
    (h : Collapsed survives node node') (hnode : node.AllRatios P) : node'.AllRatios P := by
  induction h with
  | pane => trivial
  | split _ _ ih₁ ih₂ => exact ⟨hnode.1, ih₁ hnode.2.1, ih₂ hnode.2.2⟩
  | first _ _ ih => exact ih hnode.2.1
  | second _ _ ih => exact ih hnode.2.2

theorem restoreTab_allRatios {P : F32 → Prop} {world : RestoreWorld} {mode : RestoreMode}
    {conflicting : List String} {snap : TabSnapshot} {history : Option TabHistorySnapshot}
    {number : ℕ} {publicPaneIds : ℕ → Option String} {workspaceId : String} {next : ℕ}
    {st : RestoreState} {restored : RestoredTab}
    (h : (restoreTab world mode conflicting snap history number publicPaneIds workspaceId next
      st).1 = some restored) (hsnap : snap.layout.AllRatios P) :
    restored.tab.layout.root.AllRatios P := by
  rcases (restoreTab_cases world mode conflicting snap history number publicPaneIds workspaceId next
    st).2 with ⟨-, hnone⟩ | ⟨restored', hsome, -, -, -, -, hfrom⟩
  · rw [hnone] at h
    cases h
  · obtain rfl := Option.some.inj (hsome.symm.trans h)
    obtain ⟨node, htree, -, hcollapsed⟩ := hfrom.tree
    exact hcollapsed.allRatios (htree.allRatios hsnap)

/-- The panes of a layout tile every area : of one that is reached from a new layout, and of one
that is reached from a restored tab when no ratio that was saved takes more than there is. -/
theorem layouts_tile (ops : List LayoutOp) (l : TileLayout) (area : Rect) :
    (∀ rootId : PaneId, StepRun.run LayoutOp.step (some (TileLayout.new rootId)) ops = some l →
      area.Fits → l.Tiled area) ∧
      ∀ (world : RestoreWorld) (mode : RestoreMode) (conflicting : List String)
        (snap : TabSnapshot) (history : Option TabHistorySnapshot) (number : ℕ)
        (publicPaneIds : ℕ → Option String) (workspaceId : String) (next : ℕ) (st : RestoreState)
        (restored : RestoredTab),
        (restoreTab world mode conflicting snap history number publicPaneIds workspaceId next
          st).1 = some restored →
        snap.layout.AllRatios Node.TakesPart →
        StepRun.run LayoutOp.step (some restored.tab.layout) ops = some l →
          area.Fits → l.Tiled area := by
  refine ⟨?_, ?_⟩
  · intro rootId hrun harea
    exact @run_tiled (TileLayout.new rootId) trivial ops l hrun area harea
  · intro world mode conflicting snap history number publicPaneIds workspaceId next st restored
      hrestored hsnap hrun harea
    exact run_tiled (restoreTab_allRatios hrestored hsnap) ops hrun harea

/-- A saved tab of two panes. -/
def savedSplit (ratio : F32) : TabSnapshot where
  customName := none
  layout := .split .horizontal ratio (.pane 1) (.pane 2)
  panes := ∅
  zoomed := false
  focused := none
  rootPane := none

/-- The saved tab, restored with every shell starting. -/
def restoredSavedSplit (ratio : F32) : Option RestoredTab :=
  (restoreTab startingWorld ⟨true, false⟩ [] (savedSplit ratio) none 1 (fun _ => none) "w1" 1
    ⟨1, [], ∅, 0⟩).1

theorem layouts_tile_half :
    (∃ l, StepRun.run LayoutOp.step (some (TileLayout.new ⟨1⟩))
        [.splitPane ⟨1⟩ .vertical .nan ⟨2⟩] = some l ∧ l.Tiled ⟨0, 0, 80, 24⟩) ∧
      ∃ restored l, restoredSavedSplit halfRatio = some restored ∧
        StepRun.run LayoutOp.step (some restored.tab.layout) [.closeFocused] = some l ∧
        l.Tiled ⟨0, 0, 80, 24⟩ := by
  refine ⟨⟨_, rfl, ?_⟩, ⟨_, _, rfl, rfl, ?_⟩⟩
  · exact (layouts_tile [.splitPane ⟨1⟩ .vertical .nan ⟨2⟩] _ _).1 ⟨1⟩ rfl ⟨by decide, by decide⟩
  · exact (layouts_tile [.closeFocused] _ _).2 startingWorld ⟨true, false⟩ []
      (savedSplit halfRatio) none 1 (fun _ => none) "w1" 1 ⟨1, [], ∅, 0⟩ _ rfl
      ⟨halfRatio_takesPart, trivial, trivial⟩ rfl ⟨by decide, by decide⟩

/-- A saved ratio of one and a half gives the first pane more columns than there are. -/
theorem not_restored_tiled :
    ∃ restored, restoredSavedSplit (.finite false (3 / 2)) = some restored ∧
      (⟨0, 0, 10, 10⟩ : Rect).Fits ∧ ¬ restored.tab.layout.Tiled ⟨0, 0, 10, 10⟩ := by
  refine ⟨_, rfl, ⟨by decide, by decide⟩, fun htiled => ?_⟩
  have hfirst : (Node.splitRect ⟨0, 0, 10, 10⟩ .horizontal (.finite false (3 / 2))).1 =
      ⟨0, 0, 15, 10⟩ := by decide +kernel
  have hwithin : (Node.splitRect ⟨0, 0, 10, 10⟩ .horizontal (.finite false (3 / 2))).1.Within
      ⟨0, 0, 10, 10⟩ := htiled.tiles.within _ (List.mem_cons_self ..)
  rw [hfirst] at hwithin
  exact absurd hwithin.1.2 (by decide)

end Zynk
