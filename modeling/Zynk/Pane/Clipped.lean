import Zynk.Layout.Tree
import Zynk.Lib.Checked

/-!
# Placements cut at their pane

`clipped_placement` of `kitty_graphics.rs` : the part of an image that is drawn in a pane, in cells
and in pixels of the image. What the source does for columns and again for rows is said once of an
`Axis`. What is drawn is inside the pane and inside the image (`drawnInside`). Two things go wrong :
the first pixel is a checked sum between saturating ones, and the least coordinate has no opposite.
`staysInside_iff` says when neither does.
-/

namespace Zynk.Pane.Clipped

open CheckedNat

structure HostCellSize where
  widthPx : UInt32
  heightPx : UInt32
  deriving DecidableEq, Repr

inductive KittyImageFormat where
  | rgb
  | rgba
  | png
  deriving DecidableEq, Repr

structure KittyPlacementRenderInfo where
  pixelWidth : UInt32
  pixelHeight : UInt32
  gridCols : UInt32
  gridRows : UInt32
  viewportCol : Int32
  viewportRow : Int32
  sourceX : UInt32
  sourceY : UInt32
  sourceWidth : UInt32
  sourceHeight : UInt32
  deriving DecidableEq

structure KittyImagePlacement where
  xOffset : UInt32
  yOffset : UInt32
  imageWidth : UInt32
  imageHeight : UInt32
  format : KittyImageFormat
  render : KittyPlacementRenderInfo
  deriving DecidableEq

structure HostPlacement where
  area : Rect
  cellSize : HostCellSize
  placement : KittyImagePlacement
  deriving DecidableEq

structure ClippedPlacement where
  x : ℕ
  y : ℕ
  cols : ℕ
  rows : ℕ
  sourceX : ℕ
  sourceY : ℕ
  sourceWidth : ℕ
  sourceHeight : ℕ
  xOffset : ℕ
  yOffset : ℕ
  deriving DecidableEq, Repr

def kittyFormatCode : KittyImageFormat → ℕ
  | .rgb => 24
  | .rgba => 32
  | .png => 100

def scalePixels (value source dest : ℕ) : ℕ :=
  truncate 32 (min (saturatingMul 64 value source / max dest 1) (2 ^ 32 - 1))

/-! ## One axis -/

/-- The columns of a placement, or its rows. -/
structure Axis where
  /-- The pane. -/
  origin : UInt16
  extent : UInt16
  cellPx : UInt32
  viewport : Int32
  grid : UInt32
  pixels : UInt32
  source : UInt32
  sourceExtent : UInt32
  image : UInt32
  offset : UInt32

namespace Axis

/-- `left_clip_cells`, `top_clip_cells`. -/
def clipCells (a : Axis) : ℕ :=
  if a.viewport.toInt < 0 then (min (-a.viewport.toInt) (2 ^ 31 - 1)).toNat else 0

/-- `viewport_col`, `viewport_row`. -/
def viewportCells (a : Axis) : ℕ :=
  (max a.viewport.toInt 0).toNat

/-- `visible_cols`, `visible_rows`. -/
def visibleCells (a : Axis) : Except Exit ℕ := do
  return min (a.grid.toNat - a.clipCells) (← sub a.extent.toNat a.viewportCells)

/-- `source_width`, `source_height`. -/
def sourcePx (a : Axis) : ℕ :=
  if a.sourceExtent = 0 then a.image.toNat else a.sourceExtent.toNat

/-- `pixel_width`, `pixel_height`. -/
def pixelExtent (a : Axis) : ℕ :=
  max (max a.pixels.toNat (saturatingMul 32 a.grid.toNat a.cellPx.toNat)) 1

/-- What is cut off in front, in pixels of the image. -/
def cropPx (a : Axis) : ℕ :=
  scalePixels (saturatingMul 32 a.clipCells a.cellPx.toNat) a.sourcePx a.pixelExtent

/-- `source_x`, `source_y`. -/
def sourceStart (a : Axis) : Except Exit ℕ :=
  add 32 a.source.toNat a.cropPx

/-- `source_width`, `source_height` of the part that is drawn. -/
def sourceLength (a : Axis) (visible start : ℕ) : ℕ :=
  min (max (scalePixels (saturatingMul 32 visible a.cellPx.toNat) a.sourcePx a.pixelExtent) 1)
    (a.image.toNat - start)

/-- `x`, `y`. -/
def cell (a : Axis) : Except Exit ℕ :=
  add 16 a.origin.toNat (truncate 16 a.viewportCells)

/-- `x_offset`, `y_offset`. -/
def cellOffset (a : Axis) : ℕ :=
  if a.clipCells = 0 then a.offset.toNat else 0

end Axis

namespace HostPlacement

def columns (p : HostPlacement) : Axis where
  origin := p.area.x
  extent := p.area.width
  cellPx := p.cellSize.widthPx
  viewport := p.placement.render.viewportCol
  grid := p.placement.render.gridCols
  pixels := p.placement.render.pixelWidth
  source := p.placement.render.sourceX
  sourceExtent := p.placement.render.sourceWidth
  image := p.placement.imageWidth
  offset := p.placement.xOffset

def rows (p : HostPlacement) : Axis where
  origin := p.area.y
  extent := p.area.height
  cellPx := p.cellSize.heightPx
  viewport := p.placement.render.viewportRow
  grid := p.placement.render.gridRows
  pixels := p.placement.render.pixelHeight
  source := p.placement.render.sourceY
  sourceExtent := p.placement.render.sourceHeight
  image := p.placement.imageHeight
  offset := p.placement.yOffset

end HostPlacement

def clippedPlacement (p : HostPlacement) : Except Exit (ClippedPlacement × ℕ) :=
  if p.columns.extent = 0 ∨ p.rows.extent = 0 then .error .none
  else if p.columns.grid = 0 ∨ p.rows.grid = 0 then .error .none
  else if p.columns.extent.toNat ≤ p.columns.viewportCells ∨
      p.rows.extent.toNat ≤ p.rows.viewportCells then .error .none
  else do
    let visibleCols ← p.columns.visibleCells
    let visibleRows ← p.rows.visibleCells
    if visibleCols = 0 ∨ visibleRows = 0 then .error .none
    else
      let sourceX ← p.columns.sourceStart
      let sourceY ← p.rows.sourceStart
      let sourceWidth := p.columns.sourceLength visibleCols sourceX
      let sourceHeight := p.rows.sourceLength visibleRows sourceY
      if sourceWidth = 0 ∨ sourceHeight = 0 then .error .none
      else
        return ({
          x := ← p.columns.cell
          y := ← p.rows.cell
          cols := visibleCols
          rows := visibleRows
          sourceX, sourceY, sourceWidth, sourceHeight
          xOffset := p.columns.cellOffset
          yOffset := p.rows.cellOffset }, kittyFormatCode p.placement.format)

/-! ## What one axis shows -/

namespace Axis

/-- The far edge of the pane is a coordinate. -/
def Fits (a : Axis) : Prop :=
  a.origin.toNat + a.extent.toNat ≤ 65535

instance (a : Axis) : Decidable a.Fits :=
  inferInstanceAs (Decidable (_ ≤ _))

/-- The source finds cells of the placement in the pane. -/
def Shows (a : Axis) : Prop :=
  a.viewportCells < a.extent.toNat ∧ a.clipCells < a.grid.toNat

instance (a : Axis) : Decidable a.Shows :=
  inferInstanceAs (Decidable (_ ∧ _))

/-- A cell of the placement is in the pane. -/
def Inside (a : Axis) : Prop :=
  ∃ i < a.grid.toNat, 0 ≤ a.viewport.toInt + i ∧ a.viewport.toInt + i < a.extent.toNat

/-- The placement begins at the least coordinate, which has no opposite, and ends at the pane. -/
def AtLeast (a : Axis) : Prop :=
  a.viewport.toInt = -2 ^ 31 ∧ a.grid.toNat = 2 ^ 31

instance (a : Axis) : Decidable a.AtLeast :=
  inferInstanceAs (Decidable (_ ∧ _))

/-- Where the part of the image begins. -/
def cropStart (a : Axis) : ℕ :=
  a.source.toNat + a.cropPx

/-- The cells that are drawn. -/
def visible (a : Axis) : ℕ :=
  min (a.grid.toNat - a.clipCells) (a.extent.toNat - a.viewportCells)

variable {a : Axis}

/-- The source is wrong about one placement only. -/
theorem shows_iff : a.Shows ↔ a.Inside ∨ a.AtLeast ∧ 0 < a.extent.toNat := by
  have hmin := a.viewport.le_toInt
  simp only [Shows, viewportCells, clipCells, AtLeast]
  constructor
  · rintro ⟨hextent, hgrid⟩
    by_cases hneg : a.viewport.toInt < 0
    · rw [if_pos hneg] at hgrid
      by_cases hlt : -a.viewport.toInt < a.grid.toNat
      · exact Or.inl ⟨(-a.viewport.toInt).toNat, by omega, by omega, by omega⟩
      · exact Or.inr ⟨⟨by omega, by omega⟩, by omega⟩
    · exact Or.inl ⟨0, by omega, by omega, by omega⟩
  · rintro (⟨i, hi, hle, hlt⟩ | ⟨⟨hviewport, hgrid⟩, hextent⟩)
    · split_ifs <;> omega
    · rw [if_pos (by omega)]
      omega

theorem inside_iff (h : a.Shows) : a.Inside ↔ ¬ a.AtLeast := by
  constructor
  · rintro ⟨i, hi, hle, -⟩ ⟨hviewport, hgrid⟩
    omega
  · intro hatLeast
    exact (shows_iff.1 h).resolve_right fun hleast ↦ hatLeast hleast.1

/-- The cells that are drawn are cells of the pane. -/
theorem cells_inside (h : a.Shows) :
    a.origin.toNat ≤ a.origin.toNat + a.viewportCells ∧
      a.origin.toNat + a.viewportCells + a.visible ≤ a.origin.toNat + a.extent.toNat := by
  have hviewport := h.1
  unfold visible
  omega

/-- The pixels that are drawn are pixels of the image. -/
theorem pixels_inside {visible start : ℕ} (h : start < a.image.toNat) :
    0 < a.sourceLength visible start ∧
      start + a.sourceLength visible start ≤ a.image.toNat := by
  unfold sourceLength
  omega

theorem visibleCells_eq (h : a.viewportCells < a.extent.toNat) :
    a.visibleCells = .ok a.visible := by
  rw [visibleCells, sub_of_le h.le]
  rfl

theorem visible_eq_zero_iff (h : a.viewportCells < a.extent.toNat) :
    a.visible = 0 ↔ a.grid.toNat ≤ a.clipCells := by
  unfold visible
  omega

theorem sourceLength_eq_zero_iff {visible start : ℕ} :
    a.sourceLength visible start = 0 ↔ a.image.toNat ≤ start := by
  unfold sourceLength
  omega

theorem sourceStart_of_lt (h : a.cropStart < 2 ^ 32) : a.sourceStart = .ok a.cropStart :=
  add_of_lt h

theorem sourceStart_of_le (h : 2 ^ 32 ≤ a.cropStart) : a.sourceStart = .error .overflow :=
  add_of_le h

theorem cell_eq (hfits : a.Fits) (h : a.viewportCells < a.extent.toNat) :
    a.cell = .ok (a.origin.toNat + a.viewportCells) := by
  have hextent := a.extent.toNat_lt
  unfold Fits at hfits
  rw [cell, truncate_of_lt (by omega), add_of_lt (by omega)]

end Axis

/-! ## The outcome -/

open Axis

/-- The part of a placement that is drawn. -/
def HostPlacement.clipped (p : HostPlacement) : ClippedPlacement where
  x := p.columns.origin.toNat + p.columns.viewportCells
  y := p.rows.origin.toNat + p.rows.viewportCells
  cols := p.columns.visible
  rows := p.rows.visible
  sourceX := p.columns.cropStart
  sourceY := p.rows.cropStart
  sourceWidth := p.columns.sourceLength p.columns.visible p.columns.cropStart
  sourceHeight := p.rows.sourceLength p.rows.visible p.rows.cropStart
  xOffset := p.columns.cellOffset
  yOffset := p.rows.cellOffset

section

variable {p : HostPlacement}

theorem clippedPlacement_hidden (h : ¬ (p.columns.Shows ∧ p.rows.Shows)) :
    clippedPlacement p = .error .none := by
  unfold clippedPlacement
  split_ifs with hextent hgrid hviewport
  · rfl
  · rfl
  · rfl
  · obtain ⟨hx, hy⟩ := not_or.1 hviewport
    -- The pane is reached on both axes, so it is the clip that takes every cell of one.
    have hclip : p.columns.visible = 0 ∨ p.rows.visible = 0 := by
      rw [visible_eq_zero_iff (not_le.1 hx), visible_eq_zero_iff (not_le.1 hy)]
      unfold Shows at h
      omega
    rw [visibleCells_eq (not_le.1 hx), visibleCells_eq (not_le.1 hy), ok_bind, ok_bind,
      if_pos hclip]

/-- Past the guards : the crops are added to where the program has the image begin. -/
theorem clippedPlacement_of_shows (h : p.columns.Shows ∧ p.rows.Shows) :
    clippedPlacement p = (do
      let sourceX ← p.columns.sourceStart
      let sourceY ← p.rows.sourceStart
      let sourceWidth := p.columns.sourceLength p.columns.visible sourceX
      let sourceHeight := p.rows.sourceLength p.rows.visible sourceY
      if sourceWidth = 0 ∨ sourceHeight = 0 then .error .none
      else
        return ({ p.clipped with
          x := ← p.columns.cell
          y := ← p.rows.cell
          sourceX, sourceY, sourceWidth, sourceHeight }, kittyFormatCode p.placement.format)) := by
  obtain ⟨⟨hviewportX, hclipX⟩, hviewportY, hclipY⟩ := h
  have hextent : ¬ (p.columns.extent = 0 ∨ p.rows.extent = 0) := by
    rw [← UInt16.toNat_inj, ← UInt16.toNat_inj, UInt16.toNat_zero]
    omega
  have hgrid : ¬ (p.columns.grid = 0 ∨ p.rows.grid = 0) := by
    rw [← UInt32.toNat_inj, ← UInt32.toNat_inj, UInt32.toNat_zero]
    omega
  have hvisible : ¬ (p.columns.visible = 0 ∨ p.rows.visible = 0) := by
    rw [visible_eq_zero_iff hviewportX, visible_eq_zero_iff hviewportY]
    omega
  rw [clippedPlacement, if_neg hextent, if_neg hgrid, if_neg (by omega),
    visibleCells_eq hviewportX, visibleCells_eq hviewportY, ok_bind, ok_bind, if_neg hvisible]
  rfl

theorem clippedPlacement_overflow (h : p.columns.Shows ∧ p.rows.Shows)
    (hstart : 2 ^ 32 ≤ p.columns.cropStart ∨ 2 ^ 32 ≤ p.rows.cropStart) :
    clippedPlacement p = .error .overflow := by
  rw [clippedPlacement_of_shows h]
  by_cases hx : p.columns.cropStart < 2 ^ 32
  · rw [sourceStart_of_lt hx, ok_bind, sourceStart_of_le (by omega), error_bind]
  · rw [sourceStart_of_le (by omega), error_bind]

theorem clippedPlacement_shown (hx : p.columns.Fits) (hy : p.rows.Fits)
    (h : p.columns.Shows ∧ p.rows.Shows)
    (hstart : p.columns.cropStart < 2 ^ 32 ∧ p.rows.cropStart < 2 ^ 32) :
    clippedPlacement p =
      if p.columns.image.toNat ≤ p.columns.cropStart ∨ p.rows.image.toNat ≤ p.rows.cropStart then
        .error .none
      else .ok (p.clipped, kittyFormatCode p.placement.format) := by
  rw [clippedPlacement_of_shows h, sourceStart_of_lt hstart.1, ok_bind,
    sourceStart_of_lt hstart.2, ok_bind]
  simp only [sourceLength_eq_zero_iff]
  refine if_congr Iff.rfl rfl ?_
  rw [cell_eq hx h.1.1, ok_bind, cell_eq hy h.2.1, ok_bind]
  rfl

theorem clipped_of_eq_ok {c : ClippedPlacement} {code : ℕ} (hx : p.columns.Fits)
    (hy : p.rows.Fits) (hok : clippedPlacement p = .ok (c, code)) :
    (p.columns.Shows ∧ p.rows.Shows) ∧
      (p.columns.cropStart < p.columns.image.toNat ∧ p.rows.cropStart < p.rows.image.toNat) ∧
        c = p.clipped := by
  by_cases h : p.columns.Shows ∧ p.rows.Shows
  · by_cases hstart : p.columns.cropStart < 2 ^ 32 ∧ p.rows.cropStart < 2 ^ 32
    · rw [clippedPlacement_shown hx hy h hstart] at hok
      split_ifs at hok with himage
      refine ⟨h, by omega, ?_⟩
      injection hok with hpair
      exact (congrArg Prod.fst hpair).symm
    · rw [clippedPlacement_overflow h (by omega)] at hok
      cases hok
  · rw [clippedPlacement_hidden h] at hok
    cases hok

/-- What is drawn of a placement is in the pane and in the image. -/
structure DrawnInside (p : HostPlacement) (c : ClippedPlacement) : Prop where
  columns : p.area.x.toNat ≤ c.x ∧ c.x + c.cols ≤ p.area.x.toNat + p.area.width.toNat
  rows : p.area.y.toNat ≤ c.y ∧ c.y + c.rows ≤ p.area.y.toNat + p.area.height.toNat
  width : 0 < c.sourceWidth ∧ c.sourceX + c.sourceWidth ≤ p.placement.imageWidth.toNat
  height : 0 < c.sourceHeight ∧ c.sourceY + c.sourceHeight ≤ p.placement.imageHeight.toNat

theorem drawnInside {c : ClippedPlacement} {code : ℕ} (hx : p.columns.Fits) (hy : p.rows.Fits)
    (hok : clippedPlacement p = .ok (c, code)) : DrawnInside p c := by
  obtain ⟨⟨hcolumns, hrows⟩, ⟨hwidth, hheight⟩, rfl⟩ := clipped_of_eq_ok hx hy hok
  exact ⟨cells_inside hcolumns, cells_inside hrows, pixels_inside hwidth, pixels_inside hheight⟩

/-- A placement is drawn inside its pane or not at all : nothing overflows, and nothing is drawn
of a placement without a cell in the pane. -/
structure StaysInside (p : HostPlacement) : Prop where
  inside : ∀ c code, clippedPlacement p = .ok (c, code) → DrawnInside p c
  noPanic : ∀ exit, clippedPlacement p = .error exit → exit = .none
  hidden : ¬ (p.columns.Inside ∧ p.rows.Inside) → clippedPlacement p = .error .none

theorem staysInside_iff (hx : p.columns.Fits) (hy : p.rows.Fits) :
    StaysInside p ↔
      (p.columns.Shows ∧ p.rows.Shows →
        (p.columns.cropStart < 2 ^ 32 ∧ p.rows.cropStart < 2 ^ 32) ∧
          (¬ p.columns.AtLeast ∧ ¬ p.rows.AtLeast ∨
            p.columns.image.toNat ≤ p.columns.cropStart ∨
              p.rows.image.toNat ≤ p.rows.cropStart)) := by
  constructor
  · intro hstays h
    have hstart : p.columns.cropStart < 2 ^ 32 ∧ p.rows.cropStart < 2 ^ 32 := by
      by_contra hlt
      cases hstays.noPanic _ (clippedPlacement_overflow h (by omega))
    refine ⟨hstart, or_iff_not_imp_right.2 fun himage ↦ ?_⟩
    have hdrawn := clippedPlacement_shown hx hy h hstart
    rw [if_neg himage] at hdrawn
    rw [← inside_iff h.1, ← inside_iff h.2]
    by_contra hinside
    rw [hstays.hidden hinside] at hdrawn
    cases hdrawn
  · intro hwhen
    refine ⟨fun c code ↦ drawnInside hx hy, fun exit hexit ↦ ?_, fun hinside ↦ ?_⟩
    all_goals
      by_cases h : p.columns.Shows ∧ p.rows.Shows
      swap
    · rw [clippedPlacement_hidden h] at hexit
      injection hexit with hexit
      exact hexit.symm
    · rw [clippedPlacement_shown hx hy h (hwhen h).1] at hexit
      split_ifs at hexit
      injection hexit with hexit
      exact hexit.symm
    · exact clippedPlacement_hidden h
    · rw [clippedPlacement_shown hx hy h (hwhen h).1, if_pos]
      refine (hwhen h).2.resolve_left ?_
      rwa [← inside_iff h.1, ← inside_iff h.2]

end

/-! ## One placement -/

/-- An image of a hundred by a hundred pixels near the left edge of a pane. -/
def atLeftEdge (cellPx : UInt32) (viewportCol : Int32) (gridCols sourceX : UInt32) :
    HostPlacement where
  area := { x := 0, y := 0, width := 80, height := 24 }
  cellSize := { widthPx := cellPx, heightPx := cellPx }
  placement :=
    { xOffset := 0, yOffset := 0, imageWidth := 100, imageHeight := 100, format := .rgba
      render :=
        { pixelWidth := 100, pixelHeight := 100, gridCols, gridRows := 10, viewportCol
          viewportRow := 0, sourceX, sourceY := 0, sourceWidth := 0, sourceHeight := 0 } }

theorem staysInside_of_two_cut : StaysInside (atLeftEdge 10 (-2) 10 0) :=
  (staysInside_iff (by decide) (by decide)).2 (by decide)

/-- One column is cut off, and the last pixel that the program may name moves past the end of its
type. -/
theorem overflows_at_left_edge :
    (atLeftEdge 10 (-1) 10 4294967295).columns.Fits ∧
      (atLeftEdge 10 (-1) 10 4294967295).rows.Fits ∧
        ¬ StaysInside (atLeftEdge 10 (-1) 10 4294967295) := by
  refine ⟨by decide, by decide, fun hstays ↦ ?_⟩
  have hoverflow : clippedPlacement (atLeftEdge 10 (-1) 10 4294967295) = .error .overflow :=
    clippedPlacement_overflow (by decide) (Or.inl (by decide))
  cases hstays.noPanic _ hoverflow

-- The last column is at `-1`, and is drawn in the pane.
example : ∃ c code, clippedPlacement (atLeftEdge 1 (-2147483648) 2147483648 0) = .ok (c, code) :=
  ⟨_, _, rfl⟩

end Zynk.Pane.Clipped
