import Zynk.Input.Report
import Zynk.Layout.Tree
import Zynk.Lib.Checked
import Zynk.Lib.Grid

/-!
# Mouse positions

`input/mouse.rs` : the host reports the mouse in pixels of its window, which are mapped to a cell of
its grid and to a pixel of the pane over that cell. A pane gets a position exactly when the cell is
in its rectangle (`panePosition_eq`), and the report that goes on in cells is the one that came, at
that cell (`parseSgrMouse_reportAtCell`).
-/

namespace Zynk.Mouse

open Text CheckedNat

inductive Position where
  | cell (column row : ℕ)
  | pixels (x y : ℕ)
  deriving DecidableEq, Repr

structure HostGeometry where
  cols : UInt16
  rows : UInt16
  widthPx : UInt32
  heightPx : UInt32
  deriving DecidableEq, Repr

structure HostPixels where
  x : UInt32
  y : UInt32
  geometry : HostGeometry
  deriving DecidableEq, Repr

/-! ## Rounding -/

def boundary (index count extent : ℕ) : Except Exit ℕ :=
  if 0 < count ∧ index ≤ count ∧ 0 < extent then do
    return truncate 32 (← div (← mul 64 index extent) count)
  else .error .none

def gridCell (pixel count extent : ℕ) : Except Exit ℕ :=
  if count = 0 ∨ extent = 0 ∨ extent ≤ pixel then .error .none
  else do
    let cell ← div (← sub (← mul 64 (← add 64 pixel 1) count) 1) extent
    if cell < 2 ^ 16 ∧ cell < count then return cell else .error .none

def scale (pixel source target : ℕ) : Except Exit ℕ := do
  return truncate 32 (min (← div (← mul 64 pixel target) source) (target - 1))

/-! ## Geometry -/

namespace HostGeometry

def new (cols rows : UInt16) (widthPx heightPx : UInt32) : Option HostGeometry :=
  if 0 < cols ∧ 0 < rows ∧ 0 < widthPx ∧ 0 < heightPx then some { cols, rows, widthPx, heightPx }
  else none

def cell (g : HostGeometry) (x y : UInt32) : Except Exit (ℕ × ℕ) := do
  let column ← gridCell (← subOrNone x.toNat 1) g.cols.toNat g.widthPx.toNat
  let row ← gridCell (← subOrNone y.toNat 1) g.rows.toNat g.heightPx.toNat
  return (column, row)

def columnBoundary (g : HostGeometry) (column : ℕ) : Except Exit ℕ :=
  boundary column g.cols.toNat g.widthPx.toNat

def rowBoundary (g : HostGeometry) (row : ℕ) : Except Exit ℕ :=
  boundary row g.rows.toNat g.heightPx.toNat

end HostGeometry

def HostPixels.panePosition (p : HostPixels) (inner : Rect) (childWidthPx childHeightPx : UInt32) :
    Except Exit Position := do
  let startX ← p.geometry.columnBoundary inner.x.toNat
  let startY ← p.geometry.rowBoundary inner.y.toNat
  let endX ← p.geometry.columnBoundary (← addOrNone 16 inner.x.toNat inner.width.toNat)
  let endY ← p.geometry.rowBoundary (← addOrNone 16 inner.y.toNat inner.height.toNat)
  let x ← subOrNone (← subOrNone p.x.toNat 1) startX
  let y ← subOrNone (← subOrNone p.y.toNat 1) startY
  let sourceWidth ← subOrNone endX startX
  let sourceHeight ← subOrNone endY startY
  if sourceWidth ≤ x ∨ sourceHeight ≤ y ∨ childWidthPx = 0 ∨ childHeightPx = 0 then .error .none
  else
    let x ← addOrNone 32 (← scale x sourceWidth childWidthPx.toNat) 1
    let y ← addOrNone 32 (← scale y sourceHeight childHeightPx.toNat) 1
    return .pixels x y

/-! ## Nothing is lost -/

theorem boundary_eq {index count extent : ℕ} (hcount : 0 < count) (hindex : index ≤ count)
    (hcount' : count < 2 ^ 16) (hextent : 0 < extent) (hextent' : extent < 2 ^ 32) :
    boundary index count extent = .ok (Grid.edge count extent index) := by
  have hmul : index * extent < 2 ^ 64 := by
    calc index * extent ≤ 2 ^ 16 * 2 ^ 32 := Nat.mul_le_mul (by omega) hextent'.le
      _ < 2 ^ 64 := by decide
  have hedge : index * extent / count < 2 ^ 32 := (Grid.edge_le hcount hindex).trans_lt hextent'
  rw [boundary, if_pos ⟨hcount, hindex, hextent⟩, mul_of_lt hmul]
  simp only [ok_bind, div_of_pos hcount, truncate_of_lt hedge]
  rfl

theorem gridCell_eq {pixel count extent : ℕ} (hcount : 0 < count) (hcount' : count < 2 ^ 16)
    (hpixel : pixel < extent) (hextent' : extent < 2 ^ 32) :
    gridCell pixel count extent = .ok (Grid.cellAt count extent pixel) := by
  have hmul : (pixel + 1) * count < 2 ^ 64 := by
    calc (pixel + 1) * count ≤ 2 ^ 32 * 2 ^ 16 := Nat.mul_le_mul (by omega) hcount'.le
      _ < 2 ^ 64 := by decide
  have hpos : 1 ≤ (pixel + 1) * count := Nat.mul_pos (Nat.succ_pos pixel) hcount
  have hcell : ((pixel + 1) * count - 1) / extent < count := Grid.cellAt_lt hcount hpixel
  rw [gridCell, if_neg (by omega), add_of_lt (by omega), ok_bind, mul_of_lt hmul, ok_bind,
    sub_of_le hpos, ok_bind, div_of_pos (by omega), ok_bind, if_pos ⟨by omega, hcell⟩]
  rfl

theorem scale_eq {pixel source target : ℕ} (hpixel : pixel < 2 ^ 32) (hsource : 0 < source)
    (htarget : 0 < target) (htarget' : target < 2 ^ 32) :
    scale pixel source target = .ok (Grid.scale source target pixel) := by
  have hmul : pixel * target < 2 ^ 64 := by
    calc pixel * target < 2 ^ 32 * 2 ^ 32 := Nat.mul_lt_mul'' hpixel htarget'
      _ = 2 ^ 64 := by decide
  have hscale : min (pixel * target / source) (target - 1) < 2 ^ 32 := by omega
  rw [scale, mul_of_lt hmul, ok_bind, div_of_pos hsource, ok_bind, truncate_of_lt hscale]
  rfl

/-- The position counts from one. -/
theorem scale_succ_lt {pixel source target : ℕ} (htarget : 0 < target)
    (htarget' : target < 2 ^ 32) :
    Grid.scale source target pixel + 1 < 2 ^ 32 := by
  have hlt : Grid.scale source target pixel < target := Grid.scale_lt htarget
  omega

/-! ## Cells and panes -/

/-- No size of the host is zero. -/
structure HostGeometry.Positive (g : HostGeometry) : Prop where
  cols : 0 < g.cols.toNat
  rows : 0 < g.rows.toNat
  widthPx : 0 < g.widthPx.toNat
  heightPx : 0 < g.heightPx.toNat

/-- The pixels are those of the host's window. -/
structure HostPixels.Within (p : HostPixels) : Prop where
  x_pos : 0 < p.x.toNat
  x_le : p.x.toNat ≤ p.geometry.widthPx.toNat
  y_pos : 0 < p.y.toNat
  y_le : p.y.toNat ≤ p.geometry.heightPx.toNat

/-- The rectangle is inside the grid. -/
structure HostGeometry.Holds (g : HostGeometry) (inner : Rect) : Prop where
  cols : inner.x.toNat + inner.width.toNat ≤ g.cols.toNat
  rows : inner.y.toNat + inner.height.toNat ≤ g.rows.toNat

/-- A cell is in a rectangle. -/
def InRect (inner : Rect) (column row : ℕ) : Prop :=
  (inner.x.toNat ≤ column ∧ column < inner.x.toNat + inner.width.toNat) ∧
    inner.y.toNat ≤ row ∧ row < inner.y.toNat + inner.height.toNat

instance (inner : Rect) (column row : ℕ) : Decidable (InRect inner column row) :=
  inferInstanceAs (Decidable (_ ∧ _))

namespace HostPixels

/-- The column of the cell. -/
def column (p : HostPixels) : ℕ :=
  Grid.cellAt p.geometry.cols.toNat p.geometry.widthPx.toNat (p.x.toNat - 1)

/-- The row of the cell. -/
def row (p : HostPixels) : ℕ :=
  Grid.cellAt p.geometry.rows.toNat p.geometry.heightPx.toNat (p.y.toNat - 1)

variable {p : HostPixels} {inner : Rect} {childWidthPx childHeightPx : UInt32}

theorem cell_eq (hg : p.geometry.Positive) (hp : p.Within) :
    p.geometry.cell p.x p.y = .ok (p.column, p.row) := by
  have hx := hp.x_le
  have hy := hp.y_le
  rw [HostGeometry.cell, subOrNone_of_le hp.x_pos, ok_bind,
    gridCell_eq hg.cols p.geometry.cols.toNat_lt (by have := hp.x_pos; omega)
      p.geometry.widthPx.toNat_lt, ok_bind, subOrNone_of_le hp.y_pos, ok_bind,
    gridCell_eq hg.rows p.geometry.rows.toNat_lt (by have := hp.y_pos; omega)
      p.geometry.heightPx.toNat_lt, ok_bind]
  rfl

/-- The pane's pixel on one axis, from the host's pixel. -/
def panePixel (count extent start length pixel child : ℕ) : ℕ :=
  Grid.scale (Grid.edge count extent (start + length) - Grid.edge count extent start) child
    (pixel - 1 - Grid.edge count extent start) + 1

/-- A pane gets a position exactly when the cell is in its rectangle. -/
theorem panePosition_eq (hg : p.geometry.Positive) (hp : p.Within) (hinner : p.geometry.Holds inner)
    (hwidth : 0 < childWidthPx.toNat) (hheight : 0 < childHeightPx.toNat) :
    p.panePosition inner childWidthPx childHeightPx =
      if InRect inner p.column p.row then
        .ok (.pixels
          (panePixel p.geometry.cols.toNat p.geometry.widthPx.toNat inner.x.toNat
            inner.width.toNat p.x.toNat childWidthPx.toNat)
          (panePixel p.geometry.rows.toNat p.geometry.heightPx.toNat inner.y.toNat
            inner.height.toNat p.y.toNat childHeightPx.toNat))
      else .error .none := by
  have hcols := p.geometry.cols.toNat_lt
  have hrows := p.geometry.rows.toNat_lt
  have hwidthPx := p.geometry.widthPx.toNat_lt
  have hheightPx := p.geometry.heightPx.toNat_lt
  have hx := p.x.toNat_lt
  have hy := p.y.toNat_lt
  have hix := hinner.cols
  have hiy := hinner.rows
  have hcolumn (i : ℕ) :
      Grid.edge p.geometry.cols.toNat p.geometry.widthPx.toNat i ≤ p.x.toNat - 1 ↔ i ≤ p.column :=
    Grid.edge_le_iff hg.cols hg.widthPx
  have hrow (i : ℕ) :
      Grid.edge p.geometry.rows.toNat p.geometry.heightPx.toNat i ≤ p.y.toNat - 1 ↔ i ≤ p.row :=
    Grid.edge_le_iff hg.rows hg.heightPx
  have hstartX : p.geometry.columnBoundary inner.x.toNat = .ok _ :=
    boundary_eq hg.cols (by omega) hcols hg.widthPx hwidthPx
  have hendX : p.geometry.columnBoundary (inner.x.toNat + inner.width.toNat) = .ok _ :=
    boundary_eq hg.cols hix hcols hg.widthPx hwidthPx
  have hstartY : p.geometry.rowBoundary inner.y.toNat = .ok _ :=
    boundary_eq hg.rows (by omega) hrows hg.heightPx hheightPx
  have hendY : p.geometry.rowBoundary (inner.y.toNat + inner.height.toNat) = .ok _ :=
    boundary_eq hg.rows hiy hrows hg.heightPx hheightPx
  have hlengthX : Grid.edge p.geometry.cols.toNat p.geometry.widthPx.toNat inner.x.toNat ≤
      Grid.edge p.geometry.cols.toNat p.geometry.widthPx.toNat
        (inner.x.toNat + inner.width.toNat) := Grid.edge_mono (Nat.le_add_right _ _)
  have hlengthY : Grid.edge p.geometry.rows.toNat p.geometry.heightPx.toNat inner.y.toNat ≤
      Grid.edge p.geometry.rows.toNat p.geometry.heightPx.toNat
        (inner.y.toNat + inner.height.toNat) := Grid.edge_mono (Nat.le_add_right _ _)
  unfold panePosition
  rw [hstartX, ok_bind, hstartY, ok_bind, addOrNone_of_lt (by omega), ok_bind, hendX, ok_bind,
    addOrNone_of_lt (by omega), ok_bind, hendY, ok_bind, subOrNone_of_le hp.x_pos, ok_bind]
  -- Left of the pane, above it, and the rest.
  by_cases hleft : inner.x.toNat ≤ p.column
  swap
  · rw [subOrNone_of_lt (Nat.not_le.1 (mt (hcolumn _).1 hleft)), error_bind,
      if_neg fun hin => hleft hin.1.1]
  by_cases habove : inner.y.toNat ≤ p.row
  swap
  · rw [subOrNone_of_le ((hcolumn _).2 hleft), ok_bind, subOrNone_of_le hp.y_pos, ok_bind,
      subOrNone_of_lt (Nat.not_le.1 (mt (hrow _).1 habove)), error_bind,
      if_neg fun hin => habove hin.2.1]
  rw [subOrNone_of_le ((hcolumn _).2 hleft), ok_bind, subOrNone_of_le hp.y_pos, ok_bind,
    subOrNone_of_le ((hrow _).2 habove), ok_bind, subOrNone_of_le hlengthX, ok_bind,
    subOrNone_of_le hlengthY, ok_bind]
  have hstartX' := (hcolumn _).2 hleft
  have hstartY' := (hrow _).2 habove
  have hendX' := hcolumn (inner.x.toNat + inner.width.toNat)
  have hendY' := hrow (inner.y.toNat + inner.height.toNat)
  have hchild {n : UInt32} (hn : 0 < n.toNat) : n ≠ 0 := by
    rintro rfl
    cases hn
  by_cases hin : InRect inner p.column p.row
  · have hright := mt hendX'.1 (Nat.not_le.2 hin.1.2)
    have hbelow := mt hendY'.1 (Nat.not_le.2 hin.2.2)
    rw [if_pos hin, if_neg (by
        rintro (h | h | h | h)
        · omega
        · omega
        · exact hchild hwidth h
        · exact hchild hheight h),
      scale_eq (by omega) (by omega) hwidth childWidthPx.toNat_lt, ok_bind,
      addOrNone_of_lt (scale_succ_lt hwidth childWidthPx.toNat_lt), ok_bind,
      scale_eq (by omega) (by omega) hheight childHeightPx.toNat_lt, ok_bind,
      addOrNone_of_lt (scale_succ_lt hheight childHeightPx.toNat_lt), ok_bind]
    rfl
  · rw [if_neg hin, if_pos]
    by_cases hright : p.column < inner.x.toNat + inner.width.toNat
    · have hbelow : inner.y.toNat + inner.height.toNat ≤ p.row := by
        by_contra h
        exact hin ⟨⟨hleft, hright⟩, habove, Nat.not_le.1 h⟩
      have hend := hendY'.2 hbelow
      omega
    · have hend := hendX'.2 (Nat.not_lt.1 hright)
      omega

theorem column_lt (hg : p.geometry.Positive) (hp : p.Within) :
    p.column < p.geometry.cols.toNat := by
  have hpos := hp.x_pos
  have hle := hp.x_le
  exact Grid.cellAt_lt hg.cols (by omega)

theorem row_lt (hg : p.geometry.Positive) (hp : p.Within) : p.row < p.geometry.rows.toNat := by
  have hpos := hp.y_pos
  have hle := hp.y_le
  exact Grid.cellAt_lt hg.rows (by omega)

theorem panePixel_le {count extent start length pixel child : ℕ} (hchild : 0 < child) :
    panePixel count extent start length pixel child ≤ child :=
  Grid.scale_lt hchild

theorem panePixel_mono {count extent start length pixel pixel' child : ℕ} (h : pixel ≤ pixel') :
    panePixel count extent start length pixel child ≤
      panePixel count extent start length pixel' child :=
  Nat.succ_le_succ (Grid.scale_mono (by omega))

/-- A pane that gets a position gets the one of its pixels. -/
theorem of_panePosition (hg : p.geometry.Positive) (hp : p.Within) (hinner : p.geometry.Holds inner)
    (hwidth : 0 < childWidthPx.toNat) (hheight : 0 < childHeightPx.toNat) {x y : ℕ}
    (h : p.panePosition inner childWidthPx childHeightPx = .ok (.pixels x y)) :
    x = panePixel p.geometry.cols.toNat p.geometry.widthPx.toNat inner.x.toNat
        inner.width.toNat p.x.toNat childWidthPx.toNat ∧
      y = panePixel p.geometry.rows.toNat p.geometry.heightPx.toNat inner.y.toNat
        inner.height.toNat p.y.toNat childHeightPx.toNat := by
  rw [panePosition_eq hg hp hinner hwidth hheight] at h
  split at h
  · cases h
    exact ⟨rfl, rfl⟩
  · cases h

end HostPixels

/-! ## Reports -/

/-- The report of the same buttons at a cell. -/
def reportAtCell (data : Bytes) (column row : UInt16) : Option Bytes := do
  if !(ascii "\x1b[<").isPrefixOf data then none
  let body := data.drop 3
  let suffix := if body.getLast? == some 0x4d then 'M' else 'm'
  if body.getLast? != some (UInt8.ofNat suffix.toNat) then none
  let buttons ← (splitOn 0x3b body.dropLast).head?
  let buttons ← decodeUtf8 buttons
  some (encodeUtf8 ("\x1b[<".toList ++ (buttons ++ ';' :: (decimal (column.toNat + 1) ++
    ';' :: decimal (row.toNat + 1)) ++ [suffix])))

/-- A release is reported with the same buttons as a press. -/
def kindOf (final : Char) (kind : MouseEventKind) : MouseEventKind :=
  match final, kind with
  | 'm', .down button => .up button
  | _, kind => kind

/-- An accepted report in its fields. -/
structure Fields where
  buttons : Text
  columnField : Text
  rowField : Text
  final : Char

/-- The text of a report. -/
def Fields.text (f : Fields) : Text :=
  "\x1b[<".toList ++ (f.buttons ++ ';' :: (f.columnField ++ ';' :: f.rowField) ++ [f.final])

theorem parseSgrMouse_text {f : Fields} (hbuttons : ';' ∉ f.buttons)
    (hcolumn : ';' ∉ f.columnField) (hrow : ';' ∉ f.rowField)
    (hfinal : f.final = 'M' ∨ f.final = 'm') :
    parseSgrMouse f.text = (parseU8 f.buttons).bind fun cb =>
      ((parseU16 f.columnField).bind (checkedSub · 1)).bind fun column =>
        ((parseU16 f.rowField).bind (checkedSub · 1)).bind fun row =>
          (parseMouseCb cb).map fun (kind, modifiers) =>
            { kind := kindOf f.final kind, column, row, modifiers } := by
  have hsplit : splitOn ';' (f.buttons ++ ';' :: (f.columnField ++ ';' :: f.rowField)) =
      [f.buttons, f.columnField, f.rowField] := by
    rw [splitOn_append_cons hbuttons, splitOn_append_cons hcolumn, splitOn_of_not_mem hrow]
  have hlast : ¬ (f.final != 'M' && f.final != 'm') = true := by
    rcases hfinal with h | h <;> simp [h]
  simp only [parseSgrMouse, Fields.text, stripPrefix_append, Option.bind_eq_bind, Option.bind_some,
    List.getLast?_concat, List.dropLast_concat, hsplit, if_neg hlast, Option.map_eq_bind]
  rfl

theorem of_parseSgrMouse {text : Text} {event : MouseEvent} (h : parseSgrMouse text = some event) :
    ∃ f : Fields, text = f.text ∧ ';' ∉ f.buttons ∧ ';' ∉ f.columnField ∧ ';' ∉ f.rowField ∧
      (f.final = 'M' ∨ f.final = 'm') := by
  simp only [parseSgrMouse, Option.bind_eq_bind] at h
  obtain ⟨body, hbody, h⟩ := Option.bind_eq_some_iff.1 h
  obtain ⟨final, hfinal, h⟩ := Option.bind_eq_some_iff.1 h
  split at h
  · cases h
  · rename_i hlast
    split at h
    · rename_i buttons columnField rowField hsplit
      obtain ⟨hb, hnil | ⟨rest, hpayload, hrest⟩⟩ := splitOn_eq_cons hsplit
      · cases hnil.1
      obtain ⟨hc, hnil | ⟨last, rfl, hlast'⟩⟩ := splitOn_eq_cons hrest
      · cases hnil.1
      obtain ⟨hr, ⟨-, hrow⟩ | ⟨_, -, hmore⟩⟩ := splitOn_eq_cons hlast'
      · refine ⟨⟨buttons, columnField, rowField, final⟩, ?_, hb, hc, hr, ?_⟩
        · rw [eq_append_of_stripPrefix hbody, Fields.text, ← hrow, ← hpayload,
            List.dropLast_append_getLast? final hfinal]
        · by_contra hnot
          rw [not_or] at hnot
          exact hlast (by simp [hnot.1, hnot.2])
      · exact absurd hmore (splitOn_ne_nil _ _)
    · cases h

/-- The report goes on with the buttons and the final byte that it came with. -/
theorem reportAtCell_text {f : Fields} {cb : ℕ} (hcb : parseU8 f.buttons = some cb)
    (hfinal : f.final = 'M' ∨ f.final = 'm') (column row : UInt16) :
    reportAtCell (encodeUtf8 f.text) column row = some (encodeUtf8
      (Fields.text ⟨f.buttons, decimal (column.toNat + 1), decimal (row.toNat + 1), f.final⟩)) := by
  have hascii : ∀ c ∈ f.buttons, c.toNat < 59 := by
    intro c hc
    rcases of_parseUnsigned hcb c hc with rfl | hdigit
    · decide
    · have := toNat_of_isDigit hdigit
      omega
  have hmap : encodeUtf8 f.buttons = f.buttons.map fun c => UInt8.ofNat c.toNat :=
    encodeUtf8_eq_map fun c hc => (hascii c hc).trans (by decide)
  have hnot : 0x3b ∉ encodeUtf8 f.buttons := by
    rw [hmap, List.mem_map]
    rintro ⟨c, hc, hbyte⟩
    have hlt := hascii c hc
    have hnat := congrArg UInt8.toNat hbyte
    rw [toNat_ofNat_of_lt (by omega)] at hnat
    exact hlt.ne hnat
  have hbytes : encodeUtf8 f.text = ascii "\x1b[<" ++ ((encodeUtf8 f.buttons ++
      0x3b :: encodeUtf8 (f.columnField ++ ';' :: f.rowField)) ++ [UInt8.ofNat f.final.toNat]) := by
    have hsemicolon : encodeUtf8 (';' :: (f.columnField ++ ';' :: f.rowField)) =
        0x3b :: encodeUtf8 (f.columnField ++ ';' :: f.rowField) := encodeUtf8_cons (by decide) _
    have hlast : encodeUtf8 [f.final] = [UInt8.ofNat f.final.toNat] := by
      rcases hfinal with h | h <;> rw [h] <;> rfl
    rw [Fields.text, encodeUtf8_append, encodeUtf8_append, encodeUtf8_append, hsemicolon, hlast]
    rfl
  have hlead (rest : Bytes) : (ascii "\x1b[<").isPrefixOf (ascii "\x1b[<" ++ rest) = true :=
    List.isPrefixOf_iff_prefix.2 (List.prefix_append _ _)
  have hsuffix : (if (some (UInt8.ofNat f.final.toNat) == some 0x4d) = true then 'M' else 'm') =
      f.final := by
    rcases hfinal with h | h <;> rw [h] <;> decide
  have hdrop (rest : Bytes) : (ascii "\x1b[<" ++ rest).drop 3 = rest := List.drop_left' rfl
  simp only [reportAtCell, hbytes, hlead, hdrop, Bool.not_true, Bool.false_eq_true, if_false,
    List.getLast?_concat, List.dropLast_concat, hsuffix, splitOn_append_cons hnot,
    List.head?_cons, Option.bind_eq_bind, Option.bind_some, decodeUtf8_encodeUtf8,
    bne_self_eq_false]
  rfl

/-- The report that goes on in cells is read as the event that came, at that cell. -/
theorem parseSgrMouse_reportAtCell {text : Text} {event : MouseEvent}
    (h : parseSgrMouse text = some event) {column row : UInt16} (hcolumn : column.toNat < 65535)
    (hrow : row.toNat < 65535) :
    ((reportAtCell (encodeUtf8 text) column row).bind decodeUtf8).bind parseSgrMouse =
      some { event with column := column.toNat, row := row.toNat } := by
  obtain ⟨f, rfl, hb, hc, hr, hfinal⟩ := of_parseSgrMouse h
  rw [parseSgrMouse_text hb hc hr hfinal] at h
  obtain ⟨cb, hcb, h⟩ := Option.bind_eq_some_iff.1 h
  obtain ⟨column', hcolumn', h⟩ := Option.bind_eq_some_iff.1 h
  obtain ⟨row', hrow', h⟩ := Option.bind_eq_some_iff.1 h
  obtain ⟨⟨kind, modifiers⟩, hkind, rfl⟩ := Option.map_eq_some_iff.1 h
  have hreport : reportAtCell (encodeUtf8 f.text) column row = some (encodeUtf8
      (Fields.text ⟨f.buttons, decimal (column.toNat + 1), decimal (row.toNat + 1), f.final⟩)) := by
    exact reportAtCell_text hcb hfinal column row
  have hnot (n : ℕ) : ';' ∉ decimal n := not_mem_decimal (by decide) n
  have hfield {n : ℕ} (hn : n < 65535) :
      (parseU16 (decimal (n + 1))).bind (checkedSub · 1) = some n := by
    rw [parseU16, parseUnsigned_decimal, if_pos (by omega), Option.bind_some, checkedSub,
      if_pos (by omega), Nat.add_sub_cancel]
  have hread := @parseSgrMouse_text
    ⟨f.buttons, decimal (column.toNat + 1), decimal (row.toNat + 1), f.final⟩ hb (hnot _) (hnot _)
    hfinal
  rw [hreport, Option.bind_some, decodeUtf8_encodeUtf8, Option.bind_some, hread]
  simp only [hcb, hfield hcolumn, hfield hrow, Option.bind_some, hkind, Option.map_some]

/-- Pixel positions agree with cells : the host's pixels lie in a cell, a pane has a position for
them exactly when that cell is in its rectangle, the position is within the child and grows with the
pixels, and nothing overflows. A report goes on as the same event at any cell. -/
theorem positions_agree :
    (∀ (p : HostPixels) (inner : Rect) (childWidthPx childHeightPx : UInt32), p.geometry.Positive →
      p.Within → p.geometry.Holds inner → 0 < childWidthPx.toNat → 0 < childHeightPx.toNat →
      (∃ column row, p.geometry.cell p.x p.y = .ok (column, row) ∧
        column < p.geometry.cols.toNat ∧ row < p.geometry.rows.toNat ∧
        (InRect inner column row → ∃ x y,
          p.panePosition inner childWidthPx childHeightPx = .ok (.pixels x y) ∧
          (1 ≤ x ∧ x ≤ childWidthPx.toNat) ∧ 1 ≤ y ∧ y ≤ childHeightPx.toNat) ∧
        (¬ InRect inner column row →
          p.panePosition inner childWidthPx childHeightPx = .error .none)) ∧
      ∀ p' : HostPixels, p'.geometry = p.geometry → p'.Within → ∀ x y x' y',
        p.panePosition inner childWidthPx childHeightPx = .ok (.pixels x y) →
        p'.panePosition inner childWidthPx childHeightPx = .ok (.pixels x' y') →
        (p.x ≤ p'.x → x ≤ x') ∧ (p.y ≤ p'.y → y ≤ y')) ∧
    ∀ (text : Text) (event : MouseEvent) (column row : UInt16), parseSgrMouse text = some event →
      column.toNat < 65535 → row.toNat < 65535 →
      ((reportAtCell (encodeUtf8 text) column row).bind decodeUtf8).bind parseSgrMouse =
        some { event with column := column.toNat, row := row.toNat } := by
  refine ⟨fun p inner cw ch hg hp hinner hwidth hheight => ⟨?_, ?_⟩,
    fun text event column row h hcolumn hrow => parseSgrMouse_reportAtCell h hcolumn hrow⟩
  · refine ⟨p.column, p.row, HostPixels.cell_eq hg hp, HostPixels.column_lt hg hp,
      HostPixels.row_lt hg hp, fun hin => ?_, fun hout => ?_⟩
    · refine ⟨_, _, (HostPixels.panePosition_eq hg hp hinner hwidth hheight).trans (if_pos hin),
        ⟨Nat.succ_pos _, HostPixels.panePixel_le hwidth⟩, Nat.succ_pos _,
        HostPixels.panePixel_le hheight⟩
    · rw [HostPixels.panePosition_eq hg hp hinner hwidth hheight, if_neg hout]
  · intro p' hsame hp' x y x' y' h h'
    obtain ⟨rfl, rfl⟩ := HostPixels.of_panePosition hg hp hinner hwidth hheight h
    obtain ⟨rfl, rfl⟩ := HostPixels.of_panePosition (hsame ▸ hg) hp' (hsame ▸ hinner) hwidth hheight
      h'
    rw [hsame]
    exact ⟨fun hx => HostPixels.panePixel_mono (UInt32.le_iff_toNat_le.1 hx),
      fun hy => HostPixels.panePixel_mono (UInt32.le_iff_toNat_le.1 hy)⟩

/-- A window of 80 by 24 cells, and its last pixel. -/
theorem positions_agree_corner :
    ∃ x y, (⟨800, 480, ⟨80, 24, 800, 480⟩⟩ : HostPixels).panePosition ⟨40, 0, 40, 24⟩ 636 1225 =
      .ok (.pixels x y) ∧ (1 ≤ x ∧ x ≤ 636) ∧ 1 ≤ y ∧ y ≤ 1225 := by
  obtain ⟨⟨column, row, hcell, -, -, hin, -⟩, -⟩ := positions_agree.1
    ⟨800, 480, ⟨80, 24, 800, 480⟩⟩ ⟨40, 0, 40, 24⟩ 636 1225
    ⟨by decide, by decide, by decide, by decide⟩ ⟨by decide, by decide, by decide, by decide⟩
    ⟨by decide, by decide⟩ (by decide) (by decide)
  have hcorner : (⟨80, 24, 800, 480⟩ : HostGeometry).cell 800 480 = .ok (79, 23) := by decide
  rw [hcorner] at hcell
  cases hcell
  exact hin (by decide)

end Zynk.Mouse
