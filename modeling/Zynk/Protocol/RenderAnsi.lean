import Zynk.Lib.Ansi
import Zynk.Protocol.Frame

/-!
# Painting a frame

`protocol/render_ansi.rs` : a frame is painted by writing its cells to the terminal, all of them
(`writeAllCells`) or those that look different from the previous frame (`writeChangedCells`). The
style and the hyperlink are written when they are not those of the cell written before.

`symbolWidth` is the number of columns of a symbol. The program stops on a cell that is not there.
-/

namespace Zynk

namespace Blit

open Loops Text

/-! ## Style -/

/-- `color_to_sgr_fg` and `color_to_sgr_bg` : the codes of the first eight colors begin at `base`,
those of the next eight at `bright`. -/
def colorToSgr (base bright extended reset : ℕ) (val : UInt32) : Text :=
  let kind := val.toNat / 2 ^ 24
  let low := val.toNat % 256
  if kind = 0 then
    if 0x01 ≤ low ∧ low ≤ 0x08 then decimal (base + (low - 0x01))
    else if 0x09 ≤ low ∧ low ≤ 0x10 then decimal (bright + (low - 0x09))
    else decimal reset
  else if kind = 1 then decimal extended ++ ";5;".toList ++ decimal low
  else if kind = 2 then
    decimal extended ++ ";2;".toList ++ decimal (val.toNat / 2 ^ 16 % 256) ++ ';' ::
      (decimal (val.toNat / 2 ^ 8 % 256) ++ ';' :: decimal low)
  else decimal reset

def colorToSgrFg (val : UInt32) : Text :=
  colorToSgr 30 90 38 39 val

def colorToSgrBg (val : UInt32) : Text :=
  colorToSgr 40 100 48 49 val

/-- `underline_style_from_modifier`. -/
def underlineStyleFromModifier (modifier : UInt16) : ℕ :=
  modifier.toNat / 2 ^ 12

/-- The part of an underline. -/
def underlinePart : ℕ → String
  | 2 => "4:2"
  | 3 => "4:3"
  | 4 => "4:4"
  | 5 => "4:5"
  | _ => "4"

/-- `modifier_to_sgr_parts` : the bits of a modifier, each with its part. -/
def modifierToSgrParts (val : UInt16) : List Text :=
  let parts := [(0, "1"), (1, "2"), (2, "3"), (3, underlinePart (underlineStyleFromModifier val)),
    (4, "5"), (5, "6"), (6, "7"), (7, "8"), (8, "9")]
  (parts.filter fun part => val.toNat.testBit part.1).map fun part => part.2.toList

/-- `build_sgr`, without the introducer and the final byte. -/
def sgrParams (fg bg : UInt32) (modifier : UInt16) : Text :=
  [';'].intercalate
    (['0'] :: modifierToSgrParts modifier ++ [colorToSgrFg fg, colorToSgrBg bg])

/-- `build_sgr`. -/
def buildSgr (fg bg : UInt32) (modifier : UInt16) : Text :=
  '\x1b' :: '[' :: (sgrParams fg bg modifier ++ ['m'])

/-! ## Hyperlinks -/

/-- `sanitized_hyperlink_uri`. -/
def sanitizedHyperlinkUri (uri : Text) : Option Text :=
  let sanitized := uri.filter fun ch => ch ≠ '\x1b' && ch ≠ '\x07' && !isControl ch
  if sanitized.isEmpty then none else some sanitized

/-- `cell_hyperlink_uri`. -/
def cellHyperlinkUri (frame : FrameData) (cell : CellData) : Option Text :=
  cell.hyperlink.bind fun index => frame.hyperlinks[index]?

/-- `sanitized_frame_hyperlinks`. -/
def sanitizedFrameHyperlinks (frame : FrameData) : List (Option Text) :=
  frame.hyperlinks.map sanitizedHyperlinkUri

/-- `sanitized_cell_hyperlink_uri`. -/
def sanitizedCellHyperlinkUri (sanitizedHyperlinks : List (Option Text)) (cell : CellData) :
    Option Text :=
  cell.hyperlink.bind fun index => (sanitizedHyperlinks[index]?).bind id

/-! ## Writing a cell -/

/-- What is written, and what the writing of a frame carries from cell to cell. -/
structure Painter where
  output : Bytes
  lastSgr : Text
  activeHyperlink : Option Text

def Painter.write (p : Painter) (text : Text) : Painter :=
  { p with output := p.output ++ encodeUtf8 text }

/-- `write_cursor_position`. -/
def writeCursorPosition (p : Painter) (position : Position) : Painter :=
  p.write ('\x1b' :: '[' ::
    (decimal (position.2 + 1) ++ ';' :: decimal (position.1 + 1) ++ ['H']))

/-- `ESC ] 8 ; ; ESC \`. -/
def closeSequence : Text :=
  "\x1b]8;;\x1b\\".toList

/-- `ESC ] 8 ; ; uri ESC \`. -/
def openSequence (uri : Text) : Text :=
  "\x1b]8;;".toList ++ uri ++ "\x1b\\".toList

/-- `write_hyperlink_if_changed`. -/
def writeHyperlinkIfChanged (p : Painter) (requested : Option Text) : Painter :=
  let requested := requested.bind sanitizedHyperlinkUri
  if p.activeHyperlink = requested then p
  else
    let p := if p.activeHyperlink.isSome then p.write closeSequence else p
    let p := { p with activeHyperlink := requested }
    match p.activeHyperlink with
    | some uri => p.write (openSequence uri)
    | none => p

/-- `close_hyperlink`. -/
def closeHyperlink (p : Painter) : Painter :=
  if p.activeHyperlink.isSome then { p with activeHyperlink := none }.write closeSequence else p

/-- The cursor of `write_cell`. -/
def writeCursorIfMoved (p : Painter) : Option Position → Painter
  | some position => writeCursorPosition p position
  | none => p

/-- The style of `write_cell`. -/
def writeSgrIfChanged (p : Painter) (sgr : Text) : Painter :=
  if sgr ≠ p.lastSgr then { p.write sgr with lastSgr := sgr } else p

/-- `write_cell`. -/
def writeCell (p : Painter) (cursorPosition : Option Position) (cell : CellData)
    (frame : FrameData) : Painter :=
  if cell.skip then p
  else
    let p := writeCursorIfMoved p cursorPosition
    let p := writeSgrIfChanged p (buildSgr cell.fg cell.bg cell.modifier)
    let p := writeHyperlinkIfChanged p (cellHyperlinkUri frame cell)
    p.write cell.symbol

/-- `is_halfwidth_katakana_voiced_grapheme`. -/
def isHalfwidthKatakanaVoicedGrapheme : Text → Bool
  | [base, mark] =>
    0xFF66 ≤ base.toNat && base.toNat ≤ 0xFF9D && (mark.toNat = 0xFF9E || mark.toNat = 0xFF9F)
  | _ => false

/-- `str::is_ascii`. -/
def isAscii (symbol : Text) : Bool :=
  symbol.all fun c => c.toNat < 128

section

variable (symbolWidth : Text → ℕ)

/-- `cell_width`. -/
def cellWidth (cell : CellData) : ℕ :=
  if isHalfwidthKatakanaVoicedGrapheme cell.symbol then 2 else symbolWidth cell.symbol

/-- The column behind a cell that is one ASCII column wide. -/
def inlineCol (cell : CellData) (col : ℕ) : Option ℕ :=
  if isAscii cell.symbol && cellWidth symbolWidth cell = 1 then some (min (col + 1) 65535) else none

/-! ## All cells -/

/-- What `write_all_cells` carries along a row. -/
structure AllRow where
  painter : Painter
  toSkip : ℕ
  nextInlineCol : Option ℕ

def writeAllColumn (frame : FrameData) (row : ℕ) (st : AllRow) (col : ℕ) : Option AllRow :=
  if st.toSkip > 0 then some { st with toSkip := st.toSkip - 1 }
  else
    match frame.cells[row * frame.width + col]? with
    | none => none
    | some cell =>
      if cell.skip then some { st with nextInlineCol := none }
      else
        let cursorPosition := if st.nextInlineCol ≠ some col then some (col, row) else none
        some
          { painter := writeCell st.painter cursorPosition cell frame
            toSkip := cellWidth symbolWidth cell - 1
            nextInlineCol := inlineCol symbolWidth cell col }

def writeAllRow (frame : FrameData) (p : Painter) (row : ℕ) : Option Painter :=
  (forRange frame.width (writeAllColumn symbolWidth frame row) ⟨p, 0, none⟩).map AllRow.painter

/-- `write_all_cells`. -/
def writeAllCells (frame : FrameData) : Option Bytes :=
  (forRange frame.height (writeAllRow symbolWidth frame) ⟨[], [], none⟩).map fun p =>
    ((closeHyperlink p).write "\x1b[0m".toList).output

/-! ## Changed cells -/

/-- `cells_visually_equal`. -/
def cellsVisuallyEqual (sanitizedHyperlinks : List (Option Text)) (cell : CellData)
    (prevSanitizedHyperlinks : List (Option Text)) (prevCell : CellData) : Bool :=
  cell.symbol = prevCell.symbol && cell.fg = prevCell.fg && cell.bg = prevCell.bg &&
    cell.modifier = prevCell.modifier &&
    sanitizedCellHyperlinkUri sanitizedHyperlinks cell =
      sanitizedCellHyperlinkUri prevSanitizedHyperlinks prevCell

/-- What `write_changed_cells` carries along a row. -/
structure ChangedRow where
  painter : Painter
  invalidated : ℕ
  toSkip : ℕ
  nextInlineCol : Option ℕ

def writeChangedColumn (frame prev : FrameData) (row : ℕ) (st : ChangedRow) (col : ℕ) :
    Option ChangedRow :=
  match frame.cells[row * frame.width + col]?, prev.cells[row * frame.width + col]? with
  | some cell, some prevCell =>
    let equal := cellsVisuallyEqual (sanitizedFrameHyperlinks frame) cell
      (sanitizedFrameHyperlinks prev) prevCell
    let written :=
      if !cell.skip && (!equal || st.invalidated > 0) && st.toSkip = 0 then
        let cursorPosition :=
          if st.nextInlineCol ≠ some col ∨ st.invalidated > 0 then some (col, row) else none
        (writeCell st.painter cursorPosition cell frame, inlineCol symbolWidth cell col)
      else (st.painter, st.nextInlineCol)
    let affectedWidth := max (cellWidth symbolWidth cell) (cellWidth symbolWidth prevCell)
    some
      { painter := written.1
        invalidated := max affectedWidth st.invalidated - 1
        toSkip := cellWidth symbolWidth cell - 1
        nextInlineCol := written.2 }
  | _, _ => none

def writeChangedRow (frame prev : FrameData) (p : Painter) (row : ℕ) : Option Painter :=
  (forRange frame.width (writeChangedColumn symbolWidth frame prev row) ⟨p, 0, 0, none⟩).map
    ChangedRow.painter

/-- `write_changed_cells`. -/
def writeChangedCells (frame prev : FrameData) : Option Bytes :=
  (forRange frame.height (writeChangedRow symbolWidth frame prev) ⟨[], [], none⟩).map fun p =>
    let p := closeHyperlink p
    if p.lastSgr.isEmpty then p.output else (p.write "\x1b[0m".toList).output

end

end Blit

end Zynk
