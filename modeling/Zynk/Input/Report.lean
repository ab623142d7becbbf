import Zynk.Input.Key

/-!
# Reports of the host terminal

What the outer terminal sends that is not a key : mouse events (`raw_input.rs`), and the
replies to colour, colour-scheme and cell-size queries (`terminal_theme.rs`,
`raw_input.rs`).

A `str` slice at an offset inside a character panics. The one slice of these parsers that
can is in the `#` form of a colour, so they return `Except Panic`.
-/

namespace Zynk

open Text

/-- The thread panicked. -/
inductive Panic where
  | charBoundary
  deriving DecidableEq, Repr

/-! ## Mouse events -/

inductive MouseButton where
  | left
  | middle
  | right
  deriving DecidableEq, Repr

inductive MouseEventKind where
  | down (button : MouseButton)
  | up (button : MouseButton)
  | drag (button : MouseButton)
  | moved
  | scrollUp
  | scrollDown
  | scrollLeft
  | scrollRight
  deriving DecidableEq, Repr

structure MouseEvent where
  kind : MouseEventKind
  column : ℕ
  row : ℕ
  modifiers : KeyModifiers
  deriving DecidableEq, Repr

/-- The button and modifier byte of a mouse report. -/
def parseMouseCb (cb : ℕ) : Option (MouseEventKind × KeyModifiers) := do
  let buttonNumber := (cb &&& 3) ||| ((cb &&& 0xC0) >>> 4)
  let kind ← match buttonNumber, cb.testBit 5 with
    | 0, false => some (MouseEventKind.down .left)
    | 1, false => some (.down .middle)
    | 2, false => some (.down .right)
    | 0, true => some (.drag .left)
    | 1, true => some (.drag .middle)
    | 2, true => some (.drag .right)
    | 3, false => some (.up .left)
    | 3, true | 4, true | 5, true | 8, true | 9, true => some .moved
    | 4, false => some .scrollUp
    | 5, false => some .scrollDown
    | 6, false => some .scrollLeft
    | 7, false => some .scrollRight
    | _, _ => none
  pure (kind, { shift := cb.testBit 2, alt := cb.testBit 3, control := cb.testBit 4 })

/-- `checked_sub`. -/
def checkedSub (a b : ℕ) : Option ℕ :=
  if b ≤ a then some (a - b) else none

/-- `ESC [ M` and three bytes offset by 32. -/
def parseDefaultMouse (sequence : Bytes) : Option MouseEvent :=
  match sequence with
  | [0x1b, 0x5b, 0x4d, encodedCb, encodedColumn, encodedRow] => do
    let cb ← checkedSub encodedCb.toNat 32
    let column ← checkedSub encodedColumn.toNat 33
    let row ← checkedSub encodedRow.toNat 33
    let (kind, modifiers) ← parseMouseCb cb
    pure { kind, column, row, modifiers }
  | _ => none

/-- `ESC [ < cb ; column ; row` and `M` or `m`. The fields are parsed as integers, which
admits a leading `+`. -/
def parseSgrMouse (sequence : Text) : Option MouseEvent := do
  let body ← stripPrefix "\x1b[<" sequence
  let finalChar ← body.getLast?
  if finalChar != 'M' && finalChar != 'm' then none
  match splitOn ';' body.dropLast with
  | [cbField, columnField, rowField] =>
    let cb ← parseU8 cbField
    let column ← (parseU16 columnField).bind (checkedSub · 1)
    let row ← (parseU16 rowField).bind (checkedSub · 1)
    let (kind, modifiers) ← parseMouseCb cb
    let kind := match finalChar, kind with
      | 'm', .down button => .up button
      | _, kind => kind
    pure { kind, column, row, modifiers }
  | _ => none

/-! ## Colours -/

structure RgbColor where
  r : ℕ
  g : ℕ
  b : ℕ
  deriving DecidableEq, Repr

inductive DefaultColorKind where
  | foreground
  | background
  deriving DecidableEq, Repr

inductive HostAppearance where
  | dark
  | light
  deriving DecidableEq, Repr

def isHexDigit (ch : Char) : Bool :=
  ch.isDigit || ('a' ≤ ch && ch ≤ 'f') || ('A' ≤ ch && ch ≤ 'F')

def hexValue (ch : Char) : ℕ :=
  if ch.isDigit then ch.toNat - '0'.toNat
  else if 'a' ≤ ch then ch.toNat - 'a'.toNat + 10
  else ch.toNat - 'A'.toNat + 10

/-- One to four hex digits, scaled to eight bits. -/
def parseHexComponent (component : Text) : Option ℕ :=
  if component.isEmpty || 4 < byteLen component || !component.all isHexDigit then none
  else
    let value := component.foldl (fun n ch => n * 16 + hexValue ch) 0
    let maximum := (1 <<< (component.length * 4)) - 1
    some ((value * 255 + maximum / 2) / maximum)

/-- `#` and three components of equal length, sliced by bytes. -/
def parseHashColor (hex : Text) : Except Panic (Option RgbColor) :=
  let digits := byteLen hex / 3
  if digits < 1 || 4 < digits || byteLen hex != digits * 3 then .ok none
  else
    match splitAtByte digits hex with
    | none => .error .charBoundary
    | some (rPart, rest) =>
      match parseHexComponent rPart, splitAtByte digits rest with
      | none, _ => .ok none
      | some _, none => .error .charBoundary
      | some r, some (gPart, bPart) =>
        .ok do
          let g ← parseHexComponent gPart
          let b ← parseHexComponent bPart
          pure ⟨r, g, b⟩

def parseRgbColor (value : Text) : Except Panic (Option RgbColor) :=
  match stripPrefix "rgb:" value with
  | some rgb =>
    match splitOn '/' rgb with
    | [r, g, b] =>
      .ok do
        let r ← parseHexComponent r
        let g ← parseHexComponent g
        let b ← parseHexComponent b
        pure ⟨r, g, b⟩
    | _ => .ok none
  | none =>
    match stripPrefix "#" value with
    | some hex => parseHashColor hex
    | none => .ok none

/-- The body of an OSC reply that starts with `lead`, without its terminator. -/
def oscReplyBody (lead : String) (sequence : Text) : Option Text := do
  let body ← stripPrefix lead sequence
  (stripSuffix "\x1b\\" body).or (stripSuffix "\x07" body)

def parseDefaultColorResponse (sequence : Text) :
    Except Panic (Option (DefaultColorKind × RgbColor)) :=
  match (oscReplyBody "\x1b]" sequence).bind (splitOnce ';') with
  | some (command, value) =>
    if command = "10".toList then do
      return (← parseRgbColor value).map (.foreground, ·)
    else if command = "11".toList then do
      return (← parseRgbColor value).map (.background, ·)
    else .ok none
  | none => .ok none

def parsePaletteColorResponse (sequence : Text) : Except Panic (Option (ℕ × RgbColor)) :=
  match (oscReplyBody "\x1b]4;" sequence).bind (splitOnce ';') with
  | some (index, value) =>
    match parseU8 index with
    | some index => do return (← parseRgbColor value).map (index, ·)
    | none => .ok none
  | none => .ok none

/-! ## Colour scheme and cell size -/

/-- `GHOSTTY_COLOR_SCHEME_DARK_REPORT`. -/
def ghosttyColorSchemeDarkReport : Bytes := ascii "\x1b[?997;1n"

/-- `GHOSTTY_COLOR_SCHEME_LIGHT_REPORT`. -/
def ghosttyColorSchemeLightReport : Bytes := ascii "\x1b[?997;2n"

def parseHostColorSchemeReport (buffer : Bytes) : Option HostAppearance :=
  if buffer = ghosttyColorSchemeDarkReport then some .dark
  else if buffer = ghosttyColorSchemeLightReport then some .light
  else none

/-- `CSI 6 ; height ; width t` as `(width, height)`. -/
def parseHostCellSizeReport (buffer : Bytes) : Option (ℕ × ℕ) := do
  let lead := ascii "\x1b["
  if !lead.isPrefixOf buffer then none
  let rest := buffer.drop 2
  if rest.getLast? != some 0x74 then none
  let text ← decodeUtf8 rest.dropLast
  match splitOn ';' text with
  | [six, height, width] =>
    if six != "6".toList then none
    let heightPx ← parseU32 height
    let widthPx ← parseU32 width
    if widthPx = 0 ∨ heightPx = 0 then none else pure (widthPx, heightPx)
  | _ => none

end Zynk
