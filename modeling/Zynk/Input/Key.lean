import Zynk.Lib.Text

/-!
# Keys and their escape sequences

`input/model.rs` and `input/parse.rs` : the key a terminal reports, and the three
grammars it may report it in (the kitty protocol, `modifyOtherKeys`, and the legacy
sequences), tried in that order.
-/

namespace Zynk

open Text

/-! ## Keys -/

/-- `crossterm`'s media keys. -/
inductive MediaKeyCode where
  | play | pause | playPause | reverse | stop | fastForward | rewind | trackNext
  | trackPrevious | record | lowerVolume | raiseVolume | muteVolume
  deriving DecidableEq, Repr

/-- `crossterm`'s modifier keys. -/
inductive ModifierKeyCode where
  | leftShift | leftControl | leftAlt | leftSuper | leftHyper | leftMeta
  | rightShift | rightControl | rightAlt | rightSuper | rightHyper | rightMeta
  | isoLevel3Shift | isoLevel5Shift
  deriving DecidableEq, Repr

/-- `crossterm`'s key codes. -/
inductive KeyCode where
  | backspace | enter | left | right | up | down | home | «end» | pageUp | pageDown
  | tab | backTab | delete | insert
  | f (n : ℕ)
  | char (c : Char)
  | esc | capsLock | scrollLock | numLock | printScreen | pause | menu | keypadBegin
  | media (code : MediaKeyCode)
  | modifier (code : ModifierKeyCode)
  deriving DecidableEq, Repr

/-- The modifier flags. -/
structure KeyModifiers where
  shift : Bool := false
  control : Bool := false
  alt : Bool := false
  super : Bool := false
  hyper : Bool := false
  metaKey : Bool := false
  deriving DecidableEq, Repr

inductive KeyEventKind where
  | press
  | «repeat»
  | release
  deriving DecidableEq, Repr

/-- Where a key comes from. The console records of another platform are not built here. -/
inductive KeySource where
  | synthesized
  | vt (bytes : Bytes)
  deriving DecidableEq, Repr

structure TerminalKey where
  code : KeyCode
  modifiers : KeyModifiers
  kind : KeyEventKind
  repeatCount : ℕ
  shiftedCodepoint : Option ℕ
  generatedText : Option Text
  source : KeySource
  deriving DecidableEq, Repr

namespace TerminalKey

def new (code : KeyCode) (modifiers : KeyModifiers) : TerminalKey :=
  { code, modifiers, kind := .press, repeatCount := 1, shiftedCodepoint := none,
    generatedText := none, source := .synthesized }

def withKind (key : TerminalKey) (kind : KeyEventKind) : TerminalKey :=
  if kind = .release then { key with kind, repeatCount := 1, generatedText := none }
  else { key with kind }

def withShiftedCodepoint (key : TerminalKey) (codepoint : ℕ) : TerminalKey :=
  { key with shiftedCodepoint := some codepoint }

def withGeneratedText (key : TerminalKey) (text : Option Text) : TerminalKey :=
  { key with generatedText := if key.kind = .release then none else text }

def withVtBytes (key : TerminalKey) (bytes : Bytes) : TerminalKey :=
  { key with source := .vt bytes }

/-- The text a plain character key commits. `char::is_uppercase` is asked only of a key
whose one modifier is Shift, which the legacy grammar sets on ASCII capitals alone. -/
def withTextCommit (key : TerminalKey) : TerminalKey :=
  match key.code with
  | .char ch =>
    let textOnly := key.modifiers == {} || (ch.isUpper && key.modifiers == { shift := true })
    if textOnly && key.kind == .press then { key with generatedText := some [ch] } else key
  | _ => key

end TerminalKey

/-! ## Fields of a sequence -/

/-- Bit `i` of a modifier value. -/
def keyModifiersFromU8 (modifier : ℕ) : KeyModifiers :=
  { shift := modifier.testBit 0, alt := modifier.testBit 1, control := modifier.testBit 2,
    super := modifier.testBit 3, hyper := modifier.testBit 4, metaKey := modifier.testBit 5 }

def isKittyFunctionalCodepoint (codepoint : ℕ) : Bool :=
  57358 ≤ codepoint && codepoint ≤ 57454

/-- The functional keys of the kitty protocol that stand for one key each. -/
def kittyFunctionalKeys : List (ℕ × KeyCode) :=
  [(57358, .capsLock), (57359, .scrollLock), (57360, .numLock), (57361, .printScreen),
    (57362, .pause), (57363, .menu), (57399, .char '0'), (57400, .char '1'), (57401, .char '2'),
    (57402, .char '3'), (57403, .char '4'), (57404, .char '5'), (57405, .char '6'),
    (57406, .char '7'), (57407, .char '8'), (57408, .char '9'), (57409, .char '.'),
    (57410, .char '/'), (57411, .char '*'), (57412, .char '-'), (57413, .char '+'),
    (57415, .char '='), (57416, .char ','), (57417, .left), (57418, .right), (57419, .up),
    (57420, .down), (57421, .pageUp), (57422, .pageDown), (57423, .home), (57424, .«end»),
    (57425, .insert), (57426, .delete), (57427, .keypadBegin), (57428, .media .play),
    (57429, .media .pause), (57430, .media .playPause), (57431, .media .reverse),
    (57432, .media .stop), (57433, .media .fastForward), (57434, .media .rewind),
    (57435, .media .trackNext), (57436, .media .trackPrevious), (57437, .media .record),
    (57438, .media .lowerVolume), (57439, .media .raiseVolume), (57440, .media .muteVolume),
    (57441, .modifier .leftShift), (57442, .modifier .leftControl), (57443, .modifier .leftAlt),
    (57444, .modifier .leftSuper), (57445, .modifier .leftHyper), (57446, .modifier .leftMeta),
    (57447, .modifier .rightShift), (57448, .modifier .rightControl),
    (57449, .modifier .rightAlt), (57450, .modifier .rightSuper), (57451, .modifier .rightHyper),
    (57452, .modifier .rightMeta), (57453, .modifier .isoLevel3Shift),
    (57454, .modifier .isoLevel5Shift)]

def kittyCodepointToKeycode (codepoint : ℕ) : Option KeyCode :=
  if codepoint = 8 ∨ codepoint = 127 then some .backspace
  else if codepoint = 9 then some .tab
  else if codepoint = 13 ∨ codepoint = 57414 then some .enter
  else if codepoint = 27 then some .esc
  else if 57376 ≤ codepoint ∧ codepoint ≤ 57398 then some (.f (codepoint - 57376 + 13))
  else
    match kittyFunctionalKeys.lookup codepoint with
    | some code => some code
    | none =>
      if isKittyFunctionalCodepoint codepoint then none
      else (charFromU32 codepoint).map .char

def parseKittyEventType (value : Option Text) : Option KeyEventKind :=
  let value := value.getD "1".toList
  if value = "1".toList then some .press
  else if value = "2".toList then some .«repeat»
  else if value = "3".toList then some .release
  else none

def splitModifierAndEvent (input : Text) : Text × Option Text :=
  match splitOnce ':' input with
  | some (modifier, event) => if modifier.isEmpty then (input, none) else (modifier, some event)
  | none => (input, none)

/-- A modifier field : one more than the bits. -/
def parseModifier (field : Text) : Option ℕ :=
  (parseU8 field).bind fun n => if n = 0 then none else some (n - 1)

/-! ## The kitty protocol -/

/-- Digits only : no sign. -/
def parseKittyCodepoint (value : Text) : Option ℕ := do
  if !value.all Char.isDigit then none
  let codepoint ← parseU32 value
  let _ ← charFromU32 codepoint
  pure codepoint

def parseKittyAssociatedText (value : Text) : Option Text := do
  let text ← (splitOn ':' value).mapM fun codepoint => do
    let ch ← charFromU32 (← parseU32 codepoint)
    if isControl ch then none else pure ch
  if text.isEmpty then none else pure text

def parseKittyKeySequence (data : Text) : Option TerminalKey := do
  let body ← stripSuffix "u" (← stripPrefix "\x1b[" data)
  let fields := splitOn ';' body
  let keyPart ← fields[0]?
  let modifierAndEvent := (fields[1]?.filter fun f => !f.isEmpty).getD "1".toList
  let associatedText ← match fields[2]? with
    | some value => (parseKittyAssociatedText value).map some
    | none => some none
  if 3 < fields.length then none
  let (modifierText, eventType) := splitModifierAndEvent modifierAndEvent
  let modifier ← parseModifier modifierText
  let keyFields := splitOn ':' keyPart
  let codepoint ← parseKittyCodepoint (← keyFields[0]?)
  let shiftedCodepoint ← match keyFields[1]?.filter fun f => !f.isEmpty with
    | some field => (parseKittyCodepoint field).map some
    | none => some none
  -- The base-layout key is validated and not used.
  let _ ← match keyFields[2]?.filter fun f => !f.isEmpty with
    | some field => (parseKittyCodepoint field).map some
    | none => some none
  if 3 < keyFields.length then none
  let code ← kittyCodepointToKeycode codepoint
  let kind ← parseKittyEventType eventType
  let modifiers := keyModifiersFromU8 modifier
  let isChar := match code with
    | .char _ => true
    | _ => false
  let shifted := shiftedCodepoint.any fun s => s != codepoint && (charFromU32 s).isSome
  let modifiers := if isChar && shifted then { modifiers with shift := true } else modifiers
  let key := (TerminalKey.new code modifiers).withKind kind
  let key := match shiftedCodepoint with
    | some s => key.withShiftedCodepoint s
    | none => key
  pure (key.withGeneratedText associatedText)

/-! ## `modifyOtherKeys` -/

def parseModifyOtherKeysSequence (data : Text) : Option TerminalKey := do
  let body ← stripSuffix "~" (← stripPrefix "\x1b[27;" data)
  let (modifierPart, codepointPart) ← splitOnce ';' body
  let modifier ← parseModifier modifierPart
  let codepoint ← parseU32 codepointPart
  pure (.new (← kittyCodepointToKeycode codepoint) (keyModifiersFromU8 modifier))

/-! ## Legacy sequences -/

/-- The sequences that stand for one key. -/
def legacySpecialSequences : List (String × KeyCode × KeyModifiers) :=
  [("\x1b\x1b[A", .up, { alt := true }), ("\x1b\x1b[B", .down, { alt := true }),
    ("\x1b\x1b[C", .right, { alt := true }), ("\x1b\x1b[D", .left, { alt := true }),
    ("\x1b[A", .up, {}), ("\x1bOA", .up, {}), ("\x1b[B", .down, {}), ("\x1bOB", .down, {}),
    ("\x1b[C", .right, {}), ("\x1bOC", .right, {}), ("\x1b[D", .left, {}), ("\x1bOD", .left, {}),
    ("\x1b[H", .home, {}), ("\x1bOH", .home, {}), ("\x1b[1~", .home, {}), ("\x1b[7~", .home, {}),
    ("\x1b[F", .«end», {}), ("\x1bOF", .«end», {}), ("\x1b[4~", .«end», {}),
    ("\x1b[8~", .«end», {}), ("\x1b[5~", .pageUp, {}), ("\x1b[6~", .pageDown, {}),
    ("\x1b[2~", .insert, {}), ("\x1b[3~", .delete, {}), ("\x1bOp", .char '0', {}),
    ("\x1bOq", .char '1', {}), ("\x1bOr", .char '2', {}), ("\x1bOs", .char '3', {}),
    ("\x1bOt", .char '4', {}), ("\x1bOu", .char '5', {}), ("\x1bOv", .char '6', {}),
    ("\x1bOw", .char '7', {}), ("\x1bOx", .char '8', {}), ("\x1bOy", .char '9', {}),
    ("\x1bOn", .char '.', {}), ("\x1bOl", .char ',', {}), ("\x1bOm", .char '-', {}),
    ("\x1bOk", .char '+', {}), ("\x1bOj", .char '*', {}), ("\x1bOo", .char '/', {}),
    ("\x1bOM", .enter, {}), ("\x1bOP", .f 1, {}), ("\x1b[11~", .f 1, {}), ("\x1bOQ", .f 2, {}),
    ("\x1b[12~", .f 2, {}), ("\x1bOR", .f 3, {}), ("\x1b[13~", .f 3, {}), ("\x1bOS", .f 4, {}),
    ("\x1b[14~", .f 4, {}), ("\x1b[15~", .f 5, {}), ("\x1b[17~", .f 6, {}), ("\x1b[18~", .f 7, {}),
    ("\x1b[19~", .f 8, {}), ("\x1b[20~", .f 9, {}), ("\x1b[21~", .f 10, {}),
    ("\x1b[23~", .f 11, {}), ("\x1b[24~", .f 12, {}), ("\x1b[Z", .backTab, { shift := true })]

/-- The key letter of `CSI 1 ; modifier X`. -/
def xtermLetterKey : Char → Option KeyCode
  | 'A' => some .up
  | 'B' => some .down
  | 'C' => some .right
  | 'D' => some .left
  | 'H' => some .home
  | 'F' => some .«end»
  | 'P' => some (.f 1)
  | 'Q' => some (.f 2)
  | 'R' => some (.f 3)
  | 'S' => some (.f 4)
  | _ => none

/-- The key number of `CSI n ; modifier ~`. -/
def xtermTildeKeys : List (Text × KeyCode) :=
  [("2".toList, .insert), ("3".toList, .delete), ("5".toList, .pageUp), ("6".toList, .pageDown),
    ("15".toList, .f 5), ("17".toList, .f 6), ("18".toList, .f 7), ("19".toList, .f 8),
    ("20".toList, .f 9), ("21".toList, .f 10), ("23".toList, .f 11), ("24".toList, .f 12)]

/-- `CSI 1 ; modifier letter` : a body that ends in a letter is read as this form only. -/
def parseXtermLetterSequence (body : Text) : Option TerminalKey := do
  let suffixChar ← body.getLast?
  let (modifierText, eventType) := splitModifierAndEvent body.dropLast
  let modifier ← parseModifier modifierText
  let code ← xtermLetterKey suffixChar
  pure ((TerminalKey.new code (keyModifiersFromU8 modifier)).withKind
    (← parseKittyEventType eventType))

/-- `CSI number ; modifier ~`. -/
def parseXtermTildeSequence (body : Text) : Option TerminalKey := do
  let tildeBody ← stripSuffix "~" body
  let (codePart, modifierPart) ← splitOnce ';' tildeBody
  let (modifierText, eventType) := splitModifierAndEvent modifierPart
  let modifier ← parseModifier modifierText
  let code ← xtermTildeKeys.lookup codePart
  pure ((TerminalKey.new code (keyModifiersFromU8 modifier)).withKind
    (← parseKittyEventType eventType))

def parseXtermModifiedSpecialSequence (data : Text) : Option TerminalKey := do
  let body ← stripPrefix "\x1b[" data
  match stripPrefix "1;" body with
  | some rest =>
    let suffixChar ← rest.getLast?
    if suffixChar.isAlpha then parseXtermLetterSequence rest else parseXtermTildeSequence body
  | none => parseXtermTildeSequence body

def parseLegacySpecialSequence (data : Text) : Option TerminalKey :=
  match legacySpecialSequences.lookup (String.ofList data) with
  | some (code, modifiers) => some (.new code modifiers)
  | none => parseXtermModifiedSpecialSequence data

def parseLegacyCtrlChar (ch : Char) : Option TerminalKey :=
  let control (c : Char) := some (TerminalKey.new (.char c) { control := true })
  let n := ch.toNat
  if n = 0 then control ' '
  else if 1 ≤ n ∧ n ≤ 26 then control (Char.ofNat (n + 96))
  else if n = 27 then control '['
  else if n = 28 then control '\\'
  else if n = 29 then control ']'
  else if n = 30 then control '^'
  else if n = 31 then control '_'
  else none

/-- A sequence of one character. -/
def parseLegacyChar (ch : Char) : Option TerminalKey :=
  if ch = '\r' then some (.new .enter {})
  else if ch = '\t' then some (.new .tab {})
  else if ch = '\x1b' then some (.new .esc {})
  else if ch = '\x7f' then some (.new .backspace {})
  else
    match parseLegacyCtrlChar ch with
    | some key => some key
    | none => some (.new (.char ch) { shift := ch.isUpper })

def parseLegacyKeySequence (data : Text) : Option TerminalKey :=
  match parseLegacySpecialSequence data with
  | some key => some key
  | none =>
    match data with
    | [ch] => parseLegacyChar ch
    -- An escaped character is that character with Alt; an escaped escape too, since the
    -- recursive call reads the lone escape as the Esc key.
    | ['\x1b', ch] =>
      if ch = '\x7f' then some (.new .backspace { alt := true })
      else (parseLegacyChar ch).map fun key =>
        { key with modifiers := { key.modifiers with alt := true } }
    | _ => none

def parseTerminalKeySequence (data : Text) : Option TerminalKey :=
  ((parseKittyKeySequence data).or (parseModifyOtherKeysSequence data)).or
    (parseLegacyKeySequence data)

end Zynk
