import Zynk.Input.Key

/-!
# Keys for the program in the pane

`input/encode.rs` : what a key is sent as, by the keyboard protocol the program has negotiated.
-/

namespace Zynk

open Text

inductive KeyboardProtocol where
  | legacy
  | kitty (flags : ℕ)
  deriving DecidableEq, Repr

/-! ## The flags of the kitty protocol -/

def reportEventTypes (flags : ℕ) : Bool :=
  flags.testBit 1

def reportAlternateKeys (flags : ℕ) : Bool :=
  flags.testBit 2

def reportAllKeys (flags : ℕ) : Bool :=
  flags.testBit 3

def reportAssociatedText (flags : ℕ) : Bool :=
  flags.testBit 4

def KeyboardProtocol.reportsEventTypes : KeyboardProtocol → Bool
  | .kitty flags => reportEventTypes flags
  | .legacy => false

def KeyboardProtocol.reportsAllKeys : KeyboardProtocol → Bool
  | .kitty flags => reportAllKeys flags
  | .legacy => false

/-! ## Modifiers -/

def xtermModifier (mods : KeyModifiers) : ℕ :=
  1 + mods.shift.toNat + 2 * mods.alt.toNat + 4 * mods.control.toNat

def kittyModifier (mods : KeyModifiers) : ℕ :=
  xtermModifier mods + 8 * mods.super.toNat + 16 * mods.hyper.toNat + 32 * mods.metaKey.toNat

/-! ## Text -/

def isShiftedAsciiPunctuation (ch : Char) : Bool :=
  "!@#$%^&*()_+\x7b\x7d|:\"<>?~".toList.contains ch

def shiftedTextChar (key : TerminalKey) (ch : Char) : Option Char :=
  match key.shiftedCodepoint.bind charFromU32 with
  | some shifted => some shifted
  | none =>
    if ch.isUpper then some ch
    else if ch.isLower then some ch.toUpper
    else if isShiftedAsciiPunctuation ch then some ch
    else none

def textCharForKey (key : TerminalKey) : Option Char :=
  if key.kind = .release then none
  else
    match key.code with
    | .char ch =>
      if key.modifiers = {} then some ch
      else if key.modifiers = { shift := true } then shiftedTextChar key ch
      else none
    | _ => none

def encodeTextInput (key : TerminalKey) : Option Bytes :=
  (textCharForKey key).map fun ch => encodeUtf8 [ch]

def textCodepointForKey (key : TerminalKey) : Option ℕ :=
  (textCharForKey key).bind fun ch => if isControl ch then none else some ch.toNat

/-! ## `CSI u` -/

def canonicalKittyChar (ch : Char) (mods : KeyModifiers) : Char :=
  if mods.shift && ch.isUpper then ch.toLower else ch

def alternateShiftedCodepoint (key : TerminalKey) (flags : ℕ) : Option ℕ :=
  if !reportAlternateKeys flags then none
  else
    match key.shiftedCodepoint, key.code with
    | some shifted, _ => some shifted
    | none, .char ch => if key.modifiers.shift && ch.isUpper then some ch.toNat else none
    | none, _ => none

def kittyEventSuffix (key : TerminalKey) (flags : ℕ) : Option ℕ :=
  if !reportEventTypes flags then none
  else
    match key.kind with
    | .press => some 1
    | .«repeat» => some 2
    | .release => some 3

/-- The keys that have a legacy sequence of their own. -/
def KeyCode.isSpecial : KeyCode → Bool
  | .up | .down | .left | .right | .home | .«end» | .pageUp | .pageDown | .insert | .delete => true
  | .f _ => true
  | _ => false

/-- The code point a key is reported as, and the shifted one. -/
def csiUCodepoints (key : TerminalKey) (flags : ℕ) : Option (ℕ × Option ℕ) :=
  match key.code with
  | .char c =>
    some ((canonicalKittyChar c key.modifiers).toNat, alternateShiftedCodepoint key flags)
  | .enter => some (13, none)
  | .tab => some (9, none)
  | .backspace => some (127, none)
  | .esc => some (27, none)
  | .left => some (57417, none)
  | .right => some (57418, none)
  | .up => some (57419, none)
  | .down => some (57420, none)
  | .pageUp => some (57421, none)
  | .pageDown => some (57422, none)
  | .home => some (57423, none)
  | .«end» => some (57424, none)
  | .insert => some (57425, none)
  | .delete => some (57426, none)
  | _ => none

/-- A field that may be missing, after its separator. -/
def optionalField (sep : Char) (value : Option ℕ) : Text :=
  match value with
  | some n => sep :: decimal n
  | none => []

/-- The text of a `CSI u` sequence. -/
def csiU (codepoint : ℕ) (shifted : Option ℕ) (modifier : ℕ) (event text : Option ℕ) : Text :=
  "\x1b[".toList ++ decimal codepoint ++ optionalField ':' shifted ++ ';' :: decimal modifier ++
    optionalField ':' event ++ optionalField ';' text ++ "u".toList

def tryEncodeCsiU (key : TerminalKey) (flags : ℕ) : Option Bytes :=
  let mods := key.modifiers
  let eventSuffix := kittyEventSuffix key flags
  let allKeys := reportAllKeys flags
  if !allKeys && mods = {} && (key.code = .enter || key.code = .tab || key.code = .backspace) then
    none
  else if mods = {} && eventSuffix.isNone && !allKeys then none
  else if key.code.isSpecial && eventSuffix.isNone && !allKeys then none
  else
    (csiUCodepoints key flags).map fun (codepoint, shifted) =>
      let text := if reportAssociatedText flags then textCodepointForKey key else none
      encodeUtf8 (csiU codepoint shifted (kittyModifier mods) eventSuffix text)

/-! ## Legacy sequences -/

/-- `CSI 1 ; modifier letter`. -/
def csiLetter (modifier : ℕ) (letter : Char) : Bytes :=
  encodeUtf8 ("\x1b[1;".toList ++ decimal modifier ++ [letter])

/-- `CSI number ; modifier ~`. -/
def csiTilde (number modifier : ℕ) : Bytes :=
  encodeUtf8 ("\x1b[".toList ++ decimal number ++ ';' :: decimal modifier ++ "~".toList)

def encodeModifiedSpecial (code : KeyCode) (mods : KeyModifiers) : Option Bytes :=
  let modifier := xtermModifier mods
  if modifier ≤ 1 then none
  else
    match code with
    | .up => some (csiLetter modifier 'A')
    | .down => some (csiLetter modifier 'B')
    | .right => some (csiLetter modifier 'C')
    | .left => some (csiLetter modifier 'D')
    | .home => some (csiLetter modifier 'H')
    | .«end» => some (csiLetter modifier 'F')
    | .insert => some (csiTilde 2 modifier)
    | .delete => some (csiTilde 3 modifier)
    | .pageUp => some (csiTilde 5 modifier)
    | .pageDown => some (csiTilde 6 modifier)
    | .f 1 => some (csiLetter modifier 'P')
    | .f 2 => some (csiLetter modifier 'Q')
    | .f 3 => some (csiLetter modifier 'R')
    | .f 4 => some (csiLetter modifier 'S')
    | .f 5 => some (csiTilde 15 modifier)
    | .f 6 => some (csiTilde 17 modifier)
    | .f 7 => some (csiTilde 18 modifier)
    | .f 8 => some (csiTilde 19 modifier)
    | .f 9 => some (csiTilde 20 modifier)
    | .f 10 => some (csiTilde 21 modifier)
    | .f 11 => some (csiTilde 23 modifier)
    | .f 12 => some (csiTilde 24 modifier)
    | _ => none

def encodeFKey : ℕ → Bytes
  | 1 => [27, 79, 80]
  | 2 => [27, 79, 81]
  | 3 => [27, 79, 82]
  | 4 => [27, 79, 83]
  | 5 => [27, 91, 49, 53, 126]
  | 6 => [27, 91, 49, 55, 126]
  | 7 => [27, 91, 49, 56, 126]
  | 8 => [27, 91, 49, 57, 126]
  | 9 => [27, 91, 50, 48, 126]
  | 10 => [27, 91, 50, 49, 126]
  | 11 => [27, 91, 50, 51, 126]
  | 12 => [27, 91, 50, 52, 126]
  | _ => []

/-- The control byte of a character; any other is cut to its low byte. -/
def encodeControlChar (ch : Char) : Bytes :=
  let upper := ch.toUpper
  if upper.isUpper then [UInt8.ofNat (upper.toNat - 64)]
  else if " @2".toList.contains upper then [0]
  else if "[3".toList.contains upper then [27]
  else if "\\4".toList.contains upper then [28]
  else if "]5".toList.contains upper then [29]
  else if "^6".toList.contains upper then [30]
  else if "_/7-".toList.contains upper then [31]
  else [UInt8.ofNat ch.toNat]

def encodeLegacyInner (key : TerminalKey) : Bytes :=
  match key.code with
  | .char ch =>
    if key.modifiers.control then encodeControlChar ch
    else if key.modifiers = { shift := true } then encodeUtf8 [(shiftedTextChar key ch).getD ch]
    else encodeUtf8 [ch]
  | .enter => [13]
  | .backspace => [127]
  | .tab => [9]
  | .backTab => [27, 91, 90]
  | .esc => [27]
  | .left => [27, 91, 68]
  | .right => [27, 91, 67]
  | .up => [27, 91, 65]
  | .down => [27, 91, 66]
  | .home => [27, 91, 72]
  | .«end» => [27, 91, 70]
  | .pageUp => [27, 91, 53, 126]
  | .pageDown => [27, 91, 54, 126]
  | .delete => [27, 91, 51, 126]
  | .insert => [27, 91, 50, 126]
  | .f n => encodeFKey n
  | _ => []

def encodeLegacy (key : TerminalKey) : Bytes :=
  let mods := key.modifiers
  match if mods = {} then none else encodeModifiedSpecial key.code mods with
  | some bytes => bytes
  | none =>
    if mods.alt then 27 :: encodeLegacyInner { key with modifiers := { mods with alt := false } }
    else encodeLegacyInner key

/-! ## A key -/

/-- What the kitty protocol sends for the key, if the protocol is negotiated. -/
def KeyboardProtocol.encodeCsiU (protocol : KeyboardProtocol) (key : TerminalKey) : Option Bytes :=
  match protocol with
  | .kitty flags => tryEncodeCsiU key flags
  | .legacy => none

def encodeTerminalKey (key : TerminalKey) (protocol : KeyboardProtocol) : Bytes :=
  match if key.kind = .release then none else key.generatedText with
  | some text => encodeUtf8 text
  | none =>
    if key.kind = .release && !protocol.reportsEventTypes then []
    else
      let kittyFirst := protocol.reportsAllKeys ||
        (key.kind = .release && protocol.reportsEventTypes)
      match if kittyFirst then protocol.encodeCsiU key else none with
      | some bytes => bytes
      | none =>
        match encodeTextInput key with
        | some bytes => bytes
        | none =>
          match if kittyFirst then none else protocol.encodeCsiU key with
          | some bytes => bytes
          | none =>
            if key.kind = .release && protocol.reportsEventTypes then [] else encodeLegacy key

end Zynk
