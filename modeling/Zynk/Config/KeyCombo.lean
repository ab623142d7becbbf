import Zynk.Agent.Label
import Zynk.Input.Key

/-!
# Key combos

Of `config/keybinds.rs` what a combo is : how it is read from the text of a binding, how it is
written as a label, and which keys it matches. Two combos are the same when they are the same
after `normalizeKeyCombo`. A key matches more than the combo it is : a shifted codepoint stands
for the character it is, a capital for its letter with Shift, and for an indexed binding the symbol
on a number key for that key with Shift.
-/

namespace Zynk

namespace KeyModifiers

def union (m m' : KeyModifiers) : KeyModifiers where
  shift := m.shift || m'.shift
  control := m.control || m'.control
  alt := m.alt || m'.alt
  super := m.super || m'.super
  hyper := m.hyper || m'.hyper
  metaKey := m.metaKey || m'.metaKey

def withShift (m : KeyModifiers) : KeyModifiers :=
  { m with shift := true }

def withoutShift (m : KeyModifiers) : KeyModifiers :=
  { m with shift := false }

end KeyModifiers

namespace Config

open Text

abbrev KeyCombo := KeyCode × KeyModifiers

def normalizeKeyCombo : KeyCombo → KeyCombo
  | (.tab, m) => if m.shift then (.backTab, m.withoutShift) else (.tab, m)
  | (.backTab, m) => (.backTab, m.withoutShift)
  | combo => combo

/-! ## Bindings -/

inductive BindingConfig where
  | one (value : String)
  | many (values : List String)

namespace BindingConfig

/-- No binding. -/
def empty : BindingConfig :=
  one ""

def values : BindingConfig → List String
  | one value => [value]
  | many values => values

end BindingConfig

/-- A combo pressed alone, or after the prefix key. -/
inductive BindingTrigger where
  | direct (combo : KeyCombo)
  | prefixed (combo : KeyCombo)
  deriving DecidableEq, Repr

namespace BindingTrigger

def combo : BindingTrigger → KeyCombo
  | direct combo => combo
  | prefixed combo => combo

def isDirect : BindingTrigger → Bool
  | direct _ => true
  | prefixed _ => false

def isPrefixed : BindingTrigger → Bool
  | direct _ => false
  | prefixed _ => true

end BindingTrigger

structure ResolvedBinding where
  trigger : BindingTrigger
  label : String
  deriving DecidableEq, Repr

inductive ParsedBinding where
  | single (binding : ResolvedBinding)
  | range (bindings : List ResolvedBinding)

/-! ## Labels -/

def mediaKeyName : MediaKeyCode → String
  | .play => "play"
  | .pause => "pause"
  | .playPause => "playpause"
  | .reverse => "reverse"
  | .stop => "stop"
  | .fastForward => "fastforward"
  | .rewind => "rewind"
  | .trackNext => "tracknext"
  | .trackPrevious => "trackprevious"
  | .record => "record"
  | .lowerVolume => "lowervolume"
  | .raiseVolume => "raisevolume"
  | .muteVolume => "mutevolume"

def modifierKeyName : ModifierKeyCode → String
  | .leftShift => "leftshift"
  | .leftControl => "leftcontrol"
  | .leftAlt => "leftalt"
  | .leftSuper => "leftsuper"
  | .leftHyper => "lefthyper"
  | .leftMeta => "leftmeta"
  | .rightShift => "rightshift"
  | .rightControl => "rightcontrol"
  | .rightAlt => "rightalt"
  | .rightSuper => "rightsuper"
  | .rightHyper => "righthyper"
  | .rightMeta => "rightmeta"
  | .isoLevel3Shift => "isolevel3shift"
  | .isoLevel5Shift => "isolevel5shift"

/-- The name of a key in a label. The keys after `f` go by their name in the code. -/
def keyName : KeyCode → String
  | .char c => if c = ' ' then "space" else String.ofList [c]
  | .enter => "enter"
  | .esc => "esc"
  | .tab => "tab"
  | .backTab => "shift+tab"
  | .backspace => "backspace"
  | .left => "left"
  | .right => "right"
  | .up => "up"
  | .down => "down"
  | .f n => "f" ++ toString n
  | .home => "home"
  | .«end» => "end"
  | .pageUp => "pageup"
  | .pageDown => "pagedown"
  | .delete => "delete"
  | .insert => "insert"
  | .capsLock => "capslock"
  | .scrollLock => "scrolllock"
  | .numLock => "numlock"
  | .printScreen => "printscreen"
  | .pause => "pause"
  | .menu => "menu"
  | .keypadBegin => "keypadbegin"
  | .media code => "media(" ++ mediaKeyName code ++ ")"
  | .modifier code => "modifier(" ++ modifierKeyName code ++ ")"

def formatKeyCombo : KeyCombo → String
  | (code, m) =>
    let parts := [(m.control, "ctrl"), (m.alt, "alt"), (m.shift && code != .backTab, "shift"),
      (m.super, "super"), (m.hyper, "hyper"), (m.metaKey, "meta")]
    "+".intercalate ((parts.filter (·.1)).map (·.2) ++ [keyName code])

/-! ## Reading a combo -/

def modifierTokens : List (String × KeyModifiers) :=
  [("ctrl", { control := true }), ("control", { control := true }), ("shift", { shift := true }),
    ("alt", { alt := true }), ("option", { alt := true }), ("meta", { alt := true }),
    ("cmd", { super := true }), ("command", { super := true }), ("super", { super := true }),
    ("hyper", { hyper := true })]

def parseModifierToken (token : Text) : Option KeyModifiers :=
  modifierTokens.lookup (String.ofList (toLowercase token))

def parseRangeModifiersFrom : List Text → KeyModifiers → Bool → Option KeyModifiers
  | [], modifiers, sawRange => if sawRange then some modifiers else none
  | part :: parts, modifiers, sawRange =>
    let trimmed := trim part
    if trimmed = "1..9".toList then
      if sawRange then none else parseRangeModifiersFrom parts modifiers true
    else
      match parseModifierToken trimmed with
      | none => none
      | some modifier => parseRangeModifiersFrom parts (modifiers.union modifier) sawRange

def parseRangeModifiers (s : Text) : Option KeyModifiers :=
  parseRangeModifiersFrom (splitOn '+' s) {} false

def parseModifierComboFrom : List Text → KeyModifiers → Option KeyModifiers
  | [], modifiers => if modifiers = {} then none else some modifiers
  | part :: parts, modifiers =>
    let trimmed := trim part
    if trimmed.isEmpty then none
    else
      match parseModifierToken trimmed with
      | none => none
      | some modifier => parseModifierComboFrom parts (modifiers.union modifier)

def parseModifierCombo (s : Text) : Option KeyModifiers :=
  parseModifierComboFrom (splitOn '+' s) {}

/-- The modifiers among the parts, and the one part that is none. -/
def parseKeyParts : List Text → KeyModifiers → Option Text → Option (KeyModifiers × Text)
  | [], modifiers, key => key.map fun key => (modifiers, key)
  | part :: parts, modifiers, key =>
    let trimmed := trim part
    if trimmed.isEmpty then none
    else
      match parseModifierToken trimmed with
      | some modifier => parseKeyParts parts (modifiers.union modifier) key
      | none => if key.isSome then none else parseKeyParts parts modifiers (some trimmed)

def keyNames : List (String × KeyCode) :=
  [("space", .char ' '), (" ", .char ' '), ("enter", .enter), ("return", .enter), ("esc", .esc),
    ("escape", .esc), ("tab", .tab), ("backspace", .backspace), ("bs", .backspace),
    ("left", .left), ("right", .right), ("up", .up), ("down", .down), ("minus", .char '-'),
    ("comma", .char ','), ("period", .char '.'), ("slash", .char '/'), ("backslash", .char '\\'),
    ("quote", .char '\''), ("double_quote", .char '"'), ("double-quote", .char '"'),
    ("semicolon", .char ';'), ("colon", .char ':'), ("percent", .char '%'),
    ("ampersand", .char '&'), ("backtick", .char '`'), ("plus", .char '+')]

def singleKeyChar : Text → Option Char
  | [ch] => some ch
  | _ => none

/-- The key with the modifiers, to which a capital adds Shift. -/
def parseKey (keyStr : Text) (modifiers : KeyModifiers) : Option KeyCombo :=
  let lower := toLowercase keyStr
  if lower = "tab".toList && modifiers.shift then some (.backTab, modifiers.withoutShift)
  else
    match keyNames.lookup (String.ofList lower) with
    | some code => some (code, modifiers)
    | none =>
      match singleKeyChar keyStr with
      | some ch =>
        if ch.isUpper then some (.char ch.toLower, modifiers.withShift)
        else some (.char ch, modifiers)
      | none =>
        match stripPrefix "f" lower with
        | some number => (parseU8 number).map fun n => (.f n, modifiers)
        | none => none

def parseKeyCombo (s : Text) : Option KeyCombo :=
  match parseKeyParts (splitOn '+' s) {} none with
  | none => none
  | some (modifiers, keyStr) => (parseKey keyStr modifiers).map normalizeKeyCombo

/-- The number keys a range is for. -/
def numberKeys : List Char :=
  ['1', '2', '3', '4', '5', '6', '7', '8', '9']

/-- The binding of a combo, with its label. -/
def resolve (prefixed : Bool) (combo : KeyCombo) : ResolvedBinding :=
  if prefixed then { trigger := .prefixed combo, label := "prefix+" ++ formatKeyCombo combo }
  else { trigger := .direct combo, label := formatKeyCombo combo }

def parseBindingString (raw : Text) : Option ParsedBinding :=
  let trimmed := trim raw
  let (prefixed, body) := match stripPrefix "prefix+" trimmed with
    | some rest => (true, rest)
    | none => (false, trimmed)
  match parseRangeModifiers body with
  | some modifiers =>
    some (.range (numberKeys.map fun number => resolve prefixed (.char number, modifiers)))
  | none => (parseKeyCombo body).map fun combo => .single (resolve prefixed combo)

/-! ## Matching a key -/

def isShiftedPunctuation (ch : Char) : Bool :=
  ['!', '@', '#', '$', '%', '^', '&', '*', '(', ')', '_', '+', '{', '}', '|', ':', '"', '<', '>',
    '?', '~'].contains ch

def shiftedCharMatchesExpected (actual : KeyCode) (shiftedCodepoint : Option ℕ)
    (expected : KeyCode) : Bool :=
  match expected with
  | .char expected =>
    match shiftedCodepoint.bind charFromU32 with
    | some shifted => shifted == expected
    | none => actual == .char expected && isShiftedPunctuation expected
  | _ => false

def keyCodesMatch (actual : KeyCode) (actualModifiers : KeyModifiers) (expected : KeyCode)
    (expectedModifiers : KeyModifiers) (shiftedCodepoint : Option ℕ) : Bool :=
  match actual, expected with
  | .char actual, .char expected =>
    if actual.isAlpha && expected.isAlpha then
      actual == expected || actualModifiers.shift && expectedModifiers.shift &&
        actual.toLower == expected.toLower
    else
      actual == expected ||
        shiftedCharMatchesExpected (.char actual) shiftedCodepoint (.char expected)
  | actual, expected => actual == expected

def legacyShiftedAsciiLetterMatches (actual : KeyCode) (actualModifiers : KeyModifiers)
    (expected : KeyCode) (expectedModifiers : KeyModifiers) : Bool :=
  if actualModifiers.shift then false
  else
    match actual, expected with
    | .char actual, .char expected =>
      actual.isUpper && expected.isLower && actual.toLower == expected &&
        actualModifiers.withShift == expectedModifiers
    | _, _ => false

def keyPartsMatchCombo (code : KeyCode) (modifiers : KeyModifiers) (shiftedCodepoint : Option ℕ)
    (combo : KeyCombo) : Bool :=
  let (actual, actualModifiers) := normalizeKeyCombo (code, modifiers)
  let (expected, expectedModifiers) := normalizeKeyCombo combo
  if actualModifiers == expectedModifiers &&
      keyCodesMatch actual actualModifiers expected expectedModifiers shiftedCodepoint then true
  else
    actualModifiers.shift && actualModifiers.withoutShift == expectedModifiers &&
        shiftedCharMatchesExpected actual shiftedCodepoint expected ||
      legacyShiftedAsciiLetterMatches actual actualModifiers expected expectedModifiers

def terminalKeyMatchesCombo (key : TerminalKey) (combo : KeyCombo) : Bool :=
  keyPartsMatchCombo key.code key.modifiers key.shiftedCodepoint combo

def ResolvedBinding.matchesTerminalKey (binding : ResolvedBinding) (key : TerminalKey) : Bool :=
  terminalKeyMatchesCombo key binding.trigger.combo

/-! ### Indexed bindings -/

structure IndexedKeybind where
  trigger : BindingTrigger
  label : String
  deriving DecidableEq, Repr

def isKeyNumber (c : Char) : Bool :=
  numberKeys.contains c

def shiftedNumberSymbols : List (Char × Char) :=
  [('1', '!'), ('2', '@'), ('3', '#'), ('4', '$'), ('5', '%'), ('6', '^'), ('7', '&'), ('8', '*'),
    ('9', '(')]

def shiftedNumberSymbol (ch : Char) : Option Char :=
  (shiftedNumberSymbols.find? fun e => e.2 == ch).map (·.1)

def indexedShiftedNumberMatches (key : TerminalKey) (combo : KeyCombo) (number : Char) : Bool :=
  let (expected, expectedModifiers) := normalizeKeyCombo combo
  expected == .char number && expectedModifiers.shift &&
    key.modifiers == expectedModifiers.withoutShift

def IndexedKeybind.matchedIndex (binding : IndexedKeybind) (key : TerminalKey) : Option ℕ :=
  let combo := binding.trigger.combo
  match (normalizeKeyCombo combo).1 with
  | .char number =>
    if isKeyNumber number then
      let legacyShiftedNumber := match key.code with
        | .char c =>
          shiftedNumberSymbol c == some number && indexedShiftedNumberMatches key combo number
        | _ => false
      if terminalKeyMatchesCombo key combo || legacyShiftedNumber then
        some (number.toNat - '1'.toNat)
      else none
    else none
  | _ => none

/-- A character that is typed, alone or with Shift. -/
def isUnmodifiedPrintable (combo : KeyCombo) : Bool :=
  match combo.1 with
  | .char ch => !isControl ch && combo.2.withoutShift == {}
  | _ => false

end Config

end Zynk
