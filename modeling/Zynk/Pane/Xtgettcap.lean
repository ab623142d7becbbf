import Zynk.Lib.Text

/-!
# Capability queries

A program in a pane asks for terminal capabilities with `ESC P + q` and the names in hexadecimal,
up to the string terminator. `XtgettcapQueryTracker` reads the output of the program byte by byte
and collects the responses : it skips OSC strings and the other control strings, and takes the
8-bit introducers and terminators as well as the 7-bit ones.
-/

namespace Zynk.Pane

open Text

/-! ## Responses -/

structure XtgettcapResponse where
  endOffset : ℕ
  bytes : Bytes
deriving DecidableEq, Repr

/-- The capabilities by their names in hexadecimal. Some have no value. -/
def xtgettcapTable : List (String × Option String) :=
  [("5463", none), ("524742", some "8"),
    ("73657472676266", some "\\E[38:2:%p1%d:%p2%d:%p3%dm"),
    ("73657472676262", some "\\E[48:2:%p1%d:%p2%d:%p3%dm"),
    ("4D73", some "\\E]52;%p1%s;%p2%s\\007"), ("5375", none),
    ("536D756C78", some "\\E[4:%p1%dm"),
    ("536574756C63", some
      "\\E[58:2::%p1%\x7b65536\x7d%/%d:%p1%\x7b256\x7d%/%\x7b255\x7d%&%d:%p1%\x7b255\x7d%&%d%;m")]

def xtgettcapValue (capHex : Bytes) : Option (Option Bytes) :=
  (xtgettcapTable.find? fun row => ascii row.1 = capHex).map fun row => row.2.map ascii

/-- `u8::is_ascii_hexdigit`. -/
def isAsciiHexdigit (byte : UInt8) : Bool :=
  (0x30 ≤ byte.toNat && byte.toNat ≤ 0x39) || (0x41 ≤ byte.toNat && byte.toNat ≤ 0x46) ||
    (0x61 ≤ byte.toNat && byte.toNat ≤ 0x66)

/-- `u8::to_ascii_uppercase`. -/
def toAsciiUppercase (byte : UInt8) : UInt8 :=
  if 0x61 ≤ byte.toNat && byte.toNat ≤ 0x7A then byte - 0x20 else byte

def hexDigits : Bytes :=
  ascii "0123456789ABCDEF"

def upperHex (bytes : Bytes) : Bytes :=
  bytes.flatMap fun byte =>
    [hexDigits.getD (byte.toNat / 16) 0, hexDigits.getD (byte.toNat % 16) 0]

def buildXtgettcapResponse (capHex : Bytes) (value : Option Bytes) : Bytes :=
  [0x1b] ++ ascii "P1+r" ++ capHex ++
    (match value with
      | some value => ascii "=" ++ upperHex value
      | none => []) ++ [0x1b, 0x5c]

def xtgettcapResponse (capHex : Bytes) : Option Bytes :=
  if capHex.isEmpty || capHex.length % 2 ≠ 0 then none
  else if !capHex.all isAsciiHexdigit then none
  else
    let normalized := capHex.map toAsciiUppercase
    (xtgettcapValue normalized).map (buildXtgettcapResponse normalized)

/-! ## The tracker -/

inductive XtgettcapTrackerState where
  | ground
  | escape
  | dcsIntro
  | dcsIntroPlus
  | dcsBody
  | dcsEscape
  | ignoreOsc
  | ignoreOscEscape
  | ignoreString
  | ignoreStringEscape
  | oversizedDcs
  | oversizedDcsEscape
deriving DecidableEq, Repr

structure XtgettcapQueryTracker where
  state : XtgettcapTrackerState := .ground
  body : Bytes := []
  pending : List XtgettcapResponse := []
deriving DecidableEq, Repr

namespace XtgettcapQueryTracker

def finalize (t : XtgettcapQueryTracker) (endOffset : ℕ) : XtgettcapQueryTracker :=
  { t with
    pending := t.pending ++
      ((splitOn 0x3b t.body).filterMap xtgettcapResponse).map fun bytes => ⟨endOffset, bytes⟩
    body := [] }

/-- What a byte does in each state. -/
def matchByte (t : XtgettcapQueryTracker) (index : ℕ) (byte : UInt8) : XtgettcapQueryTracker :=
  match t.state with
  | .ground =>
    if byte = 0x1b then { t with state := .escape }
    else if byte = 0x90 then { t with state := .dcsIntro, body := [] }
    else if byte = 0x9d then { t with state := .ignoreOsc }
    else if byte = 0x98 ∨ byte = 0x9e ∨ byte = 0x9f then { t with state := .ignoreString }
    else t
  | .escape =>
    if byte = 0x50 then { t with state := .dcsIntro, body := [] }
    else if byte = 0x5d then { t with state := .ignoreOsc, body := [] }
    else if byte = 0x5f ∨ byte = 0x5e ∨ byte = 0x58 then
      { t with state := .ignoreString, body := [] }
    else if byte = 0x1b then { t with state := .escape }
    else { t with state := .ground }
  | .dcsIntro =>
    if byte = 0x2b then { t with state := .dcsIntroPlus }
    else if byte = 0x1b then { t with state := .ignoreStringEscape }
    else if byte = 0x9c then { t with state := .ground }
    else { t with state := .ignoreString }
  | .dcsIntroPlus =>
    if byte = 0x71 then { t with state := .dcsBody }
    else if byte = 0x1b then { t with state := .ignoreStringEscape }
    else if byte = 0x9c then { t with state := .ground }
    else { t with state := .ignoreString }
  | .dcsBody =>
    if byte = 0x1b then { t with state := .dcsEscape }
    else if byte = 0x9c then { t.finalize (index + 1) with state := .ground }
    else { t with body := t.body ++ [byte] }
  | .dcsEscape =>
    if byte = 0x5c then { t.finalize (index + 1) with state := .ground }
    else if byte ≠ 0x1b then { t with body := [], state := .ignoreString }
    else t
  | .ignoreOsc =>
    if byte = 0x1b then { t with state := .ignoreOscEscape }
    else if byte = 0x07 ∨ byte = 0x9c then { t with state := .ground }
    else t
  | .ignoreOscEscape =>
    if byte = 0x5c then { t with state := .ground }
    else if byte ≠ 0x1b then { t with state := .ignoreOsc }
    else t
  | .ignoreString =>
    if byte = 0x1b then { t with state := .ignoreStringEscape }
    else if byte = 0x9c then { t with state := .ground }
    else t
  | .ignoreStringEscape =>
    if byte = 0x5c then { t with state := .ground }
    else if byte ≠ 0x1b then { t with state := .ignoreString }
    else t
  | .oversizedDcs =>
    if byte = 0x1b then { t with state := .oversizedDcsEscape }
    else if byte = 0x9c then { t with state := .ground }
    else t
  | .oversizedDcsEscape =>
    if byte = 0x5c then { t with state := .ground }
    else if byte ≠ 0x1b then { t with state := .oversizedDcs }
    else t

/-- One turn of the loop : a body that is too long is dropped. -/
def observeByte (t : XtgettcapQueryTracker) (index : ℕ) (byte : UInt8) : XtgettcapQueryTracker :=
  let t := t.matchByte index byte
  if 1024 < t.body.length then { t with body := [], state := .oversizedDcs } else t

/-- The bytes from the given offset on. -/
def observeFrom (t : XtgettcapQueryTracker) : ℕ → Bytes → XtgettcapQueryTracker
  | _, [] => t
  | index, byte :: bytes => (t.observeByte index byte).observeFrom (index + 1) bytes

def observe (t : XtgettcapQueryTracker) (bytes : Bytes) : XtgettcapQueryTracker :=
  t.observeFrom 0 bytes

def drainPending (t : XtgettcapQueryTracker) : List XtgettcapResponse × XtgettcapQueryTracker :=
  (t.pending, { t with pending := [] })

end XtgettcapQueryTracker

/-! ## Runs -/

inductive XtgettcapCall where
  | observe (bytes : Bytes)
  | drain

/-- The tracker, and the responses that have been drained so far. -/
structure XtgettcapRun where
  tracker : XtgettcapQueryTracker := {}
  drained : List Bytes := []

def XtgettcapRun.call (r : XtgettcapRun) : XtgettcapCall → XtgettcapRun
  | .observe bytes => { r with tracker := r.tracker.observe bytes }
  | .drain =>
    let (responses, tracker) := r.tracker.drainPending
    { tracker := tracker, drained := r.drained ++ responses.map (·.bytes) }

def XtgettcapRun.calls (calls : List XtgettcapCall) : XtgettcapRun :=
  calls.foldl XtgettcapRun.call {}

/-- The bytes that the calls feed. -/
def XtgettcapCall.fed : XtgettcapCall → Bytes
  | .observe bytes => bytes
  | .drain => []

end Zynk.Pane
