import Zynk.Lib.Text

/-!
# The OSC trackers

`pane/osc.rs` : three machines that read the output of a pane byte by byte and find the bodies of
its OSC strings. `DefaultColorOscTracker` says whether one of them sets a default colour,
`DefaultColorEventTracker` collects the colour events with the offsets they end at, and
`OscStreamCollector` hands the bodies to a receiver (the title and the working directory are read
from them).

The first two finalise a body where they look into it, so their states carry the list of the bodies
they have finalised, which nothing reads; the collector's receiver gets them.
-/

namespace Zynk.Pane

open Text

/-- The escape byte, which begins a string and the two-byte terminator. -/
def escape : UInt8 := 0x1b

/-- The one-byte terminator. -/
def bell : UInt8 := 0x07

/-- The second byte of the two-byte terminator. -/
def backslash : UInt8 := 0x5c

/-- The byte that makes an escape the beginning of an OSC string. -/
def oscIntro : UInt8 := 0x5d

@[simp] theorem escape_ne_bell : escape ≠ bell := by
  decide

@[simp] theorem escape_ne_backslash : escape ≠ backslash := by
  decide

@[simp] theorem bell_ne_backslash : bell ≠ backslash := by
  decide

@[simp] theorem backslash_ne_bell : backslash ≠ bell := by
  decide

@[simp] theorem backslash_ne_escape : backslash ≠ escape := by
  decide

/-- The strings that are skipped : DCS, APC, PM and SOS. -/
def isIgnoredStringIntro (byte : UInt8) : Bool :=
  byte == 0x50 || byte == 0x5f || byte == 0x5e || byte == 0x58

@[simp] theorem isIgnoredStringIntro_escape : isIgnoredStringIntro escape = false := by
  decide

/-! ## Colour events -/

inductive DefaultColorQuery where
  | foreground
  | background
  | cursor
  deriving DecidableEq, Repr

inductive DefaultColorEvent where
  | query (query : DefaultColorQuery)
  | set (query : DefaultColorQuery)
  | reset (query : DefaultColorQuery)
  | paletteQuery (index : ℕ)
  deriving DecidableEq, Repr

def DefaultColorEvent.isSet : DefaultColorEvent → Bool
  | .set _ => true
  | _ => false

structure DefaultColorTrackedEvent where
  endOffset : ℕ
  event : DefaultColorEvent
  deriving DecidableEq, Repr

/-- `4;N;?` with one to three digits and a value of at most 255. -/
def parsePaletteColorQuery (body : Bytes) : Option DefaultColorEvent :=
  if (ascii "4;").isPrefixOf body && (ascii ";?").isSuffixOf (body.drop 2) then
    let index := (body.drop 2).take (body.length - 4)
    if index.isEmpty || 3 < index.length || !index.all fun b => 0x30 ≤ b && b ≤ 0x39 then none
    else
      let value := index.foldl (fun n b => n * 10 + (b.toNat - 0x30)) 0
      if value ≤ 255 then some (.paletteQuery value) else none
  else none

/-- `10;` or `11;` with colours : the first one sets the foreground or the background, and behind
`10;` the second one the background. -/
def parseDefaultColorSetEvents (body : Bytes) : List DefaultColorEvent :=
  match body.findIdx? (· == 0x3b) with
  | none => []
  | some separator =>
    let values := (splitOn 0x3b (body.drop (separator + 1))).filter fun value => !value.isEmpty
    let from10 (start : ℕ) : List DefaultColorEvent :=
      values.zipIdx.filterMap fun (value, offset) =>
        if value == ascii "?" then none
        else if start + offset = 10 then some (.set .foreground)
        else if start + offset = 11 then some (.set .background)
        else none
    if body.take separator == ascii "10" then from10 10
    else if body.take separator == ascii "11" then from10 11
    else []

def parseDefaultColorEvents (body : Bytes) : List DefaultColorEvent :=
  let single :=
    if body == ascii "10;?" then some (.query .foreground)
    else if body == ascii "11;?" then some (.query .background)
    else if body == ascii "12;?" then some (.query .cursor)
    else if body == ascii "110" || body == ascii "110;" then some (.reset .foreground)
    else if body == ascii "111" || body == ascii "111;" then some (.reset .background)
    else parsePaletteColorQuery body
  match single with
  | some event => [event]
  | none => parseDefaultColorSetEvents body

def isDefaultColorSetOsc (body : Bytes) : Bool :=
  (parseDefaultColorEvents body).any DefaultColorEvent.isSet

/-! ## `DefaultColorOscTracker` -/

inductive DefaultColorOscTrackerState where
  | ground
  | escape
  | oscBody
  | oscEscape
  | ignoreString
  | ignoreStringEscape
  | oversizedOsc
  | oversizedOscEscape
  deriving DecidableEq, Repr

structure DefaultColorOscTracker where
  state : DefaultColorOscTrackerState := .ground
  body : Bytes := []
  examined : List Bytes := []
  deriving DecidableEq, Repr

namespace DefaultColorOscTracker

/-- `is_default_color_set_osc(&self.body)`, after which the body is cleared. -/
def examine (t : DefaultColorOscTracker) : DefaultColorOscTracker × Bool :=
  ({ state := .ground, body := [], examined := t.examined ++ [t.body] },
    isDefaultColorSetOsc t.body)

/-- The `match` in the loop of `observe`. -/
def matchByte (t : DefaultColorOscTracker) (byte : UInt8) : DefaultColorOscTracker × Bool :=
  match t.state with
  | .ground => if byte = Pane.escape then ({ t with state := .escape }, false) else (t, false)
  | .escape =>
    if byte = oscIntro then ({ t with body := [], state := .oscBody }, false)
    else if isIgnoredStringIntro byte then ({ t with body := [], state := .ignoreString }, false)
    else if byte = Pane.escape then ({ t with state := .escape }, false)
    else ({ t with state := .ground }, false)
  | .oscBody =>
    if byte = bell then t.examine
    else if byte = Pane.escape then ({ t with state := .oscEscape }, false)
    else ({ t with body := t.body ++ [byte] }, false)
  | .oscEscape =>
    if byte = backslash then t.examine
    else ({ t with body := t.body ++ [Pane.escape, byte], state := .oscBody }, false)
  | .ignoreString =>
    if byte = Pane.escape then ({ t with state := .ignoreStringEscape }, false) else (t, false)
  | .ignoreStringEscape =>
    if byte = backslash then ({ t with state := .ground }, false)
    else if byte ≠ Pane.escape then ({ t with state := .ignoreString }, false)
    else (t, false)
  | .oversizedOsc =>
    if byte = Pane.escape then ({ t with state := .oversizedOscEscape }, false)
    else if byte = bell then ({ t with state := .ground }, false)
    else (t, false)
  | .oversizedOscEscape =>
    if byte = backslash then ({ t with state := .ground }, false)
    else if byte ≠ Pane.escape then ({ t with state := .oversizedOsc }, false)
    else (t, false)

def observeByte (t : DefaultColorOscTracker) (byte : UInt8) : DefaultColorOscTracker × Bool :=
  let next := t.matchByte byte
  if 1024 < next.1.body.length then
    ({ next.1 with body := [], state := .oversizedOsc }, next.2)
  else next

def observe (t : DefaultColorOscTracker) : Bytes → DefaultColorOscTracker × Bool
  | [] => (t, false)
  | byte :: bytes =>
    let next := t.observeByte byte
    let rest := next.1.observe bytes
    (rest.1, next.2 || rest.2)

end DefaultColorOscTracker

/-! ## `DefaultColorEventTracker` -/

structure DefaultColorEventTracker where
  state : DefaultColorOscTrackerState := .ground
  body : Bytes := []
  pending : List DefaultColorTrackedEvent := []
  finalized : List Bytes := []
  deriving DecidableEq, Repr

namespace DefaultColorEventTracker

def finalize (t : DefaultColorEventTracker) (endOffset : ℕ) : DefaultColorEventTracker :=
  { t with
    pending := t.pending ++ (parseDefaultColorEvents t.body).map fun event => ⟨endOffset, event⟩
    body := []
    finalized := t.finalized ++ [t.body] }

/-- The `match` in the loop of `observe`. -/
def matchByte (t : DefaultColorEventTracker) (index : ℕ) (byte : UInt8) :
    DefaultColorEventTracker :=
  match t.state with
  | .ground => if byte = Pane.escape then { t with state := .escape } else t
  | .escape =>
    if byte = oscIntro then { t with body := [], state := .oscBody }
    else if isIgnoredStringIntro byte then { t with body := [], state := .ignoreString }
    else if byte = Pane.escape then { t with state := .escape }
    else { t with state := .ground }
  | .oscBody =>
    if byte = bell then { t.finalize (index + 1) with state := .ground }
    else if byte = Pane.escape then { t with state := .oscEscape }
    else { t with body := t.body ++ [byte] }
  | .oscEscape =>
    if byte = backslash then { t.finalize (index + 1) with state := .ground }
    else { t with body := t.body ++ [Pane.escape, byte], state := .oscBody }
  | .ignoreString =>
    if byte = Pane.escape then { t with state := .ignoreStringEscape } else t
  | .ignoreStringEscape =>
    if byte = backslash then { t with state := .ground }
    else if byte ≠ Pane.escape then { t with state := .ignoreString }
    else t
  | .oversizedOsc =>
    if byte = Pane.escape then { t with state := .oversizedOscEscape }
    else if byte = bell then { t with state := .ground }
    else t
  | .oversizedOscEscape =>
    if byte = backslash then { t with state := .ground }
    else if byte ≠ Pane.escape then { t with state := .oversizedOsc }
    else t

def observeByte (t : DefaultColorEventTracker) (index : ℕ) (byte : UInt8) :
    DefaultColorEventTracker :=
  let next := t.matchByte index byte
  if 1024 < next.body.length then { next with body := [], state := .oversizedOsc } else next

/-- The loop of `observe`, at an offset into the chunk. -/
def observeFrom (t : DefaultColorEventTracker) (index : ℕ) : Bytes → DefaultColorEventTracker
  | [] => t
  | byte :: bytes => (t.observeByte index byte).observeFrom (index + 1) bytes

def observe (t : DefaultColorEventTracker) (bytes : Bytes) : DefaultColorEventTracker :=
  t.observeFrom 0 bytes

/-- A body has become longer than 1024 bytes and is being skipped. -/
def isOversized (t : DefaultColorEventTracker) : Bool :=
  t.state == .oversizedOsc || t.state == .oversizedOscEscape

end DefaultColorEventTracker

/-! ## `OscStreamCollector` -/

inductive OscStreamState where
  | ground
  | escape
  | body
  | bodyEscape
  | ignoringString
  | ignoringStringEscape
  | discarding
  | discardingEscape
  deriving DecidableEq, Repr

structure OscStreamCollector where
  state : OscStreamState := .ground
  body : Bytes := []
  deriving DecidableEq, Repr

namespace OscStreamCollector

def maxBodyBytes : ℕ := 4096

def push (c : OscStreamCollector) (byte : UInt8) : OscStreamCollector :=
  let body := c.body ++ [byte]
  if maxBodyBytes < body.length then { body := [], state := .discarding }
  else { body, state := .body }

/-- The body goes to the receiver. -/
def finish (c : OscStreamCollector) : OscStreamCollector × List Bytes :=
  ({ body := [], state := .ground }, [c.body])

/-- The `match` in the loop of `observe`, with what the receiver gets. -/
def observeByte (c : OscStreamCollector) (byte : UInt8) : OscStreamCollector × List Bytes :=
  match c.state with
  | .ground => if byte = Pane.escape then ({ c with state := .escape }, []) else (c, [])
  | .escape =>
    if byte = oscIntro then ({ body := [], state := .body }, [])
    else if byte = Pane.escape then ({ c with state := .escape }, [])
    else if isIgnoredStringIntro byte then ({ c with state := .ignoringString }, [])
    else ({ c with state := .ground }, [])
  | .body =>
    if byte = bell then c.finish
    else if byte = Pane.escape then ({ c with state := .bodyEscape }, [])
    else (c.push byte, [])
  | .bodyEscape =>
    if byte = backslash then c.finish
    else
      let pushed := c.push Pane.escape
      if byte = bell then
        if pushed.state = .body then pushed.finish else ({ pushed with state := .ground }, [])
      else if byte = Pane.escape then
        match pushed.state with
        | .body => ({ pushed with state := .bodyEscape }, [])
        | .discarding => ({ pushed with state := .discardingEscape }, [])
        | _ => (pushed, [])
      else (if pushed.state = .body then pushed.push byte else pushed, [])
  | .ignoringString =>
    if byte = Pane.escape then ({ c with state := .ignoringStringEscape }, []) else (c, [])
  | .ignoringStringEscape =>
    if byte = backslash then ({ c with state := .ground }, [])
    else if byte ≠ Pane.escape then ({ c with state := .ignoringString }, [])
    else (c, [])
  | .discarding =>
    if byte = bell then ({ c with state := .ground }, [])
    else if byte = Pane.escape then ({ c with state := .discardingEscape }, [])
    else (c, [])
  | .discardingEscape =>
    if byte = backslash then ({ c with state := .ground }, [])
    else if byte ≠ Pane.escape then ({ c with state := .discarding }, [])
    else (c, [])

def observe (c : OscStreamCollector) : Bytes → OscStreamCollector × List Bytes
  | [] => (c, [])
  | byte :: bytes =>
    let next := c.observeByte byte
    let rest := next.1.observe bytes
    (rest.1, next.2 ++ rest.2)

end OscStreamCollector

/-! ## Chunks

The output comes in chunks, each of which is given to the three machines. -/

namespace DefaultColorOscTracker

def observeChunks (t : DefaultColorOscTracker) (chunks : List Bytes) : DefaultColorOscTracker :=
  chunks.foldl (fun t chunk => (t.observe chunk).1) t

end DefaultColorOscTracker

namespace DefaultColorEventTracker

def observeChunks (t : DefaultColorEventTracker) (chunks : List Bytes) :
    DefaultColorEventTracker :=
  chunks.foldl observe t

end DefaultColorEventTracker

namespace OscStreamCollector

/-- The bodies the receiver gets, chunk after chunk. -/
def observeChunks (c : OscStreamCollector) : List Bytes → OscStreamCollector × List Bytes
  | [] => (c, [])
  | chunk :: chunks =>
    let next := c.observe chunk
    let rest := next.1.observeChunks chunks
    (rest.1, next.2 ++ rest.2)

end OscStreamCollector

end Zynk.Pane
