import Zynk.Input.Report
import Zynk.Lib.Resumable

/-!
# The input framer

`RawInputByteFramer` of `raw_input.rs` : it collects the bytes of the outer terminal and
cuts them into chunks of one event each. `extractOneEvent` finds the first event of the
buffer, `iterate` is one turn of the loop of `drain_available_chunks`, and `flushTimeout`
decides about what is left when no more bytes come.

The framer reads only the kind of an event; the chunks it returns are its bytes. A panic
of a colour parser is a stop of the loop with `panicked` set.
-/

namespace Zynk

open Text Resumable

/-! ## Events -/

inductive RawInputEvent where
  | key (key : TerminalKey)
  | paste (text : Text)
  | mouse (event : MouseEvent)
  | outerFocusGained
  | outerFocusLost
  | hostDefaultColor (kind : DefaultColorKind) (color : RgbColor)
  | hostPaletteColors (colors : List (ℕ × RgbColor))
  | hostColorSchemeChanged (appearance : HostAppearance)
  | hostCellSizeReport (widthPx heightPx : ℕ)
  | unsupported
  deriving DecidableEq, Repr

/-- `ESC`. -/
def esc : UInt8 := 0x1b

def bracketedPasteStart : Bytes := ascii "\x1b[200~"

def bracketedPasteEnd : Bytes := ascii "\x1b[201~"

/-! ## Lengths of sequences -/

inductive ControlStringFamily where
  | osc
  | stTerminated
  | hostReplyCsi
  | orphanedSgrMouseTail
  deriving DecidableEq, Repr

inductive ControlString where
  | complete (len : ℕ) (family : ControlStringFamily)
  | incomplete (family : ControlStringFamily)
  deriving DecidableEq, Repr

/-- Up to and with the first `ESC \` or `BEL`. -/
def oscStringTerminator (buffer : Bytes) : Option ℕ :=
  let st := (findSubsequence (ascii "\x1b\\") buffer).map (· + 2)
  let bel := (buffer.findIdx? (· == 0x07)).map (· + 1)
  match st, bel with
  | some st, some bel => some (min st bel)
  | some st, none => some st
  | none, some bel => some bel
  | none, none => none

/-- Up to and with the first `ESC \`. -/
def stStringTerminator (buffer : Bytes) : Option ℕ :=
  (findSubsequence (ascii "\x1b\\") buffer).map (· + 2)

def controlStringTerminatorForFamily (buffer : Bytes) : ControlStringFamily → Option ℕ
  | .osc => oscStringTerminator buffer
  | .stTerminated => stStringTerminator buffer
  | .hostReplyCsi | .orphanedSgrMouseTail => none

/-- The family of a control string, by its introducer. -/
def controlStringFamily (buffer : Bytes) : Option ControlStringFamily :=
  match buffer with
  | a :: b :: _ =>
    if a = esc ∧ b = 0x5d then some .osc
    else if a = esc ∧ (b = 0x50 ∨ b = 0x5f ∨ b = 0x5e ∨ b = 0x58) then some .stTerminated
    else none
  | _ => none

def controlString (buffer : Bytes) : Option ControlString :=
  (controlStringFamily buffer).map fun family =>
    match controlStringTerminatorForFamily buffer family with
    | some len => .complete len family
    | none => .incomplete family

/-- The length up to the first final byte, from the third byte on. -/
def findCsiFinal (buffer finals : Bytes) : Option ℕ :=
  ((buffer.drop 2).findIdx? fun b => finals.contains b).map (· + 3)

def utf8CharWidth (first : UInt8) : Option ℕ :=
  let n := first.toNat
  if n < 0x80 then some 1
  else if 0xC0 ≤ n && n < 0xE0 then some 2
  else if 0xE0 ≤ n && n < 0xF0 then some 3
  else if 0xF0 ≤ n && n < 0xF8 then some 4
  else none

def firstCompleteUtf8CharLen (buffer : Bytes) : Option ℕ := do
  let width ← utf8CharWidth (← buffer.head?)
  if buffer.length < width then none
  let _ ← decodeUtf8 (buffer.take width)
  pure width

/-- The final bytes of a CSI sequence : `@` to `~`. -/
def csiFinals : Bytes :=
  ascii "@ABCDEFGHIJKLMNOPQRSTUVWXYZ[\\]^_`abcdefghijklmnopqrstuvwxyz\x7b|\x7d~"

/-- A mouse report after an extra escape : the escape stands alone. `some` is the value
returned early, `tail` the buffer without its first byte. -/
def escapedMouseLen (buffer tail : Bytes) : Option (Option ℕ) :=
  let sgr :=
    if (ascii "\x1b\x1b[<").isPrefixOf buffer then
      match findCsiFinal tail (ascii "Mm") with
      | some mouseLen =>
        match decodeUtf8 (tail.take mouseLen) with
        | none => some none
        | some mouseSequence => if (parseSgrMouse mouseSequence).isSome then some (some 1) else none
      | none => none
    else none
  match sgr with
  | some result => some result
  | none =>
    if 7 ≤ buffer.length && (ascii "\x1b\x1b[M").isPrefixOf buffer &&
        (parseDefaultMouse (tail.take 6)).isSome then some (some 1)
    else none

/-- The length of a sequence with one escape, from its second byte on. -/
def plainEscapeSequenceLen (buffer : Bytes) : Option ℕ :=
  if (ascii "\x1b[").isPrefixOf buffer then
    if (ascii "\x1b[<").isPrefixOf buffer then findCsiFinal buffer (ascii "Mm")
    else if (ascii "\x1b[M").isPrefixOf buffer then if 6 ≤ buffer.length then some 6 else none
    else findCsiFinal buffer csiFinals
  else
    match controlString buffer with
    | some (.complete len _) => some len
    | some (.incomplete _) => none
    | none =>
      if (ascii "\x1bO").isPrefixOf buffer then if 3 ≤ buffer.length then some 3 else none
      else do
        let width ← utf8CharWidth (← buffer[1]?)
        if buffer.length < 1 + width then none
        let _ ← decodeUtf8 ((buffer.drop 1).take width)
        pure (1 + width)

/-- The length of the escape sequence the buffer starts with, when it is complete. -/
def completeEscapeSequenceLen : Bytes → Option ℕ
  | [] => none
  | first :: tail =>
    if tail.isEmpty then none
    else
      match escapedMouseLen (first :: tail) tail with
      | some result => result
      | none =>
        if (ascii "\x1b\x1b").isPrefixOf (first :: tail) then
          (completeEscapeSequenceLen tail).map (· + 1)
        else plainEscapeSequenceLen (first :: tail)

/-! ## Extraction -/

/-- What a complete escape sequence is. Nothing for one that is not UTF-8 (and no default
mouse report). -/
def classifyEscapeSequence (sequence : Bytes) : Except Panic (Option RawInputEvent) :=
  if (ascii "\x1b[M").isPrefixOf sequence then
    .ok (some (((parseDefaultMouse sequence).map .mouse).getD .unsupported))
  else
    match decodeUtf8 sequence with
    | none => .ok none
    | some seq => do
      if let some (kind, color) ← parseDefaultColorResponse seq then
        return some (.hostDefaultColor kind color)
      if let some (index, color) ← parsePaletteColorResponse seq then
        return some (.hostPaletteColors [(index, color)])
      if seq = "\x1b[I".toList then return some .outerFocusGained
      if seq = "\x1b[O".toList then return some .outerFocusLost
      if let some appearance := parseHostColorSchemeReport sequence then
        return some (.hostColorSchemeChanged appearance)
      if let some (widthPx, heightPx) := parseHostCellSizeReport sequence then
        return some (.hostCellSizeReport widthPx heightPx)
      if let some event := parseSgrMouse seq then return some (.mouse event)
      if let some key := parseTerminalKeySequence seq then
        return some (.key (key.withVtBytes sequence))
      return some .unsupported

/-- A bracketed paste, once its end is there. -/
def extractPaste (buffer : Bytes) : Option (RawInputEvent × ℕ) := do
  let stop ← findSubsequence bracketedPasteEnd buffer
  let content ← decodeUtf8 ((buffer.take stop).drop bracketedPasteStart.length)
  pure (.paste content, stop + bracketedPasteEnd.length)

/-- One character that is not an escape. -/
def extractChar (buffer : Bytes) : Option (RawInputEvent × ℕ) := do
  let consumed ← firstCompleteUtf8CharLen buffer
  let text ← decodeUtf8 (buffer.take consumed)
  let key ← parseTerminalKeySequence text
  pure (.key (key.withTextCommit.withVtBytes (buffer.take consumed)), consumed)

/-- The first event of the buffer and the number of its bytes, when it is complete. -/
def extractOneEvent (buffer : Bytes) : Except Panic (Option (RawInputEvent × ℕ)) :=
  if buffer.isEmpty then .ok none
  else if bracketedPasteStart.isPrefixOf buffer then .ok (extractPaste buffer)
  else if buffer.head? = some esc then
    match completeEscapeSequenceLen buffer with
    | none => .ok none
    | some len => do return (← classifyEscapeSequence (buffer.take len)).map (·, len)
  else .ok (extractChar buffer)

/-! ## Discarding -/

/-- `MAX_ORPHANED_SGR_MOUSE_TAIL_BYTES`. -/
def maxOrphanedSgrMouseTailBytes : ℕ := 32

/-- `MAX_DISCARDED_CONTROL_TAIL_BYTES`. -/
def maxDiscardedControlTailBytes : ℕ := 128

/-- A digit or a semicolon. -/
def isParameterByte (b : UInt8) : Bool :=
  (0x30 ≤ b.toNat && b.toNat ≤ 0x39) || b == 0x3b

def startsWithIncompleteSgrMouseSequence (buffer : Bytes) : Bool :=
  (ascii "\x1b[<").isPrefixOf buffer && (buffer.drop 3).all isParameterByte

/-- The buffer may still become a mouse report whose escape was flushed before it. -/
def startsWithIncompleteOrphanedSgrMouseTail (buffer : Bytes) : Bool :=
  if maxOrphanedSgrMouseTailBytes < buffer.length then false
  else
    (buffer.length < 3 && buffer.isPrefixOf (ascii "[<")) ||
      ((ascii "[<").isPrefixOf buffer && (buffer.drop 2).all isParameterByte)

/-- The length of the complete mouse report, without its escape, that the buffer starts
with. -/
def completeOrphanedSgrMouseTailLen (buffer : Bytes) : Option ℕ := do
  if !(ascii "[<").isPrefixOf buffer then none
  let stop ← (buffer.take maxOrphanedSgrMouseTailBytes).findIdx? fun b => b == 0x4d || b == 0x6d
  let sequence ← decodeUtf8 (esc :: buffer.take (stop + 1))
  let _ ← parseSgrMouse sequence
  pure (stop + 1)

/-- The bytes after a discarded tail, when it ends within the first `inspected` bytes : at
a final byte (dropped too) or before a byte that cannot be part of it. -/
def scanTail (skip final : UInt8 → Bool) : ℕ → Bytes → Option Bytes
  | inspected + 1, b :: rest =>
    if skip b then scanTail skip final inspected rest
    else if final b then some rest
    else some (b :: rest)
  | _, _ => none

/-- Drain a tail : whether it ended, what is left of the buffer, and how many bytes were
discarded so far. -/
def discardTail (skip final : UInt8 → Bool) (buffer : Bytes) (discardedTailBytes : ℕ) :
    Bool × Bytes × ℕ :=
  let remaining := maxDiscardedControlTailBytes - discardedTailBytes
  let inspected := min buffer.length remaining
  match scanTail skip final inspected buffer with
  | some rest => (true, rest, discardedTailBytes)
  | none =>
    (maxDiscardedControlTailBytes ≤ discardedTailBytes + inspected, buffer.drop inspected,
      discardedTailBytes + inspected)

def discardOrphanedSgrMouseTail : Bytes → ℕ → Bool × Bytes × ℕ :=
  discardTail isParameterByte fun b => b == 0x4d || b == 0x6d

def discardHostReplyCsiTail : Bytes → ℕ → Bool × Bytes × ℕ :=
  discardTail (fun b => 0x20 ≤ b.toNat && b.toNat ≤ 0x3f)
    fun b => 0x40 ≤ b.toNat && b.toNat ≤ 0x7e

/-! ## The framer -/

structure RawInputByteFramer where
  buffer : Bytes := []
  discardUntil : Option ControlStringFamily := none
  discardedTailBytes : ℕ := 0
  loneEscapeRecentlyFlushed : Bool := false
  hostColorRepliesAwaited : ℕ := 0
  hostCellSizeRepliesAwaited : ℕ := 0
  hostAppearanceReplyAwaited : Bool := false
  heldPendingHostReplyEsc : Bool := false
  hostColorSchemeChangeTracking : Bool := false
  hostAppearanceQueryOnFocus : Bool := false
  splitCoalescedEscape : Bool := false
  /-- A parser panicked : the thread is gone and nothing happens any more. -/
  panicked : Bool := false
  deriving DecidableEq, Repr

namespace RawInputByteFramer

/-- `with_host_input_policy`. The default framer is the one that preserves. -/
def withHostInputPolicy (preserveLegacyDoubledEscapeInput : Bool) : RawInputByteFramer :=
  { splitCoalescedEscape := !preserveLegacyDoubledEscapeInput }

/-- `HOST_COLOR_QUERY_REPLIES` replies are awaited. -/
def hostColorQuerySent (f : RawInputByteFramer) : RawInputByteFramer :=
  { f with hostColorRepliesAwaited := 258, heldPendingHostReplyEsc := false }

def hostAppearanceQuerySent (f : RawInputByteFramer) : RawInputByteFramer :=
  { f with hostAppearanceReplyAwaited := true, heldPendingHostReplyEsc := false }

/-- `HOST_CELL_SIZE_QUERY_REPLIES` replies are awaited. -/
def hostCellSizeQuerySent (f : RawInputByteFramer) : RawInputByteFramer :=
  { f with hostCellSizeRepliesAwaited := 1, heldPendingHostReplyEsc := false }

def enableHostColorSchemeChangeTracking (f : RawInputByteFramer) : RawInputByteFramer :=
  { f with hostColorSchemeChangeTracking := true }

def enableHostAppearanceQueryOnFocus (f : RawInputByteFramer) : RawInputByteFramer :=
  { f with hostAppearanceQueryOnFocus := true }

def awaitingHostReply (f : RawInputByteFramer) : Bool :=
  0 < f.hostColorRepliesAwaited || 0 < f.hostCellSizeRepliesAwaited || f.hostAppearanceReplyAwaited

/-- The bookkeeping of an extracted event. -/
def noteEvent (f : RawInputByteFramer) (event : RawInputEvent) : RawInputByteFramer :=
  let f := match event with
    | .hostDefaultColor _ _ | .hostPaletteColors _ =>
      { f with hostColorRepliesAwaited := f.hostColorRepliesAwaited - 1 }
    | .hostCellSizeReport _ _ =>
      { f with hostCellSizeRepliesAwaited := f.hostCellSizeRepliesAwaited - 1 }
    | .outerFocusGained => if f.hostAppearanceQueryOnFocus then f.hostAppearanceQuerySent else f
    | .hostColorSchemeChanged _ =>
      let f := { f with hostAppearanceReplyAwaited := false }
      if f.hostColorSchemeChangeTracking then f.hostColorQuerySent else f
    | _ => f
  { f with heldPendingHostReplyEsc := false }

/-- The discard is over and `rest` is left. -/
def discarded (f : RawInputByteFramer) (rest : Bytes) : RawInputByteFramer :=
  { f with buffer := rest, discardUntil := none, discardedTailBytes := 0 }

/-- One turn while a tail is discarded. -/
def iterateTail (f : RawInputByteFramer) (tail : Bool × Bytes × ℕ) :
    Iter RawInputByteFramer Bytes :=
  match tail with
  | (true, rest, _) => .next [] (f.discarded rest)
  | (false, rest, count) => .stop { f with buffer := rest, discardedTailBytes := count }

/-- One turn while a control string is discarded. -/
def iterateString (f : RawInputByteFramer) (family : ControlStringFamily) :
    Iter RawInputByteFramer Bytes :=
  match controlStringTerminatorForFamily f.buffer family with
  | none => .stop f
  | some len => .next [] (f.discarded (f.buffer.drop len))

/-- One turn while nothing is discarded. -/
def iterateEvent (f : RawInputByteFramer) : Iter RawInputByteFramer Bytes :=
  if f.splitCoalescedEscape && (ascii "\x1b\x1b").isPrefixOf f.buffer then
    .next [[esc]] { f with buffer := f.buffer.drop 1 }
  else
    match extractOneEvent f.buffer with
    | .error _ => .stop { f with panicked := true }
    | .ok none => .stop f
    | .ok (some (event, consumed)) =>
      .next [f.buffer.take consumed]
        { f.noteEvent event with buffer := f.buffer.drop consumed }

/-- One turn after the check for a flushed escape. -/
def iterateRest (f : RawInputByteFramer) : Iter RawInputByteFramer Bytes :=
  match f.discardUntil with
  | some .orphanedSgrMouseTail =>
    f.iterateTail (discardOrphanedSgrMouseTail f.buffer f.discardedTailBytes)
  | some .hostReplyCsi => f.iterateTail (discardHostReplyCsiTail f.buffer f.discardedTailBytes)
  | some family => f.iterateString family
  | none => f.iterateEvent

/-- The flushed escape no longer matters. -/
def forgetEscape (f : RawInputByteFramer) : RawInputByteFramer :=
  { f with loneEscapeRecentlyFlushed := false }

/-- One turn of the loop of `drain_available_chunks`. -/
def iterate (f : RawInputByteFramer) : Iter RawInputByteFramer Bytes :=
  if f.panicked then .stop f
  else if f.loneEscapeRecentlyFlushed then
    if startsWithIncompleteOrphanedSgrMouseTail f.buffer then .stop f
    else
      match completeOrphanedSgrMouseTailLen f.buffer with
      | some len =>
        .next [] { f with buffer := f.buffer.drop len, loneEscapeRecentlyFlushed := false }
      | none => f.forgetEscape.iterateRest
  else f.iterateRest

/-- Bounds the turns that go on : each consumes a byte, or ends a discard. -/
def size (f : RawInputByteFramer) : ℕ :=
  2 * f.buffer.length + if f.discardUntil.isSome then 1 else 0

/-- The chunks that are complete, and the framer after them. -/
def drainAvailableChunks (f : RawInputByteFramer) : List Bytes × RawInputByteFramer :=
  drain iterate size f

/-- Append bytes to the buffer. -/
def extend (f : RawInputByteFramer) (data : Bytes) : RawInputByteFramer :=
  { f with buffer := f.buffer ++ data }

def push (f : RawInputByteFramer) (data : Bytes) : List Bytes × RawInputByteFramer :=
  (f.extend data).drainAvailableChunks

/-! ## The idle flush -/

end RawInputByteFramer

def plausibleControlStringTail (family : ControlStringFamily) (buffer : Bytes) : Bool :=
  match family with
  | .osc => buffer.all fun b =>
      (0x30 ≤ b.toNat && b.toNat ≤ 0x39) || (ascii ";:/#?._-+rgbRGB\x1b").contains b
  | .stTerminated => buffer.getLast? == some esc
  | .hostReplyCsi | .orphanedSgrMouseTail => false

def startsWithIncompleteDefaultColorResponse (buffer : Bytes) : Bool :=
  controlString buffer == some (.incomplete .osc) &&
    (buffer.take 5 == ascii "\x1b]10;" || buffer.take 5 == ascii "\x1b]11;")

def startsWithIncompleteHostColorSchemeReport (buffer : Bytes) : Bool :=
  (ascii "\x1b[?").isPrefixOf buffer &&
    (buffer.isPrefixOf ghosttyColorSchemeDarkReport ||
      buffer.isPrefixOf ghosttyColorSchemeLightReport) &&
    buffer.length < ghosttyColorSchemeDarkReport.length

def startsWithIncompleteHostCellSizeReport (buffer : Bytes) : Bool :=
  if !(ascii "\x1b[").isPrefixOf buffer then false
  else
    let body := buffer.drop 2
    if body.isEmpty || body.getLast? == some 0x74 then false
    else
      let digits (value : Bytes) := value.all fun b => 0x30 ≤ b.toNat && b.toNat ≤ 0x39
      let params := splitOn 0x3b body
      let height := params[1]?
      let width := params[2]?
      params[0]? == some (ascii "6") && params.length ≤ 3 && height.all digits &&
        width.all digits && !(height.any List.isEmpty && width.isSome)

namespace RawInputByteFramer

/-- Forget the buffer and discard what follows as the rest of a control string. -/
def discardRest (f : RawInputByteFramer) (family : ControlStringFamily) : RawInputByteFramer :=
  { f with discardUntil := some family, discardedTailBytes := 0, buffer := [] }

/-- The flush while a tail is discarded. -/
def flushDiscard (f : RawInputByteFramer) (family : ControlStringFamily) : RawInputByteFramer :=
  match family with
  | .hostReplyCsi => f
  | .orphanedSgrMouseTail => f.discarded []
  | family =>
    let keepSplitSt := f.buffer.getLast? == some esc
    let keepDiscarding := plausibleControlStringTail family f.buffer
    let count := f.discardedTailBytes + f.buffer.length
    if keepDiscarding && count ≤ maxDiscardedControlTailBytes then
      { f with discardedTailBytes := count, buffer := if keepSplitSt then [esc] else [] }
    else f.discarded []

/-- The flush of a buffer that is no host reply and no control string. -/
def flushInput (f : RawInputByteFramer) : List Bytes × RawInputByteFramer :=
  if f.buffer = [esc] then
    if f.awaitingHostReply && !f.heldPendingHostReplyEsc then
      ([], { f with heldPendingHostReplyEsc := true })
    else
      ([f.buffer], { f with
        hostColorRepliesAwaited := 0, hostCellSizeRepliesAwaited := 0,
        hostAppearanceReplyAwaited := false, heldPendingHostReplyEsc := false,
        loneEscapeRecentlyFlushed := true, buffer := [] })
  else if ((decodeUtf8 f.buffer).bind parseTerminalKeySequence).isSome then
    ([f.buffer], { f with loneEscapeRecentlyFlushed := false, buffer := [] })
  else if isIncompleteChar f.buffer then ([], f)
  else if f.buffer.head? = some esc ∧ isIncompleteChar (f.buffer.drop 1) = true then ([], f)
  else ([], { f with loneEscapeRecentlyFlushed := false, buffer := [] })

/-- The flush of a buffer that may be the beginning of a host reply. -/
def flushReply (f : RawInputByteFramer) : List Bytes × RawInputByteFramer :=
  if 0 < f.hostCellSizeRepliesAwaited ∧
      startsWithIncompleteHostCellSizeReport f.buffer = true then
    ([], { f with hostCellSizeRepliesAwaited := 0, heldPendingHostReplyEsc := false }.discardRest
      .hostReplyCsi)
  else if startsWithIncompleteDefaultColorResponse f.buffer then ([], f)
  else if startsWithIncompleteHostColorSchemeReport f.buffer then
    if f.hostAppearanceReplyAwaited && !f.heldPendingHostReplyEsc then
      ([], { f with heldPendingHostReplyEsc := true })
    else
      ([], { f with hostAppearanceReplyAwaited := false, heldPendingHostReplyEsc := false
                    }.discardRest .hostReplyCsi)
  else
    match controlString f.buffer with
    | some (.incomplete family) => ([], f.discardRest family)
    | _ => f.flushInput

/-- The flush of a nonempty buffer when nothing is discarded. -/
def flushPending (f : RawInputByteFramer) : List Bytes × RawInputByteFramer :=
  if f.loneEscapeRecentlyFlushed && (ascii "[<").isPrefixOf f.buffer then
    ([], { f.discardRest .orphanedSgrMouseTail with loneEscapeRecentlyFlushed := false })
  else if startsWithIncompleteSgrMouseSequence f.buffer then
    ([], { f with
      discardedTailBytes := f.buffer.length
      discardUntil := if f.buffer.length ≤ maxDiscardedControlTailBytes then
          some .orphanedSgrMouseTail
        else none
      buffer := [], heldPendingHostReplyEsc := false })
  else if bracketedPasteStart.isPrefixOf f.buffer &&
      (findSubsequence bracketedPasteEnd f.buffer).isNone then ([], f)
  else if (f.hostAppearanceReplyAwaited || 0 < f.hostCellSizeRepliesAwaited) &&
      f.buffer == ascii "\x1b[" then
    if !f.heldPendingHostReplyEsc then ([], { f with heldPendingHostReplyEsc := true })
    else
      flushReply { f with
        hostAppearanceReplyAwaited := false, hostCellSizeRepliesAwaited := 0,
        heldPendingHostReplyEsc := false }
  else f.flushReply

/-- `flush_timeout` : the chunks that were complete, and what the timeout decides. -/
def flushTimeout (f : RawInputByteFramer) : List Bytes × RawInputByteFramer :=
  let (chunks, f) := f.drainAvailableChunks
  if f.panicked then (chunks, f)
  else
    match f.discardUntil with
    | some family => (chunks, f.flushDiscard family)
    | none =>
      if f.buffer.isEmpty then (chunks, f)
      else (chunks ++ f.flushPending.1, f.flushPending.2)

end RawInputByteFramer

end Zynk
