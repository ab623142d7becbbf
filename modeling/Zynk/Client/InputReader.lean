import Zynk.Client.DirectGraphics
import Zynk.Input.Order

/-!
# The reader of the standard input

`unix_input_reader_loop` of `client/input.rs`. The bytes read go through the filter of graphics
replies, then through the framer, and the chunks it returns are sent to the main loop. The matcher
is shared with the main loop, which arms it, starts, cancels, retires and expires it.

A step of the system is an operation of the main loop on the matcher, an idle timeout while the
filter holds something, or a read with what follows it. The history fields record what was read,
what the filter made of it, which chunks were handed on to be sent and which images were armed.
-/

namespace Zynk

open Text

structure HostGeometry where
  cols : ℕ
  rows : ℕ
  widthPx : ℕ
  heightPx : ℕ
  deriving DecidableEq, Repr

/-- What the reader sends to the main loop. -/
inductive ClientLoopEvent where
  | stdinInput (data : Bytes)
  | pixelMouse (data : Bytes) (geometry : HostGeometry)
  | directGraphicsResponse (response : Response)
  deriving DecidableEq, Repr

/-- The bytes of the input that are sent with an event. -/
def ClientLoopEvent.bytes : ClientLoopEvent → Bytes
  | .stdinInput data => data
  | .pixelMouse data _ => data
  | .directGraphicsResponse _ => []

/-- `parse_number` of the mouse reports. -/
def parseNumber (value : Bytes) : Option ℕ :=
  if value.isEmpty || !value.all (fun b => 0x30 ≤ b.toNat && b.toNat ≤ 0x39) then none
  else (decodeUtf8 value).bind parseU32

/-- `parse_report` : the coordinates of an SGR mouse report. -/
def parseReport (data : Bytes) : Option (ℕ × ℕ) :=
  if !(ascii "\x1b[<").isPrefixOf data then none
  else
    let body := data.drop 3
    if body.getLast? != some 0x4d && body.getLast? != some 0x6d then none
    else
      match splitOn 0x3b body.dropLast with
      | [buttons, x, y] => do
        let _ ← parseNumber buttons
        pure (← parseNumber x, ← parseNumber y)
      | _ => none

/-- The chunk is a palette reply. The framer has parsed it before, so that the parser does not
panic. -/
def isPaletteResponse (data : Bytes) : Bool :=
  match (decodeUtf8 data).map parsePaletteColorResponse with
  | some (.ok (some _)) => true
  | _ => false

def isDefaultColorResponse (data : Bytes) : Bool :=
  match (decodeUtf8 data).map parseDefaultColorResponse with
  | some (.ok (some _)) => true
  | _ => false

def classifyUnixInput (data : Bytes) (sgrPixels : Bool) (geometry : Option HostGeometry) :
    Option ClientLoopEvent :=
  if sgrPixels && (parseReport data).isSome then geometry.map (.pixelMouse data)
  else some (.stdinInput data)

/-! ## Sending -/

/-- What was sent to the main loop, and the palette replies that wait to be sent together. -/
structure Outbox where
  sent : List ClientLoopEvent := []
  pendingPalette : List Bytes := []
  deriving DecidableEq, Repr

namespace Outbox

def send (o : Outbox) (event : ClientLoopEvent) : Outbox :=
  { o with sent := o.sent ++ [event] }

def flushUnixPaletteInput (o : Outbox) : Outbox :=
  if o.pendingPalette.isEmpty then o
  else { o with pendingPalette := [] }.send (.stdinInput o.pendingPalette.flatten)

/-- One chunk of `send_unix_input_chunks`. -/
def sendChunk (o : Outbox) (sgrPixels : Bool) (geometry : Option HostGeometry) (data : Bytes) :
    Outbox :=
  if isPaletteResponse data then
    let o := { o with pendingPalette := o.pendingPalette ++ [data] }
    if o.pendingPalette.length = 256 then o.flushUnixPaletteInput else o
  else
    let o := if isDefaultColorResponse data then o else o.flushUnixPaletteInput
    match classifyUnixInput data sgrPixels geometry with
    | some event => o.send event
    | none => o

def sendUnixInputChunks (o : Outbox) (chunks : List Bytes) (sgrPixels : Bool)
    (geometry : Option HostGeometry) : Outbox :=
  chunks.foldl (fun o chunk => o.sendChunk sgrPixels geometry chunk) o

end Outbox

/-! ## The reader -/

/-- What happened so far. `chunks` are the chunks that left the framer, and the bytes that were
released past it, in the order they were handed on to be sent. -/
structure InputHistory where
  read : Bytes := []
  pieces : List Piece := []
  chunks : List Bytes := []
  armed : List ℕ := []
  deriving DecidableEq, Repr

structure InputReader where
  framer : RawInputByteFramer
  outbox : Outbox := {}
  pendingMode : Option Bool := none
  lastGeometry : Option HostGeometry := none
  directFilter : InputFilter := {}
  directResponse : ResponseMatcher := {}
  history : InputHistory := {}
  deriving DecidableEq, Repr

/-- An operation of the main loop on the matcher. -/
inductive MatcherOp where
  | arm (now transferId imageId : ℕ)
  | start (transferId now : ℕ)
  | cancel (transferId : ℕ)
  | retire (transferId now : ℕ)
  | expire (now : ℕ)
  deriving DecidableEq, Repr

/-- What a read meets : the operations of the main loop between the look at `active` and the lock
of the matcher, the clock of the matcher's calls, whether the host reports pixels and its size, and
whether nothing more came before the timeout, before and after a held escape. -/
structure Reading where
  between : List MatcherOp := []
  clock : ℕ → ℕ := fun _ => 0
  hostSgrPixelsActive : Bool := false
  geometry : Option HostGeometry := none
  idle : Bool := false
  hostSgrPixelsLater : Bool := false
  idleAgain : Bool := false

inductive InputStep where
  | matcher (op : MatcherOp)
  | idle (now : ℕ)
  | read (data : Bytes) (reading : Reading)

namespace InputReader

/-- `for_host_input`, and the queries that were sent before the loop. -/
def start (preserveLegacyDoubledEscapeInput hostColorQuerySent hostCellSizeQuerySent : Bool) :
    InputReader :=
  let framer := RawInputByteFramer.withHostInputPolicy preserveLegacyDoubledEscapeInput
  let framer :=
    if hostColorQuerySent then
      framer.hostColorQuerySent.enableHostColorSchemeChangeTracking.enableHostAppearanceQueryOnFocus
    else framer
  { framer := if hostCellSizeQuerySent then framer.hostCellSizeQuerySent else framer }

def matcherOp (r : InputReader) : MatcherOp → InputReader
  | .arm now transferId imageId =>
    let result := r.directResponse.arm now transferId imageId
    { r with
      directResponse := result.2
      history := { r.history with
        armed := r.history.armed ++ if result.1 then [imageId] else [] } }
  | .start transferId now =>
    { r with directResponse := r.directResponse.startAt transferId now }
  | .cancel transferId => { r with directResponse := r.directResponse.cancel transferId }
  | .retire transferId now => { r with directResponse := r.directResponse.retire transferId now }
  | .expire now => { r with directResponse := r.directResponse.expireAt now }

/-- Chunks are handed on to be sent. -/
def sendChunks (r : InputReader) (chunks : List Bytes) (sgrPixels : Bool) : InputReader :=
  { r with
    outbox := r.outbox.sendUnixInputChunks chunks sgrPixels r.lastGeometry
    history := { r.history with chunks := r.history.chunks ++ chunks } }

/-- The mode is forgotten once the framer holds nothing. -/
def forgetMode (r : InputReader) : InputReader :=
  if r.framer.buffer.isEmpty then { r with pendingMode := none } else r

/-- The idle timeout at the top of the loop : what the filter holds goes to the main loop. -/
def idleTimeout (r : InputReader) (now : ℕ) : InputReader :=
  let result := r.directFilter.flushIfInactive r.directResponse now
  let r := { r with directFilter := result.2.1, directResponse := result.2.2 }
  match result.1 with
  | none => r
  | some data =>
    { r with
      outbox := r.outbox.send (.stdinInput data)
      history := { r.history with
        pieces := r.history.pieces ++ [.output data]
        chunks := r.history.chunks ++ [data] } }

/-- The filter has made `pieces` of `data`. -/
def filtered (r : InputReader) (data : Bytes) (pieces : List Piece) (filter : InputFilter)
    (matcher : ResponseMatcher) : InputReader :=
  { r with
    directFilter := filter, directResponse := matcher
    history := { r.history with
      read := r.history.read ++ data
      pieces := r.history.pieces ++ pieces } }

/-- `filter_direct_input` : the pieces of the stream, all of it when the filter is passed by.
The outputs go on to the framer, the responses to the main loop. -/
def filterDirectInput (r : InputReader) (data : Bytes) (reading : Reading) :
    List Piece × InputReader :=
  let active := r.directResponse.active
  let r := reading.between.foldl matcherOp r
  if !active && r.directFilter.pending.isEmpty then
    ([.output data], r.filtered data [.output data] r.directFilter r.directResponse)
  else
    let result := r.directFilter.push data r.directResponse reading.clock
    (result.1, r.filtered data result.1 result.2.1 result.2.2)

/-- The framer takes the outputs one after the other. -/
def pushAll : RawInputByteFramer → List Bytes → List Bytes × RawInputByteFramer
  | framer, [] => ([], framer)
  | framer, chunk :: chunks =>
    let first := framer.push chunk
    let rest := pushAll first.2 chunks
    (first.1 ++ rest.1, rest.2)

/-- The flush of the framer. A panic of a parser ends the thread before anything is sent. -/
def flushFramer (r : InputReader) (sgrPixels : Bool) : List Bytes × InputReader :=
  let flushed := r.framer.flushTimeout
  let r := { r with framer := flushed.2 }
  if r.framer.panicked then (flushed.1, r)
  else (flushed.1, r.forgetMode.sendChunks flushed.1 sgrPixels)

/-- The idle timeout after a read. -/
def afterRead (r : InputReader) (reading : Reading) : InputReader :=
  if !reading.idle then r
  else
    let hadPending := !r.framer.buffer.isEmpty
    let sgrPixels := r.pendingMode.getD reading.hostSgrPixelsLater
    let flushed := r.flushFramer sgrPixels
    let r := flushed.2
    if r.framer.panicked then r
    else
      let r := { r with outbox := r.outbox.flushUnixPaletteInput }
      let heldEscape := hadPending && flushed.1.isEmpty
      if heldEscape && reading.idleAgain then (r.flushFramer sgrPixels).2 else r

/-- The mode at the first byte that the framer holds is kept. -/
def noteMode (r : InputReader) (sgrPixels : Bool) (geometry : Option HostGeometry) : InputReader :=
  { r with
    pendingMode := some sgrPixels
    lastGeometry := if sgrPixels then geometry.or r.lastGeometry else r.lastGeometry }

/-- The responses are sent, the outputs are framed. -/
def frame (r : InputReader) (pieces : List Piece) : List Bytes × InputReader :=
  let responses := pieces.filterMap Piece.response?
  let pushed := pushAll r.framer (pieces.filterMap Piece.output?)
  (pushed.1, { r with
    framer := pushed.2
    outbox :=
      responses.foldl (fun o response => o.send (.directGraphicsResponse response)) r.outbox })

/-- A read of some bytes and what follows it. -/
def readInput (r : InputReader) (data : Bytes) (reading : Reading) : InputReader :=
  let sgrPixels := r.pendingMode.getD reading.hostSgrPixelsActive
  let filtered := (r.noteMode sgrPixels reading.geometry).filterDirectInput data reading
  let framed := filtered.2.frame filtered.1
  if framed.2.framer.panicked then framed.2
  else (framed.2.forgetMode.sendChunks framed.1 sgrPixels).afterRead reading

/-- One step. After a panic the thread of the reader is gone, and a read of no bytes ends its
loop. -/
def step (r : InputReader) : InputStep → InputReader
  | .matcher op => r.matcherOp op
  | .idle now => if r.framer.panicked then r else r.idleTimeout now
  | .read data reading =>
    if r.framer.panicked || data.isEmpty then r else r.readInput data reading

end InputReader

end Zynk
