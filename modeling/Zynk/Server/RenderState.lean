import Zynk.Protocol.Framing

/-!
# Render messages

What the server makes of a frame for one client (`server/render_stream.rs`) : the frame as it is,
for a semantic client, or the octets that turn the last frame into this one, for a terminal client.
`ClientRenderState` keeps the last frame that was sent. Graphics commands go inside the last
synchronized output of the text octets.

The text octets are what a function `blit` makes of two frames. Nothing here looks at them but for
the place of the graphics. Of a frame, `content` is the cells, the cursor and the hyperlinks.
-/

namespace Zynk.Server

structure FrameData (κ : Type) where
  content : κ
  width : ℕ
  height : ℕ
  graphics : List UInt8
  deriving DecidableEq

/-- Graphics commands and the octets around them. -/
structure SplicedBytes where
  before : List UInt8
  graphics : List UInt8
  after : List UInt8
  deriving DecidableEq

def SplicedBytes.toBytes (bytes : SplicedBytes) : List UInt8 :=
  bytes.before ++ bytes.graphics ++ bytes.after

/-! ## Text octets -/

structure CursorMemory where
  lastVisibleCursor : Option (ℕ × ℕ) := none
  lastCursorShape : ℕ := 0
  deriving DecidableEq

/-- `blit_frame_to_with_cursor_memory_and_clear_policy` : a frame, the one before it, and whether
the screen is cleared first. -/
abbrev Blit (κ : Type) :=
  FrameData κ → Option (FrameData κ) → CursorMemory → Bool → List UInt8 × CursorMemory

structure EncodedBlit where
  bytes : List UInt8
  full : Bool
  nextCursorMemory : CursorMemory
  deriving DecidableEq

structure BlitEncoder (κ : Type) where
  lastFrame : Option (FrameData κ) := none
  cursorMemory : CursorMemory := {}
  deriving DecidableEq

namespace BlitEncoder

variable {κ : Type} (blit : Blit κ)

def encode (encoder : BlitEncoder κ) (frame : FrameData κ) (repaint : Bool) : EncodedBlit :=
  let prev := if repaint then none else encoder.lastFrame
  let full := repaint || prev.isNone ||
    prev.any fun p => p.width != frame.width || p.height != frame.height
  let (bytes, nextCursorMemory) := blit frame prev encoder.cursorMemory encoder.lastFrame.isNone
  { bytes, full, nextCursorMemory }

def commit (frame : FrameData κ) (encoded : EncodedBlit) : BlitEncoder κ :=
  { lastFrame := some frame, cursorMemory := encoded.nextCursorMemory }

end BlitEncoder

/-- `SYNC_OUTPUT_END` : `ESC [ ? 2026 l`. -/
def syncOutputEnd : List UInt8 :=
  [0x1b, 0x5b, 0x3f, 0x32, 0x30, 0x32, 0x36, 0x6c]

/-- Where the last end of synchronized output begins. -/
def finalSyncOutputEnd (bytes : List UInt8) : Option ℕ :=
  (List.range (bytes.length + 1 - syncOutputEnd.length)).reverse.find? fun i =>
    (bytes.drop i).take syncOutputEnd.length == syncOutputEnd

def insertGraphicsBeforeSyncEnd (encoded graphics : List UInt8) : SplicedBytes :=
  if graphics = [] then { before := encoded, graphics := [], after := [] }
  else
    match finalSyncOutputEnd encoded with
    | some syncEnd =>
      { before := encoded.take syncEnd, graphics, after := encoded.drop syncEnd }
    | none => { before := encoded, graphics, after := [] }

@[simp] theorem insertGraphicsBeforeSyncEnd_graphics (encoded graphics : List UInt8) :
    (insertGraphicsBeforeSyncEnd encoded graphics).graphics = graphics := by
  unfold insertGraphicsBeforeSyncEnd
  split
  · rename_i h
    exact h.symm
  · split <;> rfl

/-! ## Messages -/

structure TerminalFrame where
  seq : ℕ
  width : ℕ
  height : ℕ
  full : Bool
  bytes : SplicedBytes
  deriving DecidableEq

/-- The messages of the render queue. -/
inductive ServerMessage (κ : Type) where
  | frame (frame : FrameData κ)
  | terminal (frame : TerminalFrame)
  | graphics (bytes : SplicedBytes)

/-- The graphics commands of a message. -/
def ServerMessage.graphicsBytes {κ : Type} : ServerMessage κ → List UInt8
  | .frame data => data.graphics
  | .terminal data => data.bytes.graphics
  | .graphics bytes => bytes.graphics

def ServerMessage.isTerminal {κ : Type} : ServerMessage κ → Bool
  | .terminal _ => true
  | _ => false

/-- `frame_server_message_with_max`. The writer is a vector, which does not fail. -/
def frameServerMessageWithMax {κ : Type} (codec : Codec (ServerMessage κ)) (msg : ServerMessage κ)
    (maxFrameSize : ℕ) : Except (FramingError Empty) (List UInt8) :=
  match writeMessage codec [] msg with
  | .error e => .error e
  | .ok framed =>
    let payloadLen := framed.length - lengthPrefixBytes
    if payloadLen > maxFrameSize then .error (.oversized payloadLen maxFrameSize) else .ok framed

/-- `MAX_FRAME_SIZE`. -/
def maxFrameSize : ℕ := 2 * 1024 * 1024

/-- `MAX_GRAPHICS_FRAME_SIZE`. -/
def maxGraphicsFrameSize : ℕ := 32 * 1024 * 1024

/-! ## The baseline of a client -/

inductive RenderEncoding where
  | semanticFrame
  | terminalAnsi
  deriving DecidableEq

inductive ClientRenderState (κ : Type) where
  | semantic (lastFrame : Option (FrameData κ))
  | terminalAnsi (blitEncoder : BlitEncoder κ) (seq : ℕ) (repaintPending : Bool)

/-- A message, and what the baseline needs once it is sent. -/
inductive PreparedRender (κ : Type) where
  | semantic (message : ServerMessage κ)
  | terminalAnsi (message : ServerMessage κ) (frame : FrameData κ) (encoded : Option EncodedBlit)

namespace PreparedRender

variable {κ : Type}

def message : PreparedRender κ → ServerMessage κ
  | .semantic message => message
  | .terminalAnsi message _ _ => message

def intoFrame : PreparedRender κ → Option (FrameData κ)
  | .semantic (.frame frame) => some frame
  | .terminalAnsi _ frame _ => some frame
  | _ => none

end PreparedRender

namespace ClientRenderState

variable {κ : Type}

def new : RenderEncoding → ClientRenderState κ
  | .semanticFrame => .semantic none
  | .terminalAnsi => .terminalAnsi {} 0 false

def resetBaseline : ClientRenderState κ → ClientRenderState κ
  | .semantic _ => .semantic none
  | .terminalAnsi _ seq _ => .terminalAnsi {} seq false

def requestRepaint : ClientRenderState κ → ClientRenderState κ
  | .semantic _ => .semantic none
  | .terminalAnsi blitEncoder seq _ => .terminalAnsi blitEncoder seq true

def resetSemanticInputBaseline : ClientRenderState κ → ClientRenderState κ
  | .semantic _ => .semantic none
  | .terminalAnsi blitEncoder seq repaintPending => .terminalAnsi blitEncoder seq repaintPending

def lastFrame : ClientRenderState κ → Option (FrameData κ)
  | .semantic lastFrame => lastFrame
  | .terminalAnsi blitEncoder _ _ => blitEncoder.lastFrame

def terminalSeq : ClientRenderState κ → Option ℕ
  | .semantic _ => none
  | .terminalAnsi _ seq _ => some seq

section

variable [DecidableEq κ]

/-- The client has the frame already, with its graphics commands. -/
def isCurrent (frame : FrameData κ) : ClientRenderState κ → Bool
  | .semantic lastFrame => lastFrame == some frame
  | .terminalAnsi blitEncoder _ repaintPending =>
    !repaintPending && blitEncoder.lastFrame == some frame

/-- Nothing is prepared when the client has the frame already. -/
def prepareFrame (blit : Blit κ) (frame : FrameData κ) :
    ClientRenderState κ → Option (PreparedRender κ)
  | .semantic lastFrame =>
    if isCurrent frame (.semantic lastFrame) then none else some (.semantic (.frame frame))
  | .terminalAnsi blitEncoder seq repaintPending =>
    if isCurrent frame (.terminalAnsi blitEncoder seq repaintPending) then none
    else
      let encoded := blitEncoder.encode blit frame repaintPending
      let bytes := insertGraphicsBeforeSyncEnd encoded.bytes frame.graphics
      some (.terminalAnsi
        (.terminal
          { seq := seq + 1
            width := frame.width
            height := frame.height
            full := encoded.full
            bytes })
        frame (some { encoded with bytes := bytes.toBytes }))

end

def commitSentFrame : ClientRenderState κ → PreparedRender κ → ClientRenderState κ
  | .semantic _, .semantic (.frame frame) => .semantic (some frame)
  | .terminalAnsi _ seq _, .terminalAnsi _ frame (some encoded) =>
    .terminalAnsi (BlitEncoder.commit frame encoded) (seq + 1) false
  | state, _ => state

/-! ## What is prepared and committed -/

variable [DecidableEq κ] {blit : Blit κ} {frame : FrameData κ} {state : ClientRenderState κ}
  {prepared : PreparedRender κ}

theorem prepareFrame_eq_none :
    state.prepareFrame blit frame = none ↔ state.isCurrent frame = true := by
  cases state <;> simp [prepareFrame]

/-- What is prepared carries the frame and its graphics, and becomes the baseline. -/
structure Prepares (state : ClientRenderState κ) (frame : FrameData κ)
    (prepared : PreparedRender κ) : Prop where
  intoFrame : prepared.intoFrame = some frame
  graphics : prepared.message.graphicsBytes = frame.graphics
  isTerminal : prepared.message.isTerminal = state.terminalSeq.isSome
  lastFrame : (state.commitSentFrame prepared).lastFrame = some frame
  terminalSeq : (state.commitSentFrame prepared).terminalSeq = state.terminalSeq.map (· + 1)

theorem prepareFrame_eq_some (h : state.prepareFrame blit frame = some prepared) :
    Prepares state frame prepared := by
  cases state with
  | semantic lastFrame =>
    simp only [prepareFrame, Option.ite_none_left_eq_some, Option.some.injEq] at h
    obtain ⟨-, rfl⟩ := h
    exact ⟨rfl, rfl, rfl, rfl, rfl⟩
  | terminalAnsi blitEncoder seq repaintPending =>
    simp only [prepareFrame, Option.ite_none_left_eq_some, Option.some.injEq] at h
    obtain ⟨-, rfl⟩ := h
    exact ⟨rfl, insertGraphicsBeforeSyncEnd_graphics _ _, rfl, rfl, rfl⟩

end ClientRenderState

end Zynk.Server
