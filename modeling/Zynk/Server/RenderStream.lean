import Zynk.Lib.Run
import Zynk.Server.RenderState

/-!
# Streaming to one client

What the server does for one client when it renders : a full render (`render_and_stream`), a patch
of the last frame (`send_retained_frame_to_connection`) and an update of the graphics alone
(`render_retained_graphics_update_and_stream`). Each asks the kitty encoder for the commands that
turn the graphics of the client's terminal, as `graphics_cache` has them, into those to be shown,
and commits the new cache when the message was taken by the render queue.

The encoder is a function of the cache, one for each render. `RenderWatch` keeps the messages that
were taken.
-/

namespace Zynk.Server

open StepRun

structure EncodedGraphics where
  bytes : List UInt8
  incomplete : Bool
  skippedOversized : Bool
  deriving DecidableEq

/-- What rendering needs from outside : `bincode`, the text encoder, and the operations of
`HostGraphicsCache` that do not depend on what is to be shown. -/
structure RenderEnv (κ γ : Type) where
  codec : Codec (ServerMessage κ)
  blit : Blit κ
  defaultCache : γ
  clearBytes : γ → List UInt8 × γ
  clearNext : γ → EncodedGraphics × γ

inductive DeferredRender where
  | none
  | graphics
  | full
  deriving DecidableEq

/-- The fields of `ClientConnection` that rendering uses. -/
structure RenderClient (κ γ : Type) where
  renderState : ClientRenderState κ
  graphicsCache : γ
  graphicsSurfaceResetPending : Bool := false
  renderPending : Bool := false
  paneGraphicsRenderPending : Bool := false

/-- What the render queue makes of a message. -/
inductive SendOutcome where
  | accepted
  | full
  | disconnected
  deriving DecidableEq

/-- A full render for the client. `encodesPanes` : it shows the app, and graphics are enabled and
the size of its cells known. -/
structure FullRender (κ γ : Type) where
  content : κ
  width : ℕ
  height : ℕ
  encodesPanes : Bool
  slotsEmpty : Bool
  encodeLocalPaneGraphics : γ → EncodedGraphics × γ
  writer : Option SendOutcome

/-- An update of the graphics alone. `allowed` : no full redraw is pending, and the app clients have
one size. -/
structure RetainedGraphics (γ : Type) where
  allowed : Bool
  cols : ℕ
  rows : ℕ
  cellSizeKnown : Bool
  encodeLocalPaneGraphics : γ → EncodedGraphics × γ
  writer : Option SendOutcome

namespace RenderClient

variable {κ γ : Type}

def deferredRender (client : RenderClient κ γ) : DeferredRender :=
  if client.renderPending then .full
  else if client.paneGraphicsRenderPending then .graphics
  else .none

def clearDeferredRender (client : RenderClient κ γ) : RenderClient κ γ :=
  { client with renderPending := false, paneGraphicsRenderPending := false }

def deferFullRender (client : RenderClient κ γ) : RenderClient κ γ :=
  { client with renderPending := true, paneGraphicsRenderPending := false }

def deferPaneGraphicsRender (client : RenderClient κ γ) : RenderClient κ γ :=
  if client.renderPending then client else { client with paneGraphicsRenderPending := true }

/-- What is not complete is rendered again. -/
def deferIncomplete (client : RenderClient κ γ) (incomplete : Bool) : RenderClient κ γ :=
  if incomplete then client.deferFullRender else client.clearDeferredRender

/-! ## Full renders -/

/-- The graphics commands of a full render, and the cache after them. -/
def encodeFullRender (env : RenderEnv κ γ) (client : RenderClient κ γ) (render : FullRender κ γ) :
    EncodedGraphics × γ :=
  if render.encodesPanes then
    let (resetGraphics, cache) :=
      if client.graphicsSurfaceResetPending then
        if render.slotsEmpty then env.clearBytes client.graphicsCache else ([], env.defaultCache)
      else ([], client.graphicsCache)
    let (encoded, cache) := render.encodeLocalPaneGraphics cache
    ({ encoded with bytes := resetGraphics ++ encoded.bytes }, cache)
  else if render.slotsEmpty then
    let (bytes, cache) := env.clearBytes client.graphicsCache
    ({ bytes, incomplete := false, skippedOversized := false }, cache)
  else env.clearNext client.graphicsCache

/-- Graphics that are too large for a message are dropped. -/
def dropsGraphics (encoded : EncodedGraphics) : Bool :=
  maxGraphicsFrameSize < encoded.bytes.length

def fullFrame (render : FullRender κ γ) (encoded : EncodedGraphics) : FrameData κ where
  content := render.content
  width := render.width
  height := render.height
  graphics := if dropsGraphics encoded then [] else encoded.bytes

/-- The cache after the commands, if they count as sent. -/
def commitGraphicsCache (client : RenderClient κ γ) (commits : Bool) (next : γ) :
    RenderClient κ γ :=
  if commits then { client with graphicsCache := next, graphicsSurfaceResetPending := false }
  else client

/-- The end of a full render : `try_send`, and what is committed. -/
def sendFullRender (client : RenderClient κ γ) (outcome : SendOutcome)
    (prepared : PreparedRender κ) (commits : Bool) (next : γ) (incomplete : Bool) :
    RenderClient κ γ × Option (PreparedRender κ) :=
  match outcome with
  | .accepted =>
    let client := client.commitGraphicsCache commits next
    let client := { client with renderState := client.renderState.commitSentFrame prepared }
    (client.deferIncomplete incomplete, some prepared)
  | .full => (client.deferFullRender, none)
  | .disconnected => (client, none)

variable [DecidableEq κ]

/-- `render_and_stream` for one client, and the message that the queue took. -/
def fullRender (env : RenderEnv κ γ) (client : RenderClient κ γ) (render : FullRender κ γ) :
    RenderClient κ γ × Option (PreparedRender κ) :=
  let (encoded, next) := client.encodeFullRender env render
  match render.writer with
  | none => (client, none)
  | some outcome =>
    let frame := fullFrame render encoded
    let commits := !dropsGraphics encoded
    let incomplete := encoded.incomplete && !dropsGraphics encoded
    match client.renderState.prepareFrame env.blit frame with
    | none => ((client.commitGraphicsCache commits next).deferIncomplete incomplete, none)
    | some prepared =>
      match frameServerMessageWithMax env.codec prepared.message
          (if frame.graphics = [] then maxFrameSize else maxGraphicsFrameSize) with
      | .ok _ => client.sendFullRender outcome prepared commits next incomplete
      | .error (.oversized _ _) =>
        if frame.graphics = [] then (client, none)
        else
          -- The text goes alone, and the cache stays.
          match prepared.intoFrame with
          | none => (client, none)
          | some frame =>
            match client.renderState.prepareFrame env.blit { frame with graphics := [] } with
            | none => (client.clearDeferredRender, none)
            | some textOnly =>
              match frameServerMessageWithMax env.codec textOnly.message maxFrameSize with
              | .ok _ => client.sendFullRender outcome textOnly false next false
              | .error _ => (client, none)
      | .error _ => (client, none)

/-! ## Retained updates -/

/-- `send_retained_frame_to_connection`. Its callers patch the last frame without its graphics. -/
def sendRetainedFrame (env : RenderEnv κ γ) (client : RenderClient κ γ) (frame : FrameData κ)
    (writer : Option SendOutcome) : RenderClient κ γ × Option (PreparedRender κ) :=
  match writer with
  | none => (client, none)
  | some outcome =>
    match client.renderState.prepareFrame env.blit { frame with graphics := [] } with
    | none => (client.clearDeferredRender, none)
    | some prepared =>
      match frameServerMessageWithMax env.codec prepared.message maxFrameSize with
      | .error _ => (client, none)
      | .ok _ =>
        match outcome with
        | .accepted =>
          let client := client.clearDeferredRender
          let renderState := client.renderState.commitSentFrame prepared
          ({ client with renderState }, some prepared)
        | .full => (client.deferFullRender, none)
        | .disconnected => (client, none)

/-- `frame_pane_graphics_for_client` : the cursor is saved and restored around the commands. -/
def framePaneGraphicsForClient (bytes : List UInt8) : SplicedBytes :=
  if bytes = [] then { before := [], graphics := [], after := [] }
  else { before := [0x1b, 0x37], graphics := bytes, after := [0x1b, 0x38] }

/-- Nothing keeps the client from an update of the graphics alone. -/
def takesRetainedGraphics (client : RenderClient κ γ) (render : RetainedGraphics γ) : Bool :=
  render.allowed && client.deferredRender == .none && !client.graphicsSurfaceResetPending &&
    render.cellSizeKnown && render.writer.isSome &&
    client.renderState.lastFrame.any fun frame =>
      frame.width == render.cols && frame.height == render.rows

/-- `render_retained_graphics_update_and_stream` for one client, and the message that the queue
took. -/
def retainedGraphics (env : RenderEnv κ γ) (client : RenderClient κ γ)
    (render : RetainedGraphics γ) : RenderClient κ γ × Option SplicedBytes :=
  if !client.takesRetainedGraphics render then (client, none)
  else
    let (encoded, next) := render.encodeLocalPaneGraphics client.graphicsCache
    let commits := !encoded.skippedOversized || encoded.bytes != []
    let committed := if commits then { client with graphicsCache := next } else client
    if encoded.bytes = [] then (committed.deferIncomplete encoded.incomplete, none)
    else
      let bytes := framePaneGraphicsForClient encoded.bytes
      match frameServerMessageWithMax env.codec (.graphics bytes) maxGraphicsFrameSize with
      | .error _ => (client, none)
      | .ok _ =>
        match render.writer with
        | some .accepted => (committed.deferIncomplete encoded.incomplete, some bytes)
        | some .full => (client.deferPaneGraphicsRender, none)
        | some .disconnected | none => (client, none)

end RenderClient

/-! ## Runs -/

inductive RenderEvent (κ γ : Type) where
  | fullRender (render : FullRender κ γ)
  | retainedFrame (frame : FrameData κ) (writer : Option SendOutcome)
  | retainedGraphics (render : RetainedGraphics γ)
  | resetBaseline
  | requestRepaint
  | requestSemanticRedrawAfterInput
  | takeDeferredRender

/-- A message that the render queue took. -/
inductive Accepted (κ : Type) where
  | rendered (prepared : PreparedRender κ)
  | graphics (bytes : SplicedBytes)

namespace Accepted

variable {κ : Type}

def message : Accepted κ → ServerMessage κ
  | .rendered prepared => prepared.message
  | .graphics bytes => .graphics bytes

/-- The frame of a frame message. -/
def frame : Accepted κ → Option (FrameData κ)
  | .rendered prepared => prepared.intoFrame
  | .graphics _ => none

end Accepted

/-- A client and the messages that were taken for it. -/
structure RenderWatch (κ γ : Type) where
  client : RenderClient κ γ
  accepted : List (Accepted κ) := []

namespace RenderWatch

variable {κ γ : Type} [DecidableEq κ] (env : RenderEnv κ γ)

/-- A new client. -/
def start (encoding : RenderEncoding) (cache : γ) : RenderWatch κ γ :=
  { client := { renderState := .new encoding, graphicsCache := cache } }

def step (w : RenderWatch κ γ) : RenderEvent κ γ → RenderWatch κ γ
  | .fullRender render =>
    let (client, sent) := w.client.fullRender env render
    { client, accepted := w.accepted ++ (sent.map .rendered).toList }
  | .retainedFrame frame writer =>
    let (client, sent) := w.client.sendRetainedFrame env frame writer
    { client, accepted := w.accepted ++ (sent.map .rendered).toList }
  | .retainedGraphics render =>
    let (client, sent) := w.client.retainedGraphics env render
    { client, accepted := w.accepted ++ (sent.map .graphics).toList }
  | .resetBaseline =>
    { w with client := { w.client with renderState := w.client.renderState.resetBaseline } }
  | .requestRepaint =>
    { w with client := { w.client with renderState := w.client.renderState.requestRepaint } }
  | .requestSemanticRedrawAfterInput =>
    { w with
      client := { w.client with renderState := w.client.renderState.resetSemanticInputBaseline } }
  | .takeDeferredRender => { w with client := w.client.clearDeferredRender }

end RenderWatch

end Zynk.Server
