import Zynk.Lib.Assoc
import Zynk.Lib.Run
import Zynk.Lib.Text

/-!
# Pane graphics

`app/pane_graphics.rs` and `app/api/pane_graphics.rs` : the images that programs show over their
panes. A layer of a pane has a slot, which holds the id of its image at the host, its image, and the
stream that owns it if there is one. Requests set and clear a layer, or open, feed and close a
stream.

A stream shares a flag with its connection, which says that it is active. The flag of a stream is a
number; `down` are those that were lowered. The connection lowers it when it ends, and the drop of a
slot lowers the flag of its stream. Every connection makes a flag of its own, so a request reads a
flag at most once, and a flag that is lowered during a request is one that is lowered before or
after it. The one exception is a direct frame, which looks at its stream twice.

Parsed pane ids, frame files and the decoder of `data_base64` are inputs. Left out are the gate of a
direct delivery, which these requests only reset, the fingerprints and the redraw requests, and the
delivery itself, so that no image becomes resident at the host.
-/

namespace Zynk.Pane.Graphics

open Text

/-! ## Slots -/

abbrev Key := ℕ × String

inductive PaneGraphicsFormat where
  | png
  | rgb
  | rgba
  | bgra
  deriving DecidableEq, Repr

structure PaneGraphicsPlacementParams where
  viewportCol : ℤ
  viewportRow : ℤ
  gridCols : ℕ
  gridRows : ℕ
  deriving DecidableEq, Repr

inductive Backing where
  | inline (data : Bytes)
  | direct (path : String) (len : ℕ)
  deriving DecidableEq, Repr

structure Layer where
  format : PaneGraphicsFormat
  imageWidth : ℕ
  imageHeight : ℕ
  backing : Backing
  render : PaneGraphicsPlacementParams
  zIndex : ℤ
  deriving DecidableEq, Repr

structure Slot where
  hostImageId : ℕ
  layer : Option Layer
  streamOwner : Option String
  streamActive : Option ℕ
  deriving DecidableEq, Repr

structure Runtime where
  slots : Assoc Key Slot := ∅
  revision : ℕ := 0
  nextHostImageId : ℕ := 2 ^ 31

def maxLayersPerPane : ℕ := 16

def maxLayersTotal : ℕ := 64

def maxInlineBytesTotal : ℕ := 64 * 1024 * 1024

def primaryLayerId : String := "primary"

def Layer.inlineLen (layer : Layer) : ℕ :=
  match layer.backing with
  | .inline data => data.length
  | .direct _ _ => 0

/-- The inline bytes of a slot. -/
def Slot.inlineLen (slot : Slot) : ℕ :=
  (slot.layer.map Layer.inlineLen).getD 0

namespace Runtime

def markChanged (self : Runtime) : Runtime :=
  { self with revision := (self.revision + 1) % 2 ^ 64 }

/-- The loop of `reserve_image_id`, with the turns that are left. -/
def reserveLoop : ℕ → Runtime → Option ℕ × Runtime
  | 0, self => (none, self)
  | turns + 1, self =>
    let id := self.nextHostImageId ||| 2 ^ 31
    let self := { self with nextHostImageId := (id + 1) % 2 ^ 32 ||| 2 ^ 31 }
    if self.slots.entries.all fun entry => entry.2.hostImageId ≠ id then (some id, self)
    else reserveLoop turns self

def reserveImageId (self : Runtime) (key : Key) : Option ℕ × Runtime :=
  match self.slots.lookup key with
  | some slot => (some slot.hostImageId, self)
  | none => reserveLoop (self.slots.entries.length + 1) self

def slotCount (self : Runtime) : ℕ :=
  Assoc.total (fun _ _ => 1) self.slots

def layerCount (self : Runtime) (paneId : ℕ) : ℕ :=
  Assoc.total (fun key _ => if key.1 = paneId then 1 else 0) self.slots

def inlineBytes (self : Runtime) : ℕ :=
  Assoc.total (fun _ slot => slot.inlineLen) self.slots

def canAddSlot (self : Runtime) (key : Key) : Bool :=
  (self.slots.lookup key).isSome || self.slotCount < maxLayersTotal

def canStoreInline (self : Runtime) (key : Key) (len : ℕ) : Bool :=
  let replaced := ((self.slots.lookup key).map Slot.inlineLen).getD 0
  self.inlineBytes - replaced + len ≤ maxInlineBytesTotal

end Runtime

/-! ## The state of the requests -/

structure App where
  paneGraphics : Runtime := {}
  /-- The panes that exist. -/
  panes : List ℕ := []
  kittyGraphicsEnabled : Bool
  directGraphicsAvailable : Bool
  /-- The flags that were made : those below this number. -/
  flags : ℕ := 0
  /-- The flags that were lowered. -/
  down : List ℕ := []

namespace App

def streamIsActive (self : App) (slot : Slot) : Bool :=
  match slot.streamActive with
  | some flag => flag ∉ self.down
  | none => false

def slot? (self : App) (key : Key) : Option Slot :=
  self.paneGraphics.slots.lookup key

/-- Store `false` in the flags. -/
def lower (self : App) (flags : List ℕ) : App :=
  { self with down := flags ++ self.down }

/-- The drop of a slot. -/
def dropSlot (self : App) (slot : Option Slot) : App :=
  self.lower (slot.bind (·.streamActive)).toList

/-- `slots.remove`, and the drop of what was removed. -/
def remove (self : App) (key : Key) : App :=
  { self with
    paneGraphics := { self.paneGraphics with slots := self.paneGraphics.slots.erase key } }.dropSlot
      (self.slot? key)

/-- `slots.insert`, without a drop. -/
def insert (self : App) (key : Key) (slot : Slot) : App :=
  { self with
    paneGraphics :=
      { self.paneGraphics with slots := self.paneGraphics.slots.insert key slot } }

/-- `slots.retain`, and the drop of what was not kept. -/
def retain (self : App) (keep : Key → Slot → Bool) : App :=
  let dropped := self.paneGraphics.slots.entries.filter fun entry => !keep entry.1 entry.2
  let slots := self.paneGraphics.slots.filterWithKey keep
  { self with paneGraphics := { self.paneGraphics with slots } : App }.lower
    (dropped.filterMap fun (entry : Sigma fun _ : Key => Slot) => entry.2.streamActive)

def markChanged (self : App) : App :=
  { self with paneGraphics := self.paneGraphics.markChanged }

end App

/-! ## Requests -/

structure GraphicsError where
  code : String
  message : String
  deriving DecidableEq, Repr

inductive GraphicsReply where
  | ok
  | frameAck (sequence revision : ℕ)
  deriving DecidableEq, Repr

structure PaneGraphicsSetParams where
  paneId : String
  layerId : Option String
  zIndex : ℤ
  owner : String
  format : PaneGraphicsFormat
  imageWidth : ℕ
  imageHeight : ℕ
  data : Option Bytes
  dataBase64 : Bytes
  placement : PaneGraphicsPlacementParams

structure PaneGraphicsClearParams where
  paneId : String
  layerId : Option String

structure PaneGraphicsStreamParams where
  paneId : String
  layerId : Option String
  owner : String

structure PaneGraphicsDirectParams where
  paneId : String
  layerId : Option String
  zIndex : ℤ
  owner : String
  imageWidth : ℕ
  imageHeight : ℕ
  format : PaneGraphicsFormat
  path : String
  sequence : ℕ
  revision : ℕ
  placement : PaneGraphicsPlacementParams

/-- What the file system says to `FileStore::lease` and to `Lease::copy_rgba`. -/
structure FrameFile where
  leaseError : Option String
  identityError : Option String
  contents : Except String Bytes
  metadataError : Option String

inductive DecodeSliceError where
  | outputSliceTooSmall
  | decodeError
  deriving DecidableEq, Repr

def setMaxBytes : ℕ := 512 * 1024

def streamMaxBytes : ℕ := 16 * 1024 * 1024

def directFileMaxBytes : ℕ := 400 * 1024 * 1024

def featureDisabled : GraphicsError :=
  ⟨"feature_disabled", "pane graphics require experimental.kitty_graphics"⟩

def paneNotFound (paneId : String) : GraphicsError :=
  ⟨"pane_not_found", "pane " ++ paneId ++ " not found"⟩

def streamConflict : GraphicsError :=
  ⟨"stream_conflict", "pane graphics layer has an active stream"⟩

def streamClosed : GraphicsError :=
  ⟨"stream_closed", "pane graphics stream is not active"⟩

def layerLimit : GraphicsError :=
  ⟨"layer_limit", "pane graphics layer limit reached"⟩

def imageIdsExhausted : GraphicsError :=
  ⟨"layer_limit", "pane graphics image ids are exhausted"⟩

def budgetExceeded : GraphicsError :=
  ⟨"graphics_budget_exceeded", "pane graphics inline memory limit reached"⟩

def invalidImage (message : String) : GraphicsError :=
  ⟨"invalid_image", message⟩

def imageTooLarge : GraphicsError :=
  ⟨"image_too_large", "image data is too large"⟩

/-- An early return with the error. -/
def check (condition : Bool) (error : GraphicsError) : Except GraphicsError Unit :=
  if condition then .ok () else .error error

def graphicsKey (paneId : ℕ) (layerId : Option String) : Except String Key :=
  let layerId := layerId.getD primaryLayerId
  if layerId.isEmpty || 64 < layerId.utf8ByteSize then
    .error "layer_id must contain between 1 and 64 characters"
  else if !layerId.toList.all fun c =>
      c.isAlphanum || c == '.' || c == '_' || c == ':' || c == '-' then
    .error "layer_id contains unsupported characters"
  else .ok (paneId, layerId)

/-- The key of the layer : its pane is the one the pane id was parsed to. -/
def layerKey (pane : Option ℕ) (paneId : String) (layerId : Option String) :
    Except GraphicsError Key :=
  match pane with
  | none => .error (paneNotFound paneId)
  | some pane =>
    match graphicsKey pane layerId with
    | .ok key => .ok key
    | .error message => .error ⟨"invalid_layer_id", message⟩

/-- The number of bytes of an image, if it has a fixed one and it fits. -/
def expectedLen (format : PaneGraphicsFormat) (width height : ℕ) : Except Unit (Option ℕ) :=
  let sized (bytes : ℕ) : Except Unit (Option ℕ) :=
    if width * height * bytes < 2 ^ 64 then .ok (some (width * height * bytes)) else .error ()
  match format with
  | .png => .ok none
  | .rgb => sized 3
  | .rgba | .bgra => sized 4

/-- The first and the third byte of every pixel change places. -/
def swapPixels : Bytes → Bytes
  | b :: g :: r :: a :: rest => r :: g :: b :: a :: swapPixels rest
  | rest => rest

def canonicalizeBgra (format : PaneGraphicsFormat) (data : Bytes) : PaneGraphicsFormat × Bytes :=
  match format with
  | .bgra => (.rgba, swapPixels data)
  | format => (format, data)

def FrameFile.lease (file : FrameFile) : Except String Unit :=
  match file.leaseError with
  | some error => .error error
  | none => .ok ()

def FrameFile.copyRgba (file : FrameFile) (len : ℕ) : Except String Bytes :=
  match file.identityError with
  | some error => .error error
  | none =>
    match file.contents with
    | .error error => .error error
    | .ok contents =>
      if contents.length < len then .error "failed to fill whole buffer"
      else if len < contents.length then .error "frame length changed while leased"
      else
        match file.metadataError with
        | some error => .error error
        | none => .ok contents

section

-- `STANDARD.decode_slice` into a buffer of the given size.
variable (decodeSlice : Bytes → ℕ → Except DecodeSliceError Bytes)

def decodePublicImage (encoded : Bytes) : Except GraphicsError Bytes :=
  if (setMaxBytes + 2) / 3 * 4 < encoded.length then .error imageTooLarge
  else
    let capacity := min ((encoded.length + 3) / 4 * 3) setMaxBytes
    match decodeSlice encoded capacity with
    | .ok data => .ok data
    | .error .outputSliceTooSmall => .error imageTooLarge
    | .error .decodeError => .error (invalidImage "data_base64 is not valid base64")

/-- The data of a stream, or those of a request. -/
def layerData (params : PaneGraphicsSetParams) : Except GraphicsError Bytes :=
  match params.data with
  | some data => .ok data
  | none => decodePublicImage decodeSlice params.dataBase64

/-- The checks of `set_layer` : the format and the data of the image. -/
def layerImage (self : Runtime) (key : Key) (params : PaneGraphicsSetParams) :
    Except GraphicsError (PaneGraphicsFormat × Bytes) := do
  check (self.canAddSlot key &&
    ((self.slots.lookup key).isSome || self.layerCount key.1 < maxLayersPerPane)) layerLimit
  check (params.imageWidth ≠ 0 && params.imageHeight ≠ 0)
    (invalidImage "image_width and image_height must be greater than zero")
  let expected ← (expectedLen params.format params.imageWidth params.imageHeight).mapError
    fun () => invalidImage "image dimensions are too large"
  let data ← layerData decodeSlice params
  let limit := if params.data.isSome then streamMaxBytes else setMaxBytes
  check (!data.isEmpty) (invalidImage "image data must not be empty")
  check (data.length ≤ limit) imageTooLarge
  check (expected.all (· == data.length))
    (invalidImage "image data does not match the frame contract")
  let (format, data) := canonicalizeBgra params.format data
  check (self.canStoreInline key data.length) budgetExceeded
  pure (format, data)

namespace App

def setLayer (self : App) (key : Key) (params : PaneGraphicsSetParams) :
    Except GraphicsError GraphicsReply × App :=
  match layerImage decodeSlice self.paneGraphics key params with
  | .error error => (.error error, self)
  | .ok (format, data) =>
    let (hostImageId, paneGraphics) := self.paneGraphics.reserveImageId key
    let self := { self with paneGraphics }
    match hostImageId with
    | none => (.error imageIdsExhausted, self)
    | some hostImageId =>
      -- The stream is taken from the slot before the slot is dropped.
      let slot : Slot :=
        { hostImageId
          layer := some
            { format
              imageWidth := params.imageWidth
              imageHeight := params.imageHeight
              backing := .inline data
              render := params.placement
              zIndex := params.zIndex }
          streamOwner := (self.slot? key).bind (·.streamOwner)
          streamActive := (self.slot? key).bind (·.streamActive) }
      (.ok .ok, (self.insert key slot).markChanged)

def reclaimInactiveStream (self : App) (key : Key) : App :=
  if (self.slot? key).any fun slot => slot.streamOwner.isSome && !self.streamIsActive slot then
    (self.remove key).markChanged
  else self

/-- The layer has a stream. -/
def hasStream (self : App) (key : Key) : Bool :=
  (self.slot? key).any (·.streamOwner.isSome)

def handlePaneGraphicsSet (self : App) (pane : Option ℕ) (params : PaneGraphicsSetParams) :
    Except GraphicsError GraphicsReply × App :=
  if !self.kittyGraphicsEnabled then (.error featureDisabled, self)
  else
    match layerKey pane params.paneId params.layerId with
    | .error error => (.error error, self)
    | .ok key =>
      let self := self.reclaimInactiveStream key
      if self.hasStream key then (.error streamConflict, self)
      else self.setLayer decodeSlice key params

def handlePaneGraphicsStreamSet (self : App) (pane : Option ℕ) (params : PaneGraphicsSetParams) :
    Except GraphicsError GraphicsReply × App :=
  if !self.kittyGraphicsEnabled then (.error featureDisabled, self)
  else
    match layerKey pane params.paneId params.layerId with
    | .error error => (.error error, self)
    | .ok key =>
      match self.slot? key with
      | none => (.error streamClosed, self)
      | some slot =>
        if slot.streamOwner == some params.owner && self.streamIsActive slot then
          self.setLayer decodeSlice key params
        else if slot.streamOwner == some params.owner then (.error streamClosed, self)
        else
          (.error ⟨"stream_conflict", "pane graphics stream owner does not match active stream"⟩,
            self)

end App

end

namespace App

def handlePaneGraphicsClear (self : App) (pane : Option ℕ) (params : PaneGraphicsClearParams) :
    Except GraphicsError GraphicsReply × App :=
  if !self.kittyGraphicsEnabled then (.error featureDisabled, self)
  else
    match layerKey pane params.paneId params.layerId with
    | .error error => (.error error, self)
    | .ok key =>
      let self := self.reclaimInactiveStream key
      if self.hasStream key then (.error streamConflict, self)
      else if (self.slot? key).isSome then (.ok .ok, (self.remove key).markChanged)
      else (.ok .ok, self)

/-- A connection makes a flag, which is down already if it has ended. -/
def newFlag (self : App) (ended : Bool) : App :=
  { self with flags := self.flags + 1 : App }.lower (if ended then [self.flags] else [])

/-- The layer gets a slot for the stream. -/
def openStream (self : App) (key : Key) (owner : String) (active : ℕ) :
    Except GraphicsError GraphicsReply × App :=
  let self := self.reclaimInactiveStream key
  if self.hasStream key then (.error streamConflict, self)
  else if !self.paneGraphics.canAddSlot key || ((self.slot? key).isNone &&
      maxLayersPerPane ≤ self.paneGraphics.layerCount key.1) then (.error layerLimit, self)
  else
    let (hostImageId, paneGraphics) := self.paneGraphics.reserveImageId key
    let replaced := self.slot? key
    let self := { self with paneGraphics }
    match hostImageId with
    | none => (.error imageIdsExhausted, self)
    | some hostImageId =>
      let slot : Slot :=
        { hostImageId, layer := none, streamOwner := some owner, streamActive := some active }
      (.ok .ok, ((self.insert key slot).dropSlot replaced).markChanged)

def handlePaneGraphicsStreamOpen (self : App) (pane : Option ℕ) (params : PaneGraphicsStreamParams)
    (ended : Bool) : Except GraphicsError GraphicsReply × App :=
  let active := self.flags
  let self := self.newFlag ended
  if !self.kittyGraphicsEnabled then (.error featureDisabled, self)
  else if ended then (.error streamClosed, self)
  else if params.owner.isEmpty then
    (.error ⟨"invalid_stream", "pane graphics stream owner is required"⟩, self)
  else
    match layerKey pane params.paneId params.layerId with
    | .error error => (.error error, self)
    | .ok key => self.openStream key params.owner active

def handlePaneGraphicsStreamClose (self : App) (pane : Option ℕ)
    (params : PaneGraphicsStreamParams) : Except GraphicsError GraphicsReply × App :=
  match pane with
  | none => (.error (paneNotFound params.paneId), self)
  | some pane =>
    match graphicsKey pane params.layerId with
    | .error _ => (.ok .ok, self)
    | .ok key =>
      if (self.slot? key).any fun slot => slot.streamOwner == some params.owner then
        (.ok .ok, (self.remove key).markChanged)
      else (.ok .ok, self)

def directLen (params : PaneGraphicsDirectParams) (maxBytes : ℕ) : Except GraphicsError ℕ :=
  match expectedLen params.format params.imageWidth params.imageHeight with
  | .ok (some len) =>
    if len ≤ maxBytes then .ok len else .error (invalidImage "invalid direct RGBA dimensions")
  | _ => .error (invalidImage "invalid direct RGBA dimensions")

/-- The file itself, or a copy of what is in it. -/
def directBacking (direct : Bool) (params : PaneGraphicsDirectParams) (file : FrameFile)
    (len : ℕ) : Except GraphicsError Backing :=
  if direct then .ok (.direct params.path len)
  else
    match file.copyRgba len with
    | .error error => .error ⟨"invalid_frame_file", error⟩
    | .ok data => .ok (.inline (canonicalizeBgra params.format data).2)

/-- The checks of a direct frame : its layer. -/
def directLayer (self : App) (key : Key) (params : PaneGraphicsDirectParams) (file : FrameFile) :
    Except GraphicsError Layer := do
  check ((self.slot? key).any fun slot =>
    slot.streamOwner == some params.owner && self.streamIsActive slot) streamClosed
  check (params.imageWidth ≠ 0 && params.imageHeight ≠ 0)
    (invalidImage "image_width and image_height must be greater than zero")
  check (params.format = .rgba || params.format = .bgra)
    (invalidImage "direct frames require rgba or bgra")
  let direct := self.directGraphicsAvailable && key.2 == primaryLayerId && params.format = .rgba
  let maxBytes := if direct then directFileMaxBytes else streamMaxBytes
  let expectedLen ← directLen params maxBytes
  file.lease.mapError fun error => ⟨"invalid_frame_file", error⟩
  check (direct || self.paneGraphics.canStoreInline key expectedLen) budgetExceeded
  let backing ← directBacking direct params file expectedLen
  pure
    { format := .rgba
      imageWidth := params.imageWidth
      imageHeight := params.imageHeight
      backing
      render := params.placement
      zIndex := params.zIndex }

/-- The stream is looked at again behind the checks; in between its connection may have ended. -/
def handlePaneGraphicsStreamDirect (self : App) (pane : Option ℕ)
    (params : PaneGraphicsDirectParams) (file : FrameFile) (ended : Bool) :
    Except GraphicsError GraphicsReply × App :=
  if !self.kittyGraphicsEnabled then (.error featureDisabled, self)
  else
    match layerKey pane params.paneId params.layerId with
    | .error error => (.error error, self)
    | .ok key =>
      match self.directLayer key params file with
      | .error error => (.error error, self)
      | .ok layer =>
        match self.slot? key with
        | none => (.error streamClosed, self)
        | some slot =>
          let self := self.lower (if ended then slot.streamActive.toList else [])
          if !self.streamIsActive slot then (.error streamClosed, self)
          else
            (.ok (.frameAck params.sequence params.revision),
              (self.insert key { slot with layer := some layer }).markChanged)

/-- `retain_live_panes`. -/
def retainLivePanes (self : App) : Bool × App :=
  if self.paneGraphics.slotCount = 0 then (false, self)
  else
    let next := self.retain fun key _ => key.1 ∈ self.panes
    if next.paneGraphics.slotCount = self.paneGraphics.slotCount then (false, next)
    else (true, next.markChanged)

def syncPaneGraphicsStreams (self : App) : Bool × App :=
  let (changed, self) := self.retainLivePanes
  let next := self.retain fun _ slot =>
    self.kittyGraphicsEnabled && (slot.streamOwner.isNone || self.streamIsActive slot)
  if next.paneGraphics.slotCount ≠ self.paneGraphics.slotCount then (true, next.markChanged)
  else (changed, next)

/-- The feature is switched by a new configuration. -/
def setEnabled (self : App) (enabled : Bool) : App :=
  let next := { self with kittyGraphicsEnabled := enabled }
  if self.kittyGraphicsEnabled && !enabled then
    (next.retain fun _ _ => false).markChanged
  else next

end App

/-! ## Runs -/

inductive GraphicsEvent where
  | set (pane : Option ℕ) (params : PaneGraphicsSetParams)
  | clear (pane : Option ℕ) (params : PaneGraphicsClearParams)
  | streamOpen (pane : Option ℕ) (params : PaneGraphicsStreamParams) (ended : Bool)
  | streamSet (pane : Option ℕ) (params : PaneGraphicsSetParams)
  | streamDirect (pane : Option ℕ) (params : PaneGraphicsDirectParams) (file : FrameFile)
      (ended : Bool)
  | streamClose (pane : Option ℕ) (params : PaneGraphicsStreamParams)
  | retainLivePanes
  | syncPaneGraphicsStreams
  | setEnabled (enabled : Bool)
  | setDirectGraphicsAvailable (available : Bool)
  /-- A connection ends, and lowers the flag of its stream. -/
  | streamEnded (flag : ℕ)
  /-- Panes are made and closed. -/
  | setPanes (panes : List ℕ)

/-- What a request is answered, and the state behind an event. -/
def handle (decodeSlice : Bytes → ℕ → Except DecodeSliceError Bytes) (self : App) :
    GraphicsEvent → Option (Except GraphicsError GraphicsReply) × App
  | .set pane params => (self.handlePaneGraphicsSet decodeSlice pane params).map some id
  | .clear pane params => (self.handlePaneGraphicsClear pane params).map some id
  | .streamOpen pane params ended =>
    (self.handlePaneGraphicsStreamOpen pane params ended).map some id
  | .streamSet pane params => (self.handlePaneGraphicsStreamSet decodeSlice pane params).map some id
  | .streamDirect pane params file ended =>
    (self.handlePaneGraphicsStreamDirect pane params file ended).map some id
  | .streamClose pane params => (self.handlePaneGraphicsStreamClose pane params).map some id
  | .retainLivePanes => (none, self.retainLivePanes.2)
  | .syncPaneGraphicsStreams => (none, self.syncPaneGraphicsStreams.2)
  | .setEnabled enabled => (none, self.setEnabled enabled)
  | .setDirectGraphicsAvailable available =>
    (none, { self with directGraphicsAvailable := available })
  | .streamEnded flag => (none, if flag < self.flags then self.lower [flag] else self)
  | .setPanes panes => (none, { self with panes })

def step (decodeSlice : Bytes → ℕ → Except DecodeSliceError Bytes) (self : App)
    (event : GraphicsEvent) : App :=
  (handle decodeSlice self event).2

end Zynk.Pane.Graphics
