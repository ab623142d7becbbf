import Mathlib.Data.Finset.Basic
import Mathlib.Data.List.MinMax
import Zynk.Lib.Assoc

/-!
# Clients and the terminals they are attached to

The part of `HeadlessServer` in `server/headless.rs` that says which client may write to which
terminal : the clients with their modes, `terminal_attach_owners`, the resize locks of the attached
terminals and the foreground client.

A terminal is named by the text of its id. What the application does with an input it is given is
carried by the event : whether the batch is an interaction, which terminals come and go while it is
handled, and whether it asks to detach. An id that was given to a terminal once is not given to
another one.
-/

namespace Zynk

open Assoc

/-! ## Clients -/

inductive ClientConnectionMode where
  | app
  | terminalPending
  | terminalAttach (terminalId : String)
  | terminalObserve (terminalId : String)
  deriving DecidableEq, Repr

namespace ClientConnectionMode

def allowsWriteMessages : ClientConnectionMode → Bool
  | .app | .terminalAttach _ => true
  | .terminalPending | .terminalObserve _ => false

end ClientConnectionMode

structure HostCellSize where
  widthPx : ℕ := 0
  heightPx : ℕ := 0
  deriving DecidableEq, Repr

def HostCellSize.isKnown (c : HostCellSize) : Bool :=
  0 < c.widthPx && 0 < c.heightPx

/-- `writer` is the channel of the client's writer thread, `some false` when the thread is gone. -/
structure ClientConnection where
  mode : ClientConnectionMode
  terminalSize : ℕ × ℕ
  cellSize : HostCellSize
  lastActivity : ℕ
  hostSgrPixelsActive : Option Bool := none
  writer : Option Bool := some true
  deriving DecidableEq, Repr

namespace ClientConnection

def isFullAppClient (c : ClientConnection) : Bool :=
  c.mode == .app

/-- A new size, and a new cell size when it is known. -/
def resized (c : ClientConnection) (size : ℕ × ℕ) (observed : HostCellSize) : ClientConnection :=
  { c with
    terminalSize := size
    cellSize := if observed.isKnown then observed else c.cellSize }

end ClientConnection

/-- `latest_app_client` : of the clients of the application the one with the last activity. -/
def latestAppClient (clients : Assoc ℕ ClientConnection) : Option ℕ :=
  ((clients.entries.filter fun e => e.2.isFullAppClient).argmax fun e => e.2.lastActivity).map
    (·.1)

/-! ## The server -/

structure HeadlessServer where
  clients : Assoc ℕ ClientConnection := ∅
  terminalAttachOwners : Assoc String ℕ := ∅
  directAttachResizeLocks : Finset String := ∅
  /-- The terminals that exist, those with a runtime, and every id that was ever given. -/
  terminals : Finset String := ∅
  terminalRuntimes : Finset String := ∅
  known : Finset String := ∅
  pendingAltScreenReads : List String := []
  foregroundClientId : Option ℕ := none
  nextActivityStamp : ℕ := 0
  handoffInProgress : Bool := false
  shouldQuit : Bool := false
  /-- The input of terminal clients that reached a terminal : the client and the terminal. -/
  received : List (ℕ × String) := []

/-- What happens to the terminals while the application works. The popup's terminal is closed with
its lock. -/
inductive TerminalChange where
  | opened (terminalId : String)
  | closed (terminalId : String)
  | popupClosed (terminalId : String)
  | runtimeStarted (terminalId : String)
  | runtimeStopped (terminalId : String)
  | readsPending (terminalIds : List String)
  deriving DecidableEq, Repr

/-- What the application makes of a batch of input events. -/
structure Routed where
  interaction : Bool := false
  changes : List TerminalChange := []
  detachRequested : Bool := false
  deriving DecidableEq, Repr

inductive ServerEvent where
  | clientConnected (clientId : ℕ) (size : ℕ × ℕ) (cellSize : HostCellSize)
      (directAttachRequested : Bool)
  | clientAttachTerminal (clientId : ℕ) (terminalId : String) (takeover : Bool)
  /-- `resolved` is what the target names, when it is not the id of a terminal itself. -/
  | clientObserveTerminal (clientId : ℕ) (target : String) (resolved : Option String)
  | clientControlTerminal (clientId : ℕ) (target : String) (resolved : Option String)
      (takeover : Bool)
  | clientAttachScroll (clientId : ℕ)
  | clientInput (clientId : ℕ) (routed : Routed)
  | clientInputPixels (clientId : ℕ) (valid : Bool) (routed : Routed)
  | clientRawInputPending (clientId : ℕ)
  | clientInputEvents (clientId : ℕ) (routed : Routed)
  | clientPasteRejected (clientId : ℕ) (structured : Bool)
  | clientClipboardImage (clientId : ℕ) (routed : Routed)
  | clientResize (clientId : ℕ) (size : ℕ × ℕ) (cellSize : HostCellSize)
  | graphicsTransmission (clientId : ℕ)
  | clientDetach (clientId : ℕ)
  | clientDisconnected (clientId : ℕ)
  | clientWriterDrained (clientId : ℕ)
  | quitSignal
  deriving DecidableEq, Repr

namespace HeadlessServer

/-- The mode of a connected client. -/
def modeOf (s : HeadlessServer) (clientId : ℕ) : Option ClientConnectionMode :=
  (s.clients.lookup clientId).map ClientConnection.mode

/-! ## The foreground -/

def allocateActivityStamp (s : HeadlessServer) : ℕ × HeadlessServer :=
  (s.nextActivityStamp, { s with nextActivityStamp := s.nextActivityStamp + 1 })

/-- `sync_foreground_client_state` : a foreground client that is gone is forgotten. -/
def syncForegroundClientState (s : HeadlessServer) : HeadlessServer :=
  match s.foregroundClientId with
  | none => s
  | some clientId =>
    if (s.clients.lookup clientId).isSome then s else { s with foregroundClientId := none }

def promoteClientToForeground (s : HeadlessServer) (clientId : ℕ) : HeadlessServer :=
  let (stamp, s) := s.allocateActivityStamp
  match s.clients.lookup clientId with
  | none => s
  | some client =>
    { s with
      clients := s.clients.insert clientId { client with lastActivity := stamp }
      foregroundClientId := some clientId }.syncForegroundClientState

def promoteLatestRemainingClient (s : HeadlessServer) : HeadlessServer :=
  { s with foregroundClientId := latestAppClient s.clients }.syncForegroundClientState

/-! ## Leaving -/

/-- The terminal of a client that was attached is free, and its lock is gone when it still
exists. -/
def releaseTerminal (s : HeadlessServer) : ClientConnectionMode → HeadlessServer
  | .terminalAttach terminalId =>
    { s with
      terminalAttachOwners := s.terminalAttachOwners.erase terminalId
      directAttachResizeLocks :=
        if terminalId ∈ s.terminals then s.directAttachResizeLocks.erase terminalId
        else s.directAttachResizeLocks }
  | _ => s

/-- The client is no longer connected. -/
def dropClient (s : HeadlessServer) (clientId : ℕ) : HeadlessServer :=
  match s.clients.lookup clientId with
  | none => s
  | some removed => { s with clients := s.clients.erase clientId }.releaseTerminal removed.mode

/-- `remove_client` and `remove_client_and_resize_if_needed`. -/
def removeClient (s : HeadlessServer) (clientId : ℕ) : HeadlessServer :=
  if s.foregroundClientId = some clientId then (s.dropClient clientId).promoteLatestRemainingClient
  else s.dropClient clientId

/-- `send_to_client` : a client whose writer is gone is removed. -/
def sendToClient (s : HeadlessServer) (clientId : ℕ) : HeadlessServer :=
  match s.clients.lookup clientId with
  | none => s
  | some client => if client.writer = some false then s.removeClient clientId else s

/-- A shutdown message, and the client is removed. -/
def shutdownClient (s : HeadlessServer) (clientId : ℕ) : HeadlessServer :=
  (s.sendToClient clientId).removeClient clientId

/-- The clients that are attached to the terminal or observe it. -/
def terminalStreamClientIds (s : HeadlessServer) (terminalId : String) : List ℕ :=
  (s.clients.entries.filter fun e =>
    e.2.mode == .terminalAttach terminalId || e.2.mode == .terminalObserve terminalId).map (·.1)

/-- `shutdown_terminal_stream_clients`, when a terminal has exited. -/
def shutdownTerminalStreamClients (s : HeadlessServer) (terminalId : String) : HeadlessServer :=
  (s.terminalStreamClientIds terminalId).foldl shutdownClient s

def disconnectAllClientsForHandoff (s : HeadlessServer) : HeadlessServer :=
  let s := (s.clients.entries.map (·.1)).foldl shutdownClient s
  { s with foregroundClientId := none }.syncForegroundClientState

/-! ## Attaching -/

def clientIsPendingTerminalMode (s : HeadlessServer) (clientId : ℕ) : Bool :=
  s.modeOf clientId == some .terminalPending

/-- The client takes a mode of its own, and leaves the foreground if it was there. -/
def setMode (s : HeadlessServer) (clientId : ℕ) (mode : ClientConnectionMode) : HeadlessServer :=
  let (stamp, s) := s.allocateActivityStamp
  match s.clients.lookup clientId with
  | none => s
  | some client =>
    let s := { s with
      clients := s.clients.insert clientId { client with mode := mode, lastActivity := stamp } }
    if s.foregroundClientId = some clientId then s.promoteLatestRemainingClient else s

/-- The client becomes the owner of the terminal. -/
def takeTerminal (s : HeadlessServer) (clientId : ℕ) (terminalId : String) : HeadlessServer :=
  if (s.clients.lookup clientId).isNone then s.allocateActivityStamp.2
  else
    let s := s.setMode clientId (.terminalAttach terminalId)
    { s with
      terminalAttachOwners := s.terminalAttachOwners.insert terminalId clientId
      directAttachResizeLocks := insert terminalId s.directAttachResizeLocks }

def attachTerminalClient (s : HeadlessServer) (clientId : ℕ) (terminalId : String)
    (takeover : Bool) : HeadlessServer :=
  if !s.clientIsPendingTerminalMode clientId then s.shutdownClient clientId
  else if terminalId ∉ s.terminals then s.shutdownClient clientId
  else if terminalId ∈ s.pendingAltScreenReads then s.shutdownClient clientId
  else
    match s.terminalAttachOwners.lookup terminalId with
    | some existingOwner =>
      if existingOwner ≠ clientId ∧ takeover = false then s.shutdownClient clientId
      else if existingOwner ≠ clientId then
        (s.shutdownClient existingOwner).takeTerminal clientId terminalId
      else s.takeTerminal clientId terminalId
    | none => s.takeTerminal clientId terminalId

/-- The server after the refusals, and the id of the target when there was none. -/
def resolveTerminalSessionTarget (s : HeadlessServer) (clientId : ℕ) (target : String)
    (resolved : Option String) : Option String × HeadlessServer :=
  if !s.clientIsPendingTerminalMode clientId then (none, s.shutdownClient clientId)
  else if target ∈ s.terminals then (some target, s)
  else
    match resolved with
    | some terminalId => (some terminalId, s)
    | none => (none, s.shutdownClient clientId)

def observeTerminalClient (s : HeadlessServer) (clientId : ℕ) (target : String)
    (resolved : Option String) : HeadlessServer :=
  match s.resolveTerminalSessionTarget clientId target resolved with
  | (none, s) => s
  | (some terminalId, s) => s.setMode clientId (.terminalObserve terminalId)

def controlTerminalClient (s : HeadlessServer) (clientId : ℕ) (target : String)
    (resolved : Option String) (takeover : Bool) : HeadlessServer :=
  match s.resolveTerminalSessionTarget clientId target resolved with
  | (none, s) => s
  | (some terminalId, s) => s.attachTerminalClient clientId terminalId takeover

/-! ## Input -/

def applyChange (s : HeadlessServer) : TerminalChange → HeadlessServer
  | .opened terminalId =>
    if terminalId ∈ s.known then s
    else
      { s with
        terminals := insert terminalId s.terminals
        known := insert terminalId s.known }
  | .closed terminalId => { s with terminals := s.terminals.erase terminalId }
  | .popupClosed terminalId =>
    { s with
      directAttachResizeLocks := s.directAttachResizeLocks.erase terminalId
      terminals := s.terminals.erase terminalId }
  | .runtimeStarted terminalId =>
    { s with terminalRuntimes := insert terminalId s.terminalRuntimes }
  | .runtimeStopped terminalId =>
    { s with terminalRuntimes := s.terminalRuntimes.erase terminalId }
  | .readsPending terminalIds => { s with pendingAltScreenReads := terminalIds }

/-- The application handles the events of a client. -/
def route (s : HeadlessServer) (changes : List TerminalChange) : HeadlessServer :=
  changes.foldl applyChange s

/-- The input reaches the terminal when it exists and has a runtime. -/
def deliver (s : HeadlessServer) (clientId : ℕ) (terminalId : String) : HeadlessServer :=
  if terminalId ∈ s.terminals ∧ terminalId ∈ s.terminalRuntimes then
    { s with received := s.received ++ [(clientId, terminalId)] }
  else s

/-- The terminal the client is attached to. -/
def attachedTerminal (s : HeadlessServer) (clientId : ℕ) : Option String :=
  match s.modeOf clientId with
  | some (.terminalAttach terminalId) => some terminalId
  | _ => none

/-- A field of a client changes that no one's authority depends on. -/
def updateClient (s : HeadlessServer) (clientId : ℕ) (f : ClientConnection → ClientConnection) :
    HeadlessServer :=
  match s.clients.lookup clientId with
  | none => s
  | some client => { s with clients := s.clients.insert clientId (f client) }

def handleClientInputEvents (s : HeadlessServer) (clientId : ℕ) (routed : Routed) :
    HeadlessServer :=
  let s := if routed.interaction then s.promoteClientToForeground clientId else s
  let s := (s.route routed.changes).syncForegroundClientState
  if routed.detachRequested then
    (s.sendToClient clientId).updateClient clientId fun client => { client with writer := none }
  else s

/-- Whether the structured input of the client goes on, and the server after a refusal. -/
def admitStructuredClientInput (s : HeadlessServer) (clientId : ℕ) : Bool × HeadlessServer :=
  match s.modeOf clientId with
  | some .app => (true, s)
  | some (.terminalAttach _) => (false, s.shutdownClient clientId)
  | some .terminalPending | some (.terminalObserve _) | none => (false, s)

/-- The client of an event that a client without a target must not send. -/
def pendingRefused : ServerEvent → Option ℕ
  | .clientInput clientId _ | .clientInputPixels clientId _ _ | .clientRawInputPending clientId
  | .clientInputEvents clientId _ | .clientPasteRejected clientId _
  | .clientClipboardImage clientId _ | .clientResize clientId _ _
  | .graphicsTransmission clientId => some clientId
  | _ => none

/-- `admit_pending_terminal_event`. -/
def admitPendingTerminalEvent (s : HeadlessServer) (event : ServerEvent) :
    Bool × HeadlessServer :=
  match pendingRefused event with
  | none => (true, s)
  | some clientId =>
    if s.clientIsPendingTerminalMode clientId then (false, s.shutdownClient clientId)
    else (true, s)

def ignoreClientEventDuringHandoff : ServerEvent → Bool
  | .clientConnected _ _ _ _ | .clientDisconnected _ | .clientWriterDrained _ | .quitSignal => false
  | _ => true

def connectClient (s : HeadlessServer) (clientId : ℕ) (size : ℕ × ℕ) (cellSize : HostCellSize)
    (directAttachRequested : Bool) : HeadlessServer :=
  if s.handoffInProgress then s
  else
    let (stamp, s) := s.allocateActivityStamp
    let mode := if directAttachRequested then .terminalPending else .app
    { s with
      clients := s.clients.insert clientId
        { mode := mode, terminalSize := size, cellSize := cellSize, lastActivity := stamp }
      foregroundClientId :=
        if directAttachRequested then s.foregroundClientId else some clientId
      }.syncForegroundClientState

/-- A new size of the client. A client of the application becomes the foreground. -/
def resizeClient (s : HeadlessServer) (clientId : ℕ) (size : ℕ × ℕ) (cellSize : HostCellSize) :
    HeadlessServer :=
  let mode := s.modeOf clientId
  let s := s.updateClient clientId fun client => client.resized size cellSize
  match mode with
  | some (.terminalAttach _) | some (.terminalObserve _) => s
  | some .app | some .terminalPending | none => s.promoteClientToForeground clientId

/-- An image path is pasted to the terminal of the client, or to the application. -/
def pasteClientClipboardImagePath (s : HeadlessServer) (clientId : ℕ) (routed : Routed) :
    HeadlessServer :=
  match s.attachedTerminal clientId with
  | some terminalId => s.deliver clientId terminalId
  | none => (s.promoteClientToForeground clientId).route routed.changes

/-- The events after the checks for a stop, for a client without a target and for a handoff. -/
def handleAdmittedEvent (s : HeadlessServer) : ServerEvent → HeadlessServer
  | .clientConnected clientId size cellSize directAttachRequested =>
    s.connectClient clientId size cellSize directAttachRequested
  | .clientAttachTerminal clientId terminalId takeover =>
    s.attachTerminalClient clientId terminalId takeover
  | .clientObserveTerminal clientId target resolved =>
    s.observeTerminalClient clientId target resolved
  | .clientControlTerminal clientId target resolved takeover =>
    s.controlTerminalClient clientId target resolved takeover
  | .clientAttachScroll clientId =>
    match s.attachedTerminal clientId with
    | some terminalId => s.deliver clientId terminalId
    | none => s
  | .clientInput clientId routed =>
    match s.attachedTerminal clientId with
    | some terminalId => s.deliver clientId terminalId
    | none =>
      if (s.modeOf clientId).any ClientConnectionMode.allowsWriteMessages then
        s.handleClientInputEvents clientId routed
      else s
  | .clientInputPixels clientId valid routed =>
    if valid && (s.clients.lookup clientId).any fun client =>
        client.isFullAppClient && client.hostSgrPixelsActive == some true then
      (s.promoteClientToForeground clientId).route routed.changes
    else s
  | .clientInputEvents clientId routed =>
    match s.admitStructuredClientInput clientId with
    | (true, s) => s.handleClientInputEvents clientId routed
    | (false, s) => s
  | .clientPasteRejected clientId structured =>
    if structured then
      match s.admitStructuredClientInput clientId with
      | (true, s) => s.sendToClient clientId
      | (false, s) => s
    else s.sendToClient clientId
  | .clientClipboardImage clientId routed =>
    if (s.modeOf clientId).any ClientConnectionMode.allowsWriteMessages then
      s.pasteClientClipboardImagePath clientId routed
    else s
  | .clientResize clientId size cellSize => s.resizeClient clientId size cellSize
  | .clientDetach clientId =>
    match s.modeOf clientId with
    | some (.terminalAttach _) | some (.terminalObserve _) => s.shutdownClient clientId
    | _ => s.removeClient clientId
  | .clientDisconnected clientId => s.removeClient clientId
  | .clientRawInputPending _ | .graphicsTransmission _ | .clientWriterDrained _ | .quitSignal => s

def handleServerEvent (s : HeadlessServer) (event : ServerEvent) : HeadlessServer :=
  if s.shouldQuit then s
  else
    match s.admitPendingTerminalEvent event with
    | (false, s) => s
    | (true, s) =>
      if s.handoffInProgress && ignoreClientEventDuringHandoff event then s
      else s.handleAdmittedEvent event

/-! ## The system -/

/-- A server without clients, and with the terminals that were there before. -/
def start (terminals terminalRuntimes : Finset String) : HeadlessServer :=
  { terminals := terminals, terminalRuntimes := terminalRuntimes, known := terminals }

/-- What happens to the server : an event of a client, something in the application or in the
world around it, or a part of a handoff. -/
inductive Step where
  | event (event : ServerEvent)
  | changed (change : TerminalChange)
  | writerGone (clientId : ℕ)
  | pixelsActive (clientId : ℕ) (active : Bool)
  | terminalExited (terminalId : String)
  | handoff (inProgress : Bool)
  | quit
  deriving DecidableEq, Repr

def step (s : HeadlessServer) : Step → HeadlessServer
  | .event event => s.handleServerEvent event
  | .changed change => s.applyChange change
  | .writerGone clientId =>
    s.updateClient clientId fun c => { c with writer := c.writer.map fun _ => false }
  | .pixelsActive clientId active =>
    s.updateClient clientId fun c => { c with hostSgrPixelsActive := some active }
  | .terminalExited terminalId => s.shutdownTerminalStreamClients terminalId
  | .handoff true => { s with handoffInProgress := true }.disconnectAllClientsForHandoff
  | .handoff false => { s with handoffInProgress := false }
  | .quit => { s with shouldQuit := true }

end HeadlessServer

end Zynk
