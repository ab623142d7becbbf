import Zynk.Lib.Run
import Zynk.Lib.Text

/-!
# The PTY actor

`pty/actor/unix.rs`. The handle's methods run on any thread : they look at the gate of user writes
under its mutex, and put commands in a bounded data channel, commands in a control channel and
terminal responses in a shared slot. The actor's thread takes these, keeps the pending writes with
an offset into their head, and writes them to the PTY.

A step is what a thread does between two accesses of what is shared, so `step` over a list of
events is an interleaving of any number of writers, one handoff controller and the actor. An event
carries what the step reads from outside : the clock, and the results of `write`, `read` and
`poll`. Times are in milliseconds. `accepted` and `enqueued` are histories that nothing reads : the
user writes whose caller was told `Ok`, and the items that entered the pending writes.

Window sizes and the duplicated descriptor do not touch the bytes and are left out.
-/

namespace Zynk.Pty

open Function

inductive ActorState where
  | running
  | quiesced
  | released
  deriving DecidableEq, Repr

inductive PtyIoDataCommand where
  | writeUserInput (bytes : Bytes)
  | writeUserInputWithDelayedSuffix (immediate delayed : Bytes) (delay : ℕ) (combined : Bytes)
  deriving DecidableEq, Repr

/-- A command names the channel its reply goes to. -/
inductive PtyIoControlCommand where
  | beginHandoff (reply : ℕ)
  | duplicateForHandoff (reply : ℕ)
  | foregroundProcessGroup (reply : ℕ)
  | rollbackHandoff (reply : ℕ)
  | releaseAfterCommit (reply : ℕ)
  | shutdown
  deriving DecidableEq, Repr

/-- The errors an actor replies with. -/
inductive ReplyError where
  | brokenPipe (message : String)
  | timedOut (message : String)
  | other (message : String)
  deriving DecidableEq, Repr

abbrev Reply := Except ReplyError Unit

structure PendingWrite where
  bytes : Bytes
  notBefore : Option ℕ
  deriving DecidableEq, Repr

def PendingWrite.immediate (bytes : Bytes) : PendingWrite :=
  ⟨bytes, none⟩

/-- The time before which it must not be written is over. -/
def PendingWrite.ready (now : ℕ) (pending : PendingWrite) : Bool :=
  pending.notBefore.all (· ≤ now)

/-- What a call of `begin_handoff` or `rollback_handoff` does next. -/
inductive Controller where
  | idle
  /-- `begin_handoff` waits for the reply. -/
  | beginHandoff (reply : ℕ)
  /-- `rollback_handoff` is called. -/
  | callRollback
  /-- `rollback_handoff` waits for the reply. -/
  | rollbackHandoff (reply : ℕ)
  /-- `rollback_handoff` has its reply, and opens the gate. -/
  | openGate
  deriving DecidableEq, Repr

/-- What a call of `write_user_input` does next. -/
inductive Writer where
  | idle
  /-- It waits for a place in the data channel. -/
  | reserve (bytes : Bytes)
  /-- It holds the place. -/
  | send (bytes : Bytes)
  deriving DecidableEq, Repr

/-- Who has called `read_once` : the loop of `run`, or that of `begin_handoff`. -/
inductive Caller where
  | run
  | handoff (reply deadline : ℕ)
  deriving DecidableEq, Repr

/-- Where `flush_pending_writes_once` returns to. -/
inductive FlushReturn where
  | poll
  | nextTurn
  /-- The head of the loop of `begin_handoff`. -/
  | handoffLoop (reply deadline : ℕ)
  /-- Its body, after the flush. -/
  | handoffBody (reply deadline : ℕ)
  deriving DecidableEq, Repr

/-- What the actor does next. -/
inductive Phase where
  | drainControl
  | drainData
  | applyControls
  | checkFlush
  | poll
  | flush (ret : FlushReturn)
  | readOnce (caller : Caller) (writeReady : Bool)
  | takeResponses (caller : Caller) (writeReady : Bool)
  /-- `drain_pre_quiesce_commands`, in `begin_handoff`. -/
  | preQuiesce (reply : ℕ)
  | handoffControls (reply : ℕ)
  | handoffLoop (reply deadline : ℕ)
  | handoffBody (reply deadline : ℕ)
  | exited
  deriving DecidableEq, Repr

def FlushReturn.phase : FlushReturn → Phase
  | .poll => .poll
  | .nextTurn => .drainControl
  | .handoffLoop reply deadline => .handoffLoop reply deadline
  | .handoffBody reply deadline => .handoffBody reply deadline

structure PtyIo where
  accepting : Bool
  /-- The free places of the data channel. -/
  permits : ℕ
  dataQueue : List PtyIoDataCommand
  controlQueue : List PtyIoControlCommand
  /-- The terminal responses of the resize request. -/
  resize : Option (List Bytes)
  terminalResponses : List Bytes
  writers : ℕ → Writer
  controller : Controller
  /-- The reply channels up to here exist. -/
  nextReply : ℕ
  replies : List (ℕ × Reply)
  state : ActorState
  pendingWrites : List PendingWrite
  currentWriteOffset : ℕ
  phase : Phase
  /-- What was written to the PTY. -/
  pty : Bytes
  accepted : List PtyIoDataCommand
  enqueued : List Bytes

def actorCommandBuffer : ℕ := 1024

def handoffDrainTimeout : ℕ := 2000

/-- `PtyIoActor::spawn`. -/
def spawn (initiallyQuiesced : Bool) : PtyIo where
  accepting := !initiallyQuiesced
  permits := actorCommandBuffer
  dataQueue := []
  controlQueue := []
  resize := none
  terminalResponses := []
  writers _ := .idle
  controller := .idle
  nextReply := 0
  replies := []
  state := if initiallyQuiesced then .quiesced else .running
  pendingWrites := []
  currentWriteOffset := 0
  phase := .drainControl
  pty := []
  accepted := []
  enqueued := []

namespace PtyIo

/-! ## The handle -/

/-- A data command enters the channel, and its caller is told `Ok`. -/
def send (command : PtyIoDataCommand) (s : PtyIo) : PtyIo :=
  { s with
    permits := s.permits - 1
    dataQueue := s.dataQueue ++ [command]
    accepted := s.accepted ++ [command] }

inductive TrySendError where
  | full (bytes : Bytes)
  | closed (bytes : Bytes)
  deriving DecidableEq, Repr

/-- `data_tx.try_send` under the gate; `bytes` are given back with an error. -/
def trySend (command : PtyIoDataCommand) (bytes : Bytes) (s : PtyIo) :
    Except TrySendError Unit × PtyIo :=
  if !s.accepting then (.error (.closed bytes), s)
  else if s.phase = .exited then (.error (.closed bytes), s)
  else if s.permits = 0 then (.error (.full bytes), s)
  else (.ok (), s.send command)

def tryWriteUserInput (bytes : Bytes) (s : PtyIo) : Except TrySendError Unit × PtyIo :=
  s.trySend (.writeUserInput bytes) bytes

def tryWriteUserInputWithDelayedSuffix (immediate delayed : Bytes) (delay : ℕ) (s : PtyIo) :
    Except TrySendError Unit × PtyIo :=
  let combined := immediate ++ delayed
  s.trySend (.writeUserInputWithDelayedSuffix immediate delayed delay combined) combined

/-- The call of `write_user_input` by a writer, up to where it waits for a place. -/
def writeUserInput (writer : ℕ) (bytes : Bytes) (s : PtyIo) : PtyIo :=
  if s.writers writer = .idle ∧ s.accepting = true then
    { s with writers := update s.writers writer (.reserve bytes) }
  else s

/-- `write_user_input` goes on : it gets its place, or sends its bytes if the gate is still open.
With an error it gives its place back. -/
def resumeWriter (writer : ℕ) (s : PtyIo) : PtyIo :=
  match s.writers writer with
  | .idle => s
  | .reserve bytes =>
    if s.phase = .exited then { s with writers := update s.writers writer .idle }
    else if s.permits = 0 then s
    else { s with permits := s.permits - 1, writers := update s.writers writer (.send bytes) }
  | .send bytes =>
    let s := { s with permits := s.permits + 1, writers := update s.writers writer .idle }
    if !s.accepting then s else s.send (.writeUserInput bytes)

def writeTerminalResponse (response : Option Bytes) (s : PtyIo) : PtyIo :=
  match response with
  | none => s
  | some bytes =>
    if bytes = [] then s else { s with terminalResponses := s.terminalResponses ++ [bytes] }

def requestResize (terminalResponses : List Bytes) (s : PtyIo) : PtyIo :=
  { s with resize := some terminalResponses }

/-- `control_tx.send` of a command with a new reply channel. -/
def control (command : ℕ → PtyIoControlCommand) (s : PtyIo) : PtyIo :=
  { s with
    controlQueue := s.controlQueue ++ [command s.nextReply]
    nextReply := s.nextReply + 1 }

/-- `begin_handoff`, up to where it waits for the reply : all of this is under the gate's
mutex. -/
def beginHandoff (s : PtyIo) : PtyIo :=
  if s.controller ≠ .idle then s
  else
    let s := { s with accepting := false }
    if s.phase = .exited then { s with accepting := true }
    else { s.control .beginHandoff with controller := .beginHandoff s.nextReply }

/-- `rollback_handoff`, up to where it waits for the reply. -/
def sendRollback (s : PtyIo) : PtyIo :=
  if s.phase = .exited then { s with controller := .idle }
  else { s.control .rollbackHandoff with controller := .rollbackHandoff s.nextReply }

/-- What `recv_timeout` finds : a reply, or that there will be none, because the time is up or
the other end is gone. -/
def recvTimeout (reply : ℕ) (timeUp : Bool) (s : PtyIo) : Option (Option Reply) :=
  match s.replies.lookup reply with
  | some result => some (some result)
  | none => if timeUp || s.phase = .exited then some none else none

/-- The call of `begin_handoff` or `rollback_handoff` goes on. -/
def resumeController (timeUp : Bool) (s : PtyIo) : PtyIo :=
  match s.controller with
  | .idle => s
  | .beginHandoff reply =>
    match s.recvTimeout reply timeUp with
    | none => s
    | some (some (.ok ())) => { s with controller := .idle }
    | some _ => { s with controller := .callRollback }
  | .callRollback => s.sendRollback
  | .rollbackHandoff reply =>
    match s.recvTimeout reply timeUp with
    | none => s
    | some (some (.ok ())) => { s with controller := .openGate }
    | some _ => { s with controller := .idle }
  | .openGate => { s with accepting := true, controller := .idle }

def rollbackHandoff (s : PtyIo) : PtyIo :=
  if s.controller ≠ .idle then s else { s with controller := .callRollback }

def releaseAfterCommit (s : PtyIo) : PtyIo :=
  let s := { s with accepting := false }
  if s.phase = .exited then s else s.control .releaseAfterCommit

def shutdown (s : PtyIo) : PtyIo :=
  let s := { s with accepting := false }
  if s.phase = .exited then s
  else { s with controlQueue := s.controlQueue ++ [.shutdown] }

/-! ## The actor -/

def goto (phase : Phase) (s : PtyIo) : PtyIo :=
  { s with phase }

/-- The loop of `run` ends. The runner is dropped, with what is left in its queues. -/
def leave (s : PtyIo) : PtyIo :=
  { s with
    phase := .exited
    dataQueue := []
    controlQueue := []
    pendingWrites := []
    currentWriteOffset := 0 }

def enqueue (pending : PendingWrite) (s : PtyIo) : PtyIo :=
  { s with
    pendingWrites := s.pendingWrites ++ [pending]
    enqueued := s.enqueued ++ [pending.bytes] }

def enqueueWrite (bytes : Bytes) (s : PtyIo) : PtyIo :=
  if bytes = [] then s else s.enqueue (.immediate bytes)

def enqueueDelayedWrite (now : ℕ) (bytes : Bytes) (delay : ℕ) (s : PtyIo) : PtyIo :=
  if bytes = [] then s else s.enqueue ⟨bytes, some (now + delay)⟩

def pendingWriteReady (now : ℕ) (s : PtyIo) : Bool :=
  s.pendingWrites.head?.any (·.ready now)

def enqueueCommand (now : ℕ) (command : PtyIoDataCommand) (s : PtyIo) : PtyIo :=
  match command with
  | .writeUserInput bytes => s.enqueueWrite bytes
  | .writeUserInputWithDelayedSuffix immediate delayed delay _ =>
    (s.enqueueWrite immediate).enqueueDelayedWrite now delayed delay

def handleDataCommand (now : ℕ) (command : PtyIoDataCommand) (s : PtyIo) : PtyIo :=
  if s.state = .running then s.enqueueCommand now command else s

def enqueueTerminalResponses (terminalResponses : List Bytes) (s : PtyIo) : PtyIo :=
  if s.state = .released then s
  else terminalResponses.foldl (fun s bytes => s.enqueueWrite bytes) s

def applyPendingControls (s : PtyIo) : PtyIo :=
  let resize := s.resize.getD []
  let terminalResponses := s.terminalResponses
  let s := { s with resize := none, terminalResponses := [] }
  if s.state = .released then s
  else (s.enqueueTerminalResponses resize).enqueueTerminalResponses terminalResponses

/-- `data_rx.try_recv` of the head of the channel. -/
def popData (rest : List PtyIoDataCommand) (s : PtyIo) : PtyIo :=
  { s with permits := s.permits + 1, dataQueue := rest }

def answer (reply : ℕ) (result : Reply) (s : PtyIo) : PtyIo :=
  { s with replies := s.replies ++ [(reply, result)] }

/-- The reply of `begin_handoff` of the actor. -/
def endHandoff (reply : ℕ) (result : Reply) (s : PtyIo) : PtyIo :=
  (s.answer reply result).goto .drainControl

def quiesce (reply : ℕ) (s : PtyIo) : PtyIo :=
  { s with state := .quiesced }.endHandoff reply (.ok ())

/-- `handle_control_command`. The process group and the duplicate descriptor are replies whose
value nothing here reads. -/
def handleControlCommand (command : PtyIoControlCommand) (s : PtyIo) : PtyIo :=
  match command with
  | .beginHandoff reply => s.goto (.preQuiesce reply)
  | .duplicateForHandoff reply =>
    if s.state = .quiesced then s.answer reply (.ok ())
    else s.answer reply
      (.error (.other "PTY actor must be quiesced before handoff duplication"))
  | .foregroundProcessGroup reply => s.answer reply (.ok ())
  | .rollbackHandoff reply =>
    if s.state = .released then
      s.answer reply
        (.error (.brokenPipe "PTY actor was released before handoff rollback"))
    else { s with state := .running }.answer reply (.ok ())
  | .releaseAfterCommit reply =>
    ({ s with state := .released, pendingWrites := [] }.answer reply (.ok ())).leave
  | .shutdown => s.leave

end PtyIo

inductive WriteOutcome where
  | ok (written : ℕ)
  | wouldBlock
  | interrupted
  | failed
  deriving DecidableEq, Repr

inductive ReadOutcome where
  | eof
  | wouldBlock
  | interrupted
  | failed
  /-- Bytes were read; the callback made these responses of them. -/
  | ok (terminalResponses : List Bytes)
  deriving DecidableEq, Repr

inductive PollOutcome where
  | ready (wake read write : Bool)
  | failed (error : ReplyError)
  deriving DecidableEq, Repr

/-- What a step of the actor reads from outside. -/
structure Readings where
  now : ℕ
  write : WriteOutcome
  read : ReadOutcome
  poll : PollOutcome
  /-- What `drain_wake_fd` returns. -/
  drainWake : Reply

namespace PtyIo

variable (input : Readings)

/-- A turn of the loop of `flush_pending_writes_once`. The kernel takes no more than it is
given. -/
def flushPendingWrites (ret : FlushReturn) (s : PtyIo) : PtyIo :=
  match s.pendingWrites with
  | [] => s.goto ret.phase
  | pending :: rest =>
    if !pending.ready input.now then s.goto ret.phase
    else
      let chunk := pending.bytes.drop s.currentWriteOffset
      match input.write with
      | .ok written =>
        if written = 0 then s.goto ret.phase
        else
          let offset := s.currentWriteOffset + (chunk.take written).length
          let s := { s with pty := s.pty ++ chunk.take written }
          if pending.bytes.length ≤ offset then
            { s with pendingWrites := rest, currentWriteOffset := 0 }
          else { s with currentWriteOffset := offset }
      | .wouldBlock => s.goto ret.phase
      | .interrupted => s.goto ret.phase
      | .failed => { s with pendingWrites := [], currentWriteOffset := 0 }.goto ret.phase

/-- After `read_once` the caller goes on with the readiness to write. -/
def afterRead (caller : Caller) (writeReady : Bool) (s : PtyIo) : PtyIo :=
  match caller with
  | .run =>
    if writeReady && s.pendingWriteReady input.now then s.goto (.flush .nextTurn)
    else s.goto .drainControl
  | .handoff reply deadline =>
    if writeReady then s.goto (.flush (.handoffLoop reply deadline))
    else s.goto (.handoffLoop reply deadline)

/-- `read_once` has returned `false`. -/
def readClosed (caller : Caller) (s : PtyIo) : PtyIo :=
  match caller with
  | .run => s.leave
  | .handoff reply _ =>
    s.endHandoff reply
      (.error (.brokenPipe "PTY closed while draining writes before handoff"))

/-- `read_once`, up to where the callback's responses are in the slot. -/
def readOnce (caller : Caller) (writeReady : Bool) (s : PtyIo) : PtyIo :=
  match input.read with
  | .eof => s.readClosed caller
  | .failed => s.readClosed caller
  | .wouldBlock => s.afterRead input caller writeReady
  | .interrupted => s.afterRead input caller writeReady
  | .ok terminalResponses =>
    { s with terminalResponses := s.terminalResponses ++ terminalResponses }.goto
      (.takeResponses caller writeReady)

/-- The part of `read_once` after that. -/
def takeResponses (caller : Caller) (writeReady : Bool) (s : PtyIo) : PtyIo :=
  ({ s with terminalResponses := [] }.enqueueTerminalResponses s.terminalResponses).afterRead
    input caller writeReady

def pollRun (s : PtyIo) : PtyIo :=
  match input.poll with
  | .failed _ => s.leave
  | .ready wake read write =>
    if wake then
      match input.drainWake with
      | .ok () => s.goto .drainControl
      | .error _ => s.leave
    else if s.state = .running && read then s.goto (.readOnce .run write)
    else s.afterRead input .run write

/-- The body of the loop of `begin_handoff` after its first flush. -/
def handoffBody (reply deadline : ℕ) (s : PtyIo) : PtyIo :=
  if s.pendingWrites = [] then s.quiesce reply
  else if deadline - input.now = 0 then
    s.endHandoff reply
      (.error (.timedOut "timed out draining PTY writes before handoff"))
  else
    match input.poll with
    | .failed error => s.endHandoff reply (.error error)
    | .ready wake read write =>
      match if wake then input.drainWake else .ok () with
      | .error error => s.endHandoff reply (.error error)
      | .ok () =>
        if read then s.goto (.readOnce (.handoff reply deadline) write)
        else s.afterRead input (.handoff reply deadline) write

/-- A step of the actor's thread. -/
def actor (s : PtyIo) : PtyIo :=
  match s.phase with
  | .drainControl =>
    match s.controlQueue with
    | command :: rest => { s with controlQueue := rest }.handleControlCommand command
    | [] => s.goto .drainData
  | .drainData =>
    match s.dataQueue with
    | command :: rest => (s.popData rest).handleDataCommand input.now command
    | [] => if s.state = .released then s.leave else s.goto .applyControls
  | .applyControls => s.applyPendingControls.goto .checkFlush
  | .checkFlush =>
    if s.pendingWriteReady input.now then s.goto (.flush .poll) else s.goto .poll
  | .poll => s.pollRun input
  | .flush ret => s.flushPendingWrites input ret
  | .readOnce caller writeReady => s.readOnce input caller writeReady
  | .takeResponses caller writeReady => s.takeResponses input caller writeReady
  | .preQuiesce reply =>
    match s.dataQueue with
    | command :: rest =>
      if s.state = .released then s.popData rest
      else (s.popData rest).enqueueCommand input.now command
    | [] => s.goto (.handoffControls reply)
  | .handoffControls reply =>
    let s := s.applyPendingControls
    if s.state = .released then
      s.endHandoff reply
        (.error (.brokenPipe "PTY actor was released before handoff quiesce"))
    else s.goto (.flush (.handoffLoop reply (input.now + handoffDrainTimeout)))
  | .handoffLoop reply deadline =>
    if s.pendingWrites = [] then s.quiesce reply
    else s.goto (.flush (.handoffBody reply deadline))
  | .handoffBody reply deadline => s.handoffBody input reply deadline
  | .exited => s

end PtyIo

/-! ## Runs -/

inductive Event where
  | writeUserInput (writer : ℕ) (bytes : Bytes)
  | resumeWriter (writer : ℕ)
  | tryWriteUserInput (bytes : Bytes)
  | tryWriteUserInputWithDelayedSuffix (immediate delayed : Bytes) (delay : ℕ)
  | writeTerminalResponse (response : Option Bytes)
  | resize (terminalResponses : List Bytes)
  | beginHandoff
  | rollbackHandoff
  | resumeController (timeUp : Bool)
  | duplicateForHandoff
  | foregroundProcessGroup
  | releaseAfterCommit
  | shutdown
  | actor (input : Readings)

def step (s : PtyIo) : Event → PtyIo
  | .writeUserInput writer bytes => s.writeUserInput writer bytes
  | .resumeWriter writer => s.resumeWriter writer
  | .tryWriteUserInput bytes => (s.tryWriteUserInput bytes).2
  | .tryWriteUserInputWithDelayedSuffix immediate delayed delay =>
    (s.tryWriteUserInputWithDelayedSuffix immediate delayed delay).2
  | .writeTerminalResponse response => s.writeTerminalResponse response
  | .resize terminalResponses => s.requestResize terminalResponses
  | .beginHandoff => s.beginHandoff
  | .rollbackHandoff => s.rollbackHandoff
  | .resumeController timeUp => s.resumeController timeUp
  | .duplicateForHandoff => if s.phase = .exited then s else s.control .duplicateForHandoff
  | .foregroundProcessGroup => if s.phase = .exited then s else s.control .foregroundProcessGroup
  | .releaseAfterCommit => s.releaseAfterCommit
  | .shutdown => s.shutdown
  | .actor input => s.actor input

/-- Neither a release nor a shutdown. -/
def Event.Ordinary (event : Event) : Prop :=
  event ≠ .releaseAfterCommit ∧ event ≠ .shutdown

/-- No write to the PTY fails for good in the step. -/
def Event.Writes (event : Event) : Prop :=
  ∀ input, event = .actor input → input.write ≠ .failed

end Zynk.Pty
