import Zynk.Pty.Actor

/-!
# What one step can do

A step of the actor is one of the moves of `Move` (`actor_move`), and a step of any other thread
is one of `Call` (`step_call`). The invariants go through these and not through the phases.

`commands` are the control commands still to be answered : the one of the handoff the actor is in
the middle of, and those of the channel.
-/

namespace Zynk.Pty

/-! ## The phases of a handoff -/

def Caller.handoffReply : Caller → Option ℕ
  | .run => none
  | .handoff reply _ => some reply

def FlushReturn.handoffReply : FlushReturn → Option ℕ
  | .poll => none
  | .nextTurn => none
  | .handoffLoop reply _ => some reply
  | .handoffBody reply _ => some reply

/-- The reply channel of the handoff the actor is in the middle of. -/
def Phase.handoffReply : Phase → Option ℕ
  | .flush ret => ret.handoffReply
  | .readOnce caller _ => caller.handoffReply
  | .takeResponses caller _ => caller.handoffReply
  | .preQuiesce reply => some reply
  | .handoffControls reply => some reply
  | .handoffLoop reply _ => some reply
  | .handoffBody reply _ => some reply
  | _ => none

/-- The handoff has found the data channel empty. -/
def Phase.Drained (phase : Phase) : Prop :=
  phase.handoffReply.isSome ∧ ∀ reply, phase ≠ .preQuiesce reply

@[simp] theorem FlushReturn.phase_handoffReply (ret : FlushReturn) :
    ret.phase.handoffReply = (Phase.flush ret).handoffReply := by
  rcases ret <;> rfl

/-! ## What enters the pending writes -/

/-- The parts of a write that are not empty. -/
def PtyIoDataCommand.parts : PtyIoDataCommand → List Bytes
  | .writeUserInput bytes => [bytes].filter (· ≠ [])
  | .writeUserInputWithDelayedSuffix immediate delayed _ _ => [immediate, delayed].filter (· ≠ [])

namespace PtyIo

/-- The pending writes `items` are queued. -/
def append (items : List PendingWrite) (s : PtyIo) : PtyIo :=
  { s with
    pendingWrites := s.pendingWrites ++ items
    enqueued := s.enqueued ++ items.map (·.bytes) }

@[simp] theorem append_nil (s : PtyIo) : s.append [] = s := by
  simp [append]

theorem append_append (s : PtyIo) (items more : List PendingWrite) :
    (s.append items).append more = s.append (items ++ more) := by
  simp [append]

/-- The pending writes of `bytes`. -/
def Queues (items : List PendingWrite) (bytes : List Bytes) : Prop :=
  items.map (·.bytes) = bytes.filter (· ≠ [])

theorem enqueueWrite_eq (s : PtyIo) (bytes : Bytes) :
    ∃ items, Queues items [bytes] ∧ s.enqueueWrite bytes = s.append items := by
  by_cases h : bytes = []
  · exact ⟨[], by simp [Queues, h], by simp [enqueueWrite, append, h]⟩
  · exact ⟨[.immediate bytes], by simp [Queues, PendingWrite.immediate, h],
      by simp [enqueueWrite, enqueue, append, h]⟩

theorem enqueueDelayedWrite_eq (s : PtyIo) (now : ℕ) (bytes : Bytes) (delay : ℕ) :
    ∃ items, Queues items [bytes] ∧ s.enqueueDelayedWrite now bytes delay = s.append items := by
  by_cases h : bytes = []
  · exact ⟨[], by simp [Queues, h], by simp [enqueueDelayedWrite, append, h]⟩
  · exact ⟨[⟨bytes, some (now + delay)⟩], by simp [Queues, h],
      by simp [enqueueDelayedWrite, enqueue, append, h]⟩

theorem enqueueCommand_eq (s : PtyIo) (now : ℕ) (command : PtyIoDataCommand) :
    ∃ items : List PendingWrite, items.map (·.bytes) = command.parts ∧
      s.enqueueCommand now command = s.append items := by
  rcases command with bytes | ⟨immediate, delayed, delay, combined⟩
  · exact enqueueWrite_eq s bytes
  · obtain ⟨items, hitems, heq⟩ := enqueueWrite_eq s immediate
    obtain ⟨more, hmore, heq'⟩ := enqueueDelayedWrite_eq (s.append items) now delayed delay
    refine ⟨items ++ more, ?_, by rw [enqueueCommand, heq, heq', append_append]⟩
    rw [List.map_append, hitems, hmore, ← List.filter_append]
    rfl

theorem enqueueTerminalResponses_eq (s : PtyIo) (responses : List Bytes) :
    ∃ items : List PendingWrite, (∀ item ∈ items, item.bytes ≠ []) ∧
      s.enqueueTerminalResponses responses = s.append items := by
  by_cases h : s.state = .released
  · exact ⟨[], by simp, by rw [enqueueTerminalResponses, if_pos h, append_nil]⟩
  rw [enqueueTerminalResponses, if_neg h]
  clear h
  induction responses generalizing s with
  | nil => exact ⟨[], by simp, by simp [append]⟩
  | cons bytes responses ih =>
    obtain ⟨items, hitems, heq⟩ := enqueueWrite_eq s bytes
    obtain ⟨more, hmore, heq'⟩ := ih (s.append items)
    refine ⟨items ++ more, fun item hitem => ?_, ?_⟩
    · rcases List.mem_append.1 hitem with hitem | hitem
      · have := List.mem_map_of_mem (f := PendingWrite.bytes) hitem
        rw [hitems] at this
        simpa using (List.mem_filter.1 this).2
      · exact hmore item hitem
    · rw [List.foldl_cons, heq, heq', append_append]

/-! ## The moves of the actor -/

/-- The actor's state, the channels and the gate but for the slots of the controls, after items
were queued and the actor goes to `phase`. -/
def queued (s : PtyIo) (resize : Option (List Bytes)) (slot : List Bytes)
    (items : List PendingWrite) (phase : Phase) : PtyIo :=
  ({ s with resize := resize, terminalResponses := slot }.append items).goto phase

/-- A step of the actor that neither releases it nor shuts it down. -/
inductive Move (s : PtyIo) (input : Readings) : PtyIo → Prop
  /-- It goes on, and may have queued terminal responses. -/
  | advance (resize : Option (List Bytes)) (slot : List Bytes) (items : List PendingWrite)
      (phase : Phase) (hphase : phase.handoffReply = s.phase.handoffReply)
      (hdrained : phase.Drained → s.phase.Drained ∨ s.dataQueue = [])
      (hexited : phase = .exited ↔ s.phase = .exited)
      (hitems : items = [] ∨ s.phase ≠ .exited ∧ ∀ item ∈ items, item.bytes ≠ []) : Move s input (s.queued resize slot items phase)
  /-- It queues a user write. -/
  | take (command : PtyIoDataCommand) (rest : List PtyIoDataCommand) (items : List PendingWrite)
      (hqueue : s.dataQueue = command :: rest)
      (hitems : items.map (·.bytes) = command.parts)
      (hexited : s.phase ≠ .exited) : Move s input ((s.popData rest).append items)
  /-- It throws a user write away. -/
  | drop (command : PtyIoDataCommand) (rest : List PtyIoDataCommand)
      (hqueue : s.dataQueue = command :: rest) (hstate : s.state ≠ .running)
      (hexited : s.phase ≠ .exited) : Move s input (s.popData rest)
  /-- Some of the head of the pending writes is written. -/
  | write (pending : PendingWrite) (rest : List PendingWrite) (written : ℕ)
      (hpending : s.pendingWrites = pending :: rest) (hexited : s.phase ≠ .exited) :
      Move s input
        { s with
          pty := s.pty ++ (pending.bytes.drop s.currentWriteOffset).take written
          currentWriteOffset := s.currentWriteOffset +
            ((pending.bytes.drop s.currentWriteOffset).take written).length }
  /-- All that was left of it is written. -/
  | finish (pending : PendingWrite) (rest : List PendingWrite)
      (hpending : s.pendingWrites = pending :: rest) (hexited : s.phase ≠ .exited) :
      Move s input
        { s with
          pty := s.pty ++ pending.bytes.drop s.currentWriteOffset
          pendingWrites := rest
          currentWriteOffset := 0 }
  /-- A write fails for good : the pending writes are thrown away. -/
  | failed (phase : Phase) (hwrite : input.write = .failed)
      (hphase : phase.handoffReply = s.phase.handoffReply)
      (hdrained : phase.Drained → s.phase.Drained)
      (hexited : phase = .exited ↔ s.phase = .exited) :
      Move s input ({ s with pendingWrites := [], currentWriteOffset := 0 }.goto phase)
  | begin (reply : ℕ) (rest : List PtyIoControlCommand) (hphase : s.phase = .drainControl)
      (hqueue : s.controlQueue = .beginHandoff reply :: rest) :
      Move s input ({ s with controlQueue := rest }.goto (.preQuiesce reply))
  | rollback (reply : ℕ) (rest : List PtyIoControlCommand) (hphase : s.phase = .drainControl)
      (hqueue : s.controlQueue = .rollbackHandoff reply :: rest) :
      Move s input ({ s with controlQueue := rest, state := .running }.answer reply (.ok ()))
  | inquiry (command : PtyIoControlCommand) (reply : ℕ) (rest : List PtyIoControlCommand)
      (result : Reply) (hphase : s.phase = .drainControl)
      (hqueue : s.controlQueue = command :: rest)
      (hcommand : command = .duplicateForHandoff reply ∨ command = .foregroundProcessGroup reply) :
      Move s input ({ s with controlQueue := rest }.answer reply result)
  | quiesced (reply : ℕ) (hphase : s.phase.handoffReply = some reply) (hdrained : s.phase.Drained)
      (hpending : s.pendingWrites = []) : Move s input (s.quiesce reply)
  | handoffFailed (reply : ℕ) (error : ReplyError) (hphase : s.phase.handoffReply = some reply) :
      Move s input (s.endHandoff reply (.error error))
  | leave (hphase : s.phase.handoffReply = none) (hexited : s.phase ≠ .exited) : Move s input s.leave

variable {s : PtyIo} {input : Readings}

/-- The actor goes to another place of the same loop. -/
theorem move_goto {phase : Phase} (hphase : phase.handoffReply = s.phase.handoffReply)
    (hdrained : phase.Drained → s.phase.Drained ∨ s.dataQueue = [])
    (hexited : phase = .exited ↔ s.phase = .exited) : Move s input (s.goto phase) := by
  have h : Move s input (s.queued s.resize s.terminalResponses [] phase) :=
    .advance _ _ _ phase hphase hdrained hexited (.inl rfl)
  simpa [queued, append] using h

theorem advance_move {resize : Option (List Bytes)} {slot : List Bytes} {items : List PendingWrite}
    {phase : Phase} (hphase : phase.handoffReply = s.phase.handoffReply)
    (hdrained : s.phase.handoffReply.isSome → s.phase.Drained) (hexited : phase ≠ .exited)
    (hexited' : s.phase ≠ .exited) (hitems : ∀ item ∈ items, item.bytes ≠ []) : Move s input (s.queued resize slot items phase) :=
  .advance resize slot items phase hphase (fun h => .inl (hdrained (hphase ▸ h.1)))
    (iff_of_false hexited hexited') (.inr ⟨hexited', hitems⟩)

theorem afterRead_eq (input : Readings) (caller : Caller) (writeReady : Bool) (s : PtyIo) :
    ∃ phase : Phase, phase.handoffReply = caller.handoffReply ∧ phase ≠ .exited ∧
      s.afterRead input caller writeReady = s.goto phase := by
  rcases caller with _ | ⟨reply, deadline⟩ <;> unfold afterRead <;> dsimp only <;> split
  · exact ⟨.flush .nextTurn, rfl, by simp, rfl⟩
  · exact ⟨.drainControl, rfl, by simp, rfl⟩
  · exact ⟨.flush (.handoffLoop reply deadline), rfl, by simp, rfl⟩
  · exact ⟨.handoffLoop reply deadline, rfl, by simp, rfl⟩

theorem flush_move {ret : FlushReturn} (hphase : s.phase = .flush ret) :
    Move s input (s.flushPendingWrites input ret) := by
  have hreply : ret.phase.handoffReply = s.phase.handoffReply := by
    rw [hphase]
    exact ret.phase_handoffReply
  have hdrained (h : ret.phase.Drained) : s.phase.Drained := by
    rw [hphase]
    exact ⟨ret.phase_handoffReply ▸ h.1, by simp⟩
  have hexited : ret.phase = .exited ↔ s.phase = .exited := by
    rcases ret <;> simp [FlushReturn.phase, hphase]
  have hret : Move s input (s.goto ret.phase) := move_goto hreply (.inl ∘ hdrained) hexited
  unfold flushPendingWrites
  split
  · exact hret
  rename_i pending rest hpending
  dsimp only
  split
  · exact hret
  split
  · rename_i written _
    split
    · exact hret
    split
    · rename_i hall
      have htake : (pending.bytes.drop s.currentWriteOffset).take written =
          pending.bytes.drop s.currentWriteOffset := by
        refine List.take_of_length_le ?_
        simp only [List.length_take, List.length_drop] at hall ⊢
        omega
      rw [htake]
      exact .finish pending rest hpending (by simp [hphase])
    · exact .write pending rest written hpending (by simp [hphase])
  · exact hret
  · exact hret
  · exact .failed ret.phase ‹_› hreply hdrained hexited

theorem handoffBody_move {reply deadline : ℕ} (hphase : s.phase = .handoffBody reply deadline) :
    Move s input (s.handoffBody input reply deadline) := by
  have hreply : s.phase.handoffReply = some reply := by rw [hphase]; rfl
  have hdrained : s.phase.Drained := by rw [hphase]; exact ⟨rfl, by simp⟩
  unfold handoffBody
  split
  · exact .quiesced reply hreply hdrained ‹_›
  split
  · exact .handoffFailed reply _ hreply
  split
  · exact .handoffFailed reply _ hreply
  split
  · exact .handoffFailed reply _ hreply
  split
  · exact move_goto hreply.symm (fun _ => .inl hdrained) (by simp [hphase])
  · obtain ⟨phase, hcaller, hexited, heq⟩ := afterRead_eq input
      (.handoff reply deadline) _ s
    rw [heq]
    exact move_goto (hcaller.trans hreply.symm) (fun _ => .inl hdrained) (by simp [hexited, hphase])

theorem readOnce_move {caller : Caller} {writeReady : Bool}
    (hphase : s.phase = .readOnce caller writeReady) :
    Move s input (s.readOnce input caller writeReady) := by
  have hreply : s.phase.handoffReply = caller.handoffReply := by rw [hphase]; rfl
  have hdrained : s.phase.handoffReply.isSome → s.phase.Drained := by
    rw [hphase]
    exact fun h => ⟨h, by simp⟩
  have hclosed : Move s input (s.readClosed caller) := by
    rcases caller with _ | ⟨reply, deadline⟩
    · exact .leave hreply (by simp [hphase])
    · exact .handoffFailed reply _ hreply
  have hafter : Move s input (s.afterRead input caller writeReady) := by
    obtain ⟨phase, hcaller, hexited, heq⟩ := afterRead_eq input caller writeReady s
    rw [heq]
    exact move_goto (hcaller.trans hreply.symm)
      (fun h => .inl (hdrained (hreply ▸ hcaller ▸ h.1))) (by simp [hexited, hphase])
  unfold readOnce
  split
  · exact hclosed
  · exact hclosed
  · exact hafter
  · exact hafter
  · rename_i responses _
    have h : Move s input (s.queued s.resize (s.terminalResponses ++ responses) []
        (.takeResponses caller writeReady)) :=
      advance_move hreply.symm hdrained (by simp) (by simp [hphase]) (by simp)
    simpa [queued] using h

theorem takeResponses_move {caller : Caller} {writeReady : Bool}
    (hphase : s.phase = .takeResponses caller writeReady) :
    Move s input (s.takeResponses input caller writeReady) := by
  have hreply : s.phase.handoffReply = caller.handoffReply := by rw [hphase]; rfl
  obtain ⟨items, hitems, heq⟩ := enqueueTerminalResponses_eq
    { s with terminalResponses := [] } s.terminalResponses
  obtain ⟨phase, hcaller, hexited, heq'⟩ := afterRead_eq input caller writeReady
    ({ s with terminalResponses := [] }.append items)
  rw [takeResponses, heq, heq']
  exact advance_move (hcaller.trans hreply.symm)
    (by rw [hphase]; exact fun h => ⟨h, by simp⟩) hexited (by simp [hphase]) hitems

theorem pollRun_move (hphase : s.phase = .poll) : Move s input (s.pollRun input) := by
  have hnone : s.phase.handoffReply = none := by rw [hphase]; rfl
  have hgoto (phase : Phase) (h : phase.handoffReply = none) (hexited : phase ≠ .exited) :
      Move s input (s.goto phase) :=
    move_goto (h.trans hnone.symm) (fun hd => by simp [Phase.Drained, h] at hd)
      (by simp [hexited, hphase])
  have hleave : Move s input s.leave := .leave hnone (by simp [hphase])
  unfold pollRun
  split
  · exact hleave
  split
  · split
    · exact hgoto _ rfl (by simp)
    · exact hleave
  split
  · exact hgoto _ rfl (by simp)
  · obtain ⟨phase, hcaller, hexited, heq⟩ := afterRead_eq input .run _ s
    rw [heq]
    exact hgoto phase hcaller hexited

/-- All terminal responses of the controls are queued at once. -/
theorem applyPendingControls_eq (s : PtyIo) :
    ∃ items : List PendingWrite, (∀ item ∈ items, item.bytes ≠ []) ∧
      s.applyPendingControls = { s with resize := none, terminalResponses := [] }.append items := by
  unfold applyPendingControls
  dsimp only
  split
  · exact ⟨[], by simp, by simp⟩
  · obtain ⟨items, hitems, heq⟩ := enqueueTerminalResponses_eq
      { s with resize := none, terminalResponses := [] } (s.resize.getD [])
    obtain ⟨more, hmore, heq'⟩ := enqueueTerminalResponses_eq
      ({ s with resize := none, terminalResponses := [] }.append items) s.terminalResponses
    refine ⟨items ++ more, fun item hitem => ?_, by rw [heq, heq', append_append]⟩
    exact (List.mem_append.1 hitem).elim (hitems item) (hmore item)

theorem handleControlCommand_move {command : PtyIoControlCommand}
    {rest : List PtyIoControlCommand} (hphase : s.phase = .drainControl)
    (hqueue : s.controlQueue = command :: rest) (hstate : s.state ≠ .released)
    (hrelease : ∀ reply, command ≠ .releaseAfterCommit reply) (hshutdown : command ≠ .shutdown) :
    Move s input ({ s with controlQueue := rest }.handleControlCommand command) := by
  rcases command with reply | reply | reply | reply | reply | _
  · exact .begin reply rest hphase hqueue
  · unfold handleControlCommand
    dsimp only
    split
    · exact .inquiry _ reply rest _ hphase hqueue (.inl rfl)
    · exact .inquiry _ reply rest _ hphase hqueue (.inl rfl)
  · exact .inquiry _ reply rest _ hphase hqueue (.inr rfl)
  · unfold handleControlCommand
    dsimp only
    rw [if_neg hstate]
    exact .rollback reply rest hphase hqueue
  · exact absurd rfl (hrelease reply)
  · exact absurd rfl hshutdown

/-- A step of the actor is a move, where nothing has released it or shuts it down. -/
theorem actor_move (hstate : s.state ≠ .released)
    (hrelease : ∀ reply, .releaseAfterCommit reply ∉ s.controlQueue)
    (hshutdown : .shutdown ∉ s.controlQueue) :
    Move s input (s.actor input) := by
  have hgoto {phase : Phase} (hnone : s.phase.handoffReply = none) (hexited' : s.phase ≠ .exited)
      (h : phase.handoffReply = none) (hexited : phase ≠ .exited) : Move s input (s.goto phase) :=
    move_goto (h.trans hnone.symm) (fun hd => by simp [Phase.Drained, h] at hd)
      (iff_of_false hexited hexited')
  unfold actor
  split
  -- `drainControl`
  · rename_i hphase
    split
    · rename_i command rest hqueue
      exact handleControlCommand_move hphase hqueue hstate
        (fun reply h => hrelease reply (by simp [hqueue, h]))
        (fun h => hshutdown (by simp [hqueue, h]))
    · exact hgoto (by rw [hphase]; rfl) (by simp [hphase]) rfl (by simp)
  -- `drainData`
  · rename_i hphase
    split
    · rename_i command rest hqueue
      unfold handleDataCommand
      split
      · obtain ⟨items, hitems, heq⟩ := enqueueCommand_eq (s.popData rest) input.now command
        rw [heq]
        exact .take command rest items hqueue hitems (by simp [hphase])
      · exact .drop command rest hqueue ‹_› (by simp [hphase])
    · rw [if_neg hstate]
      exact hgoto (by rw [hphase]; rfl) (by simp [hphase]) rfl (by simp)
  -- `applyControls`
  · rename_i hphase
    obtain ⟨items, hitems, heq⟩ := applyPendingControls_eq s
    rw [heq]
    exact advance_move (by rw [hphase]; rfl) (by simp [hphase, Phase.handoffReply]) (by simp)
      (by simp [hphase]) hitems
  -- `checkFlush`
  · rename_i hphase
    split
    · exact hgoto (by rw [hphase]; rfl) (by simp [hphase]) rfl (by simp)
    · exact hgoto (by rw [hphase]; rfl) (by simp [hphase]) rfl (by simp)
  · exact pollRun_move ‹_›
  · exact flush_move ‹_›
  · exact readOnce_move ‹_›
  · exact takeResponses_move ‹_›
  -- `preQuiesce`
  · rename_i reply hphase
    split
    · rename_i command rest hqueue
      rw [if_neg hstate]
      obtain ⟨items, hitems, heq⟩ := enqueueCommand_eq (s.popData rest) input.now command
      rw [heq]
      exact .take command rest items hqueue hitems (by simp [hphase])
    · rename_i hqueue
      exact move_goto (by rw [hphase]; rfl) (fun _ => .inr hqueue) (by simp [hphase])
  -- `handoffControls`
  · rename_i reply hphase
    obtain ⟨items, hitems, heq⟩ := applyPendingControls_eq s
    have hstate' : ({ s with resize := none, terminalResponses := [] }.append items).state ≠
        .released := hstate
    rw [heq]
    dsimp only
    rw [if_neg hstate']
    exact advance_move (by rw [hphase]; rfl) (by rw [hphase]; exact fun h => ⟨h, by simp⟩)
      (by simp) (by simp [hphase]) hitems
  -- `handoffLoop`
  · rename_i reply deadline hphase
    have hreply : s.phase.handoffReply = some reply := by rw [hphase]; rfl
    have hdrained : s.phase.Drained := by rw [hphase]; exact ⟨rfl, by simp⟩
    split
    · exact .quiesced reply hreply hdrained ‹_›
    · exact move_goto hreply.symm (fun _ => .inl hdrained) (by simp [hphase])
  · exact handoffBody_move ‹_›
  · rename_i hphase
    exact move_goto rfl .inl Iff.rfl

/-! ## The calls of the handle -/

/-- A step of another thread : a writer, the controller, or one that resizes, answers for the
terminal or asks for the process group. -/
inductive Call (s : PtyIo) (event : Event) : PtyIo → Prop
  /-- A writer or the shared slots. -/
  | other (permits : ℕ) (resize : Option (List Bytes)) (slot : List Bytes)
      (writers : ℕ → Writer) :
      Call s event { s with permits, resize, terminalResponses := slot, writers }
  /-- A user write is accepted. -/
  | accept (permits : ℕ) (writers : ℕ → Writer) (command : PtyIoDataCommand)
      (haccepting : s.accepting = true) :
      Call s event ({ s with permits, writers }.send command)
  | inquiry (command : ℕ → PtyIoControlCommand)
      (hcommand : command = .duplicateForHandoff ∨ command = .foregroundProcessGroup)
      (hexited : s.phase ≠ .exited) : Call s event (s.control command)
  | beginHandoff (hcontroller : s.controller = .idle) (hexited : s.phase ≠ .exited) :
      Call s event
        { s.control .beginHandoff with
          accepting := false, controller := .beginHandoff s.nextReply }
  | beginClosed (hcontroller : s.controller = .idle) (hexited : s.phase = .exited) :
      Call s event { s with accepting := true }
  | begun (reply : ℕ) (hcontroller : s.controller = .beginHandoff reply)
      (hreply : s.replies.lookup reply = some (.ok ())) :
      Call s event { s with controller := .idle }
  | callRollback : Call s event { s with controller := .callRollback }
  | rollbackHandoff (hexited : s.phase ≠ .exited) :
      Call s event
        { s.control .rollbackHandoff with controller := .rollbackHandoff s.nextReply }
  | rolledBack (reply : ℕ) (hcontroller : s.controller = .rollbackHandoff reply)
      (hreply : s.replies.lookup reply = some (.ok ())) :
      Call s event { s with controller := .openGate }
  | rollbackRefused (reply : ℕ) (error : ReplyError)
      (hcontroller : s.controller = .rollbackHandoff reply)
      (hreply : s.replies.lookup reply = some (.error error)) :
      Call s event { s with controller := .idle }
  /-- The actor is gone. -/
  | rollbackClosed (hexited : s.phase = .exited) : Call s event { s with controller := .idle }
  /-- `rollback_handoff` does not wait any longer. -/
  | rollbackExpired (reply : ℕ) (hevent : event = .resumeController true)
      (hcontroller : s.controller = .rollbackHandoff reply)
      (hreply : s.replies.lookup reply = none) : Call s event { s with controller := .idle }
  | openGate (hcontroller : s.controller = .openGate) :
      Call s event { s with accepting := true, controller := .idle }

theorem call_refl (s : PtyIo) (event : Event) : Call s event s :=
  .other s.permits s.resize s.terminalResponses s.writers

variable {event : Event}

theorem trySend_call (command : PtyIoDataCommand) (bytes : Bytes) :
    Call s event (s.trySend command bytes).2 := by
  unfold trySend
  split
  · exact call_refl s event
  rename_i haccepting
  split
  · exact call_refl s event
  split
  · exact call_refl s event
  · exact .accept s.permits s.writers command (by simpa using haccepting)

theorem resumeWriter_call (writer : ℕ) : Call s event (s.resumeWriter writer) := by
  unfold resumeWriter
  split
  · exact call_refl s event
  · split
    · exact .other _ _ _ _
    split
    · exact call_refl s event
    · exact .other _ _ _ _
  · dsimp only
    split
    · exact .other _ _ _ _
    · rename_i haccepting
      exact .accept _ _ _ (by simpa using haccepting)

theorem sendRollback_call : Call s event s.sendRollback := by
  unfold sendRollback
  split
  · exact .rollbackClosed ‹_›
  · exact .rollbackHandoff ‹_›

theorem beginHandoff_call : Call s event s.beginHandoff := by
  unfold beginHandoff
  split
  · exact call_refl s event
  · rename_i hidle
    have hidle : s.controller = .idle := not_not.1 hidle
    dsimp only
    split
    · exact .beginClosed hidle ‹_›
    · exact .beginHandoff hidle ‹_›

/-- There is no reply, and none is waited for. -/
theorem recvTimeout_eq_none {reply : ℕ} {timeUp : Bool}
    (h : s.recvTimeout reply timeUp = some none) :
    s.replies.lookup reply = none ∧ (timeUp = true ∨ s.phase = .exited) := by
  unfold recvTimeout at h
  rcases hlookup : s.replies.lookup reply with _ | result
  · simp only [hlookup] at h
    split at h
    · rename_i hup
      exact ⟨rfl, by simpa using hup⟩
    · simp at h
  · simp [hlookup] at h

theorem recvTimeout_eq_some {reply : ℕ} {timeUp : Bool} {result : Reply}
    (h : s.recvTimeout reply timeUp = some (some result)) :
    s.replies.lookup reply = some result := by
  unfold recvTimeout at h
  rcases hlookup : s.replies.lookup reply with _ | found
  · simp only [hlookup] at h
    split at h <;> simp at h
  · simpa [hlookup] using h

theorem resumeController_call {timeUp : Bool} :
    Call s (.resumeController timeUp) (s.resumeController timeUp) := by
  unfold resumeController
  split
  · exact call_refl s _
  · split
    · exact call_refl s _
    · exact .begun _ ‹_› (recvTimeout_eq_some ‹_›)
    · exact .callRollback
  · exact sendRollback_call
  · rename_i reply hcontroller
    split
    · exact call_refl s _
    · exact .rolledBack reply hcontroller (recvTimeout_eq_some ‹_›)
    · rename_i result hok hrecv
      rcases result with _ | error | _
      · obtain ⟨hreply, rfl | hexited⟩ := recvTimeout_eq_none hrecv
        · exact .rollbackExpired reply rfl hcontroller hreply
        · exact .rollbackClosed hexited
      · exact .rollbackRefused reply error hcontroller (recvTimeout_eq_some hrecv)
      · exact (hok rfl).elim
  · exact .openGate ‹_›

end PtyIo

open PtyIo

/-- A step of another thread than the actor's is a call. -/
theorem step_call {s : PtyIo} {event : Event} (h : event.Ordinary)
    (hactor : ∀ input, event ≠ .actor input) : Call s event (step s event) := by
  obtain ⟨hrelease, hshutdown⟩ := h
  rcases event with ⟨writer, bytes⟩ | writer | bytes | ⟨immediate, delayed, delay⟩ | response |
    responses | _ | _ | timeUp | _ | _ | _ | _ | input
  · unfold step writeUserInput
    dsimp only
    split
    · exact .other _ _ _ _
    · exact call_refl s _
  · exact resumeWriter_call writer
  · exact trySend_call _ bytes
  · exact trySend_call _ (immediate ++ delayed)
  · rcases response with _ | bytes
    · exact call_refl s _
    · unfold step writeTerminalResponse
      dsimp only
      split
      · exact call_refl s _
      · exact .other _ _ _ _
  · exact .other _ _ _ _
  · exact beginHandoff_call
  · unfold step rollbackHandoff
    dsimp only
    split
    · exact call_refl s _
    · exact .callRollback
  · exact resumeController_call
  · unfold step
    dsimp only
    split
    · exact call_refl s _
    · exact .inquiry _ (.inl rfl) ‹_›
  · unfold step
    dsimp only
    split
    · exact call_refl s _
    · exact .inquiry _ (.inr rfl) ‹_›
  · exact absurd rfl hrelease
  · exact absurd rfl hshutdown
  · exact absurd rfl (hactor input)

end Zynk.Pty
