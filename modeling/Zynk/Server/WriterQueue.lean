import Zynk.Lib.Run
import Zynk.Lib.Text

/-!
# The client writer queue

`server/client_transport.rs` : the queue between the handles of a client's writer and its writer
thread. Control messages have a queue of their own. A render message has one place, and a second
one behind it is refused; an ordered message moves the render message that waits there ahead of
itself, so the thread gets both in the order they were accepted.

Every method holds the mutex from its beginning to its end, but for `recv`, which gives it up where
it waits : a step of `recv` is one turn of its loop. So `step` over a list of events is an
interleaving of any number of senders and the writer thread. The bytes of a message are not looked
at; `Writing` numbers the calls that send, and keeps what was accepted, refused and received.

`ClientWriterQueue::senders` saturates at `usize::MAX`, which the reference count of the queue keeps
it from.
-/

namespace Zynk.Server

inductive ClientWriteItem (α : Type) where
  | control (data : α)
  | render (data : α)
  deriving DecidableEq, Repr

/-- The errors give the message back. -/
inductive TrySendError (α : Type) where
  | full (data : α)
  | disconnected (data : α)
  deriving DecidableEq, Repr

structure SendError (α : Type) where
  data : α
  deriving DecidableEq, Repr

structure ClientWriterQueueState (α : Type) where
  control : List α := []
  ordered : List α := []
  render : Option α := none
  senders : ℕ := 0
  writerAlive : Bool
  deriving DecidableEq, Repr

/-- What a turn of the loop of `recv` comes to. -/
inductive Received (α : Type) where
  | returned (item : Option (ClientWriteItem α))
  /-- It waits to be notified. -/
  | waits
  deriving DecidableEq, Repr

namespace ClientWriterQueueState

variable {α : Type}

def new : ClientWriterQueueState α :=
  { writerAlive := true }

def addSender (state : ClientWriterQueueState α) : ClientWriterQueueState α :=
  { state with senders := state.senders + 1 }

def removeSender (state : ClientWriterQueueState α) : ClientWriterQueueState α :=
  { state with senders := state.senders - 1 }

def sendControl (state : ClientWriterQueueState α) (data : α) :
    Except (SendError α) Unit × ClientWriterQueueState α :=
  if !state.writerAlive then (.error ⟨data⟩, state)
  else (.ok (), { state with control := state.control ++ [data] })

def trySendRender (state : ClientWriterQueueState α) (data : α) :
    Except (TrySendError α) Unit × ClientWriterQueueState α :=
  if !state.writerAlive then (.error (.disconnected data), state)
  else if state.render.isSome then (.error (.full data), state)
  else (.ok (), { state with render := some data })

def sendOrdered (state : ClientWriterQueueState α) (data : α) :
    Except (TrySendError α) Unit × ClientWriterQueueState α :=
  if !state.writerAlive then (.error (.disconnected data), state)
  else if !state.ordered.isEmpty then (.error (.full data), state)
  else
    (.ok (),
      { state with ordered := state.ordered ++ state.render.toList ++ [data], render := none })

def recv (state : ClientWriterQueueState α) : Received α × ClientWriterQueueState α :=
  match state.control with
  | data :: control => (.returned (some (.control data)), { state with control })
  | [] =>
    match state.ordered with
    | data :: ordered => (.returned (some (.render data)), { state with ordered })
    | [] =>
      match state.render with
      | some data => (.returned (some (.render data)), { state with render := none })
      | none => if state.senders = 0 then (.returned none, state) else (.waits, state)

def closeWriter (state : ClientWriterQueueState α) : ClientWriterQueueState α :=
  { state with writerAlive := false, render := none, ordered := [] }

/-- The render and ordered messages that wait, first the one that `recv` takes first. -/
def pending (state : ClientWriterQueueState α) : List α :=
  state.ordered ++ state.render.toList

/-! ## What the methods do while the writer is alive -/

variable {state : ClientWriterQueueState α}

theorem sendControl_eq (h : state.writerAlive = true) (data : α) :
    state.sendControl data = (.ok (), { state with control := state.control ++ [data] }) := by
  simp [sendControl, h]

/-- Accepted at the end of what is pending, or refused. -/
theorem trySendRender_cases (h : state.writerAlive = true) (data : α) :
    (∃ next, state.trySendRender data = (.ok (), next) ∧ state.render = none ∧
      next = { state with render := some data }) ∨
    state.trySendRender data = (.error (.full data), state) := by
  rcases hrender : state.render with _ | older
  · exact .inl ⟨_, by simp [trySendRender, h, hrender], rfl, rfl⟩
  · exact .inr (by simp [trySendRender, h, hrender])

theorem sendOrdered_cases (h : state.writerAlive = true) (data : α) :
    (∃ next, state.sendOrdered data = (.ok (), next) ∧ state.ordered = [] ∧
      next = { state with ordered := state.render.toList ++ [data], render := none }) ∨
    state.sendOrdered data = (.error (.full data), state) := by
  rcases hordered : state.ordered with _ | ⟨first, rest⟩
  · exact .inl ⟨_, by simp [sendOrdered, h, hordered], rfl, rfl⟩
  · exact .inr (by simp [sendOrdered, h, hordered])

/-- The first control message, the first pending one, the end, or nothing. -/
theorem recv_cases (state : ClientWriterQueueState α) :
    (∃ data next, state.recv = (.returned (some (.control data)), next) ∧
      state.control = data :: next.control ∧ next = { state with control := next.control }) ∨
    (∃ data next, state.recv = (.returned (some (.render data)), next) ∧
      state.pending = data :: next.pending ∧
      next.control = state.control ∧ next.senders = state.senders ∧
      next.writerAlive = state.writerAlive ∧ next.ordered.length ≤ state.ordered.length) ∨
    (state.recv = (.returned none, state) ∧ state.control = [] ∧ state.pending = [] ∧
      state.senders = 0) ∨
    state.recv = (.waits, state) := by
  rcases hcontrol : state.control with _ | ⟨data, control⟩
  · rcases hordered : state.ordered with _ | ⟨data, ordered⟩
    · rcases hrender : state.render with _ | data
      · by_cases hsenders : state.senders = 0
        · refine .inr (.inr (.inl ⟨?_, rfl, ?_, hsenders⟩))
          · simp [recv, hcontrol, hordered, hrender, hsenders]
          · simp [pending, hordered, hrender]
        · exact .inr (.inr (.inr (by simp [recv, hcontrol, hordered, hrender, hsenders])))
      · refine .inr (.inl ⟨data, { state with render := none }, ?_, ?_, hcontrol, rfl, rfl, ?_⟩)
        · simp [recv, hcontrol, hordered, hrender]
        · simp [pending, hordered, hrender]
        · simp [hordered]
    · refine .inr (.inl ⟨data, { state with ordered }, ?_, ?_, hcontrol, rfl, rfl, ?_⟩)
      · simp [recv, hcontrol, hordered]
      · simp [pending, hordered]
      · simp
  · exact .inl ⟨data, { state with control }, by simp [recv, hcontrol], rfl, rfl⟩

end ClientWriterQueueState

/-! ## Runs -/

/-- A message with the number of the call that sends it. -/
abbrev Message := ℕ × Bytes

/-- A queue with its handles. What follows `renders` are histories : the calls that send, the
messages that were accepted and those that were refused, and what `recv` has returned. -/
structure Writing where
  queue : ClientWriterQueueState Message
  controls : ℕ
  renders : ℕ
  calls : ℕ := 0
  sentControl : List Message := []
  sentRender : List Message := []
  refused : List Message := []
  returned : List (Option (ClientWriteItem Message)) := []
  deriving DecidableEq, Repr

inductive WriterEvent where
  | cloneControl
  | dropControl
  | cloneRender
  | dropRender
  | sendControl (data : Bytes)
  | trySendRender (data : Bytes)
  | sendOrdered (data : Bytes)
  | recv
  deriving DecidableEq, Repr

namespace Writing

open ClientWriterQueueState

/-- `handle_client` : a new queue with a control and a render handle. -/
def start : Writing :=
  { queue := new.addSender.addSender, controls := 1, renders := 1 }

/-- The history of a call that sends a render message. -/
def noteRender (s : Writing) (message : Message)
    (result : Except (TrySendError Message) Unit × ClientWriterQueueState Message) : Writing :=
  match result.1 with
  | .ok () =>
    { s with
      queue := result.2, calls := s.calls + 1, sentRender := s.sentRender ++ [message] }
  | .error _ =>
    { s with queue := result.2, calls := s.calls + 1, refused := s.refused ++ [message] }

/-- A call needs a handle of its kind, and without one there is no step. -/
def step (s : Writing) : WriterEvent → Writing
  | .cloneControl =>
    if s.controls = 0 then s
    else { s with queue := s.queue.addSender, controls := s.controls + 1 }
  | .dropControl =>
    if s.controls = 0 then s
    else { s with queue := s.queue.removeSender, controls := s.controls - 1 }
  | .cloneRender =>
    if s.renders = 0 then s
    else { s with queue := s.queue.addSender, renders := s.renders + 1 }
  | .dropRender =>
    if s.renders = 0 then s
    else { s with queue := s.queue.removeSender, renders := s.renders - 1 }
  | .sendControl data =>
    if s.controls = 0 then s
    else
      match s.queue.sendControl (s.calls, data) with
      | (.ok (), queue) =>
        { s with
          queue, calls := s.calls + 1, sentControl := s.sentControl ++ [(s.calls, data)] }
      | (.error _, queue) =>
        { s with queue, calls := s.calls + 1, refused := s.refused ++ [(s.calls, data)] }
  | .trySendRender data =>
    if s.renders = 0 then s
    else s.noteRender (s.calls, data) (s.queue.trySendRender (s.calls, data))
  | .sendOrdered data =>
    if s.renders = 0 then s
    else s.noteRender (s.calls, data) (s.queue.sendOrdered (s.calls, data))
  | .recv =>
    match s.queue.recv with
    | (.returned item, queue) => { s with queue, returned := s.returned ++ [item] }
    | (.waits, queue) => { s with queue }

/-- The control messages that were received. -/
def receivedControl (s : Writing) : List Message :=
  s.returned.filterMap fun
    | some (.control data) => some data
    | _ => none

/-- The render and ordered messages that were received. -/
def receivedRender (s : Writing) : List Message :=
  s.returned.filterMap fun
    | some (.render data) => some data
    | _ => none

/-! ## The invariant -/

/-- What is received and what waits is what was accepted, in its order. -/
structure Inv (s : Writing) : Prop where
  alive : s.queue.writerAlive = true
  senders : s.queue.senders = s.controls + s.renders
  control : s.receivedControl ++ s.queue.control = s.sentControl
  render : s.receivedRender ++ s.queue.pending = s.sentRender
  ordered : s.queue.ordered.length ≤ 2
  /-- The calls have distinct numbers. -/
  numbered : (s.sentControl ++ s.sentRender ++ s.refused).Pairwise fun m m' => m.1 ≠ m'.1
  calls : ∀ message ∈ s.sentControl ++ s.sentRender ++ s.refused, message.1 < s.calls
  /-- Once `recv` has reported the end, no handle is left and nothing waits. -/
  ended : none ∈ s.returned →
    s.controls = 0 ∧ s.renders = 0 ∧ s.queue.control = [] ∧ s.queue.pending = []

variable {s : Writing}

theorem inv_start : Inv start where
  alive := rfl
  senders := rfl
  control := rfl
  render := rfl
  ordered := Nat.zero_le 2
  numbered := List.Pairwise.nil
  calls := by simp [start]
  ended := by simp [start]

/-- A handle is left, so the end was not reported. -/
theorem Inv.not_ended (h : Inv s) (hhandle : s.controls ≠ 0 ∨ s.renders ≠ 0) :
    none ∉ s.returned := by
  intro hend
  obtain ⟨hcontrols, hrenders, -⟩ := h.ended hend
  omega

/-- Handles come and go. -/
theorem Inv.handles (h : Inv s) (hhandle : s.controls ≠ 0 ∨ s.renders ≠ 0)
    {controls renders senders : ℕ} (hsenders : senders = controls + renders) :
    Inv { s with queue := { s.queue with senders }, controls, renders } where
  alive := h.alive
  senders := hsenders
  control := h.control
  render := h.render
  ordered := h.ordered
  numbered := h.numbered
  calls := h.calls
  ended hend := absurd hend (h.not_ended hhandle)

/-- The number of the next call is that of no call before it. -/
theorem Inv.fresh (h : Inv s) {message : Message}
    (hmem : message ∈ s.sentControl ++ s.sentRender ++ s.refused) : message.1 ≠ s.calls :=
  Nat.ne_of_lt (h.calls message hmem)

/-- A further call, wherever its message goes. -/
theorem Inv.note (h : Inv s) (data : Bytes) {front back : List Message}
    (hcut : s.sentControl ++ s.sentRender ++ s.refused = front ++ back) :
    ((front ++ [(s.calls, data)] ++ back).Pairwise fun m m' => m.1 ≠ m'.1) ∧
      ∀ message ∈ front ++ [(s.calls, data)] ++ back, message.1 < s.calls + 1 := by
  have hperm : (front ++ [(s.calls, data)] ++ back).Perm
      (s.sentControl ++ s.sentRender ++ s.refused ++ [(s.calls, data)]) := by
    rw [hcut, List.append_assoc, List.append_assoc]
    exact List.perm_append_comm.append_left front
  constructor
  · refine (hperm.pairwise_iff fun hne => Ne.symm hne).2 ?_
    refine List.pairwise_append.2 ⟨h.numbered, List.pairwise_singleton _ _, ?_⟩
    intro message hmem last hlast
    rw [List.mem_singleton.1 hlast]
    exact h.fresh hmem
  · intro message hmem
    rcases List.mem_append.1 (hperm.mem_iff.1 hmem) with hmem | hmem
    · exact Nat.lt_succ_of_lt (h.calls message hmem)
    · rw [List.mem_singleton.1 hmem]
      exact Nat.lt_succ_self _

theorem Inv.sendControl (h : Inv s) (hhandle : s.controls ≠ 0) (data : Bytes) :
    Inv (s.step (.sendControl data)) := by
  have hstep : s.step (.sendControl data) =
      { s with
        queue := { s.queue with control := s.queue.control ++ [(s.calls, data)] }
        calls := s.calls + 1
        sentControl := s.sentControl ++ [(s.calls, data)] } := by
    simp [step, hhandle, sendControl_eq h.alive]
  have hnote := h.note data (List.append_assoc _ _ _)
  rw [← List.append_assoc] at hnote
  rw [hstep]
  refine ⟨h.alive, h.senders, ?_, h.render, h.ordered, hnote.1, hnote.2, fun hend => ?_⟩
  · exact (List.append_assoc _ _ _).symm.trans (congrArg (· ++ [(s.calls, data)]) h.control)
  · exact absurd hend (h.not_ended (.inl hhandle))

/-- An accepted render or ordered message goes to the end of what is pending. -/
theorem Inv.sendRender (h : Inv s) (hhandle : s.renders ≠ 0) {data : Bytes} {ordered : List Message}
    {render : Option Message}
    (hpending : ordered ++ render.toList = s.queue.pending ++ [(s.calls, data)])
    (hordered : ordered.length ≤ 2) :
    Inv { s with
      queue := { s.queue with ordered, render }
      calls := s.calls + 1
      sentRender := s.sentRender ++ [(s.calls, data)] } := by
  have hnote := h.note data rfl
  rw [List.append_assoc s.sentControl] at hnote
  refine ⟨h.alive, h.senders, h.control, ?_, hordered, hnote.1, hnote.2, fun hend => ?_⟩
  · calc s.receivedRender ++ (ordered ++ render.toList)
        = (s.receivedRender ++ s.queue.pending) ++ [(s.calls, data)] := by
          rw [hpending, List.append_assoc]
      _ = s.sentRender ++ [(s.calls, data)] := by rw [h.render]
  · exact absurd hend (h.not_ended (.inr hhandle))

theorem Inv.refuse (h : Inv s) (data : Bytes) :
    Inv { s with calls := s.calls + 1, refused := s.refused ++ [(s.calls, data)] } := by
  have hnote := h.note data (List.append_nil _).symm
  rw [List.append_nil, List.append_assoc _ s.refused] at hnote
  exact ⟨h.alive, h.senders, h.control, h.render, h.ordered, hnote.1, hnote.2, h.ended⟩

theorem Inv.trySendRender (h : Inv s) (hhandle : s.renders ≠ 0) (data : Bytes) :
    Inv (s.step (.trySendRender data)) := by
  rcases trySendRender_cases h.alive (s.calls, data) with ⟨next, hok, hrender, rfl⟩ | hfull
  · simp only [step, hhandle, if_false, noteRender, hok]
    exact h.sendRender hhandle (by simp [pending, hrender]) h.ordered
  · simp only [step, hhandle, if_false, noteRender, hfull]
    exact h.refuse data

theorem Inv.sendOrdered (h : Inv s) (hhandle : s.renders ≠ 0) (data : Bytes) :
    Inv (s.step (.sendOrdered data)) := by
  rcases sendOrdered_cases h.alive (s.calls, data) with ⟨next, hok, hordered, rfl⟩ | hfull
  · simp only [step, hhandle, if_false, noteRender, hok]
    refine h.sendRender hhandle (by simp [pending, hordered]) ?_
    rcases s.queue.render with _ | older <;> simp
  · simp only [step, hhandle, if_false, noteRender, hfull]
    exact h.refuse data

theorem Inv.recv (h : Inv s) : Inv (s.step .recv) := by
  rcases s.queue.recv_cases with ⟨data, next, hrecv, hcontrol, hnext⟩ |
    ⟨data, next, hrecv, hpending, hsame, hsenders, halive, hordered⟩ |
    ⟨hrecv, hcontrol, hpending, hsenders⟩ | hrecv
  · simp only [step, hrecv]
    have hsame : next.pending = s.queue.pending := by rw [hnext]; rfl
    refine ⟨by rw [hnext]; exact h.alive, by rw [hnext]; exact h.senders, ?_, ?_,
      by rw [hnext]; exact h.ordered, h.numbered, h.calls, fun hend => ?_⟩
    · rw [← h.control, hcontrol]
      simp [receivedControl, List.filterMap_append]
    · rw [hsame, ← h.render]
      simp [receivedRender, List.filterMap_append]
    · obtain ⟨-, -, hnil, -⟩ := h.ended (by simpa using hend)
      simp [hcontrol] at hnil
  · simp only [step, hrecv]
    refine ⟨halive.trans h.alive, hsenders.trans h.senders, ?_, ?_,
      Nat.le_trans hordered h.ordered, h.numbered, h.calls, fun hend => ?_⟩
    · rw [hsame, ← h.control]
      simp [receivedControl, List.filterMap_append]
    · rw [← h.render, hpending]
      simp [receivedRender, List.filterMap_append]
    · obtain ⟨-, -, -, hnil⟩ := h.ended (by simpa using hend)
      simp [hpending] at hnil
  · simp only [step, hrecv]
    obtain ⟨hcontrols, hrenders⟩ := Nat.add_eq_zero_iff.1 (h.senders.symm.trans hsenders)
    refine ⟨h.alive, h.senders, ?_, ?_, h.ordered, h.numbered, h.calls, fun _ => ?_⟩
    · rw [← h.control]
      simp [receivedControl, List.filterMap_append]
    · rw [← h.render]
      simp [receivedRender, List.filterMap_append]
    · exact ⟨hcontrols, hrenders, hcontrol, hpending⟩
  · simp only [step, hrecv]
    exact h

theorem inv_step (s : Writing) (event : WriterEvent) (h : Inv s) : Inv (s.step event) := by
  have hsenders := h.senders
  cases event with
  | cloneControl =>
    by_cases hhandle : s.controls = 0
    · simpa [step, hhandle] using h
    · simp only [step, hhandle, if_false]
      exact h.handles (.inl hhandle) (by omega)
  | dropControl =>
    by_cases hhandle : s.controls = 0
    · simpa [step, hhandle] using h
    · simp only [step, hhandle, if_false]
      exact h.handles (.inl hhandle) (by omega)
  | cloneRender =>
    by_cases hhandle : s.renders = 0
    · simpa [step, hhandle] using h
    · simp only [step, hhandle, if_false]
      exact h.handles (.inr hhandle) (by omega)
  | dropRender =>
    by_cases hhandle : s.renders = 0
    · simpa [step, hhandle] using h
    · simp only [step, hhandle, if_false]
      exact h.handles (.inr hhandle) (by omega)
  | sendControl data =>
    by_cases hhandle : s.controls = 0
    · simpa [step, hhandle] using h
    · exact h.sendControl hhandle data
  | trySendRender data =>
    by_cases hhandle : s.renders = 0
    · simpa [step, hhandle] using h
    · exact h.trySendRender hhandle data
  | sendOrdered data =>
    by_cases hhandle : s.renders = 0
    · simpa [step, hhandle] using h
    · exact h.sendOrdered hhandle data
  | recv => exact h.recv

/-! ## The result -/

/-- Nothing that was accepted is lost, doubled or out of order. -/
structure Faithful (s : Writing) : Prop where
  /-- The control messages are received in the order they were sent; the others wait. -/
  control : s.receivedControl ++ s.queue.control = s.sentControl
  /-- The render and ordered messages are received in the order they were accepted. -/
  render : s.receivedRender ++ s.queue.pending = s.sentRender
  /-- Each call sends one message, with a number of its own. -/
  once : ((s.sentControl ++ s.sentRender).map (·.1)).Nodup
  bounded : s.queue.pending.length ≤ 3
  refused : ∀ message ∈ s.refused, message ∉ s.receivedControl ++ s.receivedRender
  ended : none ∈ s.returned → s.queue.senders = 0 ∧ s.controls = 0 ∧ s.renders = 0 ∧
    s.receivedControl = s.sentControl ∧ s.receivedRender = s.sentRender

theorem Inv.faithful (h : Inv s) : Faithful s where
  control := h.control
  render := h.render
  once := by
    rw [List.Nodup, List.pairwise_map]
    exact (List.pairwise_append.1 h.numbered).1
  bounded := by
    have hordered := h.ordered
    rw [pending, List.length_append]
    rcases s.queue.render with _ | older <;> simp <;> omega
  refused message hrefused hreceived := by
    have hsent : message ∈ s.sentControl ++ s.sentRender := by
      rw [← h.control, ← h.render]
      rcases List.mem_append.1 hreceived with hmem | hmem <;> simp [hmem]
    exact (List.pairwise_append.1 h.numbered).2.2 message hsent message hrefused rfl
  ended hend := by
    obtain ⟨hcontrols, hrenders, hcontrol, hpending⟩ := h.ended hend
    refine ⟨by rw [h.senders, hcontrols, hrenders], hcontrols, hrenders, ?_, ?_⟩
    · simpa [hcontrol] using h.control
    · simpa [hpending] using h.render

/-- In every run the queue is faithful to what it accepted. -/
theorem writer_queue_faithful (events : List WriterEvent) :
    Faithful (StepRun.run step start events) :=
  (StepRun.run_invariant (I := Inv) inv_step inv_start events).faithful

end Writing

end Zynk.Server
