import Zynk.Lib.Run
import Zynk.Store.Receipt

/-!
# The receipt worker

`zynk/worker_pause.rs` and `zynk/receipt_worker.rs` : receipts are written by one worker thread,
which takes jobs from a bounded channel. A call counts its job under the mutex of the pause control
before it hands it to the channel, and the worker counts it off under the same mutex when it begins
it, so that the owner of the worker can wait until nothing is outstanding.

Every critical section is one step, and every operation of the channel is one, so `step` over a list
of events is an interleaving of any number of calls of `submit`, the worker and the owner. The waits
of `pause` and of `submit` are left to the events : a turn says whether the deadline has passed.

`Exact` is what holds in every reachable state : the counter is the number of the admissions whose
job has not begun, and jobs are begun in the order they were handed off. `Quiesces` is what holds
from the moment `pause` returns `true` until `resume` or `stop`.
-/

namespace Zynk

/-! ## `PauseControl` -/

structure PauseControl where
  paused : Bool := false
  idle : Bool := false
  stopping : Bool := false
  /-- Units that were accepted and have not begun. -/
  queued : ℕ := 0
  deriving DecidableEq, Repr

namespace PauseControl

def setIdle (control : PauseControl) : PauseControl :=
  { control with idle := true }

def tryEnqueue (control : PauseControl) : Bool × PauseControl :=
  if control.paused || control.stopping then (false, control)
  else (true, { control with queued := control.queued + 1 })

def unenqueue (control : PauseControl) : PauseControl :=
  { control with queued := control.queued - 1 }

def beginWork (control : PauseControl) : PauseControl :=
  { control with queued := control.queued - 1, idle := false }

def endWork (control : PauseControl) : PauseControl :=
  control.setIdle

/-- A turn of the loop of `pause` : what it returns, or nothing when it waits on. -/
def pauseTurn (control : PauseControl) (expired : Bool) : Option Bool :=
  if control.idle && control.queued == 0 then some true
  else if expired then some false
  else none

def resume (control : PauseControl) : PauseControl :=
  { control with paused := false }

def stop (control : PauseControl) : PauseControl :=
  { control with stopping := true, paused := false }

end PauseControl

/-! ## What a counter counts -/

/-- The counter is the number of what is outstanding, which is what was admitted and is not
settled. -/
structure Counted {α : Type} (queued : ℕ) (admissions settled outstanding : List α) : Prop where
  queued : queued = outstanding.length
  admissions : admissions.Perm (settled ++ outstanding)

namespace Counted

variable {α : Type} {queued : ℕ} {admissions settled settled' outstanding outstanding' : List α}
  {a : α}

theorem move (h : Counted queued admissions settled outstanding)
    (hmoved : outstanding'.Perm outstanding) :
    Counted queued admissions settled outstanding' where
  queued := h.queued.trans hmoved.length_eq.symm
  admissions := h.admissions.trans (hmoved.symm.append_left settled)

theorem enqueue (h : Counted queued admissions settled outstanding)
    (hadmitted : outstanding'.Perm (a :: outstanding)) :
    Counted (queued + 1) (admissions ++ [a]) settled outstanding' where
  queued := by rw [hadmitted.length_eq, List.length_cons, h.queued]
  admissions := calc
    (admissions ++ [a]).Perm (a :: admissions) := List.perm_append_comm
    _ |>.Perm (a :: (settled ++ outstanding)) := h.admissions.cons a
    _ |>.Perm (settled ++ a :: outstanding) := List.perm_middle.symm
    _ |>.Perm (settled ++ outstanding') := hadmitted.symm.append_left settled

/-- The counter does not saturate : what is settled was counted. -/
theorem settle (h : Counted queued admissions settled outstanding)
    (houtstanding : outstanding.Perm (a :: outstanding'))
    (hsettled : settled'.Perm (a :: settled)) :
    Counted (queued - 1) admissions settled' outstanding' where
  queued := by rw [h.queued, houtstanding.length_eq, List.length_cons, Nat.add_sub_cancel]
  admissions := calc
    admissions.Perm (settled ++ outstanding) := h.admissions
    _ |>.Perm (settled ++ a :: outstanding') := houtstanding.append_left settled
    _ |>.Perm (a :: settled ++ outstanding') := List.perm_middle
    _ |>.Perm (settled' ++ outstanding') := hsettled.symm.append_right outstanding'

end Counted

/-! ## The worker -/

/-- A job, with the number of the call that waits for its response. -/
structure ReceiptJob where
  number : ℕ
  request : ReceiptRequest
  receiver : AuthoritativeReceiver
  currentSocketNamespace : String
  currentRuntimeId : String
  now : String

inductive WorkerMessage where
  | job (job : ReceiptJob)
  | shutdown

/-- Where the worker thread is in `worker_loop`. -/
inductive WorkerLoop where
  | starting
  | receiving
  /-- It has received the job and has not begun it. -/
  | received (job : ReceiptJob)
  | working (job : ReceiptJob)
  /-- It has responded and not yet reported that it is idle. -/
  | responded (job : ReceiptJob)
  | returned
  /-- It panicked, with the job it was working on. -/
  | panicked (job : Option ReceiptJob)

namespace WorkerLoop

/-- The receiver of the channel is dropped when the worker ends. -/
def ended : WorkerLoop → Bool
  | .returned | .panicked _ => true
  | _ => false

/-- The worker is not between two jobs. -/
def busy : WorkerLoop → Bool
  | .starting | .working _ | .responded _ => true
  | _ => false

/-- The job that is received and has not begun. -/
def held : WorkerLoop → List ReceiptJob
  | .received job => [job]
  | _ => []

/-- The job that has begun and has no response. -/
def unanswered : WorkerLoop → List ReceiptJob
  | .working job | .panicked (some job) => [job]
  | _ => []

end WorkerLoop

/-- The worker with its handle and the calls of `submit`. What follows `pausing` are the calls at
each place of `submit`, and what follows `waiting` are histories. -/
structure ReceiptWorker where
  control : PauseControl := {}
  sender : Bool := true
  channel : List WorkerMessage := []
  runtime : Bool := false
  loop : WorkerLoop := .starting
  /-- The owner waits in `pause`. -/
  pausing : Bool := false
  calls : ℕ := 0
  admitted : List ReceiptJob := []
  refusing : List (ReceiptJob × DbError) := []
  waiting : List ReceiptJob := []
  admissions : List ReceiptJob := []
  handedOff : List ReceiptJob := []
  begun : List ReceiptJob := []
  /-- Those that were refused without being admitted. -/
  refused : List ReceiptJob := []
  /-- Those that were admitted, and that the channel did not take. -/
  withdrawn : List ReceiptJob := []
  /-- Those that were in the channel when the worker ended. -/
  lost : List ReceiptJob := []
  responses : List (ℕ × Except DbError ReceiptAccepted) := []
  results : List (ℕ × Except DbError ReceiptAccepted) := []
  pauses : List Bool := []

inductive ReceiptWorkerEvent where
  | submit (request : ReceiptRequest) (receiver : AuthoritativeReceiver)
      (currentSocketNamespace currentRuntimeId now : String)
  /-- `try_send`. -/
  | handOff (number : ℕ)
  | unenqueue (number : ℕ)
  /-- A turn of `recv_timeout`. -/
  | await (number : ℕ) (expired : Bool)
  /-- The runtime is built or not; the database may not be open yet. -/
  | started (runtime : Bool)
  | receive
  | beginWork
  /-- The database as it is when the job is processed, or none if it cannot be opened. -/
  | process (db : Option Db) (eventId : String)
  | panic
  | endWork
  | pause (expired : Bool)
  | pauseTurn (expired : Bool)
  | resume
  | stop
  /-- The rest of `drop` behind `stop`. -/
  | shutdown

namespace ReceiptWorker

def channelBound : ℕ := 64

def jobs (messages : List WorkerMessage) : List ReceiptJob :=
  messages.filterMap fun
    | .job job => some job
    | .shutdown => none

def unavailable : DbError :=
  ⟨"receipt_worker_unavailable", "receipt worker is not running"⟩

def quiescing : DbError :=
  ⟨"receipt_worker_busy", "a live handoff is quiescing the receipt worker; the receipt was not enqueued — retry to resolve the true state"⟩

def full : DbError :=
  ⟨"receipt_worker_busy", "receipt worker queue is full; the receipt was not enqueued — retry to resolve the true state"⟩

def resultUnknown : DbError :=
  ⟨"receipt_result_unknown", "receipt worker did not respond within the timeout; the DB write may or may not have landed — retry to resolve the true state"⟩

def disconnected : DbError :=
  ⟨"receipt_worker_unavailable", "receipt worker disconnected before responding"⟩

def numbered (number : ℕ) (job : ReceiptJob) : Bool :=
  job.number == number

/-- The sender of its response was dropped with the job. -/
def responderDropped (s : ReceiptWorker) (number : ℕ) : Bool :=
  s.lost.any (numbered number) ||
    match s.loop with
    | .panicked (some job) => numbered number job
    | _ => false

/-! ### The calls -/

def submit (s : ReceiptWorker) (job : ReceiptJob) : ReceiptWorker :=
  let s := { s with calls := s.calls + 1 }
  if !s.sender then
    { s with
      refused := s.refused ++ [job], results := s.results ++ [(job.number, .error unavailable)] }
  else
    match s.control.tryEnqueue with
    | (false, control) =>
      { s with
        control
        refused := s.refused ++ [job]
        results := s.results ++ [(job.number, .error quiescing)] }
    | (true, control) =>
      { s with control, admitted := s.admitted ++ [job], admissions := s.admissions ++ [job] }

/-- `sender.try_send`. -/
def handOff (s : ReceiptWorker) (job : ReceiptJob) : ReceiptWorker :=
  let admitted := s.admitted.eraseP (numbered job.number)
  if s.loop.ended then { s with admitted, refusing := s.refusing ++ [(job, unavailable)] }
  else if channelBound ≤ s.channel.length then
    { s with admitted, refusing := s.refusing ++ [(job, full)] }
  else
    { s with
      admitted
      channel := s.channel ++ [.job job]
      waiting := s.waiting ++ [job]
      handedOff := s.handedOff ++ [job] }

def unenqueue (s : ReceiptWorker) (refusal : ReceiptJob × DbError) : ReceiptWorker :=
  { s with
    control := s.control.unenqueue
    refusing := s.refusing.eraseP fun r => numbered refusal.1.number r.1
    withdrawn := s.withdrawn ++ [refusal.1]
    results := s.results ++ [(refusal.1.number, .error refusal.2)] }

/-- A turn of `response.recv_timeout`. -/
def await (s : ReceiptWorker) (job : ReceiptJob) (expired : Bool) : ReceiptWorker :=
  let return_ (result : Except DbError ReceiptAccepted) : ReceiptWorker :=
    { s with
      waiting := s.waiting.eraseP (numbered job.number)
      results := s.results ++ [(job.number, result)] }
  match s.responses.lookup job.number with
  | some result => return_ result
  | none =>
    if s.responderDropped job.number then return_ (.error disconnected)
    else if expired then return_ (.error resultUnknown)
    else s

/-! ### The worker -/

/-- `receiver.recv`, which waits for a message or the end of the senders. When the worker ends, what
is in the channel is dropped. -/
def receive (s : ReceiptWorker) : ReceiptWorker :=
  match s.channel with
  | .job job :: channel => { s with channel, loop := .received job }
  | .shutdown :: channel => { s with channel := [], loop := .returned, lost := jobs channel }
  | [] => if s.sender then s else { s with loop := .returned }

def beginWork (s : ReceiptWorker) (job : ReceiptJob) : ReceiptWorker :=
  { s with control := s.control.beginWork, loop := .working job, begun := s.begun ++ [job] }

/-- The result of a job. The connection that could not be opened is tried again. -/
def result (s : ReceiptWorker) (job : ReceiptJob) (db : Option Db) (eventId : String) :
    Except DbError ReceiptAccepted :=
  if !s.runtime then
    .error ⟨"tokio_runtime_failed", "receipt worker could not build its Tokio runtime"⟩
  else
    match db with
    | some db =>
      (appendReceivedEvent eventId job.request job.receiver job.currentSocketNamespace
        job.currentRuntimeId job.now db).1
    | none => .error ⟨"db_error", "receipt worker could not open the native database"⟩

def process (s : ReceiptWorker) (job : ReceiptJob) (db : Option Db) (eventId : String) :
    ReceiptWorker :=
  { s with
    loop := .responded job
    responses := s.responses ++ [(job.number, s.result job db eventId)] }

def panic (s : ReceiptWorker) (job : Option ReceiptJob) : ReceiptWorker :=
  { s with channel := [], loop := .panicked job, lost := jobs s.channel }

/-! ### The owner -/

def pauseTurn (s : ReceiptWorker) (expired : Bool) : ReceiptWorker :=
  match s.control.pauseTurn expired with
  | some result => { s with pausing := false, pauses := s.pauses ++ [result] }
  | none => { s with pausing := true }

def shutdown (s : ReceiptWorker) : ReceiptWorker :=
  let channel :=
    if s.loop.ended = true ∨ channelBound ≤ s.channel.length then s.channel
    else s.channel ++ [.shutdown]
  { s with channel, sender := false }

/-- No call is in `submit`. -/
def noCall (s : ReceiptWorker) : Bool :=
  s.admitted.isEmpty && s.refusing.isEmpty && s.waiting.isEmpty

/-! ### Steps -/

/-- A call that is not at its place, a worker that is not at its place and an owner that waits in
`pause` take no step. The handle is dropped only when no call borrows it. -/
def step (s : ReceiptWorker) : ReceiptWorkerEvent → ReceiptWorker
  | .submit request receiver currentSocketNamespace currentRuntimeId now =>
    s.submit ⟨s.calls, request, receiver, currentSocketNamespace, currentRuntimeId, now⟩
  | .handOff number =>
    match s.admitted.find? (numbered number) with
    | some job => s.handOff job
    | none => s
  | .unenqueue number =>
    match s.refusing.find? (fun r => numbered number r.1) with
    | some refusal => s.unenqueue refusal
    | none => s
  | .await number expired =>
    match s.waiting.find? (numbered number) with
    | some job => s.await job expired
    | none => s
  | .started runtime =>
    match s.loop with
    | .starting => { s with control := s.control.setIdle, runtime, loop := .receiving }
    | _ => s
  | .receive =>
    match s.loop with
    | .receiving => s.receive
    | _ => s
  | .beginWork =>
    match s.loop with
    | .received job => s.beginWork job
    | _ => s
  | .process db eventId =>
    match s.loop with
    | .working job => s.process job db eventId
    | _ => s
  | .panic =>
    match s.loop with
    | .starting => s.panic none
    | .working job => s.panic (some job)
    | _ => s
  | .endWork =>
    match s.loop with
    | .responded _ => { s with control := s.control.endWork, loop := .receiving }
    | _ => s
  | .pause expired =>
    if s.pausing then s
    else { s with control := { s.control with paused := true } }.pauseTurn expired
  | .pauseTurn expired => if s.pausing then s.pauseTurn expired else s
  | .resume => if s.pausing then s else { s with control := s.control.resume }
  | .stop => if s.pausing then s else { s with control := s.control.stop }
  | .shutdown =>
    if s.pausing || !s.control.stopping || !s.sender || !s.noCall then s else s.shutdown

/-! ## The invariant -/

/-- What was handed off and has not begun, in the order it was handed off. -/
def unbegun (s : ReceiptWorker) : List ReceiptJob :=
  s.loop.held ++ jobs s.channel ++ s.lost

/-- The admissions whose job has not begun : those between admission and hand-off, those the channel
did not take and that still count, and what was handed off and has not begun. -/
def outstanding (s : ReceiptWorker) : List ReceiptJob :=
  s.admitted ++ s.refusing.map (·.1) ++ s.unbegun

structure Inv (s : ReceiptWorker) : Prop where
  counted : Counted s.control.queued s.admissions (s.begun ++ s.withdrawn) s.outstanding
  order : s.handedOff = s.begun ++ s.unbegun
  /-- The calls have distinct numbers. -/
  numbers : ((s.admissions ++ s.refused).map (·.number)).Nodup
  calls : ∀ job ∈ s.admissions ++ s.refused, job.number < s.calls
  responses : s.responses.map (·.1) ++ s.loop.unanswered.map (·.number) = s.begun.map (·.number)
  idle : s.control.idle = true → s.loop.busy = false
  /-- The handle's last message is behind every job. -/
  channel : s.channel = (jobs s.channel).map .job ∨
    s.sender = false ∧ s.channel = (jobs s.channel).map .job ++ [.shutdown]
  bounded : s.channel.length ≤ 64
  /-- Without the handle there is no call. -/
  closed : s.sender = false → s.admitted = []
  ended : s.loop.ended = true → s.channel = []
  lost : s.lost ≠ [] → ∃ job, s.loop = .panicked job
  lostBounded : s.lost.length ≤ 64
  /-- While the owner waits in `pause`, nothing is admitted. -/
  waits : s.pausing = true → s.control.paused = true

variable {s : ReceiptWorker} {job : ReceiptJob}

theorem inv_start : Inv {} where
  counted := ⟨rfl, .nil⟩
  order := rfl
  numbers := .nil
  calls := by simp
  responses := rfl
  idle := by simp
  channel := .inl rfl
  bounded := by simp
  closed := by simp
  ended := by simp
  lost := by simp
  lostBounded := by simp
  waits := nofun

/-- Taking out the one that was found. -/
theorem perm_of_find? {α : Type*} {p : α → Bool} {l : List α} {a : α} (h : l.find? p = some a) :
    l.Perm (a :: l.eraseP p) := by
  obtain ⟨ha, front, back, rfl, hfront⟩ := List.find?_eq_some_iff_append.1 h
  rw [List.eraseP_append_right _ (by simpa using hfront), List.eraseP_cons_of_pos ha]
  exact List.perm_middle

theorem jobs_append (front back : List WorkerMessage) :
    jobs (front ++ back) = jobs front ++ jobs back :=
  List.filterMap_append

/-- The number of a new call is that of no call before it. -/
theorem Inv.number (h : Inv s) (all : List ReceiptJob) (hjob : job.number = s.calls)
    (hall : all.Perm (job :: (s.admissions ++ s.refused))) :
    (all.map (·.number)).Nodup ∧ ∀ j ∈ all, j.number < s.calls + 1 := by
  constructor
  · refine ((hall.map _).nodup_iff).2 ?_
    rw [List.map_cons, List.nodup_cons]
    refine ⟨fun hmem => ?_, h.numbers⟩
    obtain ⟨older, holder, hnumber⟩ := List.mem_map.1 hmem
    exact (Nat.ne_of_lt (h.calls older holder)) (hnumber.trans hjob)
  · intro j hj
    rcases List.mem_cons.1 (hall.mem_iff.1 hj) with rfl | hj
    · omega
    · exact Nat.lt_succ_of_lt (h.calls j hj)

/-- A call that is refused at once. -/
theorem Inv.refuse (h : Inv s) (hjob : job.number = s.calls)
    {results : List (ℕ × Except DbError ReceiptAccepted)} :
    Inv { s with calls := s.calls + 1, refused := s.refused ++ [job], results } := by
  obtain ⟨hnumbers, hcalls⟩ := h.number (s.admissions ++ (s.refused ++ [job])) hjob <| by
    rw [← List.append_assoc]
    exact List.perm_append_comm
  exact ⟨h.counted, h.order, hnumbers, hcalls, h.responses, h.idle, h.channel, h.bounded, h.closed,
    h.ended, h.lost, h.lostBounded, h.waits⟩

theorem Inv.enqueue (h : Inv s) (hjob : job.number = s.calls) (hsender : s.sender = true) :
    Inv { s with
      calls := s.calls + 1
      control := { s.control with queued := s.control.queued + 1 }
      admitted := s.admitted ++ [job]
      admissions := s.admissions ++ [job] } := by
  obtain ⟨hnumbers, hcalls⟩ := h.number (s.admissions ++ [job] ++ s.refused) hjob <| by
    rw [List.append_assoc]
    exact List.perm_middle
  refine ⟨h.counted.enqueue ?_, h.order, hnumbers, hcalls, h.responses, h.idle, h.channel, h.bounded,
    fun hclosed => absurd hclosed (by simp [hsender]), h.ended, h.lost, h.lostBounded, h.waits⟩
  calc (s.admitted ++ [job] ++ s.refusing.map (·.1) ++ s.unbegun).Perm
        (s.admitted ++ job :: (s.refusing.map (·.1) ++ s.unbegun)) := by simp
    _ |>.Perm (job :: (s.admitted ++ (s.refusing.map (·.1) ++ s.unbegun))) := List.perm_middle
    _ |>.Perm (job :: s.outstanding) := by simp [outstanding]

theorem Inv.submit (h : Inv s) (hjob : job.number = s.calls) : Inv (s.submit job) := by
  by_cases hsender : s.sender
  · by_cases hbusy : s.control.paused || s.control.stopping
    · simpa [ReceiptWorker.submit, hsender, PauseControl.tryEnqueue, hbusy] using h.refuse hjob
    · simpa [ReceiptWorker.submit, hsender, PauseControl.tryEnqueue, hbusy] using
        h.enqueue hjob hsender
  · simpa [ReceiptWorker.submit, hsender] using h.refuse hjob

/-- A job that leaves the admitted ones goes to those that are refused, or to the channel. -/
theorem outstanding_handOff (hjob : s.admitted.find? (numbered job.number) = some job)
    {refusing unbegun : List ReceiptJob}
    (hmoved : (refusing ++ unbegun).Perm (job :: (s.refusing.map (·.1) ++ s.unbegun))) :
    (s.admitted.eraseP (numbered job.number) ++ refusing ++ unbegun).Perm s.outstanding := by
  rw [List.append_assoc, outstanding, List.append_assoc]
  calc (s.admitted.eraseP (numbered job.number) ++ (refusing ++ unbegun)).Perm
        (s.admitted.eraseP (numbered job.number) ++ job :: (s.refusing.map (·.1) ++ s.unbegun)) :=
        hmoved.append_left _
    _ |>.Perm
        (job :: s.admitted.eraseP (numbered job.number) ++ (s.refusing.map (·.1) ++ s.unbegun)) :=
        List.perm_middle
    _ |>.Perm (s.admitted ++ (s.refusing.map (·.1) ++ s.unbegun)) :=
        (perm_of_find? hjob).symm.append_right _

/-- The channel does not take the job. -/
theorem Inv.turnAway (h : Inv s) (hjob : s.admitted.find? (numbered job.number) = some job)
    (e : DbError) :
    Inv { s with
      admitted := s.admitted.eraseP (numbered job.number)
      refusing := s.refusing ++ [(job, e)] } := by
  refine ⟨h.counted.move (outstanding_handOff hjob ?_), h.order, h.numbers, h.calls, h.responses,
    h.idle, h.channel, h.bounded, fun hclosed => by simp [h.closed hclosed], h.ended, h.lost,
    h.lostBounded, h.waits⟩
  rw [List.map_append, List.append_assoc]
  exact List.perm_middle

theorem Inv.lost_eq_nil (h : Inv s) (hended : s.loop.ended = false) : s.lost = [] := by
  by_contra hlost
  obtain ⟨job, hloop⟩ := h.lost hlost
  simp [WorkerLoop.ended, hloop] at hended

theorem Inv.handOff (h : Inv s) (hjob : s.admitted.find? (numbered job.number) = some job) :
    Inv (s.handOff job) := by
  rw [ReceiptWorker.handOff]
  by_cases hended : s.loop.ended = true
  · rw [if_pos hended]
    exact h.turnAway hjob unavailable
  rw [if_neg hended]
  by_cases hfull : channelBound ≤ s.channel.length
  · rw [if_pos hfull]
    exact h.turnAway hjob full
  rw [if_neg hfull]
  have hlost : s.lost = [] := h.lost_eq_nil (by simpa using hended)
  have hjobs : jobs (s.channel ++ [.job job]) = jobs s.channel ++ [job] := jobs_append _ _
  have hunbegun : s.loop.held ++ jobs (s.channel ++ [.job job]) ++ s.lost = s.unbegun ++ [job] := by
    simp [unbegun, hlost, hjobs]
  have hmoved : (s.refusing.map (·.1) ++
      (s.loop.held ++ jobs (s.channel ++ [.job job]) ++ s.lost)).Perm
      (job :: (s.refusing.map (·.1) ++ s.unbegun)) := by
    rw [hunbegun, ← List.append_assoc]
    exact List.perm_append_comm
  have hsender : s.sender ≠ false := fun hclosed => by
    rw [h.closed hclosed] at hjob
    exact absurd hjob (by simp)
  refine ⟨h.counted.move (outstanding_handOff hjob hmoved), ?_, h.numbers, h.calls, h.responses,
    h.idle, .inl ?_, ?_, fun hclosed => absurd hclosed hsender,
    fun hended' => absurd hended' hended, h.lost, h.lostBounded, h.waits⟩
  · calc s.handedOff ++ [job] = s.begun ++ (s.unbegun ++ [job]) := by
          rw [h.order, List.append_assoc]
      _ = s.begun ++ (s.loop.held ++ jobs (s.channel ++ [.job job]) ++ s.lost) := by rw [hunbegun]
  · rcases h.channel with hchannel | ⟨hclosed, -⟩
    · change s.channel ++ [.job job] = (jobs (s.channel ++ [.job job])).map .job
      rw [hjobs, List.map_append, ← hchannel]
      rfl
    · exact absurd hclosed hsender
  · rw [List.length_append, List.length_singleton]
    simp only [channelBound] at hfull
    omega

theorem Inv.unenqueue (h : Inv s) {refusal : ReceiptJob × DbError}
    (hrefusal : s.refusing.find? (fun r => numbered refusal.1.number r.1) = some refusal) :
    Inv (s.unenqueue refusal) := by
  have hsettled : (s.begun ++ (s.withdrawn ++ [refusal.1])).Perm
      (refusal.1 :: (s.begun ++ s.withdrawn)) := by
    rw [← List.append_assoc]
    exact List.perm_append_comm
  refine ⟨h.counted.settle ?_ hsettled, h.order, h.numbers, h.calls, h.responses,
    h.idle, h.channel, h.bounded, h.closed, h.ended, h.lost, h.lostBounded, h.waits⟩
  have hperm := ((perm_of_find? hrefusal).map (·.1)).append_left s.admitted
  exact (hperm.trans List.perm_middle).append_right s.unbegun

theorem Inv.await (h : Inv s) (job : ReceiptJob) (expired : Bool) : Inv (s.await job expired) := by
  have hreturn : ∀ result : Except DbError ReceiptAccepted, Inv
      { s with
        waiting := s.waiting.eraseP (numbered job.number)
        results := s.results ++ [(job.number, result)] } := fun _ =>
    ⟨h.counted, h.order, h.numbers, h.calls, h.responses, h.idle, h.channel, h.bounded, h.closed,
      h.ended, h.lost, h.lostBounded, h.waits⟩
  rw [ReceiptWorker.await]
  split
  · exact hreturn _
  · split_ifs
    · exact hreturn _
    · exact hreturn _
    · exact h

/-- The worker moves on, and begins no job. -/
theorem Inv.move (h : Inv s) {idle runtime : Bool} {channel : List WorkerMessage}
    {loop : WorkerLoop} {lost : List ReceiptJob}
    {responses : List (ℕ × Except DbError ReceiptAccepted)}
    (hunbegun : loop.held ++ jobs channel ++ lost = s.unbegun)
    (hresponses : responses.map (·.1) ++ loop.unanswered.map (·.number) = s.begun.map (·.number))
    (hidle : idle = true → loop.busy = false)
    (hchannel : channel = (jobs channel).map .job ∨
      s.sender = false ∧ channel = (jobs channel).map .job ++ [.shutdown])
    (hbounded : channel.length ≤ 64) (hended : loop.ended = true → channel = [])
    (hlost : lost ≠ [] → ∃ job, loop = .panicked job) (hlostBounded : lost.length ≤ 64) :
    Inv { s with
      control := { s.control with idle }, runtime, channel, loop, lost, responses } := by
  have houtstanding : s.admitted ++ s.refusing.map (·.1) ++ (loop.held ++ jobs channel ++ lost) =
      s.outstanding := by
    rw [hunbegun]
    rfl
  exact ⟨h.counted.move (.of_eq houtstanding), h.order.trans (by rw [← hunbegun]; rfl), h.numbers,
    h.calls, hresponses, hidle, hchannel, hbounded, h.closed, hended, hlost, hlostBounded, h.waits⟩

theorem Inv.setIdle (h : Inv s) (hheld : s.loop.held = []) (hunanswered : s.loop.unanswered = [])
    (hended : s.loop.ended = false) {runtime : Bool} :
    Inv { s with control := s.control.setIdle, runtime, loop := .receiving } := by
  have hlost := h.lost_eq_nil hended
  refine h.move ?_ ?_ (fun _ => rfl) h.channel h.bounded nofun (fun hne => absurd hlost hne)
    h.lostBounded
  · rw [unbegun, hheld]
    rfl
  · rw [← h.responses, hunanswered]
    rfl

theorem Inv.receive (h : Inv s) (hloop : s.loop = .receiving) : Inv s.receive := by
  have hlost : s.lost = [] := h.lost_eq_nil (by rw [hloop]; rfl)
  have hunbegun : s.unbegun = jobs s.channel := by simp [unbegun, hloop, hlost, WorkerLoop.held]
  have hresponses := h.responses
  have hidle : s.control.idle = true → _ := h.idle
  have hchannel := h.channel
  have hbounded := h.bounded
  rw [hloop] at hresponses hidle
  rw [ReceiptWorker.receive]
  rcases hmessages : s.channel with _ | ⟨job | -, channel⟩
  · by_cases hsender : s.sender = true
    · simpa [hsender] using h
    · have hreturned : s.unbegun = WorkerLoop.returned.held ++ jobs s.channel ++ s.lost := by
        rw [unbegun, hloop]
        rfl
      simp only [if_neg hsender]
      rw [← hmessages]
      exact h.move hreturned.symm hresponses hidle hchannel hbounded (fun _ => hmessages)
        (fun hne => absurd hlost hne) h.lostBounded
  · rw [hmessages, List.length_cons] at hbounded
    refine h.move ?_ hresponses hidle ?_ (by omega) nofun (fun hne => absurd hlost hne)
      h.lostBounded
    · rw [hunbegun, hmessages, hlost, List.append_nil]
      rfl
    · rw [hmessages] at hchannel
      simpa [jobs] using hchannel
  · -- Nothing is behind the last message.
    have hlast : channel = [] := by
      rw [hmessages] at hchannel
      rcases hjobs : jobs (.shutdown :: channel) with _ | ⟨job, rest⟩
      · rw [hjobs] at hchannel
        rcases hchannel with hchannel | ⟨-, hchannel⟩
        · simp at hchannel
        · simpa using hchannel
      · simp [hjobs] at hchannel
    subst hlast
    exact h.move (by rw [hunbegun, hmessages]; rfl) hresponses hidle (.inl rfl) (Nat.zero_le _)
      (fun _ => rfl) nofun (Nat.zero_le _)

theorem Inv.beginWork (h : Inv s) (hloop : s.loop = .received job) : Inv (s.beginWork job) := by
  have hlost : s.lost = [] := h.lost_eq_nil (by rw [hloop]; rfl)
  have hunbegun : s.unbegun = job :: (jobs s.channel ++ s.lost) := by
    rw [unbegun, hloop]
    rfl
  have hsettled : (s.begun ++ [job] ++ s.withdrawn).Perm (job :: (s.begun ++ s.withdrawn)) := by
    rw [List.append_assoc]
    exact List.perm_middle
  have hresponses := h.responses
  rw [hloop] at hresponses
  refine ⟨h.counted.settle ?_ hsettled, ?_, h.numbers, h.calls, ?_, nofun, h.channel, h.bounded,
    h.closed, nofun, fun hne => absurd hlost hne, h.lostBounded, h.waits⟩
  · rw [outstanding, hunbegun]
    exact List.perm_middle
  · calc s.handedOff = s.begun ++ job :: (jobs s.channel ++ s.lost) := by rw [h.order, hunbegun]
      _ = s.begun ++ [job] ++ (jobs s.channel ++ s.lost) := by simp
  · calc s.responses.map (·.1) ++ [job.number]
        = s.begun.map (·.number) ++ [job.number] := by
          rw [← hresponses]
          simp [WorkerLoop.unanswered]
      _ = (s.begun ++ [job]).map (·.number) := by simp

theorem Inv.process (h : Inv s) (hloop : s.loop = .working job) (db : Option Db)
    (eventId : String) : Inv (s.process job db eventId) := by
  have hlost : s.lost = [] := h.lost_eq_nil (by rw [hloop]; rfl)
  refine h.move ?_ ?_ ?_ h.channel h.bounded nofun (fun hne => absurd hlost hne) h.lostBounded
  · rw [unbegun, hloop]
    rfl
  · rw [← h.responses, hloop]
    simp [WorkerLoop.unanswered]
  · have hidle := h.idle
    rw [hloop] at hidle
    exact hidle

theorem Inv.panic (h : Inv s) (job : Option ReceiptJob) (hended : s.loop.ended = false)
    (hheld : s.loop.held = []) (hunanswered : s.loop.unanswered = job.toList) :
    Inv (s.panic job) := by
  have hlost := h.lost_eq_nil hended
  refine h.move ?_ ?_ (fun _ => rfl) (.inl rfl) (Nat.zero_le _) (fun _ => rfl) (fun _ => ⟨job, rfl⟩) ?_
  · rw [unbegun, hheld, hlost, List.append_nil]
    rfl
  · rw [← h.responses, hunanswered]
    cases job <;> rfl
  · exact Nat.le_trans (List.length_filterMap_le _ _) h.bounded

/-- What the owner does to the pause control. -/
theorem Inv.owner (h : Inv s) {paused stopping pausing : Bool} {pauses : List Bool}
    (hwaits : pausing = true → paused = true) :
    Inv { s with control := { s.control with paused, stopping }, pausing, pauses } :=
  ⟨h.counted, h.order, h.numbers, h.calls, h.responses, h.idle, h.channel, h.bounded, h.closed,
    h.ended, h.lost, h.lostBounded, hwaits⟩

theorem Inv.pauseTurn (h : Inv s) (hpaused : s.control.paused = true) (expired : Bool) :
    Inv (s.pauseTurn expired) := by
  rw [ReceiptWorker.pauseTurn]
  split <;> exact h.owner fun _ => hpaused

theorem Inv.shutdown (h : Inv s) (hsender : s.sender = true) (hcalls : s.noCall = true) :
    Inv s.shutdown := by
  have hadmitted : s.admitted = [] := by
    simp only [noCall, Bool.and_eq_true, List.isEmpty_iff] at hcalls
    exact hcalls.1.1
  have hchannel : s.channel = (jobs s.channel).map .job := by
    rcases h.channel with hchannel | ⟨hclosed, -⟩
    · exact hchannel
    · simp [hsender] at hclosed
  rw [ReceiptWorker.shutdown]
  by_cases hrefused : s.loop.ended = true ∨ channelBound ≤ s.channel.length
  · simp only [if_pos hrefused]
    exact ⟨h.counted, h.order, h.numbers, h.calls, h.responses, h.idle, .inl hchannel, h.bounded,
      fun _ => hadmitted, h.ended, h.lost, h.lostBounded, h.waits⟩
  · simp only [if_neg hrefused]
    obtain ⟨hended, hfull⟩ := not_or.1 hrefused
    simp only [channelBound] at hfull
    have hjobs : jobs (s.channel ++ [.shutdown]) = jobs s.channel := by
      rw [jobs_append]
      exact List.append_nil _
    have hunbegun : s.loop.held ++ jobs (s.channel ++ [.shutdown]) ++ s.lost = s.unbegun := by
      rw [hjobs]
      rfl
    have houtstanding : s.admitted ++ s.refusing.map (·.1) ++
        (s.loop.held ++ jobs (s.channel ++ [.shutdown]) ++ s.lost) = s.outstanding := by
      rw [hunbegun]
      rfl
    refine ⟨h.counted.move (.of_eq houtstanding), h.order.trans (by rw [← hunbegun]; rfl), h.numbers,
      h.calls, h.responses, h.idle, .inr ⟨rfl, ?_⟩, ?_, fun _ => hadmitted,
      fun hended' => absurd hended' hended, h.lost, h.lostBounded, h.waits⟩
    · change s.channel ++ [.shutdown] = (jobs (s.channel ++ [.shutdown])).map .job ++ [.shutdown]
      rw [hjobs, ← hchannel]
    · rw [List.length_append, List.length_singleton]
      omega

theorem inv_step (s : ReceiptWorker) (event : ReceiptWorkerEvent) (h : Inv s) :
    Inv (s.step event) := by
  cases event with
  | submit request receiver currentSocketNamespace currentRuntimeId now => exact h.submit rfl
  | handOff number =>
    simp only [step]
    split
    · rename_i job hjob
      have hnumber : job.number = number := by
        simpa [numbered] using List.find?_some hjob
      exact h.handOff (hnumber ▸ hjob)
    · exact h
  | unenqueue number =>
    simp only [step]
    split
    · rename_i refusal hrefusal
      have hnumber : refusal.1.number = number := by
        simpa [numbered] using List.find?_some hrefusal
      exact h.unenqueue (hnumber ▸ hrefusal)
    · exact h
  | await number expired =>
    simp only [step]
    split
    · exact h.await _ expired
    · exact h
  | started runtime =>
    simp only [step]
    split
    · rename_i hloop
      exact h.setIdle (by rw [hloop]; rfl) (by rw [hloop]; rfl) (by rw [hloop]; rfl)
    · exact h
  | receive =>
    simp only [step]
    split
    · rename_i hloop
      exact h.receive hloop
    · exact h
  | beginWork =>
    simp only [step]
    split
    · rename_i hloop
      exact h.beginWork hloop
    · exact h
  | process db eventId =>
    simp only [step]
    split
    · rename_i hloop
      exact h.process hloop db eventId
    · exact h
  | panic =>
    simp only [step]
    split
    · rename_i hloop
      exact h.panic none (by rw [hloop]; rfl) (by rw [hloop]; rfl) (by rw [hloop]; rfl)
    · rename_i job hloop
      exact h.panic (some job) (by rw [hloop]; rfl) (by rw [hloop]; rfl) (by rw [hloop]; rfl)
    · exact h
  | endWork =>
    simp only [step]
    split
    · rename_i hloop
      exact h.setIdle (by rw [hloop]; rfl) (by rw [hloop]; rfl) (by rw [hloop]; rfl)
    · exact h
  | pause expired =>
    simp only [step]
    split_ifs
    · exact h
    · exact (h.owner fun _ => rfl).pauseTurn rfl expired
  | pauseTurn expired =>
    simp only [step]
    split_ifs with hpausing
    · exact h.pauseTurn (h.waits hpausing) expired
    · exact h
  | resume =>
    simp only [step]
    split_ifs with hpausing
    · exact h
    · exact h.owner fun hwaits => absurd hwaits hpausing
  | stop =>
    simp only [step]
    split_ifs with hpausing
    · exact h
    · exact h.owner fun hwaits => absurd hwaits hpausing
  | shutdown =>
    simp only [step]
    split_ifs with hguard
    · exact h
    · simp only [Bool.or_eq_true, Bool.not_eq_true', not_or, Bool.not_eq_false] at hguard
      exact h.shutdown hguard.1.2 hguard.2

/-! ## Quiescence -/

/-- A pause is acknowledged : nothing is admitted, nothing is outstanding and the worker is between
two jobs. -/
structure Acknowledged (s : ReceiptWorker) : Prop where
  paused : s.control.paused = true
  idle : s.control.idle = true
  queued : s.control.queued = 0

theorem Inv.outstanding_eq_nil (h : Inv s) (hqueued : s.control.queued = 0) :
    s.admitted = [] ∧ s.refusing = [] ∧ s.loop.held = [] ∧ jobs s.channel = [] ∧ s.lost = [] := by
  have hlength : s.outstanding = [] :=
    List.eq_nil_of_length_eq_zero (h.counted.queued.symm.trans hqueued)
  simp only [outstanding, unbegun, List.append_eq_nil_iff, List.map_eq_nil_iff] at hlength
  tauto

/-- A turn that returns `true` has seen nothing outstanding. -/
theorem pauseTurn_acknowledged (hpaused : s.control.paused = true) {expired : Bool}
    (hpause : (s.pauseTurn expired).pauses = s.pauses ++ [true]) :
    Acknowledged (s.pauseTurn expired) ∧ (s.pauseTurn expired).begun = s.begun := by
  by_cases hquiet : s.control.idle && s.control.queued == 0
  · simp only [Bool.and_eq_true, beq_iff_eq] at hquiet
    have hturn : s.pauseTurn expired =
        { s with pausing := false, pauses := s.pauses ++ [true] } := by
      simp [ReceiptWorker.pauseTurn, PauseControl.pauseTurn, hquiet]
    rw [hturn]
    exact ⟨⟨hpaused, hquiet.1, hquiet.2⟩, rfl⟩
  · cases expired <;>
      simp [ReceiptWorker.pauseTurn, PauseControl.pauseTurn, hquiet] at hpause

theorem Acknowledged.pauseTurn (ha : Acknowledged s) (expired : Bool) :
    Acknowledged (s.pauseTurn expired) ∧ (s.pauseTurn expired).begun = s.begun := by
  refine pauseTurn_acknowledged ha.paused ?_
  simp [ReceiptWorker.pauseTurn, PauseControl.pauseTurn, ha.idle, ha.queued]

/-- No other step returns from `pause`. -/
theorem pauses_step {event : ReceiptWorkerEvent} (hpause : ∀ expired, event ≠ .pause expired)
    (hturn : ∀ expired, event ≠ .pauseTurn expired) : (s.step event).pauses = s.pauses := by
  cases event with
  | pause expired => exact absurd rfl (hpause expired)
  | pauseTurn expired => exact absurd rfl (hturn expired)
  | submit =>
    simp only [ReceiptWorker.step, ReceiptWorker.submit]
    repeat' split
    all_goals rfl
  | _ =>
    simp only [ReceiptWorker.step]
    repeat' split
    all_goals
      first
      | rfl
      | (simp only [ReceiptWorker.handOff, ReceiptWorker.await, ReceiptWorker.receive]
         repeat' split
         all_goals rfl)

theorem Inv.acknowledged (h : Inv s) {event : ReceiptWorkerEvent}
    (hpause : (s.step event).pauses = s.pauses ++ [true]) :
    Acknowledged (s.step event) ∧ (s.step event).begun = s.begun := by
  have hself : s.pauses ≠ s.pauses ++ [true] := by simp
  cases event with
  | pause expired =>
    by_cases hpausing : s.pausing
    · simp [ReceiptWorker.step, hpausing] at hpause
    · simp only [ReceiptWorker.step, hpausing] at hpause ⊢
      exact pauseTurn_acknowledged rfl hpause
  | pauseTurn expired =>
    by_cases hpausing : s.pausing
    · simp only [ReceiptWorker.step, hpausing, if_true] at hpause ⊢
      exact pauseTurn_acknowledged (h.waits hpausing) hpause
    · simp [ReceiptWorker.step, hpausing] at hpause
  | _ =>
    rw [pauses_step (by simp) (by simp)] at hpause
    exact absurd hpause hself

theorem Acknowledged.step (ha : Acknowledged s) (h : Inv s) {event : ReceiptWorkerEvent}
    (hresume : event ≠ .resume) (hstop : event ≠ .stop) :
    Acknowledged (s.step event) ∧ (s.step event).begun = s.begun := by
  obtain ⟨hadmitted, hrefusing, hheld, hjobs, hlost⟩ := h.outstanding_eq_nil ha.queued
  have hbusy := h.idle ha.idle
  cases event with
  | submit request receiver currentSocketNamespace currentRuntimeId now =>
    by_cases hsender : s.sender = true
    · simpa [ReceiptWorker.step, ReceiptWorker.submit, hsender, PauseControl.tryEnqueue, ha.paused]
        using ⟨ha.1, ha.2, ha.3⟩
    · simpa [ReceiptWorker.step, ReceiptWorker.submit, hsender] using ⟨ha.1, ha.2, ha.3⟩
  | handOff number => simpa [ReceiptWorker.step, hadmitted] using ha
  | unenqueue number => simpa [ReceiptWorker.step, hrefusing] using ha
  | await number expired =>
    simp only [ReceiptWorker.step, ReceiptWorker.await]
    repeat' split
    all_goals exact ⟨⟨ha.1, ha.2, ha.3⟩, rfl⟩
  | receive =>
    simp only [ReceiptWorker.step, ReceiptWorker.receive]
    repeat' split
    all_goals exact ⟨⟨ha.1, ha.2, ha.3⟩, rfl⟩
  | pause expired =>
    by_cases hpausing : s.pausing
    · simpa [ReceiptWorker.step, hpausing] using ha
    · simp only [ReceiptWorker.step, hpausing]
      exact Acknowledged.pauseTurn (s := { s with control := { s.control with paused := true } })
        ⟨rfl, ha.2, ha.3⟩ expired
  | pauseTurn expired =>
    by_cases hpausing : s.pausing
    · simpa only [ReceiptWorker.step, hpausing, if_true] using ha.pauseTurn expired
    · simpa [ReceiptWorker.step, hpausing] using ha
  | resume => exact absurd rfl hresume
  | stop => exact absurd rfl hstop
  | shutdown =>
    simp only [ReceiptWorker.step]
    split
    · exact ⟨ha, rfl⟩
    · exact ⟨⟨ha.1, ha.2, ha.3⟩, rfl⟩
  | beginWork =>
    simp only [ReceiptWorker.step]
    split
    · rename_i job hloop
      rw [hloop] at hheld
      exact absurd hheld (List.cons_ne_nil job [])
    · exact ⟨ha, rfl⟩
  | _ =>
    -- The worker is at none of the other places.
    simp only [ReceiptWorker.step]
    split
    all_goals
      first
      | exact ⟨ha, rfl⟩
      | (rename_i hloop
         rw [hloop] at hbusy
         exact Bool.noConfusion hbusy)

/-! ## The result -/

/-- What holds in every reachable state. -/
structure Exact (s : ReceiptWorker) : Prop where
  /-- The counter is the number of the admissions that are neither begun nor withdrawn. -/
  counted : Counted s.control.queued s.admissions (s.begun ++ s.withdrawn) s.outstanding
  /-- Each call has one submission, with a number of its own. -/
  once : ((s.admissions ++ s.refused).map (·.number)).Nodup
  /-- What was handed off was begun in the same order, or waits in that order. -/
  order : s.handedOff = s.begun ++ s.unbegun
  /-- What waits is with the worker or in the channel, unless the worker panicked. -/
  lost : s.lost ≠ [] → ∃ job, s.loop = .panicked job
  /-- The jobs are answered once each and in the order they are begun. -/
  responses : s.responses.map (·.1) <+: s.begun.map (·.number)
  refused : ∀ job ∈ s.refused ++ s.withdrawn, job ∉ s.begun
  /-- The counter is bounded by the calls in `submit` and the channel. -/
  bounded : s.control.queued ≤ s.admitted.length + s.refusing.length + 65

/-- From the moment `pause` returns `true` until `resume` or `stop`. -/
structure Quiet (s : ReceiptWorker) : Prop where
  queued : s.control.queued = 0
  outstanding : s.outstanding = []
  /-- No job is in flight. -/
  between : s.loop.busy = false

/-- Behind a `pause` that returned `true`, until `resume` or `stop`, the worker is quiet and begins
no job. -/
def Quiesces (events : List ReceiptWorkerEvent) : Prop :=
  ∀ before event after, events = before ++ event :: after →
    let s := StepRun.run step {} before
    (s.step event).pauses = s.pauses ++ [true] →
    (∀ later ∈ after, later ≠ .resume ∧ later ≠ .stop) →
    Quiet (StepRun.run step {} events) ∧ (StepRun.run step {} events).begun = s.begun

theorem Inv.exact (h : Inv s) : Exact s := by
  have hnumbers := h.numbers
  have hnodup : (s.admissions ++ s.refused).Nodup := List.Nodup.of_map _ hnumbers
  have hadmissions : (s.begun ++ s.withdrawn ++ s.outstanding).Nodup :=
    h.counted.admissions.nodup_iff.1 (List.nodup_append.1 hnodup).1
  refine ⟨h.counted, hnumbers, h.order, h.lost, ⟨_, h.responses⟩, fun job hjob hbegun => ?_, ?_⟩
  · rcases List.mem_append.1 hjob with hrefused | hwithdrawn
    · have hadmitted : job ∈ s.admissions :=
        h.counted.admissions.mem_iff.2 (by simp [hbegun])
      exact (List.nodup_append.1 hnodup).2.2 job hadmitted job hrefused rfl
    · have hsettled := (List.nodup_append.1 hadmissions).1
      exact (List.nodup_append.1 hsettled).2.2 job hbegun job hwithdrawn rfl
  · have hunbegun : s.unbegun.length ≤ 65 := by
      have hheld : s.loop.held.length ≤ 1 := by
        rcases s.loop with _ | _ | _ | _ | _ | _ | _ <;> simp [WorkerLoop.held]
      have hjobs : (jobs s.channel).length ≤ 64 :=
        Nat.le_trans (List.length_filterMap_le _ _) h.bounded
      by_cases hended : s.loop.ended = true
      · have hnone : s.loop.held = [] := by
          rcases hloop : s.loop with _ | _ | _ | _ | _ | _ | _ <;>
            simp [hloop, WorkerLoop.held, WorkerLoop.ended] at hended ⊢
        simpa [unbegun, hnone, h.ended hended, jobs] using Nat.le_succ_of_le h.lostBounded
      · rw [unbegun, h.lost_eq_nil (by simpa using hended), List.append_nil, List.length_append]
        omega
    rw [h.counted.queued, outstanding, List.length_append, List.length_append, List.length_map]
    omega

theorem Acknowledged.quiet (ha : Acknowledged s) (h : Inv s) : Quiet s where
  queued := ha.queued
  outstanding := by
    obtain ⟨hadmitted, hrefusing, hheld, hjobs, hlost⟩ := h.outstanding_eq_nil ha.queued
    simp [ReceiptWorker.outstanding, unbegun, hadmitted, hrefusing, hheld, hjobs, hlost]
  between := h.idle ha.idle

theorem quiesces (events : List ReceiptWorkerEvent) : Quiesces events := by
  rintro before event after rfl s hpause hafter
  have hinv : Inv s := StepRun.run_invariant (I := Inv) inv_step inv_start before
  obtain ⟨ha, hbegun⟩ := hinv.acknowledged hpause
  -- What the steps after the pause keep.
  have hkept : ∀ {t : ReceiptWorker}, Inv t → Acknowledged t → t.begun = s.begun →
      Quiet (StepRun.run step t after) ∧ (StepRun.run step t after).begun = s.begun := by
    clear hpause ha hbegun
    induction after with
    | nil => exact fun ht hat hsame => ⟨hat.quiet ht, hsame⟩
    | cons later after ih =>
      intro t ht hat hsame
      obtain ⟨hresume, hstop⟩ := hafter later List.mem_cons_self
      obtain ⟨hnext, hnone⟩ := hat.step ht hresume hstop
      exact ih (fun e he => hafter e (List.mem_cons_of_mem _ he)) (inv_step t later ht) hnext
        (hnone.trans hsame)
  rw [StepRun.run_append, StepRun.run_cons]
  exact hkept (inv_step s event hinv) ha hbegun

/-- In every run the counter is exact, and a pause that was acknowledged is quiet. -/
theorem worker_quiescence (events : List ReceiptWorkerEvent) :
    Exact (StepRun.run step {} events) ∧ Quiesces events :=
  ⟨(StepRun.run_invariant (I := Inv) inv_step inv_start events).exact, quiesces events⟩

end ReceiptWorker

end Zynk
