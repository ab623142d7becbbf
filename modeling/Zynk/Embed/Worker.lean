import Mathlib.Data.List.Sort
import Zynk.Store.Delivery

/-!
# Embedding workers

`zynk/embedding_worker.rs` : every server that shares the database runs a worker that
selects runnable jobs, claims them one by one, calls the embedding provider without any
lock and writes the result in one fenced transaction.

Each SQL statement (or `BEGIN IMMEDIATE` transaction) is one atomic step on the database,
and the state of a worker between two statements is its `Phase`. An `Event` names the
worker that moves and carries what the step draws from outside : the clock, the generated
id, what the provider returned, whether the database refused the statement. A worker that
crashes loses its phase (`Event.start`).

`System.claims` is a history variable : the ids of the jobs claimed so far, in order, and
`Task.taken` is the place of a task's own claim in it. No step reads either.
-/

namespace Zynk

/-- `MAX_ATTEMPTS`. -/
def maxAttempts : ℕ := 5

/-- `PROCESS_BATCH`. -/
def processBatch : ℕ := 32

/-- `BACKFILL_BATCH`. -/
def backfillBatch : ℕ := 256

/-- The `vec0` table of a model. -/
def vecTableFor (modelId : String) : String :=
  "message_vec_" ++ String.ofList (modelId.toList.map fun ch =>
    if ch.toLower.isAlphanum then ch.toLower else '_')

/-- `DbError`'s `Display`. -/
def DbError.display (err : DbError) : String :=
  err.code ++ ": " ++ err.message

inductive EmbedError where
  | provider (message : String)
  | modelUnavailable (message : String)
  deriving DecidableEq, Repr

/-- `EmbedError`'s `Display`. -/
def EmbedError.display : EmbedError → String
  | provider message => "embed_provider: " ++ message
  | modelUnavailable message => "model_unavailable: " ++ message

/-- `f32::is_finite` on the bit pattern : the exponent is not all ones. -/
def isFinite (f : BitVec 32) : Bool :=
  (f >>> 23).toNat % 256 != 255

/-! ## Statements -/

/-- `pending`, or `failed` below the cap. -/
def EmbeddingJob.runnable (j : EmbeddingJob) : Bool :=
  j.status == .pending || (j.status == .failed && j.attempts < maxAttempts)

/-- `UPDATE embedding_jobs SET … WHERE …`. -/
def updateJobs (p : EmbeddingJob → Bool) (set : EmbeddingJob → EmbeddingJob) (db : Db) : Db :=
  { db with embeddingJobs := db.embeddingJobs.map fun j => if p j then set j else j }

/-- The job goes back to `pending`, with its attempts as they are. -/
def EmbeddingJob.requeue (j : EmbeddingJob) : EmbeddingJob :=
  { j with status := .pending, startedAt := none }

/-- One more attempt starts. -/
def EmbeddingJob.start (now : String) (j : EmbeddingJob) : EmbeddingJob :=
  { j with status := .running, startedAt := some now, attempts := j.attempts + 1 }

def EmbeddingJob.complete (now : String) (j : EmbeddingJob) : EmbeddingJob :=
  { j with status := .done, lastError := none, finishedAt := some now }

def EmbeddingJob.fail (lastError now : String) (j : EmbeddingJob) : EmbeddingJob :=
  { j with status := .failed, lastError := some lastError, finishedAt := some now }

section

variable (j : EmbeddingJob) (lastError now : String)

@[simp] theorem EmbeddingJob.requeue_status : j.requeue.status = .pending := rfl

@[simp] theorem EmbeddingJob.requeue_attempts : j.requeue.attempts = j.attempts := rfl

@[simp] theorem EmbeddingJob.start_status : (j.start now).status = .running := rfl

@[simp] theorem EmbeddingJob.start_attempts : (j.start now).attempts = j.attempts + 1 := rfl

@[simp] theorem EmbeddingJob.complete_status : (j.complete now).status = .done := rfl

@[simp] theorem EmbeddingJob.complete_attempts : (j.complete now).attempts = j.attempts := rfl

@[simp] theorem EmbeddingJob.fail_status : (j.fail lastError now).status = .failed := rfl

@[simp] theorem EmbeddingJob.fail_attempts : (j.fail lastError now).attempts = j.attempts := rfl

end

/-- The `SELECT` of `process_pending_batch` : the runnable jobs of a model with their
messages, in the order they were enqueued. -/
def Db.runnableJobs (db : Db) (modelId : String) (limit : ℕ) : List (String × String) :=
  (((db.embeddingJobs.filter fun j => j.modelId == modelId && j.runnable).insertionSort
    fun a b => a.enqueuedAt ≤ b.enqueuedAt).take limit).map fun j => (j.id, j.messageId)

/-- The `SELECT` of `backfill_missing` : messages without a job for the model, oldest
first. -/
def Db.missingJobs (db : Db) (modelId : String) (limit : ℕ) : List String :=
  (((db.messages.filter fun m => db.embeddingJobs.all fun j =>
      !(j.messageId == m.id && j.modelId == modelId)).insertionSort
    fun a b => a.createdAt ≤ b.createdAt).take limit).map Message.id

/-- `INSERT OR IGNORE INTO embedding_jobs` : skipped when the id, or the job of the
message for the model, exists. -/
def insertMissingJob (jobId messageId modelId now : String) (db : Db) : Db :=
  if db.embeddingJobs.any fun j => j.id == jobId ||
      (j.messageId == messageId && j.modelId == modelId) then db
  else
    { db with
      embeddingJobs := db.embeddingJobs ++
        [{ id := jobId, messageId, modelId, status := .pending, attempts := 0, lastError := none,
           enqueuedAt := now, startedAt := none, finishedAt := none }] }

/-- A job of the model that runs since before the cutoff, or since an unknown time. -/
def EmbeddingJob.stale (modelId cutoff : String) (j : EmbeddingJob) : Bool :=
  j.modelId == modelId && j.status == .running &&
    j.startedAt.all fun startedAt => startedAt < cutoff

/-- `recover_running_jobs_older_than` : the stale jobs go back to `pending`. Neither the
attempts nor the cap are looked at. -/
def recoverRunningJobsOlderThan (modelId cutoff : String) (db : Db) : Db :=
  updateJobs (EmbeddingJob.stale modelId cutoff) EmbeddingJob.requeue db

/-- This worker's ownership of one job : the `attempts` value its claim produced. -/
structure JobClaim where
  jobId : String
  attempt : ℕ
  deriving DecidableEq, Repr

/-- The claim of `process_one_job` : one `UPDATE … RETURNING attempts` on a job that is
still runnable. -/
def claimJob (jobId now : String) (db : Db) : Option JobClaim × Db :=
  let mine := fun j : EmbeddingJob => j.id == jobId && j.runnable
  ((db.embeddingJobs.find? mine).map fun j => ⟨jobId, j.attempts + 1⟩,
    updateJobs mine (EmbeddingJob.start now) db)

/-- The job is still the claim's : the fence of every terminal update. -/
def JobClaim.owns (claim : JobClaim) (j : EmbeddingJob) : Bool :=
  j.id == claim.jobId && j.status == .running && j.attempts == claim.attempt

/-- `INSERT OR REPLACE INTO {vec_table}`. -/
def insertVector (row : VecRow) (db : Db) : Db :=
  { db with
    vectors := (db.vectors.filter fun v =>
      !(v.vecTable == row.vecTable && v.messageRowid == row.messageRowid)) ++ [row] }

/-- `INSERT OR REPLACE INTO message_embeddings`. -/
def insertEmbedding (row : MessageEmbedding) (db : Db) : Db :=
  { db with
    messageEmbeddings := (db.messageEmbeddings.filter fun r =>
      !(r.messageId == row.messageId && r.modelId == row.modelId)) ++ [row] }

inductive WriteOutcome where
  | written
  | stale
  deriving DecidableEq, Repr

/-- What a worker carries through `process_one_job`. -/
structure Task where
  claim : JobClaim
  messageId : String
  /-- The jobs of the batch that come after this one. -/
  rest : List (String × String)
  /-- The place of the claim in `System.claims`. -/
  taken : ℕ

section

variable (sha256 : String → String)

/-- The body of the fenced write : fence first, then the vector and the metadata row. -/
def writeEmbeddingInTransaction (now modelId : String) (rowid : ℕ) (body : String)
    (embedded : List (BitVec 32)) (task : Task) : DbTxn WriteOutcome := do
  let fenced ← Txn.read (·.embeddingJobs.any task.claim.owns)
  Txn.update (updateJobs task.claim.owns (EmbeddingJob.complete now))
  if fenced then
    Txn.update (insertVector ⟨vecTableFor modelId, rowid, embedded⟩)
    Txn.update (insertEmbedding ⟨task.messageId, modelId, rowid, some (sha256 body), now⟩)
    pure .written
  else pure .stale

/-- The fenced write transaction. A stale claim rolls back, and so does a database error
in any of its statements or its commit (`fault`). -/
def writeEmbeddingTxn (now modelId : String) (rowid : ℕ) (body : String)
    (embedded : List (BitVec 32)) (task : Task) (fault : Option DbError) (db : Db) :
    Except DbError WriteOutcome × Db :=
  match fault with
  | some err => (.error err, db)
  | none =>
    match (writeEmbeddingInTransaction sha256 now modelId rowid body embedded task).immediate db
      with
    | (.ok .written, db') => (.ok .written, db')
    | (outcome, _) => (outcome, db)

end

/-- `mark_job_failed`, under the same fence. -/
def markJobFailed (claim : JobClaim) (lastError now : String) (db : Db) : Db :=
  updateJobs claim.owns (EmbeddingJob.fail lastError now) db

/-! ## The system -/

/-- Where a worker is between two of its statements. -/
inductive Phase where
  | idle
  /-- In `backfill_missing`, with the message ids still to enqueue. -/
  | backfilling (missing : List String)
  /-- In `process_pending_batch`, before the claim of the next job. -/
  | batch (jobs : List (String × String))
  /-- The job is claimed, its message not fetched yet. -/
  | claimed (task : Task)
  /-- The provider call is running. -/
  | embedding (task : Task) (rowid : ℕ) (body : String)
  /-- The provider returned a vector that passed the guards. -/
  | writing (task : Task) (rowid : ℕ) (body : String) (embedded : List (BitVec 32))
  /-- About to record the failure. -/
  | failing (task : Task) (reason : String)

/-- A worker : the model of its embedder, its dimension, and where it is. -/
structure Worker where
  modelId : String
  dim : ℕ
  phase : Phase

structure System where
  db : Db
  workers : ℕ → Worker
  claims : List String

/-- An atomic step of the system. -/
inductive Event where
  /-- A transaction of the message store. -/
  | store (op : Op)
  /-- A worker starts, or crashes and starts again : its phase is lost. -/
  | start (w : ℕ) (modelId : String) (dim : ℕ)
  | recover (modelId cutoff : String)
  | backfillSelect (w : ℕ)
  | backfillInsert (w : ℕ) (jobId now : String)
  | select (w : ℕ)
  | claim (w : ℕ) (now : String) (fault : Option DbError)
  | fetch (w : ℕ) (fault : Option DbError)
  | provide (w : ℕ) (result : Except EmbedError (List (List (BitVec 32))))
  | write (w : ℕ) (now : String) (fault : Option DbError)
  | markFailed (w : ℕ) (now : String) (fault : Option DbError)

/-- Move worker `w` to a phase. -/
def System.setPhase (s : System) (w : ℕ) (phase : Phase) : System :=
  { s with workers := Function.update s.workers w { s.workers w with phase } }

/-- The guards of `run_job_inner` on what the provider returned. -/
def guardEmbedding (dim : ℕ) : Except EmbedError (List (List (BitVec 32))) →
    Except String (List (BitVec 32))
  | .error err => .error err.display
  | .ok [] => .error "embedder_returned_no_vector"
  | .ok (embedded :: _) =>
    if embedded.length != dim then .error "embedding_wrong_dim"
    else if embedded.any fun f => !isFinite f then .error "embedding_non_finite"
    else .ok embedded

variable (sha256 : String → String)

/-- One step. An event whose worker is not in the phase it needs does nothing. -/
def System.step (s : System) : Event → System
  | .store op => { s with db := op.step sha256 s.db }
  | .start w modelId dim =>
    { s with workers := Function.update s.workers w ⟨modelId, dim, .idle⟩ }
  | .recover modelId cutoff => { s with db := recoverRunningJobsOlderThan modelId cutoff s.db }
  | .backfillSelect w =>
    match (s.workers w).phase with
    | .idle => s.setPhase w (.backfilling (s.db.missingJobs (s.workers w).modelId backfillBatch))
    | _ => s
  | .backfillInsert w jobId now =>
    match (s.workers w).phase with
    | .backfilling [] => s.setPhase w .idle
    | .backfilling (messageId :: missing) =>
      { s.setPhase w (.backfilling missing) with
        db := insertMissingJob jobId messageId (s.workers w).modelId now s.db }
    | _ => s
  | .select w =>
    match (s.workers w).phase with
    | .idle => s.setPhase w (.batch (s.db.runnableJobs (s.workers w).modelId processBatch))
    | _ => s
  | .claim w now fault =>
    match (s.workers w).phase, fault with
    | .batch [], _ => s.setPhase w .idle
    -- An error of the claim leaves the batch : no job is ours yet.
    | .batch (_ :: _), some _ => s.setPhase w .idle
    | .batch ((jobId, messageId) :: rest), none =>
      match claimJob jobId now s.db with
      | (none, db') => { s.setPhase w (.batch rest) with db := db' }
      | (some claim, db') =>
        { s.setPhase w (.claimed ⟨claim, messageId, rest, s.claims.length⟩) with
          db := db'
          claims := s.claims ++ [jobId] }
    | _, _ => s
  | .fetch w fault =>
    match (s.workers w).phase, fault with
    | .claimed task, some err => s.setPhase w (.failing task err.display)
    | .claimed task, none =>
      match s.db.message? task.messageId with
      | some m => s.setPhase w (.embedding task m.rowid m.body)
      | none => s.setPhase w (.failing task "message_missing")
    | _, _ => s
  | .provide w result =>
    match (s.workers w).phase with
    | .embedding task rowid body =>
      match guardEmbedding (s.workers w).dim result with
      | .ok embedded => s.setPhase w (.writing task rowid body embedded)
      | .error reason => s.setPhase w (.failing task reason)
    | _ => s
  | .write w now fault =>
    match (s.workers w).phase with
    | .writing task rowid body embedded =>
      match writeEmbeddingTxn sha256 now (s.workers w).modelId rowid body embedded task fault s.db
        with
      | (.ok _, db') => { s.setPhase w (.batch task.rest) with db := db' }
      | (.error err, db') => { s.setPhase w (.failing task err.display) with db := db' }
    | _ => s
  | .markFailed w now fault =>
    match (s.workers w).phase with
    | .failing task reason =>
      { s.setPhase w (.batch task.rest) with
        -- An error of the mark itself is swallowed : the job stays as it is.
        db := if fault.isSome then s.db else markJobFailed task.claim reason now s.db }
    | _ => s

/-- A fresh database and any assignment of models to workers, all idle. -/
def System.init (models : ℕ → String × ℕ) : System :=
  ⟨Db.empty, fun w => ⟨(models w).1, (models w).2, .idle⟩, []⟩

end Zynk
