import Zynk.Embed.Worker

/-!
# Fencing of embedding jobs

Ownership of a job is its `attempts` counter, compared at the end of a long unlocked
provider call. `TablesOk` says that the counter of a job is the number of times it was
claimed, and `TaskOk` that a worker's token is that number as of its own claim; a fenced
update that matches is therefore of the latest claim (`TaskOk.latest`).

The other half of `TablesOk` ties `done` to the two rows of the embedding. It is kept
because only a fenced write makes a job `done`, and it writes both rows in that step.
-/

namespace Zynk

open StepRun

variable {sha256 : String → String}

/-! ## Identity columns -/

def EmbeddingJob.key (j : EmbeddingJob) : String × String × String :=
  (j.id, j.messageId, j.modelId)

section

variable (j : EmbeddingJob) (lastError now : String)

@[simp] theorem EmbeddingJob.requeue_key : j.requeue.key = j.key := rfl

@[simp] theorem EmbeddingJob.start_key : (j.start now).key = j.key := rfl

@[simp] theorem EmbeddingJob.complete_key : (j.complete now).key = j.key := rfl

@[simp] theorem EmbeddingJob.fail_key : (j.fail lastError now).key = j.key := rfl

end

def EmbeddingJob.pair (j : EmbeddingJob) : String × String :=
  (j.messageId, j.modelId)

def MessageEmbedding.pair (r : MessageEmbedding) : String × String :=
  (r.messageId, r.modelId)

def VecRow.place (v : VecRow) : String × ℕ :=
  (v.vecTable, v.messageRowid)

def Message.key (m : Message) : String × ℕ :=
  (m.id, m.rowid)

/-- The vector of a job : in the table of its model, at the row of its message. -/
def Db.IsVectorOf (db : Db) (j : EmbeddingJob) (v : VecRow) : Prop :=
  v.vecTable = vecTableFor j.modelId ∧ (j.messageId, v.messageRowid) ∈ db.messages.map Message.key

/-! ## The tables -/

/-- What the tables satisfy, with the log of claims. -/
structure TablesOk (db : Db) (claims : List String) : Prop where
  messageIds : (db.messages.map Message.id).Nodup
  jobIds : (db.embeddingJobs.map EmbeddingJob.id).Nodup
  pairs : (db.embeddingJobs.map EmbeddingJob.pair).Nodup
  known : ∀ id ∈ claims, ∃ j ∈ db.embeddingJobs, j.id = id
  attempts : ∀ j ∈ db.embeddingJobs, j.attempts = claims.count j.id
  embeddingKeys : (db.messageEmbeddings.map MessageEmbedding.pair).Nodup
  vectorKeys : (db.vectors.map VecRow.place).Nodup
  embedded : ∀ r ∈ db.messageEmbeddings, ∃ j ∈ db.embeddingJobs, j.pair = r.pair ∧ j.status = .done
  done : ∀ j ∈ db.embeddingJobs, j.status = .done →
    (∃ r ∈ db.messageEmbeddings, r.pair = j.pair) ∧ ∃ v ∈ db.vectors, db.IsVectorOf j v

namespace TablesOk

variable {db : Db} {claims : List String}

theorem empty : TablesOk Db.empty [] := by
  constructor <;> simp [Db.empty]

/-- A job is found under its id only. -/
theorem job_unique (h : TablesOk db claims) {j k : EmbeddingJob} (hj : j ∈ db.embeddingJobs)
    (hk : k ∈ db.embeddingJobs) (hid : j.id = k.id) : j = k :=
  Table.unique h.jobIds hj hk hid

/-- Rewriting jobs in place, when their identity and whether they are done stay. -/
theorem mapJobs (h : TablesOk db claims) {claims' : List String} {f : EmbeddingJob → EmbeddingJob}
    (hkey : ∀ j, (f j).key = j.key) (hstatus : ∀ j, (f j).status = .done ↔ j.status = .done)
    (hknown : ∀ id ∈ claims', ∃ j ∈ db.embeddingJobs, j.id = id)
    (hattempts : ∀ j ∈ db.embeddingJobs, (f j).attempts = claims'.count j.id) :
    TablesOk { db with embeddingJobs := db.embeddingJobs.map f } claims' := by
  have hid : ∀ j, (f j).id = j.id := fun j => congrArg Prod.fst (hkey j)
  have hpair : ∀ j, (f j).pair = j.pair := fun j => congrArg Prod.snd (hkey j)
  refine ⟨h.messageIds, ?_, ?_, ?_, ?_, h.embeddingKeys, h.vectorKeys, ?_, ?_⟩
  · rw [List.map_map, show EmbeddingJob.id ∘ f = EmbeddingJob.id from funext hid]
    exact h.jobIds
  · rw [List.map_map, show EmbeddingJob.pair ∘ f = EmbeddingJob.pair from funext hpair]
    exact h.pairs
  · intro id hmem
    obtain ⟨j, hj, rfl⟩ := hknown id hmem
    exact ⟨f j, List.mem_map_of_mem hj, hid j⟩
  · intro k hk
    obtain ⟨j, hj, rfl⟩ := List.mem_map.1 hk
    rw [hid]
    exact hattempts j hj
  · intro r hr
    obtain ⟨j, hj, hjr, hdone⟩ := h.embedded r hr
    exact ⟨f j, List.mem_map_of_mem hj, (hpair j).trans hjr, (hstatus j).2 hdone⟩
  · intro k hk hdone
    obtain ⟨j, hj, rfl⟩ := List.mem_map.1 hk
    have hrows := h.done j hj ((hstatus j).1 hdone)
    have hcols := Prod.mk.inj (hpair j)
    rw [hpair]
    simpa only [Db.IsVectorOf, hcols] using hrows

/-- An update of jobs that are not done, which neither finishes nor counts them. -/
theorem updateJobs (h : TablesOk db claims) {p : EmbeddingJob → Bool}
    {set : EmbeddingJob → EmbeddingJob}
    (hset : ∀ j, p j = true → (set j).key = j.key ∧ (set j).attempts = j.attempts ∧
      j.status ≠ .done ∧ (set j).status ≠ .done) :
    TablesOk (Zynk.updateJobs p set db) claims := by
  refine h.mapJobs (fun j => ?_) (fun j => ?_) h.known (fun j hj => ?_)
  · split
    · exact (hset j ‹_›).1
    · rfl
  · split
    · obtain ⟨-, -, hold, hnew⟩ := hset j ‹_›
      exact iff_of_false hnew hold
    · rfl
  · rw [← h.attempts j hj]
    split
    · exact (hset j ‹_›).2.1
    · rfl

/-- A new pending job, under a free id and for a free pair. -/
theorem insertJob (h : TablesOk db claims) {j : EmbeddingJob}
    (hid : ∀ k ∈ db.embeddingJobs, k.id ≠ j.id) (hpair : ∀ k ∈ db.embeddingJobs, k.pair ≠ j.pair)
    (hstatus : j.status = .pending) (hattempts : j.attempts = 0) :
    TablesOk { db with embeddingJobs := db.embeddingJobs ++ [j] } claims := by
  refine ⟨h.messageIds, ?_, ?_, ?_, ?_, h.embeddingKeys, h.vectorKeys, ?_, ?_⟩
  · exact Table.nodup_concat h.jobIds hid
  · exact Table.nodup_concat h.pairs hpair
  · intro id hmem
    obtain ⟨k, hk, hkid⟩ := h.known id hmem
    exact ⟨k, List.mem_append_left _ hk, hkid⟩
  · intro k hk
    rw [List.mem_append, List.mem_singleton] at hk
    rcases hk with hk | rfl
    · exact h.attempts k hk
    · -- A job that did not exist was never claimed.
      have hnot : k.id ∉ claims := fun hmem => by
        obtain ⟨i, hi, hik⟩ := h.known k.id hmem
        exact hid i hi hik
      rw [hattempts, List.count_eq_zero_of_not_mem hnot]
  · intro r hr
    obtain ⟨k, hk, hkr⟩ := h.embedded r hr
    exact ⟨k, List.mem_append_left _ hk, hkr⟩
  · intro k hk hdone
    rw [List.mem_append, List.mem_singleton] at hk
    rcases hk with hk | rfl
    · exact h.done k hk hdone
    · rw [hstatus] at hdone
      cases hdone

/-- A database that differs in columns no job reads, or has more messages. -/
theorem messages (h : TablesOk db claims) {db' : Db}
    (hids : (db'.messages.map Message.id).Nodup)
    (hkeys : db.messages.map Message.key ⊆ db'.messages.map Message.key)
    (hjobs : db'.embeddingJobs = db.embeddingJobs)
    (hembeddings : db'.messageEmbeddings = db.messageEmbeddings)
    (hvectors : db'.vectors = db.vectors) : TablesOk db' claims := by
  refine ⟨hids, hjobs ▸ h.jobIds, hjobs ▸ h.pairs, hjobs ▸ h.known, hjobs ▸ h.attempts,
    hembeddings ▸ h.embeddingKeys, hvectors ▸ h.vectorKeys, ?_, ?_⟩
  · rw [hembeddings, hjobs]
    exact h.embedded
  · rw [hembeddings, hjobs, hvectors]
    intro j hj hdone
    obtain ⟨hr, v, hv, htable, hplace⟩ := h.done j hj hdone
    exact ⟨hr, v, hv, htable, hkeys hplace⟩

/-- A claim counts one attempt of the job it takes, and no other. -/
theorem claim (h : TablesOk db claims) {jobId : String} {j : EmbeddingJob} (now : String)
    (hfind : db.embeddingJobs.find? (fun k => k.id == jobId && k.runnable) = some j) :
    TablesOk (claimJob jobId now db).2 (claims ++ [jobId]) := by
  have hj : j ∈ db.embeddingJobs := List.mem_of_find?_eq_some hfind
  have hmine := List.find?_some hfind
  obtain ⟨hid, hrun⟩ : j.id = jobId ∧ j.runnable = true := by simpa using hmine
  refine h.mapJobs (fun k => ?_) (fun k => ?_) (fun id hmem => ?_) (fun k hk => ?_)
  · split <;> rfl
  · split
    · rename_i hk
      have hk' : k.runnable = true := by simp_all
      refine iff_of_false (by simp) fun hdone => ?_
      simp [EmbeddingJob.runnable, hdone] at hk'
    · rfl
  · rw [List.mem_append, List.mem_singleton] at hmem
    rcases hmem with hmem | rfl
    · exact h.known id hmem
    · exact ⟨j, hj, hid⟩
  · rw [List.count_append, ← h.attempts k hk]
    by_cases hkj : k.id = jobId
    · obtain rfl := h.job_unique hk hj (hkj.trans hid.symm)
      simp [hkj, hrun]
    · simp [hkj, Ne.symm hkj]

/-- The fenced write : the owned job becomes `done` together with both its rows. -/
theorem write (h : TablesOk db claims) {claim : JobClaim} {j : EmbeddingJob}
    (hj : j ∈ db.embeddingJobs) (hown : claim.owns j = true) {rowid : ℕ}
    (hrowid : (j.messageId, rowid) ∈ db.messages.map Message.key) (now : String)
    (embedded : List (BitVec 32)) (hash : Option String) :
    TablesOk (insertEmbedding ⟨j.messageId, j.modelId, rowid, hash, now⟩
      (insertVector ⟨vecTableFor j.modelId, rowid, embedded⟩
        (Zynk.updateJobs claim.owns (EmbeddingJob.complete now) db))) claims := by
  -- The owned job is `j` alone.
  have honly : ∀ k ∈ db.embeddingJobs, claim.owns k = true → k = j := by
    intro k hk hkown
    refine h.job_unique hk hj ?_
    simp only [JobClaim.owns, Bool.and_eq_true, beq_iff_eq] at hown hkown
    exact hkown.1.1.trans hown.1.1.symm
  have hpairs : ∀ k : EmbeddingJob, (if claim.owns k then k.complete now else k).pair = k.pair :=
    fun k => by split <;> rfl
  refine ⟨h.messageIds, ?_, ?_, ?_, ?_, ?_, ?_, ?_, ?_⟩
  · simp only [insertEmbedding, insertVector, Zynk.updateJobs, List.map_map]
    rw [show EmbeddingJob.id ∘ _ = EmbeddingJob.id from funext fun k => by
      simp only [Function.comp]; split <;> rfl]
    exact h.jobIds
  · simp only [insertEmbedding, insertVector, Zynk.updateJobs, List.map_map]
    rw [show EmbeddingJob.pair ∘ _ = EmbeddingJob.pair from funext hpairs]
    exact h.pairs
  · intro id hmem
    obtain ⟨k, hk, rfl⟩ := h.known id hmem
    exact ⟨_, List.mem_map_of_mem hk, by split <;> rfl⟩
  · intro k hk
    obtain ⟨i, hi, rfl⟩ := List.mem_map.1 hk
    have hi' := h.attempts i hi
    split <;> exact hi'
  · refine Table.nodup_replace h.embeddingKeys fun r hr => ?_
    simpa [MessageEmbedding.pair, imp_iff_not_or] using hr
  · refine Table.nodup_replace h.vectorKeys fun v hv => ?_
    simpa [VecRow.place, imp_iff_not_or] using hv
  · intro r hr
    rcases List.mem_append.1 hr with hr | hr
    · obtain ⟨k, hk, hkr, hdone⟩ := h.embedded r (List.mem_filter.1 hr).1
      refine ⟨_, List.mem_map_of_mem hk, (hpairs k).trans hkr, ?_⟩
      split
      · rfl
      · exact hdone
    · obtain rfl := List.mem_singleton.1 hr
      refine ⟨_, List.mem_map_of_mem hj, (hpairs j).trans rfl, ?_⟩
      rw [if_pos hown]
      rfl
  · intro k hk hdone
    obtain ⟨i, hi, rfl⟩ := List.mem_map.1 hk
    by_cases hij : i = j
    · subst hij
      rw [if_pos hown]
      exact ⟨⟨_, List.mem_append_right _ (List.mem_singleton_self _), rfl⟩,
        _, List.mem_append_right _ (List.mem_singleton_self _), rfl, hrowid⟩
    · have hnot : ¬claim.owns i = true := fun hown' => hij (honly i hi hown')
      rw [if_neg hnot] at hdone ⊢
      obtain ⟨⟨r, hr, hri⟩, v, hv, htable, hplace⟩ := h.done i hi hdone
      -- The rows of another job are under other keys, or were replaced by the new ones.
      refine ⟨⟨r, List.mem_append_left _ (List.mem_filter.2 ⟨hr, ?_⟩), hri⟩, ?_⟩
      · have hne : r.pair ≠ j.pair := fun heq =>
          hij (Table.unique h.pairs hi hj (hri.symm.trans heq))
        simpa [MessageEmbedding.pair, EmbeddingJob.pair, imp_iff_not_or] using hne
      · by_cases hsame : v.vecTable = vecTableFor j.modelId ∧ v.messageRowid = rowid
        · exact ⟨_, List.mem_append_right _ (List.mem_singleton_self _),
            hsame.1.symm.trans htable, hsame.2 ▸ hplace⟩
        · exact ⟨v, List.mem_append_left _ (List.mem_filter.2 ⟨hv, by
            simpa [imp_iff_not_or] using hsame⟩), htable, hplace⟩

end TablesOk

/-! ## The workers -/

/-- What the phase of a worker relies on only grows : the identities of jobs and messages,
and the log. -/
structure Grows (db : Db) (claims : List String) (db' : Db) (claims' : List String) : Prop where
  jobs : db.embeddingJobs.map EmbeddingJob.key ⊆ db'.embeddingJobs.map EmbeddingJob.key
  messages : db.messages.map Message.key ⊆ db'.messages.map Message.key
  claims : List.IsPrefix claims claims'

/-- The jobs of a batch are jobs of the model. -/
def QueueOk (db : Db) (modelId : String) (jobs : List (String × String)) : Prop :=
  ∀ p ∈ jobs, (p.1, p.2, modelId) ∈ db.embeddingJobs.map EmbeddingJob.key

/-- A task holds the token its own claim produced. -/
structure TaskOk (db : Db) (claims : List String) (modelId : String) (task : Task) : Prop where
  logged : claims[task.taken]? = some task.claim.jobId
  token : task.claim.attempt = (claims.take (task.taken + 1)).count task.claim.jobId
  job : (task.claim.jobId, task.messageId, modelId) ∈ db.embeddingJobs.map EmbeddingJob.key
  rest : QueueOk db modelId task.rest

/-- What a worker relies on in its phase. -/
def WorkerOk (db : Db) (claims : List String) (w : Worker) : Prop :=
  match w.phase with
  | .idle => True
  | .backfilling _ => True
  | .batch jobs => QueueOk db w.modelId jobs
  | .claimed task => TaskOk db claims w.modelId task
  | .embedding task rowid _ =>
    TaskOk db claims w.modelId task ∧ (task.messageId, rowid) ∈ db.messages.map Message.key
  | .writing task rowid _ _ =>
    TaskOk db claims w.modelId task ∧ (task.messageId, rowid) ∈ db.messages.map Message.key
  | .failing task _ => TaskOk db claims w.modelId task

section

variable {db db' : Db} {claims claims' : List String}

theorem Grows.refl (db : Db) (claims : List String) : Grows db claims db claims :=
  ⟨List.Subset.refl _, List.Subset.refl _, List.prefix_refl _⟩

variable {modelId : String}

theorem QueueOk.mono {jobs : List (String × String)} (h : QueueOk db modelId jobs)
    (hg : Grows db claims db' claims') : QueueOk db' modelId jobs :=
  fun p hp => hg.jobs (h p hp)

theorem TaskOk.mono {task : Task} (h : TaskOk db claims modelId task)
    (hg : Grows db claims db' claims') : TaskOk db' claims' modelId task := by
  obtain ⟨more, rfl⟩ := hg.claims
  have hlt : task.taken < claims.length := (List.getElem?_eq_some_iff.1 h.logged).1
  refine ⟨?_, ?_, hg.jobs h.job, h.rest.mono hg⟩
  · rw [List.getElem?_append_left hlt]
    exact h.logged
  · rw [List.take_append_of_le_length hlt]
    exact h.token

theorem WorkerOk.mono {w : Worker} (h : WorkerOk db claims w)
    (hg : Grows db claims db' claims') : WorkerOk db' claims' w := by
  obtain ⟨modelId, dim, phase⟩ := w
  cases phase with
  | idle => trivial
  | backfilling missing => trivial
  | batch jobs => exact QueueOk.mono h hg
  | claimed task => exact TaskOk.mono h hg
  | embedding task rowid body => exact ⟨TaskOk.mono h.1 hg, hg.messages h.2⟩
  | writing task rowid body embedded => exact ⟨TaskOk.mono h.1 hg, hg.messages h.2⟩
  | failing task reason => exact TaskOk.mono h hg

/-- A job that matches the fence of a task was not claimed since the task's own claim. -/
theorem TaskOk.latest {task : Task} (h : TaskOk db claims modelId task) (ht : TablesOk db claims)
    {j : EmbeddingJob} (hj : j ∈ db.embeddingJobs) (hown : task.claim.owns j = true) :
    task.claim.jobId ∉ claims.drop (task.taken + 1) := by
  simp only [JobClaim.owns, Bool.and_eq_true, beq_iff_eq] at hown
  obtain ⟨⟨hid, -⟩, hattempt⟩ := hown
  -- As many claims up to the task's own as in the whole log.
  have hcount := ht.attempts j hj
  rw [hattempt, hid, h.token] at hcount
  have hsplit : (claims.take (task.taken + 1)).count task.claim.jobId +
      (claims.drop (task.taken + 1)).count task.claim.jobId = claims.count task.claim.jobId := by
    rw [← List.count_append, List.take_append_drop]
  exact List.count_eq_zero.1 (by omega)

/-- The owned job of a task is the job of its message and its worker's model. -/
theorem TaskOk.owned_key {task : Task} (h : TaskOk db claims modelId task) (ht : TablesOk db claims)
    {j : EmbeddingJob} (hj : j ∈ db.embeddingJobs) (hown : task.claim.owns j = true) :
    j.messageId = task.messageId ∧ j.modelId = modelId := by
  simp only [JobClaim.owns, Bool.and_eq_true, beq_iff_eq] at hown
  obtain ⟨k, hk, hkey⟩ := List.mem_map.1 h.job
  simp only [EmbeddingJob.key, Prod.mk.injEq] at hkey
  obtain rfl := ht.job_unique hj hk (hown.1.1.trans hkey.1.symm)
  exact hkey.2

end

/-! ## The statements -/

/-- What the fenced write can do : fail or find the claim stale and change nothing, or
complete an owned job. -/
theorem writeEmbeddingTxn_cases (sha256 : String → String) (now modelId : String) (rowid : ℕ) (body : String)
    (embedded : List (BitVec 32)) (task : Task) (fault : Option DbError) (db : Db) :
    (∃ outcome, writeEmbeddingTxn sha256 now modelId rowid body embedded task fault db =
      (outcome, db)) ∨
    (∃ j ∈ db.embeddingJobs, task.claim.owns j = true) ∧
      writeEmbeddingTxn sha256 now modelId rowid body embedded task fault db = (.ok .written,
        insertEmbedding ⟨task.messageId, modelId, rowid, some (sha256 body), now⟩
          (insertVector ⟨vecTableFor modelId, rowid, embedded⟩
            (updateJobs task.claim.owns (EmbeddingJob.complete now) db))) := by
  unfold writeEmbeddingTxn
  cases fault with
  | some err => exact Or.inl ⟨_, rfl⟩
  | none =>
    cases hfenced : db.embeddingJobs.any task.claim.owns with
    | true =>
      refine Or.inr ⟨List.any_eq_true.1 hfenced, ?_⟩
      simp [Txn.immediate, writeEmbeddingInTransaction, hfenced, Txn.update_bind]
      rfl
    | false =>
      refine Or.inl ⟨.ok .stale, ?_⟩
      simp [Txn.immediate, writeEmbeddingInTransaction, hfenced, Txn.update_bind]
      rfl

/-- An update that matches no job changes nothing. -/
theorem updateJobs_of_none {p : EmbeddingJob → Bool} {db : Db}
    (hp : ∀ j ∈ db.embeddingJobs, ¬p j = true) (set : EmbeddingJob → EmbeddingJob) :
    updateJobs p set db = db := by
  have hmap : (db.embeddingJobs.map fun j => if p j then set j else j) = db.embeddingJobs :=
    (List.map_congr_left (g := id) fun j hj => if_neg (hp j hj)).trans (List.map_id _)
  rw [updateJobs, hmap]

/-- The claim takes the one runnable job under the id, or nothing. -/
theorem claimJob_cases (jobId now : String) (db : Db) :
    claimJob jobId now db = (none, db) ∨
    ∃ j, db.embeddingJobs.find? (fun k => k.id == jobId && k.runnable) = some j ∧
      claimJob jobId now db = (some ⟨jobId, j.attempts + 1⟩,
        updateJobs (fun k => k.id == jobId && k.runnable) (EmbeddingJob.start now) db) := by
  cases hfind : db.embeddingJobs.find? fun k => k.id == jobId && k.runnable with
  | none =>
    left
    simp only [claimJob, hfind, updateJobs_of_none (List.find?_eq_none.1 hfind), Option.map_none]
  | some j =>
    right
    refine ⟨j, rfl, ?_⟩
    simp only [claimJob, hfind, Option.map_some]

theorem updateJobs_grows (p : EmbeddingJob → Bool) (set : EmbeddingJob → EmbeddingJob)
    (hset : ∀ j, (set j).key = j.key) (db : Db) (claims : List String) :
    Grows db claims (updateJobs p set db) claims := by
  refine ⟨fun k hk => ?_, List.Subset.refl _, List.prefix_refl _⟩
  obtain ⟨j, hj, rfl⟩ := List.mem_map.1 hk
  refine List.mem_map.2 ⟨_, List.mem_map_of_mem hj, ?_⟩
  split
  · exact hset j
  · rfl

/-- A transaction of the store adds messages with their jobs, or moves delivery columns. -/
theorem TablesOk.store {db : Db} {claims : List String} (h : TablesOk db claims) (op : Op) :
    TablesOk (op.step sha256 db) claims ∧ Grows db claims (op.step sha256 db) claims := by
  rcases op.step_cases sha256 db with hs | ⟨ids, model, input, rt, ns, record, -, hs⟩ | ⟨e, ha⟩
  · rw [hs]
    exact ⟨h, .refl _ _⟩
  · obtain ⟨m, hs⟩ := beginSendAttempt_sent hs
    have hkeys : db.messages.map Message.key ⊆ (op.step sha256 db).messages.map Message.key := by
      rw [hs.messages, List.map_append]
      exact List.subset_append_left _ _
    constructor
    · have hids : ((op.step sha256 db).messages.map Message.id).Nodup := by
        rw [hs.messages]
        exact Table.nodup_concat h.messageIds hs.fresh
      have hjob := h.insertJob (j := sendJob ids.job model input) hs.jobFresh
        (fun k hk hpair => hs.jobUnique k hk (congrArg Prod.fst hpair) (congrArg Prod.snd hpair))
        rfl rfl
      exact hjob.messages hids hkeys hs.embeddingJobs hs.messageEmbeddings hs.vectors
    · refine ⟨?_, hkeys, List.prefix_refl _⟩
      rw [hs.embeddingJobs, List.map_append]
      exact List.subset_append_left _ _
  · have hcol : ∀ {β : Type} {col : Message → β}, (∀ m n, col { m with deliverySeq := n } = col m) →
        (op.step sha256 db).messages.map col = db.messages.map col := by
      intro β col hcol
      rw [ha.eq]
      exact bumpDeliverySeq_map hcol
    have hkeys : (op.step sha256 db).messages.map Message.key = db.messages.map Message.key :=
      hcol fun _ _ => rfl
    have hids : (op.step sha256 db).messages.map Message.id = db.messages.map Message.id :=
      hcol fun _ _ => rfl
    constructor
    · refine h.messages (hids ▸ h.messageIds) (hkeys ▸ List.Subset.refl _) ?_ ?_ ?_
      all_goals rw [ha.eq]; rfl
    · refine ⟨?_, hkeys ▸ List.Subset.refl _, List.prefix_refl _⟩
      rw [ha.eq]
      exact List.Subset.refl _

/-- The backfill adds a pending job, or nothing. -/
theorem TablesOk.backfill {db : Db} {claims : List String} (h : TablesOk db claims)
    (jobId messageId modelId now : String) :
    TablesOk (insertMissingJob jobId messageId modelId now db) claims ∧
      Grows db claims (insertMissingJob jobId messageId modelId now db) claims := by
  unfold insertMissingJob
  split
  · exact ⟨h, .refl _ _⟩
  · rename_i hfree
    simp only [List.any_eq_true, not_exists, not_and, Bool.or_eq_true, not_or, beq_iff_eq,
      Bool.and_eq_true] at hfree
    refine ⟨h.insertJob (fun k hk => (hfree k hk).1) (fun k hk hpair => ?_) rfl rfl, ?_,
      List.Subset.refl _, List.prefix_refl _⟩
    · exact (hfree k hk).2 (congrArg Prod.fst hpair) (congrArg Prod.snd hpair)
    · rw [List.map_append]
      exact List.subset_append_left _ _

/-! ## The invariant of the system -/

/-- The tables agree with the log, and every worker with both. -/
structure System.Ok (s : System) : Prop where
  tables : TablesOk s.db s.claims
  workers : ∀ w, WorkerOk s.db s.claims (s.workers w)

namespace System.Ok

variable {s : System}

/-- A step of worker `w` that keeps the tables and leaves `w` in a good phase. -/
theorem move (h : s.Ok) {db' : Db} {claims' : List String} (w : ℕ) (phase : Phase)
    (ht : TablesOk db' claims') (hg : Grows s.db s.claims db' claims')
    (hw : WorkerOk db' claims' { s.workers w with phase }) :
    System.Ok ⟨db', (s.setPhase w phase).workers, claims'⟩ := by
  refine ⟨ht, fun v => ?_⟩
  by_cases hv : v = w
  · subst hv
    simpa [System.setPhase] using hw
  · simpa [System.setPhase, Function.update_of_ne hv] using (h.workers v).mono hg

/-- A step that only moves the phase of `w`. -/
theorem setPhase (h : s.Ok) (w : ℕ) (phase : Phase)
    (hw : WorkerOk s.db s.claims { s.workers w with phase }) : (s.setPhase w phase).Ok :=
  h.move w phase h.tables (.refl _ _) hw

/-- A step of the database alone. -/
theorem setDb (h : s.Ok) {db' : Db} (ht : TablesOk db' s.claims)
    (hg : Grows s.db s.claims db' s.claims) : System.Ok { s with db := db' } :=
  ⟨ht, fun w => (h.workers w).mono hg⟩

theorem init (models : ℕ → String × ℕ) : (System.init models).Ok :=
  ⟨.empty, fun _ => trivial⟩

/-- What the worker of a step relies on, with its phase spelled out. -/
theorem worker (h : s.Ok) {w : ℕ} {phase : Phase} (hp : (s.workers w).phase = phase) :
    WorkerOk s.db s.claims { s.workers w with phase } := by
  rw [← hp]
  exact h.workers w

/-- A job selected for a batch is a job of the model. -/
theorem runnableJobs (db : Db) (modelId : String) (limit : ℕ) :
    QueueOk db modelId (db.runnableJobs modelId limit) := by
  intro p hp
  obtain ⟨j, hj, rfl⟩ := List.mem_map.1 hp
  have hj' := (List.mem_insertionSort _).1 (List.mem_of_mem_take hj)
  obtain ⟨hmem, hmodel⟩ := List.mem_filter.1 hj'
  simp only [Bool.and_eq_true, beq_iff_eq] at hmodel
  exact List.mem_map.2 ⟨j, hmem, by rw [EmbeddingJob.key, hmodel.1]⟩

/-- The claim step, in a batch whose next job is `jobId`. -/
theorem claim (h : s.Ok) {w : ℕ} {jobId messageId now : String} {rest : List (String × String)}
    (hp : (s.workers w).phase = .batch ((jobId, messageId) :: rest)) :
    (s.step sha256 (.claim w now none)).Ok := by
  have hq : QueueOk s.db (s.workers w).modelId ((jobId, messageId) :: rest) := h.worker hp
  have hrest : QueueOk s.db (s.workers w).modelId rest := fun p hmem =>
    hq p (List.mem_cons_of_mem _ hmem)
  have hjob := hq (jobId, messageId) List.mem_cons_self
  rcases claimJob_cases jobId now s.db with hnone | ⟨j, hfind, hsome⟩
  · simp only [System.step, hp, hnone]
    exact h.setPhase w _ hrest
  · simp only [System.step, hp, hsome]
    have hg : Grows s.db s.claims (updateJobs (fun k => k.id == jobId && k.runnable)
        (EmbeddingJob.start now) s.db) (s.claims ++ [jobId]) :=
      ⟨(updateJobs_grows _ _ (EmbeddingJob.start_key · now) s.db s.claims).jobs,
        List.Subset.refl _, List.prefix_append _ _⟩
    have ht := h.tables.claim now hfind
    rw [hsome] at ht
    have hmem := List.mem_of_find?_eq_some hfind
    have hid : j.id = jobId := by
      have := List.find?_some hfind
      simp_all
    refine h.move w _ ht hg ⟨by simp, ?_, hg.jobs hjob, hrest.mono hg⟩
    show j.attempts + 1 = _
    rw [List.take_of_length_le (by simp), List.count_append, h.tables.attempts j hmem, hid]
    simp

/-- The write step. -/
theorem write (h : s.Ok) {w : ℕ} {now : String} {fault : Option DbError} {task : Task}
    {rowid : ℕ} {body : String} {embedded : List (BitVec 32)}
    (hp : (s.workers w).phase = .writing task rowid body embedded) :
    (s.step sha256 (.write w now fault)).Ok := by
  obtain ⟨htask, hrowid⟩ : TaskOk s.db s.claims (s.workers w).modelId task ∧
      (task.messageId, rowid) ∈ s.db.messages.map Message.key := h.worker hp
  simp only [System.step, hp]
  rcases writeEmbeddingTxn_cases sha256 now (s.workers w).modelId rowid body embedded
    task fault s.db with ⟨outcome, hout⟩ | ⟨⟨j, hj, hown⟩, hout⟩
  · rw [hout]
    cases outcome with
    | ok o => exact h.setPhase w _ htask.rest
    | error err => exact h.setPhase w _ htask
  · rw [hout]
    obtain ⟨hmsg, hmodel⟩ := htask.owned_key h.tables hj hown
    have ht := h.tables.write hj hown (hmsg ▸ hrowid) now embedded (some (sha256 body))
    rw [hmsg, hmodel] at ht
    have hg := updateJobs_grows task.claim.owns _ (EmbeddingJob.complete_key · now) s.db s.claims
    have hrest : QueueOk _ (s.workers w).modelId task.rest := htask.rest.mono hg
    exact h.move w _ ht ⟨hg.jobs, hg.messages, hg.claims⟩ hrest

/-- Every step keeps the invariant. -/
theorem step (h : s.Ok) (e : Event) : (s.step sha256 e).Ok := by
  cases e with
  | store op =>
    obtain ⟨ht, hg⟩ := h.tables.store op
    exact h.setDb ht hg
  | start w modelId dim =>
    refine ⟨h.tables, fun v => ?_⟩
    by_cases hv : v = w
    · subst hv
      simp [System.step, WorkerOk]
    · simpa [System.step, Function.update_of_ne hv] using h.workers v
  | recover modelId cutoff =>
    refine h.setDb (h.tables.updateJobs fun j hj => ?_) (updateJobs_grows _ _ EmbeddingJob.requeue_key _ _)
    simp only [EmbeddingJob.stale, Bool.and_eq_true, beq_iff_eq] at hj
    exact ⟨rfl, rfl, by rw [hj.1.2]; simp, by simp⟩
  | backfillSelect w =>
    cases hp : (s.workers w).phase <;> simp only [System.step, hp]
    case idle => exact h.setPhase w _ trivial
    all_goals exact h
  | backfillInsert w jobId now =>
    cases hp : (s.workers w).phase
    case backfilling missing =>
      cases missing with
      | nil =>
        simp only [System.step, hp]
        exact h.setPhase w _ trivial
      | cons messageId missing =>
        simp only [System.step, hp]
        obtain ⟨ht, hg⟩ := h.tables.backfill jobId messageId (s.workers w).modelId now
        exact h.move w _ ht hg trivial
    all_goals
      simp only [System.step, hp]
      exact h
  | select w =>
    cases hp : (s.workers w).phase <;> simp only [System.step, hp]
    case idle => exact h.setPhase w _ (runnableJobs _ _ _)
    all_goals exact h
  | claim w now fault =>
    cases hp : (s.workers w).phase
    case batch jobs =>
      rcases jobs with _ | ⟨⟨jobId, messageId⟩, rest⟩
      · simp only [System.step, hp]
        exact h.setPhase w _ trivial
      · cases fault with
        | none => exact h.claim hp
        | some err =>
          simp only [System.step, hp]
          exact h.setPhase w _ trivial
    all_goals
      simp only [System.step, hp]
      exact h
  | fetch w fault =>
    cases hp : (s.workers w).phase
    case claimed task =>
      have htask : TaskOk s.db s.claims (s.workers w).modelId task := h.worker hp
      cases fault with
      | some err =>
        simp only [System.step, hp]
        exact h.setPhase w _ htask
      | none =>
        cases hm : s.db.message? task.messageId with
        | none =>
          simp only [System.step, hp, hm]
          exact h.setPhase w _ htask
        | some m =>
          simp only [System.step, hp, hm]
          have hid : m.id = task.messageId := by simpa using List.find?_some hm
          refine h.setPhase w _ ⟨htask, List.mem_map.2 ⟨m, List.mem_of_find?_eq_some hm, ?_⟩⟩
          rw [Message.key, hid]
    all_goals
      simp only [System.step, hp]
      exact h
  | provide w result =>
    cases hp : (s.workers w).phase
    case embedding task rowid body =>
      have htask : TaskOk s.db s.claims (s.workers w).modelId task ∧
          (task.messageId, rowid) ∈ s.db.messages.map Message.key := h.worker hp
      cases hg : guardEmbedding (s.workers w).dim result with
      | ok embedded =>
        simp only [System.step, hp, hg]
        exact h.setPhase w _ htask
      | error reason =>
        simp only [System.step, hp, hg]
        exact h.setPhase w _ htask.1
    all_goals
      simp only [System.step, hp]
      exact h
  | write w now fault =>
    cases hp : (s.workers w).phase
    case writing task rowid body embedded => exact h.write hp
    all_goals
      simp only [System.step, hp]
      exact h
  | markFailed w now fault =>
    cases hp : (s.workers w).phase
    case failing task reason =>
      have htask : TaskOk s.db s.claims (s.workers w).modelId task := h.worker hp
      simp only [System.step, hp]
      cases fault with
      | some err => exact h.move w _ h.tables (.refl _ _) htask.rest
      | none =>
        have ht : TablesOk (markJobFailed task.claim reason now s.db) s.claims := by
          refine h.tables.updateJobs fun j hj => ?_
          simp only [JobClaim.owns, Bool.and_eq_true, beq_iff_eq] at hj
          exact ⟨rfl, rfl, by rw [hj.1.2]; simp, by simp⟩
        have hg := updateJobs_grows task.claim.owns _ (EmbeddingJob.fail_key · reason now)
          s.db s.claims
        exact h.move w _ ht hg (htask.rest.mono hg)
    all_goals
      simp only [System.step, hp]
      exact h

/-- Every reachable system satisfies the invariant. -/
theorem run (sha256 : String → String) (models : ℕ → String × ℕ) (es : List Event) :
    (StepRun.run (System.step sha256) (System.init models) es).Ok :=
  run_invariant (fun _ e h => h.step e) (init models) es

end System.Ok

/-! ## What a step does to the database -/

/-- What one step can do to the database and to the log. -/
inductive Effect (sha256 : String → String) (s : System) : Event → Db → List String → Prop where
  | none (e : Event) : Effect sha256 s e s.db s.claims
  | store (op : Op) : Effect sha256 s (.store op) (op.step sha256 s.db) s.claims
  | recover (modelId cutoff : String) : Effect sha256 s (.recover modelId cutoff)
      (recoverRunningJobsOlderThan modelId cutoff s.db) s.claims
  | backfill (w : ℕ) (jobId now messageId modelId : String) :
      Effect sha256 s (.backfillInsert w jobId now)
        (insertMissingJob jobId messageId modelId now s.db) s.claims
  | claim {w : ℕ} {now jobId : String} {j : EmbeddingJob}
      (found : s.db.embeddingJobs.find? (fun k => k.id == jobId && k.runnable) = some j) :
      Effect sha256 s (.claim w now .none)
        (updateJobs (fun k => k.id == jobId && k.runnable) (EmbeddingJob.start now) s.db)
        (s.claims ++ [jobId])
  | write {w : ℕ} {now : String} {fault : Option DbError} {task : Task} {rowid : ℕ}
      {body : String} {embedded : List (BitVec 32)}
      (phase : (s.workers w).phase = .writing task rowid body embedded)
      (owned : ∃ j ∈ s.db.embeddingJobs, task.claim.owns j = true) :
      Effect sha256 s (.write w now fault)
        (insertEmbedding
          ⟨task.messageId, (s.workers w).modelId, rowid, some (sha256 body), now⟩
          (insertVector ⟨vecTableFor (s.workers w).modelId, rowid, embedded⟩
            (updateJobs task.claim.owns (EmbeddingJob.complete now) s.db))) s.claims
  | fail {w : ℕ} {now : String} {task : Task} {reason : String}
      (phase : (s.workers w).phase = .failing task reason) :
      Effect sha256 s (.markFailed w now .none) (markJobFailed task.claim reason now s.db) s.claims

theorem System.effect (sha256 : String → String) (s : System) (e : Event) :
    Effect sha256 s e (s.step sha256 e).db (s.step sha256 e).claims := by
  cases e with
  | store op => exact .store op
  | start w modelId dim => exact .none _
  | recover modelId cutoff => exact .recover modelId cutoff
  | backfillSelect w =>
    cases hp : (s.workers w).phase <;> simp only [System.step, hp] <;> exact .none _
  | backfillInsert w jobId now =>
    rcases hp : (s.workers w).phase with _ | (_ | ⟨messageId, missing⟩) | _ | _ | _ | _ | _
    case backfilling.cons =>
      simp only [System.step, hp]
      exact .backfill w jobId now messageId _
    all_goals
      simp only [System.step, hp]
      exact .none _
  | select w =>
    cases hp : (s.workers w).phase <;> simp only [System.step, hp] <;> exact .none _
  | claim w now fault =>
    rcases hp : (s.workers w).phase with _ | _ | (_ | ⟨⟨jobId, messageId⟩, rest⟩) | _ | _ | _ | _
    case batch.cons =>
      cases fault with
      | some err =>
        simp only [System.step, hp]
        exact .none _
      | none =>
        rcases claimJob_cases jobId now s.db with hnone | ⟨j, hfind, hsome⟩
        · simp only [System.step, hp, hnone]
          exact .none _
        · simp only [System.step, hp, hsome]
          exact .claim hfind
    all_goals
      simp only [System.step, hp]
      exact .none _
  | fetch w fault =>
    simp only [System.step]
    split <;> [skip; split; skip] <;> exact .none _
  | provide w result =>
    simp only [System.step]
    split <;> [split; skip] <;> exact .none _
  | write w now fault =>
    rcases hp : (s.workers w).phase with _ | _ | _ | _ | _ | ⟨task, rowid, body, embedded⟩ | _
    case writing =>
      simp only [System.step, hp]
      rcases writeEmbeddingTxn_cases sha256 now (s.workers w).modelId rowid body embedded task
        fault s.db with ⟨outcome, hout⟩ | ⟨howned, hout⟩
      · rw [hout]
        cases outcome <;> exact .none _
      · rw [hout]
        exact .write hp howned
    all_goals
      simp only [System.step, hp]
      exact .none _
  | markFailed w now fault =>
    rcases hp : (s.workers w).phase with _ | _ | _ | _ | _ | _ | ⟨task, reason⟩
    case failing =>
      simp only [System.step, hp]
      cases fault with
      | none => exact .fail hp
      | some err => exact .none _
    all_goals
      simp only [System.step, hp]
      exact .none _

/-! ## Done jobs -/

/-- A step leaves a done job as it is and does not claim it. -/
theorem Effect.done {s : System} (h : s.Ok) {e : Event} {db' : Db} {claims' : List String}
    (heff : Effect sha256 s e db' claims') {j : EmbeddingJob} (hj : j ∈ s.db.embeddingJobs)
    (hdone : j.status = .done) :
    j ∈ db'.embeddingJobs ∧ ∃ later, claims' = s.claims ++ later ∧ j.id ∉ later := by
  have hupdate : ∀ {p : EmbeddingJob → Bool} {set : EmbeddingJob → EmbeddingJob},
      ¬p j = true → j ∈ (updateJobs p set s.db).embeddingJobs := fun hp =>
    List.mem_map.2 ⟨j, hj, if_neg hp⟩
  have howns : ∀ claim : JobClaim, ¬claim.owns j = true := fun claim hown => by
    simp [JobClaim.owns, hdone] at hown
  have hkeep : ∃ later, s.claims = s.claims ++ later ∧ j.id ∉ later :=
    ⟨[], (List.append_nil _).symm, List.not_mem_nil⟩
  cases heff with
  | none => exact ⟨hj, hkeep⟩
  | store op =>
    refine ⟨?_, hkeep⟩
    rcases op.step_cases sha256 s.db with hs | ⟨ids, model, input, rt, ns, record, -, hs⟩ | ⟨e, ha⟩
    · rwa [hs]
    · obtain ⟨m, hs⟩ := beginSendAttempt_sent hs
      rw [hs.embeddingJobs]
      exact List.mem_append_left _ hj
    · rw [ha.eq]
      exact hj
  | recover modelId cutoff => exact ⟨hupdate (by simp [EmbeddingJob.stale, hdone]), hkeep⟩
  | backfill w jobId now messageId modelId =>
    refine ⟨?_, hkeep⟩
    unfold insertMissingJob
    split
    · exact hj
    · exact List.mem_append_left _ hj
  | @claim w now jobId k hfind =>
    obtain ⟨hkid, hkrun⟩ : k.id = jobId ∧ k.runnable = true := by
      simpa using List.find?_some hfind
    have hrun : ¬j.runnable = true := by simp [EmbeddingJob.runnable, hdone]
    refine ⟨hupdate (by simp [hrun]), [jobId], rfl, fun hmem => ?_⟩
    -- The claimed job is runnable, and the only one under its id.
    have hjk : j.id = k.id := (List.mem_singleton.1 hmem).trans hkid.symm
    exact hrun (h.tables.job_unique hj (List.mem_of_find?_eq_some hfind) hjk ▸ hkrun)
  | write hp howned => exact ⟨hupdate (howns _), hkeep⟩
  | fail hp => exact ⟨hupdate (howns _), hkeep⟩

/-- A done job stays as it is, and is never claimed again. -/
theorem System.Ok.run_done {s : System} (h : s.Ok) {j : EmbeddingJob}
    (hj : j ∈ s.db.embeddingJobs) (hdone : j.status = .done) (es : List Event) :
    j ∈ (StepRun.run (System.step sha256) s es).db.embeddingJobs ∧
      ∃ later, (StepRun.run (System.step sha256) s es).claims = s.claims ++ later ∧
        j.id ∉ later := by
  induction es generalizing s with
  | nil => exact ⟨hj, [], (List.append_nil _).symm, List.not_mem_nil⟩
  | cons e es ih =>
    obtain ⟨hj', first, hfirst, hnot⟩ := (s.effect sha256 e).done h hj hdone
    obtain ⟨hj'', later, hlater, hnot'⟩ := ih (h.step e) hj'
    refine ⟨hj'', first ++ later, ?_, by simp [hnot, hnot']⟩
    rw [run_cons, hlater, hfirst, List.append_assoc]

/-! ## The fence -/

/-- The task a worker has claimed a job for. -/
def Phase.task? : Phase → Option Task
  | .claimed task => some task
  | .embedding task _ _ => some task
  | .writing task _ _ _ => some task
  | .failing task _ => some task
  | _ => none

/-- A terminal update of worker `w`'s task that changes the database is of an owned job. -/
theorem System.Ok.owned_of_effect {s : System} (h : s.Ok) {w : ℕ} {task : Task}
    (ht : (s.workers w).phase.task? = some task) {now : String} {fault : Option DbError}
    {e : Event} (he : e = .write w now fault ∨ e = .markFailed w now fault)
    (hne : (s.step sha256 e).db ≠ s.db) :
    TaskOk s.db s.claims (s.workers w).modelId task ∧
      ∃ j ∈ s.db.embeddingJobs, task.claim.owns j = true := by
  have heff := s.effect sha256 e
  generalize (s.step sha256 e).db = db' at heff hne
  generalize (s.step sha256 e).claims = claims' at heff
  rcases he with rfl | rfl
  · cases heff with
    | none => exact absurd rfl hne
    | write hp howned =>
      rw [hp] at ht
      obtain rfl := Option.some.inj ht
      exact ⟨(h.worker hp).1, howned⟩
  · cases heff with
    | none => exact absurd rfl hne
    | fail hp =>
      rw [hp] at ht
      obtain rfl := Option.some.inj ht
      refine ⟨h.worker hp, ?_⟩
      by_contra hnone
      refine hne (updateJobs_of_none (fun j hj hown => hnone ⟨j, hj, hown⟩) _)

/-- The row of the message of a job, from the identity columns. -/
theorem TablesOk.message_rowid {db : Db} {claims : List String} (h : TablesOk db claims)
    {id : String} {rowid : ℕ} (hkey : (id, rowid) ∈ db.messages.map Message.key) :
    ∃ m, db.message? id = some m ∧ m.rowid = rowid := by
  obtain ⟨m, hm, hmkey⟩ := List.mem_map.1 hkey
  obtain ⟨hid, hrow⟩ := Prod.mk.inj hmkey
  obtain ⟨n, hn⟩ : ∃ n, db.message? id = some n := by
    rw [← Option.isSome_iff_exists, Db.message?, List.find?_isSome]
    exact ⟨m, hm, beq_iff_eq.2 hid⟩
  have hnid : n.id = id := by simpa using List.find?_some hn
  obtain rfl := Table.unique h.messageIds (List.mem_of_find?_eq_some hn) hm (hnid.trans hid.symm)
  exact ⟨n, hn, hrow⟩

/-- The metadata rows of a job. -/
def Db.embeddingsOf (db : Db) (j : EmbeddingJob) : List MessageEmbedding :=
  db.messageEmbeddings.filter fun r => r.pair == j.pair

/-- The vector rows of a job : those of its model's table at the row of its message. -/
def Db.vectorsOf (db : Db) (j : EmbeddingJob) : List VecRow :=
  db.vectors.filter fun v => v.vecTable == vecTableFor j.modelId &&
    (db.message? j.messageId).any fun m => v.messageRowid == m.rowid

/-- The rows of a done job. -/
theorem TablesOk.done_rows {db : Db} {claims : List String} (h : TablesOk db claims)
    {j : EmbeddingJob} (hj : j ∈ db.embeddingJobs) (hdone : j.status = .done) :
    (∃ r, db.embeddingsOf j = [r]) ∧ ∃ v, db.vectorsOf j = [v] := by
  obtain ⟨⟨r, hr, hrj⟩, v, hv, htable, hplace⟩ := h.done j hj hdone
  obtain ⟨m, hm, hrow⟩ := h.message_rowid hplace
  constructor
  · exact Table.filter_eq_singleton h.embeddingKeys (List.mem_map.2 ⟨r, hr, hrj⟩)
  · obtain ⟨u, hu⟩ := Table.filter_eq_singleton h.vectorKeys (List.mem_map_of_mem hv)
    refine ⟨u, ?_⟩
    rw [← hu, Db.vectorsOf, hm]
    refine List.filter_congr fun x _ => ?_
    rw [VecRow.place, VecRow.place, htable, Option.any_some, hrow]
    rfl

/-- For any number of workers and any interleaving of the statements of sends, claims,
provider returns, fenced writes, failure marks, recoveries, backfills and crashes :

* a write or a failure mark of a claim changes the database only if the job is still
  running and was not claimed again since that claim;
* a job is `done` exactly when its metadata row and its vector exist, and then there is
  exactly one of each;
* no message has two jobs for one model;
* whatever happens later, a `done` job stays as it is and is not claimed. -/
theorem embedding_fencing (sha256 : String → String) (models : ℕ → String × ℕ)
    (es : List Event) :
    let s := run (System.step sha256) (System.init models) es
    (∀ w task now fault e, (s.workers w).phase.task? = some task →
      (e = .write w now fault ∨ e = .markFailed w now fault) → (s.step sha256 e).db ≠ s.db →
      (∃ j ∈ s.db.embeddingJobs, j.id = task.claim.jobId ∧ j.status = .running) ∧
        s.claims[task.taken]? = some task.claim.jobId ∧
        task.claim.jobId ∉ s.claims.drop (task.taken + 1)) ∧
    (∀ j ∈ s.db.embeddingJobs,
      (j.status = .done ↔ s.db.embeddingsOf j ≠ [] ∧ s.db.vectorsOf j ≠ []) ∧
      (j.status = .done → (∃ r, s.db.embeddingsOf j = [r]) ∧ ∃ v, s.db.vectorsOf j = [v])) ∧
    (∀ j ∈ s.db.embeddingJobs, ∀ k ∈ s.db.embeddingJobs, j.messageId = k.messageId →
      j.modelId = k.modelId → j = k) ∧
    (∀ j ∈ s.db.embeddingJobs, j.status = .done → ∀ later : List Event,
      j ∈ (run (System.step sha256) s later).db.embeddingJobs ∧
        ∃ claims, (run (System.step sha256) s later).claims = s.claims ++ claims ∧
          j.id ∉ claims) := by
  intro s
  have h : s.Ok := System.Ok.run sha256 models es
  refine ⟨?_, fun j hj => ⟨⟨fun hdone => ?_, fun hrows => ?_⟩, h.tables.done_rows hj⟩, ?_,
    fun j hj hdone later => h.run_done hj hdone later⟩
  · intro w task now fault e ht he hne
    obtain ⟨htask, j, hj, hown⟩ := h.owned_of_effect ht he hne
    refine ⟨⟨j, hj, ?_⟩, htask.logged, htask.latest h.tables hj hown⟩
    simp only [JobClaim.owns, Bool.and_eq_true, beq_iff_eq] at hown
    exact hown.1
  · obtain ⟨⟨r, hr⟩, v, hv⟩ := h.tables.done_rows hj hdone
    simp [hr, hv]
  · -- The metadata row alone names a done job, and the job of a pair is unique.
    obtain ⟨r, hr⟩ := List.exists_mem_of_ne_nil _ hrows.1
    obtain ⟨hmem, hpair⟩ := List.mem_filter.1 hr
    obtain ⟨k, hk, hkr, hdone⟩ := h.tables.embedded r hmem
    obtain rfl := Table.unique h.tables.pairs hk hj (hkr.trans (beq_iff_eq.1 hpair))
    exact hdone
  · intro j hj k hk hmsg hmodel
    exact Table.unique h.tables.pairs hj hk (Prod.ext hmsg hmodel)

end Zynk
