import Zynk.Lib.Table
import Zynk.Lib.Text
import Zynk.Lib.Txn

/-!
# The message store

The tables of the global database (`migrations/zynk/0001` to `0005`) that the send,
delivery, receipt, recovery and embedding code reads and writes. A table is the list of
its rows in insertion order. Columns that no statement of that code reads and that are
only ever their default (`topic`, `left_at`, `zynk_event_id`) are left out, and JSON text
columns hold the value that was encoded.

A statement that can violate a constraint fails with the error `sqlx` returns for it
(`DbError.fromSql`); inside `Txn.immediate` that rolls the whole transaction back. Rows
are never deleted and every insert takes its foreign keys from rows read in the same
transaction, so the foreign-key checks cannot fire and are not repeated here.
-/

namespace Zynk

/-- An error of the store : a code and a text. -/
structure DbError where
  code : String
  message : String
  deriving DecidableEq, Repr

/-- The error a failed SQL statement surfaces as. -/
def DbError.fromSql (detail : String) : DbError :=
  ⟨"db_error", detail⟩

/-- A JSON value (`serde_json::Value`). -/
inductive Json where
  | null
  | bool (b : Bool)
  | number (n : Int)
  | string (s : String)
  | array (items : List Json)
  | object (fields : List (String × Json))
  deriving Repr

namespace Json

/-- The member of an object, nothing for any other value. -/
def get (key : String) : Json → Option Json
  | object fields => fields.lookup key
  | _ => none

/-- The text of a string value. -/
def asStr : Json → Option String
  | string s => some s
  | _ => none

/-- A string, or `null` when there is none. -/
def ofOption : Option String → Json
  | some s => string s
  | none => null

end Json

/-- `s.trim().is_empty()`. -/
def isBlank (s : String) : Bool :=
  s.toList.all Text.isWhitespace

/-- The `status` column of `conversations`. -/
inductive ConversationStatus where
  | active
  | closed
  | archived
  deriving DecidableEq, Repr

structure Conversation where
  id : String
  runtimeSessionId : String
  socketNamespace : String
  workspaceId : String
  tabId : String
  createdAt : String
  lastMessageAt : String
  status : ConversationStatus
  conversationSeq : ℕ
  deriving DecidableEq, Repr

structure Participant where
  id : String
  conversationId : String
  agentLabel : String
  paneId : Option String
  terminalId : Option String
  terminalInstanceId : Option String
  agentSessionSource : Option String
  agentSessionKind : Option String
  agentSessionValue : Option String
  participantKey : String
  joinedAt : String
  deriving DecidableEq, Repr

structure Message where
  /-- The implicit `rowid` of the table, under which its full-text and vector rows live. -/
  rowid : ℕ
  id : String
  conversationId : String
  conversationSeq : ℕ
  deliverySeq : ℕ
  derivedParentId : Option String
  runtimeSessionId : String
  socketNamespace : String
  createdAt : String
  targetArg : String
  fromParticipantId : String
  toParticipantId : String
  messageType : Option String
  body : String
  bodyHash : String
  workspaceId : String
  tabId : String
  cwd : Option String
  foregroundCwd : Option String
  branch : Option String
  gitSha : Option String
  protocolJson : Json
  metaJson : Json

/-- The `event_type` column of `delivery_events`, as its `CHECK` enumerates it. -/
inductive EventType where
  | drafted
  | submitted
  | received
  | processed
  | failed
  deriving DecidableEq, Repr

/-- The text of the column. -/
def EventType.asStr : EventType → String
  | drafted => "drafted"
  | submitted => "submitted"
  | received => "received"
  | processed => "processed"
  | failed => "failed"

/-- The values the `CHECK` on `proof_source` admits after migration 0005. -/
def proofSources : List String :=
  ["pane.send_text", "pane.send_input", "pane.submit", "integration", "pane_tree", "operator",
    "system.recovery", "agent.prompt"]

structure DeliveryEvent where
  id : String
  messageId : String
  eventType : EventType
  proofSource : String
  seq : ℕ
  timestamp : String
  payloadJson : Json

/-- A row of the full-text index `messages_fts`. -/
structure FtsRow where
  rowid : ℕ
  body : String
  messageType : Option String
  branch : Option String
  cwd : Option String
  targetArg : String
  deriving DecidableEq, Repr

/-- The `status` column of `embedding_jobs`. -/
inductive JobStatus where
  | pending
  | running
  | done
  | failed
  deriving DecidableEq, Repr

structure EmbeddingJob where
  id : String
  messageId : String
  modelId : String
  status : JobStatus
  attempts : ℕ
  lastError : Option String
  enqueuedAt : String
  startedAt : Option String
  finishedAt : Option String
  deriving DecidableEq, Repr

structure MessageEmbedding where
  messageId : String
  modelId : String
  vecRowid : ℕ
  textHash : Option String
  createdAt : String
  deriving DecidableEq, Repr

/-- A row of one of the `vec0` tables, with the table it is in. A component of the
embedding is the bit pattern of an `f32`. -/
structure VecRow where
  vecTable : String
  messageRowid : ℕ
  embedding : List (BitVec 32)
  deriving DecidableEq, Repr

/-- The database. -/
structure Db where
  conversations : List Conversation
  participants : List Participant
  messages : List Message
  deliveryEvents : List DeliveryEvent
  messagesFts : List FtsRow
  embeddingJobs : List EmbeddingJob
  messageEmbeddings : List MessageEmbedding
  vectors : List VecRow

/-- A freshly migrated database. -/
def Db.empty : Db :=
  ⟨[], [], [], [], [], [], [], []⟩

/-- A transaction body on the database. -/
abbrev DbTxn (α : Type) :=
  Txn Db DbError α

/-- The `rowid` the next insert into `messages` gets : one more than the greatest. -/
def Db.nextRowid (db : Db) : ℕ :=
  (db.messages.map Message.rowid).foldr max 0 + 1

/-- `SELECT … FROM messages WHERE id = ?`. -/
def Db.message? (db : Db) (id : String) : Option Message :=
  db.messages.find? (·.id == id)

/-- `SELECT … FROM conversation_participants WHERE id = ?`. -/
def Db.participant? (db : Db) (id : String) : Option Participant :=
  db.participants.find? (·.id == id)

/-- The delivery events of a message, as they were inserted. -/
def Db.eventsOf (db : Db) (messageId : String) : List DeliveryEvent :=
  db.deliveryEvents.filter (·.messageId == messageId)

/-- `SELECT event_type FROM delivery_events WHERE message_id = ? ORDER BY seq DESC LIMIT 1`. -/
def Db.latestEvent? (db : Db) (messageId : String) : Option EventType :=
  (Table.latestBy DeliveryEvent.seq (db.eventsOf messageId)).map DeliveryEvent.eventType

/-! ## Inserts and their constraints -/

/-- `INSERT INTO conversations`. The id is the primary key, and at most one active
conversation exists for a runtime in a scope (`idx_conversations_active_scope`). -/
def insertConversation (c : Conversation) : DbTxn Unit := do
  let db ← Txn.read id
  Txn.require (db.conversations.all (·.id != c.id))
    (DbError.fromSql "UNIQUE constraint failed: conversations.id")
  Txn.require (db.conversations.all fun d => !(d.status == .active && c.status == .active &&
      d.runtimeSessionId == c.runtimeSessionId && d.socketNamespace == c.socketNamespace &&
      d.workspaceId == c.workspaceId && d.tabId == c.tabId))
    (DbError.fromSql "UNIQUE constraint failed: idx_conversations_active_scope")
  Txn.update fun db => { db with conversations := db.conversations ++ [c] }

variable {db : Db} {r : Unit × Db}

theorem insertConversation_ok {c : Conversation} :
    insertConversation c db = .ok r ↔ (∀ d ∈ db.conversations, d.id ≠ c.id) ∧
      (∀ d ∈ db.conversations, ¬(d.status = .active ∧ c.status = .active ∧
        d.runtimeSessionId = c.runtimeSessionId ∧ d.socketNamespace = c.socketNamespace ∧
        d.workspaceId = c.workspaceId ∧ d.tabId = c.tabId)) ∧
      r = ((), { db with conversations := db.conversations ++ [c] }) := by
  simp [insertConversation, Txn.require_bind_ok, imp_iff_not_or, or_assoc]

/-- `INSERT OR IGNORE INTO conversation_participants` : a row whose id, or whose key in
its conversation, is taken is not inserted. -/
def insertParticipant (p : Participant) (db : Db) : Db :=
  if db.participants.any fun q => q.id == p.id ||
      (q.conversationId == p.conversationId && q.participantKey == p.participantKey) then db
  else { db with participants := db.participants ++ [p] }

theorem insertParticipant_cases (p : Participant) (db : Db) : insertParticipant p db = db ∨
    (∀ q ∈ db.participants, q.id ≠ p.id) ∧
      insertParticipant p db = { db with participants := db.participants ++ [p] } := by
  unfold insertParticipant
  split
  · exact Or.inl rfl
  · rename_i hany
    refine Or.inr ⟨fun q hq hid => hany ?_, rfl⟩
    exact List.any_eq_true.2 ⟨q, hq, by simp [hid]⟩

/-- `INSERT INTO messages`, with the `rowid` the table assigns. -/
def insertMessage (row : ℕ → Message) : DbTxn Unit := do
  let db ← Txn.read id
  let m := row db.nextRowid
  Txn.require (db.messages.all (·.id != m.id))
    (DbError.fromSql "UNIQUE constraint failed: messages.id")
  Txn.require (db.messages.all fun n =>
      !(n.conversationId == m.conversationId && n.conversationSeq == m.conversationSeq))
    (DbError.fromSql "UNIQUE constraint failed: messages.conversation_id, messages.conversation_seq")
  Txn.update fun db => { db with messages := db.messages ++ [m] }

theorem insertMessage_ok {row : ℕ → Message} :
    insertMessage row db = .ok r ↔ (∀ n ∈ db.messages, n.id ≠ (row db.nextRowid).id) ∧
      (∀ n ∈ db.messages, n.conversationId = (row db.nextRowid).conversationId →
        n.conversationSeq ≠ (row db.nextRowid).conversationSeq) ∧
      r = ((), { db with messages := db.messages ++ [row db.nextRowid] }) := by
  simp [insertMessage, Txn.require_bind_ok, imp_iff_not_or]

/-- `INSERT INTO messages_fts`. -/
def insertFts (row : FtsRow) : DbTxn Unit :=
  Txn.update fun db => { db with messagesFts := db.messagesFts ++ [row] }

/-- `INSERT INTO embedding_jobs`. -/
def insertJob (j : EmbeddingJob) : DbTxn Unit := do
  let db ← Txn.read id
  Txn.require (db.embeddingJobs.all (·.id != j.id))
    (DbError.fromSql "UNIQUE constraint failed: embedding_jobs.id")
  Txn.require (db.embeddingJobs.all fun k => !(k.messageId == j.messageId && k.modelId == j.modelId))
    (DbError.fromSql "UNIQUE constraint failed: embedding_jobs.message_id, embedding_jobs.model_id")
  Txn.update fun db => { db with embeddingJobs := db.embeddingJobs ++ [j] }

theorem insertJob_ok {j : EmbeddingJob} :
    insertJob j db = .ok r ↔ (∀ k ∈ db.embeddingJobs, k.id ≠ j.id) ∧
      (∀ k ∈ db.embeddingJobs, k.messageId = j.messageId → k.modelId ≠ j.modelId) ∧
      r = ((), { db with embeddingJobs := db.embeddingJobs ++ [j] }) := by
  simp [insertJob, Txn.require_bind_ok, imp_iff_not_or]

/-- `INSERT INTO delivery_events`. -/
def insertDeliveryEvent (e : DeliveryEvent) : DbTxn Unit := do
  let db ← Txn.read id
  Txn.require (proofSources.contains e.proofSource)
    (DbError.fromSql "CHECK constraint failed: proof_source")
  Txn.require (db.deliveryEvents.all (·.id != e.id))
    (DbError.fromSql "UNIQUE constraint failed: delivery_events.id")
  Txn.require (db.deliveryEvents.all fun d => !(d.messageId == e.messageId && d.seq == e.seq))
    (DbError.fromSql "UNIQUE constraint failed: delivery_events.message_id, delivery_events.seq")
  Txn.update fun db => { db with deliveryEvents := db.deliveryEvents ++ [e] }

theorem insertDeliveryEvent_ok {e : DeliveryEvent} :
    insertDeliveryEvent e db = .ok r ↔ e.proofSource ∈ proofSources ∧
      (∀ d ∈ db.deliveryEvents, d.id ≠ e.id) ∧
      (∀ d ∈ db.deliveryEvents, d.messageId = e.messageId → d.seq ≠ e.seq) ∧
      r = ((), { db with deliveryEvents := db.deliveryEvents ++ [e] }) := by
  simp [insertDeliveryEvent, Txn.require_bind_ok, imp_iff_not_or]

end Zynk
