import Zynk.Store.Schema

/-!
# Message persistence

The transactions of `zynk/persistence.rs` and the orphan recovery of `zynk/db.rs` :
`beginSendAttempt` (one message with its conversation, participants, full-text row and
embedding job), `appendDeliveryEvent` (one delivery event behind the transition guard)
and `failOrphanMessage` (one recovery event on a message that has none).

Each is one `BEGIN IMMEDIATE` transaction. The ids that `new_prefixed_id` draws, the
clock, the active embedding model and SHA-256 are arguments.
-/

namespace Zynk

/-- One side of a send (`message.rs`, `Party`). -/
structure Party where
  agent : Option String := none
  pane : Option String := none
  terminalId : Option String := none
  agentSession : Option Json := none
  workspace : Option String := none
  tab : Option String := none
  cwd : Option String := none
  branch : Option String := none
  gitSha : Option String := none

/-- The send command, recorded in `protocol_json`. -/
inductive SendCommand where
  | agentSend
  | agentPrompt
  | paneRun
  | paneSendText
  | zynkSend
  | zynkReply
  deriving DecidableEq, Repr

def SendCommand.asStr : SendCommand → String
  | agentSend => "agent send"
  | agentPrompt => "agent prompt"
  | paneRun => "pane run"
  | paneSendText => "pane send-text"
  | zynkSend => "zynk send"
  | zynkReply => "zynk reply"

/-- What a sender asks to persist. -/
structure SendAttempt where
  command : SendCommand
  messageId : String
  targetArg : String
  sender : Party
  recipient : Party
  messageType : Option String
  body : String
  createdAt : String
  traceId : Option String

/-- What a persisted send reports back. -/
structure PersistedSend where
  messageId : String
  conversationId : String
  conversationSeq : ℕ
  bodyHash : String
  runtimeSessionId : String
  socketNamespace : String
  traceId : Option String
  deriving DecidableEq, Repr

/-- The ids one send draws from `new_prefixed_id`. -/
structure SendIds where
  conversation : String
  senderParticipant : String
  recipientParticipant : String
  job : String

/-- The delivery events the code writes. `processed` is in the schema's `CHECK` only. -/
inductive DeliveryEventType where
  | drafted
  | submitted
  | received
  | failed
  deriving DecidableEq, Repr

/-- The column value written for an event (`DeliveryEventType::as_str`). -/
def DeliveryEventType.toColumn : DeliveryEventType → EventType
  | drafted => .drafted
  | submitted => .submitted
  | received => .received
  | failed => .failed

structure DeliveryEventInput where
  messageId : String
  eventType : DeliveryEventType
  proofSource : String
  timestamp : String
  payload : Json

structure ParticipantFields where
  agentLabel : String
  paneId : Option String
  terminalId : Option String
  terminalInstanceId : Option String
  agentSessionSource : Option String
  agentSessionKind : Option String
  agentSessionValue : Option String
  participantKey : String

/-- `RECEIPT_PROOF_SOURCE` : what a receipt records. -/
def receiptProofSource : String := "pane_tree"

/-- `LEGACY_RECEIPT_PROOF_SOURCE` : never recorded by this build. -/
def legacyReceiptProofSource : String := "integration"

/-! ## Participants and scopes -/

/-- A scope component, `unknown` when it is absent or blank. -/
def scopedField (value : Option String) : String :=
  (value.filter fun s => !isBlank s).getD "unknown"

/-- The session triple a party offers : all three components, present and not blank, of a
session whose owner (when it names one) is the party's own label. -/
def sessionFields (party : Party) : Option String × Option String × Option String :=
  match party.agentSession with
  | none => (none, none, none)
  | some value =>
    let field (key : String) := (value.get key).bind Json.asStr
    let foreign :=
      match field "agent", party.agent with
      | some owner, some label => owner != label
      | _, _ => false
    if foreign then (none, none, none)
    else
      let source := field "source"
      let kind := field "kind"
      let sessionValue := field "value"
      if [source, kind, sessionValue].all fun f => f.any fun s => !isBlank s then
        (source, kind, sessionValue)
      else (none, none, none)

section

variable (sha256 : String → String)

/-- The columns and the key a party is interned under in a conversation. -/
def participantFields (party : Party) : ParticipantFields :=
  let (source, kind, sessionValue) := sessionFields party
  let agentLabel := ((party.agent.filter fun s => !isBlank s).or
    (party.pane.map fun pane => "pane:" ++ pane)).getD "unknown"
  { agentLabel
    paneId := party.pane
    terminalId := party.terminalId
    terminalInstanceId := none
    agentSessionSource := source
    agentSessionKind := kind
    agentSessionValue := sessionValue
    participantKey := sha256 ("agent=" ++ agentLabel ++ "\x00terminal=" ++
      party.terminalId.getD "" ++ "\x00source=" ++ source.getD "" ++ "\x00kind=" ++
      kind.getD "" ++ "\x00session=" ++ sessionValue.getD "") }

/-! ## Conversations -/

/-- Close the active conversations of other runtimes in a scope. -/
def closeOtherRuntimes (runtimeSessionId socketNamespace workspaceId tabId now : String)
    (db : Db) : Db :=
  { db with
    conversations := db.conversations.map fun c =>
      if c.status == .active && c.socketNamespace == socketNamespace &&
          c.workspaceId == workspaceId && c.tabId == tabId &&
          c.runtimeSessionId != runtimeSessionId then
        { c with status := .closed, lastMessageAt := now }
      else c }

/-- The active conversation of a runtime in a scope. -/
def Db.activeConversation? (db : Db)
    (runtimeSessionId socketNamespace workspaceId tabId : String) : Option Conversation :=
  db.conversations.find? fun c => c.status == .active &&
    c.runtimeSessionId == runtimeSessionId && c.socketNamespace == socketNamespace &&
    c.workspaceId == workspaceId && c.tabId == tabId

/-- Close what other runtimes left active in the scope, then reuse this runtime's active
conversation or open one under `freshId`. -/
def ensureActiveConversation
    (freshId runtimeSessionId socketNamespace workspaceId tabId now : String) : DbTxn String := do
  Txn.update (closeOtherRuntimes runtimeSessionId socketNamespace workspaceId tabId now)
  let row ← Txn.read (·.activeConversation? runtimeSessionId socketNamespace workspaceId tabId)
  match row with
  | some c => pure c.id
  | none =>
    insertConversation
      { id := freshId, runtimeSessionId, socketNamespace, workspaceId, tabId, createdAt := now,
        lastMessageAt := now, status := .active, conversationSeq := 0 }
    pure freshId

/-- The row a participant is interned as. -/
def participantRow (id conversationId : String) (fields : ParticipantFields)
    (joinedAt : String) : Participant :=
  { id, conversationId, agentLabel := fields.agentLabel, paneId := fields.paneId,
    terminalId := fields.terminalId, terminalInstanceId := fields.terminalInstanceId,
    agentSessionSource := fields.agentSessionSource, agentSessionKind := fields.agentSessionKind,
    agentSessionValue := fields.agentSessionValue, participantKey := fields.participantKey,
    joinedAt }

/-- Intern a participant by its key and return the id of its row. -/
def ensureParticipant (freshId conversationId : String) (fields : ParticipantFields)
    (joinedAt : String) : DbTxn String := do
  Txn.update (insertParticipant (participantRow freshId conversationId fields joinedAt))
  let row ← Txn.read (·.participants.find? fun p =>
    p.conversationId == conversationId && p.participantKey == fields.participantKey)
  match row with
  | some p => pure p.id
  | none => Txn.fail (DbError.fromSql "no rows returned by a query that expected to return at least one row")

/-- The messages of a conversation whose author row carries a label. -/
def Db.messagesFrom (db : Db) (conversationId agentLabel : String) : List Message :=
  db.messages.filter fun m => m.conversationId == conversationId &&
    (db.participant? m.fromParticipantId).any fun p => p.agentLabel == agentLabel

/-- The latest message authored under a label in a conversation. -/
def Db.latestMessageFromAgent (db : Db) (conversationId agentLabel : String) : Option String :=
  (Table.latestBy Message.conversationSeq (db.messagesFrom conversationId agentLabel)).map Message.id

/-- Advance a conversation's counter and return it. -/
def incrementConversationSeq (conversationId now : String) : DbTxn ℕ := do
  let row ← Txn.read (·.conversations.find? (·.id == conversationId))
  match row with
  | none => Txn.fail (DbError.fromSql "no rows returned by a query that expected to return at least one row")
  | some c =>
    Txn.update fun db => { db with
      conversations := db.conversations.map fun d =>
        if d.id == conversationId then
          { d with conversationSeq := d.conversationSeq + 1, lastMessageAt := now }
        else d }
    pure (c.conversationSeq + 1)

/-! ## Sends -/

/-- The ids persisted in `protocol_json` (`header.rs`, `protocol_id_fields`), with the
command. -/
def protocolFields (messageId conversationId : String) (seq : ℕ)
    (runtimeSessionId socketNamespace bodyHash : String) (messageType : Option String)
    (command : SendCommand) : Json :=
  .object ([("v", .number 1), ("message_id", .string messageId),
    ("conversation_id", .string conversationId), ("conversation_seq", .number seq),
    ("runtime_session_id", .string runtimeSessionId),
    ("socket_namespace", .string socketNamespace), ("body_hash", .string bodyHash)] ++
    (messageType.map fun t => ("type", Json.string t)).toList ++
    [("command", .string command.asStr)])

/-- The workspace a send is scoped to : the recipient's, else the sender's. -/
def SendAttempt.workspaceId (input : SendAttempt) : String :=
  scopedField (input.recipient.workspace.or input.sender.workspace)

/-- The tab a send is scoped to : the recipient's, else the sender's. -/
def SendAttempt.tabId (input : SendAttempt) : String :=
  scopedField (input.recipient.tab.or input.sender.tab)

/-- The row a send inserts into `messages`. `body_hash` is the SHA-256 of the body. -/
def sendRow (input : SendAttempt) (runtimeSessionId socketNamespace conversationId : String)
    (seq : ℕ) (derivedParentId : Option String) (fromParticipantId toParticipantId : String)
    (rowid : ℕ) : Message :=
  { rowid, id := input.messageId, conversationId, conversationSeq := seq, deliverySeq := 0,
    derivedParentId, runtimeSessionId, socketNamespace, createdAt := input.createdAt,
    targetArg := input.targetArg, fromParticipantId, toParticipantId,
    messageType := input.messageType, body := input.body, bodyHash := sha256 input.body,
    workspaceId := input.workspaceId, tabId := input.tabId, cwd := input.sender.cwd,
    foregroundCwd := input.recipient.cwd, branch := input.sender.branch,
    gitSha := input.sender.gitSha,
    protocolJson := protocolFields input.messageId conversationId seq runtimeSessionId
      socketNamespace (sha256 input.body) input.messageType input.command
    metaJson := .object (input.traceId.map fun t => ("trace_id", Json.string t)).toList }

/-- The embedding job a send enqueues. -/
def sendJob (jobId activeModelId : String) (input : SendAttempt) : EmbeddingJob :=
  { id := jobId, messageId := input.messageId, modelId := activeModelId, status := .pending,
    attempts := 0, lastError := none, enqueuedAt := input.createdAt, startedAt := none,
    finishedAt := none }

/-- The full-text row a send inserts. -/
def sendFts (input : SendAttempt) (rowid : ℕ) : FtsRow :=
  { rowid, body := input.body, messageType := input.messageType, branch := input.sender.branch,
    cwd := input.sender.cwd, targetArg := input.targetArg }

/-- The body of the send transaction. -/
def beginSendAttemptInTransaction (ids : SendIds) (activeModelId : String) (input : SendAttempt)
    (runtimeSessionId socketNamespace : String) : DbTxn PersistedSend := do
  let conversationId ← ensureActiveConversation ids.conversation runtimeSessionId socketNamespace
    input.workspaceId input.tabId input.createdAt
  let fromFields := participantFields sha256 input.sender
  let toFields := participantFields sha256 input.recipient
  let fromParticipantId ←
    ensureParticipant ids.senderParticipant conversationId fromFields input.createdAt
  let toParticipantId ←
    ensureParticipant ids.recipientParticipant conversationId toFields input.createdAt
  let derivedParentId ← Txn.read (·.latestMessageFromAgent conversationId toFields.agentLabel)
  let seq ← incrementConversationSeq conversationId input.createdAt
  insertMessage (sendRow sha256 input runtimeSessionId socketNamespace conversationId seq
    derivedParentId fromParticipantId toParticipantId)
  let row ← Txn.read (·.message? input.messageId)
  match row with
  | none => Txn.fail (DbError.fromSql "no rows returned by a query that expected to return at least one row")
  | some m =>
    insertFts (sendFts input m.rowid)
    insertJob (sendJob ids.job activeModelId input)
    pure
      { messageId := input.messageId, conversationId, conversationSeq := seq,
        bodyHash := sha256 input.body, runtimeSessionId, socketNamespace, traceId := input.traceId }

/-- Persist one send. -/
def beginSendAttempt (ids : SendIds) (activeModelId : String) (input : SendAttempt)
    (runtimeSessionId socketNamespace : String) (db : Db) : Except DbError PersistedSend × Db :=
  (beginSendAttemptInTransaction sha256 ids activeModelId input runtimeSessionId
    socketNamespace).immediate db

end

/-! ## Delivery events -/

/-- The transition guard. With no event yet, anything but `received` may come first;
after that only `drafted → failed` and `submitted → received` are allowed. -/
def validateDeliveryTransition (messageId : String) (next : DeliveryEventType) : DbTxn Unit := do
  let latest ← Txn.read (·.latestEvent? messageId)
  match latest, next with
  | none, .received =>
    Txn.fail ⟨"invalid_delivery_transition",
      "cannot append received as the first delivery event; message was never submitted"⟩
  | none, _ => pure ()
  | some .drafted, .failed => pure ()
  | some .submitted, .received => pure ()
  | some current, _ =>
    Txn.fail ⟨"invalid_delivery_transition",
      "cannot append " ++ next.toColumn.asStr ++ " after " ++ current.asStr⟩

/-- `UPDATE messages SET delivery_seq = delivery_seq + 1 WHERE id = ?`. -/
def bumpDeliverySeq (messageId : String) (db : Db) : Db :=
  { db with
    messages := db.messages.map fun m =>
      if m.id == messageId then { m with deliverySeq := m.deliverySeq + 1 } else m }

/-- The body of the append transaction. `eventId` is the id `new_prefixed_id` draws. -/
def appendDeliveryEventInTransaction (eventId : String) (input : DeliveryEventInput) :
    DbTxn Unit := do
  Txn.require (input.proofSource != legacyReceiptProofSource)
    ⟨"legacy_proof_source", "`" ++ legacyReceiptProofSource ++
      "` is the pre-ADR-0014 receipt provenance and is never recorded by this build"⟩
  validateDeliveryTransition input.messageId input.eventType
  let row ← Txn.read (·.message? input.messageId)
  match row with
  | none =>
    Txn.fail ⟨"message_not_found",
      "message " ++ input.messageId ++ " not found for delivery event"⟩
  | some m =>
    Txn.update (bumpDeliverySeq input.messageId)
    insertDeliveryEvent
      { id := eventId, messageId := input.messageId, eventType := input.eventType.toColumn,
        proofSource := input.proofSource, seq := m.deliverySeq + 1, timestamp := input.timestamp,
        payloadJson := input.payload }

/-- Append one delivery event. -/
def appendDeliveryEvent (eventId : String) (input : DeliveryEventInput) (db : Db) :
    Except DbError Unit × Db :=
  (appendDeliveryEventInTransaction eventId input).immediate db

/-! ## Orphan recovery -/

/-- The body of the recovery transaction : claim the message only while it has no delivery
event, and say whether this call recorded the failure. -/
def failOrphanInTransaction (eventId now messageId : String) : DbTxn Bool := do
  let row ← Txn.read fun db => (db.message? messageId).filter fun m => (db.eventsOf m.id).isEmpty
  match row with
  | none => pure false
  | some m =>
    Txn.update (bumpDeliverySeq messageId)
    insertDeliveryEvent
      { id := eventId, messageId, eventType := .failed, proofSource := "system.recovery",
        seq := m.deliverySeq + 1, timestamp := now,
        payloadJson := .object [("recovery", .string "orphaned_message_without_event")] }
    pure true

/-- Fail one orphan, at most once across every server that recovers it. -/
def failOrphanMessage (eventId now messageId : String) (db : Db) : Except DbError Bool × Db :=
  (failOrphanInTransaction eventId now messageId).immediate db

end Zynk
