import Zynk.Store.Persistence

/-!
# Receipts

`append_received_event` of `zynk/receipt.rs` : the checks a `zynk.message_received` report
has to pass, in the order the source makes them, and the one `received` event it appends.
-/

namespace Zynk

/-- The receiver's identity, resolved from live hook state. -/
structure AuthoritativeReceiver where
  paneId : String
  terminalId : String
  agentLabel : String
  agentSession : Option Json

/-- A decoded receipt request. -/
structure ReceiptRequest where
  messageId : String
  conversationId : String
  conversationSeq : Int
  runtimeSessionId : String
  socketNamespace : String
  receiverSeq : Option Int
  timestamp : Option String
  status : Option String
  receiverAgentSessionHint : Option Json

inductive ReceiptStatus where
  | received
  | alreadyReceived
  deriving DecidableEq, Repr

structure ReceiptAccepted where
  status : ReceiptStatus
  messageId : String
  conversationId : String
  conversationSeq : ℕ
  receiverPaneId : String
  receiverAgentLabel : String
  deriving DecidableEq, Repr

/-- The durable identity a stored participant row offers. -/
inductive StoredAnchor where
  | session (source kind value : String)
  /-- A session with a missing component : never an anchor. -/
  | incomplete
  | terminal (id : String)
  | none
  deriving DecidableEq, Repr

/-- A stored field that is there and not empty. -/
def present (field : Option String) : Option String :=
  field.filter fun s => !s.isEmpty

/-- A complete session triple, else (with no session at all) a terminal id, else nothing. -/
def canonicalAnchor (source kind value terminal : Option String) : StoredAnchor :=
  match present source, present kind, present value with
  | some source, some kind, some value => .session source kind value
  | none, none, none =>
    match present terminal with
    | some terminal => .terminal terminal
    | none => .none
  | _, _, _ => .incomplete

/-- Every component of the stored triple is on the receiver's live session and equal. -/
def receiverMatchesSession (receiver : AuthoritativeReceiver) (source kind value : String) :
    Bool :=
  let live (key : String) := (receiver.agentSession.bind (Json.get key)).bind Json.asStr
  live "source" == some source && live "kind" == some kind && live "value" == some value

/-- The anchor of a participant row. -/
def Participant.anchor (p : Participant) : StoredAnchor :=
  canonicalAnchor p.agentSessionSource p.agentSessionKind p.agentSessionValue p.terminalId

/-- The receiver must be the stored target : its session triple, or (for a target stored
without a session) its terminal. -/
def checkTargetAnchor (receiver : AuthoritativeReceiver) : StoredAnchor → DbTxn Unit
  | .session source kind value =>
    Txn.require (receiverMatchesSession receiver source kind value)
      ⟨"receiver_identity_mismatch", "receiver agent session (source, kind, value) is not the session the message was addressed to"⟩
  | .terminal stored =>
    Txn.require (receiver.terminalId == stored)
      ⟨"receiver_identity_mismatch", "receiver terminal " ++ receiver.terminalId ++
        " is not the terminal the message was addressed to (" ++ stored ++ ")"⟩
  | .incomplete =>
    Txn.fail ⟨"receiver_identity_mismatch", "the stored target's hook session is incomplete (source, kind or value missing), so no receipt can be attributed to it"⟩
  | .none =>
    Txn.fail ⟨"receiver_identity_mismatch", "the stored target carries no durable identity (no complete hook session and no terminal), so no receipt can be attributed to it"⟩

/-- The sender-side identity test : the sender's label, and its session triple, else its
terminal, else its stored pane. -/
def receiverMatchesSender (receiver : AuthoritativeReceiver) (sender : Participant) : Bool :=
  sender.agentLabel == receiver.agentLabel &&
    match sender.anchor with
    | .session source kind value => receiverMatchesSession receiver source kind value
    | .terminal stored => receiver.terminalId == stored
    | .incomplete =>
      match present sender.terminalId with
      | some stored => receiver.terminalId == stored
      | none => sender.paneId == some receiver.paneId
    | .none => sender.paneId == some receiver.paneId

/-- The joined row the checks read : the message with its sender and target rows. -/
def Db.receiptRow (db : Db) (messageId : String) :
    Option (Message × Participant × Participant) := do
  let m ← db.message? messageId
  let fp ← db.participant? m.fromParticipantId
  let tp ← db.participant? m.toParticipantId
  pure (m, fp, tp)

/-- The payload of a `received` event. -/
def receiptPayload (request : ReceiptRequest) (receiver : AuthoritativeReceiver)
    (currentRuntimeId effectiveTimestamp : String) : Json :=
  .object [
    ("receiver_pane_id", .string receiver.paneId),
    ("receiver_agent_label", .string receiver.agentLabel),
    ("receiver_agent_session", receiver.agentSession.getD .null),
    ("receiver_agent_session_hint", request.receiverAgentSessionHint.getD .null),
    ("receiver_seq", (request.receiverSeq.map Json.number).getD .null),
    ("supplied_timestamp", Json.ofOption request.timestamp),
    ("effective_timestamp", .string effectiveTimestamp),
    ("status", Json.ofOption request.status),
    ("message_runtime_session_id", .string request.runtimeSessionId),
    ("recording_runtime_session_id", .string currentRuntimeId),
    ("socket_namespace", .string request.socketNamespace)]

/-- The event a receipt appends, stamped with the supplied time unless it is blank. -/
def receiptEvent (request : ReceiptRequest) (receiver : AuthoritativeReceiver)
    (currentRuntimeId now : String) : DeliveryEventInput :=
  let effectiveTimestamp := (request.timestamp.filter fun s => !isBlank s).getD now
  { messageId := request.messageId, eventType := .received, proofSource := receiptProofSource,
    timestamp := effectiveTimestamp,
    payload := receiptPayload request receiver currentRuntimeId effectiveTimestamp }

/-- What an accepted receipt reports. -/
def receiptAccepted (request : ReceiptRequest) (receiver : AuthoritativeReceiver) (m : Message)
    (status : ReceiptStatus) : ReceiptAccepted :=
  { status, messageId := request.messageId, conversationId := m.conversationId,
    conversationSeq := m.conversationSeq, receiverPaneId := receiver.paneId,
    receiverAgentLabel := receiver.agentLabel }

/-- The body of the receipt transaction. -/
def appendReceivedEventInTx (eventId : String) (request : ReceiptRequest)
    (receiver : AuthoritativeReceiver) (currentRuntimeId now : String) :
    DbTxn ReceiptAccepted := do
  let row ← Txn.read (·.receiptRow request.messageId)
  match row with
  | none =>
    Txn.fail ⟨"message_not_found", "no message " ++ request.messageId ++ " in the native store"⟩
  | some (m, sender, target) =>
    Txn.require (m.conversationId == request.conversationId &&
        (m.conversationSeq : Int) == request.conversationSeq)
      ⟨"conversation_mismatch", "receipt conversation id/seq do not match the stored message"⟩
    Txn.require (m.runtimeSessionId == request.runtimeSessionId)
      ⟨"runtime_mismatch", "receipt runtime_session_id does not match the stored message runtime"⟩
    Txn.require (m.socketNamespace == request.socketNamespace)
      ⟨"socket_namespace_mismatch", "receipt socket namespace does not match the stored message socket namespace"⟩
    Txn.require (receiver.agentLabel == target.agentLabel)
      ⟨"receiver_identity_mismatch", "receiver " ++ receiver.agentLabel ++
        " is not the message target " ++ target.agentLabel⟩
    checkTargetAnchor receiver target.anchor
    Txn.require (!(m.fromParticipantId == m.toParticipantId ||
        receiverMatchesSender receiver sender))
      ⟨"self_receipt_rejected", "the sender is the addressee of its own message and cannot report its receipt"⟩
    let latest ← Txn.read (·.latestEvent? request.messageId)
    match latest with
    | some .received => pure (receiptAccepted request receiver m .alreadyReceived)
    | some .submitted =>
      appendDeliveryEventInTransaction eventId
        (receiptEvent request receiver currentRuntimeId now)
      pure (receiptAccepted request receiver m .received)
    | some .drafted =>
      Txn.fail ⟨"draft_not_submitted", "message is drafted, not submitted; it cannot be received"⟩
    | some .failed =>
      Txn.fail ⟨"already_failed", "message delivery already failed; retry creates a new message"⟩
    | _ => Txn.fail ⟨"invalid_delivery_transition", "message has no submission to receive"⟩

/-- Validate a receipt and append at most one `received` event. The socket namespace is
checked before the transaction starts. -/
def appendReceivedEvent (eventId : String) (request : ReceiptRequest)
    (receiver : AuthoritativeReceiver) (currentSocketNamespace currentRuntimeId now : String)
    (db : Db) : Except DbError ReceiptAccepted × Db :=
  if request.socketNamespace != currentSocketNamespace then
    (.error ⟨"socket_namespace_mismatch", "receipt socket namespace " ++
      request.socketNamespace ++ " does not match the current server socket " ++
      currentSocketNamespace⟩, db)
  else
    (appendReceivedEventInTx eventId request receiver currentRuntimeId now).immediate db

end Zynk
