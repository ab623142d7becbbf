import Zynk.Store.Receipt

/-!
# What the transactions do

One lemma per transaction body : what a committed run found and what it left. The
invariants of the later files use these and never unfold the bodies.

`Sent` is the effect of a send outside the conversation tables, `Appends` the effect every
writer of `delivery_events` shares.
-/

namespace Zynk

/-! ## Conversations and participants -/

/-- The active conversation of runtime `rt` in the scope. -/
def Conversation.IsActiveIn (c : Conversation) (rt ns ws tab : String) : Prop :=
  c.status = .active ∧ c.runtimeSessionId = rt ∧ c.socketNamespace = ns ∧ c.workspaceId = ws ∧
    c.tabId = tab

/-- A freshly opened conversation. -/
def newConversation (id rt ns ws tab now : String) : Conversation :=
  { id, runtimeSessionId := rt, socketNamespace := ns, workspaceId := ws, tabId := tab,
    createdAt := now, lastMessageAt := now, status := .active, conversationSeq := 0 }

variable {freshId rt ns now id : String} {db db' : Db}

/-- A committed `ensureActiveConversation` found the runtime's active conversation, or
found none and opened one. -/
theorem ensureActiveConversation_ok {ws tab : String}
    (h : ensureActiveConversation freshId rt ns ws tab now db = .ok (id, db')) :
    (db' = closeOtherRuntimes rt ns ws tab now db ∧
      ∃ c ∈ db'.conversations, c.IsActiveIn rt ns ws tab ∧ c.id = id) ∨
    (id = freshId ∧ (∀ d ∈ (closeOtherRuntimes rt ns ws tab now db).conversations,
        d.id ≠ freshId ∧ ¬d.IsActiveIn rt ns ws tab) ∧
      db' = { closeOtherRuntimes rt ns ws tab now db with
        conversations := (closeOtherRuntimes rt ns ws tab now db).conversations ++
          [newConversation freshId rt ns ws tab now] }) := by
  unfold ensureActiveConversation at h
  rw [Txn.update_bind, Txn.read_bind] at h
  cases hrow : (closeOtherRuntimes rt ns ws tab now db).activeConversation? rt ns ws tab with
  | some c =>
    simp only [hrow, Txn.pure_ok, Prod.mk.injEq] at h
    obtain ⟨rfl, rfl⟩ := h
    refine Or.inl ⟨rfl, c, List.mem_of_find?_eq_some hrow, ?_, rfl⟩
    simpa [Conversation.IsActiveIn, and_assoc] using List.find?_some hrow
  | none =>
    simp only [hrow, Txn.bind_ok, insertConversation_ok, Txn.pure_ok, Prod.mk.injEq] at h
    obtain ⟨_, _, ⟨hid, hscope, -, rfl⟩, rfl, rfl⟩ := h
    refine Or.inr ⟨rfl, fun d hd => ⟨hid d hd, fun ha => ?_⟩, rfl⟩
    exact hscope d hd (by simpa [Conversation.IsActiveIn] using ha)

/-- A committed `ensureParticipant` returns a row of the conversation under the key, and
adds at most one row, whose id was free. -/
theorem ensureParticipant_ok {conv : String} {fields : ParticipantFields}
    (h : ensureParticipant freshId conv fields now db = .ok (id, db')) :
    (db' = db ∨ (∀ q ∈ db.participants, q.id ≠ freshId) ∧ db' = { db with
        participants := db.participants ++ [participantRow freshId conv fields now] }) ∧
      ∃ p ∈ db'.participants, p.id = id ∧ p.conversationId = conv ∧
        p.participantKey = fields.participantKey := by
  unfold ensureParticipant at h
  rw [Txn.update_bind, Txn.read_bind] at h
  have hcases := insertParticipant_cases (participantRow freshId conv fields now) db
  generalize insertParticipant (participantRow freshId conv fields now) db = db1 at h hcases
  cases hrow : db1.participants.find? fun p => p.conversationId == conv &&
      p.participantKey == fields.participantKey with
  | none => simp [hrow] at h
  | some p =>
    simp only [hrow, Txn.pure_ok, Prod.mk.injEq] at h
    obtain ⟨rfl, rfl⟩ := h
    have hp := List.find?_some hrow
    simp only [Bool.and_eq_true, beq_iff_eq] at hp
    exact ⟨hcases, p, List.mem_of_find?_eq_some hrow, rfl, hp⟩

/-- Advance the counter of one conversation. -/
def bumpConversation (id now : String) (c : Conversation) : Conversation :=
  if c.id == id then { c with conversationSeq := c.conversationSeq + 1, lastMessageAt := now }
  else c

theorem incrementConversationSeq_ok {seq : ℕ}
    (h : incrementConversationSeq id now db = .ok (seq, db')) :
    (∃ c, db.conversations.find? (·.id == id) = some c ∧ seq = c.conversationSeq + 1) ∧
      db' = { db with conversations := db.conversations.map (bumpConversation id now) } := by
  unfold incrementConversationSeq at h
  rw [Txn.read_bind] at h
  cases hrow : db.conversations.find? (·.id == id) with
  | none => simp [hrow] at h
  | some c =>
    simp only [hrow, Txn.update_bind, Txn.pure_ok, Prod.mk.injEq] at h
    obtain ⟨rfl, rfl⟩ := h
    exact ⟨⟨c, rfl, rfl⟩, rfl⟩

/-- A step that only adds participant rows, under ids that were free. -/
structure ParticipantsGrow (db db' : Db) : Prop where
  isPrefix : List.IsPrefix db.participants db'.participants
  nodup : (db.participants.map Participant.id).Nodup → (db'.participants.map Participant.id).Nodup

theorem ParticipantsGrow.refl (db : Db) : ParticipantsGrow db db :=
  ⟨List.prefix_refl _, id⟩

theorem ParticipantsGrow.trans {db'' : Db} (h : ParticipantsGrow db db')
    (h' : ParticipantsGrow db' db'') : ParticipantsGrow db db'' :=
  ⟨h.isPrefix.trans h'.isPrefix, h'.nodup ∘ h.nodup⟩

theorem ParticipantsGrow.mem (h : ParticipantsGrow db db') {p : Participant}
    (hp : p ∈ db.participants) : p ∈ db'.participants :=
  h.isPrefix.subset hp

/-- A row found under its id stays the row found under it. -/
theorem ParticipantsGrow.participant? (h : ParticipantsGrow db db') {p : Participant}
    (hp : db.participant? id = some p) : db'.participant? id = some p := by
  obtain ⟨added, hadded⟩ := h.isPrefix
  unfold Db.participant? at hp ⊢
  rw [← hadded, List.find?_append, hp, Option.some_or]

theorem ensureParticipant_frame {conv : String} {fields : ParticipantFields}
    (h : ensureParticipant freshId conv fields now db = .ok (id, db')) :
    db' = { db with participants := db'.participants } ∧ ParticipantsGrow db db' := by
  obtain ⟨rfl | ⟨hfree, rfl⟩, -⟩ := ensureParticipant_ok h
  · exact ⟨rfl, .refl _⟩
  · refine ⟨rfl, List.prefix_append _ _, fun hn => ?_⟩
    exact Table.nodup_concat hn hfree

theorem ensureActiveConversation_frame {ws tab : String}
    (h : ensureActiveConversation freshId rt ns ws tab now db = .ok (id, db')) :
    db' = { db with conversations := db'.conversations } := by
  obtain ⟨rfl, -⟩ | ⟨-, -, rfl⟩ := ensureActiveConversation_ok h <;> rfl

/-! ## Sends -/

/-- The full-text row of a message. -/
def Message.ftsRow (m : Message) : FtsRow :=
  { rowid := m.rowid, body := m.body, messageType := m.messageType, branch := m.branch,
    cwd := m.cwd, targetArg := m.targetArg }

/-- What a committed send of `input` by runtime `rt` does : it inserts the message `m`
with its full-text row and its job, numbered by its conversation. -/
structure Sent (sha256 : String → String) (ids : SendIds) (model : String) (input : SendAttempt)
    (rt ns : String) (record : PersistedSend) (db db' : Db) (m : Message) : Prop where
  messages : db'.messages = db.messages ++ [m]
  fresh : ∀ n ∈ db.messages, n.id ≠ m.id
  id : m.id = input.messageId
  rowid : m.rowid = db.nextRowid
  deliverySeq : m.deliverySeq = 0
  recordId : record.messageId = m.id
  conversationId : m.conversationId = record.conversationId
  conversationSeq : m.conversationSeq = record.conversationSeq
  conversations : ∃ db1, ensureActiveConversation ids.conversation rt ns input.workspaceId
      input.tabId input.createdAt db = .ok (record.conversationId, db1) ∧
    (∃ c, db1.conversations.find? (·.id == record.conversationId) = some c ∧
      record.conversationSeq = c.conversationSeq + 1) ∧
    db'.conversations =
      db1.conversations.map (bumpConversation record.conversationId input.createdAt)
  derivedParentId : m.derivedParentId =
    Db.latestMessageFromAgent { db' with messages := db.messages } m.conversationId
      (participantFields sha256 input.recipient).agentLabel
  ftsRow : sendFts input m.rowid = m.ftsRow
  deliveryEvents : db'.deliveryEvents = db.deliveryEvents
  messagesFts : db'.messagesFts = db.messagesFts ++ [sendFts input m.rowid]
  embeddingJobs : db'.embeddingJobs = db.embeddingJobs ++ [sendJob ids.job model input]
  jobFresh : ∀ j ∈ db.embeddingJobs, j.id ≠ ids.job
  jobUnique : ∀ j ∈ db.embeddingJobs, j.messageId = input.messageId → j.modelId ≠ model
  messageEmbeddings : db'.messageEmbeddings = db.messageEmbeddings
  vectors : db'.vectors = db.vectors
  participants : ParticipantsGrow db db'
  sender : ∃ p ∈ db'.participants, p.id = m.fromParticipantId
  recipient : ∃ p ∈ db'.participants, p.id = m.toParticipantId

/-- A committed send is the four parts of its body, in order, and the three inserts. -/
theorem beginSendAttempt_parts {sha256 : String → String} {ids : SendIds} {model : String}
    {input : SendAttempt} {record : PersistedSend}
    (h : beginSendAttemptInTransaction sha256 ids model input rt ns db = .ok (record, db')) :
    ∃ db1 db2 db3 fromId toId m,
      ensureActiveConversation ids.conversation rt ns input.workspaceId input.tabId
        input.createdAt db = .ok (record.conversationId, db1) ∧
      ensureParticipant ids.senderParticipant record.conversationId
        (participantFields sha256 input.sender) input.createdAt db1 = .ok (fromId, db2) ∧
      ensureParticipant ids.recipientParticipant record.conversationId
        (participantFields sha256 input.recipient) input.createdAt db2 = .ok (toId, db3) ∧
      (∃ c, db3.conversations.find? (·.id == record.conversationId) = some c ∧
        record.conversationSeq = c.conversationSeq + 1) ∧
      m = sendRow sha256 input rt ns record.conversationId record.conversationSeq
        (db3.latestMessageFromAgent record.conversationId
          (participantFields sha256 input.recipient).agentLabel) fromId toId db3.nextRowid ∧
      (∀ n ∈ db3.messages, n.id ≠ input.messageId) ∧
      (∀ j ∈ db3.embeddingJobs, j.id ≠ ids.job) ∧
      (∀ j ∈ db3.embeddingJobs, j.messageId = input.messageId → j.modelId ≠ model) ∧
      record.messageId = input.messageId ∧
      db' = { db3 with
        conversations := db3.conversations.map
          (bumpConversation record.conversationId input.createdAt)
        messages := db3.messages ++ [m]
        messagesFts := db3.messagesFts ++ [sendFts input m.rowid]
        embeddingJobs := db3.embeddingJobs ++ [sendJob ids.job model input] } := by
  unfold beginSendAttemptInTransaction at h
  obtain ⟨conv, db1, h1, h⟩ := Txn.bind_ok.1 h
  obtain ⟨fromId, db2, h2, h⟩ := Txn.bind_ok.1 h
  obtain ⟨toId, db3, h3, h⟩ := Txn.bind_ok.1 h
  rw [Txn.read_bind] at h
  obtain ⟨seq, db4, h4, h⟩ := Txn.bind_ok.1 h
  obtain ⟨⟨c, hc, hseq⟩, rfl⟩ := incrementConversationSeq_ok h4
  obtain ⟨_, db5, h5, h⟩ := Txn.bind_ok.1 h
  obtain ⟨hid, -, h5⟩ := insertMessage_ok.1 h5
  obtain ⟨m, hm⟩ : ∃ m, m = sendRow sha256 input rt ns conv seq
      (db3.latestMessageFromAgent conv (participantFields sha256 input.recipient).agentLabel)
      fromId toId db3.nextRowid := ⟨_, rfl⟩
  replace hid : ∀ n ∈ db3.messages, n.id ≠ input.messageId := hid
  replace h5 : db5 = { db3 with
      conversations := db3.conversations.map (bumpConversation conv input.createdAt)
      messages := db3.messages ++ [m] } := hm ▸ (Prod.mk.inj h5).2
  -- The message just inserted is the only one under its id.
  have hrow : db5.message? input.messageId = some m := by
    rw [h5, Db.message?, List.find?_append, List.find?_eq_none.2 fun n hn => by
      simpa using hid n hn]
    simp [hm, sendRow]
  rw [Txn.read_bind] at h
  simp only [hrow] at h
  obtain ⟨_, db6, h6, h⟩ := Txn.bind_ok.1 h
  obtain ⟨_, db7, h7, h⟩ := Txn.bind_ok.1 h
  obtain ⟨hjid, hjob, h7⟩ := insertJob_ok.1 h7
  simp only [insertFts, Txn.update_ok, Prod.mk.injEq] at h6
  simp only [Txn.pure_ok, Prod.mk.injEq] at h h7
  obtain ⟨rfl, rfl⟩ := h
  obtain ⟨-, rfl⟩ := h7
  obtain ⟨-, rfl⟩ := h6
  subst h5
  exact ⟨db1, db2, db3, fromId, toId, m, h1, h2, h3, ⟨c, hc, hseq⟩, hm, hid, hjid, hjob, rfl, rfl⟩

theorem beginSendAttempt_sent {sha256 : String → String} {ids : SendIds} {model : String}
    {input : SendAttempt} {record : PersistedSend}
    (h : beginSendAttemptInTransaction sha256 ids model input rt ns db = .ok (record, db')) :
    ∃ m, Sent sha256 ids model input rt ns record db db' m := by
  obtain ⟨db1, db2, db3, fromId, toId, m, h1, h2, h3, hc, hm, hid, hjid, hjob, hrec, rfl⟩ :=
    beginSendAttempt_parts h
  have f1 := ensureActiveConversation_frame h1
  obtain ⟨f2, g2⟩ := ensureParticipant_frame h2
  obtain ⟨f3, g3⟩ := ensureParticipant_frame h3
  obtain ⟨-, p, hp, hpid, -⟩ := ensureParticipant_ok h2
  obtain ⟨-, q, hq, hqid, -⟩ := ensureParticipant_ok h3
  have g : ParticipantsGrow db db3 := by
    refine ParticipantsGrow.trans (.trans ?_ g2) g3
    rw [f1]
    exact ⟨List.prefix_refl _, fun h => h⟩
  have hconv : db3.conversations = db1.conversations := by rw [f3, f2]
  rw [hconv] at hc
  rw [f3, f2, f1] at hid hjid hjob hm ⊢
  subst hm
  exact ⟨_, rfl, hid, rfl, rfl, rfl, hrec, rfl, rfl, ⟨db1, h1, hc, rfl⟩, rfl, rfl, rfl, rfl, rfl,
    hjid, hjob, rfl, rfl, ⟨g.isPrefix, g.nodup⟩, ⟨p, g3.mem hp, hpid⟩, ⟨q, hq, hqid⟩⟩

/-! ## Delivery events -/

/-- Which event may come after the latest one. -/
inductive Follows : Option EventType → EventType → Prop where
  | drafted : Follows none .drafted
  | submitted : Follows none .submitted
  | failed : Follows none .failed
  | draftFailed : Follows (some .drafted) .failed
  | receipt : Follows (some .submitted) .received

theorem validateDeliveryTransition_ok {messageId : String} {next : DeliveryEventType}
    {r : Unit × Db} : validateDeliveryTransition messageId next db = .ok r ↔
      Follows (db.latestEvent? messageId) next.toColumn ∧ r = ((), db) := by
  unfold validateDeliveryTransition
  rw [Txn.read_bind]
  generalize db.latestEvent? messageId = latest
  constructor
  · intro h
    rcases latest with _ | _ | _ | _ | _ | _ <;> cases next <;> simp at h <;>
      exact ⟨by constructor, h⟩
  · rintro ⟨h, rfl⟩
    rcases latest with _ | _ | _ | _ | _ | _ <;> cases next <;> cases h <;> rfl

/-- The shape every writer of `delivery_events` has : the event `e` takes the bumped
counter of its message as its `seq`, follows the latest event and goes at the end. -/
structure Appends (db : Db) (e : DeliveryEvent) (db' : Db) : Prop where
  message : ∃ m, db.message? e.messageId = some m ∧ e.seq = m.deliverySeq + 1
  follows : Follows (db.latestEvent? e.messageId) e.eventType
  notLegacy : e.proofSource ≠ legacyReceiptProofSource
  eq : db' = { bumpDeliverySeq e.messageId db with deliveryEvents := db.deliveryEvents ++ [e] }

/-- Columns other than `delivery_seq` stay. -/
theorem bumpDeliverySeq_map {β : Type} {col : Message → β}
    (hcol : ∀ m n, col { m with deliverySeq := n } = col m) {messageId : String} :
    (bumpDeliverySeq messageId db).messages.map col = db.messages.map col := by
  rw [bumpDeliverySeq, List.map_map]
  refine List.map_congr_left fun m _ => ?_
  simp only [Function.comp]
  split
  · exact hcol m _
  · rfl

/-- The event an append writes. -/
def appendedEvent (eventId : String) (input : DeliveryEventInput) (seq : ℕ) : DeliveryEvent :=
  { id := eventId, messageId := input.messageId, eventType := input.eventType.toColumn,
    proofSource := input.proofSource, seq, timestamp := input.timestamp,
    payloadJson := input.payload }

theorem appendDeliveryEventInTransaction_ok {eventId : String} {input : DeliveryEventInput}
    {r : Unit × Db} : appendDeliveryEventInTransaction eventId input db = .ok r ↔
      ∃ m, db.message? input.messageId = some m ∧
        Appends db (appendedEvent eventId input (m.deliverySeq + 1)) r.2 ∧
        input.proofSource ∈ proofSources ∧ (∀ d ∈ db.deliveryEvents, d.id ≠ eventId) ∧
        (∀ d ∈ db.deliveryEvents, d.messageId = input.messageId → d.seq ≠ m.deliverySeq + 1) := by
  unfold appendDeliveryEventInTransaction
  rw [Txn.require_bind_ok, Txn.bind_ok]
  simp only [validateDeliveryTransition_ok, Prod.mk.injEq, true_and, exists_const]
  constructor
  · rintro ⟨hp, db1, ⟨hf, rfl⟩, h⟩
    rw [Txn.read_bind] at h
    cases hm : db1.message? input.messageId with
    | none => simp [hm] at h
    | some m =>
      simp only [hm, Txn.update_bind, insertDeliveryEvent_ok] at h
      obtain ⟨hps, hid, hseq, rfl⟩ := h
      exact ⟨m, rfl, ⟨⟨m, hm, rfl⟩, hf, by simpa [appendedEvent] using hp, rfl⟩, hps, hid, hseq⟩
  · rintro ⟨m, hm, ⟨-, hf, hp, heq⟩, hps, hid, hseq⟩
    refine ⟨by simpa [appendedEvent] using hp, db, ⟨hf, rfl⟩, ?_⟩
    rw [Txn.read_bind]
    simp only [hm, Txn.update_bind, insertDeliveryEvent_ok]
    exact ⟨hps, hid, hseq, Prod.ext rfl heq⟩

/-- The event a recovery writes. -/
def recoveryEvent (eventId now messageId : String) (seq : ℕ) : DeliveryEvent :=
  { id := eventId, messageId, eventType := .failed, proofSource := "system.recovery", seq,
    timestamp := now,
    payloadJson := .object [("recovery", .string "orphaned_message_without_event")] }

/-- A committed recovery step left the database as it was, or failed a message that had no
delivery event. -/
theorem failOrphanInTransaction_ok {eventId messageId : String} {b : Bool}
    (h : failOrphanInTransaction eventId now messageId db = .ok (b, db')) :
    (b = false ∧ db' = db) ∨ (b = true ∧ db.eventsOf messageId = [] ∧
      ∃ seq, Appends db (recoveryEvent eventId now messageId seq) db') := by
  unfold failOrphanInTransaction at h
  rw [Txn.read_bind] at h
  cases hrow : (db.message? messageId).filter fun m => (db.eventsOf m.id).isEmpty with
  | none =>
    simp only [hrow, Txn.pure_ok, Prod.mk.injEq] at h
    exact Or.inl h
  | some m =>
    obtain ⟨hm, hev⟩ := Option.filter_eq_some_iff.1 hrow
    have hid : m.id = messageId := by simpa using List.find?_some hm
    have hnil : db.eventsOf messageId = [] := by simpa [hid] using hev
    simp only [hrow, Txn.update_bind, Txn.bind_ok, insertDeliveryEvent_ok, Txn.pure_ok,
      Prod.mk.injEq] at h
    obtain ⟨_, _, ⟨-, -, -, -, rfl⟩, rfl, rfl⟩ := h
    refine Or.inr ⟨rfl, hnil, m.deliverySeq + 1, ⟨m, hm, rfl⟩, ?_,
      by simp [recoveryEvent, legacyReceiptProofSource], rfl⟩
    simp only [recoveryEvent, Db.latestEvent?, hnil, Table.latestBy, Option.map_none]
    exact .failed

end Zynk
