import Zynk.Lib.Run
import Zynk.Store.Identity

/-!
# Delivery histories

The store as a step system : `Op` is one atomic transaction of any server or CLI, with
everything it draws from outside, and `Op.exec` its effect. An interleaving of any number
of writers is a list of operations.

Every writer of `delivery_events` appends through one shape (`Appends`) : it bumps the
message's `delivery_seq`, takes the new value as the event's `seq`, and respects the
transition relation `Follows` on the latest event. `DeliveryInv` is what that keeps, and
`delivery_history_safety` reads the histories off it.
-/

namespace Zynk

open StepRun

/-! ## The step system -/

/-- One atomic transaction on the store. -/
inductive Op where
  | send (ids : SendIds) (activeModelId : String) (input : SendAttempt)
      (runtimeSessionId socketNamespace : String)
  | append (eventId : String) (input : DeliveryEventInput)
  | receipt (eventId : String) (request : ReceiptRequest) (receiver : AuthoritativeReceiver)
      (currentSocketNamespace currentRuntimeId now : String)
  | failOrphan (eventId now messageId : String)

/-- What a transaction reports. -/
inductive Reply where
  | sent (record : PersistedSend)
  | appended
  | accepted (receipt : ReceiptAccepted)
  | orphanFailed (recorded : Bool)

section

variable (sha256 : String → String)

/-- Run one transaction. -/
def Op.exec (db : Db) : Op → Except DbError Reply × Db
  | .send ids model input rt ns =>
    (beginSendAttempt sha256 ids model input rt ns db).map (Except.map .sent) id
  | .append eventId input =>
    (appendDeliveryEvent eventId input db).map (Except.map fun _ => .appended) id
  | .receipt eventId request receiver ns rt now =>
    (appendReceivedEvent eventId request receiver ns rt now db).map (Except.map .accepted) id
  | .failOrphan eventId now messageId =>
    (failOrphanMessage eventId now messageId db).map (Except.map .orphanFailed) id

/-- The state after one transaction. -/
def Op.step (db : Db) (op : Op) : Db :=
  (op.exec sha256 db).2

end

variable {sha256 : String → String}

/-- The receipt transaction writes only through the append it shares with the sender. -/
theorem appendReceivedEventInTx_effect {eventId : String} {request : ReceiptRequest}
    {receiver : AuthoritativeReceiver} {rt now : String} {accepted : ReceiptAccepted}
    {db db' : Db}
    (h : appendReceivedEventInTx eventId request receiver rt now db = .ok (accepted, db')) :
    db' = db ∨ ∃ e, Appends db e db' := by
  obtain ⟨m, sender, target, -, -, ⟨-, h, -⟩ | ⟨-, h, -⟩⟩ := appendReceivedEventInTx_ok.1 h
  · exact Or.inl h
  · obtain ⟨m, -, ha, -⟩ := appendDeliveryEventInTransaction_ok.1 h
    exact Or.inr ⟨_, ha⟩

/-- What a transaction can do : fail or change nothing, send a message, or append one
delivery event. -/
theorem Op.step_cases (sha256 : String → String) (db : Db) (op : Op) :
    op.step sha256 db = db ∨
    (∃ ids model input rt ns record, op = .send ids model input rt ns ∧
      beginSendAttemptInTransaction sha256 ids model input rt ns db =
        .ok (record, op.step sha256 db)) ∨
    ∃ e, Appends db e (op.step sha256 db) := by
  cases op with
  | send ids model input rt ns =>
    rcases Txn.immediate_cases (beginSendAttemptInTransaction sha256 ids model input rt ns) db
      with ⟨record, db', h, hi⟩ | ⟨e, _, hi⟩
    · refine Or.inr (Or.inl ⟨ids, model, input, rt, ns, record, rfl, ?_⟩)
      simpa [Op.step, Op.exec, beginSendAttempt, hi] using h
    · exact Or.inl (by simp [Op.step, Op.exec, beginSendAttempt, hi])
  | append eventId input =>
    rcases Txn.immediate_cases (appendDeliveryEventInTransaction eventId input) db
      with ⟨_, db', h, hi⟩ | ⟨e, _, hi⟩
    · obtain ⟨m, -, ha, -⟩ := appendDeliveryEventInTransaction_ok.1 h
      exact Or.inr (Or.inr ⟨_, by simpa [Op.step, Op.exec, appendDeliveryEvent, hi] using ha⟩)
    · exact Or.inl (by simp [Op.step, Op.exec, appendDeliveryEvent, hi])
  | receipt eventId request receiver ns rt now =>
    by_cases hns : request.socketNamespace = ns
    · rcases Txn.immediate_cases (appendReceivedEventInTx eventId request receiver rt now) db
        with ⟨_, db', h, hi⟩ | ⟨e, _, hi⟩
      · have hstep : Op.step sha256 db (.receipt eventId request receiver ns rt now) = db' := by
          simp [Op.step, Op.exec, appendReceivedEvent, hns, hi]
        rw [hstep]
        rcases appendReceivedEventInTx_effect h with rfl | ha
        · exact Or.inl rfl
        · exact Or.inr (Or.inr ha)
      · exact Or.inl (by simp [Op.step, Op.exec, appendReceivedEvent, hns, hi])
    · exact Or.inl (by simp [Op.step, Op.exec, appendReceivedEvent, hns])
  | failOrphan eventId now messageId =>
    rcases Txn.immediate_cases (failOrphanInTransaction eventId now messageId) db
      with ⟨b, db', h, hi⟩ | ⟨e, _, hi⟩
    · have hstep : Op.step sha256 db (.failOrphan eventId now messageId) = db' := by
        simp [Op.step, Op.exec, failOrphanMessage, hi]
      rw [hstep]
      rcases failOrphanInTransaction_ok h with ⟨-, rfl⟩ | ⟨-, -, seq, ha⟩
      · exact Or.inl rfl
      · exact Or.inr (Or.inr ⟨_, ha⟩)
    · exact Or.inl (by simp [Op.step, Op.exec, failOrphanMessage, hi])

/-- A transaction that returns an error leaves every table as it was. -/
theorem Op.exec_error {db : Db} {op : Op} {e : DbError} (h : (op.exec sha256 db).1 = .error e) :
    (op.exec sha256 db).2 = db := by
  have hmap : ∀ {α : Type} {f : α → Reply} {x : Except DbError α},
      Except.map f x = .error e → x = .error e := by
    intro α f x hx
    cases x <;> simp_all [Except.map]
  cases op with
  | send ids model input rt ns => exact Txn.immediate_error (hmap h)
  | append eventId input => exact Txn.immediate_error (hmap h)
  | receipt eventId request receiver ns rt now =>
    simp only [Op.exec, appendReceivedEvent] at h ⊢
    split
    · rfl
    · rename_i hns
      simp only [hns] at h
      exact Txn.immediate_error (hmap h)
  | failOrphan eventId now messageId => exact Txn.immediate_error (hmap h)

/-! ## The invariant -/

/-- The histories a message can have. -/
def histories : List (List EventType) :=
  [[], [.drafted], [.submitted], [.failed], [.drafted, .failed], [.submitted, .received]]

/-- A history stays a history when an event follows its last one. -/
theorem histories_append {h : List EventType} {t : EventType} (hh : h ∈ histories)
    (hf : Follows h.getLast? t) : h ++ [t] ∈ histories := by
  simp only [histories, List.mem_cons, List.not_mem_nil, or_false] at hh
  rcases hh with rfl | rfl | rfl | rfl | rfl | rfl <;> cases hf <;> decide

/-- What every reachable store satisfies of its delivery events. -/
structure DeliveryInv (db : Db) : Prop where
  ids : (db.messages.map Message.id).Nodup
  known : ∀ e ∈ db.deliveryEvents, ∃ m ∈ db.messages, m.id = e.messageId
  seqs : ∀ m ∈ db.messages, (db.eventsOf m.id).map DeliveryEvent.seq = List.range' 1 m.deliverySeq
  types : ∀ m ∈ db.messages, (db.eventsOf m.id).map DeliveryEvent.eventType ∈ histories
  notLegacy : ∀ e ∈ db.deliveryEvents, e.proofSource ≠ legacyReceiptProofSource

namespace DeliveryInv

variable {db : Db}

theorem pairwise (h : DeliveryInv db) {m : Message} (hm : m ∈ db.messages) :
    (db.eventsOf m.id).Pairwise fun a b => a.seq < b.seq := by
  rw [← List.pairwise_map (f := DeliveryEvent.seq) (R := (· < ·)), h.seqs m hm]
  exact List.pairwise_lt_range'

/-- The latest event is the last of the history. -/
theorem latestEvent? (h : DeliveryInv db) {m : Message} (hm : m ∈ db.messages) :
    db.latestEvent? m.id = ((db.eventsOf m.id).map DeliveryEvent.eventType).getLast? := by
  rw [Db.latestEvent?, Table.latestBy_eq_getLast? (h.pairwise hm), List.getLast?_map]

theorem eventsOf_fresh (h : DeliveryInv db) {id : String} (hid : ∀ m ∈ db.messages, m.id ≠ id) :
    db.eventsOf id = [] := by
  rw [Db.eventsOf, List.filter_eq_nil_iff]
  intro e he heq
  obtain ⟨m, hm, hme⟩ := h.known e he
  exact hid m hm (hme.trans (beq_iff_eq.1 heq))

/-- A send adds a message without events. -/
theorem sent (h : DeliveryInv db) {ids : SendIds} {model : String} {input : SendAttempt}
    {rt ns : String} {record : PersistedSend} {db' : Db} {m : Message}
    (hs : Sent sha256 ids model input rt ns record db db' m) : DeliveryInv db' := by
  have hev : ∀ id, db'.eventsOf id = db.eventsOf id := fun id => by
    rw [Db.eventsOf, Db.eventsOf, hs.deliveryEvents]
  have hnew : db.eventsOf m.id = [] := h.eventsOf_fresh hs.fresh
  refine ⟨?_, ?_, ?_, ?_, ?_⟩
  · rw [hs.messages]
    exact Table.nodup_concat h.ids hs.fresh
  · intro e he
    rw [hs.deliveryEvents] at he
    obtain ⟨n, hn, hne⟩ := h.known e he
    exact ⟨n, by rw [hs.messages]; exact List.mem_append_left _ hn, hne⟩
  · intro n hn
    rw [hs.messages, List.mem_append, List.mem_singleton] at hn
    rw [hev]
    rcases hn with hn | rfl
    · exact h.seqs n hn
    · rw [hnew, hs.deliverySeq]
      rfl
  · intro n hn
    rw [hs.messages, List.mem_append, List.mem_singleton] at hn
    rw [hev]
    rcases hn with hn | rfl
    · exact h.types n hn
    · rw [hnew]
      decide
  · rw [hs.deliveryEvents]
    exact h.notLegacy

/-- An append extends the history of one message by an event that may follow it. -/
theorem appends (h : DeliveryInv db) {e : DeliveryEvent} {db' : Db} (ha : Appends db e db') :
    DeliveryInv db' := by
  obtain ⟨⟨m, hfind, hseq⟩, hfollows, hlegacy, rfl⟩ := ha
  have hm : m ∈ db.messages := List.mem_of_find?_eq_some hfind
  have hmid : m.id = e.messageId := by simpa using List.find?_some hfind
  have hids : (bumpDeliverySeq e.messageId db).messages.map Message.id =
      db.messages.map Message.id := bumpDeliverySeq_map fun _ _ => rfl
  -- A row of the new table is the message of the event with its counter bumped, or a row
  -- of the old one that the event is not about.
  have hrows : ∀ n ∈ (bumpDeliverySeq e.messageId db).messages,
      (n = { m with deliverySeq := m.deliverySeq + 1 }) ∨ (n ∈ db.messages ∧ n.id ≠ e.messageId) := by
    intro n hn
    obtain ⟨k, hk, rfl⟩ := List.mem_map.1 hn
    by_cases hke : k.id = e.messageId
    · left
      obtain rfl := Table.unique h.ids hk hm (hke.trans hmid.symm)
      simp [hke]
    · right
      simpa [hke] using hk
  have hev : ∀ id, Db.eventsOf { bumpDeliverySeq e.messageId db with
      deliveryEvents := db.deliveryEvents ++ [e] } id =
        db.eventsOf id ++ (if e.messageId = id then [e] else []) := by
    intro id
    simp only [Db.eventsOf, List.filter_append]
    by_cases hid : e.messageId = id <;> simp [hid]
  refine ⟨hids ▸ h.ids, ?_, ?_, ?_, ?_⟩
  · intro d hd
    have hd' : d.messageId ∈ db.messages.map Message.id := by
      rcases List.mem_append.1 hd with hd | hd
      · obtain ⟨n, hn, hnd⟩ := h.known d hd
        exact List.mem_map.2 ⟨n, hn, hnd⟩
      · rw [List.mem_singleton.1 hd]
        exact List.mem_map.2 ⟨m, hm, hmid⟩
    rw [← hids] at hd'
    exact List.mem_map.1 hd'
  · intro n hn
    rcases hrows n hn with rfl | ⟨hn, hne⟩
    · rw [hev, hmid, if_pos rfl, List.map_append, ← hmid, h.seqs m hm, List.range'_1_concat]
      simp [hseq, Nat.add_comm]
    · rw [hev, if_neg (Ne.symm hne), List.append_nil, h.seqs n hn]
  · intro n hn
    rcases hrows n hn with rfl | ⟨hn, hne⟩
    · rw [hev, hmid, if_pos rfl, List.map_append, ← hmid]
      refine histories_append (h.types m hm) ?_
      rw [← h.latestEvent? hm, hmid]
      exact hfollows
    · rw [hev, if_neg (Ne.symm hne), List.append_nil]
      exact h.types n hn
  · intro d hd
    rcases List.mem_append.1 hd with hd | hd
    · exact h.notLegacy d hd
    · rw [List.mem_singleton.1 hd]
      exact hlegacy

/-- Every transaction keeps the invariant. -/
theorem step (h : DeliveryInv db) (op : Op) : DeliveryInv (op.step sha256 db) := by
  rcases op.step_cases sha256 db with hs | ⟨ids, model, input, rt, ns, record, -, hs⟩ | ⟨e, ha⟩
  · rwa [hs]
  · obtain ⟨m, hm⟩ := beginSendAttempt_sent hs
    exact h.sent hm
  · exact h.appends ha

/-- A database without messages has no delivery events either, by their foreign key. -/
theorem start (hm : db.messages = [])
    (hfk : ∀ e ∈ db.deliveryEvents, ∃ m ∈ db.messages, m.id = e.messageId) : DeliveryInv db := by
  have he : db.deliveryEvents = [] := by
    rw [List.eq_nil_iff_forall_not_mem]
    intro e he
    obtain ⟨m, hmem, -⟩ := hfk e he
    simp [hm] at hmem
  constructor <;> simp [hm, he]

end DeliveryInv

/-! ## Safety of the histories -/

/-- The delivery events of a message ordered by `seq`. -/
def Db.history (db : Db) (messageId : String) : List DeliveryEvent :=
  (db.eventsOf messageId).mergeSort fun a b => a.seq ≤ b.seq

theorem DeliveryInv.history_eq {db : Db} (h : DeliveryInv db) {m : Message}
    (hm : m ∈ db.messages) : db.history m.id = db.eventsOf m.id :=
  List.mergeSort_of_pairwise ((h.pairwise hm).imp fun hab => by simpa using Nat.le_of_lt hab)

/-- From a database without messages (and with its foreign keys respected), after any
interleaving of sends, delivery appends, receipts and orphan recoveries : every message's
history is one of `histories`, its `seq` values are `1 … delivery_seq`, no event carries
the legacy proof source, a recovery step writes only to a message without events, and a
transaction that returns an error changes no table. -/
theorem delivery_history_safety (sha256 : String → String) (db₀ : Db) (hm : db₀.messages = [])
    (hfk : ∀ e ∈ db₀.deliveryEvents, ∃ m ∈ db₀.messages, m.id = e.messageId) (ops : List Op) :
    let db := run (Op.step sha256) db₀ ops
    (∀ m ∈ db.messages,
      (db.history m.id).map DeliveryEvent.eventType ∈ histories ∧
        (db.history m.id).map DeliveryEvent.seq = List.range' 1 m.deliverySeq) ∧
    (∀ e ∈ db.deliveryEvents, e.proofSource ≠ "integration") ∧
    (∀ eventId now messageId, Op.step sha256 db (.failOrphan eventId now messageId) ≠ db →
      db.history messageId = []) ∧
    (∀ (op : Op) (e : DbError), (op.exec sha256 db).1 = .error e → (op.exec sha256 db).2 = db) := by
  intro db
  have hinv : DeliveryInv db :=
    run_invariant (fun _ op h => h.step op) (DeliveryInv.start hm hfk) ops
  refine ⟨fun m hm => ?_, hinv.notLegacy, fun eventId now messageId hne => ?_,
    fun op e h => Op.exec_error h⟩
  · rw [hinv.history_eq hm]
    exact ⟨hinv.types m hm, hinv.seqs m hm⟩
  · rcases Txn.immediate_cases (failOrphanInTransaction eventId now messageId) db
      with ⟨b, db', h, hi⟩ | ⟨e, _, hi⟩
    · have hstep : Op.step sha256 db (.failOrphan eventId now messageId) = db' := by
        simp [Op.step, Op.exec, failOrphanMessage, hi]
      rcases failOrphanInTransaction_ok h with ⟨-, rfl⟩ | ⟨-, hnil, -⟩
      · exact absurd hstep hne
      · rw [Db.history, hnil, List.mergeSort_nil]
    · exact absurd (by simp [Op.step, Op.exec, failOrphanMessage, hi]) hne

/-- A send from pane `1:p1` to the agent in pane `1:p2`, and its submission. -/
def submittedRun : List Op :=
  [.send ⟨"c1", "p1", "p2", "j1"⟩ "model"
      { command := .zynkSend, messageId := "m1", targetArg := "1:p2",
        sender := { agent := some "claude", pane := some "1:p1", terminalId := some "t1" },
        recipient := { agent := some "codex", pane := some "1:p2", terminalId := some "t2" },
        messageType := none, body := "hello", createdAt := "2026-01-01", traceId := none }
      "rt" "ns",
    .append "e1" ⟨"m1", .submitted, "pane.submit", "2026-01-01", .null⟩]

/-- The receipt request for that message. -/
def submittedRequest : ReceiptRequest :=
  { messageId := "m1", conversationId := "c1", conversationSeq := 1, runtimeSessionId := "rt",
    socketNamespace := "ns", receiverSeq := none, timestamp := none, status := none,
    receiverAgentSessionHint := none }

/-- The live agent of pane `1:p2`. -/
def submittedReceiver : AuthoritativeReceiver :=
  ⟨"1:p2", "t2", "codex", none⟩

/-- The send, its submission and the receipt of its addressee. -/
def receivedRun : List Op :=
  submittedRun ++
    [.receipt "e2" submittedRequest submittedReceiver "ns" "rt" "2026-01-02"]

/-- The run ends with the full history `submitted, received`, which the theorem admits. -/
theorem delivery_history_safety_received :
    ((run (Op.step id) Db.empty receivedRun).eventsOf "m1").map DeliveryEvent.eventType =
      [.submitted, .received] ∧
    ∀ m ∈ (run (Op.step id) Db.empty receivedRun).messages,
      ((run (Op.step id) Db.empty receivedRun).history m.id).map DeliveryEvent.eventType ∈
        histories ∧
      ((run (Op.step id) Db.empty receivedRun).history m.id).map DeliveryEvent.seq =
        List.range' 1 m.deliverySeq :=
  ⟨by decide, (delivery_history_safety id Db.empty rfl (by simp [Db.empty]) receivedRun).1⟩

end Zynk
