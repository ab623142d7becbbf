import Zynk.Store.Delivery

/-!
# Receipt soundness

On every reachable store a receipt is accepted as new exactly for the addressee of a
submitted message (`receipt_sound`). The store is read through two invariants : the
delivery histories (`DeliveryInv`), which keep the event insert from failing, and the
participant rows of every message (`RowsKnown`), which keep its join from being empty.
-/

namespace Zynk

open StepRun

variable {sha256 : String → String}

/-- Both participant rows of every message are in the store. -/
def RowsKnown (db : Db) : Prop :=
  ∀ m ∈ db.messages, (∃ p ∈ db.participants, p.id = m.fromParticipantId) ∧
    ∃ p ∈ db.participants, p.id = m.toParticipantId

namespace RowsKnown

variable {db : Db}

theorem sent (h : RowsKnown db) {ids : SendIds} {model : String} {input : SendAttempt}
    {rt ns : String} {record : PersistedSend} {db' : Db} {m : Message}
    (hs : Sent sha256 ids model input rt ns record db db' m) : RowsKnown db' := by
  intro n hn
  rw [hs.messages, List.mem_append, List.mem_singleton] at hn
  rcases hn with hn | rfl
  · obtain ⟨⟨p, hp, hpid⟩, q, hq, hqid⟩ := h n hn
    exact ⟨⟨p, hs.participants.mem hp, hpid⟩, q, hs.participants.mem hq, hqid⟩
  · exact ⟨hs.sender, hs.recipient⟩

theorem appends (h : RowsKnown db) {e : DeliveryEvent} {db' : Db} (ha : Appends db e db') :
    RowsKnown db' := by
  rw [ha.eq]
  intro n hn
  obtain ⟨k, hk, rfl⟩ := List.mem_map.1 hn
  have hrows := h k hk
  by_cases hid : k.id = e.messageId
  · simpa [bumpDeliverySeq, hid] using hrows
  · simpa [bumpDeliverySeq, hid] using hrows

theorem step (h : RowsKnown db) (op : Op) : RowsKnown (op.step sha256 db) := by
  rcases op.step_cases sha256 db with hs | ⟨ids, model, input, rt, ns, record, -, hs⟩ | ⟨e, ha⟩
  · rwa [hs]
  · obtain ⟨m, hm⟩ := beginSendAttempt_sent hs
    exact h.sent hm
  · exact h.appends ha

theorem run (sha256 : String → String) (ops : List Op) :
    RowsKnown (StepRun.run (Op.step sha256) Db.empty ops) :=
  run_invariant (fun _ op h => h.step op) (fun m hm => by simp [Db.empty] at hm) ops

/-- The join of a stored message with its two rows is not empty. -/
theorem receiptRow (h : RowsKnown db) {id : String} {m : Message} (hm : db.message? id = some m) :
    ∃ sender target, db.participant? m.fromParticipantId = some sender ∧
      db.participant? m.toParticipantId = some target := by
  have found : ∀ {pid : String}, (∃ p ∈ db.participants, p.id = pid) →
      ∃ p, db.participant? pid = some p := by
    rintro pid ⟨p, hp, rfl⟩
    rw [← Option.isSome_iff_exists, Db.participant?, List.find?_isSome]
    exact ⟨p, hp, beq_self_eq_true _⟩
  obtain ⟨hfrom, hto⟩ := h m (List.mem_of_find?_eq_some hm)
  obtain ⟨sender, hsender⟩ := found hfrom
  obtain ⟨target, htarget⟩ := found hto
  exact ⟨sender, target, hsender, htarget⟩

end RowsKnown

/-- The request names a stored message of this server's socket, and the receiver passes
every identity check on it. -/
def ReceiptAdmissible (db : Db) (currentSocketNamespace : String) (request : ReceiptRequest)
    (receiver : AuthoritativeReceiver) : Prop :=
  request.socketNamespace = currentSocketNamespace ∧
    ∃ m sender target, db.message? request.messageId = some m ∧
      db.participant? m.fromParticipantId = some sender ∧
      db.participant? m.toParticipantId = some target ∧
      ReceiptChecks request receiver m sender target

theorem receiptRow_eq_some {db : Db} {id : String} {m : Message} {sender target : Participant} :
    db.receiptRow id = some (m, sender, target) ↔ db.message? id = some m ∧
      db.participant? m.fromParticipantId = some sender ∧
      db.participant? m.toParticipantId = some target := by
  simp only [Db.receiptRow, Option.bind_eq_bind, Option.bind_eq_some_iff, Option.pure_def,
    Option.some.injEq, Prod.mk.injEq]
  constructor
  · rintro ⟨m', hm, s', hs, t', ht, rfl, rfl, rfl⟩
    exact ⟨hm, hs, ht⟩
  · rintro ⟨hm, hs, ht⟩
    exact ⟨m, hm, sender, hs, target, ht, rfl, rfl, rfl⟩

/-- Under the delivery invariant a fresh event id is all the insert of a receipt needs. -/
theorem DeliveryInv.receipt_appends {db : Db} (h : DeliveryInv db) {eventId : String}
    (hfresh : ∀ d ∈ db.deliveryEvents, d.id ≠ eventId) {request : ReceiptRequest}
    (receiver : AuthoritativeReceiver) (rt now : String) {m : Message}
    (hm : db.message? request.messageId = some m)
    (hlatest : db.latestEvent? request.messageId = some .submitted) :
    appendDeliveryEventInTransaction eventId (receiptEvent request receiver rt now) db =
      .ok ((), { bumpDeliverySeq request.messageId db with
        deliveryEvents := db.deliveryEvents ++
          [appendedEvent eventId (receiptEvent request receiver rt now) (m.deliverySeq + 1)] }) := by
  have hmem : m ∈ db.messages := List.mem_of_find?_eq_some hm
  have hid : m.id = request.messageId := by simpa using List.find?_some hm
  refine appendDeliveryEventInTransaction_ok.2 ⟨m, hm, ⟨⟨m, hm, rfl⟩, ?_, ?_, rfl⟩, ?_, hfresh, ?_⟩
  · show Follows (db.latestEvent? request.messageId) .received
    rw [hlatest]
    exact .receipt
  · simp [appendedEvent, receiptEvent, receiptProofSource, legacyReceiptProofSource]
  · simp [receiptEvent, receiptProofSource, proofSources]
  · -- The stored `seq` values are `1 … delivery_seq`, so the next one is free.
    intro d hd hdm hseq
    have hd' : d ∈ db.eventsOf m.id := List.mem_filter.2 ⟨hd, by
      simpa [hid, receiptEvent] using hdm⟩
    have hmemSeq : d.seq ∈ (db.eventsOf m.id).map DeliveryEvent.seq := List.mem_map_of_mem hd'
    rw [h.seqs m hmem, List.mem_range'_1] at hmemSeq
    omega

/-- What a receipt does on a store that keeps the invariant, whatever the case. -/
theorem appendReceivedEvent_cases {db : Db} (h : DeliveryInv db) {eventId : String}
    (hfresh : ∀ d ∈ db.deliveryEvents, d.id ≠ eventId) (request : ReceiptRequest)
    (receiver : AuthoritativeReceiver) (ns rt now : String) :
    (ReceiptAdmissible db ns request receiver ∧
      db.latestEvent? request.messageId = some .submitted ∧
      ∃ m, db.message? request.messageId = some m ∧
        appendReceivedEvent eventId request receiver ns rt now db =
          (.ok (receiptAccepted request receiver m .received),
            { bumpDeliverySeq request.messageId db with
              deliveryEvents := db.deliveryEvents ++ [appendedEvent eventId
                (receiptEvent request receiver rt now) (m.deliverySeq + 1)] })) ∨
    (ReceiptAdmissible db ns request receiver ∧
      db.latestEvent? request.messageId = some .received ∧
      ∃ m, appendReceivedEvent eventId request receiver ns rt now db =
        (.ok (receiptAccepted request receiver m .alreadyReceived), db)) ∨
    (¬(ReceiptAdmissible db ns request receiver ∧
        (db.latestEvent? request.messageId = some .submitted ∨
          db.latestEvent? request.messageId = some .received)) ∧
      ∃ e, appendReceivedEvent eventId request receiver ns rt now db = (.error e, db)) := by
  by_cases hns : request.socketNamespace = ns
  · have hrun : appendReceivedEvent eventId request receiver ns rt now db =
        (appendReceivedEventInTx eventId request receiver rt now).immediate db := by
      simp [appendReceivedEvent, hns]
    rw [hrun]
    rcases Txn.immediate_cases (appendReceivedEventInTx eventId request receiver rt now) db
      with ⟨a, db', ht, hi⟩ | ⟨e, ht, hi⟩
    · obtain ⟨m, sender, target, hrow, hchk, hcase⟩ := appendReceivedEventInTx_ok.1 ht
      obtain ⟨hm, hs, htg⟩ := receiptRow_eq_some.1 hrow
      have hadm : ReceiptAdmissible db ns request receiver :=
        ⟨hns, m, sender, target, hm, hs, htg, hchk⟩
      rcases hcase with ⟨hlatest, rfl, rfl⟩ | ⟨hlatest, happ, rfl⟩
      · exact Or.inr (Or.inl ⟨hadm, hlatest, m, hi⟩)
      · rw [h.receipt_appends hfresh receiver rt now hm hlatest, Except.ok.injEq,
          Prod.mk.injEq] at happ
        obtain ⟨-, rfl⟩ := happ
        exact Or.inl ⟨hadm, hlatest, m, hm, hi⟩
    · refine Or.inr (Or.inr ⟨?_, e, hi⟩)
      rintro ⟨⟨-, m, sender, target, hm, hs, htg, hchk⟩, hlatest⟩
      have hrow := receiptRow_eq_some.2 ⟨hm, hs, htg⟩
      -- With every check passed the body commits, so it cannot have failed.
      have hok : ∃ r, appendReceivedEventInTx eventId request receiver rt now db = .ok r := by
        rcases hlatest with hlatest | hlatest
        · exact ⟨_, appendReceivedEventInTx_ok.2 ⟨m, sender, target, hrow, hchk,
            Or.inr ⟨hlatest, h.receipt_appends hfresh receiver rt now hm hlatest, rfl⟩⟩⟩
        · exact ⟨_, appendReceivedEventInTx_ok.2 ⟨m, sender, target, hrow, hchk,
            Or.inl ⟨hlatest, rfl, rfl⟩⟩⟩
      obtain ⟨r, hr⟩ := hok
      rw [hr] at ht
      cases ht
  · refine Or.inr (Or.inr ⟨fun hadm => hns hadm.1.1, ?_⟩)
    simp [appendReceivedEvent, hns]

/-- On every store reached by sends, delivery appends, receipts and recoveries, with a
fresh event id : a receipt is `received` exactly when it is admissible and the latest
event is `submitted`, and then one event (`received`, from the pane tree) is appended
under the next `delivery_seq` of its message, and nothing but that counter and that event
changes; it is `alreadyReceived` exactly when it is admissible and the latest event is
`received`, and then nothing changes; otherwise it is an error, and nothing changes. Every
stored message has its two participant rows. -/
theorem receipt_sound (sha256 : String → String) (ops : List Op) (eventId : String)
    (hfresh : ∀ d ∈ (run (Op.step sha256) Db.empty ops).deliveryEvents, d.id ≠ eventId)
    (request : ReceiptRequest) (receiver : AuthoritativeReceiver) (ns rt now : String) :
    let db := run (Op.step sha256) Db.empty ops
    let out := appendReceivedEvent eventId request receiver ns rt now db
    ((∃ a, out.1 = .ok a ∧ a.status = .received) ↔
      ReceiptAdmissible db ns request receiver ∧
        db.latestEvent? request.messageId = some .submitted) ∧
    (∀ a, out.1 = .ok a → a.status = .received →
      ∃ m e, db.message? request.messageId = some m ∧ e.messageId = request.messageId ∧
        e.eventType = .received ∧ e.proofSource = "pane_tree" ∧ e.seq = m.deliverySeq + 1 ∧
        out.2 = { db with
          deliveryEvents := db.deliveryEvents ++ [e]
          messages := db.messages.map fun n =>
            if n.id = request.messageId then { n with deliverySeq := n.deliverySeq + 1 } else n }) ∧
    ((∃ a, out.1 = .ok a ∧ a.status = .alreadyReceived) ↔
      ReceiptAdmissible db ns request receiver ∧
        db.latestEvent? request.messageId = some .received) ∧
    (∀ a, out.1 = .ok a → a.status = .alreadyReceived → out.2 = db) ∧
    (∀ e, out.1 = .error e → out.2 = db) ∧
    (∀ m, db.message? request.messageId = some m → ∃ sender target,
      db.participant? m.fromParticipantId = some sender ∧
        db.participant? m.toParticipantId = some target) := by
  intro db out
  have hinv : DeliveryInv db :=
    run_invariant (fun _ op h => h.step op) (DeliveryInv.start rfl (by simp [Db.empty])) ops
  have hrows : ∀ m, db.message? request.messageId = some m → ∃ sender target,
      db.participant? m.fromParticipantId = some sender ∧
        db.participant? m.toParticipantId = some target :=
    fun m hm => (RowsKnown.run sha256 ops).receiptRow hm
  rcases appendReceivedEvent_cases hinv hfresh request receiver ns rt now with
    ⟨hadm, hlatest, m, hm, hout⟩ | ⟨hadm, hlatest, m, hout⟩ | ⟨hnot, e, hout⟩
  · replace hout : out = _ := hout
    refine ⟨⟨fun _ => ⟨hadm, hlatest⟩, fun _ => ⟨_, by rw [hout], rfl⟩⟩,
      fun _ _ _ => ⟨m, appendedEvent eventId (receiptEvent request receiver rt now)
        (m.deliverySeq + 1), hm, rfl, rfl, rfl, rfl, ?_⟩, ?_, ?_, ?_, hrows⟩
    · rw [hout]
      simp only [bumpDeliverySeq, beq_iff_eq]
    · simp [hout, hlatest, receiptAccepted]
    · simp [hout, receiptAccepted]
    · simp [hout]
  · replace hout : out = _ := hout
    refine ⟨?_, ?_, ⟨fun _ => ⟨hadm, hlatest⟩, fun _ => ⟨_, by rw [hout], rfl⟩⟩, ?_, ?_, hrows⟩
    · simp [hout, hlatest, receiptAccepted]
    · simp [hout, receiptAccepted]
    · simp [hout]
    · simp [hout]
  · replace hout : out = _ := hout
    have hs : ¬(ReceiptAdmissible db ns request receiver ∧
        db.latestEvent? request.messageId = some .submitted) :=
      fun h => hnot ⟨h.1, Or.inl h.2⟩
    have hr : ¬(ReceiptAdmissible db ns request receiver ∧
        db.latestEvent? request.messageId = some .received) :=
      fun h => hnot ⟨h.1, Or.inr h.2⟩
    refine ⟨iff_of_false ?_ hs, ?_, iff_of_false ?_ hr, ?_, ?_, hrows⟩
    all_goals simp [hout]

/-- The receipt of the addressee of a submitted message. -/
theorem receipt_sound_submitted :
    (∃ a, (appendReceivedEvent "e2" submittedRequest submittedReceiver "ns" "rt" "now"
        (run (Op.step id) Db.empty submittedRun)).1 = .ok a ∧ a.status = .received) ∧
      ReceiptAdmissible (run (Op.step id) Db.empty submittedRun) "ns" submittedRequest
        submittedReceiver ∧
      (run (Op.step id) Db.empty submittedRun).latestEvent? "m1" = some .submitted := by
  have hreceived : ∃ a, (appendReceivedEvent "e2" submittedRequest submittedReceiver "ns" "rt"
      "now" (run (Op.step id) Db.empty submittedRun)).1 = .ok a ∧ a.status = .received :=
    ⟨_, rfl, rfl⟩
  exact ⟨hreceived, (receipt_sound id submittedRun "e2" (by decide) submittedRequest
    submittedReceiver "ns" "rt" "now").1.1 hreceived⟩

/-- An accepted receipt changes more than the table of events : the message's
`delivery_seq` moves with it. -/
theorem receipt_changes_delivery_seq :
    ∃ a, (appendReceivedEvent "e2" submittedRequest submittedReceiver "ns" "rt" "now"
        (run (Op.step id) Db.empty submittedRun)).1 = .ok a ∧ a.status = .received ∧
      ¬∃ e, (appendReceivedEvent "e2" submittedRequest submittedReceiver "ns" "rt" "now"
          (run (Op.step id) Db.empty submittedRun)).2 =
        { run (Op.step id) Db.empty submittedRun with
          deliveryEvents := (run (Op.step id) Db.empty submittedRun).deliveryEvents ++ [e] } := by
  refine ⟨_, rfl, rfl, ?_⟩
  rintro ⟨e, he⟩
  have hseq : [2] = [1] := congrArg (fun db => db.messages.map Message.deliverySeq) he
  exact absurd hseq (by decide)

end Zynk
