import Zynk.Store.Effects

/-!
# Who may acknowledge a message

The identity rule of a receipt, stated on the stored rows without the source's
canonicalisation (`TargetMatches`, `SenderMatches`, `ReceiptChecks`), and the receipt
transaction in terms of it (`appendReceivedEventInTx_ok`).
-/

namespace Zynk

/-- A stored column that is there and not empty. -/
def Stored (field : Option String) (s : String) : Prop :=
  field = some s ∧ s ≠ ""

/-- A column that is absent or empty. -/
def Absent (field : Option String) : Prop :=
  ∀ s, ¬Stored field s

/-- The participant row carries the complete session triple. -/
def Participant.HasSession (p : Participant) (source kind value : String) : Prop :=
  Stored p.agentSessionSource source ∧ Stored p.agentSessionKind kind ∧
    Stored p.agentSessionValue value

/-- The participant row carries no component of a session. -/
def Participant.NoSession (p : Participant) : Prop :=
  Absent p.agentSessionSource ∧ Absent p.agentSessionKind ∧ Absent p.agentSessionValue

/-- The receiver's live session has this text under a key. -/
def AuthoritativeReceiver.Live (receiver : AuthoritativeReceiver) (key value : String) : Prop :=
  ∃ session, receiver.agentSession = some session ∧ session.get key = some (.string value)

/-- The receiver's live session is the triple. -/
def AuthoritativeReceiver.LiveSession (receiver : AuthoritativeReceiver)
    (source kind value : String) : Prop :=
  receiver.Live "source" source ∧ receiver.Live "kind" kind ∧ receiver.Live "value" value

/-- The receiver matches the anchor of the addressee : the complete triple when one is
stored, the terminal when no session is. A partial triple or no anchor matches nobody. -/
def TargetMatches (receiver : AuthoritativeReceiver) (target : Participant) : Prop :=
  (∃ source kind value, target.HasSession source kind value ∧
      receiver.LiveSession source kind value) ∨
    (target.NoSession ∧ Stored target.terminalId receiver.terminalId)

/-- The receiver is the sender : its label, and its complete triple, else its terminal,
else its pane. -/
def SenderMatches (receiver : AuthoritativeReceiver) (sender : Participant) : Prop :=
  sender.agentLabel = receiver.agentLabel ∧
    ((∃ source kind value, sender.HasSession source kind value ∧
        receiver.LiveSession source kind value) ∨
      ((∀ source kind value, ¬sender.HasSession source kind value) ∧
        (Stored sender.terminalId receiver.terminalId ∨
          (Absent sender.terminalId ∧ sender.paneId = some receiver.paneId))))

/-- Every identity check of a receipt, on the stored message and its two rows. -/
structure ReceiptChecks (request : ReceiptRequest) (receiver : AuthoritativeReceiver)
    (m : Message) (sender target : Participant) : Prop where
  conversationId : m.conversationId = request.conversationId
  conversationSeq : (m.conversationSeq : Int) = request.conversationSeq
  runtime : m.runtimeSessionId = request.runtimeSessionId
  socket : m.socketNamespace = request.socketNamespace
  label : receiver.agentLabel = target.agentLabel
  target : TargetMatches receiver target
  distinct : m.fromParticipantId ≠ m.toParticipantId
  notSender : ¬SenderMatches receiver sender

/-! ## The source's anchors -/

variable {s : String}

theorem present_eq_some {field : Option String} : present field = some s ↔ Stored field s := by
  simp only [present, Stored, Option.filter_eq_some_iff, Bool.not_eq_true', String.isEmpty_eq_false_iff]

theorem present_eq_none {field : Option String} : present field = none ↔ Absent field := by
  simp only [Absent, ← present_eq_some]
  cases present field <;> simp

theorem Stored.unique {field : Option String} {t : String} (hs : Stored field s)
    (ht : Stored field t) : s = t :=
  Option.some.inj (hs.1.symm.trans ht.1)

variable {receiver : AuthoritativeReceiver}

theorem receiverMatchesSession_iff {source kind value : String} :
    receiverMatchesSession receiver source kind value = true ↔
      receiver.LiveSession source kind value := by
  have live : ∀ key s, ((receiver.agentSession.bind (Json.get key)).bind Json.asStr == some s) =
      true ↔ receiver.Live key s := by
    intro key s
    rw [beq_iff_eq]
    constructor
    · intro h
      obtain ⟨v, hv, hs⟩ := Option.bind_eq_some_iff.1 h
      obtain ⟨session, hsession, hget⟩ := Option.bind_eq_some_iff.1 hv
      refine ⟨session, hsession, ?_⟩
      cases v <;> simp_all [Json.asStr]
    · rintro ⟨session, hsession, hget⟩
      simp [hsession, hget, Json.asStr]
  simp only [receiverMatchesSession, Bool.and_eq_true, live, AuthoritativeReceiver.LiveSession,
    and_assoc]

/-- The shapes of an anchor. -/
theorem Participant.anchor_cases (p : Participant) :
    (∃ source kind value, p.HasSession source kind value ∧ p.anchor = .session source kind value) ∨
    (p.NoSession ∧ ∃ t, Stored p.terminalId t ∧ p.anchor = .terminal t) ∨
    (p.NoSession ∧ Absent p.terminalId ∧ p.anchor = .none) ∨
    (¬p.NoSession ∧ (∀ source kind value, ¬p.HasSession source kind value) ∧
      p.anchor = .incomplete) := by
  simp only [Participant.HasSession, Participant.NoSession, ← present_eq_some,
    ← present_eq_none, Participant.anchor, canonicalAnchor]
  cases hs : present p.agentSessionSource <;> cases hk : present p.agentSessionKind <;>
    cases hv : present p.agentSessionValue <;> cases ht : present p.terminalId <;> simp

theorem Participant.HasSession.unique {p : Participant} {k v s' k' v' : String}
    (h : p.HasSession s k v) (h' : p.HasSession s' k' v') : s = s' ∧ k = k' ∧ v = v' :=
  ⟨h.1.unique h'.1, h.2.1.unique h'.2.1, h.2.2.unique h'.2.2⟩

theorem Participant.HasSession.not_noSession {p : Participant} {k v : String}
    (h : p.HasSession s k v) : ¬p.NoSession :=
  fun hn => hn.1 s h.1

/-- The source's target check passes exactly for the addressee. -/
theorem checkTargetAnchor_ok {target : Participant} {db : Db} {r : Unit × Db} :
    checkTargetAnchor receiver target.anchor db = .ok r ↔
      TargetMatches receiver target ∧ r = ((), db) := by
  rcases target.anchor_cases with ⟨s, k, v, h, ha⟩ | ⟨h, t, ht, ha⟩ | ⟨h, ht, ha⟩ | ⟨h, h', ha⟩
  · have : TargetMatches receiver target ↔ receiver.LiveSession s k v := by
      constructor
      · rintro (⟨s', k', v', h', hl⟩ | ⟨hn, -⟩)
        · obtain ⟨rfl, rfl, rfl⟩ := h.unique h'
          exact hl
        · exact absurd hn h.not_noSession
      · exact fun hl => Or.inl ⟨s, k, v, h, hl⟩
    rw [ha, checkTargetAnchor, Txn.require_ok, receiverMatchesSession_iff, this]
  · have : TargetMatches receiver target ↔ receiver.terminalId = t := by
      constructor
      · rintro (⟨s', k', v', h', -⟩ | ⟨-, hs⟩)
        · exact absurd h h'.not_noSession
        · exact hs.unique ht
      · rintro rfl
        exact Or.inr ⟨h, ht⟩
    rw [ha, checkTargetAnchor, Txn.require_ok, beq_iff_eq, this]
  · have : ¬TargetMatches receiver target := by
      rintro (⟨s', k', v', h', -⟩ | ⟨-, hs⟩)
      · exact h'.not_noSession h
      · exact ht _ hs
    simp [ha, checkTargetAnchor, this]
  · have : ¬TargetMatches receiver target := by
      rintro (⟨s', k', v', hs, -⟩ | ⟨hn, -⟩)
      · exact h' _ _ _ hs
      · exact h hn
    simp [ha, checkTargetAnchor, this]

/-- The source's sender test is the sender rule. -/
theorem receiverMatchesSender_iff {sender : Participant} :
    receiverMatchesSender receiver sender = true ↔ SenderMatches receiver sender := by
  have fallback : (∀ s k v, ¬sender.HasSession s k v) →
      (SenderMatches receiver sender ↔ sender.agentLabel = receiver.agentLabel ∧
        (Stored sender.terminalId receiver.terminalId ∨
          (Absent sender.terminalId ∧ sender.paneId = some receiver.paneId))) := by
    intro hno
    simp [SenderMatches, hno]
  unfold receiverMatchesSender
  rw [Bool.and_eq_true, beq_iff_eq]
  rcases sender.anchor_cases with ⟨s, k, v, h, ha⟩ | ⟨h, t, ht, ha⟩ | ⟨h, ht, ha⟩ | ⟨-, h, ha⟩
  · rw [ha, receiverMatchesSession_iff, SenderMatches]
    refine and_congr_right fun _ => ⟨fun hl => Or.inl ⟨s, k, v, h, hl⟩, ?_⟩
    rintro (⟨s', k', v', h', hl⟩ | ⟨hno, -⟩)
    · obtain ⟨rfl, rfl, rfl⟩ := h.unique h'
      exact hl
    · exact absurd h (hno s k v)
  · rw [ha, fallback fun s k v hs => hs.not_noSession h, beq_iff_eq]
    refine and_congr_right fun _ => ⟨fun he => Or.inl (he ▸ ht), ?_⟩
    rintro (hs | ⟨hn, -⟩)
    · exact hs.unique ht
    · exact absurd ht (hn t)
  · rw [ha, fallback fun s k v hs => hs.not_noSession h, beq_iff_eq]
    refine and_congr_right fun _ => ⟨fun he => Or.inr ⟨ht, he⟩, ?_⟩
    rintro (hs | ⟨-, hp⟩)
    · exact absurd hs (ht _)
    · exact hp
  · rw [ha, fallback h]
    refine and_congr_right fun _ => ?_
    dsimp only
    cases ht : present sender.terminalId with
    | some t =>
      rw [present_eq_some] at ht
      rw [beq_iff_eq]
      refine ⟨fun he => Or.inl (he ▸ ht), ?_⟩
      rintro (hs | ⟨hn, -⟩)
      · exact hs.unique ht
      · exact absurd ht (hn t)
    | none =>
      rw [present_eq_none] at ht
      rw [beq_iff_eq]
      refine ⟨fun he => Or.inr ⟨ht, he⟩, ?_⟩
      rintro (hs | ⟨-, hp⟩)
      · exact absurd hs (ht _)
      · exact hp

/-! ## The receipt transaction -/

/-- A receipt commits exactly when the joined row exists, every check passes and the
latest event is `received` (nothing is written) or `submitted` (the shared append runs). -/
theorem appendReceivedEventInTx_ok {eventId : String} {request : ReceiptRequest} {rt now : String}
    {accepted : ReceiptAccepted} {db db' : Db} :
    appendReceivedEventInTx eventId request receiver rt now db = .ok (accepted, db') ↔
      ∃ m sender target, db.receiptRow request.messageId = some (m, sender, target) ∧
        ReceiptChecks request receiver m sender target ∧
        ((db.latestEvent? request.messageId = some .received ∧ db' = db ∧
            accepted = receiptAccepted request receiver m .alreadyReceived) ∨
          (db.latestEvent? request.messageId = some .submitted ∧
            appendDeliveryEventInTransaction eventId (receiptEvent request receiver rt now) db =
              .ok ((), db') ∧
            accepted = receiptAccepted request receiver m .received)) := by
  unfold appendReceivedEventInTx
  rw [Txn.read_bind]
  cases hrow : db.receiptRow request.messageId with
  | none => simp
  | some row =>
    obtain ⟨m, sender, target⟩ := row
    have hchecks : ReceiptChecks request receiver m sender target ↔
        (m.conversationId = request.conversationId ∧
          (m.conversationSeq : Int) = request.conversationSeq) ∧
        m.runtimeSessionId = request.runtimeSessionId ∧
        m.socketNamespace = request.socketNamespace ∧ receiver.agentLabel = target.agentLabel ∧
        TargetMatches receiver target ∧ m.fromParticipantId ≠ m.toParticipantId ∧
        ¬SenderMatches receiver sender :=
      ⟨fun ⟨h1, h2, h3, h4, h5, h6, h7, h8⟩ => ⟨⟨h1, h2⟩, h3, h4, h5, h6, h7, h8⟩,
        fun ⟨⟨h1, h2⟩, h3, h4, h5, h6, h7, h8⟩ => ⟨h1, h2, h3, h4, h5, h6, h7, h8⟩⟩
    have hself : (!(m.fromParticipantId == m.toParticipantId ||
        receiverMatchesSender receiver sender)) = true ↔
          m.fromParticipantId ≠ m.toParticipantId ∧ ¬SenderMatches receiver sender := by
      rw [← receiverMatchesSender_iff]
      simp
    simp only [Txn.require_bind_ok, Txn.bind_ok (t := checkTargetAnchor _ _), hself,
      checkTargetAnchor_ok, Bool.and_eq_true, beq_iff_eq, Option.some.injEq, Prod.mk.injEq,
      true_and]
    constructor
    · rintro ⟨hc, hr, hs, hl, _, db1, ⟨ht, rfl⟩, hself, h⟩
      refine ⟨m, sender, target, ⟨rfl, rfl, rfl⟩, hchecks.2 ⟨hc, hr, hs, hl, ht, hself⟩, ?_⟩
      rw [Txn.read_bind] at h
      cases hlatest : db1.latestEvent? request.messageId with
      | none => simp [hlatest] at h
      | some t =>
        cases t with
        | received =>
          simp only [hlatest, Txn.pure_ok, Prod.mk.injEq] at h
          exact Or.inl ⟨rfl, h.2, h.1⟩
        | submitted =>
          simp only [hlatest, Txn.bind_ok, Txn.pure_ok, Prod.mk.injEq] at h
          obtain ⟨_, _, happ, rfl, rfl⟩ := h
          exact Or.inr ⟨rfl, happ, rfl⟩
        | drafted => simp [hlatest] at h
        | processed => simp [hlatest] at h
        | failed => simp [hlatest] at h
    · rintro ⟨_, _, _, ⟨rfl, rfl, rfl⟩, hchk, h⟩
      obtain ⟨hc, hr, hs, hl, ht, hdist, hsend⟩ := hchecks.1 hchk
      refine ⟨hc, hr, hs, hl, (), db, ⟨ht, rfl⟩, ⟨hdist, hsend⟩, ?_⟩
      rw [Txn.read_bind]
      rcases h with ⟨hlatest, rfl, rfl⟩ | ⟨hlatest, happ, rfl⟩
      · simp [hlatest]
      · simp only [hlatest]
        exact Txn.bind_ok.2 ⟨(), db', happ, rfl⟩

end Zynk
