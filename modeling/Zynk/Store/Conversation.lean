import Zynk.Store.ReceiptSound

/-!
# Conversation numbering and scoping

A send closes the conversations other runtimes left active in its scope, reuses or opens
its runtime's own, and numbers its message by the conversation's counter.

`Numbered` is the invariant of the counters and the active conversations, stated on the
conversations and on the slots (conversation, number) of the messages, so that the steps
that only touch delivery columns keep it for free. `Threaded` is what a message's derived
parent means, and `MessageInv` gathers both with the full-text rows and the jobs.
-/

namespace Zynk

open StepRun

variable {sha256 : String → String}

/-! ## Counters and active conversations -/

/-- Two conversations of one scope. -/
def Conversation.SameScope (c d : Conversation) : Prop :=
  c.socketNamespace = d.socketNamespace ∧ c.workspaceId = d.workspaceId ∧ c.tabId = d.tabId

/-- The conversations agree with the slots `(conversation, number)` taken in them. -/
structure Numbered (conversations : List Conversation) (slots : List (String × ℕ)) : Prop where
  ids : (conversations.map Conversation.id).Nodup
  known : ∀ k ∈ slots, ∃ c ∈ conversations, c.id = k.1
  seqs : ∀ c ∈ conversations,
    (slots.filter (·.1 == c.id)).map Prod.snd = List.range' 1 c.conversationSeq
  oneActive : ∀ c ∈ conversations, ∀ d ∈ conversations, c.status = .active →
    d.status = .active → c.SameScope d → c = d

namespace Numbered

variable {conversations : List Conversation} {slots : List (String × ℕ)}

theorem ids_map {f : Conversation → Conversation} (hid : ∀ c, (f c).id = c.id) :
    (conversations.map f).map Conversation.id = conversations.map Conversation.id := by
  rw [List.map_map]
  exact List.map_congr_left fun c _ => hid c

/-- Rewriting conversations without renumbering or reactivating them. -/
theorem map (h : Numbered conversations slots) {f : Conversation → Conversation}
    (hid : ∀ c, (f c).id = c.id) (hseq : ∀ c, (f c).conversationSeq = c.conversationSeq)
    (hactive : ∀ c, (f c).status = .active → f c = c) :
    Numbered (conversations.map f) slots := by
  refine ⟨?_, ?_, ?_, ?_⟩
  · rw [ids_map hid]
    exact h.ids
  · intro k hk
    obtain ⟨c, hc, hck⟩ := h.known k hk
    exact ⟨f c, List.mem_map_of_mem hc, (hid c).trans hck⟩
  · intro c hc
    obtain ⟨d, hd, rfl⟩ := List.mem_map.1 hc
    rw [hid, hseq]
    exact h.seqs d hd
  · intro c hc d hd hca hda hcd
    obtain ⟨c, hc', rfl⟩ := List.mem_map.1 hc
    obtain ⟨d, hd', rfl⟩ := List.mem_map.1 hd
    have hfc := hactive c hca
    have hfd := hactive d hda
    rw [hfc, hfd] at hcd
    rw [hfc] at hca ⊢
    rw [hfd] at hda ⊢
    exact h.oneActive c hc' d hd' hca hda hcd

/-- Opening a conversation under a free id in a scope where none is active. -/
theorem insert (h : Numbered conversations slots) {c : Conversation}
    (hid : ∀ d ∈ conversations, d.id ≠ c.id) (hseq : c.conversationSeq = 0)
    (hscope : ∀ d ∈ conversations, d.status = .active → ¬d.SameScope c) :
    Numbered (conversations ++ [c]) slots := by
  refine ⟨?_, ?_, ?_, ?_⟩
  · exact Table.nodup_concat h.ids hid
  · intro k hk
    obtain ⟨d, hd, hdk⟩ := h.known k hk
    exact ⟨d, List.mem_append_left _ hd, hdk⟩
  · intro d hd
    rw [List.mem_append, List.mem_singleton] at hd
    rcases hd with hd | rfl
    · exact h.seqs d hd
    · -- No slot can be in a conversation whose id was free.
      have hnone : slots.filter (·.1 == d.id) = [] := by
        rw [List.filter_eq_nil_iff]
        intro k hk hkd
        obtain ⟨e, he, hek⟩ := h.known k hk
        exact hid e he (hek.trans (beq_iff_eq.1 hkd))
      rw [hnone, hseq]
      rfl
  · intro d hd e he hda hea hde
    rw [List.mem_append, List.mem_singleton] at hd he
    rcases hd with hd | rfl <;> rcases he with he | rfl
    · exact h.oneActive d hd e he hda hea hde
    · exact absurd hde (hscope d hd hda)
    · exact absurd ⟨hde.1.symm, hde.2.1.symm, hde.2.2.symm⟩ (hscope e he hea)
    · rfl

/-- Every slot of a conversation is at most its counter. -/
theorem slot_le (h : Numbered conversations slots) {c : Conversation} (hc : c ∈ conversations)
    {n : ℕ} (hn : (c.id, n) ∈ slots) : n ≤ c.conversationSeq := by
  have hmem : n ∈ (slots.filter (·.1 == c.id)).map Prod.snd :=
    List.mem_map.2 ⟨(c.id, n), List.mem_filter.2 ⟨hn, beq_self_eq_true _⟩, rfl⟩
  rw [h.seqs c hc, List.mem_range'_1] at hmem
  omega

/-- Taking the next slot of a conversation and advancing its counter. -/
theorem take (h : Numbered conversations slots) {c : Conversation} (hc : c ∈ conversations)
    (now : String) :
    Numbered (conversations.map (bumpConversation c.id now))
      (slots ++ [(c.id, c.conversationSeq + 1)]) := by
  have hid : ∀ d : Conversation, (bumpConversation c.id now d).id = d.id := fun d => by
    unfold bumpConversation
    split <;> rfl
  refine ⟨?_, ?_, ?_, ?_⟩
  · rw [ids_map hid]
    exact h.ids
  · intro k hk
    rw [List.mem_append, List.mem_singleton] at hk
    have hk' : ∃ d ∈ conversations, d.id = k.1 := by
      rcases hk with hk | rfl
      · exact h.known k hk
      · exact ⟨c, hc, rfl⟩
    obtain ⟨d, hd, hdk⟩ := hk'
    exact ⟨_, List.mem_map_of_mem hd, (hid d).trans hdk⟩
  · intro d hd
    obtain ⟨d, hd', rfl⟩ := List.mem_map.1 hd
    rw [hid, List.filter_append, List.map_append, h.seqs d hd']
    by_cases hdc : d.id = c.id
    · obtain rfl := Table.unique h.ids hd' hc hdc
      simp [bumpConversation, List.range'_1_concat, Nat.add_comm]
    · simp [bumpConversation, hdc, Ne.symm hdc]
  · intro d hd e he hda hea hde
    obtain ⟨d, hd', rfl⟩ := List.mem_map.1 hd
    obtain ⟨e, he', rfl⟩ := List.mem_map.1 he
    have hkeep : ∀ x : Conversation, (bumpConversation c.id now x).status = x.status ∧
        (bumpConversation c.id now x).socketNamespace = x.socketNamespace ∧
        (bumpConversation c.id now x).workspaceId = x.workspaceId ∧
        (bumpConversation c.id now x).tabId = x.tabId := fun x => by
      unfold bumpConversation
      split <;> exact ⟨rfl, rfl, rfl, rfl⟩
    obtain ⟨hds, hdn, hdw, hdt⟩ := hkeep d
    obtain ⟨hes, hen, hew, het⟩ := hkeep e
    rw [h.oneActive d hd' e he' (hds ▸ hda) (hes ▸ hea)
      ⟨hdn ▸ hen ▸ hde.1, hdw ▸ hew ▸ hde.2.1, hdt ▸ het ▸ hde.2.2⟩]

end Numbered

/-- A conversation the closing pass left active in the scope is the runtime's own. -/
theorem closeOtherRuntimes_active {rt ns ws tab now : String} {db : Db} {c : Conversation}
    (hc : c ∈ (closeOtherRuntimes rt ns ws tab now db).conversations)
    (hactive : c.status = .active) (hns : c.socketNamespace = ns) (hws : c.workspaceId = ws)
    (htab : c.tabId = tab) : c.IsActiveIn rt ns ws tab := by
  obtain ⟨d, hd, rfl⟩ := List.mem_map.1 hc
  split at hactive
  · cases hactive
  · rename_i hkeep
    rw [if_neg hkeep] at hns hws htab ⊢
    refine ⟨hactive, ?_, hns, hws, htab⟩
    by_contra hrt
    exact hkeep (by simp [hactive, hns, hws, htab, hrt])

/-- Ensuring the runtime's conversation keeps the numbering and leaves it as the only
active one of its scope. -/
theorem ensureActiveConversation_numbered {freshId rt ns ws tab now id : String} {db db' : Db}
    {slots : List (String × ℕ)} (hn : Numbered db.conversations slots)
    (h : ensureActiveConversation freshId rt ns ws tab now db = .ok (id, db')) :
    Numbered db'.conversations slots ∧
      ∃ c ∈ db'.conversations, c.id = id ∧ c.IsActiveIn rt ns ws tab := by
  have hclosed : Numbered (closeOtherRuntimes rt ns ws tab now db).conversations slots := by
    refine hn.map (fun c => ?_) (fun c => ?_) (fun c hc => ?_)
    · split <;> rfl
    · split <;> rfl
    · split at hc
      · cases hc
      · rename_i hkeep
        rw [if_neg hkeep]
  obtain ⟨rfl, c, hc, hactive, hid⟩ | ⟨rfl, hfree, rfl⟩ := ensureActiveConversation_ok h
  · exact ⟨hclosed, c, hc, hid, hactive⟩
  · refine ⟨hclosed.insert (fun d hd => (hfree d hd).1) rfl fun d hd hactive hscope => ?_, ?_⟩
    · exact (hfree d hd).2
        (closeOtherRuntimes_active hd hactive hscope.1 hscope.2.1 hscope.2.2)
    · exact ⟨_, List.mem_append_right _ (List.mem_singleton_self _), rfl, rfl, rfl, rfl, rfl, rfl⟩

/-! ## Threads -/

/-- The author row of a message carries a label. -/
def Db.AuthoredUnder (db : Db) (m : Message) (label : String) : Prop :=
  ∃ row, db.participant? m.fromParticipantId = some row ∧ row.agentLabel = label

/-- `p` is a message of `m`'s conversation before `m`, authored under a label. -/
structure Db.Earlier (db : Db) (m : Message) (label : String) (p : Message) : Prop where
  mem : p ∈ db.messages
  conversation : p.conversationId = m.conversationId
  before : p.conversationSeq < m.conversationSeq
  author : db.AuthoredUnder p label

/-- The derived parent of `m` is the latest earlier message authored under `label`, and it
is unset only when there is none. -/
structure Db.Threaded (db : Db) (m : Message) (label : String) : Prop where
  parent : ∀ id, m.derivedParentId = some id → ∃ p, db.Earlier m label p ∧ p.id = id ∧
    ∀ q, db.Earlier m label q → q.conversationSeq ≤ p.conversationSeq
  root : m.derivedParentId = none → ∀ q, ¬db.Earlier m label q

namespace Db.Threaded

variable {db db' : Db} {m : Message} {label : String}

/-- A thread is read off the earlier messages only. -/
theorem congr (h : db.Threaded m label)
    (hiff : ∀ q, db'.Earlier m label q ↔ db.Earlier m label q) : db'.Threaded m label := by
  refine ⟨fun id hid => ?_, fun hnone q hq => h.root hnone q ((hiff q).1 hq)⟩
  obtain ⟨p, hp, hpid, hmax⟩ := h.parent id hid
  exact ⟨p, (hiff p).2 hp, hpid, fun q hq => hmax q ((hiff q).1 hq)⟩

/-- Rewriting columns that threads do not read. -/
theorem map (h : db.Threaded m label) {f : Message → Message}
    (hf : ∀ n, (f n).id = n.id ∧ (f n).conversationId = n.conversationId ∧
      (f n).conversationSeq = n.conversationSeq ∧ (f n).derivedParentId = n.derivedParentId ∧
      (f n).fromParticipantId = n.fromParticipantId)
    (hmessages : db'.messages = db.messages.map f)
    (hparticipants : db'.participants = db.participants) : db'.Threaded (f m) label := by
  have hauthor : ∀ n, db'.AuthoredUnder (f n) label ↔ db.AuthoredUnder n label := fun n => by
    rw [Db.AuthoredUnder, Db.AuthoredUnder, Db.participant?, Db.participant?, hparticipants,
      (hf n).2.2.2.2]
  have hback : ∀ q, db'.Earlier (f m) label q → ∃ p, q = f p ∧ db.Earlier m label p := by
    rintro q ⟨hmem, hconv, hbefore, hq⟩
    rw [hmessages] at hmem
    obtain ⟨p, hp, rfl⟩ := List.mem_map.1 hmem
    obtain ⟨-, hpc, hps, -, -⟩ := hf p
    obtain ⟨-, hmc, hms, -, -⟩ := hf m
    exact ⟨p, rfl, hp, by rw [← hpc, hconv, hmc], by rwa [hps, hms] at hbefore, (hauthor p).1 hq⟩
  refine ⟨fun id hid => ?_, fun hnone q hq => ?_⟩
  · rw [(hf m).2.2.2.1] at hid
    obtain ⟨p, ⟨hp, hconv, hbefore, hau⟩, hpid, hmax⟩ := h.parent id hid
    obtain ⟨hpi, hpc, hps, -, -⟩ := hf p
    obtain ⟨-, hmc, hms, -, -⟩ := hf m
    refine ⟨f p, ⟨?_, by rw [hpc, hmc, hconv], by rwa [hps, hms], (hauthor p).2 hau⟩,
      hpi.trans hpid, fun q hq => ?_⟩
    · rw [hmessages]
      exact List.mem_map_of_mem hp
    · obtain ⟨r, rfl, hr⟩ := hback q hq
      rw [(hf r).2.2.1, hps]
      exact hmax r hr
  · obtain ⟨p, -, hp⟩ := hback q hq
    exact h.root ((hf m).2.2.2.1 ▸ hnone) p hp

end Db.Threaded

/-- The parent lookup of a send is a thread on the messages before it. -/
theorem latestMessageFromAgent_threaded {db db' : Db} {m : Message} {label : String}
    (hmessages : db'.messages = db.messages ++ [m])
    (hnext : ∀ n ∈ db.messages, n.conversationId = m.conversationId →
      n.conversationSeq < m.conversationSeq)
    (hparent : m.derivedParentId = Db.latestMessageFromAgent
      { db' with messages := db.messages } m.conversationId label) : db'.Threaded m label := by
  have hrows : ∀ p, p ∈ Db.messagesFrom { db' with messages := db.messages } m.conversationId
      label ↔ db'.Earlier m label p := by
    intro p
    rw [Db.messagesFrom, List.mem_filter]
    simp only [Bool.and_eq_true, beq_iff_eq, Option.any_eq_true]
    constructor
    · rintro ⟨hp, hconv, hau⟩
      exact ⟨hmessages ▸ List.mem_append_left _ hp, hconv, hnext p hp hconv, hau⟩
    · rintro ⟨hp, hconv, hbefore, hau⟩
      rw [hmessages, List.mem_append, List.mem_singleton] at hp
      rcases hp with hp | rfl
      · exact ⟨hp, hconv, hau⟩
      · exact absurd hbefore (Nat.lt_irrefl _)
  rw [Db.latestMessageFromAgent] at hparent
  refine ⟨fun id hid => ?_, fun hnone q hq => ?_⟩
  · rw [hid] at hparent
    obtain ⟨p, hp, hpid⟩ := Option.map_eq_some_iff.1 hparent.symm
    obtain ⟨hmem, hmax⟩ := Table.latestBy_some hp
    exact ⟨p, (hrows p).1 hmem, hpid, fun q hq => hmax q ((hrows q).2 hq)⟩
  · rw [hnone] at hparent
    have hnil := Table.latestBy_none (Option.map_eq_none_iff.1 hparent.symm)
    have hmem := (hrows q).2 hq
    rw [hnil] at hmem
    exact List.not_mem_nil hmem

/-! ## The invariant of a run -/

/-- A send of `input` in the run `ops` inserted the message `m`. -/
def SentBy (sha256 : String → String) (ops : List Op) (m : Message) (input : SendAttempt) : Prop :=
  ∃ pre post ids model rt ns record, ops = pre ++ Op.send ids model input rt ns :: post ∧
    (Op.exec sha256 (run (Op.step sha256) Db.empty pre) (.send ids model input rt ns)).1 =
      .ok (.sent record) ∧ record.messageId = m.id

theorem SentBy.snoc {ops : List Op} {m n : Message} {input : SendAttempt} (op : Op)
    (h : SentBy sha256 ops m input) (hid : n.id = m.id) : SentBy sha256 (ops ++ [op]) n input := by
  obtain ⟨pre, post, ids, model, rt, ns, record, rfl, hok, hm⟩ := h
  exact ⟨pre, post ++ [op], ids, model, rt, ns, record, by simp, hok, hm.trans hid.symm⟩

/-- The slot a message takes in its conversation. -/
def Message.slot (m : Message) : String × ℕ :=
  (m.conversationId, m.conversationSeq)

/-- What the store satisfies after the run `ops`. -/
structure MessageInv (sha256 : String → String) (ops : List Op) (db : Db) : Prop where
  numbered : Numbered db.conversations (db.messages.map Message.slot)
  ids : (db.messages.map Message.id).Nodup
  rowids : (db.messages.map Message.rowid).Nodup
  fts : db.messagesFts = db.messages.map Message.ftsRow
  jobs : db.embeddingJobs.map EmbeddingJob.messageId = db.messages.map Message.id
  rows : RowsKnown db
  threads : ∀ m ∈ db.messages, ∃ input, SentBy sha256 ops m input ∧
    db.Threaded m (participantFields sha256 input.recipient).agentLabel

theorem Db.rowid_lt_nextRowid {db : Db} {m : Message} (hm : m ∈ db.messages) :
    m.rowid < db.nextRowid := by
  have hmax : ∀ (l : List ℕ) (n : ℕ), n ∈ l → n ≤ l.foldr max 0 := by
    intro l
    induction l with
    | nil => simp
    | cons a l ih =>
      intro n hn
      rw [List.foldr_cons]
      rcases List.mem_cons.1 hn with rfl | hn
      · exact Nat.le_max_left _ _
      · exact Nat.le_trans (ih n hn) (Nat.le_max_right _ _)
  exact Nat.lt_succ_of_le (hmax _ _ (List.mem_map_of_mem hm))

namespace MessageInv

variable {ops : List Op} {db db' : Db}

/-- The conversation a send numbers its message in, after its numbering. -/
theorem sent_numbered (h : MessageInv sha256 ops db) {ids : SendIds} {model : String}
    {input : SendAttempt} {rt ns : String} {record : PersistedSend} {m : Message}
    (hs : Sent sha256 ids model input rt ns record db db' m) :
    Numbered db'.conversations (db'.messages.map Message.slot) ∧
      (∃ c ∈ db'.conversations, c.id = m.conversationId ∧
        c.IsActiveIn rt ns input.workspaceId input.tabId) ∧
      ∀ n ∈ db.messages, n.conversationId = m.conversationId →
        n.conversationSeq < m.conversationSeq := by
  obtain ⟨db1, hensure, ⟨c, hfind, hseq⟩, hconv⟩ := hs.conversations
  obtain ⟨hnum, a, ha, haid, hactive⟩ := ensureActiveConversation_numbered h.numbered hensure
  have hc : c ∈ db1.conversations := List.mem_of_find?_eq_some hfind
  have hcid : c.id = record.conversationId := by simpa using List.find?_some hfind
  -- The conversation that was numbered is the one that was ensured.
  obtain rfl : a = c := Table.unique hnum.ids ha hc (haid.trans hcid.symm)
  have hslot : m.slot = (a.id, a.conversationSeq + 1) := by
    rw [Message.slot, hs.conversationId, hs.conversationSeq, hseq, hcid]
  refine ⟨?_, ⟨bumpConversation a.id input.createdAt a, ?_, ?_, ?_⟩, fun n hn hnc => ?_⟩
  · rw [hconv, hs.messages, List.map_append, List.map_singleton, hslot, ← hcid]
    exact hnum.take hc input.createdAt
  · rw [hconv, ← hcid]
    exact List.mem_map_of_mem hc
  · simpa [bumpConversation] using haid.trans hs.conversationId.symm
  · simpa [bumpConversation, Conversation.IsActiveIn] using hactive
  · have hmem : (a.id, n.conversationSeq) ∈ db.messages.map Message.slot :=
      List.mem_map.2 ⟨n, hn, by rw [Message.slot, hnc, hs.conversationId, hcid]⟩
    have hle := hnum.slot_le hc hmem
    rw [hs.conversationSeq, hseq]
    omega

/-- An earlier message stays one, and a send adds no earlier message to an old one. -/
theorem sent_earlier (h : MessageInv sha256 ops db) {m n : Message} {label : String}
    (hn : n ∈ db.messages) (hmessages : db'.messages = db.messages ++ [m])
    (hgrow : ParticipantsGrow db db')
    (hnext : ∀ k ∈ db.messages, k.conversationId = m.conversationId →
      k.conversationSeq < m.conversationSeq) (q : Message) :
    db'.Earlier n label q ↔ db.Earlier n label q := by
  have hauthor : ∀ k ∈ db.messages, (db'.AuthoredUnder k label ↔ db.AuthoredUnder k label) := by
    intro k hk
    obtain ⟨⟨p, hp, hpid⟩, -⟩ := h.rows k hk
    obtain ⟨row, hrow⟩ : ∃ row, db.participant? k.fromParticipantId = some row := by
      rw [← Option.isSome_iff_exists, Db.participant?, List.find?_isSome]
      exact ⟨p, hp, beq_iff_eq.2 hpid⟩
    rw [Db.AuthoredUnder, Db.AuthoredUnder, hrow, hgrow.participant? hrow]
  constructor
  · rintro ⟨hq, hconv, hbefore, hau⟩
    rw [hmessages, List.mem_append, List.mem_singleton] at hq
    rcases hq with hq | rfl
    · exact ⟨hq, hconv, hbefore, (hauthor q hq).1 hau⟩
    · exact absurd hbefore (Nat.not_lt_of_lt (hnext n hn hconv.symm))
  · rintro ⟨hq, hconv, hbefore, hau⟩
    exact ⟨hmessages ▸ List.mem_append_left _ hq, hconv, hbefore, (hauthor q hq).2 hau⟩

theorem sent (h : MessageInv sha256 ops db) (hdb : db = run (Op.step sha256) Db.empty ops)
    {ids : SendIds} {model : String} {input : SendAttempt} {rt ns : String}
    {record : PersistedSend}
    (hrun : beginSendAttemptInTransaction sha256 ids model input rt ns db = .ok (record, db')) :
    MessageInv sha256 (ops ++ [.send ids model input rt ns]) db' := by
  obtain ⟨m, hs⟩ := beginSendAttempt_sent hrun
  obtain ⟨hnum, -, hnext⟩ := h.sent_numbered hs
  have hexec : (Op.exec sha256 db (.send ids model input rt ns)).1 = .ok (.sent record) := by
    simp [Op.exec, beginSendAttempt, Txn.immediate_ok.2 hrun, Except.map]
  refine ⟨hnum, ?_, ?_, ?_, ?_, ?_, ?_⟩
  · rw [hs.messages]
    exact Table.nodup_concat h.ids hs.fresh
  · rw [hs.messages]
    refine Table.nodup_concat h.rowids fun n hn => ?_
    rw [hs.rowid]
    exact Nat.ne_of_lt (Db.rowid_lt_nextRowid hn)
  · rw [hs.messagesFts, hs.messages, h.fts, hs.ftsRow, List.map_append, List.map_singleton]
  · rw [hs.embeddingJobs, hs.messages, List.map_append, List.map_append, h.jobs]
    simp [sendJob, hs.id]
  · exact h.rows.sent hs
  · intro n hn
    rw [hs.messages, List.mem_append, List.mem_singleton] at hn
    rcases hn with hn | rfl
    · obtain ⟨input', hby, hthread⟩ := h.threads n hn
      exact ⟨input', hby.snoc _ rfl,
        hthread.congr (h.sent_earlier hn hs.messages hs.participants hnext)⟩
    · refine ⟨input, ⟨ops, [], ids, model, rt, ns, record, rfl, hdb ▸ hexec, hs.recordId⟩, ?_⟩
      exact latestMessageFromAgent_threaded hs.messages hnext hs.derivedParentId

/-- A delivery event only moves a message's `delivery_seq`. -/
theorem appends (h : MessageInv sha256 ops db) {e : DeliveryEvent} (ha : Appends db e db')
    (op : Op) : MessageInv sha256 (ops ++ [op]) db' := by
  have hrows := h.rows.appends ha
  obtain ⟨-, -, -, rfl⟩ := ha
  refine ⟨?_, ?_, ?_, ?_, ?_, ?_, ?_⟩
  · show Numbered db.conversations ((bumpDeliverySeq e.messageId db).messages.map Message.slot)
    rw [bumpDeliverySeq_map fun _ _ => rfl]
    exact h.numbered
  · show ((bumpDeliverySeq e.messageId db).messages.map Message.id).Nodup
    rw [bumpDeliverySeq_map fun _ _ => rfl]
    exact h.ids
  · show ((bumpDeliverySeq e.messageId db).messages.map Message.rowid).Nodup
    rw [bumpDeliverySeq_map fun _ _ => rfl]
    exact h.rowids
  · show db.messagesFts = (bumpDeliverySeq e.messageId db).messages.map Message.ftsRow
    rw [bumpDeliverySeq_map fun _ _ => rfl]
    exact h.fts
  · show db.embeddingJobs.map EmbeddingJob.messageId =
      (bumpDeliverySeq e.messageId db).messages.map Message.id
    rw [bumpDeliverySeq_map fun _ _ => rfl]
    exact h.jobs
  · exact hrows
  · intro n hn
    obtain ⟨m, hm, rfl⟩ := List.mem_map.1 hn
    obtain ⟨input, hby, hthread⟩ := h.threads m hm
    refine ⟨input, hby.snoc op (by split <;> rfl), hthread.map (f := fun k =>
      if k.id == e.messageId then { k with deliverySeq := k.deliverySeq + 1 } else k)
      (fun k => ?_) rfl rfl⟩
    split <;> exact ⟨rfl, rfl, rfl, rfl, rfl⟩

/-- A transaction that changes nothing. -/
theorem skip (h : MessageInv sha256 ops db) (op : Op) : MessageInv sha256 (ops ++ [op]) db := by
  refine ⟨h.numbered, h.ids, h.rowids, h.fts, h.jobs, h.rows, fun m hm => ?_⟩
  obtain ⟨input, hby, hthread⟩ := h.threads m hm
  exact ⟨input, hby.snoc op rfl, hthread⟩

theorem empty : MessageInv sha256 [] Db.empty := by
  refine ⟨⟨List.nodup_nil, ?_, ?_, ?_⟩, List.nodup_nil, List.nodup_nil, rfl, rfl, ?_, ?_⟩
  · exact fun k hk => absurd hk List.not_mem_nil
  · exact fun c hc => absurd hc List.not_mem_nil
  · exact fun c hc => absurd hc List.not_mem_nil
  · exact fun m hm => absurd hm List.not_mem_nil
  · exact fun m hm => absurd hm List.not_mem_nil

/-- Every reachable store satisfies the invariant of its run. -/
theorem of_run (ops : List Op) :
    MessageInv sha256 ops (run (Op.step sha256) Db.empty ops) := by
  -- The invariant carries the run itself, so that a send can name its own prefix.
  induction ops using List.reverseRecOn with
  | nil => exact empty
  | append_singleton ops op ih =>
    rw [run_snoc]
    rcases op.step_cases sha256 (run (Op.step sha256) Db.empty ops) with
      hs | ⟨ids, model, input, rt, ns, record, rfl, hs⟩ | ⟨e, ha⟩
    · rw [hs]
      exact ih.skip op
    · exact ih.sent rfl hs
    · exact ih.appends ha op

end MessageInv

/-! ## Numbering, scoping and threads of every run -/

/-- The messages of a conversation, as they were inserted. -/
def Db.messagesIn (db : Db) (conversationId : String) : List Message :=
  db.messages.filter (·.conversationId == conversationId)

/-- After any interleaving of sends (and of the other transactions of the store) : the
messages of each conversation are numbered `1 … conversation_seq` and every message is in
a conversation; a scope has at most one active conversation, and right after a successful
send it is the sending runtime's and holds the message; every message was inserted by a
send of the run and its derived parent is the latest earlier message of its conversation
authored under that send's recipient label, unset only when there is none; every message
has exactly one full-text row and exactly one embedding job; a failing send changes
nothing. -/
theorem conversation_numbering (sha256 : String → String) (ops : List Op) :
    let db := run (Op.step sha256) Db.empty ops
    (∀ c ∈ db.conversations,
      (db.messagesIn c.id).map Message.conversationSeq = List.range' 1 c.conversationSeq) ∧
    (∀ m ∈ db.messages, ∃ c ∈ db.conversations, c.id = m.conversationId) ∧
    (∀ c ∈ db.conversations, ∀ d ∈ db.conversations, c.status = .active → d.status = .active →
      c.SameScope d → c = d) ∧
    (∀ ids model input rt ns record db',
      beginSendAttempt sha256 ids model input rt ns db = (.ok record, db') →
      ∃ c ∈ db'.conversations, c.IsActiveIn rt ns input.workspaceId input.tabId ∧
        (∀ d ∈ db'.conversations, d.status = .active → d.SameScope c → d = c) ∧
        ∃ m ∈ db'.messages, m.id = input.messageId ∧ m.conversationId = c.id) ∧
    (∀ m ∈ db.messages, ∃ input, SentBy sha256 ops m input ∧
      db.Threaded m (participantFields sha256 input.recipient).agentLabel) ∧
    (∀ m ∈ db.messages, (∃ row, db.messagesFts.filter (·.rowid == m.rowid) = [row]) ∧
      ∃ job, db.embeddingJobs.filter (·.messageId == m.id) = [job]) ∧
    (∀ ids model input rt ns e,
      (beginSendAttempt sha256 ids model input rt ns db).1 = .error e →
      (beginSendAttempt sha256 ids model input rt ns db).2 = db) := by
  intro db
  have h : MessageInv sha256 ops db := MessageInv.of_run ops
  refine ⟨fun c hc => ?_, fun m hm => ?_, h.numbered.oneActive, ?_, h.threads,
    fun m hm => ⟨?_, ?_⟩, fun ids model input rt ns e he => Txn.immediate_error he⟩
  · rw [← h.numbered.seqs c hc, Db.messagesIn, List.filter_map, List.map_map]
    rfl
  · exact h.numbered.known m.slot (List.mem_map_of_mem hm)
  · intro ids model input rt ns record db' hsend
    have hrun := Txn.immediate_ok.1 hsend
    obtain ⟨m, hs⟩ := beginSendAttempt_sent hrun
    obtain ⟨hnum, ⟨c, hc, hcid, hactive⟩, -⟩ := h.sent_numbered hs
    refine ⟨c, hc, hactive, fun d hd hda hscope => ?_, m, ?_, hs.id, hcid.symm⟩
    · exact hnum.oneActive d hd c hc hda hactive.1 hscope
    · rw [hs.messages]
      exact List.mem_append_right _ (List.mem_singleton_self m)
  · have hrowids : db.messagesFts.map FtsRow.rowid = db.messages.map Message.rowid := by
      rw [h.fts, List.map_map]
      rfl
    exact Table.filter_eq_singleton (hrowids ▸ h.rowids) (hrowids ▸ List.mem_map_of_mem hm)
  · exact Table.filter_eq_singleton (h.jobs ▸ h.ids) (h.jobs ▸ List.mem_map_of_mem hm)

end Zynk
