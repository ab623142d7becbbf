import Zynk.Lib.Run
import Zynk.Server.Attach

/-!
# One writer for each attached terminal

The mode of a client, the owner of a terminal, the resize lock and the foreground client are kept in
four places. `Owned` says how the first three fit together and `Foregrounded` what the last one may
be; every step keeps both, also the steps that refuse a client in the middle (`sound_step`).

`one_writer` is the result for the state after any run.
-/

namespace Zynk

open StepRun Assoc

namespace HeadlessServer

/-- The owner of a terminal is the client that is attached to it, and of the terminals that exist
the owned ones are locked. An id is known before it is locked or owned. -/
structure Owned (s : HeadlessServer) : Prop where
  owners : ∀ terminalId clientId, s.terminalAttachOwners.lookup terminalId = some clientId ↔
    s.modeOf clientId = some (.terminalAttach terminalId)
  locks : ∀ terminalId ∈ s.terminals, terminalId ∈ s.directAttachResizeLocks ↔
    terminalId ∈ s.terminalAttachOwners
  terminals_known : s.terminals ⊆ s.known
  locks_known : s.directAttachResizeLocks ⊆ s.known
  owners_known : ∀ terminalId ∈ s.terminalAttachOwners, terminalId ∈ s.known

/-- The foreground client is connected and belongs to the application. -/
def Foregrounded (s : HeadlessServer) : Prop :=
  ∀ clientId, s.foregroundClientId = some clientId → s.modeOf clientId = some .app

/-! ## Modes -/

theorem modeOf_insert (s : HeadlessServer) (clientId clientId' : ℕ) (client : ClientConnection) :
    { s with clients := s.clients.insert clientId client }.modeOf clientId' =
      if clientId' = clientId then some client.mode else s.modeOf clientId' := by
  unfold modeOf
  split_ifs with h
  · rw [h, AList.lookup_insert]
    rfl
  · rw [AList.lookup_insert_ne h]

variable {s s' : HeadlessServer} {clientId : ℕ}

/-- A client that is changed keeps its mode. -/
theorem modeOf_insert_same {client client' : ClientConnection}
    (h : s.clients.lookup clientId = some client) (hmode : client'.mode = client.mode)
    (clientId' : ℕ) : { s with clients := s.clients.insert clientId client' }.modeOf clientId' =
      s.modeOf clientId' := by
  rw [modeOf_insert]
  split_ifs with heq
  · rw [heq, modeOf, h, hmode]
    rfl
  · rfl

theorem modeOf_erase (s : HeadlessServer) (clientId clientId' : ℕ) :
    { s with clients := s.clients.erase clientId }.modeOf clientId' =
      if clientId' = clientId then none else s.modeOf clientId' := by
  unfold modeOf
  split_ifs with h
  · rw [h, AList.lookup_erase]
    rfl
  · rw [AList.lookup_erase_ne h]

theorem latestAppClient_mode {clients : Assoc ℕ ClientConnection}
    (h : latestAppClient clients = some clientId) :
    ∃ client, clients.lookup clientId = some client ∧ client.mode = .app := by
  obtain ⟨e, he, rfl⟩ := Option.map_eq_some_iff.1 h
  obtain ⟨hmem, happ⟩ := List.mem_filter.1 (List.argmax_mem he)
  exact ⟨e.2, (AList.mem_lookup_iff).2 hmem, by simpa [ClientConnection.isFullAppClient] using happ⟩

/-- Two servers agree on what `Owned` and `Foregrounded` say. -/
structure Agrees (s s' : HeadlessServer) : Prop where
  modeOf : ∀ clientId, s'.modeOf clientId = s.modeOf clientId
  owners : s'.terminalAttachOwners = s.terminalAttachOwners
  locks : s'.directAttachResizeLocks = s.directAttachResizeLocks
  terminals : s'.terminals = s.terminals
  known : s'.known = s.known
  received : s'.received = s.received

theorem Agrees.refl (s : HeadlessServer) : Agrees s s :=
  ⟨fun _ => rfl, rfl, rfl, rfl, rfl, rfl⟩

theorem Agrees.trans {s'' : HeadlessServer} (h : Agrees s s') (h' : Agrees s' s'') : Agrees s s'' :=
  ⟨fun c => (h'.modeOf c).trans (h.modeOf c), h'.owners.trans h.owners, h'.locks.trans h.locks,
    h'.terminals.trans h.terminals, h'.known.trans h.known, h'.received.trans h.received⟩

theorem Owned.of_agrees (h : s.Owned) (ha : Agrees s s') : s'.Owned := by
  obtain ⟨howners, hlocks, hterminals, hlocksKnown, hownersKnown⟩ := h
  refine ⟨?_, ?_, ?_, ?_, ?_⟩
  · intro t c
    rw [ha.owners, ha.modeOf]
    exact howners t c
  · rw [ha.terminals, ha.locks, ha.owners]
    exact hlocks
  · rw [ha.terminals, ha.known]
    exact hterminals
  · rw [ha.locks, ha.known]
    exact hlocksKnown
  · rw [ha.owners, ha.known]
    exact hownersKnown

theorem Foregrounded.of_agrees (h : s.Foregrounded) (ha : Agrees s s')
    (hforeground : s'.foregroundClientId = s.foregroundClientId) : s'.Foregrounded := by
  intro c hc
  rw [ha.modeOf]
  exact h c (hforeground ▸ hc)

/-! ## The foreground -/

theorem agrees_sync (s : HeadlessServer) : Agrees s s.syncForegroundClientState := by
  unfold syncForegroundClientState
  split
  · exact .refl s
  · split_ifs
    · exact .refl s
    · exact ⟨fun _ => rfl, rfl, rfl, rfl, rfl, rfl⟩

/-- After a look at the foreground client it is the one it was, or none. -/
theorem foreground_sync (h : s.syncForegroundClientState.foregroundClientId = some clientId) :
    s.foregroundClientId = some clientId := by
  unfold syncForegroundClientState at h
  split at h
  · exact h
  · split_ifs at h
    exact h

theorem foregrounded_sync (h : s.Foregrounded) : s.syncForegroundClientState.Foregrounded := by
  intro c hc
  rw [(agrees_sync s).modeOf]
  exact h c (foreground_sync hc)

theorem agrees_promoteLatest (s : HeadlessServer) :
    Agrees s s.promoteLatestRemainingClient := by
  have hchosen : Agrees s { s with foregroundClientId := latestAppClient s.clients } :=
    ⟨fun _ => rfl, rfl, rfl, rfl, rfl, rfl⟩
  exact hchosen.trans (agrees_sync _)

/-- Whatever the foreground was before. -/
theorem foregrounded_promoteLatest (s : HeadlessServer) :
    s.promoteLatestRemainingClient.Foregrounded := by
  refine foregrounded_sync ?_
  intro c hc
  obtain ⟨client, hlookup, hmode⟩ := latestAppClient_mode hc
  show (s.clients.lookup c).map ClientConnection.mode = some .app
  rw [hlookup, ← hmode]
  rfl

theorem agrees_promote (s : HeadlessServer) (clientId : ℕ) :
    Agrees s (s.promoteClientToForeground clientId) := by
  unfold promoteClientToForeground allocateActivityStamp
  simp only
  cases h : s.clients.lookup clientId with
  | none => exact ⟨fun _ => rfl, rfl, rfl, rfl, rfl, rfl⟩
  | some client =>
    refine Agrees.trans ?_ (agrees_sync _)
    have hmode : { client with lastActivity := s.nextActivityStamp }.mode = client.mode := rfl
    exact ⟨fun c => modeOf_insert_same h hmode c, rfl, rfl, rfl, rfl, rfl⟩

/-- Only a client of the application is put in the foreground. -/
theorem foregrounded_promote (h : s.Foregrounded)
    (hmode : ∀ mode, s.modeOf clientId = some mode → mode = .app) :
    (s.promoteClientToForeground clientId).Foregrounded := by
  intro c hc
  rw [(agrees_promote s clientId).modeOf]
  unfold promoteClientToForeground allocateActivityStamp at hc
  simp only at hc
  cases hlookup : s.clients.lookup clientId with
  | none =>
    rw [hlookup] at hc
    exact h c hc
  | some client =>
    rw [hlookup] at hc
    have heq := foreground_sync hc
    simp only [Option.some.injEq] at heq
    have hclient : s.modeOf clientId = some client.mode := by rw [modeOf, hlookup]; rfl
    rw [← heq, hclient, hmode client.mode hclient]

/-! ## Leaving -/

/-- The client is gone and its terminal is free; nothing else has changed. -/
structure Left (s : HeadlessServer) (clientId : ℕ) (s' : HeadlessServer) : Prop where
  modeOf : ∀ c, s'.modeOf c = if c = clientId then none else s.modeOf c
  owned : s.Owned → s'.Owned
  foregrounded : s.Foregrounded → s'.Foregrounded
  terminals : s'.terminals = s.terminals
  received : s'.received = s.received

theorem releaseTerminal_frame (s : HeadlessServer) (mode : ClientConnectionMode) :
    (s.releaseTerminal mode).clients = s.clients ∧
      (s.releaseTerminal mode).terminals = s.terminals ∧
      (s.releaseTerminal mode).known = s.known ∧ (s.releaseTerminal mode).received = s.received ∧
      (s.releaseTerminal mode).foregroundClientId = s.foregroundClientId := by
  cases mode <;> exact ⟨rfl, rfl, rfl, rfl, rfl⟩

/-- A client that was not attached leaves nothing behind. -/
theorem owned_erase (h : s.Owned) (hmode : ∀ t, s.modeOf clientId ≠ some (.terminalAttach t)) :
    { s with clients := s.clients.erase clientId }.Owned := by
  refine ⟨?_, h.locks, h.terminals_known, h.locks_known, h.owners_known⟩
  intro t c
  rw [modeOf_erase]
  split_ifs with hc
  · rw [hc]
    simp only [iff_false]
    intro howner
    exact hmode t ((h.owners t clientId).1 howner)
  · exact h.owners t c

variable {terminalId : String}

/-- A client that was attached frees its terminal. -/
theorem owned_release (h : s.Owned)
    (hmode : s.modeOf clientId = some (.terminalAttach terminalId)) :
    ({ s with clients := s.clients.erase clientId }.releaseTerminal
      (.terminalAttach terminalId)).Owned := by
  refine ⟨?_, ?_, h.terminals_known, ?_, ?_⟩
  · intro t c
    show (s.terminalAttachOwners.erase terminalId).lookup t = some c ↔
      { s with clients := s.clients.erase clientId }.modeOf c = some (.terminalAttach t)
    rw [modeOf_erase]
    rcases eq_or_ne t terminalId with rfl | ht
    · rw [AList.lookup_erase]
      split_ifs with hc
      · simp
      · simp only [false_iff]
        intro hattached
        have howner := (h.owners t c).2 hattached
        rw [(h.owners t clientId).2 hmode] at howner
        exact hc (Option.some.inj howner).symm
    · rw [AList.lookup_erase_ne ht, h.owners]
      split_ifs with hc
      · rw [hc, hmode]
        simp only [Option.some.injEq, ClientConnectionMode.terminalAttach.injEq, iff_false]
        exact fun heq => ht heq.symm
      · rfl
  · intro t ht
    show t ∈ (if terminalId ∈ s.terminals then _ else _) ↔
      t ∈ s.terminalAttachOwners.erase terminalId
    rw [AList.mem_erase]
    split_ifs with hexists
    · rw [Finset.mem_erase, h.locks t ht]
    · have hne : t ≠ terminalId := fun heq => hexists (heq ▸ ht)
      rw [h.locks t ht]
      simp [hne]
  · show (if terminalId ∈ s.terminals then _ else _) ⊆ s.known
    split_ifs
    · exact (Finset.erase_subset _ _).trans h.locks_known
    · exact h.locks_known
  · intro t ht
    exact h.owners_known t (AList.mem_erase.1 ht).2

theorem modeOf_dropClient (s : HeadlessServer) (clientId c : ℕ) :
    (s.dropClient clientId).modeOf c = if c = clientId then none else s.modeOf c := by
  unfold dropClient
  cases hlookup : s.clients.lookup clientId with
  | none =>
    simp only
    split_ifs with hc
    · rw [hc, modeOf, hlookup]
      rfl
    · rfl
  | some client =>
    have hframe := releaseTerminal_frame { s with clients := s.clients.erase clientId } client.mode
    simp only
    rw [← modeOf_erase, modeOf, hframe.1]
    rfl

theorem owned_dropClient (h : s.Owned) (clientId : ℕ) : (s.dropClient clientId).Owned := by
  unfold dropClient
  cases hlookup : s.clients.lookup clientId with
  | none => exact h
  | some client =>
    have hclient : s.modeOf clientId = some client.mode := by rw [modeOf, hlookup]; rfl
    simp only
    cases hm : client.mode with
    | terminalAttach t => exact owned_release h (hm ▸ hclient)
    | app => exact owned_erase h (by rw [hclient, hm]; simp)
    | terminalPending => exact owned_erase h (by rw [hclient, hm]; simp)
    | terminalObserve t => exact owned_erase h (by rw [hclient, hm]; simp)

theorem dropClient_frame (s : HeadlessServer) (clientId : ℕ) :
    (s.dropClient clientId).terminals = s.terminals ∧
      (s.dropClient clientId).received = s.received ∧
      (s.dropClient clientId).foregroundClientId = s.foregroundClientId := by
  unfold dropClient
  cases hlookup : s.clients.lookup clientId with
  | none => exact ⟨rfl, rfl, rfl⟩
  | some client =>
    have hframe := releaseTerminal_frame { s with clients := s.clients.erase clientId } client.mode
    exact ⟨hframe.2.1, hframe.2.2.2.1, hframe.2.2.2.2⟩

theorem left_removeClient (s : HeadlessServer) (clientId : ℕ) :
    Left s clientId (s.removeClient clientId) := by
  obtain ⟨hterminals, hreceived, hforeground⟩ := dropClient_frame s clientId
  unfold removeClient
  split_ifs with hwas
  · have ha := agrees_promoteLatest (s.dropClient clientId)
    exact ⟨fun c => (ha.modeOf c).trans (modeOf_dropClient s clientId c),
      fun h => (owned_dropClient h clientId).of_agrees ha,
      fun _ => foregrounded_promoteLatest _, ha.terminals.trans hterminals,
      ha.received.trans hreceived⟩
  · refine ⟨modeOf_dropClient s clientId, fun h => owned_dropClient h clientId, ?_, hterminals,
      hreceived⟩
    intro h c hc
    rw [hforeground] at hc
    rw [modeOf_dropClient, if_neg, h c hc]
    rintro rfl
    exact hwas hc

theorem left_sendToClient (s : HeadlessServer) (clientId : ℕ) :
    s.sendToClient clientId = s ∨ Left s clientId (s.sendToClient clientId) := by
  unfold sendToClient
  split
  · exact Or.inl rfl
  · split_ifs
    · exact Or.inr (left_removeClient s clientId)
    · exact Or.inl rfl

theorem Left.trans {s'' : HeadlessServer} (h : Left s clientId s') (h' : Left s' clientId s'') :
    Left s clientId s'' := by
  refine ⟨?_, fun ho => h'.owned (h.owned ho), fun hf => h'.foregrounded (h.foregrounded hf),
    h'.terminals.trans h.terminals, h'.received.trans h.received⟩
  intro c
  rw [h'.modeOf, h.modeOf]
  split_ifs <;> rfl

/-- A client that is told to go goes, whether the message reached it or not. -/
theorem left_shutdownClient (s : HeadlessServer) (clientId : ℕ) :
    Left s clientId (s.shutdownClient clientId) := by
  have hremove := left_removeClient (s.sendToClient clientId) clientId
  unfold shutdownClient
  rcases left_sendToClient s clientId with heq | hsend
  · rw [heq] at hremove ⊢
    exact hremove
  · exact hsend.trans hremove

/-! ## Taking a mode -/

/-- The client with its new mode, when the foreground is not looked at. -/
def withMode (s : HeadlessServer) (clientId : ℕ) (client : ClientConnection)
    (mode : ClientConnectionMode) : HeadlessServer :=
  { s with
    clients := s.clients.insert clientId
      { client with mode := mode, lastActivity := s.nextActivityStamp } }

theorem modeOf_withMode (s : HeadlessServer) (clientId c : ℕ) (client : ClientConnection)
    (mode : ClientConnectionMode) : (s.withMode clientId client mode).modeOf c =
      if c = clientId then some mode else s.modeOf c :=
  modeOf_insert s clientId c _

theorem agrees_setMode {client : ClientConnection} (h : s.clients.lookup clientId = some client)
    (mode : ClientConnectionMode) :
    Agrees (s.withMode clientId client mode) (s.setMode clientId mode) := by
  unfold setMode allocateActivityStamp
  simp only [h]
  split_ifs
  · refine Agrees.trans ?_ (agrees_promoteLatest _)
    exact ⟨fun _ => rfl, rfl, rfl, rfl, rfl, rfl⟩
  · exact ⟨fun _ => rfl, rfl, rfl, rfl, rfl, rfl⟩

theorem setMode_of_absent (h : s.clients.lookup clientId = none) (mode : ClientConnectionMode) :
    s.setMode clientId mode = s.allocateActivityStamp.2 := by
  unfold setMode
  simp only [allocateActivityStamp, h]

/-- A client that takes a mode of its own leaves the foreground. -/
theorem foregrounded_setMode (h : s.Foregrounded) (clientId : ℕ) (mode : ClientConnectionMode) :
    (s.setMode clientId mode).Foregrounded := by
  cases hlookup : s.clients.lookup clientId with
  | none =>
    rw [setMode_of_absent hlookup]
    exact h
  | some client =>
    have ha := agrees_setMode hlookup mode
    unfold setMode allocateActivityStamp at ha ⊢
    simp only [hlookup] at ha ⊢
    split_ifs at ha ⊢ with hforeground
    · exact foregrounded_promoteLatest _
    · intro c hc
      rw [ha.modeOf, modeOf_withMode, if_neg, h c hc]
      rintro rfl
      exact hforeground hc

/-- A pending client that observes a terminal owns nothing. -/
theorem owned_observe (h : s.Owned) (hpending : s.modeOf clientId = some .terminalPending)
    (terminalId : String) : (s.setMode clientId (.terminalObserve terminalId)).Owned := by
  obtain ⟨client, hlookup, -⟩ := Option.map_eq_some_iff.1 hpending
  refine Owned.of_agrees ?_ (agrees_setMode hlookup _)
  refine ⟨?_, h.locks, h.terminals_known, h.locks_known, h.owners_known⟩
  intro t c
  rw [modeOf_withMode]
  split_ifs with hc
  · rw [hc]
    simp only [Option.some.injEq, reduceCtorEq, iff_false]
    intro howner
    rw [(h.owners t clientId).1 howner] at hpending
    cases hpending
  · exact h.owners t c

/-- A pending client that takes a free terminal becomes its owner. -/
theorem owned_takeTerminal (h : s.Owned) (hpending : s.modeOf clientId = some .terminalPending)
    (hexists : terminalId ∈ s.terminals) (hfree : terminalId ∉ s.terminalAttachOwners) :
    (s.takeTerminal clientId terminalId).Owned := by
  obtain ⟨client, hlookup, -⟩ := Option.map_eq_some_iff.1 hpending
  have ha := agrees_setMode hlookup (.terminalAttach terminalId)
  have hknown : terminalId ∈ s.known := h.terminals_known hexists
  unfold takeTerminal
  rw [if_neg (by simp [hlookup])]
  generalize s.setMode clientId (.terminalAttach terminalId) = s' at ha
  obtain ⟨hmode, howners, hlocks, hterminals, hknown', -⟩ := ha
  refine ⟨?_, ?_, ?_, ?_, ?_⟩
  · intro t c
    show (s'.terminalAttachOwners.insert terminalId clientId).lookup t = some c ↔
      s'.modeOf c = some (.terminalAttach t)
    rw [hmode, modeOf_withMode, howners]
    rcases eq_or_ne t terminalId with rfl | ht
    · rw [AList.lookup_insert]
      split_ifs with hc
      · simp [hc]
      · -- No one else is attached to a terminal without an owner.
        have hnone : s.modeOf c ≠ some (.terminalAttach t) := by
          intro hattached
          have howner := (h.owners t c).2 hattached
          exact hfree (AList.lookup_isSome.1 (by rw [howner]; rfl))
        simp only [Option.some.injEq, hnone, iff_false]
        exact fun heq => hc heq.symm
    · rw [AList.lookup_insert_ne ht]
      split_ifs with hc
      · rw [hc]
        simp only [Option.some.injEq, ClientConnectionMode.terminalAttach.injEq, ht.symm, iff_false]
        intro howner
        exact absurd ((h.owners t clientId).1 howner) (by rw [hpending]; simp)
      · exact h.owners t c
  · intro t ht
    show t ∈ insert terminalId s'.directAttachResizeLocks ↔
      t ∈ s'.terminalAttachOwners.insert terminalId clientId
    rw [Finset.mem_insert, AList.mem_insert, hlocks, howners]
    have hsame : s'.terminals = s.terminals := hterminals
    have ht' : t ∈ s.terminals := hsame ▸ ht
    rw [show t ∈ (s.withMode clientId client (.terminalAttach terminalId)).directAttachResizeLocks ↔
      t ∈ s.terminalAttachOwners from h.locks t ht']
    rfl
  · show s'.terminals ⊆ s'.known
    rw [hterminals, hknown']
    exact h.terminals_known
  · show insert terminalId s'.directAttachResizeLocks ⊆ s'.known
    rw [hlocks, hknown', Finset.insert_subset_iff]
    exact ⟨hknown, h.locks_known⟩
  · intro t ht
    show t ∈ s'.known
    rw [hknown']
    rcases (AList.mem_insert _).1 ht with rfl | ht
    · exact hknown
    · rw [howners] at ht
      exact h.owners_known t ht

/-! ## The invariant -/

/-- What holds of every state. -/
def Sound (s : HeadlessServer) : Prop :=
  s.Owned ∧ s.Foregrounded

theorem Sound.of_left (h : s.Sound) (hl : Left s clientId s') : s'.Sound :=
  ⟨hl.owned h.1, hl.foregrounded h.2⟩

theorem sound_sync (h : s.Sound) : s.syncForegroundClientState.Sound :=
  ⟨h.1.of_agrees (agrees_sync s), foregrounded_sync h.2⟩

theorem sound_sendToClient (h : s.Sound) (clientId : ℕ) : (s.sendToClient clientId).Sound := by
  rcases left_sendToClient s clientId with heq | hl
  · rw [heq]
    exact h
  · exact h.of_left hl

theorem sound_shutdownClients (h : s.Sound) (clientIds : List ℕ) :
    (clientIds.foldl shutdownClient s).Sound := by
  induction clientIds generalizing s with
  | nil => exact h
  | cons clientId clientIds ih => exact ih (h.of_left (left_shutdownClient s clientId))

theorem sound_promote (h : s.Sound) (hmode : ∀ mode, s.modeOf clientId = some mode → mode = .app) :
    (s.promoteClientToForeground clientId).Sound :=
  ⟨h.1.of_agrees (agrees_promote s clientId), foregrounded_promote h.2 hmode⟩

theorem pending_iff : s.clientIsPendingTerminalMode clientId = true ↔
      s.modeOf clientId = some .terminalPending := by
  rw [clientIsPendingTerminalMode, beq_iff_eq]

theorem foregrounded_takeTerminal (h : s.Foregrounded) (clientId : ℕ) (terminalId : String) :
    (s.takeTerminal clientId terminalId).Foregrounded := by
  unfold takeTerminal
  split_ifs
  · exact h
  · exact foregrounded_setMode h clientId (.terminalAttach terminalId)

theorem sound_attach (h : s.Sound) (clientId : ℕ) (terminalId : String) (takeover : Bool) :
    (s.attachTerminalClient clientId terminalId takeover).Sound := by
  have hrefused := h.of_left (left_shutdownClient s clientId)
  unfold attachTerminalClient
  split
  · exact hrefused
  rename_i hnot
  split
  · exact hrefused
  rename_i hmissing
  split
  · exact hrefused
  · have hpending : s.modeOf clientId = some .terminalPending := by
      rw [← pending_iff]
      simpa using hnot
    rw [not_not] at hmissing
    cases howner : s.terminalAttachOwners.lookup terminalId with
    | none =>
      refine ⟨owned_takeTerminal h.1 hpending hmissing ?_, foregrounded_takeTerminal h.2 _ _⟩
      exact AList.lookup_eq_none.1 howner
    | some existingOwner =>
      have hattached := (h.1.owners terminalId existingOwner).1 howner
      have hne : existingOwner ≠ clientId := by
        rintro rfl
        rw [hattached] at hpending
        cases hpending
      simp only
      split_ifs with hkept
      · exact hrefused
      · -- The owner is told to go : its terminal is free, and the new client still waits.
        have hl := left_shutdownClient s existingOwner
        have hsound := h.of_left hl
        refine ⟨owned_takeTerminal hsound.1 ?_ (hl.terminals ▸ hmissing) ?_,
          foregrounded_takeTerminal hsound.2 _ _⟩
        · rw [hl.modeOf, if_neg hne.symm, hpending]
        · intro hmem
          obtain ⟨c, hc⟩ := Option.isSome_iff_exists.1 (AList.lookup_isSome.2 hmem)
          have hc' := (hsound.1.owners terminalId c).1 hc
          rw [hl.modeOf] at hc'
          split_ifs at hc' with heq
          rw [← h.1.owners, howner] at hc'
          exact heq (Option.some.inj hc').symm

theorem resolve_cases (clientId : ℕ) (target : String) (resolved : Option String) :
    s.resolveTerminalSessionTarget clientId target resolved =
        (none, s.shutdownClient clientId) ∨
      ∃ terminalId, s.resolveTerminalSessionTarget clientId target resolved =
        (some terminalId, s) ∧ s.modeOf clientId = some .terminalPending := by
  unfold resolveTerminalSessionTarget
  split_ifs with hnot htarget
  · exact Or.inl rfl
  · exact Or.inr ⟨target, rfl, pending_iff.1 (by simpa using hnot)⟩
  · cases resolved with
    | none => exact Or.inl rfl
    | some terminalId => exact Or.inr ⟨terminalId, rfl, pending_iff.1 (by simpa using hnot)⟩

theorem sound_observe (h : s.Sound) (clientId : ℕ) (target : String) (resolved : Option String) :
    (s.observeTerminalClient clientId target resolved).Sound := by
  unfold observeTerminalClient
  rcases resolve_cases (s := s) clientId target resolved with heq | ⟨terminalId, heq, hpending⟩
  · rw [heq]
    exact h.of_left (left_shutdownClient s clientId)
  · rw [heq]
    exact ⟨owned_observe h.1 hpending terminalId, foregrounded_setMode h.2 _ _⟩

theorem sound_control (h : s.Sound) (clientId : ℕ) (target : String) (resolved : Option String)
    (takeover : Bool) : (s.controlTerminalClient clientId target resolved takeover).Sound := by
  unfold controlTerminalClient
  rcases resolve_cases (s := s) clientId target resolved with heq | ⟨terminalId, heq, -⟩
  · rw [heq]
    exact h.of_left (left_shutdownClient s clientId)
  · rw [heq]
    exact sound_attach h clientId terminalId takeover

/-! ## Terminals that come and go -/

theorem owned_applyChange (h : s.Owned) (change : TerminalChange) :
    (s.applyChange change).Owned := by
  obtain ⟨howners, hlocks, hterminals, hlocksKnown, hownersKnown⟩ := h
  cases change with
  | opened t =>
    unfold applyChange
    simp only
    split_ifs with hknown
    · exact ⟨howners, hlocks, hterminals, hlocksKnown, hownersKnown⟩
    · refine ⟨howners, ?_, Finset.insert_subset_insert t hterminals,
        hlocksKnown.trans (Finset.subset_insert t _),
        fun t' ht' => Finset.mem_insert_of_mem (hownersKnown t' ht')⟩
      intro t' ht'
      rcases Finset.mem_insert.1 ht' with rfl | ht'
      · -- A new id is neither locked nor owned.
        exact iff_of_false (fun hlock => hknown (hlocksKnown hlock))
          (fun howned => hknown (hownersKnown _ howned))
      · exact hlocks t' ht'
  | closed t =>
    exact ⟨howners, fun t' ht' => hlocks t' (Finset.mem_of_mem_erase ht'),
      (Finset.erase_subset t _).trans hterminals, hlocksKnown, hownersKnown⟩
  | popupClosed t =>
    refine ⟨howners, ?_, (Finset.erase_subset t _).trans hterminals,
      (Finset.erase_subset t _).trans hlocksKnown, hownersKnown⟩
    intro t' ht'
    obtain ⟨hne, hmem⟩ := Finset.mem_erase.1 ht'
    show t' ∈ s.directAttachResizeLocks.erase t ↔ t' ∈ s.terminalAttachOwners
    rw [Finset.mem_erase, hlocks t' hmem]
    simp [hne]
  | runtimeStarted t => exact ⟨howners, hlocks, hterminals, hlocksKnown, hownersKnown⟩
  | runtimeStopped t => exact ⟨howners, hlocks, hterminals, hlocksKnown, hownersKnown⟩
  | readsPending ts => exact ⟨howners, hlocks, hterminals, hlocksKnown, hownersKnown⟩

theorem applyChange_frame (s : HeadlessServer) (change : TerminalChange) :
    (s.applyChange change).clients = s.clients ∧
      (s.applyChange change).foregroundClientId = s.foregroundClientId ∧
      (s.applyChange change).received = s.received := by
  cases change with
  | opened t =>
    unfold applyChange
    simp only
    split_ifs <;> exact ⟨rfl, rfl, rfl⟩
  | _ => exact ⟨rfl, rfl, rfl⟩

theorem sound_applyChange (h : s.Sound) (change : TerminalChange) :
    (s.applyChange change).Sound := by
  obtain ⟨hclients, hforeground, -⟩ := applyChange_frame s change
  refine ⟨owned_applyChange h.1 change, ?_⟩
  intro c hc
  rw [modeOf, hclients]
  exact h.2 c (hforeground ▸ hc)

theorem sound_route (h : s.Sound) (changes : List TerminalChange) : (s.route changes).Sound := by
  unfold route
  induction changes generalizing s with
  | nil => exact h
  | cons change changes ih => exact ih (sound_applyChange h change)

/-! ## Input -/

theorem agrees_updateClient (s : HeadlessServer) (clientId : ℕ)
    {f : ClientConnection → ClientConnection} (hf : ∀ c, (f c).mode = c.mode) :
    Agrees s (s.updateClient clientId f) ∧
      (s.updateClient clientId f).foregroundClientId = s.foregroundClientId := by
  unfold updateClient
  split
  · exact ⟨.refl s, rfl⟩
  · rename_i client hlookup
    exact ⟨⟨fun c => modeOf_insert_same hlookup (hf client) c, rfl, rfl, rfl, rfl, rfl⟩, rfl⟩

theorem sound_updateClient (h : s.Sound) (clientId : ℕ) {f : ClientConnection → ClientConnection}
    (hf : ∀ c, (f c).mode = c.mode) : (s.updateClient clientId f).Sound := by
  obtain ⟨ha, hforeground⟩ := agrees_updateClient s clientId hf
  exact ⟨h.1.of_agrees ha, h.2.of_agrees ha hforeground⟩

theorem sound_handleClientInputEvents (h : s.Sound)
    (hmode : ∀ mode, s.modeOf clientId = some mode → mode = .app) (routed : Routed) :
    (s.handleClientInputEvents clientId routed).Sound := by
  have hpromoted :
      (if routed.interaction then s.promoteClientToForeground clientId else s).Sound := by
    split_ifs
    · exact sound_promote h hmode
    · exact h
  unfold handleClientInputEvents
  generalize (if routed.interaction then s.promoteClientToForeground clientId else s) = s'
    at hpromoted ⊢
  have hrouted := sound_route hpromoted routed.changes
  have hsynced := sound_sync hrouted
  simp only
  split
  · exact sound_updateClient (sound_sendToClient hsynced clientId) clientId fun _ => rfl
  · exact hsynced

/-- What admission of structured input leaves, and that only the application is admitted. -/
theorem admitStructured_cases (s : HeadlessServer) (clientId : ℕ) :
    (s.admitStructuredClientInput clientId = (true, s) ∧ s.modeOf clientId = some .app) ∨
      s.admitStructuredClientInput clientId = (false, s) ∨
      s.admitStructuredClientInput clientId = (false, s.shutdownClient clientId) := by
  unfold admitStructuredClientInput
  split
  · exact Or.inl ⟨rfl, by assumption⟩
  · exact Or.inr (Or.inr rfl)
  · exact Or.inr (Or.inl rfl)
  · exact Or.inr (Or.inl rfl)
  · exact Or.inr (Or.inl rfl)

theorem deliver_frame (s : HeadlessServer) (clientId : ℕ) (terminalId : String) :
    ∃ received, s.deliver clientId terminalId = { s with received := received } := by
  unfold deliver
  split_ifs
  · exact ⟨_, rfl⟩
  · exact ⟨s.received, rfl⟩

theorem sound_deliver (h : s.Sound) (clientId : ℕ) (terminalId : String) :
    (s.deliver clientId terminalId).Sound := by
  obtain ⟨received, heq⟩ := deliver_frame s clientId terminalId
  rw [heq]
  exact ⟨⟨h.1.owners, h.1.locks, h.1.terminals_known, h.1.locks_known, h.1.owners_known⟩, h.2⟩

theorem attachedTerminal_eq_some : s.attachedTerminal clientId = some terminalId ↔
      s.modeOf clientId = some (.terminalAttach terminalId) := by
  unfold attachedTerminal
  split
  · rename_i t h
    rw [h]
    simp
  · rename_i h
    simp only [reduceCtorEq, false_iff]
    exact h terminalId

/-- A client that may write and is not attached belongs to the application. -/
theorem app_of_allowsWriteMessages (hdetached : s.attachedTerminal clientId = none)
    (hallows : (s.modeOf clientId).any ClientConnectionMode.allowsWriteMessages = true) :
    ∀ mode, s.modeOf clientId = some mode → mode = .app := by
  intro mode hmode
  rw [hmode] at hallows
  cases mode with
  | app => rfl
  | terminalPending => cases hallows
  | terminalObserve t => cases hallows
  | terminalAttach t =>
    rw [attachedTerminal_eq_some.2 hmode] at hdetached
    cases hdetached

theorem sound_connectClient (h : s.Sound) (hfresh : s.clients.lookup clientId = none) (size : ℕ × ℕ)
    (cellSize : HostCellSize) (directAttachRequested : Bool) :
    (s.connectClient clientId size cellSize directAttachRequested).Sound := by
  have hnone : s.modeOf clientId = none := by rw [modeOf, hfresh]; rfl
  unfold connectClient allocateActivityStamp
  simp only
  split
  · exact h
  set mode : ClientConnectionMode := if directAttachRequested then .terminalPending else .app
    with hmode
  have hmodes (c : ℕ) : ({ s with
      clients := s.clients.insert clientId
        { mode := mode, terminalSize := size, cellSize := cellSize,
          lastActivity := s.nextActivityStamp }
      foregroundClientId :=
        if directAttachRequested then s.foregroundClientId else some clientId
      nextActivityStamp := s.nextActivityStamp + 1 } : HeadlessServer).modeOf c =
      if c = clientId then some mode else s.modeOf c :=
    modeOf_insert s clientId c _
  refine sound_sync ⟨⟨?_, h.1.locks, h.1.terminals_known, h.1.locks_known, h.1.owners_known⟩, ?_⟩
  · intro t c
    rw [hmodes]
    by_cases hc : c = clientId
    · rw [if_pos hc, hc]
      have hnotOwner : s.terminalAttachOwners.lookup t ≠ some clientId := by
        intro howner
        rw [(h.1.owners t clientId).1 howner] at hnone
        cases hnone
      have hnotAttached : some mode ≠ some (.terminalAttach t) := by
        rw [hmode]
        split_ifs <;> simp
      exact iff_of_false hnotOwner hnotAttached
    · rw [if_neg hc]
      exact h.1.owners t c
  · intro c hc
    rw [hmodes]
    by_cases hdirect : directAttachRequested = true
    · simp only [hdirect, if_true] at hc
      rw [if_neg, h.2 c hc]
      rintro rfl
      rw [h.2 c hc] at hnone
      cases hnone
    · simp only [hdirect, Bool.false_eq_true, if_false, Option.some.injEq] at hc
      rw [if_pos hc.symm, hmode, if_neg hdirect]

/-- A client without a target is refused before its size is looked at. -/
theorem sound_resizeClient (h : s.Sound) (hnot : s.modeOf clientId ≠ some .terminalPending)
    (size : ℕ × ℕ) (cellSize : HostCellSize) : (s.resizeClient clientId size cellSize).Sound := by
  have hupdated := sound_updateClient h clientId (f := fun client => client.resized size cellSize)
    fun _ => rfl
  obtain ⟨ha, -⟩ := agrees_updateClient s clientId (f := fun client => client.resized size cellSize)
    fun _ => rfl
  unfold resizeClient
  simp only
  split
  · exact hupdated
  · exact hupdated
  · rename_i happ
    refine sound_promote hupdated fun mode hmode => ?_
    rw [ha.modeOf, happ] at hmode
    exact (Option.some.inj hmode).symm
  · exact absurd (by assumption) hnot
  · rename_i hnone
    refine sound_promote hupdated fun mode hmode => ?_
    rw [ha.modeOf, hnone] at hmode
    cases hmode

theorem sound_pasteClipboard (h : s.Sound)
    (hallows : (s.modeOf clientId).any ClientConnectionMode.allowsWriteMessages = true)
    (routed : Routed) : (s.pasteClientClipboardImagePath clientId routed).Sound := by
  unfold pasteClientClipboardImagePath
  cases hattached : s.attachedTerminal clientId with
  | some terminalId => exact sound_deliver h clientId terminalId
  | none =>
    exact sound_route (sound_promote h (app_of_allowsWriteMessages hattached hallows)) _

/-! ## Steps -/

/-- A client connects under an id that no connected client has. -/
def FreshConnect (s : HeadlessServer) (e : Step) : Prop :=
  ∀ clientId size cellSize direct, e = .event (.clientConnected clientId size cellSize direct) →
    s.clients.lookup clientId = none

theorem sound_handleAdmittedEvent (h : s.Sound) {event : ServerEvent}
    (hfresh : FreshConnect s (.event event))
    (hadmitted : ∀ clientId, pendingRefused event = some clientId →
      s.modeOf clientId ≠ some .terminalPending) : (s.handleAdmittedEvent event).Sound := by
  cases event with
  | clientConnected clientId size cellSize direct =>
    exact sound_connectClient h (hfresh _ _ _ _ rfl) size cellSize direct
  | clientAttachTerminal clientId terminalId takeover => exact sound_attach h _ _ _
  | clientObserveTerminal clientId target resolved => exact sound_observe h _ _ _
  | clientControlTerminal clientId target resolved takeover => exact sound_control h _ _ _ _
  | clientAttachScroll clientId =>
    unfold handleAdmittedEvent
    simp only
    split
    · exact sound_deliver h _ _
    · exact h
  | clientInput clientId routed =>
    unfold handleAdmittedEvent
    simp only
    split
    · exact sound_deliver h _ _
    · rename_i hattached
      split_ifs with hallows
      · exact sound_handleClientInputEvents h (app_of_allowsWriteMessages hattached hallows) routed
      · exact h
  | clientInputPixels clientId valid routed =>
    unfold handleAdmittedEvent
    simp only
    split_ifs with hvalid
    · refine sound_route (sound_promote h fun mode hmode => ?_) _
      obtain ⟨client, hlookup, rfl⟩ := Option.map_eq_some_iff.1 hmode
      rw [hlookup] at hvalid
      simp only [Option.any_some, Bool.and_eq_true, ClientConnection.isFullAppClient,
        beq_iff_eq] at hvalid
      exact hvalid.2.1
    · exact h
  | clientRawInputPending clientId => exact h
  | clientInputEvents clientId routed =>
    unfold handleAdmittedEvent
    simp only
    rcases admitStructured_cases s clientId with ⟨heq, happ⟩ | heq | heq
    · simp only [heq]
      refine sound_handleClientInputEvents h (fun mode hmode => ?_) routed
      rw [happ] at hmode
      exact (Option.some.inj hmode).symm
    · simp only [heq]
      exact h
    · simp only [heq]
      exact h.of_left (left_shutdownClient s clientId)
  | clientPasteRejected clientId structured =>
    unfold handleAdmittedEvent
    simp only
    split_ifs
    · rcases admitStructured_cases s clientId with ⟨heq, -⟩ | heq | heq
      · simp only [heq]
        exact sound_sendToClient h clientId
      · simp only [heq]
        exact h
      · simp only [heq]
        exact h.of_left (left_shutdownClient s clientId)
    · exact sound_sendToClient h clientId
  | clientClipboardImage clientId routed =>
    unfold handleAdmittedEvent
    simp only
    split_ifs with hallows
    · exact sound_pasteClipboard h hallows routed
    · exact h
  | clientResize clientId size cellSize =>
    exact sound_resizeClient h (hadmitted clientId rfl) size cellSize
  | graphicsTransmission clientId => exact h
  | clientDetach clientId =>
    unfold handleAdmittedEvent
    simp only
    split
    · exact h.of_left (left_shutdownClient s clientId)
    · exact h.of_left (left_shutdownClient s clientId)
    · exact h.of_left (left_removeClient s clientId)
  | clientDisconnected clientId => exact h.of_left (left_removeClient s clientId)
  | clientWriterDrained clientId => exact h
  | quitSignal => exact h

/-- An event is let through in the state it found, or its client is told to go. -/
theorem admitPending_cases (s : HeadlessServer) (event : ServerEvent) :
    (s.admitPendingTerminalEvent event = (true, s) ∧ ∀ clientId,
        pendingRefused event = some clientId → s.modeOf clientId ≠ some .terminalPending) ∨
      ∃ clientId, s.admitPendingTerminalEvent event = (false, s.shutdownClient clientId) := by
  unfold admitPendingTerminalEvent
  split
  · rename_i hnone
    refine Or.inl ⟨rfl, fun clientId hclient => ?_⟩
    rw [hnone] at hclient
    cases hclient
  · rename_i clientId hsome
    split_ifs with hpending
    · exact Or.inr ⟨clientId, rfl⟩
    · refine Or.inl ⟨rfl, fun clientId' hclient => ?_⟩
      rw [hsome] at hclient
      cases hclient
      exact fun hmode => hpending (pending_iff.2 hmode)

theorem sound_handleServerEvent (h : s.Sound) {event : ServerEvent}
    (hfresh : FreshConnect s (.event event)) : (s.handleServerEvent event).Sound := by
  unfold handleServerEvent
  split
  · exact h
  · rcases admitPending_cases s event with ⟨heq, hadmitted⟩ | ⟨clientId, heq⟩
    · simp only [heq]
      split
      · exact h
      · exact sound_handleAdmittedEvent h hfresh hadmitted
    · simp only [heq]
      exact h.of_left (left_shutdownClient s clientId)

theorem sound_disconnectAll (h : s.Sound) : s.disconnectAllClientsForHandoff.Sound := by
  have hgone := sound_shutdownClients h (s.clients.entries.map (·.1))
  unfold disconnectAllClientsForHandoff
  refine sound_sync ⟨?_, ?_⟩
  · exact ⟨hgone.1.owners, hgone.1.locks, hgone.1.terminals_known, hgone.1.locks_known,
      hgone.1.owners_known⟩
  · intro c hc
    cases hc

theorem sound_step (h : s.Sound) {e : Step} (hfresh : FreshConnect s e) : (s.step e).Sound := by
  cases e with
  | event event => exact sound_handleServerEvent h hfresh
  | changed change => exact sound_applyChange h change
  | writerGone clientId => exact sound_updateClient h clientId fun _ => rfl
  | pixelsActive clientId active => exact sound_updateClient h clientId fun _ => rfl
  | terminalExited terminalId => exact sound_shutdownClients h _
  | handoff inProgress =>
    cases inProgress with
    | true =>
      refine sound_disconnectAll (s := { s with handoffInProgress := true }) ⟨?_, h.2⟩
      exact ⟨h.1.owners, h.1.locks, h.1.terminals_known, h.1.locks_known, h.1.owners_known⟩
    | false =>
      exact ⟨⟨h.1.owners, h.1.locks, h.1.terminals_known, h.1.locks_known, h.1.owners_known⟩, h.2⟩
  | quit =>
    exact ⟨⟨h.1.owners, h.1.locks, h.1.terminals_known, h.1.locks_known, h.1.owners_known⟩, h.2⟩

theorem sound_start (terminals terminalRuntimes : Finset String) :
    (start terminals terminalRuntimes).Sound := by
  refine ⟨⟨?_, ?_, Finset.Subset.refl _, Finset.empty_subset _, ?_⟩, ?_⟩
  · intro t c
    simp [start, modeOf]
  · intro t _
    simp [start]
  · intro t ht
    simp [start] at ht
  · intro c hc
    cases hc

/-! ## Who writes -/

/-- What a step lets a client in a terminal mode write goes to the terminal it owns. -/
def Writes (s s' : HeadlessServer) : Prop :=
  ∃ written, s'.received = s.received ++ written ∧
    ∀ e ∈ written, s.terminalAttachOwners.lookup e.2 = some e.1

/-- A step that lets nothing through. -/
theorem writes_of_received (h : s'.received = s.received) : Writes s s' :=
  ⟨[], by rw [h, List.append_nil], by simp⟩

theorem writes_deliver (h : s.Owned) (hattached : s.attachedTerminal clientId = some terminalId) :
    Writes s (s.deliver clientId terminalId) := by
  have howner := (h.owners terminalId clientId).2 (attachedTerminal_eq_some.1 hattached)
  unfold deliver
  split_ifs
  · refine ⟨[(clientId, terminalId)], rfl, ?_⟩
    rintro e he
    rw [List.mem_singleton.1 he]
    exact howner
  · exact writes_of_received rfl

theorem received_setMode (s : HeadlessServer) (clientId : ℕ) (mode : ClientConnectionMode) :
    (s.setMode clientId mode).received = s.received := by
  cases hlookup : s.clients.lookup clientId with
  | none =>
    rw [setMode_of_absent hlookup]
    rfl
  | some client => exact (agrees_setMode hlookup mode).received

theorem received_takeTerminal (s : HeadlessServer) (clientId : ℕ) (terminalId : String) :
    (s.takeTerminal clientId terminalId).received = s.received := by
  unfold takeTerminal
  split_ifs
  · rfl
  · exact received_setMode s clientId (.terminalAttach terminalId)

theorem received_attach (s : HeadlessServer) (clientId : ℕ) (terminalId : String)
    (takeover : Bool) :
    (s.attachTerminalClient clientId terminalId takeover).received = s.received := by
  have hrefused := (left_shutdownClient s clientId).received
  unfold attachTerminalClient
  split
  · exact hrefused
  split
  · exact hrefused
  split
  · exact hrefused
  · split
    · rename_i existingOwner _
      split_ifs
      · exact hrefused
      · exact (received_takeTerminal _ clientId terminalId).trans
          (left_shutdownClient s existingOwner).received
      · exact received_takeTerminal s clientId terminalId
    · exact received_takeTerminal s clientId terminalId

theorem received_observe (s : HeadlessServer) (clientId : ℕ) (target : String)
    (resolved : Option String) :
    (s.observeTerminalClient clientId target resolved).received = s.received := by
  unfold observeTerminalClient
  rcases resolve_cases (s := s) clientId target resolved with heq | ⟨terminalId, heq, -⟩
  · rw [heq]
    exact (left_shutdownClient s clientId).received
  · rw [heq]
    exact received_setMode s clientId (.terminalObserve terminalId)

theorem received_control (s : HeadlessServer) (clientId : ℕ) (target : String)
    (resolved : Option String) (takeover : Bool) :
    (s.controlTerminalClient clientId target resolved takeover).received = s.received := by
  unfold controlTerminalClient
  rcases resolve_cases (s := s) clientId target resolved with heq | ⟨terminalId, heq, -⟩
  · rw [heq]
    exact (left_shutdownClient s clientId).received
  · rw [heq]
    exact received_attach s clientId terminalId takeover

theorem received_route (s : HeadlessServer) (changes : List TerminalChange) :
    (s.route changes).received = s.received := by
  unfold route
  induction changes generalizing s with
  | nil => rfl
  | cons change changes ih => exact (ih _).trans (applyChange_frame s change).2.2

theorem received_sendToClient (s : HeadlessServer) (clientId : ℕ) :
    (s.sendToClient clientId).received = s.received := by
  rcases left_sendToClient s clientId with heq | hl
  · rw [heq]
  · exact hl.received

theorem received_shutdownClients (s : HeadlessServer) (clientIds : List ℕ) :
    (clientIds.foldl shutdownClient s).received = s.received := by
  induction clientIds generalizing s with
  | nil => rfl
  | cons clientId clientIds ih => exact (ih _).trans (left_shutdownClient s clientId).received

theorem received_updateClient (s : HeadlessServer) (clientId : ℕ)
    {f : ClientConnection → ClientConnection} (hf : ∀ c, (f c).mode = c.mode) :
    (s.updateClient clientId f).received = s.received :=
  (agrees_updateClient s clientId hf).1.received

theorem received_handleClientInputEvents (s : HeadlessServer) (clientId : ℕ) (routed : Routed) :
    (s.handleClientInputEvents clientId routed).received = s.received := by
  have hpromoted : (if routed.interaction then s.promoteClientToForeground clientId
      else s).received = s.received := by
    split_ifs
    · exact (agrees_promote s clientId).received
    · rfl
  unfold handleClientInputEvents
  generalize (if routed.interaction then s.promoteClientToForeground clientId else s) = s'
    at hpromoted ⊢
  have hsynced : (s'.route routed.changes).syncForegroundClientState.received = s.received :=
    ((agrees_sync _).received.trans (received_route s' routed.changes)).trans hpromoted
  simp only
  split
  · rw [received_updateClient]
    · exact (received_sendToClient _ clientId).trans hsynced
    · exact fun _ => rfl
  · exact hsynced

theorem received_connectClient (s : HeadlessServer) (clientId : ℕ) (size : ℕ × ℕ)
    (cellSize : HostCellSize) (directAttachRequested : Bool) :
    (s.connectClient clientId size cellSize directAttachRequested).received = s.received := by
  unfold connectClient allocateActivityStamp
  simp only
  split
  · rfl
  · exact (agrees_sync _).received

theorem received_resizeClient (s : HeadlessServer) (clientId : ℕ) (size : ℕ × ℕ)
    (cellSize : HostCellSize) :
    (s.resizeClient clientId size cellSize).received = s.received := by
  have hupdated := received_updateClient s clientId
    (f := fun client => client.resized size cellSize) fun _ => rfl
  unfold resizeClient
  simp only
  split
  · exact hupdated
  · exact hupdated
  · exact (agrees_promote _ clientId).received.trans hupdated
  · exact (agrees_promote _ clientId).received.trans hupdated
  · exact (agrees_promote _ clientId).received.trans hupdated

theorem received_admitStructured (s : HeadlessServer) (clientId : ℕ) :
    (s.admitStructuredClientInput clientId).2.received = s.received := by
  rcases admitStructured_cases s clientId with ⟨heq, -⟩ | heq | heq
  · rw [heq]
  · rw [heq]
  · rw [heq]
    exact (left_shutdownClient s clientId).received

/-- Input is let through by the branches that found the client attached, and by no other. -/
theorem writes_handleAdmittedEvent (h : s.Owned) (event : ServerEvent) :
    Writes s (s.handleAdmittedEvent event) := by
  cases event with
  | clientConnected clientId size cellSize direct =>
    exact writes_of_received (received_connectClient s clientId size cellSize direct)
  | clientAttachTerminal clientId terminalId takeover =>
    exact writes_of_received (received_attach s clientId terminalId takeover)
  | clientObserveTerminal clientId target resolved =>
    exact writes_of_received (received_observe s clientId target resolved)
  | clientControlTerminal clientId target resolved takeover =>
    exact writes_of_received (received_control s clientId target resolved takeover)
  | clientAttachScroll clientId =>
    unfold handleAdmittedEvent
    simp only
    split
    · rename_i hattached
      exact writes_deliver h hattached
    · exact writes_of_received rfl
  | clientInput clientId routed =>
    unfold handleAdmittedEvent
    simp only
    split
    · rename_i hattached
      exact writes_deliver h hattached
    · split_ifs
      · exact writes_of_received (received_handleClientInputEvents s clientId routed)
      · exact writes_of_received rfl
  | clientInputPixels clientId valid routed =>
    unfold handleAdmittedEvent
    simp only
    split_ifs
    · exact writes_of_received ((received_route _ _).trans (agrees_promote s clientId).received)
    · exact writes_of_received rfl
  | clientInputEvents clientId routed =>
    have hstays := received_admitStructured s clientId
    unfold handleAdmittedEvent
    simp only
    split
    · rename_i heq
      rw [heq] at hstays
      exact writes_of_received ((received_handleClientInputEvents _ clientId routed).trans hstays)
    · rename_i heq
      rw [heq] at hstays
      exact writes_of_received hstays
  | clientPasteRejected clientId structured =>
    have hstays := received_admitStructured s clientId
    unfold handleAdmittedEvent
    simp only
    split_ifs
    · split
      · rename_i heq
        rw [heq] at hstays
        exact writes_of_received ((received_sendToClient _ clientId).trans hstays)
      · rename_i heq
        rw [heq] at hstays
        exact writes_of_received hstays
    · exact writes_of_received (received_sendToClient s clientId)
  | clientClipboardImage clientId routed =>
    unfold handleAdmittedEvent pasteClientClipboardImagePath
    simp only
    split_ifs
    · split
      · rename_i hattached
        exact writes_deliver h hattached
      · exact writes_of_received ((received_route _ _).trans (agrees_promote s clientId).received)
    · exact writes_of_received rfl
  | clientResize clientId size cellSize =>
    exact writes_of_received (received_resizeClient s clientId size cellSize)
  | clientDetach clientId =>
    unfold handleAdmittedEvent
    simp only
    split
    · exact writes_of_received (left_shutdownClient s clientId).received
    · exact writes_of_received (left_shutdownClient s clientId).received
    · exact writes_of_received (left_removeClient s clientId).received
  | clientDisconnected clientId =>
    exact writes_of_received (left_removeClient s clientId).received
  | clientRawInputPending | graphicsTransmission | clientWriterDrained | quitSignal =>
    exact writes_of_received rfl

theorem writes_handleServerEvent (h : s.Owned) (event : ServerEvent) :
    Writes s (s.handleServerEvent event) := by
  unfold handleServerEvent
  split
  · exact writes_of_received rfl
  · rcases admitPending_cases s event with ⟨heq, -⟩ | ⟨clientId, heq⟩
    · simp only [heq]
      split
      · exact writes_of_received rfl
      · exact writes_handleAdmittedEvent h event
    · simp only [heq]
      exact writes_of_received (left_shutdownClient s clientId).received

theorem writes_step (h : s.Owned) (e : Step) : Writes s (s.step e) := by
  cases e with
  | event event => exact writes_handleServerEvent h event
  | changed change => exact writes_of_received (applyChange_frame s change).2.2
  | writerGone clientId =>
    exact writes_of_received (received_updateClient s clientId fun _ => rfl)
  | pixelsActive clientId active =>
    exact writes_of_received (received_updateClient s clientId fun _ => rfl)
  | terminalExited terminalId => exact writes_of_received (received_shutdownClients s _)
  | handoff inProgress =>
    cases inProgress with
    | true =>
      refine writes_of_received ((agrees_sync _).received.trans ?_)
      exact received_shutdownClients { s with handoffInProgress := true } _
    | false => exact writes_of_received rfl
  | quit => exact writes_of_received rfl

/-! ## Runs -/

theorem sound_run {terminals terminalRuntimes : Finset String} {steps : List Step}
    (hfresh : Along step FreshConnect (start terminals terminalRuntimes) steps) :
    (run step (start terminals terminalRuntimes) steps).Sound :=
  run_induction (I := fun _ s => s.Sound) (sound_start terminals terminalRuntimes)
    (fun _ _ _ h hfresh => sound_step h hfresh) steps hfresh

/-- After any run in which clients connect under fresh ids : a terminal is owned by a client exactly
when that client is connected and attached to it, so two clients are never attached to one terminal;
of the terminals that exist the owned ones are those with a resize lock; the foreground client is a
connected client of the application; and whatever comes next, what a client in a terminal mode
writes reaches only the terminal it owns. -/
theorem one_writer (terminals terminalRuntimes : Finset String) (steps : List Step)
    (hfresh : Along step FreshConnect (start terminals terminalRuntimes) steps) :
    let s := run step (start terminals terminalRuntimes) steps
    (∀ terminalId clientId, s.terminalAttachOwners.lookup terminalId = some clientId ↔
        s.modeOf clientId = some (.terminalAttach terminalId)) ∧
      (∀ terminalId clientId clientId', s.modeOf clientId = some (.terminalAttach terminalId) →
        s.modeOf clientId' = some (.terminalAttach terminalId) → clientId = clientId') ∧
      (∀ terminalId ∈ s.terminals, terminalId ∈ s.directAttachResizeLocks ↔
        ∃ clientId, s.terminalAttachOwners.lookup terminalId = some clientId) ∧
      (s.foregroundClientId = none ∨ ∃ clientId, s.foregroundClientId = some clientId ∧
        s.modeOf clientId = some .app) ∧
      ∀ e, ∃ written, (s.step e).received = s.received ++ written ∧
        ∀ w ∈ written, s.terminalAttachOwners.lookup w.2 = some w.1 := by
  intro s
  obtain ⟨howned, hforeground⟩ : s.Sound := sound_run hfresh
  refine ⟨howned.owners, ?_, ?_, ?_, fun e => writes_step howned e⟩
  · intro t c c' hc hc'
    have howner := (howned.owners t c).2 hc
    rw [(howned.owners t c').2 hc'] at howner
    exact (Option.some.inj howner).symm
  · intro t ht
    rw [howned.locks t ht, ← AList.lookup_isSome, Option.isSome_iff_exists]
  · cases hf : s.foregroundClientId with
    | none => exact Or.inl rfl
    | some c => exact Or.inr ⟨c, rfl, hforeground c hf⟩

/-- A client takes a terminal over from another one, and writes to it. -/
theorem one_writer_takeover :
    let steps : List Step :=
      [.event (.clientConnected 1 (80, 24) {} true), .event (.clientAttachTerminal 1 "t" false),
        .event (.clientConnected 2 (80, 24) {} true), .event (.clientAttachTerminal 2 "t" true),
        .event (.clientInput 2 {})]
    let s := run step (start {"t"} {"t"}) steps
    s.received = [(2, "t")] ∧
      ((∀ terminalId clientId, s.terminalAttachOwners.lookup terminalId = some clientId ↔
          s.modeOf clientId = some (.terminalAttach terminalId)) ∧
        (∀ terminalId clientId clientId', s.modeOf clientId = some (.terminalAttach terminalId) →
          s.modeOf clientId' = some (.terminalAttach terminalId) → clientId = clientId') ∧
        (∀ terminalId ∈ s.terminals, terminalId ∈ s.directAttachResizeLocks ↔
          ∃ clientId, s.terminalAttachOwners.lookup terminalId = some clientId) ∧
        (s.foregroundClientId = none ∨ ∃ clientId, s.foregroundClientId = some clientId ∧
          s.modeOf clientId = some .app) ∧
        ∀ e, ∃ written, (s.step e).received = s.received ++ written ∧
          ∀ w ∈ written, s.terminalAttachOwners.lookup w.2 = some w.1) := by
  refine ⟨by decide +kernel, one_writer {"t"} {"t"} _ ?_⟩
  simp only [Along, FreshConnect, Step.event.injEq, ServerEvent.clientConnected.injEq, reduceCtorEq,
    false_implies, implies_true, and_true, true_and]
  refine ⟨?_, ?_⟩
  · rintro _ _ _ _ ⟨rfl, -⟩
    decide +kernel
  · rintro _ _ _ _ ⟨rfl, -⟩
    decide +kernel

end HeadlessServer

end Zynk
