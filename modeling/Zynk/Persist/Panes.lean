import Mathlib.Data.List.Dedup
import Zynk.Persist.Tasks

/-!
# Restoring pane after pane

What a pane is restored with (`RestoredAs`) and when it is restored at all (`PaneTask.Starts`). A
pane depends on the panes before it in two ways : a runtime that was imported is there for one pane
only, and a session that is resumed is not resumed again. `AfterPanes` says what is left of both.

A session that two leaves carry is known to be conflicting before the loop starts
(`mem_conflicting`, `conflictsKnown_sessionTasks`), so that no pane meets a reserved session : it
is anchored with its own session, or with none if that is conflicting (`PaneTask.anchor`).
-/

namespace Zynk

/-! ## Keys -/

variable {s : PersistedAgentSession}

/-- What `persisted_agent_session_from_snapshot` accepts can be resumed. -/
theorem canonicalResumeArgv_of_snapshot {session : PaneAgentSessionSnapshot}
    (h : persistedAgentSessionFromSnapshot session = some s) :
    s.source = session.source ∧ s.agent = session.agent ∧
      isOfficialAgentSource s.source s.agent = true ∧
      (canonicalResumeArgv s.source s.agent s.sessionRef).isSome = true := by
  obtain ⟨source, agent, kind, value⟩ := session
  simp only [persistedAgentSessionFromSnapshot, sessionRefFromSnapshot] at h
  by_cases hofficial : isOfficialAgentSource source agent = true
  swap
  · rw [if_pos (by simpa using hofficial)] at h
    cases h
  rw [if_neg (by simp [hofficial])] at h
  obtain ⟨sessionRef, href, rfl⟩ := Option.map_eq_some_iff.1 h
  refine ⟨rfl, rfl, hofficial, ?_⟩
  have hkind : sessionRef.kind = .id ∨ (agent = "pi" ∨ agent = "omp") := by
    rcases kind with _ | _
    · simp only [AgentSessionRef.make] at href
      split_ifs at href
      cases href
      exact Or.inl rfl
    · simp only [AgentSessionRef.make] at href
      by_cases hagent : agent = "pi" ∨ agent = "omp"
      · exact Or.inr hagent
      · rw [if_neg hagent] at href
        cases href
  obtain ⟨kind', value'⟩ := sessionRef
  simp only [isOfficialAgentSource, List.contains_iff_mem, List.mem_cons, Prod.mk.injEq,
    List.not_mem_nil, or_false] at hofficial
  rcases hofficial with ⟨rfl, rfl⟩ | ⟨rfl, rfl⟩ | ⟨rfl, rfl⟩ | ⟨rfl, rfl⟩ | ⟨rfl, rfl⟩ | ⟨rfl, rfl⟩ |
    ⟨rfl, rfl⟩ | ⟨rfl, rfl⟩ | ⟨rfl, rfl⟩ | ⟨rfl, rfl⟩ | ⟨rfl, rfl⟩ | ⟨rfl, rfl⟩ | ⟨rfl, rfl⟩ |
    ⟨rfl, rfl⟩ | ⟨rfl, rfl⟩ | ⟨rfl, rfl⟩ | ⟨rfl, rfl⟩ <;>
  first
  | rfl
  | (rcases hkind with hkind | hkind
     · subst hkind
       rfl
     · simp at hkind)

/-- The key tells official sessions apart. -/
theorem PersistedAgentSession.key_inj {s' : PersistedAgentSession}
    (h : isOfficialAgentSource s.source s.agent = true)
    (h' : isOfficialAgentSource s'.source s'.agent = true) (hkey : s.key = s'.key) : s = s' := by
  obtain ⟨source, agent, sessionRef⟩ := s
  obtain ⟨source', agent', sessionRef'⟩ := s'
  obtain ⟨rfl, rfl, rfl⟩ := dedupeKey_inj h h' hkey
  rfl

/-! ## Conflicts -/

theorem SessionSnapshot.leafSessions_eq (snapshot : SessionSnapshot) :
    snapshot.leafSessions = snapshot.carried.filterMap id := by
  simp [leafSessions, carried, List.filterMap_flatMap, List.filterMap_map]

theorem SessionSnapshot.official_of_carried {snapshot : SessionSnapshot}
    (h : some s ∈ snapshot.carried) : isOfficialAgentSource s.source s.agent = true := by
  simp only [carried, List.mem_flatMap, List.mem_map] at h
  obtain ⟨workspace, -, tab, -, old, -, hsession⟩ := h
  obtain ⟨session, -, hsession⟩ := Option.bind_eq_some_iff.1 hsession
  exact (canonicalResumeArgv_of_snapshot hsession).2.2.1

theorem mem_conflictingSnapshotAgentSessions {snapshot : SessionSnapshot} {key : String} :
    key ∈ conflictingSnapshotAgentSessions snapshot ↔
      2 ≤ snapshot.carried.countP fun c => c.any (·.key == key) := by
  have hcount : (snapshot.leafSessions.map (·.key)).count key =
      snapshot.carried.countP fun c => c.any (·.key == key) := by
    rw [SessionSnapshot.leafSessions_eq, List.count, List.countP_map, List.countP_filterMap]
    refine List.countP_congr fun c _ => ?_
    rcases c with _ | s <;> simp
  simp only [conflictingSnapshotAgentSessions, List.mem_filter, List.mem_dedup, decide_eq_true_eq]
  rw [← hcount]
  exact ⟨fun h => h.2, fun h => ⟨List.count_pos_iff.1 (Nat.lt_of_lt_of_le Nat.zero_lt_two h), h⟩⟩

/-- The pass over the snapshot finds the sessions that two leaves carry. -/
theorem mem_conflicting {snapshot : SessionSnapshot} (hs : some s ∈ snapshot.carried) :
    s.key ∈ conflictingSnapshotAgentSessions snapshot ↔ 2 ≤ snapshot.carried.count (some s) := by
  rw [mem_conflictingSnapshotAgentSessions, List.count]
  have hcongr : snapshot.carried.countP (fun c => c.any (·.key == s.key)) =
      snapshot.carried.countP (· == some s) := by
    refine List.countP_congr fun c hc => ?_
    rcases c with _ | s'
    · simp
    · simp only [Option.any_some, beq_iff_eq, Option.some.injEq]
      refine ⟨fun hkey => ?_, fun h => by rw [h]⟩
      exact PersistedAgentSession.key_inj (SessionSnapshot.official_of_carried hc)
        (SessionSnapshot.official_of_carried hs) hkey
  rw [hcongr]

/-- Two panes with one session are known to conflict. -/
def ConflictsKnown (conflicting : List String) (tasks : List PaneTask) : Prop :=
  tasks.Pairwise fun task task' => ∀ s s', task.session = some s → task'.session = some s' →
    s.key = s'.key → s'.key ∈ conflicting

theorem conflictsKnown_sessionTasks (snapshot : SessionSnapshot)
    (history : Option SessionHistorySnapshot) (ids : IdCounters) :
    ConflictsKnown (conflictingSnapshotAgentSessions snapshot)
      (sessionTasks history snapshot.workspaces 0 ids).flatten.flatten := by
  have hanchored : Anchored _ snapshot.carried :=
    anchored_sessionTasks history snapshot.workspaces 0 ids
  generalize (sessionTasks history snapshot.workspaces 0 ids).flatten.flatten = tasks at hanchored ⊢
  refine List.pairwise_iff_getElem.2 fun i j hi hj hij s s' hs hs' hkey => ?_
  have hcarried : snapshot.carried[i]? = some (some s) := hanchored.sound i s (by simp [hi, hs])
  have hcarried' : snapshot.carried[j]? = some (some s') := hanchored.sound j s' (by simp [hj, hs'])
  rw [mem_conflictingSnapshotAgentSessions]
  exact two_le_countP hij hcarried hcarried' (by simp [hkey]) (by simp)

/-! ## The session of a terminal -/

/-- The session that the hook identity of a retirement snapshot names. -/
def HookRetirementSnapshot.identitySession (retirement : HookRetirementSnapshot) :
    Option PersistedAgentSession :=
  retirement.hookIdentity.bind fun identity => identity.sessionRef.map fun sessionRef =>
    { source := identity.source, agent := identity.agentLabel, sessionRef }

/-- The session that a saved pane brings along in its retirement records. -/
def PaneTask.retiredSession (task : PaneTask) : Option PersistedAgentSession :=
  (task.saved.bind (·.hookRetirement)).bind (·.identitySession)

theorem foldl_persistedAgentSession {α : Type} {f : TerminalState → α → TerminalState}
    (hf : ∀ s a, (f s a).persistedAgentSession = s.persistedAgentSession) (l : List α)
    (s : TerminalState) : (l.foldl f s).persistedAgentSession = s.persistedAgentSession := by
  induction l generalizing s with
  | nil => rfl
  | cons a l ih => rw [List.foldl_cons, ih, hf]

/-- An imported identity fills the session of a pane that has none. -/
theorem restoreHookRetirement_persistedAgentSession (oldest : ℤ) (s : TerminalState)
    (retirement : HookRetirementSnapshot) (now : ℤ) :
    (s.restoreHookRetirement oldest retirement now).persistedAgentSession =
      s.persistedAgentSession.or retirement.identitySession := by
  have hsuppressed : ∀ s suppressed, (TerminalState.restoreSuppressed oldest now s
      suppressed).persistedAgentSession = s.persistedAgentSession := by
    intro s suppressed
    unfold TerminalState.restoreSuppressed
    rcases suppressed.lastLossAgeMs with _ | ageMs <;> rfl
  have hstale : ∀ s stale, (TerminalState.restoreStale oldest now s
      stale).persistedAgentSession = s.persistedAgentSession := fun _ _ => rfl
  unfold TerminalState.restoreHookRetirement HookRetirementSnapshot.identitySession
  rcases retirement.unansweredExit with _ | unanswered <;>
    rcases retirement.hookIdentity with _ | identity <;>
    simp only [Option.elim_none, Option.elim_some, Option.bind_none, Option.bind_some,
      Option.or_none, TerminalState.restoreHookIdentity, foldl_persistedAgentSession hstale,
      foldl_persistedAgentSession hsuppressed, TerminalState.advanceSessionOwnerEpoch]

section

variable (world : RestoreWorld) (mode : RestoreMode) (task : PaneTask)
  (startup : PaneRestoreStartup) (terminalId : TerminalId)

/-- What a terminal is anchored with : the session of its pane, else, in a handoff, that of its
imported identity. -/
theorem anchorTerminal_spec (terminal : Terminal) :
    (anchorTerminal world mode task startup terminal).id = terminal.id ∧
      (anchorTerminal world mode task startup terminal).pendingAgentResumePlan =
        terminal.pendingAgentResumePlan ∧
      (anchorTerminal world mode task startup terminal).state.persistedAgentSession =
        ((restoredTerminalAgentSession (task.saved.bind (·.agentSession))
          startup.duplicateAgentSession).or terminal.state.persistedAgentSession).or
            (if mode.handoff then task.retiredSession else none) := by
  unfold anchorTerminal
  generalize restoredTerminalAgentSession (task.saved.bind (·.agentSession))
    startup.duplicateAgentSession = session
  generalize startup.restorePlan.bind (fun plan => parseAgentLabel plan.agent) = agent
  unfold Terminal.applyHandoffHookRetirement PaneTask.retiredSession
  generalize task.saved.bind (·.hookRetirement) = retirement
  rcases mode with ⟨resumeAgents, _ | _⟩
  · rcases agent with _ | agent <;> rcases session with _ | session <;>
      simp [TerminalState.seedRestoredAgentPresentation, TerminalState.setPersistedAgentSession,
        TerminalState.advanceSessionOwnerEpoch]
  · rcases retirement with _ | retirement <;> rcases agent with _ | agent <;>
      rcases session with _ | session <;>
      simp [TerminalState.seedRestoredAgentPresentation, TerminalState.setPersistedAgentSession,
        TerminalState.requireImportedHookIdentityConfirmation,
        restoreHookRetirement_persistedAgentSession, TerminalState.advanceSessionOwnerEpoch]

/-- Labels and names leave the rest of a new terminal. -/
theorem deferredTerminal_spec (plan : AgentResumePlan) :
    (deferredTerminal world mode task startup plan terminalId).id = terminalId ∧
      (deferredTerminal world mode task startup plan terminalId).pendingAgentResumePlan = some plan ∧
      (deferredTerminal world mode task startup plan terminalId).state.persistedAgentSession =
        (restoredTerminalAgentSession (task.saved.bind (·.agentSession))
          startup.duplicateAgentSession).or (if mode.handoff then task.retiredSession else none) := by
  have hanchor := anchorTerminal_spec world mode task startup
  simp only [deferredTerminal, fun t => (hanchor t).1, fun t => (hanchor t).2.1,
    fun t => (hanchor t).2.2]
  rcases task.saved.bind (·.label) with _ | label <;>
    rcases task.saved.bind (·.agentName) with _ | name <;>
    rcases savedManagedAgent task.saved with _ | kind <;>
    exact ⟨rfl, rfl, congrArg (Option.or · _) Option.or_none⟩

theorem startedTerminal_spec (wasImported : Bool) :
    (startedTerminal world mode task startup wasImported terminalId).id = terminalId ∧
      (startedTerminal world mode task startup wasImported terminalId).pendingAgentResumePlan = none ∧
      (startedTerminal world mode task startup wasImported terminalId).state.persistedAgentSession =
        (restoredTerminalAgentSession (task.saved.bind (·.agentSession))
          startup.duplicateAgentSession).or (if mode.handoff then task.retiredSession else none) := by
  have hanchor := anchorTerminal_spec world mode task startup
  simp only [startedTerminal, fun t => (hanchor t).1, fun t => (hanchor t).2.1,
    fun t => (hanchor t).2.2]
  rcases task.saved.bind (·.label) with _ | label <;>
    rcases task.saved.bind (·.agentName) with _ | name <;>
    rcases savedManagedAgent task.saved with _ | kind <;> rcases wasImported with _ | _ <;>
    exact ⟨rfl, rfl, congrArg (Option.or · _) Option.or_none⟩

end

/-! ## One pane -/

/-- The session a pane is anchored with. -/
def PaneTask.anchor (task : PaneTask) (conflicting : List String) : Option PersistedAgentSession :=
  task.session.filter fun s => !conflicting.contains s.key

theorem PaneTask.anchor_eq_some {task : PaneTask} {conflicting : List String} :
    task.anchor conflicting = some s ↔ task.session = some s ∧ s.key ∉ conflicting := by
  simp [PaneTask.anchor, Option.filter_eq_some_iff]

/-- Every session of a snapshot has a plan, under its key. -/
theorem restorePlan_dedupeKey (session : Option PaneAgentSessionSnapshot) (enabled : Bool)
    (originalArgv : Option (List String)) :
    ((session.bind fun session => restorePlanForSnapshot session enabled originalArgv).map
        (·.dedupeKey)) =
      if enabled then (session.bind persistedAgentSessionFromSnapshot).map (·.key) else none := by
  rcases session with _ | session
  · simp
  rcases enabled with _ | _
  · simp [restorePlanForSnapshot]
  rcases hpersisted : persistedAgentSessionFromSnapshot session with _ | s
  · simp [restorePlanForSnapshot, hpersisted]
  obtain ⟨hsource, hagent, hofficial, hargv⟩ := canonicalResumeArgv_of_snapshot hpersisted
  obtain ⟨argv, hargv⟩ := Option.isSome_iff_exists.1 hargv
  simp [restorePlanForSnapshot, hpersisted, plan, ← hsource, ← hagent, hofficial, hargv,
    PersistedAgentSession.key]

/-- A pane whose session is not reserved already starts with its anchor. -/
theorem paneRestoreStartup_spec {task : PaneTask} {enabled : Bool}
    {resumed conflicting : List String}
    (hfresh : ∀ s, task.anchor conflicting = some s → s.key ∉ resumed)
    {startup : PaneRestoreStartup} {resumed' : List String}
    (h : paneRestoreStartup (task.saved.bind (·.agentSession)) task.history enabled resumed
      conflicting (task.saved.bind (·.launchArgv)) = (startup, resumed')) :
    startup.restorePlan.map (·.dedupeKey) =
        (if enabled then (task.anchor conflicting).map (·.key) else none) ∧
      restoredTerminalAgentSession (task.saved.bind (·.agentSession))
        startup.duplicateAgentSession = task.anchor conflicting ∧
      ∀ key ∈ resumed', key ∈ resumed ∨ (task.anchor conflicting).map (·.key) = some key := by
  have hplan := restorePlan_dedupeKey (task.saved.bind (·.agentSession)) enabled
    (task.saved.bind (·.launchArgv))
  unfold paneRestoreStartup at h
  unfold restoredTerminalAgentSession
  unfold PaneTask.anchor PaneTask.session at *
  generalize (task.saved.bind (·.agentSession)).bind persistedAgentSessionFromSnapshot = persisted
    at *
  generalize (task.saved.bind (·.agentSession)).bind (fun session =>
    restorePlanForSnapshot session enabled (task.saved.bind (·.launchArgv))) = restorePlan at *
  rcases persisted with _ | s
  · rw [Option.map_none, ite_self, Option.map_eq_none_iff] at hplan
    subst hplan
    cases h
    simp
  by_cases hconflict : conflicting.contains s.key = true
  · rw [if_pos (by simpa using hconflict)] at h
    cases h
    have hmem : s.key ∈ conflicting := by simpa using hconflict
    simp [Option.filter, hmem]
  have hmem : s.key ∉ conflicting := by simpa using hconflict
  rw [if_neg (by simpa using hconflict)] at h
  have hanchor : (some s).filter (fun s => !conflicting.contains s.key) = some s := by
    simp [Option.filter, hmem]
  rw [hanchor] at hfresh ⊢
  rcases restorePlan with _ | plan
  · cases h
    exact ⟨hplan, rfl, fun key hkey => Or.inl hkey⟩
  rcases enabled with _ | _
  · cases hplan
  have hkey : plan.dedupeKey = s.key := by simpa using hplan
  have hnew : resumed.contains plan.dedupeKey = false := by simpa [hkey] using hfresh s rfl
  simp only [hnew, Bool.false_eq_true, if_false] at h
  cases h
  refine ⟨hplan, rfl, fun key hmem => ?_⟩
  rcases List.mem_cons.1 hmem with rfl | hmem
  · exact Or.inr (congrArg some hkey.symm)
  · exact Or.inl hmem

/-- What is left after the panes of `pre` : an imported runtime is there unless one of them took
it, and what is reserved are sessions of them. -/
structure AfterPanes (imports : Assoc ℕ ImportedHandoffRuntime) (pre : List PaneTask)
    (st : RestoreState) : Prop where
  imported : ∀ old, st.importedPanes.lookup old =
    if some old ∈ pre.map (·.oldId) then none else imports.lookup old
  resumed : ∀ key ∈ st.resumedSessions, ∃ task ∈ pre, ∃ s, task.session = some s ∧ s.key = key

/-- A runtime was imported for the pane, and no pane of `pre` takes it. -/
def PaneTask.Imports (imports : Assoc ℕ ImportedHandoffRuntime) (pre : List PaneTask)
    (task : PaneTask) : Prop :=
  ∃ old, task.oldId = some old ∧ old ∈ imports ∧ some old ∉ pre.map (·.oldId)

/-- A pane that is restored after the panes of `pre`, if no import fails : a runtime was imported
for it, it has a session to resume later, or a shell starts. -/
def PaneTask.Starts (world : RestoreWorld) (mode : RestoreMode) (conflicting : List String)
    (imports : Assoc ℕ ImportedHandoffRuntime) (pre : List PaneTask) (task : PaneTask) : Prop :=
  task.Imports imports pre ∨
    (mode.resumeAgents = true ∧ (task.anchor conflicting).isSome = true) ∨
    world.spawnOk task.id = true

/-- A pane, as it is restored with the terminal `terminalId`. -/
structure RestoredAs (world : RestoreWorld) (mode : RestoreMode) (conflicting : List String)
    (task : PaneTask) (terminalId : ℕ) (pane : RestoredPane) : Prop where
  id : pane.terminal.id = ⟨terminalId⟩
  persisted : pane.terminal.state.persistedAgentSession =
    (task.anchor conflicting).or (if mode.handoff then task.retiredSession else none)
  pending : ∀ plan, pane.terminal.pendingAgentResumePlan = some plan →
    ∃ s, task.anchor conflicting = some s ∧ plan.dedupeKey = s.key

section

variable {world : RestoreWorld} {mode : RestoreMode} {conflicting : List String}
  {imports : Assoc ℕ ImportedHandoffRuntime} {pre : List PaneTask} {task : PaneTask}
  {st : RestoreState}

theorem AfterPanes.imports_iff (hst : AfterPanes imports pre st) :
    (task.oldId.bind st.importedPanes.lookup).isSome = true ↔ task.Imports imports pre := by
  unfold PaneTask.Imports
  rcases task.oldId with _ | old
  · simp
  · rw [Option.bind_some, hst.imported]
    by_cases hmem : some old ∈ pre.map (·.oldId)
    · rw [if_pos hmem]
      refine ⟨fun h => absurd h (by simp), ?_⟩
      rintro ⟨old', heq, -, hnot⟩
      cases heq
      exact absurd hmem hnot
    · rw [if_neg hmem, AList.lookup_isSome]
      refine ⟨fun h => ⟨old, rfl, h, hmem⟩, ?_⟩
      rintro ⟨old', heq, h, -⟩
      cases heq
      exact h

/-- The state after one more pane. -/
theorem AfterPanes.snoc (hst : AfterPanes imports pre st) {st' : RestoreState}
    (himported : st'.importedPanes = task.oldId.elim st.importedPanes st.importedPanes.erase)
    (hresumed : ∀ key ∈ st'.resumedSessions,
      key ∈ st.resumedSessions ∨ (task.anchor conflicting).map (·.key) = some key) :
    AfterPanes imports (pre ++ [task]) st' where
  imported old := by
    have hold := hst.imported old
    rw [himported, List.map_append, List.map_singleton]
    generalize pre.map (·.oldId) = taken at hold ⊢
    rcases task.oldId with _ | old'
    · simp [hold]
    · rw [Option.elim_some]
      by_cases heq : old = old'
      · subst heq
        simp
      · rw [AList.lookup_erase_ne heq, hold]
        simp [heq]
  resumed key hkey := by
    rcases hresumed key hkey with hkey | hkey
    · obtain ⟨task', htask', hsession⟩ := hst.resumed key hkey
      exact ⟨task', List.mem_append_left _ htask', hsession⟩
    · obtain ⟨s, hanchor, rfl⟩ := Option.map_eq_some_iff.1 hkey
      exact ⟨task, by simp, s, (PaneTask.anchor_eq_some.1 hanchor).1, rfl⟩

/-- One pane. An import that fails is counted. -/
theorem restorePane_spec (hst : AfterPanes imports pre st)
    (hknown : ∀ task' ∈ pre, ∀ s s', task'.session = some s → task.session = some s' →
      s.key = s'.key → s'.key ∈ conflicting)
    {pane : Option RestoredPane} {st' : RestoreState}
    (h : restorePane world mode conflicting task st = (pane, st')) :
    AfterPanes imports (pre ++ [task]) st' ∧ st.failedImports ≤ st'.failedImports ∧
      (¬ task.Imports imports pre → st'.failedImports = st.failedImports) ∧
      (st'.failedImports = st.failedImports →
        (pane.isSome = true ↔ task.Starts world mode conflicting imports pre)) ∧
      st'.nextTerminalId = st.nextTerminalId + pane.elim 0 (fun _ => 1) ∧
      ∀ p, pane = some p → RestoredAs world mode conflicting task st.nextTerminalId p := by
  -- No pane before reserved the session.
  have hfresh : ∀ s, task.anchor conflicting = some s → s.key ∉ st.resumedSessions := by
    intro s hs hmem
    obtain ⟨hsession, hnot⟩ := PaneTask.anchor_eq_some.1 hs
    obtain ⟨task', htask', s', hs', hkey⟩ := hst.resumed _ hmem
    exact hnot (hknown task' htask' s' s hs' hsession hkey)
  have himports := @AfterPanes.imports_iff imports pre task st hst
  rcases hstartup : paneRestoreStartup (task.saved.bind (·.agentSession)) task.history
    mode.resumeAgents st.resumedSessions conflicting (task.saved.bind (·.launchArgv)) with
    ⟨startup, resumed'⟩
  obtain ⟨hplan, hanchor, hresumed⟩ := paneRestoreStartup_spec hfresh hstartup
  have htake : (task.oldId.elim { st with resumedSessions := resumed' } fun oldId =>
      { st with
        resumedSessions := resumed'
        importedPanes := st.importedPanes.erase oldId }) =
      { st with
        resumedSessions := resumed'
        importedPanes := task.oldId.elim st.importedPanes st.importedPanes.erase } := by
    rcases task.oldId with _ | old <;> rfl
  simp only [restorePane, hstartup, htake] at h
  have hdeferred := deferredTerminal_spec world mode task startup ⟨st.nextTerminalId⟩
  have hstarted := startedTerminal_spec world mode task startup ⟨st.nextTerminalId⟩
  rw [hanchor] at hdeferred hstarted
  have hsnoc {st' : RestoreState}
      (himported : st'.importedPanes = task.oldId.elim st.importedPanes st.importedPanes.erase)
      (hsubset : ∀ key ∈ st'.resumedSessions, key ∈ resumed') :
      AfterPanes imports (pre ++ [task]) st' :=
    hst.snoc himported fun key hkey => hresumed key (hsubset key hkey)
  have hpending : ∀ plan, startup.restorePlan = some plan →
      mode.resumeAgents = true ∧ ∃ s, task.anchor conflicting = some s ∧ plan.dedupeKey = s.key := by
    intro plan hsome
    rw [hsome, Option.map_some] at hplan
    split_ifs at hplan with hresume
    obtain ⟨s, hs, hkey⟩ := Option.map_eq_some_iff.1 hplan.symm
    exact ⟨hresume, s, hs, hkey.symm⟩
  have hunplanned : startup.restorePlan = none →
      ¬ (mode.resumeAgents = true ∧ (task.anchor conflicting).isSome = true) := by
    rintro hnone ⟨hresume, hsome⟩
    rw [hnone, Option.map_none, if_pos hresume, eq_comm, Option.map_eq_none_iff] at hplan
    rw [hplan] at hsome
    cases hsome
  generalize task.oldId.bind st.importedPanes.lookup = imported at h himports
  split at h
  · rename_i plan hsome
    obtain ⟨hresume, s, hs, hkey⟩ := hpending plan hsome
    cases h
    refine ⟨hsnoc rfl fun _ h => h, le_refl _, fun _ => rfl, fun _ => ?_, rfl, ?_⟩
    · exact iff_of_true rfl (Or.inr (Or.inl ⟨hresume, by rw [hs]; rfl⟩))
    · rintro p ⟨⟩
      refine ⟨(hdeferred plan).1, (hdeferred plan).2.2, ?_⟩
      intro plan' hplan'
      cases (hdeferred plan).2.1.symm.trans hplan'
      exact ⟨s, hs, hkey⟩
  · rename_i hnone
    have hnot : ¬ task.Imports imports pre := fun h => by simpa using himports.2 h
    split_ifs at h with hspawn
    · cases h
      refine ⟨hsnoc rfl fun _ h => h, le_refl _, fun _ => rfl, fun _ => ?_, rfl, ?_⟩
      · exact iff_of_true rfl (Or.inr (Or.inr hspawn))
      · rintro p ⟨⟩
        refine ⟨(hstarted false).1, (hstarted false).2.2, ?_⟩
        intro plan hplan
        cases (hstarted false).2.1.symm.trans hplan
    · cases h
      refine ⟨hsnoc rfl fun _ h => h, le_refl _, fun _ => rfl, fun _ => ?_, rfl, fun _ h => by cases h⟩
      exact iff_of_false (by simp) (by rintro (h | h | h); exacts [hnot h, hunplanned hnone h, hspawn h])
  · split_ifs at h with himport
    · cases h
      refine ⟨hsnoc rfl fun _ h => h, le_refl _, fun _ => rfl, fun _ => ?_, rfl, ?_⟩
      · exact iff_of_true rfl (Or.inl (himports.1 rfl))
      · rintro p ⟨⟩
        refine ⟨(hstarted true).1, (hstarted true).2.2, ?_⟩
        intro plan hplan
        cases (hstarted true).2.1.symm.trans hplan
    · cases h
      refine ⟨hsnoc rfl ?_, Nat.le_succ _, fun h => absurd (himports.1 rfl) h, fun h => ?_, rfl,
        fun _ h => by cases h⟩
      · show ∀ key ∈ startup.reservedAgentSession.elim resumed' resumed'.erase, key ∈ resumed'
        rcases startup.reservedAgentSession with _ | reserved
        · exact fun _ hkey => hkey
        · exact fun _ hkey => List.mem_of_mem_erase hkey
      · simp at h

/-- The panes of a list, after those of `pre`. If no import fails then those that start are
restored. -/
theorem restorePanes_spec {tasks : List PaneTask} (hst : AfterPanes imports pre st)
    (hknown : ConflictsKnown conflicting (pre ++ tasks))
    {panes : List (PaneTask × RestoredPane)} {st' : RestoreState}
    (h : restorePanes world mode conflicting tasks st = (panes, st')) :
    AfterPanes imports (pre ++ tasks) st' ∧ st.failedImports ≤ st'.failedImports ∧
      (imports = ∅ → st'.failedImports = st.failedImports) ∧
      (st'.failedImports = st.failedImports → ∀ starts : PaneTask → Bool,
        (∀ before task after, tasks = before ++ task :: after →
          (starts task = true ↔ task.Starts world mode conflicting imports (pre ++ before))) →
        panes.map (·.1) = tasks.filter starts) ∧
      st'.nextTerminalId = st.nextTerminalId + panes.length ∧
      ∀ (i : ℕ) entry, panes[i]? = some entry →
        RestoredAs world mode conflicting entry.1 (st.nextTerminalId + i) entry.2 := by
  induction tasks generalizing pre st panes st' with
  | nil =>
    cases h
    exact ⟨by rwa [List.append_nil], le_refl _, fun _ => rfl, fun _ _ _ => rfl, rfl,
      fun i entry hentry => by simp at hentry⟩
  | cons task tasks ih =>
    rw [restorePanes_cons] at h
    rcases hpane : restorePane world mode conflicting task st with ⟨pane, stPane⟩
    rcases hrest : restorePanes world mode conflicting tasks stPane with ⟨rest, stRest⟩
    simp only [hpane, hrest] at h
    have hbefore : ∀ task' ∈ pre, ∀ s s', task'.session = some s → task.session = some s' →
        s.key = s'.key → s'.key ∈ conflicting := fun task' htask' =>
      (List.pairwise_append.1 hknown).2.2 task' htask' task (by simp)
    obtain ⟨hstPane, hle, hnone, hstarts, hnext, hrestored⟩ := restorePane_spec hst hbefore hpane
    have happend : pre ++ task :: tasks = pre ++ [task] ++ tasks := by simp
    rw [happend] at hknown ⊢
    obtain ⟨hst', hle', hnone', hfilter, hnext', hpanes⟩ := ih hstPane hknown hrest
    cases h
    refine ⟨hst', hle.trans hle', fun hempty => ?_, fun hok starts hall => ?_, ?_, ?_⟩
    · rw [hnone' hempty, hnone]
      rintro ⟨old, -, hmem, -⟩
      rw [hempty] at hmem
      exact AList.notMem_empty old hmem
    · have hrest := hfilter (by omega) starts fun before task' after heq => by
        rw [hall (task :: before) task' after (by rw [heq]; rfl), List.append_assoc]
        rfl
      have hhead : starts task = true ↔ pane.isSome = true := by
        rw [hall [] task tasks rfl, hstarts (by omega), List.append_nil]
      rw [List.filter_cons, ← hrest]
      rcases pane with _ | pane
      · rw [if_neg (by simpa using hhead.1)]
        rfl
      · rw [if_pos (hhead.2 rfl)]
        rfl
    · rcases pane with _ | pane
      · simpa [hnext] using hnext'
      · simp only [hnext', hnext, Option.elim_some, List.length_cons]
        omega
    · rcases pane with _ | pane
      · rwa [hnext] at hpanes
      · rintro (_ | i) entry hentry
        · cases hentry
          exact hrestored pane rfl
        · have hentry := hpanes i entry hentry
          rw [hnext] at hentry
          rwa [show st.nextTerminalId + (i + 1) = st.nextTerminalId + 1 + i by omega]

end

/-! ## A session -/

/-- A pane of the session that is restored, if no import fails. -/
def StartsIn (world : RestoreWorld) (mode : RestoreMode) (conflicting : List String)
    (imports : Assoc ℕ ImportedHandoffRuntime) (tasks : List PaneTask) (task : PaneTask) : Prop :=
  ∃ before after, tasks = before ++ task :: after ∧
    task.Starts world mode conflicting imports before

theorem nodup_sessionTasks (history : Option SessionHistorySnapshot)
    (snaps : List WorkspaceSnapshot) (idx : ℕ) (ids : IdCounters) :
    ((sessionTasks history snaps idx ids).flatten.flatten.map (·.id)).Nodup := by
  rw [map_id_sessionTasks]
  exact nodup_freshIds _ _

theorem startsIn_of_getElem? {world : RestoreWorld} {mode : RestoreMode}
    {conflicting : List String} {imports : Assoc ℕ ImportedHandoffRuntime} {tasks : List PaneTask}
    {k : ℕ} {task : PaneTask} (htask : tasks[k]? = some task)
    (h : task.Starts world mode conflicting imports (tasks.take k)) :
    StartsIn world mode conflicting imports tasks task := by
  obtain ⟨hk, rfl⟩ := List.getElem?_eq_some_iff.1 htask
  exact ⟨tasks.take k, tasks.drop (k + 1), by rw [← List.drop_eq_getElem_cons hk,
    List.take_append_drop], h⟩

theorem startsIn_iff {world : RestoreWorld} {mode : RestoreMode} {conflicting : List String}
    {imports : Assoc ℕ ImportedHandoffRuntime} {before after : List PaneTask} {task : PaneTask}
    (hnodup : (before ++ task :: after).Nodup) :
    StartsIn world mode conflicting imports (before ++ task :: after) task ↔
      task.Starts world mode conflicting imports before := by
  refine ⟨?_, fun h => ⟨before, after, rfl, h⟩⟩
  rintro ⟨before', after', heq, h⟩
  have hnot : task ∉ before := fun hmem =>
    (List.nodup_append.1 hnodup).2.2 task hmem task (by simp) rfl
  have hnot' : task ∉ before' := fun hmem =>
    (List.nodup_append.1 (heq ▸ hnodup)).2.2 task hmem task (by simp) rfl
  rwa [(Text.append_cons_inj hnot hnot' heq).1]

section

variable (world : RestoreWorld) (mode : RestoreMode) (snapshot : SessionSnapshot)
  (history : Option SessionHistorySnapshot) (imports : Assoc ℕ ImportedHandoffRuntime)
  (ids : IdCounters) (nextTerminalId : ℕ)

open Classical in
/-- The panes of a restored session. -/
theorem restoreWithImports_spec {restored : List RestoredWorkspace} {st : RestoreState}
    (h : restoreWithImports world mode snapshot history imports ids nextTerminalId =
      (restored, st)) :
    (imports = ∅ → st.failedImports = 0) ∧
      (st.failedImports = 0 → (restored.flatMap (·.panes)).map (·.1) =
        (sessionTasks history snapshot.workspaces 0 ids).flatten.flatten.filter
          (StartsIn world mode (conflictingSnapshotAgentSessions snapshot) imports
            (sessionTasks history snapshot.workspaces 0 ids).flatten.flatten)) ∧
      ((restored.flatMap (·.panes)).map (·.1)).Sublist
        (sessionTasks history snapshot.workspaces 0 ids).flatten.flatten ∧
      ∀ (i : ℕ) entry, (restored.flatMap (·.panes))[i]? = some entry →
        RestoredAs world mode (conflictingSnapshotAgentSessions snapshot) entry.1
          (nextTerminalId + i) entry.2 := by
  have hpanes := restoreWorkspaces_panes world mode (conflictingSnapshotAgentSessions snapshot)
    history snapshot.workspaces 0 ids
    { nextTerminalId, resumedSessions := [], importedPanes := imports, failedImports := 0 }
  have hknown := conflictsKnown_sessionTasks snapshot history ids
  have hnodup := (nodup_sessionTasks history snapshot.workspaces 0 ids).of_map
  rw [restoreWithImports] at h
  rw [h] at hpanes
  generalize (sessionTasks history snapshot.workspaces 0 ids).flatten.flatten = tasks at *
  have hstart : AfterPanes imports []
      { nextTerminalId, resumedSessions := [], importedPanes := imports, failedImports := 0 } :=
    ⟨fun old => by simp, fun key hkey => by simp at hkey⟩
  obtain ⟨-, -, hnone, hfilter, -, hrestored⟩ := restorePanes_spec hstart hknown hpanes.symm
  refine ⟨hnone, fun hok => ?_, ?_, hrestored⟩
  · refine hfilter hok _ fun before task after heq => ?_
    subst heq
    rw [decide_eq_true_iff, startsIn_iff hnodup, List.nil_append]
  · have hsublist := @restorePanes_sublist world mode (conflictingSnapshotAgentSessions snapshot)
      tasks { nextTerminalId, resumedSessions := [], importedPanes := imports, failedImports := 0 }
    rwa [← hpanes] at hsublist

end

end Zynk
