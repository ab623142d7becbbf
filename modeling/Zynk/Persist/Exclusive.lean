import Zynk.Persist.Panes

/-!
# Sessions after a restore

An agent session is held by one terminal at most. After a cold restore this is so for every
snapshot (`cold_restore_exclusive`). After a live handoff it is not : the retirement records of a
pane are applied last, and the identity in them fills the session that was dropped because it is
conflicting (`handoff_exclusive_iff`, `handoff_keeps_conflicting_session`).
-/

namespace Zynk

/-- A terminal has the session as its own, or is going to resume it. -/
def Terminal.Holds (t : Terminal) (s : PersistedAgentSession) : Prop :=
  t.state.persistedAgentSession = some s ∨
    ∃ plan, t.pendingAgentResumePlan = some plan ∧ plan.dedupeKey = s.key

/-! ## Cold restore -/

section

variable {world : RestoreWorld} {resume : Bool} {conflicting : List String} {task : PaneTask}
  {terminalId : ℕ} {pane : RestoredPane} {s : PersistedAgentSession}

theorem RestoredAs.anchor_of_holds
    (h : RestoredAs world ⟨resume, false⟩ conflicting task terminalId pane)
    (hholds : pane.terminal.Holds s) :
    ∃ s', task.anchor conflicting = some s' ∧ s'.key = s.key := by
  rcases hholds with hpersisted | ⟨plan, hplan, hkey⟩
  · have hanchor := h.persisted
    rw [if_neg (by simp), Option.or_none, hpersisted] at hanchor
    exact ⟨s, hanchor.symm, rfl⟩
  · obtain ⟨s', hs', hkey'⟩ := h.pending plan hplan
    exact ⟨s', hs', hkey'.symm.trans hkey⟩

theorem RestoredAs.holds (h : RestoredAs world ⟨resume, false⟩ conflicting task terminalId pane)
    (hanchor : task.anchor conflicting = some s) : pane.terminal.Holds s := by
  refine Or.inl ?_
  rw [h.persisted, hanchor]
  rfl

end

/-- Panes whose sessions are known to conflict do not hold one session. -/
theorem pairwise_exclusive {world : RestoreWorld} {resume : Bool} {conflicting : List String}
    {tasks : List PaneTask} {panes : List (PaneTask × RestoredPane)} {nextTerminalId : ℕ}
    (hknown : ConflictsKnown conflicting tasks) (hsublist : (panes.map (·.1)).Sublist tasks)
    (has : ∀ (i : ℕ) entry, panes[i]? = some entry →
      RestoredAs world ⟨resume, false⟩ conflicting entry.1 (nextTerminalId + i) entry.2) :
    (panes.map (·.2.terminal)).Pairwise
      fun t t' => t.id ≠ t'.id ∧ ∀ s, ¬ (t.Holds s ∧ t'.Holds s) := by
  have hpairs := hknown.sublist hsublist
  rw [List.pairwise_map] at hpairs ⊢
  refine List.pairwise_iff_getElem.2 fun i j hi hj hij => ?_
  have hi' := has i _ (List.getElem?_eq_getElem hi)
  have hj' := has j _ (List.getElem?_eq_getElem hj)
  refine ⟨?_, ?_⟩
  · rw [hi'.id, hj'.id]
    intro heq
    have hraw := congrArg TerminalId.raw heq
    simp only at hraw
    omega
  · rintro s ⟨hholds, hholds'⟩
    obtain ⟨a, ha, hkey⟩ := hi'.anchor_of_holds hholds
    obtain ⟨b, hb, hkey'⟩ := hj'.anchor_of_holds hholds'
    rw [PaneTask.anchor_eq_some] at ha hb
    exact hb.2 (List.pairwise_iff_getElem.1 hpairs i j hi hj hij a b ha.1 hb.1
      (hkey.trans hkey'.symm))

theorem restoreWithImports_attached {world : RestoreWorld} {mode : RestoreMode}
    {snapshot : SessionSnapshot} {history : Option SessionHistorySnapshot}
    {imports : Assoc ℕ ImportedHandoffRuntime} {ids : IdCounters} {nextTerminalId : ℕ}
    {restored : List RestoredWorkspace} {st : RestoreState}
    (h : restoreWithImports world mode snapshot history imports ids nextTerminalId =
      (restored, st)) :
    Attached (restored.flatMap (·.workspace.tabs)) (restored.flatMap (·.panes)) := by
  have hattached := restoreWorkspaces_attached world mode
    (conflictingSnapshotAgentSessions snapshot) history snapshot.workspaces 0 ids
    { nextTerminalId, resumedSessions := [], importedPanes := imports, failedImports := 0 }
  rw [restoreWithImports] at h
  rwa [h] at hattached

/-- A leaf that alone carries a session is a pane that is anchored with it. -/
theorem anchor_of_carried {snapshot : SessionSnapshot} {history : Option SessionHistorySnapshot}
    {ids : IdCounters} {k : ℕ} {s : PersistedAgentSession}
    (hcarried : snapshot.carried[k]? = some (some s))
    (hcount : snapshot.carried.count (some s) = 1) :
    ∃ task, (sessionTasks history snapshot.workspaces 0 ids).flatten.flatten[k]? = some task ∧
      task.id = ⟨ids.nextPaneId + k⟩ ∧
      task.anchor (conflictingSnapshotAgentSessions snapshot) = some s := by
  have hanchored : Anchored _ snapshot.carried :=
    anchored_sessionTasks history snapshot.workspaces 0 ids
  have hids := map_id_sessionTasks history snapshot.workspaces 0 ids
  generalize (sessionTasks history snapshot.workspaces 0 ids).flatten.flatten = tasks at *
  have hfound := (hanchored.complete k s hcarried).resolve_right (by omega)
  rw [List.getElem?_map, Option.map_eq_some_iff] at hfound
  obtain ⟨task, htask, hsession⟩ := hfound
  refine ⟨task, htask, ?_, PaneTask.anchor_eq_some.2 ⟨hsession, fun hconflict => ?_⟩⟩
  · have hid : (tasks.map (·.id))[k]? = some task.id := by rw [List.getElem?_map, htask]; rfl
    rw [hids] at hid
    obtain ⟨hk, hid⟩ := List.getElem?_eq_some_iff.1 hid
    rw [← hid]
    simp [freshIds]
  · have htwo := (mem_conflicting (List.mem_of_getElem? hcarried)).1 hconflict
    omega

/-- After a cold restore no session is held by two terminals, none that two leaves carry is held
at all, and one that a single leaf carries is held by the terminal of its pane. The pane of the
`k`-th leaf is `ids.nextPaneId + k`. -/
theorem cold_restore_exclusive (world : RestoreWorld) (snapshot : SessionSnapshot)
    (history : Option SessionHistorySnapshot) (resume : Bool) (ids : IdCounters)
    (nextTerminalId : ℕ) :
    (restore world snapshot history resume ids nextTerminalId).terminals.Pairwise
        (fun t t' => t.id ≠ t'.id ∧ ∀ s, ¬ (t.Holds s ∧ t'.Holds s)) ∧
      (∀ s, 2 ≤ snapshot.carried.count (some s) →
        ∀ t ∈ (restore world snapshot history resume ids nextTerminalId).terminals, ¬ t.Holds s) ∧
      ∀ (k : ℕ) s, snapshot.carried[k]? = some (some s) → snapshot.carried.count (some s) = 1 →
        (resume = true ∨ world.spawnOk ⟨ids.nextPaneId + k⟩ = true →
          ∃ ws ∈ (restore world snapshot history resume ids nextTerminalId).workspaces,
            ∃ tab ∈ ws.tabs, ⟨ids.nextPaneId + k⟩ ∈ tab.panes) ∧
        ∀ ws ∈ (restore world snapshot history resume ids nextTerminalId).workspaces,
          ∀ tab ∈ ws.tabs, ∀ pane, tab.panes.lookup ⟨ids.nextPaneId + k⟩ = some pane →
            ∃ t ∈ (restore world snapshot history resume ids nextTerminalId).terminals,
              t.id = pane.attachedTerminalId ∧ t.Holds s := by
  classical
  rcases hrestored : restoreWithImports world ⟨resume, false⟩ snapshot history ∅ ids nextTerminalId
    with ⟨restored, st⟩
  obtain ⟨hok, hfilter, hsublist, has⟩ := restoreWithImports_spec world ⟨resume, false⟩ snapshot
    history ∅ ids nextTerminalId hrestored
  have hattached := restoreWithImports_attached hrestored
  have hsession : restore world snapshot history resume ids nextTerminalId =
      .ofWorkspaces restored := by rw [restore, hrestored]
  have hterminals : (restore world snapshot history resume ids nextTerminalId).terminals =
      (restored.flatMap (·.panes)).map (·.2.terminal) := by
    rw [hsession, RestoredSession.ofWorkspaces, List.map_flatMap]
  have htabs : ∀ tab, tab ∈ restored.flatMap (·.workspace.tabs) ↔
      ∃ ws ∈ (restore world snapshot history resume ids nextTerminalId).workspaces, tab ∈ ws.tabs := by
    intro tab
    rw [hsession]
    simp [RestoredSession.ofWorkspaces]
  rw [hterminals]
  refine ⟨pairwise_exclusive (conflictsKnown_sessionTasks snapshot history ids) hsublist has, ?_, ?_⟩
  · -- What two leaves carry is conflicting.
    intro s hcount t ht hholds
    obtain ⟨entry, hentry, rfl⟩ := List.mem_map.1 ht
    obtain ⟨i, hi⟩ := List.mem_iff_getElem?.1 hentry
    obtain ⟨s', hs', hkey⟩ := (has i entry hi).anchor_of_holds hholds
    have hmem : some s ∈ snapshot.carried := List.count_pos_iff.1 (by omega)
    exact (PaneTask.anchor_eq_some.1 hs').2 (hkey ▸ (mem_conflicting hmem).2 hcount)
  · intro k s hcarried hcount
    obtain ⟨task, htask, hid, hanchor⟩ := @anchor_of_carried snapshot history ids k s hcarried hcount
    refine ⟨fun hstarts => ?_, fun ws hws tab htab pane hpane => ?_⟩
    · have hin : StartsIn world ⟨resume, false⟩ (conflictingSnapshotAgentSessions snapshot) ∅ _ task :=
        startsIn_of_getElem? htask
          (Or.inr (hstarts.imp (fun h => ⟨h, by rw [hanchor]; rfl⟩) fun h => hid ▸ h))
      have hmem : task ∈ (restored.flatMap (·.panes)).map (·.1) := by
        rw [hfilter (hok rfl), List.mem_filter]
        exact ⟨List.mem_of_getElem? htask, by simpa using hin⟩
      obtain ⟨entry, hentry, rfl⟩ := List.mem_map.1 hmem
      obtain ⟨tab, htab, hplaced⟩ := hattached.placed entry hentry
      obtain ⟨ws, hws, htab⟩ := (htabs tab).1 htab
      exact ⟨ws, hws, tab, htab, hid ▸ hplaced⟩
    · obtain ⟨entry, hentry, hentryId, hterminal⟩ := hattached.terminal tab
        ((htabs tab).2 ⟨ws, hws, htab⟩) _ pane hpane
      have hsame : entry.1 = task := List.inj_on_of_nodup_map
        (nodup_sessionTasks history snapshot.workspaces 0 ids)
        (hsublist.subset (List.mem_map_of_mem hentry)) (List.mem_of_getElem? htask)
        (hentryId.trans hid.symm)
      obtain ⟨i, hi⟩ := List.mem_iff_getElem?.1 hentry
      exact ⟨entry.2.terminal, List.mem_map.2 ⟨entry, hentry, rfl⟩, hterminal,
        (has i entry hi).holds (hsame ▸ hanchor)⟩

/-- A pane with a session of Claude. -/
def claudePane (value : String) : PaneSnapshot :=
  { cwd := "/", agentSession := some ⟨"zynk:claude", "claude", .id, value⟩ }

def claudeSession (value : String) : PersistedAgentSession :=
  ⟨"zynk:claude", "claude", .id, value⟩

/-- Three panes, of which two carry one session. -/
def sharedSnapshot : SessionSnapshot where
  workspaces :=
    [{ id := some "w1"
       customName := none
       identityCwd := "/"
       publicPaneNumbers := ∅
       nextPublicPaneNumber := 1
       publicTabNumbers := []
       nextPublicTabNumber := 1
       tabs :=
         [{ customName := none
            layout := .split .horizontal halfRatio (.pane 1)
              (.split .vertical halfRatio (.pane 2) (.pane 3))
            panes := Assoc.ofList [(1, claudePane "a"), (2, claudePane "a"), (3, claudePane "b")]
            zoomed := false
            focused := none
            rootPane := none }]
       activeTab := 0 }]

theorem sharedSnapshot_carried : sharedSnapshot.carried =
    [some (claudeSession "a"), some (claudeSession "a"), some (claudeSession "b")] := by
  rfl

theorem cold_restore_exclusive_shared :
    (∀ t ∈ (restore startingWorld sharedSnapshot none true ⟨1, 1⟩ 1).terminals,
      ¬ t.Holds (claudeSession "a")) ∧
    ∃ t ∈ (restore startingWorld sharedSnapshot none true ⟨1, 1⟩ 1).terminals,
      t.Holds (claudeSession "b") := by
  obtain ⟨-, hshared, hsingle⟩ :=
    cold_restore_exclusive startingWorld sharedSnapshot none true ⟨1, 1⟩ 1
  refine ⟨hshared _ (by rw [sharedSnapshot_carried]; decide), ?_⟩
  obtain ⟨hplaced, hheld⟩ := hsingle 2 (claudeSession "b") (by rw [sharedSnapshot_carried]; rfl)
    (by rw [sharedSnapshot_carried]; decide)
  obtain ⟨ws, hws, tab, htab, hmem⟩ := hplaced (Or.inl rfl)
  obtain ⟨pane, hpane⟩ := Option.isSome_iff_exists.1 (AList.lookup_isSome.2 hmem)
  obtain ⟨t, ht, -, hholds⟩ := hheld ws hws tab htab pane hpane
  exact ⟨t, ht, hholds⟩

/-! ## Live handoff -/

/-- A handoff that succeeds has restored every imported runtime. -/
theorem restoreHandoff_eq_ok {world : RestoreWorld} {snapshot : SessionSnapshot}
    {imports : Assoc ℕ ImportedHandoffRuntime} {ids : IdCounters} {nextTerminalId : ℕ}
    {r : RestoredSession}
    (h : restoreHandoff world snapshot imports ids nextTerminalId = .ok r) :
    ∃ restored st, restoreWithImports world ⟨true, true⟩ snapshot none imports ids nextTerminalId =
      (restored, st) ∧ st.failedImports = 0 ∧ r = .ofWorkspaces restored := by
  unfold restoreHandoff at h
  rcases hrestored : restoreWithImports world ⟨true, true⟩ snapshot none imports ids nextTerminalId
    with ⟨restored, st⟩
  simp only [hrestored] at h
  split_ifs at h with hfailed hempty
  cases h
  exact ⟨restored, st, rfl, by omega, rfl⟩

/-- After a handoff a session that two leaves carry is held by no terminal if and only if no pane
that starts without an anchor of its own brings such a session along in its retirement records. -/
theorem handoff_exclusive_iff {world : RestoreWorld} {snapshot : SessionSnapshot}
    {imports : Assoc ℕ ImportedHandoffRuntime} {ids : IdCounters} {nextTerminalId : ℕ}
    {r : RestoredSession}
    (h : restoreHandoff world snapshot imports ids nextTerminalId = .ok r) :
    (∀ s, 2 ≤ snapshot.carried.count (some s) →
        ∀ t ∈ r.terminals, t.state.persistedAgentSession ≠ some s) ↔
      ∀ task ∈ (sessionTasks none snapshot.workspaces 0 ids).flatten.flatten,
        StartsIn world ⟨true, true⟩ (conflictingSnapshotAgentSessions snapshot) imports
          (sessionTasks none snapshot.workspaces 0 ids).flatten.flatten task →
        task.anchor (conflictingSnapshotAgentSessions snapshot) = none →
        ∀ s, task.retiredSession = some s → snapshot.carried.count (some s) < 2 := by
  classical
  obtain ⟨restored, st, hrestored, hfailed, rfl⟩ := restoreHandoff_eq_ok h
  obtain ⟨-, hfilter, hsublist, has⟩ := restoreWithImports_spec world ⟨true, true⟩ snapshot none
    imports ids nextTerminalId hrestored
  have hstarts := hfilter hfailed
  have hterminals : (RestoredSession.ofWorkspaces restored).terminals =
      (restored.flatMap (·.panes)).map (·.2.terminal) := by
    rw [RestoredSession.ofWorkspaces, List.map_flatMap]
  rw [hterminals]
  constructor
  · intro hexclusive task htask hin hanchor s hretired
    have hmem : task ∈ (restored.flatMap (·.panes)).map (·.1) := by
      rw [hstarts, List.mem_filter]
      exact ⟨htask, by simpa using hin⟩
    obtain ⟨entry, hentry, rfl⟩ := List.mem_map.1 hmem
    obtain ⟨i, hi⟩ := List.mem_iff_getElem?.1 hentry
    by_contra hcount
    refine hexclusive s (by omega) entry.2.terminal (List.mem_map.2 ⟨entry, hentry, rfl⟩) ?_
    rw [(has i entry hi).persisted, hanchor, hretired]
    rfl
  · intro hcond s hcount t ht hpersisted
    obtain ⟨entry, hentry, rfl⟩ := List.mem_map.1 ht
    obtain ⟨i, hi⟩ := List.mem_iff_getElem?.1 hentry
    have hmem : entry.1 ∈ (restored.flatMap (·.panes)).map (·.1) := List.mem_map_of_mem hentry
    rw [hstarts, List.mem_filter] at hmem
    rw [(has i entry hi).persisted] at hpersisted
    rcases hanchor : entry.1.anchor (conflictingSnapshotAgentSessions snapshot) with _ | s'
    · -- The session comes from the retirement records.
      rw [hanchor, Option.none_or] at hpersisted
      have hlt := hcond entry.1 hmem.1 (by simpa using hmem.2) hanchor s hpersisted
      omega
    · -- An anchor is not conflicting.
      rw [hanchor, Option.some_or] at hpersisted
      cases hpersisted
      have hcarried : some s ∈ snapshot.carried := List.count_pos_iff.1 (by omega)
      exact (PaneTask.anchor_eq_some.1 hanchor).2 ((mem_conflicting hcarried).2 hcount)

theorem handoff_exclusive_iff_shared :
    ∃ r, restoreHandoff startingWorld sharedSnapshot
        (Assoc.ofList [(1, ⟨10⟩), (2, ⟨11⟩), (3, ⟨12⟩)]) ⟨1, 1⟩ 1 = .ok r ∧
      ((∀ s, 2 ≤ sharedSnapshot.carried.count (some s) →
          ∀ t ∈ r.terminals, t.state.persistedAgentSession ≠ some s) ↔
        ∀ task ∈ (sessionTasks none sharedSnapshot.workspaces 0 ⟨1, 1⟩).flatten.flatten,
          StartsIn startingWorld ⟨true, true⟩ (conflictingSnapshotAgentSessions sharedSnapshot)
            (Assoc.ofList [(1, ⟨10⟩), (2, ⟨11⟩), (3, ⟨12⟩)])
            (sessionTasks none sharedSnapshot.workspaces 0 ⟨1, 1⟩).flatten.flatten task →
          task.anchor (conflictingSnapshotAgentSessions sharedSnapshot) = none →
          ∀ s, task.retiredSession = some s → sharedSnapshot.carried.count (some s) < 2) :=
  ⟨_, rfl, handoff_exclusive_iff rfl⟩

/-- Two panes with one session, of which the first brings the session along in its identity too. -/
def identitySnapshot : SessionSnapshot where
  workspaces :=
    [{ id := some "w1"
       customName := none
       identityCwd := "/"
       publicPaneNumbers := ∅
       nextPublicPaneNumber := 1
       publicTabNumbers := []
       nextPublicTabNumber := 1
       tabs :=
         [{ customName := none
            layout := .split .horizontal halfRatio (.pane 1) (.pane 2)
            panes := Assoc.ofList
              [(1, { claudePane "a" with
                  hookRetirement := some
                    { hookIdentity := some
                        { source := "zynk:claude"
                          agentLabel := "claude"
                          sessionRef := some ⟨.id, "a"⟩
                          reportedAgeMs := 0
                          unconfirmedAgeMs := none } } }),
                (2, claudePane "a")]
            zoomed := false
            focused := none
            rootPane := none }]
       activeTab := 0 }]

theorem handoff_keeps_conflicting_session :
    ∃ r, restoreHandoff startingWorld identitySnapshot (Assoc.ofList [(1, ⟨10⟩), (2, ⟨11⟩)]) ⟨1, 1⟩ 1 = .ok r ∧
    2 ≤ identitySnapshot.carried.count (some (claudeSession "a")) ∧
    ∃ t ∈ r.terminals, t.state.persistedAgentSession = some (claudeSession "a") := by
  refine ⟨_, rfl, by decide, _, List.mem_cons_self .., ?_⟩
  rfl
end Zynk
