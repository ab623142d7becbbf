import Zynk.Persist.Tabs

/-!
# The panes of a session

The loops over workspaces, tabs and panes look up what they need of a pane (`PaneTask`) in the
snapshot alone, so that a restore is one loop over the panes of all tabs (`sessionTasks`,
`restoreWorkspaces_panes`). The new id of a pane tells its leaf (`map_id_sessionTasks`), and the
session the loop finds for it is the one the leaf carries, unless another leaf of the tab has the
id of the leaf too (`anchored_sessionTasks`).
-/

namespace Zynk

/-! ## Tasks -/

/-- The panes of the tabs of a workspace, from tab `idx` on. -/
def tabsTasks (history : Option WorkspaceHistorySnapshot) (byOldId : Assoc ℕ ℕ)
    (workspaceId : String) : List TabSnapshot → ℕ → ℕ → List (List PaneTask)
  | [], _, _ => []
  | snap :: snaps, idx, next =>
    tabTasks snap (history.bind (·.tabs[idx]?)) (idx + 1)
        (fun oldId => (byOldId.lookup oldId).map (publicPaneIdForNumber workspaceId)) workspaceId
        next ::
      tabsTasks history byOldId workspaceId snaps (idx + 1) (next + snap.layout.paneIds.length)

def workspaceTasks (snap : WorkspaceSnapshot) (history : Option WorkspaceHistorySnapshot)
    (ids : IdCounters) : List (List PaneTask) :=
  tabsTasks history (restoredPaneNumbers snap).1 (restoredWorkspaceId snap ids).1 snap.tabs 0
    ids.nextPaneId

/-- The counters after a workspace. -/
def IdCounters.after (ids : IdCounters) (snap : WorkspaceSnapshot) : IdCounters :=
  { (restoredWorkspaceId snap ids).2 with
    nextPaneId := ids.nextPaneId + (snap.tabs.flatMap (·.layout.paneIds)).length }

/-- The panes of the workspaces of a session, from workspace `idx` on. -/
def sessionTasks (history : Option SessionHistorySnapshot) :
    List WorkspaceSnapshot → ℕ → IdCounters → List (List (List PaneTask))
  | [], _, _ => []
  | snap :: snaps, idx, ids =>
    workspaceTasks snap (history.bind (·.workspaces[idx]?)) ids ::
      sessionTasks history snaps (idx + 1) (ids.after snap)

@[simp] theorem restoredWorkspaceId_nextPaneId (snap : WorkspaceSnapshot) (ids : IdCounters) :
    (restoredWorkspaceId snap ids).2.nextPaneId = ids.nextPaneId := by
  unfold restoredWorkspaceId
  split <;> rfl

/-! ## One loop -/

section

variable (world : RestoreWorld) (mode : RestoreMode) (conflicting : List String)

theorem restorePanes_append (tasks tasks' : List PaneTask) (st : RestoreState) :
    restorePanes world mode conflicting (tasks ++ tasks') st =
      ((restorePanes world mode conflicting tasks st).1 ++
          (restorePanes world mode conflicting tasks'
            (restorePanes world mode conflicting tasks st).2).1,
        (restorePanes world mode conflicting tasks'
          (restorePanes world mode conflicting tasks st).2).2) := by
  induction tasks generalizing st with
  | nil => rfl
  | cons task tasks ih =>
    rw [List.cons_append, restorePanes_cons, restorePanes_cons]
    obtain ⟨pane, st'⟩ := restorePane world mode conflicting task st
    simp only [ih]
    rcases pane with _ | pane <;> rfl

/-- The panes of a restored tab are those its part of the loop restores. -/
theorem restoreTab_panes (snap : TabSnapshot) (history : Option TabHistorySnapshot) (number : ℕ)
    (publicPaneIds : ℕ → Option String) (workspaceId : String) (next : ℕ) (st : RestoreState) :
    ((restoreTab world mode conflicting snap history number publicPaneIds workspaceId next st).1.elim
        [] (·.panes)) =
      (restorePanes world mode conflicting
        (tabTasks snap history number publicPaneIds workspaceId next) st).1 := by
  obtain ⟨-, ⟨hempty, hnone⟩ | ⟨restored, hsome, -, hpanes, -⟩⟩ := restoreTab_cases world mode
    conflicting snap history number publicPaneIds workspaceId next st
  · rw [hnone, Option.elim_none, eq_comm]
    exact List.map_eq_nil_iff.1 hempty
  · rw [hsome, Option.elim_some, hpanes]
    rfl

theorem restoreTab_snd (snap : TabSnapshot) (history : Option TabHistorySnapshot) (number : ℕ)
    (publicPaneIds : ℕ → Option String) (workspaceId : String) (next : ℕ) (st : RestoreState) :
    (restoreTab world mode conflicting snap history number publicPaneIds workspaceId next st).2 =
      (next + snap.layout.paneIds.length,
        (restorePanes world mode conflicting
          (tabTasks snap history number publicPaneIds workspaceId next) st).2) :=
  (restoreTab_cases world mode conflicting snap history number publicPaneIds workspaceId next st).1

theorem WorkspaceParts.panes_addTab (parts : WorkspaceParts) (publicTabNumbers : List ℕ)
    (byOldId : Assoc ℕ ℕ) (idx : ℕ) (restored : Option RestoredTab) :
    (restored.elim parts (parts.addTab publicTabNumbers byOldId idx)).panes =
      parts.panes ++ restored.elim [] (·.panes) := by
  rcases restored with _ | restored
  · exact (List.append_nil _).symm
  · rfl

theorem restoreTabs_cons (history : Option WorkspaceHistorySnapshot) (publicTabNumbers : List ℕ)
    (byOldId : Assoc ℕ ℕ) (workspaceId : String) (snap : TabSnapshot) (snaps : List TabSnapshot)
    (idx : ℕ) (parts : WorkspaceParts) (next : ℕ) (st : RestoreState) :
    let restored := restoreTab world mode conflicting snap (history.bind (·.tabs[idx]?)) (idx + 1)
      (fun oldId => (byOldId.lookup oldId).map (publicPaneIdForNumber workspaceId)) workspaceId next st
    restoreTabs world mode conflicting history publicTabNumbers byOldId workspaceId (snap :: snaps)
        idx parts next st =
      restoreTabs world mode conflicting history publicTabNumbers byOldId workspaceId snaps (idx + 1)
        (restored.1.elim parts (parts.addTab publicTabNumbers byOldId idx)) restored.2.1
        restored.2.2 :=
  rfl

theorem restoreTabs_panes (history : Option WorkspaceHistorySnapshot) (publicTabNumbers : List ℕ)
    (byOldId : Assoc ℕ ℕ) (workspaceId : String) (snaps : List TabSnapshot) (idx : ℕ)
    (parts : WorkspaceParts) (next : ℕ) (st : RestoreState) :
    (restoreTabs world mode conflicting history publicTabNumbers byOldId workspaceId snaps idx parts
        next st).1.panes =
      parts.panes ++ (restorePanes world mode conflicting
        (tabsTasks history byOldId workspaceId snaps idx next).flatten st).1 ∧
    (restoreTabs world mode conflicting history publicTabNumbers byOldId workspaceId snaps idx parts
        next st).2 =
      (next + (snaps.flatMap (·.layout.paneIds)).length, (restorePanes world mode conflicting
        (tabsTasks history byOldId workspaceId snaps idx next).flatten st).2) := by
  induction snaps generalizing idx parts next st with
  | nil => exact ⟨(List.append_nil _).symm, rfl⟩
  | cons snap snaps ih =>
    rw [restoreTabs_cons, tabsTasks, List.flatten_cons, restorePanes_append, List.flatMap_cons,
      List.length_append, ← Nat.add_assoc]
    have hpanes := restoreTab_panes world mode conflicting snap (history.bind (·.tabs[idx]?))
      (idx + 1) (fun oldId => (byOldId.lookup oldId).map (publicPaneIdForNumber workspaceId))
      workspaceId next st
    have hsnd := restoreTab_snd world mode conflicting snap (history.bind (·.tabs[idx]?)) (idx + 1)
      (fun oldId => (byOldId.lookup oldId).map (publicPaneIdForNumber workspaceId)) workspaceId next st
    simp only [hsnd, ih, WorkspaceParts.panes_addTab, hpanes, List.append_assoc, and_self]

theorem WorkspaceParts.panes_addTab_eq_nil {parts : WorkspaceParts}
    (hparts : parts.tabs = [] → parts.panes = []) {publicTabNumbers : List ℕ}
    {byOldId : Assoc ℕ ℕ} {idx : ℕ} {restored : Option RestoredTab}
    (h : (restored.elim parts (parts.addTab publicTabNumbers byOldId idx)).tabs = []) :
    (restored.elim parts (parts.addTab publicTabNumbers byOldId idx)).panes = [] := by
  rcases restored with _ | restored
  · exact hparts h
  · simp [WorkspaceParts.addTab] at h

/-- Tabs are there as soon as panes are. -/
theorem restoreTabs_tabs_eq_nil {history : Option WorkspaceHistorySnapshot}
    {publicTabNumbers : List ℕ} {byOldId : Assoc ℕ ℕ} {workspaceId : String}
    {snaps : List TabSnapshot} {idx : ℕ} {parts : WorkspaceParts} {next : ℕ} {st : RestoreState}
    (hparts : parts.tabs = [] → parts.panes = [])
    (h : (restoreTabs world mode conflicting history publicTabNumbers byOldId workspaceId snaps idx
      parts next st).1.tabs = []) :
    (restoreTabs world mode conflicting history publicTabNumbers byOldId workspaceId snaps idx parts
      next st).1.panes = [] := by
  induction snaps generalizing idx parts next st with
  | nil => exact hparts h
  | cons snap snaps ih =>
    rw [restoreTabs_cons] at h ⊢
    exact ih (fun h => WorkspaceParts.panes_addTab_eq_nil hparts h) h

/-- The panes of a restored workspace are those its part of the loop restores. -/
theorem restoreWorkspace_panes (snap : WorkspaceSnapshot)
    (history : Option WorkspaceHistorySnapshot) (ids : IdCounters) (st : RestoreState) :
    ((restoreWorkspace world mode conflicting snap history ids st).1.elim [] (·.panes)) =
        (restorePanes world mode conflicting (workspaceTasks snap history ids).flatten st).1 ∧
      (restoreWorkspace world mode conflicting snap history ids st).2 =
        (ids.after snap,
          (restorePanes world mode conflicting (workspaceTasks snap history ids).flatten st).2) := by
  obtain ⟨hpanes, hsnd⟩ := restoreTabs_panes world mode conflicting history snap.publicTabNumbers
    (restoredPaneNumbers snap).1 (restoredWorkspaceId snap ids).1 snap.tabs 0
    { nextPublicPaneNumber := (restoredPaneNumbers snap).2
      nextPublicTabNumber := nextNumber snap.publicTabNumbers snap.nextPublicTabNumber }
    (restoredWorkspaceId snap ids).2.nextPaneId st
  have htasks : tabsTasks history (restoredPaneNumbers snap).1 (restoredWorkspaceId snap ids).1
      snap.tabs 0 (restoredWorkspaceId snap ids).2.nextPaneId = workspaceTasks snap history ids := by
    rw [restoredWorkspaceId_nextPaneId, workspaceTasks]
  rw [List.nil_append, htasks] at hpanes
  rw [htasks] at hsnd
  obtain ⟨hids, ⟨hempty, hnone⟩ | ⟨restored, hsome, -, hrestored, -⟩⟩ := restoreWorkspace_cases world
    mode conflicting snap history ids st
  all_goals
    refine ⟨?_, ?_⟩
    rotate_left
    · rw [hids, workspaceLoop, hsnd, restoredWorkspaceId_nextPaneId]
      rfl
  · rw [hnone, Option.elim_none]
    exact (restoreTabs_tabs_eq_nil world mode conflicting (fun _ => rfl) hempty).symm.trans hpanes
  · rw [hsome, Option.elim_some, hrestored]
    exact hpanes

/-- A restore is one loop over the panes of the session. -/
theorem restoreWorkspaces_panes (history : Option SessionHistorySnapshot)
    (snaps : List WorkspaceSnapshot) (idx : ℕ) (ids : IdCounters) (st : RestoreState) :
    ((restoreWorkspaces world mode conflicting history snaps idx ids st).1.flatMap (·.panes),
        (restoreWorkspaces world mode conflicting history snaps idx ids st).2) =
      restorePanes world mode conflicting (sessionTasks history snaps idx ids).flatten.flatten
        st := by
  induction snaps generalizing idx ids st with
  | nil => rfl
  | cons snap snaps ih =>
    obtain ⟨hpanes, hsnd⟩ := restoreWorkspace_panes world mode conflicting snap
      (history.bind (·.workspaces[idx]?)) ids st
    rw [sessionTasks, List.flatten_cons, List.flatten_append, restorePanes_append, ← ih,
      restoreWorkspaces]
    simp only [hsnd, ← hpanes]
    rcases (restoreWorkspace world mode conflicting snap _ ids st).1 with _ | restored <;> rfl

end

/-! ## Where panes are -/

/-- Every pane of the tabs is attached to the terminal it was restored with, and every restored
pane is in a tab. -/
structure Attached (tabs : List Tab) (panes : List (PaneTask × RestoredPane)) : Prop where
  terminal : ∀ tab ∈ tabs, ∀ id pane, tab.panes.lookup id = some pane →
    ∃ entry ∈ panes, entry.1.id = id ∧ entry.2.terminal.id = pane.attachedTerminalId
  placed : ∀ entry ∈ panes, ∃ tab ∈ tabs, entry.1.id ∈ tab.panes

theorem Attached.nil : Attached [] [] :=
  ⟨fun _ htab => by simp at htab, fun _ hentry => by simp at hentry⟩

theorem Attached.append {tabs tabs' : List Tab} {panes panes' : List (PaneTask × RestoredPane)}
    (h : Attached tabs panes) (h' : Attached tabs' panes') :
    Attached (tabs ++ tabs') (panes ++ panes') where
  terminal tab htab id pane hpane := by
    rcases List.mem_append.1 htab with htab | htab
    · obtain ⟨entry, hentry, heq⟩ := h.terminal tab htab id pane hpane
      exact ⟨entry, List.mem_append_left _ hentry, heq⟩
    · obtain ⟨entry, hentry, heq⟩ := h'.terminal tab htab id pane hpane
      exact ⟨entry, List.mem_append_right _ hentry, heq⟩
  placed entry hentry := by
    rcases List.mem_append.1 hentry with hentry | hentry
    · obtain ⟨tab, htab, hmem⟩ := h.placed entry hentry
      exact ⟨tab, List.mem_append_left _ htab, hmem⟩
    · obtain ⟨tab, htab, hmem⟩ := h'.placed entry hentry
      exact ⟨tab, List.mem_append_right _ htab, hmem⟩

section

variable (world : RestoreWorld) (mode : RestoreMode) (conflicting : List String)

theorem restoreTab_tabPanes {snap : TabSnapshot} {history : Option TabHistorySnapshot} {number : ℕ}
    {publicPaneIds : ℕ → Option String} {workspaceId : String} {next : ℕ} {st : RestoreState}
    {restored : RestoredTab}
    (h : (restoreTab world mode conflicting snap history number publicPaneIds workspaceId next
      st).1 = some restored) :
    restored.tab.panes = Assoc.ofList (restored.panes.map fun entry =>
      (entry.1.id, PaneState.new entry.2.terminal.id)) := by
  unfold restoreTab at h
  simp only at h
  split_ifs at h
  split at h
  · cases h
  · split at h
    · cases h
      rfl
    · cases h

theorem Attached.of_panes {tab : Tab} {panes : List (PaneTask × RestoredPane)}
    (h : tab.panes = Assoc.ofList (panes.map fun entry =>
      (entry.1.id, PaneState.new entry.2.terminal.id))) : Attached [tab] panes where
  terminal tab' htab id pane hpane := by
    obtain rfl := List.mem_singleton.1 htab
    rw [h] at hpane
    obtain ⟨entry, hentry, heq⟩ := List.mem_map.1 (Assoc.mem_of_lookup_ofList hpane)
    cases heq
    exact ⟨entry, hentry, rfl, rfl⟩
  placed entry hentry := by
    refine ⟨tab, by simp, ?_⟩
    rw [h, Assoc.mem_ofList, List.map_map]
    exact List.mem_map.2 ⟨entry, hentry, rfl⟩

theorem restoreTabs_attached {history : Option WorkspaceHistorySnapshot}
    {publicTabNumbers : List ℕ} {byOldId : Assoc ℕ ℕ} {workspaceId : String}
    {snaps : List TabSnapshot} {idx : ℕ} {parts : WorkspaceParts} {next : ℕ} {st : RestoreState}
    (hparts : Attached parts.tabs parts.panes) :
    Attached (restoreTabs world mode conflicting history publicTabNumbers byOldId workspaceId snaps
        idx parts next st).1.tabs
      (restoreTabs world mode conflicting history publicTabNumbers byOldId workspaceId snaps idx
        parts next st).1.panes := by
  induction snaps generalizing idx parts next st with
  | nil => exact hparts
  | cons snap snaps ih =>
    rw [restoreTabs_cons]
    refine ih ?_
    rcases hrestored : (restoreTab world mode conflicting snap (history.bind (·.tabs[idx]?))
      (idx + 1) (fun oldId => (byOldId.lookup oldId).map (publicPaneIdForNumber workspaceId))
      workspaceId next st).1 with _ | restored
    · exact hparts
    · exact hparts.append (.of_panes (restoreTab_tabPanes world mode conflicting hrestored))

theorem restoreWorkspaces_attached (history : Option SessionHistorySnapshot)
    (snaps : List WorkspaceSnapshot) (idx : ℕ) (ids : IdCounters) (st : RestoreState) :
    Attached
      ((restoreWorkspaces world mode conflicting history snaps idx ids st).1.flatMap
        (·.workspace.tabs))
      ((restoreWorkspaces world mode conflicting history snaps idx ids st).1.flatMap (·.panes)) := by
  induction snaps generalizing idx ids st with
  | nil => exact .nil
  | cons snap snaps ih =>
    rw [restoreWorkspaces]
    obtain ⟨-, ⟨-, hnone⟩ | ⟨restored, hsome, -, hpanes, -, htabs, -⟩⟩ := restoreWorkspace_cases world
      mode conflicting snap (history.bind (·.workspaces[idx]?)) ids st
    · simp only [hnone, Option.elim_none]
      exact ih _ _ _
    · simp only [hsome, Option.elim_some, List.flatMap_cons]
      refine Attached.append ?_ (ih _ _ _)
      rw [hpanes, htabs]
      exact restoreTabs_attached world mode conflicting .nil

end

/-! ## Sessions -/

/-- The session the loop finds for a pane. -/
def PaneTask.session (task : PaneTask) : Option PersistedAgentSession :=
  (task.saved.bind (·.agentSession)).bind persistedAgentSessionFromSnapshot

/-- What each leaf of a snapshot carries. -/
def SessionSnapshot.carried (snapshot : SessionSnapshot) : List (Option PersistedAgentSession) :=
  snapshot.workspaces.flatMap fun workspace => workspace.tabs.flatMap fun tab =>
    tab.layout.paneIds.map tab.sessionOf

/-- What the loop finds for the panes of a session is what their leaves carry, but that it can
miss a session which two leaves carry. -/
structure Anchored (found carried : List (Option PersistedAgentSession)) : Prop where
  length : found.length = carried.length
  sound : ∀ (k : ℕ) (s : PersistedAgentSession), found[k]? = some (some s) →
    carried[k]? = some (some s)
  complete : ∀ (k : ℕ) (s : PersistedAgentSession), carried[k]? = some (some s) →
    found[k]? = some (some s) ∨ 2 ≤ carried.count (some s)

theorem Anchored.append {found carried found' carried' : List (Option PersistedAgentSession)}
    (h : Anchored found carried) (h' : Anchored found' carried') :
    Anchored (found ++ found') (carried ++ carried') where
  length := by rw [List.length_append, List.length_append, h.length, h'.length]
  sound k s hk := by
    rw [List.getElem?_append] at hk ⊢
    rw [← h.length]
    split_ifs at hk ⊢ with hlt
    · exact h.sound k s hk
    · exact h'.sound _ s hk
  complete k s hk := by
    rw [List.getElem?_append, ← h.length] at hk
    rw [List.getElem?_append, List.count_append]
    split_ifs at hk ⊢ with hlt
    · exact (h.complete k s hk).imp_right fun hcount => by omega
    · exact (h'.complete _ s hk).imp_right fun hcount => by omega

/-- Two leaves with one value. -/
theorem two_le_countP {α : Type} {l : List α} {p : α → Bool} {i j : ℕ} (hij : i < j) {a b : α}
    (hi : l[i]? = some a) (hj : l[j]? = some b) (ha : p a = true) (hb : p b = true) :
    2 ≤ l.countP p := by
  rw [← List.take_append_drop j l, List.countP_append]
  have hfirst : 0 < (l.take j).countP p := by
    refine List.countP_pos_iff.2 ⟨a, List.mem_of_getElem? (i := i) ?_, ha⟩
    rwa [List.getElem?_take_of_lt hij]
  have hsecond : 0 < (l.drop j).countP p := by
    refine List.countP_pos_iff.2 ⟨b, List.mem_of_getElem? (i := 0) ?_, hb⟩
    simpa using hj
  omega

/-- A task of a tab has the saved pane of its leaf, if that is the last one with its id. -/
theorem tabTasks_getElem? {snap : TabSnapshot} {history : Option TabHistorySnapshot} {number : ℕ}
    {publicPaneIds : ℕ → Option String} {workspaceId : String} {next k : ℕ} {task : PaneTask}
    (h : (tabTasks snap history number publicPaneIds workspaceId next)[k]? = some task) :
    k < snap.layout.paneIds.length ∧ task.id = ⟨next + k⟩ ∧
      (∀ old, task.oldId = some old ↔ LastLeaf snap.layout.paneIds old k) ∧
      task.saved = task.oldId.bind snap.panes.lookup ∧
      task.launchEnv = (task.oldId.bind publicPaneIds).elim {} fun paneId =>
        { identity := .managed workspaceId (publicTabIdForNumber workspaceId number) paneId } := by
  simp only [tabTasks, List.getElem?_map, Option.map_eq_some_iff] at h
  obtain ⟨id, hid, rfl⟩ := h
  obtain ⟨hk, rfl⟩ := List.getElem?_eq_some_iff.1 hid
  have hget : (freshIds next snap.layout.paneIds.length)[k] = (⟨next + k⟩ : PaneId) := by
    simp [freshIds]
  rw [length_freshIds] at hk
  refine ⟨hk, hget, fun old => ?_, rfl, rfl⟩
  show (reverseIdMap _).lookup _ = some old ↔ _
  rw [hget, lookup_reverseIdMap]
  constructor
  · rintro ⟨j, hlast, heq⟩
    have hjk : k = j := by simpa using congrArg PaneId.raw heq
    exact hjk ▸ hlast
  · exact fun hlast => ⟨k, hlast, rfl⟩

/-- A leaf is the last one with its id, or there is a later one. -/
theorem lastLeaf_or_later {oldIds : List ℕ} {old k : ℕ} (h : oldIds[k]? = some old) :
    LastLeaf oldIds old k ∨ ∃ j, k < j ∧ oldIds[j]? = some old := by
  obtain ⟨hk, rfl⟩ := List.getElem?_eq_some_iff.1 h
  by_cases hlater : oldIds[k] ∈ oldIds.drop (k + 1)
  · obtain ⟨j, hj⟩ := List.mem_iff_getElem?.1 hlater
    rw [List.getElem?_drop] at hj
    exact Or.inr ⟨k + 1 + j, by omega, hj⟩
  · refine Or.inl ⟨oldIds.take k, oldIds.drop (k + 1), ?_, hlater, by simp; omega⟩
    rw [← List.drop_eq_getElem_cons hk, List.take_append_drop]

theorem anchored_tabTasks (snap : TabSnapshot) (history : Option TabHistorySnapshot) (number : ℕ)
    (publicPaneIds : ℕ → Option String) (workspaceId : String) (next : ℕ) :
    Anchored ((tabTasks snap history number publicPaneIds workspaceId next).map (·.session))
      (snap.layout.paneIds.map snap.sessionOf) := by
  have hlength : (tabTasks snap history number publicPaneIds workspaceId next).length =
      snap.layout.paneIds.length := by simp [tabTasks]
  refine ⟨by simp [hlength], fun k s hk => ?_, fun k s hk => ?_⟩
  · rw [List.getElem?_map, Option.map_eq_some_iff] at hk
    obtain ⟨task, htask, hsession⟩ := hk
    obtain ⟨-, -, hold, hsaved, -⟩ := tabTasks_getElem? htask
    rcases hnone : task.oldId with _ | old
    · rw [PaneTask.session, hsaved, hnone] at hsession
      cases hsession
    · rw [List.getElem?_map, ((hold old).1 hnone).getElem?, Option.map_some, ← hsession,
        PaneTask.session, hsaved, hnone]
      rfl
  · rw [List.getElem?_map, Option.map_eq_some_iff] at hk
    obtain ⟨old, hleaf, hcarried⟩ := hk
    rcases lastLeaf_or_later hleaf with hlast | ⟨j, hkj, hlater⟩
    · have hk : k < (tabTasks snap history number publicPaneIds workspaceId next).length :=
        hlength ▸ (List.getElem?_eq_some_iff.1 hleaf).1
      obtain ⟨-, -, hold, hsaved, -⟩ := tabTasks_getElem? (List.getElem?_eq_getElem hk)
      refine Or.inl ?_
      rw [List.getElem?_map, List.getElem?_eq_getElem hk, Option.map_some, PaneTask.session, hsaved,
        (hold old).2 hlast, ← hcarried]
      rfl
    · refine Or.inr (two_le_countP (i := k) (j := j) (a := some s) (b := some s) hkj ?_ ?_ ?_ ?_)
      · rw [List.getElem?_map, hleaf, Option.map_some, hcarried]
      · rw [List.getElem?_map, hlater, Option.map_some, hcarried]
      · exact beq_self_eq_true _
      · exact beq_self_eq_true _

theorem Anchored.nil : Anchored [] [] :=
  ⟨rfl, fun _ _ h => h, fun _ _ h => Or.inl h⟩

theorem anchored_tabsTasks (history : Option WorkspaceHistorySnapshot) (byOldId : Assoc ℕ ℕ)
    (workspaceId : String) (snaps : List TabSnapshot) (idx next : ℕ) :
    Anchored ((tabsTasks history byOldId workspaceId snaps idx next).flatten.map (·.session))
      (snaps.flatMap fun tab => tab.layout.paneIds.map tab.sessionOf) := by
  induction snaps generalizing idx next with
  | nil => exact .nil
  | cons snap snaps ih =>
    rw [tabsTasks, List.flatten_cons, List.map_append, List.flatMap_cons]
    exact (anchored_tabTasks ..).append (ih (idx + 1) (next + snap.layout.paneIds.length))

theorem anchored_sessionTasks (history : Option SessionHistorySnapshot)
    (snaps : List WorkspaceSnapshot) (idx : ℕ) (ids : IdCounters) :
    Anchored ((sessionTasks history snaps idx ids).flatten.flatten.map (·.session))
      (snaps.flatMap fun workspace => workspace.tabs.flatMap fun tab =>
        tab.layout.paneIds.map tab.sessionOf) := by
  induction snaps generalizing idx ids with
  | nil => exact .nil
  | cons snap snaps ih =>
    rw [sessionTasks, List.flatten_cons, List.flatten_append, List.map_append, List.flatMap_cons]
    exact (anchored_tabsTasks ..).append (ih (idx + 1) (ids.after snap))

/-- Panes get new ids in their order. -/
theorem map_id_tabsTasks (history : Option WorkspaceHistorySnapshot) (byOldId : Assoc ℕ ℕ)
    (workspaceId : String) (snaps : List TabSnapshot) (idx next : ℕ) :
    (tabsTasks history byOldId workspaceId snaps idx next).flatten.map (·.id) =
      freshIds next (snaps.flatMap (·.layout.paneIds)).length := by
  induction snaps generalizing idx next with
  | nil => rfl
  | cons snap snaps ih =>
    rw [tabsTasks, List.flatten_cons, List.map_append, map_id_tabTasks, ih, List.flatMap_cons,
      List.length_append, freshIds_add]

theorem map_id_sessionTasks (history : Option SessionHistorySnapshot)
    (snaps : List WorkspaceSnapshot) (idx : ℕ) (ids : IdCounters) :
    (sessionTasks history snaps idx ids).flatten.flatten.map (·.id) = freshIds ids.nextPaneId
      (snaps.flatMap fun snap => snap.tabs.flatMap (·.layout.paneIds)).length := by
  induction snaps generalizing idx ids with
  | nil => rfl
  | cons snap snaps ih =>
    rw [sessionTasks, List.flatten_cons, List.flatten_append, List.map_append, workspaceTasks,
      map_id_tabsTasks, ih, List.flatMap_cons, List.length_append, freshIds_add]
    rfl

end Zynk
