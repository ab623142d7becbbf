import Zynk.Persist.RoundTrip
import Zynk.Persist.Tasks

/-!
# What a restored shell is told about itself

A shell starts with the public ids of its workspace, its tab and its pane in its environment. They
are put together before the workspace has given its tabs and panes their numbers : the tab id from
the position of the tab in the snapshot, not from its saved number, and the pane id only for the
last of the leaves of a tab that have one id.
-/

namespace Zynk

/-! ## The loop -/

section

variable {world : RestoreWorld} {mode : RestoreMode} {conflicting : List String}

/-- A shell starts with the environment that was looked up for its pane. -/
theorem restorePane_spawned {task : PaneTask} {st : RestoreState} {pane : RestoredPane}
    (h : (restorePane world mode conflicting task st).1 = some pane) {id : PaneId} {cwd : String}
    {env : PaneLaunchEnv} {ansi : Option String}
    (hspawned : pane.runtime = some (.spawned id cwd env ansi)) :
    id = task.id ∧ env = task.launchEnv := by
  unfold restorePane at h
  simp only at h
  split at h
  · cases h
    cases hspawned
  · split_ifs at h
    cases h
    cases hspawned
    exact ⟨rfl, rfl⟩
  · split_ifs at h
    cases h
    cases hspawned

theorem restorePanes_spawned {tasks : List PaneTask} {st : RestoreState}
    {entry : PaneTask × RestoredPane}
    (hentry : entry ∈ (restorePanes world mode conflicting tasks st).1) {id : PaneId} {cwd : String}
    {env : PaneLaunchEnv} {ansi : Option String}
    (hspawned : entry.2.runtime = some (.spawned id cwd env ansi)) :
    id = entry.1.id ∧ env = entry.1.launchEnv := by
  induction tasks generalizing st with
  | nil => cases hentry
  | cons task tasks ih =>
    rw [restorePanes_cons] at hentry
    rcases hpane : (restorePane world mode conflicting task st).1 with _ | pane
    · simp only [hpane, Option.elim_none] at hentry
      exact ih hentry
    · simp only [hpane, Option.elim_some, List.mem_cons] at hentry
      rcases hentry with rfl | hentry
      · exact restorePane_spawned hpane hspawned
      · exact ih hentry

end

/-! ## Numbers -/

/-- Every leaf has a number. -/
theorem mem_migratedPublicPaneNumbers {numbers : Assoc ℕ ℕ} {next : ℕ} {oldIds : List ℕ} {old : ℕ}
    (h : old ∈ numbers ∨ old ∈ oldIds) :
    old ∈ (migratedPublicPaneNumbers numbers next oldIds).1 := by
  induction oldIds generalizing numbers next with
  | nil => exact h.resolve_right (by simp)
  | cons other oldIds ih =>
    rw [migratedPublicPaneNumbers]
    split_ifs with hother
    · refine ih ?_
      rcases h with h | h
      · exact Or.inl h
      · exact (List.mem_cons.1 h).imp_left fun heq : old = other => heq ▸ hother
    · refine ih ?_
      rw [AList.mem_insert]
      rcases h with h | h
      · exact Or.inl (Or.inr h)
      · exact (List.mem_cons.1 h).imp_left Or.inl

/-- A pane is in tabs with the number `number` only, and has the number of the saved pane it comes
from. -/
structure NumberedAs (byOldId : Assoc ℕ ℕ) (parts : WorkspaceParts) (task : PaneTask) (number : ℕ) :
    Prop where
  placed : ∃ tab ∈ parts.tabs, task.id ∈ tab.panes
  tab : ∀ tab ∈ parts.tabs, task.id ∈ tab.panes → tab.number = number
  pane : ∀ old n, task.oldId = some old → byOldId.lookup old = some n →
    parts.publicPaneNumbers.lookup task.id = some n

/-- The panes so far are below `next`. -/
def WorkspaceParts.Below (parts : WorkspaceParts) (next : ℕ) : Prop :=
  ∀ tab ∈ parts.tabs, ∀ id ∈ tab.panes, id.raw < next

section

variable {world : RestoreWorld} {mode : RestoreMode} {conflicting : List String}
  {publicTabNumbers : List ℕ} {byOldId : Assoc ℕ ℕ} {workspaceId : String}

variable {snap : TabSnapshot} {history : Option TabHistorySnapshot}
  {publicPaneIds : ℕ → Option String} {next idx : ℕ} {st : RestoreState} {restored : RestoredTab}

/-- What is known of the panes of a restored tab. -/
theorem restoreTab_placed {number : ℕ}
    (h : (restoreTab world mode conflicting snap history number publicPaneIds workspaceId next
      st).1 = some restored) : restored.tab.number = number ∧ restored.tab.layout.paneIds.Nodup ∧
      (∀ id, id ∈ restored.tab.panes ↔ id ∈ restored.tab.layout.paneIds) ∧
      (∀ id ∈ restored.tab.layout.paneIds, next ≤ id.raw ∧
        id.raw < next + snap.layout.paneIds.length) ∧
      restored.panes = (restorePanes world mode conflicting
        (tabTasks snap history number publicPaneIds workspaceId next) st).1 ∧
      ∀ entry ∈ restored.panes, entry.1.id ∈ restored.tab.layout.paneIds ∧
        restored.reverse.lookup entry.1.id = entry.1.oldId := by
  obtain ⟨-, ⟨-, hnone⟩ | ⟨restored', hsome, -, hpanes, hreverse, hnumber, hfrom⟩⟩ :=
    restoreTab_cases world mode conflicting snap history number publicPaneIds workspaceId next st
  · rw [hnone] at h
    cases h
  rw [hsome] at h
  cases h
  have hids : ∀ id, id ∈ restored.tab.layout.paneIds ↔
      id ∈ survivors world mode conflicting snap history number publicPaneIds workspaceId next st := by
    intro id
    rw [hfrom.order, List.mem_filter, decide_eq_true_iff]
    exact ⟨And.right, fun hid => ⟨(survivors_sublist world mode conflicting snap history number
      publicPaneIds workspaceId next st).subset hid, hid⟩⟩
  refine ⟨hnumber, hfrom.nodup, hfrom.panes, fun id hid => ?_, hpanes, fun entry hentry => ⟨?_, ?_⟩⟩
  · rw [hfrom.order, List.mem_filter] at hid
    exact mem_freshIds.1 hid.1
  · rw [hpanes] at hentry
    exact (hids _).2 (List.mem_map.2 ⟨entry, hentry, rfl⟩)
  · rw [hpanes] at hentry
    have htask : entry.1 ∈ tabTasks snap history number publicPaneIds workspaceId next :=
      (restorePanes_sublist _ _).subset (List.mem_map_of_mem hentry)
    obtain ⟨id, -, heq⟩ := List.mem_map.1 htask
    rw [hreverse, ← heq]
    rfl

/-- The panes of a tab that is added are numbered. -/
theorem numberedAs_addTab
    (h : (restoreTab world mode conflicting snap history (idx + 1) publicPaneIds workspaceId next
      st).1 = some restored) {parts : WorkspaceParts} (hparts : parts.Below next)
    {entry : PaneTask × RestoredPane} (hentry : entry ∈ restored.panes) :
    NumberedAs byOldId (parts.addTab publicTabNumbers byOldId idx restored) entry.1
      (publicTabNumbers[idx]?.getD (idx + 1)) := by
  obtain ⟨hnumber, hnodup, hpanes, hrange, -, hplaced⟩ := restoreTab_placed h
  obtain ⟨hid, hreverse⟩ := hplaced entry hentry
  refine ⟨⟨_, List.mem_append_right _ (List.mem_singleton_self _), (hpanes _).2 hid⟩, ?_, ?_⟩
  · intro tab htab hmem
    rcases List.mem_append.1 htab with htab | htab
    · have hlt := hparts tab htab _ hmem
      have hle := (hrange _ hid).1
      omega
    · obtain rfl := List.mem_singleton.1 htab
      rw [← hnumber]
  · intro old n hold hn
    refine lookup_assignPaneNumbers hnodup hid ?_ _ _
    rw [hreverse, hold]
    exact hn

theorem below_addTab
    (h : (restoreTab world mode conflicting snap history (idx + 1) publicPaneIds workspaceId next
      st).1 = some restored) {parts : WorkspaceParts} (hparts : parts.Below next) :
    (parts.addTab publicTabNumbers byOldId idx restored).Below
      (next + snap.layout.paneIds.length) := by
  obtain ⟨-, -, hpanes, hrange, -⟩ := restoreTab_placed h
  intro tab htab id hid
  rcases List.mem_append.1 htab with htab | htab
  · have hlt := hparts tab htab id hid
    omega
  · obtain rfl := List.mem_singleton.1 htab
    exact (hrange id ((hpanes id).1 hid)).2

/-- Later tabs leave the numbers of earlier panes. -/
theorem NumberedAs.addTab
    (h : (restoreTab world mode conflicting snap history (idx + 1) publicPaneIds workspaceId next
      st).1 = some restored) {parts : WorkspaceParts} {task : PaneTask} (htask : task.id.raw < next)
    {number : ℕ} (hnumbered : NumberedAs byOldId parts task number) :
    NumberedAs byOldId (parts.addTab publicTabNumbers byOldId idx restored) task number := by
  obtain ⟨-, -, hpanes, hrange, -⟩ := restoreTab_placed h
  have hnot : task.id ∉ restored.tab.layout.paneIds := fun hid => by
    have hle := (hrange _ hid).1
    omega
  refine ⟨?_, ?_, ?_⟩
  · obtain ⟨tab, htab, hmem⟩ := hnumbered.placed
    exact ⟨tab, List.mem_append_left _ htab, hmem⟩
  · intro tab htab hmem
    rcases List.mem_append.1 htab with htab | htab
    · exact hnumbered.tab tab htab hmem
    · obtain rfl := List.mem_singleton.1 htab
      exact absurd ((hpanes _).1 hmem) hnot
  · intro old n hold hn
    refine (lookup_assignPaneNumbers_of_not_mem _ _ hnot _ _).trans ?_
    exact hnumbered.pane old n hold hn

/-- The task of the `j`-th leaf of tab `i`. -/
structure LeafTask (history : Option WorkspaceHistorySnapshot) (byOldId : Assoc ℕ ℕ)
    (workspaceId : String) (snaps : List TabSnapshot) (idx next i : ℕ) (tabSnap : TabSnapshot)
    (j : ℕ) (task : PaneTask) : Prop where
  tab : snaps[i]? = some tabSnap
  task : (tabTasks tabSnap (history.bind (·.tabs[idx + i]?)) (idx + i + 1)
    (fun oldId => (byOldId.lookup oldId).map (publicPaneIdForNumber workspaceId)) workspaceId
    (next + ((snaps.take i).flatMap (·.layout.paneIds)).length))[j]? = some task

theorem LeafTask.cons {history : Option WorkspaceHistorySnapshot} {snaps : List TabSnapshot} {i : ℕ}
    {tabSnap : TabSnapshot} {j : ℕ} {task : PaneTask}
    (h : LeafTask history byOldId workspaceId snaps (idx + 1) (next + snap.layout.paneIds.length) i
      tabSnap j task) :
    LeafTask history byOldId workspaceId (snap :: snaps) idx next (i + 1) tabSnap j task := by
  refine ⟨h.tab, ?_⟩
  rw [List.take_succ_cons, List.flatMap_cons, List.length_append, ← Nat.add_assoc next,
    ← Nat.add_assoc idx, Nat.add_right_comm idx i 1]
  exact h.task

/-- The loop numbers every pane it restores : its tab as the snapshot says, and itself as the
saved pane it comes from. -/
theorem restoreTabs_numbered {history : Option WorkspaceHistorySnapshot} (snaps : List TabSnapshot)
    (idx : ℕ) {parts : WorkspaceParts} {next : ℕ} (hparts : parts.Below next) (st : RestoreState) :
    (∀ task number, task.id.raw < next → NumberedAs byOldId parts task number →
      NumberedAs byOldId (restoreTabs world mode conflicting history publicTabNumbers byOldId
        workspaceId snaps idx parts next st).1 task number) ∧
    ∀ entry ∈ (restoreTabs world mode conflicting history publicTabNumbers byOldId workspaceId snaps
        idx parts next st).1.panes, entry ∈ parts.panes ∨
      ∃ i tabSnap j, LeafTask history byOldId workspaceId snaps idx next i tabSnap j entry.1 ∧
        NumberedAs byOldId (restoreTabs world mode conflicting history publicTabNumbers byOldId
          workspaceId snaps idx parts next st).1 entry.1
          (publicTabNumbers[idx + i]?.getD (idx + i + 1)) := by
  induction snaps generalizing idx parts next st with
  | nil => exact ⟨fun _ _ _ h => h, fun _ h => Or.inl h⟩
  | cons snap snaps ih =>
    rw [restoreTabs_cons]
    have hsnd := restoreTab_snd world mode conflicting snap (history.bind (·.tabs[idx]?)) (idx + 1)
      (fun oldId => (byOldId.lookup oldId).map (publicPaneIdForNumber workspaceId)) workspaceId next st
    simp only [hsnd]
    generalize (restorePanes world mode conflicting _ st).2 = st'
    rcases hrestored : (restoreTab world mode conflicting snap (history.bind (·.tabs[idx]?))
      (idx + 1) (fun oldId => (byOldId.lookup oldId).map (publicPaneIdForNumber workspaceId))
      workspaceId next st).1 with _ | restored
    · have hbelow : parts.Below (next + snap.layout.paneIds.length) := fun tab htab id hid =>
        (hparts tab htab id hid).trans_le (Nat.le_add_right _ _)
      obtain ⟨hframe, hpanes⟩ := ih (idx + 1) hbelow st'
      refine ⟨fun task number hlt => hframe task number (by omega), fun entry hentry => ?_⟩
      refine (hpanes entry hentry).imp_right ?_
      rintro ⟨i, tabSnap, j, hleaf, hnumbered⟩
      rw [Nat.add_right_comm idx 1 i] at hnumbered
      exact ⟨i + 1, tabSnap, j, hleaf.cons, hnumbered⟩
    · obtain ⟨hframe, hpanes⟩ := ih (idx + 1) (below_addTab hrestored hparts) st'
      refine ⟨fun task number hlt hnumbered =>
        hframe task number (by omega) (hnumbered.addTab hrestored hlt), fun entry hentry => ?_⟩
      rcases hpanes entry hentry with hentry | ⟨i, tabSnap, j, hleaf, hnumbered⟩
      · rcases List.mem_append.1 hentry with hentry | hentry
        · exact Or.inl hentry
        · -- A pane of this tab.
          obtain ⟨-, -, -, hrange, hloop, hplaced⟩ := restoreTab_placed hrestored
          have hnumbered := hframe entry.1 _ (hrange _ (hplaced entry hentry).1).2
            (numberedAs_addTab hrestored hparts hentry)
          rw [hloop] at hentry
          have htask := (restorePanes_sublist _ _).subset (List.mem_map_of_mem hentry)
          obtain ⟨j, hj⟩ := List.mem_iff_getElem?.1 htask
          exact Or.inr ⟨0, snap, j, ⟨rfl, hj⟩, hnumbered⟩
      · rw [Nat.add_right_comm idx 1 i] at hnumbered
        exact Or.inr ⟨i + 1, tabSnap, j, hleaf.cons, hnumbered⟩

end

/-! ## Identities -/

/-- A shell was started with the ids of the pane, of its tab and of the workspace. -/
def LaunchedAs (ws : Workspace) (id : PaneId) (env : PaneLaunchEnv) : Prop :=
  ∃ tab ∈ ws.tabs, id ∈ tab.panes ∧ ∃ number, ws.publicPaneNumbers.lookup id = some number ∧
    env.identity = .managed ws.id (publicTabIdForNumber ws.id tab.number)
      (publicPaneIdForNumber ws.id number)

/-- The number of the tab at `i`, saved or not, is written like `i + 1`. -/
theorem publicTabIdForNumber_eq_iff {workspaceId : String} {publicTabNumbers : List ℕ} {i : ℕ} :
    publicTabIdForNumber workspaceId (i + 1) =
        publicTabIdForNumber workspaceId (publicTabNumbers[i]?.getD (i + 1)) ↔
      ∀ number, publicTabNumbers[i]? = some number →
        number = i + 1 ∨ (number = 0 ∧ i + 1 = 32) := by
  rw [publicTabIdForNumber_inj, encodePublicNumber_inj]
  rcases publicTabNumbers[i]? with _ | number
  · simp
  · simp only [Option.getD_some, Option.some.injEq, forall_eq']
    omega

/-- A shell that is spawned for the `j`-th leaf of tab `i` has the ids that its pane has in the
restored workspace if and only if no later leaf of the tab has the id of the leaf and the saved
number of the tab, if there is one, is written like `i + 1`. -/
theorem launch_identity_iff {world : RestoreWorld} {mode : RestoreMode} {conflicting : List String}
    {snap : WorkspaceSnapshot} {history : Option WorkspaceHistorySnapshot} {ids : IdCounters}
    {st : RestoreState} {restored : RestoredWorkspace}
    (h : (restoreWorkspace world mode conflicting snap history ids st).1 = some restored)
    {entry : PaneTask × RestoredPane} (hentry : entry ∈ restored.panes) {id : PaneId} {cwd : String}
    {env : PaneLaunchEnv} {ansi : Option String}
    (hspawned : entry.2.runtime = some (.spawned id cwd env ansi)) :
    ∃ (i : ℕ) (tabSnap : TabSnapshot) (j : ℕ), snap.tabs[i]? = some tabSnap ∧
      j < tabSnap.layout.paneIds.length ∧
      id = ⟨ids.nextPaneId + ((snap.tabs.take i).flatMap (·.layout.paneIds)).length + j⟩ ∧
      (LaunchedAs restored.workspace id env ↔
        (∃ old, LastLeaf tabSnap.layout.paneIds old j) ∧
          ∀ number, snap.publicTabNumbers[i]? = some number →
            number = i + 1 ∨ (number = 0 ∧ i + 1 = 32)) := by
  obtain ⟨hpanes, -⟩ := restoreWorkspace_panes world mode conflicting snap history ids st
  rw [h, Option.elim_some] at hpanes
  obtain ⟨rfl, rfl⟩ := restorePanes_spawned (hpanes ▸ hentry) hspawned
  obtain ⟨-, ⟨-, hnone⟩ | ⟨restored', hsome, -, hparts, hid, htabs, hnumbers⟩⟩ :=
    restoreWorkspace_cases world mode conflicting snap history ids st
  · rw [hnone] at h
    cases h
  rw [hsome] at h
  cases h
  rw [hparts] at hentry
  obtain ⟨-, hloop⟩ := @restoreTabs_numbered world mode conflicting snap.publicTabNumbers
    (restoredPaneNumbers snap).1 (restoredWorkspaceId snap ids).1 history snap.tabs 0
    { nextPublicPaneNumber := (restoredPaneNumbers snap).2
      nextPublicTabNumber := nextNumber snap.publicTabNumbers snap.nextPublicTabNumber }
    (restoredWorkspaceId snap ids).2.nextPaneId (fun tab htab => by cases htab) st
  obtain ⟨i, tabSnap, j, hleaf, hnumbered⟩ := (hloop entry hentry).resolve_left (by simp)
  obtain ⟨hj, hentryId, hold, -, henv⟩ := tabTasks_getElem? hleaf.task
  rw [restoredWorkspaceId_nextPaneId] at hentryId
  refine ⟨i, tabSnap, j, hleaf.tab, hj, hentryId, ?_⟩
  rw [Nat.zero_add] at henv hnumbered
  rw [← @publicTabIdForNumber_eq_iff (restoredWorkspaceId snap ids).1]
  unfold LaunchedAs
  rw [hid, htabs, hnumbers]
  rcases holdId : entry.1.oldId with _ | old
  · -- The pane does not know its leaf.
    rw [holdId] at henv
    refine iff_of_false ?_ ?_
    · rintro ⟨tab, -, -, number, -, hidentity⟩
      rw [henv] at hidentity
      cases hidentity
    · rintro ⟨⟨old, hlast⟩, -⟩
      rw [(hold old).2 hlast] at holdId
      cases holdId
  · have hlast := (hold old).1 holdId
    have hmem : old ∈ (restoredPaneNumbers snap).1 := mem_migratedPublicPaneNumbers <| Or.inr <|
      List.mem_flatMap.2 ⟨tabSnap, List.mem_of_getElem? hleaf.tab, List.mem_of_getElem? hlast.getElem?⟩
    obtain ⟨n, hn⟩ := Option.isSome_iff_exists.1 (AList.lookup_isSome.2 hmem)
    have hpane := hnumbered.pane old n holdId hn
    rw [holdId, Option.bind_some, hn] at henv
    constructor
    · rintro ⟨tab, htab, hin, number, -, hidentity⟩
      rw [henv, ← hnumbered.tab tab htab hin] at *
      simp only [Option.map_some, Option.elim_some, PaneLaunchIdentity.managed.injEq] at hidentity
      exact ⟨⟨old, hlast⟩, hidentity.2.1⟩
    · rintro ⟨-, htab⟩
      obtain ⟨tab, hmem, hin⟩ := hnumbered.placed
      refine ⟨tab, hmem, hin, n, hpane, ?_⟩
      rw [henv, hnumbered.tab tab hmem hin, ← htab]
      rfl

/-- The workspace with the tab 3, restored with every shell starting. -/
def restoredSplit : Option RestoredWorkspace :=
  (restoreWorkspace startingWorld ⟨true, false⟩ []
    (captureWorkspace (fun _ => { cwd := "/" }) "/" splitWorkspace) none ⟨1, 1⟩ ⟨1, [], ∅, 0⟩).1

theorem launch_identity_iff_split :
    ∃ restored entry id cwd env ansi, restoredSplit = some restored ∧ entry ∈ restored.panes ∧
      entry.2.runtime = some (.spawned id cwd env ansi) ∧
      ∃ (i : ℕ) (tabSnap : TabSnapshot) (j : ℕ),
        (captureWorkspace (fun _ => { cwd := "/" }) "/" splitWorkspace).tabs[i]? = some tabSnap ∧
        j < tabSnap.layout.paneIds.length ∧
        id = ⟨1 + (((captureWorkspace (fun _ => { cwd := "/" }) "/" splitWorkspace).tabs.take
          i).flatMap (·.layout.paneIds)).length + j⟩ ∧
        (LaunchedAs restored.workspace id env ↔
          (∃ old, LastLeaf tabSnap.layout.paneIds old j) ∧
            ∀ number, (captureWorkspace (fun _ => { cwd := "/" }) "/"
              splitWorkspace).publicTabNumbers[i]? = some number →
                number = i + 1 ∨ (number = 0 ∧ i + 1 = 32)) := by
  obtain ⟨restored, entry, id, cwd, env, ansi, hrestored, hentry, hspawned⟩ :
      ∃ restored entry id cwd env ansi, restoredSplit = some restored ∧ entry ∈ restored.panes ∧
        entry.2.runtime = some (.spawned id cwd env ansi) :=
    ⟨_, _, _, _, _, _, rfl, List.mem_cons_self .., rfl⟩
  exact ⟨restored, entry, id, cwd, env, ansi, hrestored, hentry, hspawned,
    launch_identity_iff hrestored hentry hspawned⟩

/-- The shells of the tab 3 are told that they are in the tab 1. -/
theorem split_launched_as_other_tab :
    ∃ restored entry id cwd env ansi, restoredSplit = some restored ∧ entry ∈ restored.panes ∧
      entry.2.runtime = some (.spawned id cwd env ansi) ∧
      ¬ LaunchedAs restored.workspace id env := by
  refine ⟨_, _, _, _, _, _, rfl, List.mem_cons_self .., rfl, ?_⟩
  rintro ⟨tab, htab, -, number, -, hidentity⟩
  obtain rfl := List.mem_singleton.1 htab
  have htabId : publicTabIdForNumber "w1" 1 = publicTabIdForNumber "w1" 3 := by
    injection hidentity
  rw [publicTabIdForNumber_inj, encodePublicNumber_inj] at htabId
  omega

end Zynk
