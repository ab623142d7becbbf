import Zynk.Persist.Exclusive

/-!
# Aliases after a handoff

The panes of a restored session have new ids, and `handoff_pane_aliases` tells clients which. It
does not ask which pane was restored from which : it walks through the snapshot and the restored
workspaces side by side. A workspace, a tab or a pane that was dropped moves what comes after it to
the place of another.

What is restored is known before the restore (`keptWorkspaces`), and so is what stands opposite to
what (`Opposite`). The aliases are right exactly if it stands in its own place (`Aligned`).
-/

namespace Zynk

/-! ## What is kept -/

/-- The panes of the tabs of a workspace that start. A tab without such panes is dropped. -/
def keptTabs (starts : PaneTask → Bool) (tabs : List (List PaneTask)) : List (List PaneTask) :=
  (tabs.map (·.filter starts)).filter (!·.isEmpty)

def keptWorkspaces (starts : PaneTask → Bool) (workspaces : List (List (List PaneTask))) :
    List (List (List PaneTask)) :=
  (workspaces.map (keptTabs starts)).filter (!·.isEmpty)

theorem keptTabs_cons (starts : PaneTask → Bool) (tab : List PaneTask)
    (tabs : List (List PaneTask)) :
    keptTabs starts (tab :: tabs) = keptTabs starts [tab] ++ keptTabs starts tabs := by
  rw [keptTabs, keptTabs, keptTabs, ← List.filter_append, ← List.map_append, List.singleton_append]

theorem keptWorkspaces_cons (starts : PaneTask → Bool) (tabs : List (List PaneTask))
    (workspaces : List (List (List PaneTask))) :
    keptWorkspaces starts (tabs :: workspaces) =
      (if (keptTabs starts tabs).isEmpty then [] else [keptTabs starts tabs]) ++
        keptWorkspaces starts workspaces := by
  rw [keptWorkspaces, keptWorkspaces, List.map_cons, List.filter_cons]
  rcases (keptTabs starts tabs).isEmpty with _ | _ <;> rfl

theorem flatten_filter_isEmpty {α : Type} (l : List (List α)) :
    (l.filter (!·.isEmpty)).flatten = l.flatten := by
  induction l with
  | nil => rfl
  | cons a l ih =>
    rcases a with _ | ⟨x, a⟩
    · simpa using ih
    · simpa using ih

theorem flatten_keptTabs (starts : PaneTask → Bool) (tabs : List (List PaneTask)) :
    (keptTabs starts tabs).flatten = tabs.flatten.filter starts := by
  rw [keptTabs, flatten_filter_isEmpty, List.filter_flatten]

theorem flatten_keptWorkspaces (starts : PaneTask → Bool)
    (workspaces : List (List (List PaneTask))) :
    (keptWorkspaces starts workspaces).flatten.flatten =
      workspaces.flatten.flatten.filter starts := by
  rw [keptWorkspaces, flatten_filter_isEmpty]
  induction workspaces with
  | nil => rfl
  | cons tabs workspaces ih =>
    rw [List.map_cons, List.flatten_cons, List.flatten_append, flatten_keptTabs, ih,
      List.flatten_cons, List.flatten_append, List.filter_append]

/-! ## What is restored -/

/-- The ids of the tasks that start, read off the ids of all. -/
theorem filter_ids {tasks : List PaneTask} (hnodup : (tasks.map (·.id)).Nodup)
    (starts : PaneTask → Bool) :
    (tasks.map (·.id)).filter (· ∈ (tasks.filter starts).map (·.id)) =
      (tasks.filter starts).map (·.id) := by
  rw [List.filter_map]
  refine congrArg (List.map _) (List.filter_congr fun task htask => ?_)
  rw [Bool.eq_iff_iff, Function.comp_apply, decide_eq_true_iff, List.mem_map]
  constructor
  · rintro ⟨task', htask', hid⟩
    rw [List.mem_filter] at htask'
    obtain rfl := List.inj_on_of_nodup_map hnodup htask'.1 htask hid
    exact htask'.2
  · exact fun hstarts => ⟨task, List.mem_filter.2 ⟨htask, hstarts⟩, rfl⟩

section

variable {world : RestoreWorld} {mode : RestoreMode} {conflicting : List String}
  {starts : PaneTask → Bool}

/-- The panes of a restored tab are those that start. -/
theorem restoreTab_kept {snap : TabSnapshot} {history : Option TabHistorySnapshot} {number : ℕ}
    {publicPaneIds : ℕ → Option String} {workspaceId : String} {next : ℕ} {st : RestoreState}
    (hkept : (restorePanes world mode conflicting
      (tabTasks snap history number publicPaneIds workspaceId next) st).1.map (·.1) =
        (tabTasks snap history number publicPaneIds workspaceId next).filter starts) :
    ((restoreTab world mode conflicting snap history number publicPaneIds workspaceId next
        st).1.elim [] fun restored => [restored.tab.layout.paneIds]) =
      (keptTabs starts [tabTasks snap history number publicPaneIds workspaceId next]).map
        (·.map (·.id)) := by
  have hsurvivors : survivors world mode conflicting snap history number publicPaneIds workspaceId
      next st = ((tabTasks snap history number publicPaneIds workspaceId next).filter starts).map
        (·.id) := by
    rw [← hkept, List.map_map]
    rfl
  have hids := map_id_tabTasks snap history number publicPaneIds workspaceId next
  obtain ⟨-, ⟨hempty, hnone⟩ | ⟨restored, hsome, hne, -, -, -, hfrom⟩⟩ := restoreTab_cases world mode
    conflicting snap history number publicPaneIds workspaceId next st
  · rw [hsurvivors, List.map_eq_nil_iff] at hempty
    rw [hnone, keptTabs, List.map_singleton, hempty]
    rfl
  · rw [hsurvivors, Ne, List.map_eq_nil_iff] at hne
    have horder := hfrom.order
    rw [hsurvivors, ← hids, filter_ids (hids ▸ nodup_freshIds _ _)] at horder
    rw [hsome, Option.elim_some, horder, keptTabs, List.map_singleton,
      List.filter_cons_of_pos (by simpa using hne)]
    rfl

/-- Wherever the loop is in the panes of the session, it restores those that start. -/
def KeepsStarting (world : RestoreWorld) (mode : RestoreMode) (conflicting : List String)
    (starts : PaneTask → Bool) (all : List PaneTask) (st : RestoreState) : Prop :=
  ∀ pre tasks post, all = pre ++ tasks ++ post →
    (restorePanes world mode conflicting tasks (restorePanes world mode conflicting pre st).2).1.map
      (·.1) = tasks.filter starts

variable {all : List PaneTask} {st : RestoreState}

theorem restoreTabs_kept (hstarting : KeepsStarting world mode conflicting starts all st)
    {history : Option WorkspaceHistorySnapshot} {publicTabNumbers : List ℕ} {byOldId : Assoc ℕ ℕ}
    {workspaceId : String} {snaps : List TabSnapshot} {idx : ℕ} {parts : WorkspaceParts} {next : ℕ}
    (pre post : List PaneTask)
    (hall : all = pre ++ (tabsTasks history byOldId workspaceId snaps idx next).flatten ++ post) :
    (restoreTabs world mode conflicting history publicTabNumbers byOldId workspaceId snaps idx parts
        next (restorePanes world mode conflicting pre st).2).1.tabs.map (·.layout.paneIds) =
      parts.tabs.map (·.layout.paneIds) ++
        (keptTabs starts (tabsTasks history byOldId workspaceId snaps idx next)).map
          (·.map (·.id)) := by
  induction snaps generalizing idx parts next pre with
  | nil => exact (List.append_nil _).symm
  | cons snap snaps ih =>
    rw [tabsTasks, List.flatten_cons] at hall
    have htab := @restoreTab_kept world mode conflicting starts snap (history.bind (·.tabs[idx]?))
      (idx + 1) (fun oldId => (byOldId.lookup oldId).map (publicPaneIdForNumber workspaceId))
      workspaceId next _ (hstarting pre _
      ((tabsTasks history byOldId workspaceId snaps (idx + 1)
        (next + snap.layout.paneIds.length)).flatten ++ post) (by rw [hall]; simp))
    have hsnd := restoreTab_snd world mode conflicting snap (history.bind (·.tabs[idx]?)) (idx + 1)
      (fun oldId => (byOldId.lookup oldId).map (publicPaneIdForNumber workspaceId)) workspaceId next
      (restorePanes world mode conflicting pre st).2
    have hstate := congrArg Prod.snd (restorePanes_append world mode conflicting pre
      (tabTasks snap (history.bind (·.tabs[idx]?)) (idx + 1)
        (fun oldId => (byOldId.lookup oldId).map (publicPaneIdForNumber workspaceId)) workspaceId
        next) st)
    rw [restoreTabs_cons, tabsTasks, keptTabs_cons, List.map_append, ← htab]
    simp only [hsnd]
    rw [← hstate, ih _ (by rw [hall]; simp), ← List.append_assoc]
    congr 1
    rcases (restoreTab world mode conflicting snap (history.bind (·.tabs[idx]?)) (idx + 1)
      (fun oldId => (byOldId.lookup oldId).map (publicPaneIdForNumber workspaceId)) workspaceId next
      (restorePanes world mode conflicting pre st).2).1 with _ | restored
    · simp
    · simp [WorkspaceParts.addTab]

/-- The trees of the restored workspaces. -/
theorem restoreWorkspaces_kept (hstarting : KeepsStarting world mode conflicting starts all st)
    {history : Option SessionHistorySnapshot} {snaps : List WorkspaceSnapshot} {idx : ℕ}
    {ids : IdCounters} {pre post : List PaneTask}
    (hall : all = pre ++ (sessionTasks history snaps idx ids).flatten.flatten ++ post) :
    ((restoreWorkspaces world mode conflicting history snaps idx ids
        (restorePanes world mode conflicting pre st).2).1.map fun restored =>
          restored.workspace.tabs.map (·.layout.paneIds)) =
      (keptWorkspaces starts (sessionTasks history snaps idx ids)).map
        (·.map (·.map (·.id))) := by
  induction snaps generalizing idx ids pre with
  | nil => rfl
  | cons snap snaps ih =>
    rw [sessionTasks, List.flatten_cons, List.flatten_append] at hall
    have htasks : tabsTasks (history.bind (·.workspaces[idx]?)) (restoredPaneNumbers snap).1
        (restoredWorkspaceId snap ids).1 snap.tabs 0 (restoredWorkspaceId snap ids).2.nextPaneId =
        workspaceTasks snap (history.bind (·.workspaces[idx]?)) ids := by
      rw [restoredWorkspaceId_nextPaneId, workspaceTasks]
    have htabs : (workspaceLoop world mode conflicting snap (history.bind (·.workspaces[idx]?)) ids
        (restorePanes world mode conflicting pre st).2).1.tabs.map (·.layout.paneIds) =
        (keptTabs starts (workspaceTasks snap (history.bind (·.workspaces[idx]?)) ids)).map
          (·.map (·.id)) := by
      rw [← htasks]
      refine restoreTabs_kept hstarting pre
        ((sessionTasks history snaps (idx + 1) (ids.after snap)).flatten.flatten ++ post) ?_
      rw [htasks, hall]
      simp
    have hsnd := (restoreWorkspace_panes world mode conflicting snap
      (history.bind (·.workspaces[idx]?)) ids (restorePanes world mode conflicting pre st).2).2
    have hstate := congrArg Prod.snd (restorePanes_append world mode conflicting pre
      (workspaceTasks snap (history.bind (·.workspaces[idx]?)) ids).flatten st)
    have hrest := @ih (idx + 1) (ids.after snap) (pre ++ (workspaceTasks snap
      (history.bind (·.workspaces[idx]?)) ids).flatten) (by rw [hall]; simp)
    rw [hstate] at hrest
    rw [sessionTasks, keptWorkspaces_cons, List.map_append, ← hrest, restoreWorkspaces]
    simp only [hsnd]
    obtain ⟨-, ⟨hempty, hnone⟩ | ⟨restored, hsome, hne, -, -, hrestored, -⟩⟩ := restoreWorkspace_cases
      world mode conflicting snap (history.bind (·.workspaces[idx]?)) ids
      (restorePanes world mode conflicting pre st).2
    · rw [hempty, List.map_nil, eq_comm, List.map_eq_nil_iff] at htabs
      simp only [hnone, htabs, Option.elim_none, List.isEmpty_nil, if_true, List.map_nil,
        List.nil_append]
    · have hkept : (keptTabs starts
          (workspaceTasks snap (history.bind (·.workspaces[idx]?)) ids)).isEmpty = false := by
        rw [List.isEmpty_eq_false_iff]
        rintro hnil
        rw [hnil, List.map_nil, List.map_eq_nil_iff] at htabs
        exact hne htabs
      simp only [hsome, Option.elim_some, List.map_cons, hrestored, htabs, hkept, Bool.false_eq_true,
        if_false, List.map_nil, List.singleton_append]

end

open Classical in
/-- A restore in which no import fails. -/
theorem keepsStarting_of_ok {world : RestoreWorld} {mode : RestoreMode} {conflicting : List String}
    {imports : Assoc ℕ ImportedHandoffRuntime} {all : List PaneTask} {st : RestoreState}
    (hst : AfterPanes imports [] st) (hknown : ConflictsKnown conflicting all) (hnodup : all.Nodup)
    (hok : (restorePanes world mode conflicting all st).2.failedImports = st.failedImports) :
    KeepsStarting world mode conflicting (fun task => StartsIn world mode conflicting imports all task) all
      st := by
  rintro pre tasks post rfl
  rcases hpre : restorePanes world mode conflicting pre st with ⟨prePanes, st₁⟩
  rcases htasks : restorePanes world mode conflicting tasks st₁ with ⟨panes, st₂⟩
  rcases hpost : restorePanes world mode conflicting post st₂ with ⟨postPanes, st₃⟩
  simp only [restorePanes_append, hpre, htasks, hpost] at hok
  have hknown₁ : ConflictsKnown conflicting (pre ++ tasks) :=
    hknown.sublist (List.sublist_append_left _ _)
  obtain ⟨hst₁, hle₁, -⟩ := restorePanes_spec hst
    (hknown₁.sublist (List.sublist_append_left _ _)) hpre
  obtain ⟨hst₂, hle₂, -, hfilter, -⟩ := restorePanes_spec hst₁ hknown₁ htasks
  obtain ⟨-, hle₃, -⟩ := restorePanes_spec hst₂ hknown hpost
  refine hfilter (by omega) _ fun before task after heq => ?_
  subst heq
  have hall : pre ++ (before ++ task :: after) ++ post =
      (pre ++ before) ++ task :: (after ++ post) := by simp
  rw [hall] at hnodup ⊢
  rw [decide_eq_true_iff, startsIn_iff hnodup, List.nil_append]

/-! ## Side by side -/

section

variable {α β : Type} {snapshot : SessionSnapshot}

/-- The leaves of a snapshot beside what has their places in `trees`. -/
def sideBySide (snapshot : SessionSnapshot) (trees : List (List (List α))) : List (ℕ × α) :=
  (snapshot.workspaces.zip trees).flatMap fun (wsSnap, tabs) =>
    (wsSnap.tabs.zip tabs).flatMap fun (tabSnap, leaves) => tabSnap.layout.paneIds.zip leaves

/-- The leaf `old` of the snapshot and `a` have one place. -/
def Opposite (snapshot : SessionSnapshot) (trees : List (List (List α))) (old : ℕ) (a : α) : Prop :=
  ∃ i j l : ℕ, ((snapshot.workspaces[i]?.bind (·.tabs[j]?)).bind (·.layout.paneIds[l]?)) = some old ∧
    ((trees[i]?.bind (·[j]?)).bind (·[l]?)) = some a

theorem mem_zip_iff {l : List α} {l' : List β} {a : α} {b : β} :
    (a, b) ∈ l.zip l' ↔ ∃ i : ℕ, l[i]? = some a ∧ l'[i]? = some b := by
  simp [List.mem_iff_getElem?, List.getElem?_zip_eq_some]

theorem mem_sideBySide {trees : List (List (List α))} {old : ℕ} {a : α} :
    (old, a) ∈ sideBySide snapshot trees ↔ Opposite snapshot trees old a := by
  simp only [sideBySide, List.mem_flatMap, Prod.exists, mem_zip_iff, Opposite,
    Option.bind_eq_some_iff]
  constructor
  · rintro ⟨wsSnap, tabs, ⟨i, hws, htabs⟩, tabSnap, leaves, ⟨j, htab, hleaves⟩, l, hold, ha⟩
    exact ⟨i, j, l, ⟨tabSnap, ⟨wsSnap, hws, htab⟩, hold⟩, ⟨leaves, ⟨tabs, htabs, hleaves⟩, ha⟩⟩
  · rintro ⟨i, j, l, ⟨tabSnap, ⟨wsSnap, hws, htab⟩, hold⟩, ⟨leaves, ⟨tabs, htabs, hleaves⟩, ha⟩⟩
    exact ⟨wsSnap, tabs, ⟨i, hws, htabs⟩, tabSnap, leaves, ⟨j, htab, hleaves⟩, l, hold, ha⟩

theorem sideBySide_map (f : α → β) (trees : List (List (List α))) :
    sideBySide snapshot (trees.map (·.map (·.map f))) =
      (sideBySide snapshot trees).map fun e => (e.1, f e.2) := by
  simp only [sideBySide, List.zip_map_right, List.flatMap_map, List.map_flatMap]
  refine List.flatMap_congr fun e _ => ?_
  simp only [Prod.map_snd, Prod.map_fst, List.zip_map_right, List.flatMap_map, id]
  refine List.flatMap_congr fun e _ => ?_
  rfl

theorem map_snd_zip_sublist (l : List α) (l' : List β) : ((l.zip l').map (·.2)).Sublist l' := by
  induction l generalizing l' with
  | nil => exact List.nil_sublist l'
  | cons a l ih =>
    rcases l' with _ | ⟨b, l'⟩
    · exact List.nil_sublist _
    · exact (ih l').cons_cons b

theorem flatMap_zip_sublist {γ δ : Type} {f : γ × β → List (δ × α)} {g : β → List α}
    (h : ∀ c b, ((f (c, b)).map (·.2)).Sublist (g b)) (l : List γ) (l' : List β) :
    (((l.zip l').flatMap f).map (·.2)).Sublist (l'.flatMap g) := by
  induction l generalizing l' with
  | nil => exact List.nil_sublist _
  | cons c l ih =>
    rcases l' with _ | ⟨b, l'⟩
    · exact List.nil_sublist _
    · rw [List.zip_cons_cons, List.flatMap_cons, List.map_append, List.flatMap_cons]
      exact (h c b).append (ih l')

/-- What is beside the leaves comes in its order. -/
theorem sideBySide_sublist (trees : List (List (List α))) :
    ((sideBySide snapshot trees).map (·.2)).Sublist trees.flatten.flatten := by
  have hflatten : trees.flatten.flatten = trees.flatMap fun tabs => tabs.flatMap id := by
    simp [List.flatMap_def, List.flatten_flatten]
  rw [hflatten]
  refine flatMap_zip_sublist (fun wsSnap tabs => ?_) snapshot.workspaces trees
  exact flatMap_zip_sublist (fun tabSnap leaves => map_snd_zip_sublist _ _) wsSnap.tabs tabs

end

/-! ## Aliases -/

/-- What is kept of the panes of a handoff. -/
noncomputable def keptByHandoff (world : RestoreWorld) (snapshot : SessionSnapshot)
    (imports : Assoc ℕ ImportedHandoffRuntime) (ids : IdCounters) : List (List (List PaneTask)) := by
  classical
  exact keptWorkspaces (fun task => StartsIn world ⟨true, true⟩
    (conflictingSnapshotAgentSessions snapshot) imports
    (sessionTasks none snapshot.workspaces 0 ids).flatten.flatten task)
    (sessionTasks none snapshot.workspaces 0 ids)

/-- `new` is a pane of the restored workspaces, and `old` is the saved pane it was restored from. -/
def IsRestoredFrom (snapshot : SessionSnapshot) (ids : IdCounters) (workspaces : List Workspace)
    (new : PaneId) (old : ℕ) : Prop :=
  (∃ ws ∈ workspaces, ∃ tab ∈ ws.tabs, new ∈ tab.layout.paneIds) ∧
    ∃ task ∈ (sessionTasks none snapshot.workspaces 0 ids).flatten.flatten,
      task.id = new ∧ task.oldId = some old

/-- An alias leads from a saved pane to the pane restored from it, and every restored pane whose
id has changed has its alias. -/
structure AliasesCorrect (snapshot : SessionSnapshot) (ids : IdCounters)
    (workspaces : List Workspace) : Prop where
  sound : ∀ old new, (handoffPaneAliases snapshot workspaces).lookup old = some new →
    IsRestoredFrom snapshot ids workspaces new old
  complete : ∀ old new, IsRestoredFrom snapshot ids workspaces new old → old ≠ new.raw →
    (handoffPaneAliases snapshot workspaces).lookup old = some new

/-- What is kept stands in its own place, as far as ids change. -/
structure Aligned (snapshot : SessionSnapshot) (kept : List (List (List PaneTask))) : Prop where
  inPlace : ∀ task ∈ kept.flatten.flatten, ∀ old, task.oldId = some old → old ≠ task.id.raw →
    Opposite snapshot kept old task
  once : ∀ task ∈ kept.flatten.flatten, ∀ task' ∈ kept.flatten.flatten, ∀ old,
    task.oldId = some old → task'.oldId = some old → old ≠ task.id.raw → old ≠ task'.id.raw →
    task.id = task'.id
  covered : ∀ task ∈ kept.flatten.flatten, ∀ old, Opposite snapshot kept old task →
    old ≠ task.id.raw → task.oldId = some old ∨
      ∃ task' ∈ kept.flatten.flatten, Opposite snapshot kept old task' ∧ old ≠ task'.id.raw ∧
        task.id.raw < task'.id.raw

/-- The aliases are what stands side by side with a changed id. -/
theorem handoffPaneAliases_eq (snapshot : SessionSnapshot) (workspaces : List Workspace) :
    handoffPaneAliases snapshot workspaces = Assoc.ofList
      ((sideBySide snapshot (workspaces.map (·.tabs.map (·.layout.paneIds)))).filter
        fun (oldId, newId) => oldId ≠ newId.raw) := by
  unfold handoffPaneAliases sideBySide
  simp only [List.zip_map_right, List.flatMap_map, Prod.map_fst, Prod.map_snd, id]

section

variable {snapshot : SessionSnapshot} {ids : IdCounters} {workspaces : List Workspace}
  {kept : List (List (List PaneTask))} {n : ℕ}

/-- An alias leads to the last pane with a changed id that stands opposite the saved one. -/
theorem lookup_handoffPaneAliases
    (htrees : workspaces.map (·.tabs.map (·.layout.paneIds)) = kept.map (·.map (·.map (·.id))))
    (hkept : (kept.flatten.flatten.map (·.id)).Sublist (freshIds ids.nextPaneId n)) (old : ℕ)
    (new : PaneId) :
    (handoffPaneAliases snapshot workspaces).lookup old = some new ↔
      ∃ task ∈ kept.flatten.flatten, task.id = new ∧ Opposite snapshot kept old task ∧
        old ≠ new.raw ∧ ∀ task' ∈ kept.flatten.flatten, Opposite snapshot kept old task' →
          old ≠ task'.id.raw → task'.id.raw ≤ new.raw := by
  have hmem : ∀ old new, (old, new) ∈ ((sideBySide snapshot kept).map fun e => (e.1, e.2.id)).filter
      (fun e => decide (e.1 ≠ e.2.raw)) ↔
      ∃ task ∈ kept.flatten.flatten, task.id = new ∧ Opposite snapshot kept old task ∧
        old ≠ new.raw := by
    intro old new
    simp only [List.mem_filter, List.mem_map, decide_eq_true_eq]
    constructor
    · rintro ⟨⟨⟨old, task⟩, htask, heq⟩, hne⟩
      cases heq
      exact ⟨task, (sideBySide_sublist kept).subset (List.mem_map_of_mem htask), rfl,
        mem_sideBySide.1 htask, hne⟩
    · rintro ⟨task, -, rfl, htask, hne⟩
      exact ⟨⟨(old, task), mem_sideBySide.2 htask, rfl⟩, hne⟩
  have hsorted : (((sideBySide snapshot kept).map fun e => (e.1, e.2.id)).filter
      fun e => decide (e.1 ≠ e.2.raw)).Pairwise fun e e' => e.2.raw < e'.2.raw := by
    refine List.Pairwise.filter _ ?_
    rw [List.pairwise_map]
    have hids := ((@sideBySide_sublist PaneTask snapshot kept).map (·.id)).trans hkept
    have hfresh : (freshIds ids.nextPaneId n).Pairwise fun id id' => id.raw < id'.raw := by
      rw [freshIds, List.pairwise_map]
      exact List.pairwise_lt_range'
    have hpairs := hfresh.sublist hids
    rw [List.map_map, List.pairwise_map] at hpairs
    exact hpairs
  rw [handoffPaneAliases_eq, htrees, sideBySide_map]
  refine (Assoc.lookup_ofList_of_pairwise hsorted).trans ?_
  rw [hmem]
  constructor
  · rintro ⟨⟨task, htask, hid, hopposite, hne⟩, hmax⟩
    exact ⟨task, htask, hid, hopposite, hne, fun task' htask' hopposite' hne' =>
      hmax _ ((hmem _ _).2 ⟨task', htask', rfl, hopposite', hne'⟩)⟩
  · rintro ⟨task, htask, hid, hopposite, hne, hmax⟩
    refine ⟨⟨task, htask, hid, hopposite, hne⟩, fun new' hnew' => ?_⟩
    obtain ⟨task', htask', rfl, hopposite', hne'⟩ := (hmem _ _).1 hnew'
    exact hmax task' htask' hopposite' hne'

/-- A saved pane opposite a changed id has an alias. -/
theorem exists_alias
    (htrees : workspaces.map (·.tabs.map (·.layout.paneIds)) = kept.map (·.map (·.map (·.id))))
    {old : ℕ} {task : PaneTask} (hopposite : Opposite snapshot kept old task)
    (hne : old ≠ task.id.raw) :
    ∃ new, (handoffPaneAliases snapshot workspaces).lookup old = some new := by
  rw [← Option.isSome_iff_exists, AList.lookup_isSome, handoffPaneAliases_eq, htrees, sideBySide_map,
    Assoc.mem_ofList]
  refine List.mem_map.2 ⟨(old, task.id), List.mem_filter.2 ⟨?_, by simpa using hne⟩, rfl⟩
  exact List.mem_map.2 ⟨(old, task), mem_sideBySide.2 hopposite, rfl⟩

/-- The panes of the restored workspaces are those that are kept. -/
theorem isRestoredFrom_iff
    (htrees : workspaces.map (·.tabs.map (·.layout.paneIds)) = kept.map (·.map (·.map (·.id))))
    (hsubset : kept.flatten.flatten ⊆ (sessionTasks none snapshot.workspaces 0 ids).flatten.flatten)
    (new : PaneId) (old : ℕ) :
    IsRestoredFrom snapshot ids workspaces new old ↔
      ∃ task ∈ kept.flatten.flatten, task.id = new ∧ task.oldId = some old := by
  have hplaced : (∃ ws ∈ workspaces, ∃ tab ∈ ws.tabs, new ∈ tab.layout.paneIds) ↔
      ∃ task ∈ kept.flatten.flatten, task.id = new := by
    have hflat := congrArg (fun l : List (List (List PaneId)) => new ∈ l.flatten.flatten) htrees
    simp only [List.mem_flatten, List.mem_map, eq_iff_iff] at hflat
    constructor
    · rintro ⟨ws, hws, tab, htab, hnew⟩
      obtain ⟨_, ⟨_, ⟨tabs, htabs, rfl⟩, hin⟩, hmem⟩ :=
        hflat.1 ⟨_, ⟨_, ⟨ws, hws, rfl⟩, List.mem_map.2 ⟨tab, htab, rfl⟩⟩, hnew⟩
      obtain ⟨leaves, hleaves, rfl⟩ := List.mem_map.1 hin
      obtain ⟨task, htask, rfl⟩ := List.mem_map.1 hmem
      exact ⟨task, List.mem_flatten.2 ⟨leaves, List.mem_flatten.2 ⟨tabs, htabs, hleaves⟩, htask⟩, rfl⟩
    · rintro ⟨task, htask, rfl⟩
      obtain ⟨leaves, hleaves, htask⟩ := List.mem_flatten.1 htask
      obtain ⟨tabs, htabs, hleaves⟩ := List.mem_flatten.1 hleaves
      obtain ⟨_, ⟨_, ⟨ws, hws, rfl⟩, hin⟩, hmem⟩ := hflat.2
        ⟨_, ⟨_, ⟨tabs, htabs, rfl⟩, List.mem_map.2 ⟨leaves, hleaves, rfl⟩⟩, List.mem_map_of_mem htask⟩
      obtain ⟨tab, htab, rfl⟩ := List.mem_map.1 hin
      exact ⟨ws, hws, tab, htab, hmem⟩
  unfold IsRestoredFrom
  rw [hplaced]
  constructor
  · rintro ⟨⟨task, htask, hid⟩, task', htask', hid', hold⟩
    obtain rfl := List.inj_on_of_nodup_map (nodup_sessionTasks none snapshot.workspaces 0 ids)
      (hsubset htask) htask' (hid.trans hid'.symm)
    exact ⟨task, htask, hid, hold⟩
  · rintro ⟨task, htask, hid, hold⟩
    exact ⟨⟨task, htask, hid⟩, task, hsubset htask, hid, hold⟩

end

/-- The trees of a handoff in which no import fails. -/
theorem restoreHandoff_kept {world : RestoreWorld} {snapshot : SessionSnapshot}
    {imports : Assoc ℕ ImportedHandoffRuntime} {ids : IdCounters} {nextTerminalId : ℕ}
    {restored : List RestoredWorkspace} {st : RestoreState}
    (h : restoreWithImports world ⟨true, true⟩ snapshot none imports ids nextTerminalId =
      (restored, st)) (hok : st.failedImports = 0) :
    (RestoredSession.ofWorkspaces restored).workspaces.map (·.tabs.map (·.layout.paneIds)) =
        (keptByHandoff world snapshot imports ids).map (·.map (·.map (·.id))) ∧
      (keptByHandoff world snapshot imports ids).flatten.flatten.Sublist
        (sessionTasks none snapshot.workspaces 0 ids).flatten.flatten := by
  classical
  refine ⟨?_, ?_⟩
  · have hpanes := restoreWorkspaces_panes world ⟨true, true⟩
      (conflictingSnapshotAgentSessions snapshot) none snapshot.workspaces 0 ids
      { nextTerminalId, resumedSessions := [], importedPanes := imports, failedImports := 0 }
    rw [restoreWithImports] at h
    rw [h] at hpanes
    have hstarting := @keepsStarting_of_ok world ⟨true, true⟩ (conflictingSnapshotAgentSessions snapshot)
      imports _
      { nextTerminalId, resumedSessions := [], importedPanes := imports, failedImports := 0 }
      ⟨fun old => by simp, fun key hkey => by simp at hkey⟩
      (conflictsKnown_sessionTasks snapshot none ids)
      (nodup_sessionTasks none snapshot.workspaces 0 ids).of_map (by rw [← hpanes]; exact hok)
    have hkept := @restoreWorkspaces_kept world ⟨true, true⟩
      (conflictingSnapshotAgentSessions snapshot) _ _ _ hstarting none snapshot.workspaces 0 ids [] []
      (by simp)
    rw [restorePanes, h] at hkept
    rw [RestoredSession.ofWorkspaces, List.map_map]
    exact hkept
  · rw [keptByHandoff, flatten_keptWorkspaces]
    exact List.filter_sublist

/-- The aliases of a handoff are right if and only if what is kept stands in its own place. -/
theorem handoff_aliases_iff {world : RestoreWorld} {snapshot : SessionSnapshot}
    {imports : Assoc ℕ ImportedHandoffRuntime} {ids : IdCounters} {nextTerminalId : ℕ}
    {r : RestoredSession}
    (h : restoreHandoff world snapshot imports ids nextTerminalId = .ok r) :
    AliasesCorrect snapshot ids r.workspaces ↔
      Aligned snapshot (keptByHandoff world snapshot imports ids) := by
  obtain ⟨restored, st, hrestored, hfailed, rfl⟩ := restoreHandoff_eq_ok h
  obtain ⟨htrees, hkept⟩ := restoreHandoff_kept hrestored hfailed
  generalize (RestoredSession.ofWorkspaces restored).workspaces = workspaces at htrees ⊢
  generalize keptByHandoff world snapshot imports ids = kept at htrees hkept ⊢
  have hids := hkept.map (·.id)
  rw [map_id_sessionTasks] at hids
  have hlookup := @lookup_handoffPaneAliases snapshot ids workspaces kept _ htrees hids
  have hfrom := @isRestoredFrom_iff snapshot ids workspaces kept htrees hkept.subset
  -- Tasks that are kept are told apart by their ids.
  have hinj : ∀ task ∈ kept.flatten.flatten, ∀ task' ∈ kept.flatten.flatten, task.id = task'.id →
      task = task' := fun task htask task' htask' hid =>
    List.inj_on_of_nodup_map (nodup_sessionTasks none snapshot.workspaces 0 ids)
      (hkept.subset htask) (hkept.subset htask') hid
  constructor
  · intro hcorrect
    refine ⟨fun task htask old hold hne => ?_, fun task htask task' htask' old hold hold' hne hne' => ?_,
      fun task htask old hopposite hne => ?_⟩
    · have halias := hcorrect.complete old task.id ((hfrom _ _).2 ⟨task, htask, rfl, hold⟩) hne
      obtain ⟨task', htask', hid, hopposite, -⟩ := (hlookup _ _).1 halias
      exact hinj task' htask' task htask hid ▸ hopposite
    · have halias := hcorrect.complete old task.id ((hfrom _ _).2 ⟨task, htask, rfl, hold⟩) hne
      have halias' := hcorrect.complete old task'.id ((hfrom _ _).2 ⟨task', htask', rfl, hold'⟩) hne'
      exact Option.some.inj (halias.symm.trans halias')
    · obtain ⟨new, halias⟩ := exists_alias htrees hopposite hne
      obtain ⟨task', htask', rfl, hopposite', hne', hmax⟩ := (hlookup _ _).1 halias
      rcases Nat.lt_or_eq_of_le (hmax task htask hopposite hne) with hlt | heq
      · exact Or.inr ⟨task', htask', hopposite', hne', hlt⟩
      · obtain ⟨task'', htask'', hid, hold⟩ := (hfrom _ _).1 (hcorrect.sound _ _ halias)
        have hsame : task.id = task'.id := PaneId.ext heq
        exact Or.inl (hinj task'' htask'' task htask (hid.trans hsame.symm) ▸ hold)
  · intro haligned
    -- The last pane opposite a saved one is restored from it.
    have hlast : ∀ old new, (handoffPaneAliases snapshot workspaces).lookup old = some new →
        ∃ task ∈ kept.flatten.flatten, task.id = new ∧ task.oldId = some old ∧ old ≠ new.raw := by
      intro old new halias
      obtain ⟨task, htask, rfl, hopposite, hne, hmax⟩ := (hlookup _ _).1 halias
      rcases haligned.covered task htask old hopposite hne with hold | ⟨task', htask', hopp', hne', hlt⟩
      · exact ⟨task, htask, rfl, hold, hne⟩
      · have hle := hmax task' htask' hopp' hne'
        omega
    refine ⟨fun old new halias => ?_, fun old new hrestored hne => ?_⟩
    · obtain ⟨task, htask, hid, hold, -⟩ := hlast old new halias
      exact (hfrom _ _).2 ⟨task, htask, hid, hold⟩
    · obtain ⟨task, htask, rfl, hold⟩ := (hfrom _ _).1 hrestored
      obtain ⟨new, halias⟩ := exists_alias htrees (haligned.inPlace task htask old hold hne) hne
      obtain ⟨task', htask', rfl, hold', hne'⟩ := hlast old new halias
      rw [halias, haligned.once task htask task' htask' old hold hold' hne hne']

/-- Two panes without sessions. -/
def twoPaneSnapshot : SessionSnapshot where
  workspaces :=
    [{ id := some "w1"
       customName := none
       identityCwd := "/"
       publicPaneNumbers := ∅
       nextPublicPaneNumber := 1
       publicTabNumbers := []
       nextPublicTabNumber := 1
       tabs :=
         [{ customName := none
            layout := .split .horizontal halfRatio (.pane 1) (.pane 2)
            panes := Assoc.ofList [(1, { cwd := "/" }), (2, { cwd := "/" })]
            zoomed := false
            focused := none
            rootPane := none }]
       activeTab := 0 }]

theorem handoff_aliases_iff_two :
    ∃ r, restoreHandoff startingWorld twoPaneSnapshot (Assoc.ofList [(1, ⟨5⟩), (2, ⟨6⟩)]) ⟨10, 1⟩ 1 =
        .ok r ∧
      (AliasesCorrect twoPaneSnapshot ⟨10, 1⟩ r.workspaces ↔
        Aligned twoPaneSnapshot (keptByHandoff startingWorld twoPaneSnapshot
          (Assoc.ofList [(1, ⟨5⟩), (2, ⟨6⟩)]) ⟨10, 1⟩)) :=
  ⟨_, rfl, handoff_aliases_iff rfl⟩

/-- The first of two panes was not imported and its shell does not start : the alias of the first
leads to the second. -/
theorem alias_of_dropped_pane :
    ∃ r, restoreHandoff { startingWorld with spawnOk := fun id => id ≠ ⟨10⟩ } twoPaneSnapshot
        (Assoc.ofList [(2, ⟨6⟩)]) ⟨10, 1⟩ 1 = .ok r ∧
      ¬ AliasesCorrect twoPaneSnapshot ⟨10, 1⟩ r.workspaces := by
  refine ⟨_, rfl, fun hcorrect => ?_⟩
  obtain ⟨-, task, htask, hid, hold⟩ := hcorrect.sound 1 ⟨11⟩ rfl
  have hmem : (task.id, task.oldId) ∈
      (sessionTasks none twoPaneSnapshot.workspaces 0 ⟨10, 1⟩).flatten.flatten.map
        (fun task => (task.id, task.oldId)) := List.mem_map_of_mem htask
  have htasks : (sessionTasks none twoPaneSnapshot.workspaces 0 ⟨10, 1⟩).flatten.flatten.map
      (fun task => (task.id, task.oldId)) = [(⟨10⟩, some 1), (⟨11⟩, some 2)] := rfl
  rw [htasks, hid, hold] at hmem
  simp at hmem

end Zynk
