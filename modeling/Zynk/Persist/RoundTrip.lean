import Zynk.Persist.Tabs

/-!
# Restoring what was captured

A workspace that is captured and restored, with every runtime starting, is the same workspace
with other pane ids : the trees, the focused and the root panes and the public numbers are those
of the captured workspace under a renaming of its panes.
-/

namespace Zynk

/-! ## Trees -/

theorem paneIds_captureNode (node : Node) :
    (captureNode node).paneIds = node.paneIds.map PaneId.raw := by
  induction node with
  | pane id => rfl
  | split direction ratio first second ih₁ ih₂ =>
    simp [captureNode, LayoutSnapshot.paneIds, Node.paneIds, ih₁, ih₂]

theorem SameTree.length {snap : LayoutSnapshot} {node : Node} (h : SameTree snap node) :
    node.paneIds.length = snap.paneIds.length := by
  induction h with
  | pane oldId id => rfl
  | split _ _ ih₁ ih₂ => simp [Node.paneIds, LayoutSnapshot.paneIds, ih₁, ih₂]

/-- A tree with the shape of a captured one is that one, renamed leaf by leaf. -/
theorem SameTree.eq_rename {node node' : Node} (h : SameTree (captureNode node) node')
    {f : PaneId → PaneId} (hids : node.paneIds.map f = node'.paneIds) : node' = node.rename f := by
  induction node generalizing node' with
  | pane id =>
    cases h
    simp only [Node.paneIds, List.map_cons, List.map_nil, List.cons.injEq, and_true] at hids
    rw [Node.rename, hids]
  | split direction ratio first second ih₁ ih₂ =>
    rcases h with _ | ⟨hfirst, hsecond⟩
    simp only [Node.paneIds, List.map_append] at hids
    have hlength := hfirst.length
    rw [paneIds_captureNode, List.length_map] at hlength
    obtain ⟨hids₁, hids₂⟩ := List.append_inj hids (by simp [hlength])
    rw [Node.rename, ih₁ hfirst hids₁, ih₂ hsecond hids₂]

/-- A tree in which everything survives is not collapsed. -/
theorem Collapsed.eq {survives : PaneId → Prop} {node node' : Node}
    (h : Collapsed survives node node') (hall : ∀ id ∈ node.paneIds, survives id) : node' = node := by
  induction h with
  | pane h => rfl
  | split _ _ ih₁ ih₂ =>
    rw [ih₁ fun id hid => hall id (by simp [Node.paneIds, hid]),
      ih₂ fun id hid => hall id (by simp [Node.paneIds, hid])]
  | @first _ _ _ second _ _ hdrop _ =>
    obtain ⟨id, hid⟩ := List.exists_mem_of_ne_nil _ second.paneIds_ne_nil
    exact absurd (hall id (by simp [Node.paneIds, hid])) (hdrop id hid)
  | @second _ _ first _ _ hdrop _ _ =>
    obtain ⟨id, hid⟩ := List.exists_mem_of_ne_nil _ first.paneIds_ne_nil
    exact absurd (hall id (by simp [Node.paneIds, hid])) (hdrop id hid)

/-! ## Numbers -/

theorem lookup_assignPaneNumbers_of_not_mem (byOldId : Assoc ℕ ℕ) (reverse : Assoc PaneId ℕ)
    {ids : List PaneId} {id : PaneId} (hid : id ∉ ids) (numbers : Assoc PaneId ℕ) (next : ℕ) :
    (assignPaneNumbers byOldId reverse ids numbers next).1.lookup id = numbers.lookup id := by
  induction ids generalizing numbers next with
  | nil => rfl
  | cons other ids ih =>
    simp only [List.mem_cons, not_or] at hid
    rw [assignPaneNumbers]
    simp only
    rw [ih hid.2, AList.lookup_insert_ne hid.1]

/-- A pane keeps the number of the saved pane it comes from. -/
theorem lookup_assignPaneNumbers {byOldId : Assoc ℕ ℕ} {reverse : Assoc PaneId ℕ}
    {ids : List PaneId} (hnodup : ids.Nodup) {id : PaneId} (hid : id ∈ ids) {number : ℕ}
    (hnumber : byOldId.lookup ((reverse.lookup id).getD id.raw) = some number)
    (numbers : Assoc PaneId ℕ) (next : ℕ) :
    (assignPaneNumbers byOldId reverse ids numbers next).1.lookup id = some number := by
  induction ids generalizing numbers next with
  | nil => cases hid
  | cons other ids ih =>
    obtain ⟨hother, hnodup⟩ := List.nodup_cons.1 hnodup
    rw [assignPaneNumbers]
    simp only
    rcases List.mem_cons.1 hid with rfl | hid
    · rw [lookup_assignPaneNumbers_of_not_mem _ _ hother, AList.lookup_insert, hnumber]
    · exact ih hnodup hid _ _

/-- Leaves with numbers need no new ones. -/
theorem migratedPublicPaneNumbers_eq {numbers : Assoc ℕ ℕ} {oldIds : List ℕ}
    (h : ∀ oldId ∈ oldIds, oldId ∈ numbers) (next : ℕ) :
    migratedPublicPaneNumbers numbers next oldIds = (numbers, next) := by
  induction oldIds with
  | nil => rfl
  | cons oldId oldIds ih =>
    rw [migratedPublicPaneNumbers, if_pos (h oldId (by simp))]
    exact ih fun other hother => h other (by simp [hother])

/-! ## Tabs -/

/-- The same tab with other pane ids. -/
structure TabRenamed (f : PaneId → PaneId) (tab tab' : Tab) : Prop where
  root : tab'.layout.root = tab.layout.root.rename f
  focus : tab'.layout.focus = f tab.layout.focus
  rootPane : tab'.rootPane = f tab.rootPane
  number : tab'.number = tab.number

/-- Every runtime starts. -/
def RestoreWorld.AllStart (world : RestoreWorld) : Prop :=
  ∀ id, world.spawnOk id = true ∧ world.importOk id = true

section

variable {world : RestoreWorld} {mode : RestoreMode} {conflicting : List String}
  {content : PaneId → PaneSnapshot} {f : PaneId → PaneId}

theorem mem_survivors (hstart : world.AllStart) (snap : TabSnapshot)
    (history : Option TabHistorySnapshot) (number : ℕ) (publicPaneIds : ℕ → Option String)
    (workspaceId : String) (next : ℕ) (st : RestoreState) {id : PaneId}
    (hid : id ∈ freshIds next snap.layout.paneIds.length) :
    id ∈ survivors world mode conflicting snap history number publicPaneIds workspaceId next st := by
  by_contra hmissing
  have hlost := survivors_missing world mode conflicting snap history number publicPaneIds workspaceId
    next st hid hmissing
  rw [(hstart id).1, (hstart id).2] at hlost
  simp at hlost

/-- The `k`-th pane, found by its saved id. -/
theorem image_of_mem {ids : List PaneId} (hnodup : ids.Nodup) {next : ℕ}
    (hids : ids.map f = freshIds next ids.length) {id : PaneId} (hid : id ∈ ids) :
    ∃ k, LastLeaf (ids.map PaneId.raw) id.raw k ∧ f id = ⟨next + k⟩ := by
  obtain ⟨k, hk, rfl⟩ := List.getElem_of_mem hid
  refine ⟨k, LastLeaf.of_nodup ?_ (by simp [hk]), ?_⟩
  · exact hnodup.map fun a b hab => by
      cases a
      cases b
      exact congrArg PaneId.mk hab
  · have hget := congrArg (·[k]?) hids
    simpa [freshIds, hk, List.getElem?_range'] using hget

/-- A captured tab is restored as it was. -/
theorem restoreTab_captured (hstart : world.AllStart) {tab : Tab} (htab : tab.Valid)
    (history : Option TabHistorySnapshot) (number : ℕ) (publicPaneIds : ℕ → Option String)
    (workspaceId : String) {next : ℕ}
    (hids : tab.layout.paneIds.map f = freshIds next tab.layout.paneIds.length)
    (st : RestoreState) :
    ∃ restored st', restoreTab world mode conflicting (captureTab content tab) history number
        publicPaneIds workspaceId next st =
          (some restored, next + tab.layout.paneIds.length, st') ∧
      restored.tab.layout.root = tab.layout.root.rename f ∧
      restored.tab.layout.paneIds = tab.layout.paneIds.map f ∧
      restored.tab.layout.focus = f tab.layout.focus ∧ restored.tab.rootPane = f tab.rootPane ∧
      ∀ id ∈ tab.layout.paneIds, restored.reverse.lookup (f id) = some id.raw := by
  have hsaved : (captureTab content tab).layout.paneIds = tab.layout.paneIds.map PaneId.raw :=
    paneIds_captureNode tab.layout.root
  have hlength : (captureTab content tab).layout.paneIds.length = tab.layout.paneIds.length := by
    rw [hsaved, List.length_map]
  have hall : ∀ id ∈ freshIds next tab.layout.paneIds.length, id ∈ survivors world mode conflicting
      (captureTab content tab) history number publicPaneIds workspaceId next st := by
    intro id hid
    exact mem_survivors hstart _ _ _ _ _ _ _ (hlength ▸ hid)
  -- The image of a pane is where the saved tree has it.
  have himage {id : PaneId} (hid : id ∈ tab.layout.paneIds) :
      ∃ k, LastLeaf (captureTab content tab).layout.paneIds id.raw k ∧ f id = ⟨next + k⟩ := by
    rw [hsaved]
    exact image_of_mem htab.nodup hids hid
  have hmem {id : PaneId} (hid : id ∈ tab.layout.paneIds) :
      f id ∈ survivors world mode conflicting (captureTab content tab) history number publicPaneIds
        workspaceId next st :=
    hall _ (hids ▸ List.mem_map_of_mem hid)
  obtain ⟨hstate, ⟨hnone, -⟩ | ⟨restored, hrestored, -, -, hreverse, -, hfrom⟩⟩ :=
    restoreTab_cases world mode conflicting (captureTab content tab) history number publicPaneIds
      workspaceId next st
  · have hfocus := hmem htab.focus
    rw [hnone] at hfocus
    cases hfocus
  refine ⟨restored, _, Prod.ext hrestored (hlength ▸ hstate), ?_⟩
  have hroot : restored.tab.layout.root = tab.layout.root.rename f := by
    obtain ⟨node, htree, hnode, hcollapsed⟩ := hfrom.tree
    rw [hlength] at hnode
    rw [hcollapsed.eq fun id hid => hall id (hnode ▸ hid)]
    exact htree.eq_rename (hids.trans hnode.symm)
  refine ⟨hroot, ?_, ?_, ?_, ?_⟩
  · rw [hfrom.order, hlength, hids, List.filter_eq_self]
    simpa using hall
  · obtain ⟨k, hlast, hk⟩ := himage htab.focus
    rw [hk]
    exact hfrom.focus _ k rfl hlast (hk ▸ hmem htab.focus)
  · obtain ⟨k, hlast, hk⟩ := himage htab.rootPane
    rw [hk]
    exact hfrom.rootPane _ k rfl hlast (hk ▸ hmem htab.rootPane)
  · intro id hid
    obtain ⟨k, hlast, hk⟩ := himage hid
    rw [hreverse, hk]
    exact (lookup_reverseIdMap _ _ _ _).2 ⟨k, hlast, rfl⟩

/-- Captured tabs are restored as they were, with the numbers of their panes. -/
theorem restoreTabs_captured (hstart : world.AllStart) (history : Option WorkspaceHistorySnapshot)
    {publicTabNumbers : List ℕ} {byOldId : Assoc ℕ ℕ} (workspaceId : String) {tabs : List Tab}
    (htabs : ∀ tab ∈ tabs, tab.Valid)
    (hnumbered : ∀ id ∈ tabs.flatMap (·.layout.paneIds), id.raw ∈ byOldId) (idx : ℕ)
    (hnumbers : ∀ i tab, tabs[i]? = some tab → publicTabNumbers[idx + i]? = some tab.number)
    {next : ℕ} (hids : (tabs.flatMap (·.layout.paneIds)).map f =
      freshIds next (tabs.flatMap (·.layout.paneIds)).length)
    (parts : WorkspaceParts) (st : RestoreState) :
    ∃ tabs', (restoreTabs world mode conflicting history publicTabNumbers byOldId workspaceId
          (tabs.map (captureTab content)) idx parts next st).1.tabs = parts.tabs ++ tabs' ∧
      List.Forall₂ (TabRenamed f) tabs tabs' ∧
      (∀ id ∈ tabs.flatMap (·.layout.paneIds),
        (restoreTabs world mode conflicting history publicTabNumbers byOldId workspaceId
          (tabs.map (captureTab content)) idx parts next st).1.publicPaneNumbers.lookup (f id) =
            byOldId.lookup id.raw) ∧
      ∀ id ∉ freshIds next (tabs.flatMap (·.layout.paneIds)).length,
        (restoreTabs world mode conflicting history publicTabNumbers byOldId workspaceId
          (tabs.map (captureTab content)) idx parts next st).1.publicPaneNumbers.lookup id =
            parts.publicPaneNumbers.lookup id := by
  induction tabs generalizing idx next parts st with
  | nil => exact ⟨[], by simp [restoreTabs], .nil, by simp, by simp [restoreTabs]⟩
  | cons tab tabs ih =>
    rw [List.flatMap_cons, List.map_append, List.length_append, freshIds_add] at hids
    obtain ⟨hids₁, hids₂⟩ := List.append_inj hids (by simp)
    obtain ⟨restored, st', hrestored, hroot, hpaneIds, hfocus, hrootPane, hreverse⟩ :=
      @restoreTab_captured world mode conflicting content f hstart tab (htabs tab (by simp))
        (history.bind (·.tabs[idx]?)) (idx + 1)
        (fun oldId => (byOldId.lookup oldId).map (publicPaneIdForNumber workspaceId))
        workspaceId next hids₁ st
    have hstep : restoreTabs world mode conflicting history publicTabNumbers byOldId workspaceId
        ((tab :: tabs).map (captureTab content)) idx parts next st =
      restoreTabs world mode conflicting history publicTabNumbers byOldId workspaceId
        (tabs.map (captureTab content)) (idx + 1) (parts.addTab publicTabNumbers byOldId idx restored)
        (next + tab.layout.paneIds.length) st' := by
      rw [List.map_cons, restoreTabs]
      simp only [hrestored, Option.elim_some]
    obtain ⟨tabs', htabs', hrenamed, hlookup, hother⟩ := ih
      (fun tab htab => htabs tab (by simp [htab]))
      (fun id hid => hnumbered id (by simp only [List.flatMap_cons, List.mem_append]; exact Or.inr hid))
      (idx + 1) (fun i tab htab => by
        have hi := hnumbers (i + 1) tab (by simpa using htab)
        rwa [show idx + (i + 1) = idx + 1 + i by omega] at hi)
      hids₂ (parts.addTab publicTabNumbers byOldId idx restored) st'
    rw [hstep]
    have hnumber : publicTabNumbers[idx]? = some tab.number := hnumbers 0 tab rfl
    -- The ids of this tab and of the later ones are different.
    have hlater : ∀ id ∈ freshIds next tab.layout.paneIds.length,
        id ∉ freshIds (next + tab.layout.paneIds.length)
          (tabs.flatMap (·.layout.paneIds)).length := by
      intro id hid hid'
      rw [mem_freshIds] at hid hid'
      omega
    refine ⟨{ restored.tab with number := tab.number } :: tabs', ?_, .cons ?_ hrenamed, ?_, ?_⟩
    · rw [htabs']
      simp [WorkspaceParts.addTab, hnumber]
    · exact ⟨hroot, hfocus, hrootPane, rfl⟩
    · intro id hid
      rw [List.flatMap_cons, List.mem_append] at hid
      rcases hid with hid | hid
      · have hfresh : f id ∈ freshIds next tab.layout.paneIds.length :=
          hids₁ ▸ List.mem_map_of_mem hid
        have hmem : id.raw ∈ byOldId :=
          hnumbered id (by simp only [List.flatMap_cons, List.mem_append]; exact Or.inl hid)
        obtain ⟨number, hlook⟩ := Option.isSome_iff_exists.1 (AList.lookup_isSome.2 hmem)
        rw [hother _ (hlater _ hfresh), hlook]
        refine lookup_assignPaneNumbers ?_ ?_ ?_ _ _
        · show restored.tab.layout.paneIds.Nodup
          rw [hpaneIds, hids₁]
          exact nodup_freshIds _ _
        · show f id ∈ restored.tab.layout.paneIds
          rw [hpaneIds]
          exact List.mem_map_of_mem hid
        · rw [hreverse id hid]
          exact hlook
      · exact hlookup id hid
    · intro id hid
      rw [List.flatMap_cons, List.length_append, freshIds_add, List.mem_append, not_or] at hid
      rw [hother id hid.2]
      refine lookup_assignPaneNumbers_of_not_mem _ _ ?_ _ _
      show id ∉ restored.tab.layout.paneIds
      rw [hpaneIds, hids₁]
      exact hid.1

end

/-! ## Workspaces -/

/-- The panes get new ids in their order. -/
theorem map_idxOf_eq_freshIds {ids : List PaneId} (hnodup : ids.Nodup) (next : ℕ) :
    ids.map (fun id => ⟨next + ids.idxOf id⟩) = freshIds next ids.length := by
  refine List.ext_getElem (by simp) fun k hk _ => ?_
  rw [List.length_map] at hk
  simp [freshIds, hnodup.idxOf_getElem k hk]

theorem lookup_capturedNumbers (numbers : Assoc PaneId ℕ) (id : PaneId) :
    (Assoc.ofList (numbers.entries.map fun e => (e.1.raw, e.2))).lookup id.raw =
      numbers.lookup id := by
  have hraw : Function.Injective PaneId.raw := fun _ _ => PaneId.ext
  have hnodup : ((numbers.entries.map fun e => (e.1.raw, e.2)).map (·.1)).Nodup := by
    rw [List.map_map]
    have hkeys : (numbers.entries.map fun e => e.1).Nodup := numbers.keys_nodup
    simpa [Function.comp_def] using hkeys.map hraw
  refine Option.ext fun number => ?_
  rw [Assoc.lookup_ofList_of_nodup hnodup]
  have hentry : numbers.lookup id = some number ↔ ⟨id, number⟩ ∈ numbers.entries :=
    AList.mem_lookup_iff
  rw [hentry, List.mem_map]
  constructor
  · rintro ⟨⟨id', number'⟩, hmem, heq⟩
    rw [Prod.mk.injEq] at heq
    cases hraw heq.1
    cases heq.2
    exact hmem
  · intro hmem
    exact ⟨⟨id, number⟩, hmem, rfl⟩

/-- A valid workspace, captured and restored. -/
theorem restoreWorkspace_captured {world : RestoreWorld} (hstart : world.AllStart)
    (mode : RestoreMode) (conflicting : List String) (content : PaneId → PaneSnapshot)
    (identityCwd : String) {ws : Workspace} (hws : ws.Valid)
    (history : Option WorkspaceHistorySnapshot) (ids : IdCounters) (st : RestoreState) :
    ∃ restored f, (restoreWorkspace world mode conflicting
        (captureWorkspace content identityCwd ws) history ids st).1 = some restored ∧
      Set.InjOn f { id | id ∈ ws.paneIds } ∧
      restored.workspace.id = ws.id ∧ List.Forall₂ (TabRenamed f) ws.tabs restored.workspace.tabs ∧
      (∀ id ∈ ws.paneIds, restored.workspace.publicPaneNumbers.lookup (f id) =
        ws.publicPaneNumbers.lookup id) ∧
      ∀ id ∉ ws.paneIds.map f, id ∉ restored.workspace.publicPaneNumbers := by
  have hnumbered : ∀ id ∈ ws.paneIds,
      id.raw ∈ (captureWorkspace content identityCwd ws).publicPaneNumbers := by
    intro id hid
    rw [← AList.lookup_isSome]
    show ((Assoc.ofList (ws.publicPaneNumbers.entries.map fun e => (e.1.raw, e.2))).lookup
      id.raw).isSome = true
    rw [lookup_capturedNumbers, AList.lookup_isSome, hws.numbered]
    exact hid
  have hmigrated : (restoredPaneNumbers (captureWorkspace content identityCwd ws)).1 =
      (captureWorkspace content identityCwd ws).publicPaneNumbers := by
    have hleaves : ((captureWorkspace content identityCwd ws).tabs.flatMap (·.layout.paneIds)) =
        ws.paneIds.map PaneId.raw := by
      simp [captureWorkspace, captureTab, Workspace.paneIds, List.flatMap_map, List.map_flatMap,
        paneIds_captureNode, TileLayout.paneIds]
    rw [restoredPaneNumbers, hleaves, migratedPublicPaneNumbers_eq]
    intro oldId hold
    obtain ⟨id, hid, rfl⟩ := List.mem_map.1 hold
    exact hnumbered id hid
  obtain ⟨tabs', htabs', hrenamed, hlookup, hother⟩ := @restoreTabs_captured world mode conflicting
    content _ hstart history (captureWorkspace content identityCwd ws).publicTabNumbers
    (captureWorkspace content identityCwd ws).publicPaneNumbers ws.id ws.tabs hws.tabs hnumbered 0
    (fun i tab htab => by simp [captureWorkspace, htab]) ids.nextPaneId
    (map_idxOf_eq_freshIds hws.disjoint ids.nextPaneId)
    { nextPublicPaneNumber := (restoredPaneNumbers (captureWorkspace content identityCwd ws)).2
      nextPublicTabNumber := nextNumber (captureWorkspace content identityCwd ws).publicTabNumbers
        ws.nextPublicTabNumber } st
  rw [← hmigrated] at htabs' hlookup hother
  obtain ⟨-, ⟨hempty, -⟩ | ⟨restored, hrestored, -, -, hid, htabs, hnumbers⟩⟩ :=
    restoreWorkspace_cases world mode conflicting (captureWorkspace content identityCwd ws) history
      ids st
  · -- Every tab is restored, and there is one.
    have hnil : tabs' = [] := htabs'.symm.trans hempty
    have hactive := hws.activeTab
    rw [hrenamed.length_eq, hnil] at hactive
    simp at hactive
  · refine ⟨restored, fun id => ⟨ids.nextPaneId + ws.paneIds.idxOf id⟩, hrestored, ?_, hid, ?_, ?_, ?_⟩
    · intro a ha b hb hab
      have hidx : ws.paneIds.idxOf a = ws.paneIds.idxOf b := by simpa using congrArg PaneId.raw hab
      exact (List.idxOf_inj ha).1 hidx
    · rw [htabs]
      exact htabs'.symm ▸ hrenamed
    · intro id hid
      have hcaptured := lookup_capturedNumbers ws.publicPaneNumbers id
      rw [hnumbers, ← hcaptured]
      refine (hlookup id hid).trans ?_
      rw [hmigrated]
      rfl
    · intro id hid
      rw [hnumbers, ← AList.lookup_eq_none]
      refine hother id fun hfresh => hid ?_
      rw [map_idxOf_eq_freshIds hws.disjoint]
      exact hfresh

/-- A tab is restored unless none of its panes survives, and a pane that does not survive did not
start. What is restored is well formed, and what was captured of a valid workspace is restored as
it was. -/
theorem restored_tabs_well_formed :
    (∀ (world : RestoreWorld) (mode : RestoreMode) (conflicting : List String) (snap : TabSnapshot)
      (history : Option TabHistorySnapshot) (number : ℕ) (publicPaneIds : ℕ → Option String)
      (workspaceId : String) (next : ℕ) (st : RestoreState),
      ((restoreTab world mode conflicting snap history number publicPaneIds workspaceId next st).1 =
          none ↔
        survivors world mode conflicting snap history number publicPaneIds workspaceId next st = []) ∧
      (∀ id ∈ freshIds next snap.layout.paneIds.length,
        id ∉ survivors world mode conflicting snap history number publicPaneIds workspaceId next st →
        world.spawnOk id = false ∨ world.importOk id = false) ∧
      ∀ restored, (restoreTab world mode conflicting snap history number publicPaneIds workspaceId
          next st).1 = some restored →
        RestoredFrom snap next (survivors world mode conflicting snap history number publicPaneIds
          workspaceId next st) restored.tab) ∧
    ∀ (world : RestoreWorld), world.AllStart → ∀ (mode : RestoreMode) (conflicting : List String)
      (content : PaneId → PaneSnapshot) (identityCwd : String) (ws : Workspace), ws.Valid →
      ∀ (history : Option WorkspaceHistorySnapshot) (ids : IdCounters) (st : RestoreState),
      ∃ restored f, (restoreWorkspace world mode conflicting
          (captureWorkspace content identityCwd ws) history ids st).1 = some restored ∧
        Set.InjOn f { id | id ∈ ws.paneIds } ∧
        restored.workspace.id = ws.id ∧ List.Forall₂ (TabRenamed f) ws.tabs restored.workspace.tabs ∧
        (∀ id ∈ ws.paneIds, restored.workspace.publicPaneNumbers.lookup (f id) =
          ws.publicPaneNumbers.lookup id) ∧
        ∀ id ∉ ws.paneIds.map f, id ∉ restored.workspace.publicPaneNumbers := by
  refine ⟨fun world mode conflicting snap history number publicPaneIds workspaceId next st => ?_,
    fun world hstart mode conflicting content identityCwd ws hws history ids st =>
      restoreWorkspace_captured hstart mode conflicting content identityCwd hws history ids st⟩
  refine ⟨?_, fun id hid hlost => ?_, fun restored hrestored => ?_⟩
  · obtain ⟨-, ⟨hempty, hnone⟩ | ⟨restored, hsome, hne, -⟩⟩ := restoreTab_cases world mode
      conflicting snap history number publicPaneIds workspaceId next st
    · simp [hempty, hnone]
    · simp [hsome, hne]
  · exact survivors_missing world mode conflicting snap history number publicPaneIds workspaceId
      next st hid hlost
  · obtain ⟨-, ⟨-, hnone⟩ | ⟨restored', hsome, -, -, -, -, hfrom⟩⟩ := restoreTab_cases world mode
      conflicting snap history number publicPaneIds workspaceId next st
    · rw [hnone] at hrestored
      cases hrestored
    · rw [hsome] at hrestored
      cases hrestored
      exact hfrom

/-- Two panes side by side in the third tab of a workspace whose other tabs are closed. -/
def splitWorkspace : Workspace where
  id := "w1"
  customName := none
  identityCwd := "/"
  publicPaneNumbers := Assoc.ofList [(⟨3⟩, 2), (⟨7⟩, 5)]
  nextPublicPaneNumber := 6
  nextPublicTabNumber := 4
  tabs :=
    [{ customName := none
       number := 3
       rootPane := ⟨3⟩
       layout := .fromSaved (.split .horizontal halfRatio (.pane ⟨3⟩) (.pane ⟨7⟩)) ⟨7⟩
       panes := Assoc.ofList [(⟨3⟩, .new ⟨1⟩), (⟨7⟩, .new ⟨2⟩)]
       zoomed := false }]
  activeTab := 0

theorem splitWorkspace_valid : splitWorkspace.Valid := by
  have hlookup : ∀ id n, splitWorkspace.publicPaneNumbers.lookup id = some n →
      (id = ⟨3⟩ ∧ n = 2) ∨ (id = ⟨7⟩ ∧ n = 5) := by
    intro id n h
    rw [splitWorkspace, Assoc.lookup_ofList_of_nodup (by decide)] at h
    simpa using h
  refine
    { activeTab := by decide, tabs := ?_, disjoint := by decide, numbered := fun id => ?_
      numbers_inj := ?_, numbers_lt := ?_, tabNumbers_nodup := by decide, tabNumbers_lt := by decide }
  · intro tab htab
    obtain rfl := List.mem_singleton.1 htab
    exact
      { nodup := by decide, focus := by decide, panes := fun id => by rw [Assoc.mem_ofList]; rfl
        rootPane := by decide }
  · rw [splitWorkspace, Assoc.mem_ofList]
    rfl
  · intro id id' n h h'
    rcases hlookup id n h with ⟨rfl, rfl⟩ | ⟨rfl, rfl⟩ <;>
      rcases hlookup id' _ h' with ⟨rfl, h⟩ | ⟨rfl, h⟩ <;> simp_all
  · intro id n h
    rcases hlookup id n h with ⟨-, rfl⟩ | ⟨-, rfl⟩ <;> decide

theorem restored_tabs_well_formed_split :
    ∃ restored f, (restoreWorkspace startingWorld ⟨true, false⟩ []
        (captureWorkspace (fun _ => { cwd := "/" }) "/" splitWorkspace) none ⟨1, 1⟩
        ⟨1, [], ∅, 0⟩).1 = some restored ∧
      Set.InjOn f { id | id ∈ splitWorkspace.paneIds } ∧ restored.workspace.id = "w1" ∧
      List.Forall₂ (TabRenamed f) splitWorkspace.tabs restored.workspace.tabs ∧
      (∀ id ∈ splitWorkspace.paneIds, restored.workspace.publicPaneNumbers.lookup (f id) =
        splitWorkspace.publicPaneNumbers.lookup id) ∧
      ∀ id ∉ splitWorkspace.paneIds.map f, id ∉ restored.workspace.publicPaneNumbers :=
  restored_tabs_well_formed.2 startingWorld (fun _ => ⟨rfl, rfl⟩) ⟨true, false⟩ []
    (fun _ => { cwd := "/" }) "/" splitWorkspace splitWorkspace_valid none ⟨1, 1⟩ ⟨1, [], ∅, 0⟩

end Zynk
