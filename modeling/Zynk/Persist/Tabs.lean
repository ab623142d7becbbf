import Zynk.Persist.Restore

/-!
# Restored tabs

What `restore_tab` makes of a saved tree. New ids are handed out in the order of the leaves
(`remapInner_spec`), so that a new id tells which leaf it was made for. The loop restores some of
the panes, in their order (`restorePanes_sublist`), and the tree is pruned to those
(`paneIds_pruneRestoredNode`).
-/

namespace Zynk

/-! ## New ids -/

/-- `n` ids from `next` on. -/
def freshIds (next n : ℕ) : List PaneId :=
  (List.range' next n).map PaneId.mk

@[simp] theorem length_freshIds (next n : ℕ) : (freshIds next n).length = n := by
  simp [freshIds]

theorem freshIds_add (next m n : ℕ) :
    freshIds next (m + n) = freshIds next m ++ freshIds (next + m) n := by
  simp [freshIds, ← List.map_append, List.range'_append_1]

theorem nodup_freshIds (next n : ℕ) : (freshIds next n).Nodup :=
  List.Nodup.map (fun _ _ h => congrArg PaneId.raw h) (List.nodup_range' 1)

theorem mem_freshIds {next n : ℕ} {id : PaneId} :
    id ∈ freshIds next n ↔ next ≤ id.raw ∧ id.raw < next + n := by
  simp only [freshIds, List.mem_map, List.mem_range'_1]
  exact ⟨fun ⟨raw, h, heq⟩ => heq ▸ h, fun h => ⟨id.raw, h, rfl⟩⟩

/-- A tree with other ids. -/
inductive SameTree : LayoutSnapshot → Node → Prop
  | pane (oldId : ℕ) (id : PaneId) : SameTree (.pane oldId) (.pane id)
  | split {direction : Direction} {ratio : F32} {first second : LayoutSnapshot}
    {firstNode secondNode : Node} (hfirst : SameTree first firstNode)
    (hsecond : SameTree second secondNode) :
    SameTree (.split direction ratio first second) (.split direction ratio firstNode secondNode)

/-- The leaves of a saved tree get ids in their order. -/
theorem remapInner_spec (snap : LayoutSnapshot) (next : ℕ) :
    SameTree snap (remapInner snap next).1 ∧
      (remapInner snap next).1.paneIds = freshIds next snap.paneIds.length ∧
      (remapInner snap next).2.1 = snap.paneIds.zip (freshIds next snap.paneIds.length) ∧
      (remapInner snap next).2.2 = next + snap.paneIds.length := by
  induction snap generalizing next with
  | pane oldId => exact ⟨.pane oldId ⟨next⟩, rfl, rfl, rfl⟩
  | split direction ratio first second ih₁ ih₂ =>
    obtain ⟨htree₁, hids₁, hpairs₁, hnext₁⟩ := ih₁ next
    obtain ⟨htree₂, hids₂, hpairs₂, hnext₂⟩ := ih₂ (next + first.paneIds.length)
    simp only [remapInner, LayoutSnapshot.paneIds, List.length_append]
    rw [hnext₁]
    refine ⟨.split htree₁ htree₂, ?_, ?_, ?_⟩
    · rw [Node.paneIds, hids₁, hids₂, freshIds_add]
    · rw [hpairs₁, hpairs₂, freshIds_add, List.zip_append (by simp)]
    · rw [hnext₂]
      omega

/-! ## The loop -/

section

variable {world : RestoreWorld} {mode : RestoreMode} {conflicting : List String}

/-- A pane is not restored when its runtime does not start. -/
theorem restorePane_eq_none {task : PaneTask} {st : RestoreState}
    (h : (restorePane world mode conflicting task st).1 = none) :
    world.spawnOk task.id = false ∨ world.importOk task.id = false := by
  unfold restorePane at h
  simp only at h
  split at h
  · cases h
  · split at h
    · cases h
    · rename_i hspawn
      exact Or.inl (by simpa using hspawn)
  · split at h
    · cases h
    · rename_i himport
      exact Or.inr (by simpa using himport)

theorem restorePanes_cons (task : PaneTask) (tasks : List PaneTask) (st : RestoreState) :
    restorePanes world mode conflicting (task :: tasks) st =
      let (pane, st) := restorePane world mode conflicting task st
      let (panes, st) := restorePanes world mode conflicting tasks st
      (pane.elim panes fun pane => (task, pane) :: panes, st) :=
  rfl

/-- Panes are restored in their order. -/
theorem restorePanes_sublist (tasks : List PaneTask) (st : RestoreState) :
    ((restorePanes world mode conflicting tasks st).1.map (·.1)).Sublist tasks := by
  induction tasks generalizing st with
  | nil => exact List.Sublist.refl _
  | cons task tasks ih =>
    rw [restorePanes_cons]
    rcases hpane : (restorePane world mode conflicting task st).1 with _ | pane
    · simp only [hpane, Option.elim_none]
      exact (ih _).cons task
    · simp only [hpane, Option.elim_some, List.map_cons]
      exact (ih _).cons_cons task

/-- What is not restored did not start. -/
theorem restorePanes_missing {tasks : List PaneTask} {st : RestoreState} {task : PaneTask}
    (htask : task ∈ tasks)
    (hmissing : task ∉ (restorePanes world mode conflicting tasks st).1.map (·.1)) :
    world.spawnOk task.id = false ∨ world.importOk task.id = false := by
  induction tasks generalizing st with
  | nil => cases htask
  | cons other tasks ih =>
    rw [restorePanes_cons] at hmissing
    rcases hpane : (restorePane world mode conflicting other st).1 with _ | pane
    · simp only [hpane, Option.elim_none] at hmissing
      rcases List.mem_cons.1 htask with rfl | htask
      · exact restorePane_eq_none hpane
      · exact ih htask hmissing
    · simp only [hpane, Option.elim_some, List.map_cons, List.mem_cons, not_or] at hmissing
      rcases List.mem_cons.1 htask with rfl | htask
      · exact absurd rfl hmissing.1
      · exact ih htask hmissing.2

end

/-! ## Pruning -/

/-- A tree without the leaves that do not survive : a split keeps its direction and its ratio, or
is collapsed to the child in which something survives. -/
inductive Collapsed (survives : PaneId → Prop) : Node → Node → Prop
  | pane {id : PaneId} (h : survives id) : Collapsed survives (.pane id) (.pane id)
  | split {direction : Direction} {ratio : F32} {first second first' second' : Node}
    (hfirst : Collapsed survives first first') (hsecond : Collapsed survives second second') :
    Collapsed survives (.split direction ratio first second) (.split direction ratio first' second')
  | first {direction : Direction} {ratio : F32} {first second first' : Node}
    (hfirst : Collapsed survives first first') (hsecond : ∀ id ∈ second.paneIds, ¬ survives id) :
    Collapsed survives (.split direction ratio first second) first'
  | second {direction : Direction} {ratio : F32} {first second second' : Node}
    (hfirst : ∀ id ∈ first.paneIds, ¬ survives id) (hsecond : Collapsed survives second second') :
    Collapsed survives (.split direction ratio first second) second'

theorem paneIds_pruneRestoredNode (surviving : PaneId → Bool) (node : Node) :
    ((pruneRestoredNode surviving node).elim [] Node.paneIds) = node.paneIds.filter surviving := by
  induction node with
  | pane id => by_cases h : surviving id = true <;> simp [pruneRestoredNode, Node.paneIds, h]
  | split direction ratio first second ih₁ ih₂ =>
    rw [Node.paneIds, List.filter_append, ← ih₁, ← ih₂, pruneRestoredNode]
    rcases pruneRestoredNode surviving first with _ | f <;>
      rcases pruneRestoredNode surviving second with _ | s <;> simp [Node.paneIds]

theorem pruneRestoredNode_eq_none {surviving : PaneId → Bool} {node : Node}
    (h : pruneRestoredNode surviving node = none) : ∀ id ∈ node.paneIds, ¬ surviving id = true := by
  have hfilter := paneIds_pruneRestoredNode surviving node
  rw [h, Option.elim_none, eq_comm, List.filter_eq_nil_iff] at hfilter
  exact hfilter

theorem collapsed_pruneRestoredNode {surviving : PaneId → Bool} {node pruned : Node}
    (h : pruneRestoredNode surviving node = some pruned) :
    Collapsed (fun id => surviving id = true) node pruned := by
  induction node generalizing pruned with
  | pane id =>
    rw [pruneRestoredNode] at h
    split_ifs at h with hid
    cases h
    exact .pane hid
  | split direction ratio first second ih₁ ih₂ =>
    rw [pruneRestoredNode] at h
    rcases hf : pruneRestoredNode surviving first with _ | f <;>
      rcases hs : pruneRestoredNode surviving second with _ | s <;> rw [hf, hs] at h <;> cases h
    · exact .second (pruneRestoredNode_eq_none hf) (ih₂ hs)
    · exact .first (ih₁ hf) (pruneRestoredNode_eq_none hs)
    · exact .split (ih₁ hf) (ih₂ hs)

/-! ## Old and new ids -/

/-- The last leaf that carries the id `old` is the `k`-th one. -/
def LastLeaf (oldIds : List ℕ) (old k : ℕ) : Prop :=
  ∃ pre post, oldIds = pre ++ old :: post ∧ old ∉ post ∧ pre.length = k

theorem LastLeaf.snoc_self (oldIds : List ℕ) (old : ℕ) : LastLeaf (oldIds ++ [old]) old oldIds.length :=
  ⟨oldIds, [], rfl, by simp, rfl⟩

variable {oldIds : List ℕ} {old k : ℕ}

theorem lastLeaf_snoc {x : ℕ} : LastLeaf (oldIds ++ [x]) old k ↔
      (x = old ∧ k = oldIds.length) ∨ (x ≠ old ∧ LastLeaf oldIds old k) := by
  constructor
  · rintro ⟨pre, post, heq, hnot, rfl⟩
    rcases List.eq_nil_or_concat post with rfl | ⟨post, y, rfl⟩
    · obtain ⟨rfl, hx⟩ := List.append_inj' heq rfl
      cases hx
      exact Or.inl ⟨rfl, rfl⟩
    · rw [List.concat_eq_append, ← List.cons_append, ← List.append_assoc] at heq
      obtain ⟨rfl, hx⟩ := List.append_inj' heq rfl
      cases hx
      rw [List.concat_eq_append, List.mem_append, not_or, List.mem_singleton] at hnot
      exact Or.inr ⟨Ne.symm hnot.2, pre, post, rfl, hnot.1, rfl⟩
  · rintro (⟨rfl, rfl⟩ | ⟨hne, pre, post, rfl, hnot, rfl⟩)
    · exact .snoc_self oldIds x
    · exact ⟨pre, post ++ [x], by simp, by simp [hnot, Ne.symm hne], rfl⟩

theorem LastLeaf.unique {j : ℕ} (hj : LastLeaf oldIds old j) (hk : LastLeaf oldIds old k) :
    j = k := by
  induction oldIds using List.reverseRecOn with
  | nil =>
    obtain ⟨pre, post, h, -⟩ := hj
    simp at h
  | append_singleton oldIds x ih =>
    rcases lastLeaf_snoc.1 hj with ⟨rfl, rfl⟩ | ⟨hne, hj⟩
    · rcases lastLeaf_snoc.1 hk with ⟨-, rfl⟩ | ⟨hne, -⟩
      · rfl
      · exact absurd rfl hne
    · rcases lastLeaf_snoc.1 hk with ⟨heq, -⟩ | ⟨-, hk⟩
      · exact absurd heq hne
      · exact ih hj hk

theorem LastLeaf.getElem? (h : LastLeaf oldIds old k) : oldIds[k]? = some old := by
  obtain ⟨pre, post, rfl, -, rfl⟩ := h
  simp

/-- Without repetitions every leaf is the last one with its id. -/
theorem LastLeaf.of_nodup (hnodup : oldIds.Nodup) (h : oldIds[k]? = some old) :
    LastLeaf oldIds old k := by
  obtain ⟨hk, rfl⟩ := List.getElem?_eq_some_iff.1 h
  refine ⟨oldIds.take k, oldIds.drop (k + 1), ?_, ?_, by simp; omega⟩
  · rw [← List.drop_eq_getElem_cons hk, List.take_append_drop]
  · have hsplit : (oldIds.take k ++ oldIds[k] :: oldIds.drop (k + 1)).Nodup := by
      rwa [← List.drop_eq_getElem_cons hk, List.take_append_drop]
    exact (List.nodup_cons.1 (List.nodup_append.1 hsplit).2.1).1

/-- The map from old to new ids keeps the last leaf with an id. -/
theorem lookup_idMap (oldIds : List ℕ) (next : ℕ) (old : ℕ) (id : PaneId) :
    (Assoc.ofList (oldIds.zip (freshIds next oldIds.length))).lookup old = some id ↔
      ∃ k, LastLeaf oldIds old k ∧ id = ⟨next + k⟩ := by
  induction oldIds using List.reverseRecOn with
  | nil => simp [LastLeaf]
  | append_singleton oldIds x ih =>
    have hone : freshIds (next + oldIds.length) 1 = [⟨next + oldIds.length⟩] := rfl
    rw [List.length_append, List.length_singleton, freshIds_add, hone,
      List.zip_append (by simp), List.zip_cons_cons, List.zip_nil_right, Assoc.ofList_snoc]
    by_cases hx : x = old
    · subst hx
      simp only [AList.lookup_insert, Option.some.injEq, lastLeaf_snoc, ne_eq, not_true,
        false_and, or_false, true_and, exists_eq_left, eq_comm]
    · rw [AList.lookup_insert_ne (Ne.symm hx), ih]
      simp only [lastLeaf_snoc, hx, ne_eq, not_false_eq_true, true_and, false_and, false_or]

/-- Only the last leaf with an id is found again under it. -/
theorem lookup_reverseIdMap (oldIds : List ℕ) (next : ℕ) (old : ℕ) (id : PaneId) :
    (reverseIdMap (Assoc.ofList (oldIds.zip (freshIds next oldIds.length)))).lookup id = some old ↔
      ∃ k, LastLeaf oldIds old k ∧ id = ⟨next + k⟩ := by
  rw [← lookup_idMap]
  generalize hmap : Assoc.ofList (oldIds.zip (freshIds next oldIds.length)) = idMap
  have hinj {a b : ℕ} {v : PaneId} (ha : idMap.lookup a = some v) (hb : idMap.lookup b = some v) :
      a = b := by
    rw [← hmap, lookup_idMap] at ha hb
    obtain ⟨j, hj, rfl⟩ := ha
    obtain ⟨k, hk, heq⟩ := hb
    have hjk : j = k := by simpa using congrArg PaneId.raw heq
    subst hjk
    exact Option.some.inj (hj.getElem?.symm.trans hk.getElem?)
  have hentry {a : ℕ} {v : PaneId} : idMap.lookup a = some v ↔ ⟨a, v⟩ ∈ idMap.entries :=
    AList.mem_lookup_iff
  have hnodup : ((idMap.entries.map fun e => (e.2, e.1)).map (·.1)).Nodup := by
    rw [List.map_map]
    refine List.Nodup.map_on ?_ idMap.nodupKeys.nodup
    rintro ⟨a, v⟩ ha ⟨b, w⟩ hb (rfl : v = w)
    rw [hinj (hentry.2 ha) (hentry.2 hb)]
  rw [reverseIdMap, Assoc.lookup_ofList_of_nodup hnodup, hentry]
  simp only [List.mem_map, Prod.mk.injEq]
  constructor
  · rintro ⟨⟨a, v⟩, hmem, rfl, rfl⟩
    exact hmem
  · intro hmem
    exact ⟨⟨old, id⟩, hmem, rfl, rfl⟩

/-! ## One tab -/

/-- What the loop looks up for the leaves of a tab whose ids start at `next`. -/
def tabTasks (snap : TabSnapshot) (history : Option TabHistorySnapshot) (number : ℕ)
    (publicPaneIds : ℕ → Option String) (workspaceId : String) (next : ℕ) : List PaneTask :=
  let ids := freshIds next snap.layout.paneIds.length
  ids.map (paneTask snap history number (reverseIdMap (Assoc.ofList (snap.layout.paneIds.zip ids)))
    publicPaneIds workspaceId)

theorem map_id_tabTasks (snap : TabSnapshot) (history : Option TabHistorySnapshot) (number : ℕ)
    (publicPaneIds : ℕ → Option String) (workspaceId : String) (next : ℕ) :
    (tabTasks snap history number publicPaneIds workspaceId next).map (·.id) =
      freshIds next snap.layout.paneIds.length := by
  rw [tabTasks, List.map_map]
  exact List.map_id _

/-- A tab that is restored from `snap`, whose leaves got ids from `next` on, when the panes of
`survivors` could be restored. -/
structure RestoredFrom (snap : TabSnapshot) (next : ℕ) (survivors : List PaneId) (tab : Tab) :
    Prop where
  nodup : tab.layout.paneIds.Nodup
  panes : ∀ id, id ∈ tab.panes ↔ id ∈ tab.layout.paneIds
  order : tab.layout.paneIds =
    (freshIds next snap.layout.paneIds.length).filter (· ∈ survivors)
  tree : ∃ node, SameTree snap.layout node ∧
    node.paneIds = freshIds next snap.layout.paneIds.length ∧
    Collapsed (· ∈ survivors) node tab.layout.root
  focus_mem : tab.layout.focus ∈ tab.layout.paneIds
  rootPane_mem : tab.rootPane ∈ tab.layout.paneIds
  focus : ∀ old k, snap.focused = some old → LastLeaf snap.layout.paneIds old k →
    ⟨next + k⟩ ∈ survivors → tab.layout.focus = ⟨next + k⟩
  rootPane : ∀ old k, snap.rootPane = some old → LastLeaf snap.layout.paneIds old k →
    ⟨next + k⟩ ∈ survivors → tab.rootPane = ⟨next + k⟩

/-- The saved pane is found again when it survives, and else the first pane is taken. -/
theorem resolveRestoredPane_spec (oldIds : List ℕ) (next : ℕ) {survivors : List PaneId}
    {surviving : PaneId → Bool} (hsurviving : ∀ id, surviving id = true ↔ id ∈ survivors)
    {paneIds : List PaneId} (hpaneIds : ∀ id ∈ freshIds next oldIds.length, id ∈ survivors → id ∈ paneIds)
    (hne : paneIds ≠ []) (saved : Option ℕ) :
    ∃ id ∈ paneIds, resolveRestoredPane saved
        (Assoc.ofList (oldIds.zip (freshIds next oldIds.length))) surviving paneIds = some id ∧
      ∀ old k, saved = some old → LastLeaf oldIds old k → ⟨next + k⟩ ∈ survivors →
        id = ⟨next + k⟩ := by
  unfold resolveRestoredPane
  rcases hfound : (saved.bind (Assoc.ofList (oldIds.zip (freshIds next oldIds.length))).lookup).filter
    surviving with _ | id
  · obtain ⟨id, rest, rfl⟩ := List.exists_cons_of_ne_nil hne
    refine ⟨id, by simp, by simp, ?_⟩
    rintro old k rfl hlast hmem
    have hlookup := (lookup_idMap oldIds next old ⟨next + k⟩).2 ⟨k, hlast, rfl⟩
    rw [Option.bind_some, hlookup, Option.filter_some, (hsurviving _).2 hmem] at hfound
    cases hfound
  · obtain ⟨hlookup, hsurvives⟩ := Option.filter_eq_some_iff.1 hfound
    obtain ⟨old, rfl, hlookup⟩ := Option.bind_eq_some_iff.1 hlookup
    obtain ⟨k, hlast, rfl⟩ := (lookup_idMap oldIds next old id).1 hlookup
    have hk : k < oldIds.length := by
      obtain ⟨pre, post, rfl, -, rfl⟩ := hlast
      simp
    have hfresh : (⟨next + k⟩ : PaneId) ∈ freshIds next oldIds.length := mem_freshIds.2 (by simp [hk])
    refine ⟨⟨next + k⟩, hpaneIds _ hfresh ((hsurviving _).1 hsurvives), by simp, ?_⟩
    rintro old' k' hold hlast' -
    cases hold
    rw [hlast.unique hlast']

section

variable (world : RestoreWorld) (mode : RestoreMode) (conflicting : List String)
  (snap : TabSnapshot) (history : Option TabHistorySnapshot) (number : ℕ)
  (publicPaneIds : ℕ → Option String) (workspaceId : String) (next : ℕ) (st : RestoreState)

/-- The panes that are restored of a tab, and the state after it. -/
def tabLoop : List (PaneTask × RestoredPane) × RestoreState :=
  restorePanes world mode conflicting
    (tabTasks snap history number publicPaneIds workspaceId next) st

/-- The panes of a tab that survive. -/
def survivors : List PaneId :=
  (tabLoop world mode conflicting snap history number publicPaneIds workspaceId next st).1.map (·.1.id)

theorem survivors_sublist :
    (survivors world mode conflicting snap history number publicPaneIds workspaceId next st).Sublist
      (freshIds next snap.layout.paneIds.length) := by
  have hsublist := (@restorePanes_sublist world mode conflicting
    (tabTasks snap history number publicPaneIds workspaceId next) st).map (·.id)
  rw [List.map_map, map_id_tabTasks] at hsublist
  exact hsublist

/-- A pane that does not survive did not start. -/
theorem survivors_missing {id : PaneId} (hid : id ∈ freshIds next snap.layout.paneIds.length)
    (hlost : id ∉ survivors world mode conflicting snap history number publicPaneIds workspaceId
      next st) : world.spawnOk id = false ∨ world.importOk id = false := by
  rw [← map_id_tabTasks snap history number publicPaneIds workspaceId, List.mem_map] at hid
  obtain ⟨task, htask, rfl⟩ := hid
  refine @restorePanes_missing world mode conflicting _ st task htask fun hmem => ?_
  obtain ⟨entry, hentry, rfl⟩ := List.mem_map.1 hmem
  exact hlost (List.mem_map.2 ⟨entry, hentry, rfl⟩)

/-- A tab is dropped when no pane survives, and only then. -/
theorem restoreTab_cases :
    (restoreTab world mode conflicting snap history number publicPaneIds workspaceId next st).2 =
        (next + snap.layout.paneIds.length, (tabLoop world mode conflicting snap history number publicPaneIds workspaceId next st).2) ∧
      ((survivors world mode conflicting snap history number publicPaneIds workspaceId next st = [] ∧
          (restoreTab world mode conflicting snap history number publicPaneIds workspaceId next st).1 =
            none) ∨
        ∃ restored,
          (restoreTab world mode conflicting snap history number publicPaneIds workspaceId next st).1 =
            some restored ∧
          survivors world mode conflicting snap history number publicPaneIds workspaceId next st ≠ [] ∧
          restored.panes =
            (tabLoop world mode conflicting snap history number publicPaneIds workspaceId next st).1 ∧
          restored.reverse = reverseIdMap (Assoc.ofList (snap.layout.paneIds.zip
            (freshIds next snap.layout.paneIds.length))) ∧
          restored.tab.number = number ∧
          RestoredFrom snap next
            (survivors world mode conflicting snap history number publicPaneIds workspaceId next st)
            restored.tab) := by
  obtain ⟨htree, hids, hpairs, hnext⟩ := remapInner_spec snap.layout next
  have hsublist := survivors_sublist world mode conflicting snap history number publicPaneIds
    workspaceId next st
  have hnodup := hsublist.nodup (nodup_freshIds _ _)
  have hloop : restorePanes world mode conflicting ((freshIds next
      snap.layout.paneIds.length).map (paneTask snap history number (reverseIdMap (Assoc.ofList
        (snap.layout.paneIds.zip (freshIds next snap.layout.paneIds.length))))
        publicPaneIds workspaceId)) st =
    tabLoop world mode conflicting snap history number publicPaneIds workspaceId next st := rfl
  unfold restoreTab
  simp only [hpairs, hnext, hids, hloop]
  unfold survivors at hsublist hnodup ⊢
  generalize tabLoop world mode conflicting snap history number publicPaneIds workspaceId next st = loop
    at hsublist hnodup ⊢
  obtain ⟨restored, st'⟩ := loop
  simp only at hsublist hnodup ⊢
  by_cases hempty : restored = []
  · simp [hempty]
  -- The panes of the tab are those that the loop restored.
  have hsurviving : ∀ id, ((restoredPaneStates restored).lookup id).isSome = true ↔
      id ∈ restored.map (·.1.id) := by
    intro id
    rw [AList.lookup_isSome, restoredPaneStates, Assoc.mem_ofList, List.map_map]
    rfl
  generalize restoredPaneStates restored = panes at hsurviving ⊢
  have hsurvivors : restored.map (·.1.id) ≠ [] := by simpa using hempty
  rw [if_neg (by simpa using hempty)]
  have hfilter := paneIds_pruneRestoredNode (fun id => (panes.lookup id).isSome)
    (remapInner snap.layout next).1
  rw [hids] at hfilter
  have hkept : (freshIds next snap.layout.paneIds.length).filter
      (fun id => (panes.lookup id).isSome) ≠ [] := by
    obtain ⟨id, hid⟩ := List.exists_mem_of_ne_nil _ hsurvivors
    exact List.ne_nil_of_mem (List.mem_filter.2 ⟨hsublist.subset hid, (hsurviving id).2 hid⟩)
  rcases hpruned : pruneRestoredNode (fun id => (panes.lookup id).isSome)
    (remapInner snap.layout next).1 with _ | pruned
  · rw [hpruned, Option.elim_none] at hfilter
    exact absurd hfilter.symm hkept
  rw [hpruned, Option.elim_some] at hfilter
  have hmem : ∀ id, id ∈ pruned.paneIds ↔ id ∈ restored.map (·.1.id) := by
    intro id
    rw [hfilter, List.mem_filter, hsurviving]
    exact ⟨And.right, fun hid => ⟨hsublist.subset hid, hid⟩⟩
  have hresolve := resolveRestoredPane_spec snap.layout.paneIds next hsurviving
    (fun id _ hid => (hmem id).2 hid) pruned.paneIds_ne_nil
  obtain ⟨focus, hfocus, hresolved, hfocusImage⟩ := hresolve snap.focused
  obtain ⟨rootPane, hroot, hresolvedRoot, hrootImage⟩ := hresolve snap.rootPane
  simp only [hresolved, hresolvedRoot]
  refine ⟨trivial, Or.inr ⟨_, rfl, hsurvivors, rfl, rfl, rfl, ?_⟩⟩
  refine
    { nodup := ?_, panes := fun id => ?_, order := ?_, tree := ⟨_, htree, hids, ?_⟩
      focus_mem := hfocus, rootPane_mem := hroot, focus := hfocusImage, rootPane := hrootImage }
  · show pruned.paneIds.Nodup
    rw [hfilter]
    exact (nodup_freshIds _ _).filter _
  · show id ∈ panes ↔ id ∈ pruned.paneIds
    rw [hmem, ← hsurviving, AList.lookup_isSome]
  · show pruned.paneIds = _
    rw [hfilter]
    exact List.filter_congr fun id _ => by rw [Bool.eq_iff_iff, hsurviving, decide_eq_true_eq]
  · have htree' := collapsed_pruneRestoredNode hpruned
    simp only [hsurviving] at htree'
    exact htree'

end

/-! ## One workspace -/

section

variable (world : RestoreWorld) (mode : RestoreMode) (conflicting : List String)
  (snap : WorkspaceSnapshot) (history : Option WorkspaceHistorySnapshot) (ids : IdCounters)
  (st : RestoreState)

/-- The tabs of a workspace, restored one after the other. -/
def workspaceLoop : WorkspaceParts × ℕ × RestoreState :=
  restoreTabs world mode conflicting history snap.publicTabNumbers (restoredPaneNumbers snap).1
    (restoredWorkspaceId snap ids).1 snap.tabs 0
    { nextPublicPaneNumber := (restoredPaneNumbers snap).2
      nextPublicTabNumber := nextNumber snap.publicTabNumbers snap.nextPublicTabNumber }
    (restoredWorkspaceId snap ids).2.nextPaneId st

/-- A workspace is dropped when no tab is restored, and else has the tabs that are. -/
theorem restoreWorkspace_cases :
    (restoreWorkspace world mode conflicting snap history ids st).2 =
        ({ (restoredWorkspaceId snap ids).2 with
            nextPaneId := (workspaceLoop world mode conflicting snap history ids st).2.1 },
          (workspaceLoop world mode conflicting snap history ids st).2.2) ∧
      (((workspaceLoop world mode conflicting snap history ids st).1.tabs = [] ∧
          (restoreWorkspace world mode conflicting snap history ids st).1 = none) ∨
        ∃ restored,
          (restoreWorkspace world mode conflicting snap history ids st).1 = some restored ∧
          (workspaceLoop world mode conflicting snap history ids st).1.tabs ≠ [] ∧
          restored.panes = (workspaceLoop world mode conflicting snap history ids st).1.panes ∧
          restored.workspace.id = (restoredWorkspaceId snap ids).1 ∧
          restored.workspace.tabs =
            (workspaceLoop world mode conflicting snap history ids st).1.tabs ∧
          restored.workspace.publicPaneNumbers =
            (workspaceLoop world mode conflicting snap history ids st).1.publicPaneNumbers) := by
  have heq : restoreWorkspace world mode conflicting snap history ids st =
      let loop := workspaceLoop world mode conflicting snap history ids st
      let parts := loop.1
      let counters := { (restoredWorkspaceId snap ids).2 with nextPaneId := loop.2.1 }
      if parts.tabs.isEmpty then (none, counters, loop.2.2)
      else
        (some
          { panes := parts.panes
            workspace :=
              { id := (restoredWorkspaceId snap ids).1
                customName := snap.customName
                identityCwd := snap.identityCwd
                publicPaneNumbers := parts.publicPaneNumbers
                nextPublicPaneNumber := parts.nextPublicPaneNumber
                nextPublicTabNumber := parts.nextPublicTabNumber
                tabs := parts.tabs
                activeTab := min snap.activeTab (parts.tabs.length - 1) } }, counters, loop.2.2) := rfl
  rw [heq]
  generalize workspaceLoop world mode conflicting snap history ids st = loop
  obtain ⟨parts, nextPaneId, st'⟩ := loop
  by_cases hempty : parts.tabs = []
  · simp [hempty]
  · simp [hempty]

end

end Zynk
