import Zynk.Workspace.Sound

/-!
# The operations of one workspace

`Advances` says which numbers an operation gives : a pane that has a number had it before or got
it from the counter, a tab was there before or is the one that was created, and the counters do
not go back. `Kept` adds that the workspace is still sound with an active tab, and each operation
is shown to be `Kept` with the edits of `Sound`.

`KeepsActiveTab` is about the index of the active tab : closing and moving other tabs shifts the
tabs, and the index follows.
-/

namespace Zynk

namespace Workspace

variable {ws : Workspace}

/-! ## Numbers -/

/-- `created` is the number of the tab that was created. -/
structure Advances (ws ws' : Workspace) (created : Option ℕ) : Prop where
  id : ws'.id = ws.id
  nextPane : ws.nextPublicPaneNumber ≤ ws'.nextPublicPaneNumber
  nextTab : ws.nextPublicTabNumber ≤ ws'.nextPublicTabNumber
  numbers : ∀ id n, ws'.publicPaneNumbers.lookup id = some n →
    ws.publicPaneNumbers.lookup id = some n ∨ ws.nextPublicPaneNumber ≤ n
  tabs : ∀ tab' ∈ ws'.tabs,
    (∃ tab ∈ ws.tabs, tab.number = tab'.number) ∨ created = some tab'.number
  created : ∀ n, created = some n → ws.nextPublicTabNumber ≤ n

theorem Advances.refl (ws : Workspace) : ws.Advances ws none where
  id := rfl
  nextPane := le_refl _
  nextTab := le_refl _
  numbers _ _ h := Or.inl h
  tabs tab htab := Or.inl ⟨tab, htab, rfl⟩
  created := nofun

theorem Advances.trans {ws' ws'' : Workspace} {created : Option ℕ} (h : ws.Advances ws' none)
    (h' : ws'.Advances ws'' created) : ws.Advances ws'' created where
  id := h'.id.trans h.id
  nextPane := h.nextPane.trans h'.nextPane
  nextTab := h.nextTab.trans h'.nextTab
  numbers id n hid := by
    rcases h'.numbers id n hid with hid | hid
    · exact h.numbers id n hid
    · exact Or.inr (h.nextPane.trans hid)
  tabs tab'' htab'' := by
    rcases h'.tabs tab'' htab'' with ⟨tab', htab', heq⟩ | hcreated
    · obtain ⟨tab, htab, heq'⟩ := (h.tabs tab' htab').resolve_right nofun
      exact Or.inl ⟨tab, htab, heq'.trans heq⟩
    · exact Or.inr hcreated
  created n hn := h.nextTab.trans (h'.created n hn)

theorem advances_register (paneId : PaneId) :
    ws.Advances (ws.registerNewPaneWithNumber paneId ws.nextPublicPaneNumber) none where
  id := rfl
  nextPane := le_max_left _ _
  nextTab := le_refl _
  numbers id n hid := by
    rw [lookup_register] at hid
    split_ifs at hid
    · exact Or.inr (le_of_eq (Option.some.inj hid))
    · exact Or.inl hid
  tabs tab htab := Or.inl ⟨tab, htab, rfl⟩
  created := nofun

theorem advances_unregister (paneId : PaneId) : ws.Advances (ws.unregisterPane paneId) none where
  id := rfl
  nextPane := le_refl _
  nextTab := le_refl _
  numbers _ _ hid := Or.inl (lookup_unregister hid)
  tabs tab htab := Or.inl ⟨tab, htab, rfl⟩
  created := nofun

theorem advances_unregisterAll (ids : List PaneId) :
    ws.Advances (ids.foldl unregisterPane ws) none := by
  induction ids generalizing ws with
  | nil => exact .refl ws
  | cons id ids ih => exact (advances_unregister id).trans ih

theorem advances_tabs {tabs : List Tab} (activeTab : ℕ)
    (htabs : ∀ tab' ∈ tabs, ∃ tab ∈ ws.tabs, tab.number = tab'.number) :
    ws.Advances { ws with tabs, activeTab } none where
  id := rfl
  nextPane := le_refl _
  nextTab := le_refl _
  numbers _ _ hid := Or.inl hid
  tabs tab' htab' := Or.inl (htabs tab' htab')
  created := nofun

variable {idx : ℕ} {tab tab' : Tab}

theorem advances_setTab (htab : ws.tabs[idx]? = some tab) (hnumber : tab'.number = tab.number) :
    ws.Advances { ws with tabs := ws.tabs.set idx tab' } none := by
  refine advances_tabs ws.activeTab fun t ht => ?_
  rcases List.mem_or_eq_of_mem_set ht with ht | rfl
  · exact ⟨t, ht, rfl⟩
  · exact ⟨tab, List.mem_of_getElem? htab, hnumber.symm⟩

theorem advances_eraseTab (idx : ℕ) :
    ws.Advances { ws with tabs := ws.tabs.eraseIdx idx } none :=
  advances_tabs ws.activeTab fun tab htab => ⟨tab, List.mem_of_mem_eraseIdx htab, rfl⟩

theorem advances_activeTab (activeTab : ℕ) : ws.Advances { ws with activeTab } none :=
  advances_tabs activeTab fun tab htab => ⟨tab, htab, rfl⟩

theorem advances_withNextTabNumber :
    ws.Advances { ws with nextPublicTabNumber := ws.nextPublicTabNumber + 1 } none where
  id := rfl
  nextPane := le_refl _
  nextTab := Nat.le_succ _
  numbers _ _ hid := Or.inl hid
  tabs tab htab := Or.inl ⟨tab, htab, rfl⟩
  created := nofun

theorem advances_pushTab (hnumber : tab.number = ws.nextPublicTabNumber) : ws.Advances { ws with
      tabs := ws.tabs ++ [tab]
      nextPublicTabNumber := ws.nextPublicTabNumber + 1 } (some tab.number) where
  id := rfl
  nextPane := le_refl _
  nextTab := Nat.le_succ _
  numbers _ _ hid := Or.inl hid
  tabs tab' htab' := by
    rcases List.mem_append.1 htab' with htab' | htab'
    · exact Or.inl ⟨tab', htab', rfl⟩
    · rw [List.mem_singleton.1 htab']
      exact Or.inr rfl
  created n hn := by
    cases hn
    exact le_of_eq hnumber.symm

/-! ## Operations -/

/-- What an operation makes of a sound workspace. `new` are the panes that may have come in. -/
structure Kept (ws : Workspace) (new : Set PaneId) (ws' : Workspace) (created : Option ℕ) :
    Prop where
  sound : ws'.Sound ∅
  active : ws'.activeTab < ws'.tabs.length
  advances : ws.Advances ws' created
  ids : ∀ id ∈ ws'.paneIds, id ∈ ws.paneIds ∨ id ∈ new

theorem Kept.refl (h : ws.Sound ∅) (hactive : ws.activeTab < ws.tabs.length) :
    ws.Kept ∅ ws none :=
  ⟨h, hactive, .refl ws, fun _ hid => Or.inl hid⟩

theorem mem_paneIds {id : PaneId} : id ∈ ws.paneIds ↔ ∃ tab ∈ ws.tabs, id ∈ tab.layout.paneIds :=
  List.mem_flatMap

theorem mem_paneIds_set {id : PaneId}
    (hid : id ∈ (ws.tabs.set idx tab).flatMap (·.layout.paneIds)) :
    id ∈ ws.paneIds ∨ id ∈ tab.layout.paneIds := by
  obtain ⟨tab', htab', hmem⟩ := List.mem_flatMap.1 hid
  rcases List.mem_or_eq_of_mem_set htab' with htab' | rfl
  · exact Or.inl (mem_paneIds.2 ⟨tab', htab', hmem⟩)
  · exact Or.inr hmem

variable {loose : Set PaneId} {paneId : PaneId}

/-- The pane is in a tab, and where. -/
theorem findTabIndexForPane_eq_some (h : ws.Sound loose)
    (hfind : ws.findTabIndexForPane paneId = some idx) :
    ∃ tab, ws.tabs[idx]? = some tab ∧ paneId ∈ tab.layout.paneIds := by
  obtain ⟨hidx, hpane, -⟩ := List.findIdx?_eq_some_iff_getElem.1 hfind
  refine ⟨ws.tabs[idx], List.getElem?_eq_getElem hidx, ?_⟩
  exact ((h.tabs _ (List.getElem_mem hidx)).panes paneId).1 (by simpa using hpane)

theorem findTabIndexForPane_eq_none (h : ws.Sound loose) :
    ws.findTabIndexForPane paneId = none ↔ paneId ∉ ws.paneIds := by
  rw [findTabIndexForPane, List.findIdx?_eq_none_iff, mem_paneIds]
  simp only [decide_eq_false_iff_not, not_exists, not_and]
  exact forall₂_congr fun tab htab => not_congr ((h.tabs tab htab).panes paneId)

/-- The number of the tab at the index of a tab that was created. -/
def createdNumber (ws : Workspace) (created : Option ℕ) : Option ℕ :=
  created.bind fun idx => ws.tabs[idx]?.map (·.number)

/-! ### The active tab after a removal -/

/-- Where the active tab is when the tab at `idx` is gone and `length` tabs are left. -/
def activeAfterRemoval (activeTab idx length : ℕ) : ℕ :=
  if length ≤ activeTab then length - 1
  else if idx ≤ activeTab ∧ 0 < activeTab then activeTab - 1
  else activeTab

theorem ite_activeAfterRemoval {α : Type} (f : ℕ → α) (activeTab idx length : ℕ) :
    (if length ≤ activeTab then f (length - 1)
      else if idx ≤ activeTab ∧ 0 < activeTab then f (activeTab - 1)
      else f activeTab) = f (activeAfterRemoval activeTab idx length) := by
  unfold activeAfterRemoval
  split_ifs <;> rfl

theorem activeAfterRemoval_lt {activeTab length : ℕ} (hlength : 0 < length) :
    activeAfterRemoval activeTab idx length < length := by
  unfold activeAfterRemoval
  split_ifs <;> omega

/-- The index follows the active tab. -/
theorem getElem?_activeAfterRemoval {tabs : List Tab} {activeTab : ℕ}
    (hactive : activeTab < tabs.length) (hidx : idx < tabs.length) (hne : idx ≠ activeTab) :
    (tabs.eraseIdx idx)[activeAfterRemoval activeTab idx (tabs.eraseIdx idx).length]? =
      tabs[activeTab]? := by
  have hlength := List.length_eraseIdx_of_lt hidx
  rw [List.getElem?_eraseIdx, activeAfterRemoval, hlength]
  split_ifs <;> first | rfl | omega | (congr 1; omega)

theorem adjustActiveTabAfterRemoval_eq (hne : ws.tabs ≠ []) (idx : ℕ) :
    ws.adjustActiveTabAfterRemoval idx =
      { ws with activeTab := activeAfterRemoval ws.activeTab idx ws.tabs.length } := by
  rw [adjustActiveTabAfterRemoval, if_neg (by simpa using hne)]
  exact ite_activeAfterRemoval (fun activeTab => { ws with activeTab }) _ _ _

/-! ### Creating, closing, moving and switching tabs -/

theorem createTabWithRuntime_kept (h : ws.Sound ∅) (hactive : ws.activeTab < ws.tabs.length)
    {rootId : PaneId} (hroot : rootId ∉ ws.paneIds) (extraEnv : List (String × String))
    (spawn : PaneLaunchEnv → Bool) (terminalId : TerminalId) :
    ∃ ws' created, ws.createTabWithRuntime extraEnv spawn rootId terminalId = some (ws', created) ∧
      ws.Kept {rootId} ws' (ws'.createdNumber created) := by
  have htab : ws.activeTab? = some ws.tabs[ws.activeTab] := List.getElem?_eq_getElem hactive
  have hnew : rootId ∉ ws.publicPaneNumbers := by simpa [h.numbered] using hroot
  unfold createTabWithRuntime activeTab? at *
  simp only [htab, Option.map_some]
  split
  · let tab := Tab.new ws.nextPublicTabNumber rootId terminalId
    let registered := ws.registerNewPaneWithNumber rootId ws.nextPublicPaneNumber
    have htab : tab.Sound := Tab.new_sound _ _ _
    have hids : tab.layout.paneIds = [rootId] := rfl
    have hsound := (h.register hnew).pushTab htab rfl hids (Set.mem_insert _ _)
    have hpush : registered.Advances _ (some tab.number) := advances_pushTab rfl
    have hset : insert rootId (∅ : Set PaneId) \ {rootId} = ∅ := by simp
    rw [hset] at hsound
    refine ⟨_, _, rfl, hsound, ?_, ?_, ?_⟩
    · show ws.activeTab < (ws.tabs ++ [tab]).length
      rw [List.length_append]
      omega
    · have hcreated : (ws.tabs ++ [tab])[ws.tabs.length]? = some tab := by simp
      simp only [createdNumber, Option.bind_some, registerNewPaneWithNumber]
      rw [hcreated]
      exact (advances_register rootId).trans hpush
    · intro id hid
      change id ∈ (ws.tabs ++ [tab]).flatMap (·.layout.paneIds) at hid
      rw [List.flatMap_append, List.flatMap_singleton, hids, List.mem_append] at hid
      exact hid.imp_right List.mem_singleton.1
  · exact ⟨_, none, rfl, h.withNextTabNumber, hactive, advances_withNextTabNumber,
      fun _ hid => Or.inl hid⟩

theorem foldl_unregisterPane (ids : List PaneId) (ws : Workspace) :
    (ids.foldl unregisterPane ws).tabs = ws.tabs ∧
      (ids.foldl unregisterPane ws).activeTab = ws.activeTab := by
  induction ids generalizing ws with
  | nil => exact ⟨rfl, rfl⟩
  | cons id ids ih => exact ih (ws.unregisterPane id)

theorem closeTab_of_le (hcount : ws.tabs.length ≤ 1) (idx : ℕ) :
    ws.closeTab idx = (ws, false) := by
  rw [closeTab, if_pos hcount]

theorem closeTab_of_none (htab : ws.tabs[idx]? = none) : ws.closeTab idx = (ws, false) := by
  rw [closeTab, htab, ite_self]

theorem closeTab_eq (hcount : ¬ ws.tabs.length ≤ 1) (htab : ws.tabs[idx]? = some tab) :
    ws.closeTab idx =
      ({ tab.panes.keys.foldl unregisterPane { ws with tabs := ws.tabs.eraseIdx idx } with
        activeTab := activeAfterRemoval ws.activeTab idx (ws.tabs.eraseIdx idx).length }, true) := by
  obtain ⟨htabs, hactive⟩ := foldl_unregisterPane tab.panes.keys
    { ws with tabs := ws.tabs.eraseIdx idx }
  rw [closeTab, if_neg hcount, htab]
  simp only
  generalize tab.panes.keys.foldl unregisterPane { ws with tabs := ws.tabs.eraseIdx idx } = left
    at htabs hactive ⊢
  simp only at htabs hactive
  rw [← htabs, ← hactive]
  exact ite_activeAfterRemoval (fun activeTab => ({ left with activeTab }, true)) _ _ _

theorem closeTab_kept (h : ws.Sound ∅) (hactive : ws.activeTab < ws.tabs.length) (idx : ℕ) :
    ws.Kept ∅ (ws.closeTab idx).1 none := by
  by_cases hcount : ws.tabs.length ≤ 1
  · rw [closeTab_of_le hcount]
    exact .refl h hactive
  rcases htab : ws.tabs[idx]? with _ | tab
  · rw [closeTab_of_none htab]
    exact .refl h hactive
  obtain ⟨hidx, -⟩ := List.getElem?_eq_some_iff.1 htab
  have hlength := List.length_eraseIdx_of_lt hidx
  have hkeys : ∀ id, id ∈ tab.panes.keys ↔ id ∈ tab.layout.paneIds := fun id => by
    rw [← AList.mem_keys, (h.tabs tab (List.mem_of_getElem? htab)).panes]
  have hset : ({id | id ∈ tab.layout.paneIds} ∪ ∅) \ {id | id ∈ tab.panes.keys} =
      (∅ : Set PaneId) := by
    simp [hkeys]
  have hsound := (h.eraseTab htab).unregisterAll tab.panes.keys_nodup fun id hid =>
    Or.inl ((hkeys id).1 hid)
  obtain ⟨htabs, -⟩ := foldl_unregisterPane tab.panes.keys
    { ws with tabs := ws.tabs.eraseIdx idx }
  rw [hset] at hsound
  rw [closeTab_eq hcount htab]
  refine ⟨hsound.withActiveTab _, ?_, ?_, ?_⟩
  · show _ < List.length (Workspace.tabs (List.foldl _ _ _))
    rw [htabs]
    exact activeAfterRemoval_lt (by omega)
  · exact ((advances_eraseTab idx).trans (advances_unregisterAll _)).trans (advances_activeTab _)
  · intro id hid
    obtain ⟨tab', htab', hid⟩ := mem_paneIds.1 hid
    refine Or.inl (mem_paneIds.2 ⟨tab', List.mem_of_mem_eraseIdx (htabs ▸ htab'), hid⟩)

/-- Closing another tab leaves the active tab. -/
theorem closeTab_activeTab? (hactive : ws.activeTab < ws.tabs.length) (hne : idx ≠ ws.activeTab) :
    (ws.closeTab idx).1.activeTab? = ws.activeTab? := by
  by_cases hcount : ws.tabs.length ≤ 1
  · rw [closeTab_of_le hcount]
  rcases htab : ws.tabs[idx]? with _ | tab
  · rw [closeTab_of_none htab]
  obtain ⟨hidx, -⟩ := List.getElem?_eq_some_iff.1 htab
  obtain ⟨htabs, -⟩ := foldl_unregisterPane tab.panes.keys
    { ws with tabs := ws.tabs.eraseIdx idx }
  rw [closeTab_eq hcount htab, activeTab?, activeTab?]
  simp only [htabs]
  exact getElem?_activeAfterRemoval hactive hidx hne

/-- What is in two of the lists that make up a duplicate-free list is in one place twice. -/
theorem idx_eq_of_mem_flatMap {α β : Type} {f : α → List β} {l : List α}
    (hnodup : (l.flatMap f).Nodup) {i j : ℕ} {a a' : α} (hi : l[i]? = some a)
    (hj : l[j]? = some a') {b : β} (hb : b ∈ f a) (hb' : b ∈ f a') : i = j := by
  obtain ⟨hi', rfl⟩ := List.getElem?_eq_some_iff.1 hi
  obtain ⟨hj', rfl⟩ := List.getElem?_eq_some_iff.1 hj
  have hpairwise := List.pairwise_iff_getElem.1 (List.nodup_flatMap.1 hnodup).2
  rcases lt_trichotomy i j with hlt | heq | hlt
  · exact absurd hb' (hpairwise i j hi' hj' hlt hb)
  · exact heq
  · exact absurd hb (hpairwise j i hj' hi' hlt hb')

/-- Tabs of a sound workspace have different root panes. -/
theorem eq_of_rootPane_eq (h : ws.Sound loose) (htab : tab ∈ ws.tabs) (htab' : tab' ∈ ws.tabs)
    (heq : tab.rootPane = tab'.rootPane) : tab = tab' := by
  obtain ⟨i, hi⟩ := List.getElem?_of_mem htab
  obtain ⟨j, hj⟩ := List.getElem?_of_mem htab'
  obtain rfl := idx_eq_of_mem_flatMap h.disjoint hi hj (h.tabs tab htab).rootPane
    (heq ▸ (h.tabs tab' htab').rootPane)
  exact Option.some.inj (hi.symm.trans hj)

/-- Where the tabs are after a move : the active tab is found again by its root pane. -/
theorem moveTab_cases (h : ws.Sound loose) (hactive : ws.activeTab < ws.tabs.length)
    (sourceIdx insertIdx : ℕ) : (ws.moveTab sourceIdx insertIdx).1 = ws ∨
      ∃ tabs activeTab, (ws.moveTab sourceIdx insertIdx).1 = { ws with tabs, activeTab } ∧
        tabs.Perm ws.tabs ∧ tabs[activeTab]? = ws.tabs[ws.activeTab]? := by
  unfold moveTab
  rcases htab : ws.tabs[sourceIdx]? with _ | tab
  · exact Or.inl rfl
  obtain ⟨hsource, rfl⟩ := List.getElem?_eq_some_iff.1 htab
  simp only
  split
  · exact Or.inl rfl
  generalize htarget : min (if sourceIdx < insertIdx then insertIdx - 1 else insertIdx)
    (ws.tabs.length - 1) = targetIdx
  by_cases hsame : sourceIdx = targetIdx
  · exact Or.inl (by rw [if_pos hsame])
  rw [if_neg hsame]
  have hlength := List.length_eraseIdx_of_lt hsource
  have hperm : ((ws.tabs.eraseIdx sourceIdx).insertIdx targetIdx ws.tabs[sourceIdx]).Perm
      ws.tabs := by
    refine (List.perm_insertIdx _ _ ?_).trans (List.getElem_cons_eraseIdx_perm hsource)
    omega
  have hroot : ws.activeTab? = some ws.tabs[ws.activeTab] := List.getElem?_eq_getElem hactive
  have hmem := hperm.mem_iff.2 (List.getElem_mem hactive)
  obtain ⟨idx, hidx⟩ : ∃ idx, ((ws.tabs.eraseIdx sourceIdx).insertIdx targetIdx
      ws.tabs[sourceIdx]).findIdx? (fun tab => tab.rootPane == ws.tabs[ws.activeTab].rootPane) =
      some idx := by
    rw [← Option.isSome_iff_exists, List.findIdx?_isSome, List.any_eq_true]
    exact ⟨_, hmem, by simp⟩
  obtain ⟨hlt, hfound, -⟩ := List.findIdx?_eq_some_iff_getElem.1 hidx
  refine Or.inr ⟨_, idx, ?_, hperm, ?_⟩
  · simp only [hroot, Option.map_some, Option.bind_some, hidx, Option.getD_some]
  · rw [List.getElem?_eq_getElem hlt, List.getElem?_eq_getElem hactive]
    refine congrArg some (eq_of_rootPane_eq h ?_ (List.getElem_mem hactive) (by simpa using hfound))
    exact hperm.mem_iff.1 (List.getElem_mem hlt)

theorem moveTab_kept (h : ws.Sound ∅) (hactive : ws.activeTab < ws.tabs.length)
    (sourceIdx insertIdx : ℕ) : ws.Kept ∅ (ws.moveTab sourceIdx insertIdx).1 none := by
  rcases moveTab_cases h hactive sourceIdx insertIdx with
    hsame | ⟨tabs, activeTab, heq, hperm, hfound⟩
  · rw [hsame]
    exact .refl h hactive
  · rw [heq]
    refine ⟨(h.permTabs hperm).withActiveTab activeTab, ?_, ?_, fun id hid => Or.inl ?_⟩
    · rw [List.getElem?_eq_getElem hactive] at hfound
      exact (List.getElem?_eq_some_iff.1 hfound).1
    · exact advances_tabs activeTab fun tab htab => ⟨tab, hperm.mem_iff.1 htab, rfl⟩
    · exact (hperm.flatMap_right _).mem_iff.1 hid

/-- Moving any tab leaves the active tab. -/
theorem moveTab_activeTab? (h : ws.Sound ∅) (hactive : ws.activeTab < ws.tabs.length)
    (sourceIdx insertIdx : ℕ) :
    (ws.moveTab sourceIdx insertIdx).1.activeTab? = ws.activeTab? := by
  rcases moveTab_cases h hactive sourceIdx insertIdx with hsame | ⟨tabs, activeTab, heq, -, hfound⟩
  · rw [hsame]
  · rw [heq]
    exact hfound

theorem switchTab_kept (h : ws.Sound ∅) (hactive : ws.activeTab < ws.tabs.length) (idx : ℕ) :
    ws.Kept ∅ (ws.switchTab idx) none := by
  unfold switchTab
  split
  · rename_i hidx
    let seen (tab : Tab) : Tab :=
      { tab with panes := tab.panes.mapWithKey fun _ pane => { pane with seen := true } }
    have htab : ws.tabs[idx]? = some ws.tabs[idx] := List.getElem?_eq_getElem hidx
    have hsound := h.tabs _ (List.getElem_mem hidx)
    have hseen : (seen ws.tabs[idx]).Sound := by
      refine ⟨hsound.layout, fun id => ?_, hsound.rootPane⟩
      rw [← hsound.panes, ← AList.lookup_isSome, ← AList.lookup_isSome, Assoc.lookup_mapWithKey,
        Option.isSome_map]
    have hset : ws.tabs.modify idx seen = ws.tabs.set idx (seen ws.tabs[idx]) := by
      rw [List.modify_eq_set_getElem?, htab]
      rfl
    have hws := h.setTab htab hseen rfl (fun _ => Iff.rfl) (by simp)
    have hadvances : ws.Advances { ws with tabs := ws.tabs.set idx (seen ws.tabs[idx]) } none :=
      advances_setTab htab rfl
    have hids : ∀ id ∈ (ws.tabs.set idx (seen ws.tabs[idx])).flatMap (·.layout.paneIds),
        id ∈ ws.paneIds := by
      intro id hid
      rcases mem_paneIds_set hid with hid | hid
      · exact hid
      · exact mem_paneIds.2 ⟨_, List.getElem_mem hidx, hid⟩
    rw [← hset] at hws hadvances hids
    exact ⟨hws.withActiveTab idx, by simpa using hidx, hadvances.trans (advances_activeTab idx),
      fun id hid => Or.inl (hids id hid)⟩
  · exact .refl h hactive

/-! ### Splitting and closing panes -/

theorem splitPaneWithRuntime_kept (h : ws.Sound ∅) (hactive : ws.activeTab < ws.tabs.length)
    {newId : PaneId} (hnew : newId ∉ ws.paneIds) (paneId : PaneId) (direction : Direction)
    (ratio : Option F32) (focusNewPane : Bool) (extraEnv : List (String × String))
    (spawn : PaneLaunchEnv → Bool) (terminalId : TerminalId) :
    ∃ ws' newPane, ws.splitPaneWithRuntime paneId direction ratio focusNewPane extraEnv spawn newId
        terminalId = some (ws', newPane) ∧ ws.Kept {newId} ws' none := by
  unfold splitPaneWithRuntime
  rcases hfind : ws.findTabIndexForPane paneId with _ | idx
  · exact ⟨ws, none, rfl, h, hactive, .refl ws, fun _ hid => Or.inl hid⟩
  obtain ⟨tab, htab, hpane⟩ := findTabIndexForPane_eq_some h hfind
  have hmem := List.mem_of_getElem? htab
  have hfresh : newId ∉ tab.layout.paneIds := fun hid => hnew (mem_paneIds.2 ⟨tab, hmem, hid⟩)
  have hunnumbered : newId ∉ ws.publicPaneNumbers := by simpa [h.numbered] using hnew
  obtain ⟨tab', hsplit, htab', hnumber, hperm⟩ := Tab.splitPaneWithRuntime_spec (h.tabs tab hmem)
    hpane hfresh focusNewPane direction ratio
    (spawn (ws.launchEnvForNewPane tab.number ws.nextPublicPaneNumber extraEnv)) terminalId
  simp only [htab, Option.bind_some, hsplit, Option.map_some]
  generalize spawn (ws.launchEnvForNewPane tab.number ws.nextPublicPaneNumber extraEnv) = spawned
    at hsplit hperm ⊢
  rcases spawned with _ | _
  · simp only [Bool.false_eq_true, if_false] at hperm ⊢
    have hunion : ∀ id, id ∈ tab'.layout.paneIds ∨ id ∈ (∅ : Set PaneId) ↔
        id ∈ tab.layout.paneIds ∨ id ∈ (∅ : Set PaneId) := fun id => by rw [hperm.mem_iff]
    have hws := h.setTab htab htab' hnumber hunion nofun
    refine ⟨_, _, rfl, hws, by simpa using hactive, advances_setTab htab hnumber, fun id hid => ?_⟩
    rcases mem_paneIds_set hid with hid | hid
    · exact Or.inl hid
    · exact Or.inl (mem_paneIds.2 ⟨tab, hmem, hperm.mem_iff.1 hid⟩)
  · simp only [if_true] at hperm ⊢
    let registered := ws.registerNewPaneWithNumber newId ws.nextPublicPaneNumber
    have hunion : ∀ id, id ∈ tab'.layout.paneIds ∨ id ∈ (∅ : Set PaneId) ↔
        id ∈ tab.layout.paneIds ∨ id ∈ insert newId (∅ : Set PaneId) := fun id => by
      rw [hperm.mem_iff, List.mem_cons]
      simp [or_comm]
    have hws := (h.register hunnumbered).setTab htab htab' hnumber hunion nofun
    have hset : registered.Advances { registered with tabs := registered.tabs.set idx tab' } none :=
      advances_setTab htab hnumber
    refine ⟨_, _, rfl, hws, by simpa [registerNewPaneWithNumber] using hactive,
      (advances_register newId).trans hset, fun id hid => ?_⟩
    rcases mem_paneIds_set hid with hid | hid
    · exact Or.inl hid
    · rcases List.mem_cons.1 (hperm.mem_iff.1 hid) with rfl | hid
      · exact Or.inr rfl
      · exact Or.inl (mem_paneIds.2 ⟨tab, hmem, hid⟩)

/-- The workspace without a tab that had one pane. -/
def withoutTab (ws : Workspace) (idx : ℕ) : Workspace :=
  { ws with
    tabs := ws.tabs.eraseIdx idx
    activeTab := activeAfterRemoval ws.activeTab idx (ws.tabs.eraseIdx idx).length }

/-- A pane closes with its tab when it is alone in it, unless the tab is the last one too, and
else it is taken out of its tab. -/
theorem removePane_cases (h : ws.Sound ∅) (paneId : PaneId) :
    (∃ flag, ws.removePane paneId = some (ws, flag)) ∨
      ∃ idx tab, ws.tabs[idx]? = some tab ∧ paneId ∈ tab.layout.paneIds ∧
        ((tab.layout.paneIds = [paneId] ∧ ¬ ws.tabs.length ≤ 1 ∧
            ws.removePane paneId = some ((ws.withoutTab idx).unregisterPane paneId, false)) ∨
          ∃ tab', tab'.Sound ∧ tab'.number = tab.number ∧
            tab.layout.paneIds.Perm (paneId :: tab'.layout.paneIds) ∧
            ws.removePane paneId =
              some (({ ws with tabs := ws.tabs.set idx tab' }).unregisterPane paneId, false)) := by
  unfold removePane
  rcases hfind : ws.findTabIndexForPane paneId with _ | idx
  · exact Or.inl ⟨false, rfl⟩
  obtain ⟨tab, htab, hpane⟩ := findTabIndexForPane_eq_some h hfind
  simp only [htab, Option.bind_some]
  by_cases hcount : tab.layout.paneCount ≤ 1
  · by_cases hlast : ws.tabs.length ≤ 1
    · exact Or.inl ⟨true, by rw [if_pos hcount, if_pos hlast]⟩
    · refine Or.inr ⟨idx, tab, htab, hpane, Or.inl ⟨Tab.paneIds_eq_singleton hpane hcount, hlast, ?_⟩⟩
      rw [if_pos hcount, if_neg hlast]
      exact ite_activeAfterRemoval (fun activeTab => some (({ ws with
        tabs := ws.tabs.eraseIdx idx, activeTab }).unregisterPane paneId, false)) _ _ _
  · obtain ⟨tab', terminalId, hdetach, htab', hnumber, hperm⟩ :=
      Tab.detachPane_spec (h.tabs tab (List.mem_of_getElem? htab)) hpane hcount
    refine Or.inr ⟨idx, tab, htab, hpane, Or.inr ⟨tab', htab', hnumber, hperm, ?_⟩⟩
    simp only [if_neg hcount, hdetach, Option.map_some]

theorem Sound.withoutTab (h : ws.Sound loose) (htab : ws.tabs[idx]? = some tab)
    (hids : tab.layout.paneIds = [paneId]) : (ws.withoutTab idx).Sound (insert paneId loose) := by
  have hset : insert paneId loose = {id | id ∈ tab.layout.paneIds} ∪ loose := by
    ext id
    simp [hids]
  rw [hset]
  exact (h.eraseTab htab).withActiveTab _

theorem advances_withoutTab (idx : ℕ) : ws.Advances (ws.withoutTab idx) none :=
  (advances_eraseTab idx).trans (advances_activeTab _)

/-- A pane comes loose from its tab. -/
theorem Sound.takeFrom (h : ws.Sound ∅) (htab : ws.tabs[idx]? = some tab) (htab' : tab'.Sound)
    (hnumber : tab'.number = tab.number)
    (hperm : tab.layout.paneIds.Perm (paneId :: tab'.layout.paneIds)) :
    ({ ws with tabs := ws.tabs.set idx tab' } : Workspace).Sound {paneId} := by
  have hnodup := hperm.nodup_iff.1 (h.tabs tab (List.mem_of_getElem? htab)).layout.nodup
  refine h.setTab htab htab' hnumber (fun id => ?_) fun id hid => ?_
  · rw [hperm.mem_iff, List.mem_cons]
    simp [or_comm]
  · rw [Set.mem_singleton_iff.1 hid]
    exact (List.nodup_cons.1 hnodup).1

theorem mem_paneIds_takeFrom {id : PaneId} (htab : ws.tabs[idx]? = some tab)
    (hperm : tab.layout.paneIds.Perm (paneId :: tab'.layout.paneIds))
    (hid : id ∈ (ws.tabs.set idx tab').flatMap (·.layout.paneIds)) : id ∈ ws.paneIds := by
  rcases mem_paneIds_set hid with hid | hid
  · exact hid
  · exact mem_paneIds.2 ⟨tab, List.mem_of_getElem? htab,
      hperm.mem_iff.2 (List.mem_cons_of_mem paneId hid)⟩

theorem removePane_kept (h : ws.Sound ∅) (hactive : ws.activeTab < ws.tabs.length)
    (paneId : PaneId) :
    ∃ ws' flag, ws.removePane paneId = some (ws', flag) ∧ ws.Kept ∅ ws' none := by
  have hset : insert paneId (∅ : Set PaneId) \ {paneId} = ∅ := by simp
  rcases removePane_cases h paneId with ⟨flag, heq⟩ | ⟨idx, tab, htab, -, hcases⟩
  · exact ⟨ws, flag, heq, .refl h hactive⟩
  rcases hcases with ⟨hids, hlast, heq⟩ | ⟨tab', htab', hnumber, hperm, heq⟩
  · obtain ⟨hidx, -⟩ := List.getElem?_eq_some_iff.1 htab
    have hlength := List.length_eraseIdx_of_lt hidx
    have hsound := (h.withoutTab htab hids).unregister (Set.mem_insert _ _)
    rw [hset] at hsound
    refine ⟨_, _, heq, hsound, activeAfterRemoval_lt (by omega),
      (advances_withoutTab idx).trans (advances_unregister paneId), fun id hid => ?_⟩
    obtain ⟨tab', htab', hid⟩ := List.mem_flatMap.1 hid
    exact Or.inl (mem_paneIds.2 ⟨tab', List.mem_of_mem_eraseIdx htab', hid⟩)
  · have hsound := (h.takeFrom htab htab' hnumber hperm).unregister (Set.mem_singleton paneId)
    rw [Set.sdiff_self] at hsound
    exact ⟨_, _, heq, hsound, by simpa [unregisterPane] using hactive,
      (advances_setTab htab hnumber).trans (advances_unregister paneId),
      fun id hid => Or.inl (mem_paneIds_takeFrom htab hperm hid)⟩

/-- Closing a pane of another tab leaves the active tab. -/
theorem removePane_activeTab? (h : ws.Sound ∅) (hactive : ws.activeTab < ws.tabs.length)
    (hpane : ∀ tab, ws.activeTab? = some tab → paneId ∉ tab.layout.paneIds) :
    ∃ ws' flag, ws.removePane paneId = some (ws', flag) ∧ ws'.activeTab? = ws.activeTab? := by
  rcases removePane_cases h paneId with ⟨flag, heq⟩ | ⟨idx, tab, htab, hmem, hcases⟩
  · exact ⟨ws, flag, heq, rfl⟩
  have hne : idx ≠ ws.activeTab := fun hidx =>
    hpane tab (by rw [activeTab?, ← hidx, htab]) hmem
  rcases hcases with ⟨-, -, heq⟩ | ⟨tab', -, -, -, heq⟩
  · obtain ⟨hidx, -⟩ := List.getElem?_eq_some_iff.1 htab
    exact ⟨_, _, heq, getElem?_activeAfterRemoval hactive hidx hne⟩
  · exact ⟨_, _, heq, List.getElem?_set_ne hne⟩

/-! ### Moving panes -/

/-- What taking a pane leaves : the pane is loose, and a workspace that is left without tabs
says so. -/
structure Taken (ws : Workspace) (paneId : PaneId) (ws' : Workspace) (taken : TakenPane) :
    Prop where
  pane : taken.moved.paneId = paneId
  sound : ws'.Sound {paneId}
  advances : ws.Advances ws' none
  perm : ws.paneIds.Perm (paneId :: ws'.paneIds)
  empty : taken.workspaceEmpty = ws'.tabs.isEmpty
  active : ws'.tabs ≠ [] → ws'.activeTab < ws'.tabs.length
  activeEmpty : ws'.tabs = [] → ws'.activeTab = 0
  activeTab? : (∀ tab, ws.activeTab? = some tab → paneId ∉ tab.layout.paneIds) →
    ws'.activeTab? = ws.activeTab?
  /-- Another pane is still in the tab that it was in. -/
  tabs : ∀ tab ∈ ws.tabs, ∀ id ∈ tab.layout.paneIds, id ≠ paneId →
    ∃ tab' ∈ ws'.tabs, tab'.number = tab.number ∧ id ∈ tab'.layout.paneIds

theorem paneIds_perm_of_getElem? (htab : ws.tabs[idx]? = some tab) :
    ws.paneIds.Perm (tab.layout.paneIds ++ (ws.tabs.eraseIdx idx).flatMap (·.layout.paneIds)) := by
  obtain ⟨hidx, rfl⟩ := List.getElem?_eq_some_iff.1 htab
  have hperm := (List.getElem_cons_eraseIdx_perm hidx).flatMap_right (·.layout.paneIds)
  rw [List.flatMap_cons] at hperm
  exact hperm.symm

theorem paneIds_set_perm (htab : ws.tabs[idx]? = some tab) (tab' : Tab) :
    ((ws.tabs.set idx tab').flatMap (·.layout.paneIds)).Perm
      (tab'.layout.paneIds ++ (ws.tabs.eraseIdx idx).flatMap (·.layout.paneIds)) := by
  obtain ⟨hidx, -⟩ := List.getElem?_eq_some_iff.1 htab
  have hperm := (List.set_perm_cons_eraseIdx hidx tab').flatMap_right (·.layout.paneIds)
  rwa [List.flatMap_cons] at hperm

theorem takePaneForMove_spec (h : ws.Sound ∅) (hactive : ws.activeTab < ws.tabs.length)
    (hpane : paneId ∈ ws.paneIds) :
    ∃ ws' taken, ws.takePaneForMove paneId = some (ws', some taken) ∧
      ws.Taken paneId ws' taken := by
  rcases hfind : ws.findTabIndexForPane paneId with _ | idx
  · exact absurd hpane ((findTabIndexForPane_eq_none h).1 hfind)
  obtain ⟨tab, htab, hmem⟩ := findTabIndexForPane_eq_some h hfind
  obtain ⟨hidx, -⟩ := List.getElem?_eq_some_iff.1 htab
  have hne : (∀ tab, ws.activeTab? = some tab → paneId ∉ tab.layout.paneIds) →
      idx ≠ ws.activeTab := fun hother heq => hother tab (by rw [activeTab?, ← heq, htab]) hmem
  have htabSound := h.tabs tab (List.mem_of_getElem? htab)
  have hperm := paneIds_perm_of_getElem? htab
  have hrest : ∀ other ∈ ws.tabs, other = tab ∨ other ∈ ws.tabs.eraseIdx idx := by
    intro other hother
    obtain ⟨hidx, rfl⟩ := List.getElem?_eq_some_iff.1 htab
    exact List.mem_cons.1 ((List.getElem_cons_eraseIdx_perm hidx).mem_iff.2 hother)
  unfold takePaneForMove
  simp only [hfind, htab, Option.bind_some]
  by_cases hcount : tab.layout.paneCount ≤ 1
  · obtain ⟨tab', moved, htake, rfl⟩ := Tab.takePaneForMove_last htabSound hmem hcount
    have hids := Tab.paneIds_eq_singleton hmem hcount
    have hlength := List.length_eraseIdx_of_lt hidx
    have hsound := h.withoutTab htab hids
    rw [insert_empty_eq] at hsound
    simp only [if_pos hcount, htake, Option.map_some]
    rw [hids, List.singleton_append] at hperm
    have htabs : ∀ other ∈ ws.tabs, ∀ id ∈ other.layout.paneIds, id ≠ moved.paneId →
        ∃ tab' ∈ ws.tabs.eraseIdx idx, tab'.number = other.number ∧ id ∈ tab'.layout.paneIds := by
      intro other hother id hid hneId
      rcases hrest other hother with rfl | hother
      · rw [hids, List.mem_singleton] at hid
        exact absurd hid hneId
      · exact ⟨other, hother, rfl, hid⟩
    by_cases hempty : ws.tabs.eraseIdx idx = []
    · have hadjust : ({ ws with tabs := ws.tabs.eraseIdx idx } :
          Workspace).adjustActiveTabAfterRemoval idx =
            { ws with tabs := ws.tabs.eraseIdx idx, activeTab := 0 } := by
        rw [adjustActiveTabAfterRemoval, if_pos (by simpa using hempty)]
      rw [hadjust]
      refine ⟨_, _, rfl, rfl, hsound.withActiveTab 0,
        (advances_eraseTab idx).trans (advances_activeTab 0), hperm, rfl,
        fun hnonempty => absurd hempty hnonempty, fun _ => rfl, fun hother => ?_, htabs⟩
      have := hne hother
      rw [hempty, List.length_nil] at hlength
      omega
    · have hadjust : ({ ws with tabs := ws.tabs.eraseIdx idx } :
          Workspace).adjustActiveTabAfterRemoval idx = ws.withoutTab idx :=
        adjustActiveTabAfterRemoval_eq hempty idx
      rw [hadjust]
      exact ⟨_, _, rfl, rfl, hsound, advances_withoutTab idx, hperm, rfl,
        fun _ => activeAfterRemoval_lt (List.length_pos_of_ne_nil hempty),
        fun heq => absurd heq hempty,
        fun hother => getElem?_activeAfterRemoval hactive hidx (hne hother), htabs⟩
  · obtain ⟨tab', moved, htake, rfl, htab', hnumber, htaken⟩ :=
      Tab.takePaneForMove_spec htabSound hmem hcount
    simp only [if_neg hcount, htake, Option.map_some]
    have hset : ws.tabs.set idx tab' ≠ [] := List.ne_nil_of_mem (List.mem_set hidx tab')
    refine ⟨_, _, rfl, rfl, h.takeFrom htab htab' hnumber htaken, advances_setTab htab hnumber, ?_,
      ?_, fun _ => by simpa using hactive, fun heq => absurd heq hset,
      fun hother => List.getElem?_set_ne (hne hother), ?_⟩
    · refine hperm.trans ((htaken.append_right _).trans ?_)
      rw [List.cons_append]
      exact ((paneIds_set_perm htab tab').symm).cons _
    · simpa using (List.ne_nil_of_length_pos (by omega : 0 < ws.tabs.length))
    · intro other hother id hid hneId
      have hsetPerm := List.set_perm_cons_eraseIdx hidx tab'
      rcases hrest other hother with rfl | hother
      · exact ⟨tab', hsetPerm.mem_iff.2 (List.mem_cons_self ..), hnumber,
          (List.mem_cons.1 (htaken.mem_iff.1 hid)).resolve_left hneId⟩
      · exact ⟨other, hsetPerm.mem_iff.2 (List.mem_cons_of_mem _ hother), rfl, hid⟩

/-- What putting the taken pane somewhere in a workspace makes of it. -/
structure Placed (ws : Workspace) (paneId : PaneId) (ws' : Workspace) (created : Option ℕ) :
    Prop where
  sound : ws'.Sound ∅
  active : ws'.activeTab < ws'.tabs.length
  advances : ws.Advances ws' created
  perm : ws'.paneIds.Perm (paneId :: ws.paneIds)

/-- A pane has a number already when it stays in its workspace, and else gets one. -/
theorem Sound.registerIfNew (h : ws.Sound loose) (hloose : loose ⊆ {paneId})
    (hpane : paneId ∉ ws.paneIds) : (ws.registerIfNew paneId).Sound {paneId} := by
  unfold Workspace.registerIfNew
  split
  · rename_i hmem
    have hin : paneId ∈ loose := ((h.numbered paneId).1 hmem).resolve_left hpane
    rwa [hloose.antisymm (Set.singleton_subset_iff.2 hin)] at h
  · rename_i hnew
    have hset : insert paneId loose = {paneId} :=
      (Set.insert_subset (Set.mem_singleton _) hloose).antisymm (by simp)
    have hsound := h.register hnew
    rwa [hset] at hsound

theorem advances_registerIfNew (paneId : PaneId) :
    ws.Advances (ws.registerIfNew paneId) none := by
  unfold registerIfNew
  split
  · exact .refl ws
  · exact advances_register paneId

theorem registerIfNew_tabs (ws : Workspace) (paneId : PaneId) :
    (ws.registerIfNew paneId).tabs = ws.tabs ∧
      (ws.registerIfNew paneId).activeTab = ws.activeTab ∧
      (ws.registerIfNew paneId).nextPublicTabNumber = ws.nextPublicTabNumber := by
  unfold registerIfNew
  split <;> exact ⟨rfl, rfl, rfl⟩

theorem insertMovedPaneIntoTab_spec (h : ws.Sound loose) {moved : MovedPane}
    (hloose : loose ⊆ {moved.paneId}) (hactive : ws.activeTab < ws.tabs.length)
    (hpane : moved.paneId ∉ ws.paneIds) (htab : ws.tabs[idx]? = some tab) {target : PaneId}
    (htarget : target ∈ tab.layout.paneIds) (direction : Direction) (ratio : F32) (focus : Bool) :
    ∃ ws', ws.insertMovedPaneIntoTab idx target moved direction ratio focus = (ws', true) ∧
      ws.Placed moved.paneId ws' none := by
  have hmem := List.mem_of_getElem? htab
  have hmoved : moved.paneId ∉ tab.layout.paneIds := fun hid =>
    hpane (mem_paneIds.2 ⟨tab, hmem, hid⟩)
  obtain ⟨tab', hinsert, htab', hnumber, hperm⟩ :=
    Tab.insertExistingPane_spec (h.tabs tab hmem) htarget hmoved direction ratio focus
  obtain ⟨htabs, hactiveTab, -⟩ := registerIfNew_tabs ws moved.paneId
  -- Registering the pane first comes to the same.
  have hswap : ({ ws with tabs := ws.tabs.set idx tab' }).registerIfNew moved.paneId =
      { ws.registerIfNew moved.paneId with
        tabs := (ws.registerIfNew moved.paneId).tabs.set idx tab' } := by
    unfold registerIfNew
    split <;> rfl
  have htab₁ : (ws.registerIfNew moved.paneId).tabs[idx]? = some tab := htabs ▸ htab
  have hunion : ∀ id, id ∈ tab'.layout.paneIds ∨ id ∈ (∅ : Set PaneId) ↔
      id ∈ tab.layout.paneIds ∨ id ∈ ({moved.paneId} : Set PaneId) := fun id => by
    rw [hperm.mem_iff, List.mem_cons]
    simp [or_comm]
  unfold insertMovedPaneIntoTab
  simp only [htab, hinsert]
  rw [hswap]
  refine ⟨_, rfl, (h.registerIfNew hloose hpane).setTab htab₁ htab' hnumber hunion nofun, ?_,
    (advances_registerIfNew _).trans (advances_setTab htab₁ hnumber), ?_⟩
  · simpa [htabs, hactiveTab] using hactive
  · show (List.flatMap _ (List.set _ _ _)).Perm _
    rw [htabs]
    refine (paneIds_set_perm htab tab').trans ((hperm.append_right _).trans ?_)
    exact ((paneIds_perm_of_getElem? htab).symm).cons _

theorem createTabFromExistingPane_spec (h : ws.Sound loose) {moved : MovedPane}
    (hloose : loose ⊆ {moved.paneId}) (hactive : ws.tabs ≠ [] → ws.activeTab < ws.tabs.length)
    (hempty : ws.tabs = [] → ws.activeTab = 0) (hpane : moved.paneId ∉ ws.paneIds)
    (label : Option String) : ws.Placed moved.paneId (ws.createTabFromExistingPane moved label).1
      ((ws.createTabFromExistingPane moved label).1.createdNumber
        (some (ws.createTabFromExistingPane moved label).2)) := by
  let registered := ws.registerIfNew moved.paneId
  let tab := Tab.fromExistingPane ws.nextPublicTabNumber label moved
  obtain ⟨htabs, hactiveTab, hnext⟩ := registerIfNew_tabs ws moved.paneId
  have htab : tab.Sound := Tab.fromExistingPane_sound _ _ _
  have hids : tab.layout.paneIds = [moved.paneId] := rfl
  have heq : ws.createTabFromExistingPane moved label =
      ({ registered with
        tabs := registered.tabs ++ [tab]
        nextPublicTabNumber := registered.nextPublicTabNumber + 1 }, ws.tabs.length) := by
    simp only [createTabFromExistingPane, registered, registerIfNew]
    split <;> rfl
  have hcreated : (registered.tabs ++ [tab])[ws.tabs.length]? = some tab := by
    rw [show registered.tabs = ws.tabs from htabs]
    simp
  have hsound := (h.registerIfNew hloose hpane).pushTab htab hnext.symm hids
    (Set.mem_singleton moved.paneId)
  have hpush : registered.Advances _ (some tab.number) := advances_pushTab hnext.symm
  rw [Set.sdiff_self] at hsound
  rw [heq]
  refine ⟨hsound, ?_, ?_, ?_⟩
  · show registered.activeTab < (registered.tabs ++ [tab]).length
    rw [List.length_append, show registered.tabs = ws.tabs from htabs,
      show registered.activeTab = ws.activeTab from hactiveTab, List.length_singleton]
    by_cases htabsEmpty : ws.tabs = []
    · have := hempty htabsEmpty
      omega
    · have := hactive htabsEmpty
      omega
  · simp only [createdNumber, Option.bind_some, hcreated, Option.map_some]
    exact (advances_registerIfNew _).trans hpush
  · show ((registered.tabs ++ [tab]).flatMap _).Perm _
    rw [List.flatMap_append, List.flatMap_singleton, hids,
      show registered.tabs = ws.tabs from htabs]
    exact List.perm_append_comm

theorem Placed.kept {ws' : Workspace} {created : Option ℕ} (h : ws.Placed paneId ws' created) :
    ws.Kept {paneId} ws' created :=
  ⟨h.sound, h.active, h.advances, fun _ hid => (List.mem_cons.1 (h.perm.mem_iff.1 hid)).symm⟩

/-- A pane that stays in its workspace. -/
theorem Taken.kept {ws₁ ws₂ : Workspace} {taken : TakenPane} {created : Option ℕ}
    (h : ws.Taken paneId ws₁ taken) (hplaced : ws₁.Placed paneId ws₂ created) :
    ws.Kept ∅ ws₂ created :=
  ⟨hplaced.sound, hplaced.active, h.advances.trans hplaced.advances, fun _ hid =>
    Or.inl (h.perm.mem_iff.2 (hplaced.perm.mem_iff.1 hid))⟩

/-- A pane that leaves its workspace. -/
theorem Taken.unregistered {ws' : Workspace} {taken : TakenPane} (h : ws.Taken paneId ws' taken)
    (hempty : ws'.tabs ≠ []) : ws.Kept ∅ (ws'.unregisterMovedPane paneId) none := by
  have hsound := h.sound.unregister (Set.mem_singleton paneId)
  rw [Set.sdiff_self] at hsound
  exact ⟨hsound, h.active hempty, h.advances.trans (advances_unregister paneId), fun _ hid =>
    Or.inl (h.perm.mem_iff.2 (List.mem_cons_of_mem _ hid))⟩

/-! ### The active tab -/

/-- Closing or moving other tabs, or a pane of another tab, leaves the active tab. -/
structure KeepsActiveTab (ws : Workspace) : Prop where
  closeTab : ∀ idx, idx ≠ ws.activeTab → (ws.closeTab idx).1.activeTab? = ws.activeTab?
  moveTab : ∀ sourceIdx insertIdx,
    (ws.moveTab sourceIdx insertIdx).1.activeTab? = ws.activeTab?
  removePane : ∀ paneId, (∀ tab, ws.activeTab? = some tab → paneId ∉ tab.layout.paneIds) →
    ∃ ws' flag, ws.removePane paneId = some (ws', flag) ∧ ws'.activeTab? = ws.activeTab?
  takePaneForMove : ∀ paneId, (∀ tab, ws.activeTab? = some tab → paneId ∉ tab.layout.paneIds) →
    ∃ ws' taken, ws.takePaneForMove paneId = some (ws', taken) ∧ ws'.activeTab? = ws.activeTab?

theorem keepsActiveTab (h : ws.Sound ∅) (hactive : ws.activeTab < ws.tabs.length) :
    ws.KeepsActiveTab where
  closeTab _ := closeTab_activeTab? hactive
  moveTab := moveTab_activeTab? h hactive
  removePane _ := removePane_activeTab? h hactive
  takePaneForMove paneId hother := by
    by_cases hpane : paneId ∈ ws.paneIds
    · obtain ⟨ws', taken, htake, htaken⟩ := takePaneForMove_spec h hactive hpane
      exact ⟨ws', some taken, htake, htaken.activeTab? hother⟩
    · refine ⟨ws, none, ?_, rfl⟩
      rw [Workspace.takePaneForMove, (findTabIndexForPane_eq_none h).2 hpane]

/-! ### New workspaces -/

theorem single_sound (id : String) (customName : Option String) (identityCwd : String)
    (htab : tab.Sound) (hids : tab.layout.paneIds = [tab.rootPane]) (hnumber : tab.number = 1) :
    (single id customName identityCwd tab).Sound ∅ := by
  have hpaneIds : (single id customName identityCwd tab).paneIds = [tab.rootPane] := by
    simp [single, paneIds, hids]
  have hlookup : ∀ id' n, (single id customName identityCwd tab).publicPaneNumbers.lookup id' =
      some n → id' = tab.rootPane ∧ n = 1 := by
    intro id' n hid
    by_cases heq : id' = tab.rootPane
    · subst heq
      rw [single, AList.lookup_insert, Option.some.injEq] at hid
      exact ⟨rfl, hid.symm⟩
    · rw [single, AList.lookup_insert_ne heq] at hid
      simp at hid
  refine ⟨?_, ?_, nofun, fun id' => ?_, ?_, fun id' n hid => ?_, ?_, ?_⟩
  · simpa [single] using htab
  · simp [hpaneIds]
  · rw [hpaneIds, single, AList.mem_insert]
    simp
  · exact fun id' id'' n hid hid' => (hlookup id' n hid).1.trans (hlookup id'' n hid').1.symm
  · rw [(hlookup id' n hid).2]
    exact Nat.lt_succ_self 1
  · simp [single]
  · simp [single, hnumber]

end Workspace

end Zynk
