import Zynk.Layout.Invariant
import Zynk.Workspace.Ops

/-!
# What the operations keep

A tab is `Sound` when its layout is well formed and its panes are the leaves of the layout. Every
operation of a tab keeps that and changes its panes by at most one (`splitPaneWithRuntime_spec`,
`takePaneForMove_spec`, `insertExistingPane_spec`, `detachPane_spec`).

A workspace is `Sound` with some loose panes when they are those that have a number and are in no
tab. A pane is loose for a moment only : after it has left its tab and before it is unregistered
or put into another tab. Every operation is a few edits (a tab comes, goes or is replaced, a pane
gets or loses its number), and `Sound` says of each edit what comes loose and what is tied up.
-/

namespace Zynk

/-! ## Tabs -/

structure Tab.Sound (tab : Tab) : Prop where
  layout : tab.layout.WellFormed
  panes : ∀ id, id ∈ tab.panes ↔ id ∈ tab.layout.paneIds
  rootPane : tab.rootPane ∈ tab.layout.paneIds

namespace Tab

variable {tab : Tab}

theorem Sound.valid (h : tab.Sound) : tab.Valid :=
  ⟨h.layout.nodup, h.layout.focus, h.panes, h.rootPane⟩

theorem new_sound (number : ℕ) (rootId : PaneId) (terminalId : TerminalId) :
    (Tab.new number rootId terminalId).Sound where
  layout := TileLayout.new_wellFormed rootId
  panes id := by
    rw [new, AList.mem_insert]
    simp [TileLayout.new, TileLayout.paneIds, Node.paneIds]
  rootPane := (TileLayout.new_wellFormed rootId).focus

theorem fromExistingPane_sound (number : ℕ) (customName : Option String) (moved : MovedPane) :
    (Tab.fromExistingPane number customName moved).Sound where
  layout := TileLayout.new_wellFormed moved.paneId
  panes id := by
    rw [fromExistingPane, AList.mem_insert]
    simp [TileLayout.fromSaved, TileLayout.paneIds, Node.paneIds]
  rootPane := (TileLayout.new_wellFormed moved.paneId).focus

variable {id : PaneId}

/-- A tab with one more pane. -/
theorem Sound.insert (h : tab.Sound) {layout : TileLayout} (hlayout : layout.WellFormed)
    (hids : layout.paneIds.Perm (id :: tab.layout.paneIds)) (pane : PaneState) (zoomed : Bool) :
    ({ tab with layout, panes := tab.panes.insert id pane, zoomed } : Tab).Sound where
  layout := hlayout
  panes id' := by rw [AList.mem_insert, h.panes, hids.mem_iff, List.mem_cons]
  rootPane := hids.mem_iff.2 (List.mem_cons_of_mem _ h.rootPane)

/-- When the root pane closes another pane of the tab takes its place. -/
theorem promoted_mem (h : tab.Sound) {closing : PaneId} {ids : List PaneId}
    (hremoved : RemovedFrom closing tab.layout.paneIds ids) (hids : ids ≠ []) :
    (tab.promotedRootIfNeeded closing).getD tab.rootPane ∈ ids := by
  have hnodup := hremoved.perm.nodup_iff.1 h.layout.nodup
  have hmem : ∀ id, id ∈ tab.layout.paneIds ↔ id = closing ∨ id ∈ ids := fun id => by
    rw [hremoved.perm.mem_iff, List.mem_cons]
  unfold promotedRootIfNeeded
  split
  · rename_i hroot
    exact ((hmem _).1 h.rootPane).resolve_left hroot
  · rcases hfind : tab.layout.paneIds.find? (· ≠ closing) with _ | next
    · obtain ⟨id, hid⟩ := List.exists_mem_of_ne_nil _ hids
      have hsame := List.find?_eq_none.1 hfind id ((hmem id).2 (Or.inr hid))
      obtain rfl : id = closing := by simpa using hsame
      exact absurd hid (List.nodup_cons.1 hnodup).1
    · have hne : next ≠ closing := by simpa using List.find?_some hfind
      exact ((hmem next).1 (List.mem_of_find?_eq_some hfind)).resolve_left hne

/-- A tab without one of its panes. -/
theorem Sound.remove (h : tab.Sound) {layout : TileLayout} (hlayout : layout.WellFormed)
    (hremoved : RemovedFrom id tab.layout.paneIds layout.paneIds) : ({ tab with
      layout
      rootPane := (tab.promotedRootIfNeeded id).getD tab.rootPane
      panes := tab.panes.erase id
      zoomed := false } : Tab).Sound where
  layout := hlayout
  panes id' := by
    have hnodup := List.nodup_cons.1 (hremoved.perm.nodup_iff.1 h.layout.nodup)
    rw [AList.mem_erase, h.panes, hremoved.perm.mem_iff, List.mem_cons]
    constructor
    · rintro ⟨hne, hid⟩
      exact hid.resolve_left hne
    · intro hid
      exact ⟨fun heq => hnodup.1 (heq ▸ hid), Or.inr hid⟩
  rootPane := promoted_mem h hremoved (List.ne_nil_of_mem hlayout.focus)

theorem splitPaneWithRuntime_spec (h : tab.Sound) {target newId : PaneId}
    (htarget : target ∈ tab.layout.paneIds) (hfresh : newId ∉ tab.layout.paneIds)
    (focusNewPane : Bool) (direction : Direction) (ratio : Option F32) (spawned : Bool)
    (terminalId : TerminalId) :
    ∃ tab', tab.splitPaneWithRuntime target focusNewPane direction ratio spawned newId terminalId =
        some (tab', if spawned then some newId else none) ∧
      tab'.Sound ∧ tab'.number = tab.number ∧
      tab'.layout.paneIds.Perm
        (if spawned then newId :: tab.layout.paneIds else tab.layout.paneIds) := by
  obtain ⟨layout, hsplit, hlayout, hids⟩ :=
    TileLayout.splitPane_eq h.layout htarget hfresh direction (ratio.getD halfRatio)
  unfold splitPaneWithRuntime
  rw [hsplit]
  rcases spawned with _ | _
  · -- The pane that was split off is closed again.
    have hnew : newId ∈ layout.paneIds := hids.perm.mem_iff.2 (List.mem_cons_self ..)
    have hcount : ¬ layout.paneCount ≤ 1 := by
      rw [LayoutOp.paneCount_le_one, hids.perm.length_eq, List.length_cons]
      have := List.length_pos_of_mem htarget
      omega
    obtain ⟨closed, hclose, hclosed, hremoved⟩ := TileLayout.closePane_eq hlayout hnew hcount
    have hperm : closed.paneIds.Perm tab.layout.paneIds :=
      (List.perm_cons newId).1 (hremoved.perm.symm.trans hids.perm)
    refine ⟨{ tab with layout := closed }, by simp [hclose], ⟨hclosed, fun id => ?_, ?_⟩, rfl,
      hperm⟩
    · rw [h.panes]
      exact hperm.mem_iff.symm
    · exact hperm.mem_iff.2 h.rootPane
  · have hfocused : (if focusNewPane then layout.focusPane newId else layout).WellFormed ∧
        (if focusNewPane then layout.focusPane newId else layout).paneIds = layout.paneIds := by
      split
      · exact ⟨hlayout.focusPane newId, TileLayout.paneIds_focusPane layout newId⟩
      · exact ⟨hlayout, rfl⟩
    have hperm := hids.perm
    rw [← hfocused.2] at hperm
    exact ⟨_, rfl, h.insert hfocused.1 hperm _ _, rfl, hperm⟩

theorem insertExistingPane_spec (h : tab.Sound) {target : PaneId} {moved : MovedPane}
    (htarget : target ∈ tab.layout.paneIds) (hmoved : moved.paneId ∉ tab.layout.paneIds)
    (direction : Direction) (ratio : F32) (focus : Bool) :
    ∃ tab', tab.insertExistingPane target moved direction ratio focus = (tab', true) ∧
      tab'.Sound ∧ tab'.number = tab.number ∧
      tab'.layout.paneIds.Perm (moved.paneId :: tab.layout.paneIds) := by
  obtain ⟨layout, hinsert, hlayout, hids⟩ :=
    TileLayout.insertPaneNear_eq h.layout htarget hmoved direction ratio focus
  unfold insertExistingPane
  rw [hinsert]
  exact ⟨_, rfl, h.insert hlayout hids.perm _ _, rfl, hids.perm⟩

theorem Sound.lookup (h : tab.Sound) (hid : id ∈ tab.layout.paneIds) :
    ∃ pane, tab.panes.lookup id = some pane :=
  Option.isSome_iff_exists.1 (AList.lookup_isSome.2 ((h.panes id).2 hid))

theorem takePaneForMove_spec (h : tab.Sound) (hid : id ∈ tab.layout.paneIds)
    (hcount : ¬ tab.layout.paneCount ≤ 1) :
    ∃ tab' moved, tab.takePaneForMove id = some (tab', some moved) ∧ moved.paneId = id ∧
      tab'.Sound ∧ tab'.number = tab.number ∧
      tab.layout.paneIds.Perm (id :: tab'.layout.paneIds) := by
  obtain ⟨pane, hpane⟩ := h.lookup hid
  obtain ⟨layout, hclose, hlayout, hremoved⟩ := TileLayout.closePane_eq h.layout hid hcount
  unfold takePaneForMove
  simp only [hpane, if_pos (not_le.1 hcount), hclose, Option.map_some]
  exact ⟨_, _, rfl, rfl, h.remove hlayout hremoved, rfl, hremoved.perm⟩

/-- The last pane of a tab is taken, and the tab is not looked at again. -/
theorem takePaneForMove_last (h : tab.Sound) (hid : id ∈ tab.layout.paneIds)
    (hcount : tab.layout.paneCount ≤ 1) :
    ∃ tab' moved, tab.takePaneForMove id = some (tab', some moved) ∧ moved.paneId = id := by
  obtain ⟨pane, hpane⟩ := h.lookup hid
  unfold takePaneForMove
  simp only [hpane, if_neg (not_lt.2 hcount)]
  exact ⟨_, _, rfl, rfl⟩

theorem detachPane_spec (h : tab.Sound) (hid : id ∈ tab.layout.paneIds)
    (hcount : ¬ tab.layout.paneCount ≤ 1) :
    ∃ tab' terminalId, tab.detachPane id = some (tab', some (id, terminalId)) ∧
      tab'.Sound ∧ tab'.number = tab.number ∧
      tab.layout.paneIds.Perm (id :: tab'.layout.paneIds) := by
  obtain ⟨pane, hpane⟩ := h.lookup hid
  obtain ⟨layout, hclose, hlayout, hremoved⟩ := TileLayout.closePane_eq h.layout hid hcount
  unfold detachPane
  simp only [if_neg hcount, hclose, Option.map_some, hpane]
  exact ⟨_, _, rfl, h.remove hlayout hremoved, rfl, hremoved.perm⟩

theorem paneIds_eq_singleton (hid : id ∈ tab.layout.paneIds) (hcount : tab.layout.paneCount ≤ 1) :
    tab.layout.paneIds = [id] := by
  have hlength := LayoutOp.paneCount_le_one.1 hcount
  have hpos := List.length_pos_of_mem hid
  obtain ⟨id', hids⟩ := List.length_eq_one_iff.1 (show tab.layout.paneIds.length = 1 by omega)
  rw [hids] at hid ⊢
  rw [List.mem_singleton.1 hid]

end Tab

/-! ## Workspaces -/

namespace Workspace

/-- Everything but the active tab is as it should be, and `loose` are the panes that have a
number and are in no tab. -/
structure Sound (ws : Workspace) (loose : Set PaneId) : Prop where
  tabs : ∀ tab ∈ ws.tabs, tab.Sound
  disjoint : ws.paneIds.Nodup
  loose_disjoint : ∀ id ∈ loose, id ∉ ws.paneIds
  numbered : ∀ id, id ∈ ws.publicPaneNumbers ↔ id ∈ ws.paneIds ∨ id ∈ loose
  numbers_inj : ∀ id id' n, ws.publicPaneNumbers.lookup id = some n →
    ws.publicPaneNumbers.lookup id' = some n → id = id'
  numbers_lt : ∀ id n, ws.publicPaneNumbers.lookup id = some n → n < ws.nextPublicPaneNumber
  tabNumbers_nodup : (ws.tabs.map (·.number)).Nodup
  tabNumbers_lt : ∀ tab ∈ ws.tabs, tab.number < ws.nextPublicTabNumber

variable {ws : Workspace} {loose : Set PaneId}

theorem Sound.valid (h : ws.Sound ∅) (hactive : ws.activeTab < ws.tabs.length) : ws.Valid where
  activeTab := hactive
  tabs tab htab := (h.tabs tab htab).valid
  disjoint := h.disjoint
  numbered id := by simpa using h.numbered id
  numbers_inj := h.numbers_inj
  numbers_lt := h.numbers_lt
  tabNumbers_nodup := h.tabNumbers_nodup
  tabNumbers_lt := h.tabNumbers_lt

theorem Valid.sound (h : ws.Valid) (hlayouts : ∀ tab ∈ ws.tabs, tab.layout.WellFormed) :
    ws.Sound ∅ where
  tabs tab htab := ⟨hlayouts tab htab, (h.tabs tab htab).panes, (h.tabs tab htab).rootPane⟩
  disjoint := h.disjoint
  loose_disjoint := nofun
  numbered id := by simpa using h.numbered id
  numbers_inj := h.numbers_inj
  numbers_lt := h.numbers_lt
  tabNumbers_nodup := h.tabNumbers_nodup
  tabNumbers_lt := h.tabNumbers_lt

/-- The tabs `out` make way for the tabs `into`. -/
theorem Sound.editTabs (h : ws.Sound loose) (out into : List Tab) {tabs rest : List Tab} {next : ℕ}
    {loose' : Set PaneId} (activeTab : ℕ) (hout : ws.tabs.Perm (out ++ rest))
    (hinto : tabs.Perm (into ++ rest)) (hsound : ∀ tab ∈ into, tab.Sound)
    (hids : (into.flatMap (·.layout.paneIds)).Nodup) (hnext : ws.nextPublicTabNumber ≤ next)
    (hnumbers : ((into ++ rest).map (·.number)).Nodup) (hlt : ∀ tab ∈ into, tab.number < next)
    (hunion : ∀ id, id ∈ into.flatMap (·.layout.paneIds) ∨ id ∈ loose' ↔
      id ∈ out.flatMap (·.layout.paneIds) ∨ id ∈ loose)
    (hdisjoint : ∀ id ∈ loose', id ∉ into.flatMap (·.layout.paneIds)) :
    ({ ws with tabs, activeTab, nextPublicTabNumber := next } : Workspace).Sound loose' := by
  have hrest : ∀ tab ∈ rest, tab ∈ ws.tabs := fun tab htab =>
    hout.mem_iff.2 (List.mem_append_right out htab)
  have hws : ws.paneIds.Perm (out.flatMap (·.layout.paneIds) ++ rest.flatMap (·.layout.paneIds)) :=
    (hout.flatMap_right _).trans (by rw [List.flatMap_append])
  have hws' : (tabs.flatMap (·.layout.paneIds)).Perm
      (into.flatMap (·.layout.paneIds) ++ rest.flatMap (·.layout.paneIds)) :=
    (hinto.flatMap_right _).trans (by rw [List.flatMap_append])
  have hnodup := List.nodup_append.1 (hws.nodup_iff.1 h.disjoint)
  -- What was in another tab before is neither in one of the new tabs nor loose.
  have hapart : ∀ id ∈ rest.flatMap (·.layout.paneIds),
      ¬ (id ∈ into.flatMap (·.layout.paneIds) ∨ id ∈ loose') := by
    intro id hid hin
    rcases (hunion id).1 hin with hout | hloose
    · exact hnodup.2.2 id hout id hid rfl
    · exact h.loose_disjoint id hloose (hws.mem_iff.2 (List.mem_append_right _ hid))
  refine ⟨?_, ?_, ?_, ?_, h.numbers_inj, h.numbers_lt, ?_, ?_⟩
  · intro tab htab
    rcases List.mem_append.1 (hinto.mem_iff.1 htab) with htab | htab
    · exact hsound tab htab
    · exact h.tabs tab (hrest tab htab)
  · refine hws'.nodup_iff.2 (List.nodup_append.2 ⟨hids, hnodup.2.1, ?_⟩)
    rintro id hid id' hid' rfl
    exact hapart id hid' (Or.inl hid)
  · intro id hid hmem
    rcases List.mem_append.1 (hws'.mem_iff.1 hmem) with hin | hin
    · exact hdisjoint id hid hin
    · exact hapart id hin (Or.inr hid)
  · intro id
    show id ∈ ws.publicPaneNumbers ↔ id ∈ tabs.flatMap (·.layout.paneIds) ∨ id ∈ loose'
    rw [h.numbered, hws.mem_iff, hws'.mem_iff, List.mem_append, List.mem_append, or_right_comm,
      ← hunion, or_right_comm]
  · exact ((hinto.map _).nodup_iff).2 hnumbers
  · intro tab htab
    rcases List.mem_append.1 (hinto.mem_iff.1 htab) with htab | htab
    · exact hlt tab htab
    · exact lt_of_lt_of_le (h.tabNumbers_lt tab (hrest tab htab)) hnext

theorem Sound.withActiveTab (h : ws.Sound loose) (activeTab : ℕ) :
    ({ ws with activeTab } : Workspace).Sound loose :=
  ⟨h.tabs, h.disjoint, h.loose_disjoint, h.numbered, h.numbers_inj, h.numbers_lt,
    h.tabNumbers_nodup, h.tabNumbers_lt⟩

theorem Sound.permTabs (h : ws.Sound loose) {tabs : List Tab} (hperm : tabs.Perm ws.tabs) :
    ({ ws with tabs } : Workspace).Sound loose :=
  h.editTabs [] [] ws.activeTab (List.Perm.refl _) hperm (by simp) (by simp)
    (le_refl _) h.tabNumbers_nodup (by simp) (by simp) (by simp)

/-- One tab takes the place of another with its number. -/
theorem Sound.setTab (h : ws.Sound loose) {idx : ℕ} {tab tab' : Tab}
    (htab : ws.tabs[idx]? = some tab) (htab' : tab'.Sound) (hnumber : tab'.number = tab.number)
    {loose' : Set PaneId} (hunion : ∀ id, id ∈ tab'.layout.paneIds ∨ id ∈ loose' ↔
      id ∈ tab.layout.paneIds ∨ id ∈ loose)
    (hdisjoint : ∀ id ∈ loose', id ∉ tab'.layout.paneIds) :
    ({ ws with tabs := ws.tabs.set idx tab' } : Workspace).Sound loose' := by
  obtain ⟨hidx, rfl⟩ := List.getElem?_eq_some_iff.1 htab
  have hout := List.getElem_cons_eraseIdx_perm hidx
  have hnumbers : ((ws.tabs[idx] :: ws.tabs.eraseIdx idx).map (·.number)).Nodup :=
    (hout.map _).nodup_iff.2 h.tabNumbers_nodup
  refine h.editTabs [ws.tabs[idx]] [tab'] ws.activeTab hout.symm
    (List.set_perm_cons_eraseIdx hidx tab') (by simpa using htab') ?_ (le_refl _) ?_ ?_ ?_ ?_
  · simpa using htab'.layout.nodup
  · simpa [hnumber] using hnumbers
  · simpa [hnumber] using h.tabNumbers_lt _ (List.getElem_mem hidx)
  · simpa using hunion
  · simpa using hdisjoint

/-- The panes of a tab that goes are loose. -/
theorem Sound.eraseTab (h : ws.Sound loose) {idx : ℕ} {tab : Tab}
    (htab : ws.tabs[idx]? = some tab) :
    ({ ws with tabs := ws.tabs.eraseIdx idx } : Workspace).Sound
      ({id | id ∈ tab.layout.paneIds} ∪ loose) := by
  obtain ⟨hidx, rfl⟩ := List.getElem?_eq_some_iff.1 htab
  have hout := List.getElem_cons_eraseIdx_perm hidx
  have hnumbers := (hout.map (·.number)).nodup_iff.2 h.tabNumbers_nodup
  exact h.editTabs [ws.tabs[idx]] [] ws.activeTab hout.symm
    (List.Perm.refl _) (by simp) (by simp) (le_refl _) (List.nodup_cons.1 hnumbers).2 (by simp)
    (by simp) (by simp)

/-- A new tab for a loose pane, with the next number. -/
theorem Sound.pushTab (h : ws.Sound loose) {tab : Tab} (htab : tab.Sound)
    (hnumber : tab.number = ws.nextPublicTabNumber) {id : PaneId}
    (hids : tab.layout.paneIds = [id]) (hid : id ∈ loose) :
    ({ ws with
      tabs := ws.tabs ++ [tab]
      nextPublicTabNumber := ws.nextPublicTabNumber + 1 } : Workspace).Sound (loose \ {id}) := by
  refine h.editTabs [] [tab] ws.activeTab (List.Perm.refl _)
    List.perm_append_comm (by simpa using htab) (by simp [hids]) (Nat.le_succ _) ?_
    (by simp [hnumber]) (fun id' => ?_) (by simp [hids])
  · rw [List.singleton_append, List.map_cons, List.nodup_cons]
    refine ⟨fun hmem => ?_, h.tabNumbers_nodup⟩
    obtain ⟨tab', htab', heq⟩ := List.mem_map.1 hmem
    have hlt := h.tabNumbers_lt tab' htab'
    omega
  · simp only [List.flatMap_cons, hids, List.flatMap_nil, List.append_nil, List.mem_singleton,
      Set.mem_sdiff, Set.mem_singleton_iff, List.not_mem_nil, false_or]
    refine ⟨?_, fun hid' => ?_⟩
    · rintro (rfl | ⟨hid', -⟩)
      · exact hid
      · exact hid'
    · by_cases heq : id' = id
      · exact Or.inl heq
      · exact Or.inr ⟨hid', heq⟩

theorem Sound.withNextTabNumber (h : ws.Sound loose) :
    ({ ws with nextPublicTabNumber := ws.nextPublicTabNumber + 1 } : Workspace).Sound loose :=
  ⟨h.tabs, h.disjoint, h.loose_disjoint, h.numbered, h.numbers_inj, h.numbers_lt,
    h.tabNumbers_nodup, fun tab htab => Nat.lt_succ_of_lt (h.tabNumbers_lt tab htab)⟩

theorem lookup_register (paneId id : PaneId) (number : ℕ) :
    (ws.registerNewPaneWithNumber paneId number).publicPaneNumbers.lookup id =
      if id = paneId then some number else ws.publicPaneNumbers.lookup id := by
  rw [registerNewPaneWithNumber]
  split
  · rename_i heq
    rw [heq, AList.lookup_insert]
  · rename_i hne
    rw [AList.lookup_insert_ne hne]

/-- A pane that gets the next number is loose until it is in a tab. -/
theorem Sound.register (h : ws.Sound loose) {paneId : PaneId}
    (hnew : paneId ∉ ws.publicPaneNumbers) :
    (ws.registerNewPaneWithNumber paneId ws.nextPublicPaneNumber).Sound (insert paneId loose) := by
  have hnot : ¬ (paneId ∈ ws.paneIds ∨ paneId ∈ loose) := fun hmem =>
    hnew ((h.numbered paneId).2 hmem)
  refine ⟨h.tabs, h.disjoint, ?_, ?_, ?_, ?_, h.tabNumbers_nodup, h.tabNumbers_lt⟩
  · rintro id (rfl | hid)
    · exact fun hmem => hnot (Or.inl hmem)
    · exact h.loose_disjoint id hid
  · intro id
    show id ∈ ws.publicPaneNumbers.insert _ _ ↔ id ∈ ws.paneIds ∨ _
    rw [AList.mem_insert, h.numbered, Set.mem_insert_iff, or_left_comm]
  · intro id id' n hid hid'
    rw [lookup_register] at hid hid'
    split_ifs at hid hid' with heq heq' heq'
    · exact heq.trans heq'.symm
    · have := h.numbers_lt id' n hid'
      simp only [Option.some.injEq] at hid
      omega
    · have := h.numbers_lt id n hid
      simp only [Option.some.injEq] at hid'
      omega
    · exact h.numbers_inj id id' n hid hid'
  · intro id n hid
    show n < max _ _
    rw [lookup_register] at hid
    split_ifs at hid
    · simp only [Option.some.injEq] at hid
      omega
    · have := h.numbers_lt id n hid
      omega

theorem lookup_unregister {paneId id : PaneId} {n : ℕ}
    (hid : (ws.unregisterPane paneId).publicPaneNumbers.lookup id = some n) :
    ws.publicPaneNumbers.lookup id = some n := by
  by_cases heq : id = paneId
  · subst heq
    rw [unregisterPane, AList.lookup_erase] at hid
    exact absurd hid nofun
  · rwa [unregisterPane, AList.lookup_erase_ne heq] at hid

theorem Sound.unregister (h : ws.Sound loose) {paneId : PaneId} (hloose : paneId ∈ loose) :
    (ws.unregisterPane paneId).Sound (loose \ {paneId}) := by
  refine ⟨h.tabs, h.disjoint, fun id hid => h.loose_disjoint id hid.1, ?_, ?_, ?_,
    h.tabNumbers_nodup, h.tabNumbers_lt⟩
  · intro id
    show id ∈ ws.publicPaneNumbers.erase paneId ↔ id ∈ ws.paneIds ∨ _
    rw [AList.mem_erase, h.numbered, Set.mem_sdiff, Set.mem_singleton_iff]
    constructor
    · rintro ⟨hne, hid | hid⟩
      · exact Or.inl hid
      · exact Or.inr ⟨hid, hne⟩
    · rintro (hid | ⟨hid, hne⟩)
      · exact ⟨fun heq => h.loose_disjoint paneId hloose (heq ▸ hid), Or.inl hid⟩
      · exact ⟨hne, Or.inr hid⟩
  · exact fun id id' n hid hid' =>
      h.numbers_inj id id' n (lookup_unregister hid) (lookup_unregister hid')
  · exact fun id n hid => h.numbers_lt id n (lookup_unregister hid)

theorem Sound.unregisterAll (h : ws.Sound loose) {ids : List PaneId} (hnodup : ids.Nodup)
    (hloose : ∀ id ∈ ids, id ∈ loose) :
    (ids.foldl unregisterPane ws).Sound (loose \ {id | id ∈ ids}) := by
  induction ids generalizing ws loose with
  | nil => simpa using h
  | cons paneId ids ih =>
    obtain ⟨hnot, hnodup⟩ := List.nodup_cons.1 hnodup
    have hstep := ih (h.unregister (hloose paneId (List.mem_cons_self ..))) hnodup fun id hid =>
      ⟨hloose id (List.mem_cons_of_mem _ hid), fun heq => hnot (heq ▸ hid)⟩
    have hset : loose \ {id | id ∈ paneId :: ids} = (loose \ {paneId}) \ {id | id ∈ ids} := by
      ext id
      simp only [Set.mem_sdiff, Set.mem_ofPred_eq, List.mem_cons, Set.mem_singleton_iff, not_or,
        and_assoc]
    rw [hset]
    exact hstep

end Workspace

end Zynk
