import Zynk.Workspace.Steps

/-!
# Runs over all workspaces

A state is `Valid` when every workspace is, no pane is in two of them, and ids are below the
counters they come from. `AppState.Advances` lifts what an operation of one workspace gives out to
all of them : a workspace with an id was there before under this id, or the id is new. Every
operation keeps the state valid and advances it (`WorkspaceOp.apply_spec`), a pane move because it
is two steps of which each does, one that takes the pane out and one that puts it in.
-/

namespace Zynk

/-! ## Workspace ids -/

theorem workspaceIdForNumber_inj {m n : ℕ} (hm : 0 < m) (hn : 0 < n)
    (h : workspaceIdForNumber m = workspaceIdForNumber n) : m = n := by
  unfold workspaceIdForNumber at h
  have hlist := congrArg String.toList h
  simp only [String.toList_append, List.append_cancel_left_eq] at hlist
  have hencode := encodePublicNumber_inj.1 (String.toList_injective hlist)
  omega

namespace AppState

/-- No workspace will get this id again. -/
def Used (s : AppState) (id : String) : Prop :=
  ∀ k, s.nextWorkspaceId ≤ k → id ≠ workspaceIdForNumber k

def paneIds (s : AppState) : List PaneId :=
  s.workspaces.flatMap (·.paneIds)

/-- Every workspace is valid, their panes are different panes, and ids are below the counters. -/
structure Valid (s : AppState) : Prop where
  workspaces : ∀ ws ∈ s.workspaces, ws.Valid
  layouts : ∀ ws ∈ s.workspaces, ∀ tab ∈ ws.tabs, tab.layout.WellFormed
  disjoint : s.paneIds.Nodup
  panes_lt : ∀ id ∈ s.paneIds, id.raw < s.nextPaneId
  ids_nodup : (s.workspaces.map (·.id)).Nodup
  ids_used : ∀ ws ∈ s.workspaces, s.Used ws.id
  counter : 0 < s.nextWorkspaceId

variable {s : AppState}

variable {ws : Workspace}

theorem Valid.sound (h : s.Valid) (hws : ws ∈ s.workspaces) : ws.Sound ∅ :=
  (h.workspaces ws hws).sound (h.layouts ws hws)

/-- Before the first workspace. -/
def initial : AppState where
  workspaces := []
  nextPaneId := 1
  nextTerminalId := 1
  nextWorkspaceId := 1

theorem initial_valid : initial.Valid where
  workspaces := nofun
  layouts := nofun
  disjoint := List.nodup_nil
  panes_lt := nofun
  ids_nodup := List.nodup_nil
  ids_used := nofun
  counter := Nat.one_pos

variable {s' : AppState}

/-- The workspaces `out` make way for the workspaces `into`. -/
theorem Valid.edit (h : s.Valid) (out into : List Workspace) {rest : List Workspace}
    (hout : s.workspaces.Perm (out ++ rest)) (hinto : s'.workspaces.Perm (into ++ rest))
    (hsound : ∀ ws ∈ into, ws.Sound ∅ ∧ ws.activeTab < ws.tabs.length)
    (hids : (into.flatMap (·.paneIds)).Nodup) (hnew : ∀ id ∈ into.flatMap (·.paneIds),
      id ∈ out.flatMap (·.paneIds) ∨ (id ∉ s.paneIds ∧ id.raw < s'.nextPaneId))
    (hpaneId : s.nextPaneId ≤ s'.nextPaneId) (hcounter : s.nextWorkspaceId ≤ s'.nextWorkspaceId)
    (hnames : ((into ++ rest).map (·.id)).Nodup) (hused : ∀ ws ∈ into, s'.Used ws.id) :
    s'.Valid := by
  have hrest : ∀ ws ∈ rest, ws ∈ s.workspaces := fun ws hws =>
    hout.mem_iff.2 (List.mem_append_right out hws)
  have hcases : ∀ ws ∈ s'.workspaces, ws ∈ into ∨ ws ∈ rest := fun ws hws =>
    List.mem_append.1 (hinto.mem_iff.1 hws)
  have hperm : s.paneIds.Perm (out.flatMap (·.paneIds) ++ rest.flatMap (·.paneIds)) :=
    (hout.flatMap_right _).trans (by rw [List.flatMap_append])
  have hperm' : s'.paneIds.Perm (into.flatMap (·.paneIds) ++ rest.flatMap (·.paneIds)) :=
    (hinto.flatMap_right _).trans (by rw [List.flatMap_append])
  have hnodup := List.nodup_append.1 (hperm.nodup_iff.1 h.disjoint)
  refine ⟨fun ws hws => ?_, fun ws hws => ?_, ?_, fun id hid => ?_, (hinto.map _).nodup_iff.2 hnames,
    fun ws hws => ?_, lt_of_lt_of_le h.counter hcounter⟩
  · rcases hcases ws hws with hws | hws
    · exact (hsound ws hws).1.valid (hsound ws hws).2
    · exact h.workspaces ws (hrest ws hws)
  · rcases hcases ws hws with hws | hws
    · exact fun tab htab => ((hsound ws hws).1.tabs tab htab).layout
    · exact h.layouts ws (hrest ws hws)
  · refine hperm'.nodup_iff.2 (List.nodup_append.2 ⟨hids, hnodup.2.1, ?_⟩)
    rintro id hid id' hid' rfl
    rcases hnew id hid with hout | ⟨hfresh, -⟩
    · exact hnodup.2.2 id hout id hid' rfl
    · exact hfresh (hperm.mem_iff.2 (List.mem_append_right _ hid'))
  · have hold : ∀ id ∈ s.paneIds, id.raw < s'.nextPaneId := fun id hid =>
      lt_of_lt_of_le (h.panes_lt id hid) hpaneId
    rcases List.mem_append.1 (hperm'.mem_iff.1 hid) with hid | hid
    · rcases hnew id hid with hout | ⟨-, hlt⟩
      · exact hold id (hperm.mem_iff.2 (List.mem_append_left _ hout))
      · exact hlt
    · exact hold id (hperm.mem_iff.2 (List.mem_append_right _ hid))
  · rcases hcases ws hws with hws | hws
    · exact hused ws hws
    · exact fun k hk => h.ids_used ws (hrest ws hws) k (hcounter.trans hk)

/-! ## Steps -/

/-- The workspace id and the number of a tab. -/
def createdTab (s : AppState) (created : Option (ℕ × ℕ)) : Option (String × ℕ) :=
  created.bind fun e => s.workspaces[e.1]?.bind fun ws =>
    ws.tabs[e.2]?.map fun tab => (ws.id, tab.number)

def tabNumbers (s : AppState) : List (String × ℕ) :=
  s.workspaces.flatMap fun ws => ws.tabs.map fun tab => (ws.id, tab.number)

theorem mem_tabNumbers {id : String} {n : ℕ} :
    (id, n) ∈ s.tabNumbers ↔
      ∃ ws ∈ s.workspaces, ws.id = id ∧ ∃ tab ∈ ws.tabs, tab.number = n := by
  simp only [tabNumbers, List.mem_flatMap, List.mem_map, Prod.mk.injEq]
  constructor
  · rintro ⟨ws, hws, tab, htab, hid, hn⟩
    exact ⟨ws, hws, hid, tab, htab, hn⟩
  · rintro ⟨ws, hws, hid, tab, htab, hn⟩
    exact ⟨ws, hws, tab, htab, hid, hn⟩

/-- What a step does to numbers. A workspace was there before, or has an id that is drawn now;
`created` is the tab that is created. -/
structure Advances (s s' : AppState) (created : Option (String × ℕ)) : Prop where
  counter : s.nextWorkspaceId ≤ s'.nextWorkspaceId
  workspaces : ∀ ws' ∈ s'.workspaces,
    (∃ ws ∈ s.workspaces, ∃ n, ws.Advances ws' n ∧ ∀ k, n = some k → created = some (ws.id, k)) ∨
      ((∃ k, s.nextWorkspaceId ≤ k ∧ k < s'.nextWorkspaceId ∧ ws'.id = workspaceIdForNumber k) ∧
        ∀ tab ∈ ws'.tabs, created = some (ws'.id, tab.number))
  created : ∀ e, created = some e → e ∈ s'.tabNumbers ∧
    ∀ ws ∈ s.workspaces, ws.id = e.1 → ws.nextPublicTabNumber ≤ e.2

theorem Advances.of_subset (h : s.nextWorkspaceId ≤ s'.nextWorkspaceId)
    (hsub : ∀ ws ∈ s'.workspaces, ws ∈ s.workspaces) : s.Advances s' none where
  counter := h
  workspaces ws hws := Or.inl ⟨ws, hsub ws hws, none, .refl ws, nofun⟩
  created := nofun

theorem Valid.eq_of_id_eq (h : s.Valid) {ws' : Workspace} (hws : ws ∈ s.workspaces)
    (hws' : ws' ∈ s.workspaces) (heq : ws.id = ws'.id) : ws = ws' :=
  List.inj_on_of_nodup_map h.ids_nodup hws hws' heq

/-- A step after one that creates nothing. -/
theorem Advances.after (h : s.Valid) {s'' : AppState} {created : Option (String × ℕ)}
    (hcounter : s.nextWorkspaceId ≤ s'.nextWorkspaceId)
    (hold : ∀ ws' ∈ s'.workspaces, ∃ ws ∈ s.workspaces, ws.Advances ws' none)
    (h' : s'.Advances s'' created) : s.Advances s'' created where
  counter := hcounter.trans h'.counter
  workspaces ws'' hws'' := by
    rcases h'.workspaces ws'' hws'' with ⟨ws', hws', n, hadvances, hn⟩ | ⟨⟨k, hk, hlt, hid⟩, htabs⟩
    · obtain ⟨ws, hws, hbefore⟩ := hold ws' hws'
      exact Or.inl ⟨ws, hws, n, hbefore.trans hadvances, fun k hk => hbefore.id ▸ hn k hk⟩
    · exact Or.inr ⟨⟨k, hcounter.trans hk, hlt, hid⟩, htabs⟩
  created e he := by
    obtain ⟨hmem, hlt⟩ := h'.created e he
    refine ⟨hmem, fun ws hws hid => ?_⟩
    obtain ⟨ws'', hws'', hid'', -⟩ := mem_tabNumbers.1 hmem
    rcases h'.workspaces ws'' hws'' with ⟨ws', hws', n, hadvances, -⟩ | ⟨⟨k, hk, -, hfresh⟩, -⟩
    · obtain ⟨ws₀, hws₀, hbefore⟩ := hold ws' hws'
      have hid' : ws'.id = e.1 := hadvances.id.symm.trans hid''
      obtain rfl := h.eq_of_id_eq hws₀ hws ((hbefore.id.symm.trans hid').trans hid.symm)
      exact hbefore.nextTab.trans (hlt ws' hws' hid')
    · exact absurd ((hid.trans hid''.symm).trans hfresh) (h.ids_used ws hws k (hcounter.trans hk))

variable {wsIdx : ℕ}

/-- One workspace is replaced by what an operation makes of it. -/
theorem replace_spec (h : s.Valid) {ws' : Workspace} (hws : s.workspaces[wsIdx]? = some ws)
    {new : Set PaneId} (created : Option ℕ) (hkept : ws.Kept new ws' (ws'.createdNumber created))
    (hnew : ∀ id ∈ new, id ∉ s.paneIds ∧ id.raw < s.nextPaneId) : (s.setWorkspace wsIdx ws').Valid ∧
      s.Advances (s.setWorkspace wsIdx ws')
        ((s.setWorkspace wsIdx ws').createdTab (created.map fun idx => (wsIdx, idx))) := by
  obtain ⟨hidx, rfl⟩ := List.getElem?_eq_some_iff.1 hws
  have hout := (List.getElem_cons_eraseIdx_perm hidx).symm
  have hinto := List.set_perm_cons_eraseIdx hidx ws'
  have hmem := List.getElem_mem hidx
  have hcreated : (s.setWorkspace wsIdx ws').createdTab (created.map fun idx => (wsIdx, idx)) =
      (ws'.createdNumber created).map fun n => (ws'.id, n) := by
    rcases created with _ | idx
    · rfl
    · simp [createdTab, setWorkspace, hidx, Workspace.createdNumber, Function.comp_def]
  constructor
  · refine h.edit [s.workspaces[wsIdx]] [ws'] hout hinto (by simpa using ⟨hkept.sound, hkept.active⟩)
      (by simpa using hkept.sound.disjoint) (fun id hid => ?_) (le_refl _) (le_refl _) ?_ ?_
    · simp only [List.flatMap_cons, List.flatMap_nil, List.append_nil] at hid ⊢
      exact (hkept.ids id hid).imp_right (hnew id)
    · have hnames := (hout.map (·.id)).nodup_iff.1 h.ids_nodup
      simpa [hkept.advances.id] using hnames
    · rw [List.forall_mem_singleton, hkept.advances.id]
      exact h.ids_used _ hmem
  · rw [hcreated]
    refine ⟨le_refl _, fun ws'' hws'' => ?_, fun e he => ?_⟩
    · rcases List.mem_cons.1 (hinto.mem_iff.1 hws'') with rfl | hrest
      · refine Or.inl ⟨_, hmem, _, hkept.advances, fun k hk => ?_⟩
        rw [hk, Option.map_some, hkept.advances.id]
      · exact Or.inl ⟨ws'', hout.mem_iff.2 (List.mem_cons_of_mem _ hrest), none, .refl ws'',
          fun k hk => absurd hk (Option.some_ne_none k).symm⟩
    · obtain ⟨n, hn, rfl⟩ := Option.map_eq_some_iff.1 he
      refine ⟨mem_tabNumbers.2 ⟨ws', hinto.mem_iff.2 (List.mem_cons_self ..), rfl, ?_⟩,
        fun ws hws hid => ?_⟩
      · obtain ⟨idx, -, hidx⟩ := Option.bind_eq_some_iff.1 hn
        obtain ⟨tab, htab, hnumber⟩ := Option.map_eq_some_iff.1 hidx
        exact ⟨tab, List.mem_of_getElem? htab, hnumber⟩
      · rw [h.eq_of_id_eq hws hmem (hid.trans hkept.advances.id)]
        exact hkept.advances.created n hn

/-- A workspace goes. -/
theorem remove_spec (h : s.Valid) (hws : s.workspaces[wsIdx]? = some ws) :
    ({ s with workspaces := s.workspaces.eraseIdx wsIdx } : AppState).Valid := by
  obtain ⟨hidx, rfl⟩ := List.getElem?_eq_some_iff.1 hws
  have hout := (List.getElem_cons_eraseIdx_perm hidx).symm
  have hnames := (hout.map (·.id)).nodup_iff.1 h.ids_nodup
  exact h.edit [s.workspaces[wsIdx]] [] hout (List.Perm.refl _) (by simp) (by simp) (by simp)
    (le_refl _) (le_refl _) (List.nodup_cons.1 hnames).2 (by simp)

/-- A workspace comes, with an id that is drawn for it. -/
theorem add_spec (h : s.Valid) (hsound : ws.Sound ∅) {tab : Tab} (htabs : ws.tabs = [tab])
    (hactive : ws.activeTab = 0) (hid : ws.id = workspaceIdForNumber s.nextWorkspaceId)
    (hnew : ∀ id ∈ ws.paneIds, id ∉ s.paneIds ∧ id.raw < s.nextPaneId) (hs' : s' = { s with
      workspaces := s.workspaces ++ [ws], nextWorkspaceId := s.nextWorkspaceId + 1 }) :
    s'.Valid ∧ s.Advances s' (s'.createdTab (some (s.workspaces.length, 0))) := by
  subst hs'
  have hinto : (s.workspaces ++ [ws]).Perm ([ws] ++ s.workspaces) := List.perm_append_comm
  have hcreated : createdTab { s with
      workspaces := s.workspaces ++ [ws], nextWorkspaceId := s.nextWorkspaceId + 1 }
      (some (s.workspaces.length, 0)) = some (ws.id, tab.number) := by
    simp [createdTab, htabs]
  have hother : ∀ ws' ∈ s.workspaces, ws'.id ≠ ws.id := fun ws' hws' heq =>
    h.ids_used ws' hws' s.nextWorkspaceId (le_refl _) (heq.trans hid)
  constructor
  · refine h.edit [] [ws] (List.Perm.refl _) hinto ?_ (by simpa using hsound.disjoint)
      (fun id hmem => Or.inr (hnew id (by simpa using hmem))) (le_refl _) (Nat.le_succ _) ?_ ?_
    · simpa [htabs, hactive] using hsound
    · rw [List.singleton_append, List.map_cons, List.nodup_cons]
      refine ⟨fun hmem => ?_, h.ids_nodup⟩
      obtain ⟨ws', hws', heq⟩ := List.mem_map.1 hmem
      exact hother ws' hws' heq
    · rw [List.forall_mem_singleton, hid]
      intro k hk heq
      have hlt : s.nextWorkspaceId + 1 ≤ k := hk
      have hkey := workspaceIdForNumber_inj h.counter (by omega) heq
      omega
  · rw [hcreated]
    refine ⟨Nat.le_succ _, fun ws' hws' => ?_, fun e he => ?_⟩
    · rcases List.mem_append.1 hws' with hws' | hws'
      · exact Or.inl ⟨ws', hws', none, .refl ws', nofun⟩
      · obtain rfl := List.mem_singleton.1 hws'
        refine Or.inr ⟨⟨s.nextWorkspaceId, le_refl _, Nat.lt_succ_self _, hid⟩, fun t ht => ?_⟩
        rw [htabs, List.mem_singleton] at ht
        rw [ht]
    · cases he
      refine ⟨mem_tabNumbers.2 ⟨ws, by simp, rfl, tab, by simp [htabs], rfl⟩,
        fun ws' hws' heq => absurd heq (hother ws' hws')⟩

/-! ## Pane moves -/

theorem findIdx?_key {α κ : Type} [BEq κ] [LawfulBEq κ] {f : α → κ} {l : List α}
    (hnodup : (l.map f).Nodup) {idx : ℕ} {a : α} (ha : l[idx]? = some a) :
    l.findIdx? (fun b => f b == f a) = some idx := by
  obtain ⟨hidx, rfl⟩ := List.getElem?_eq_some_iff.1 ha
  refine List.findIdx?_eq_some_iff_getElem.2 ⟨hidx, by simp, fun j hj hkey => ?_⟩
  have hlt : j < (l.map f).length := by
    rw [List.length_map]
    omega
  have hlt' : idx < (l.map f).length := by rwa [List.length_map]
  have heq : (l.map f)[j] = (l.map f)[idx] := by simpa using hkey
  have := (List.Nodup.getElem_inj_iff hnodup).1 heq
  omega

theorem parseWorkspaceId_eq (hnames : (s.workspaces.map (·.id)).Nodup)
    (hws : s.workspaces[wsIdx]? = some ws) : s.parseWorkspaceId ws.id = some wsIdx :=
  findIdx?_key hnames hws

theorem parseTabId_eq (hnames : (s.workspaces.map (·.id)).Nodup) {tabIdx : ℕ}
    (hws : s.workspaces[wsIdx]? = some ws) (hnumbers : (ws.tabs.map (·.number)).Nodup) {tab : Tab}
    (htab : ws.tabs[tabIdx]? = some tab) :
    s.parseTabId ws.id tab.number = some (wsIdx, tabIdx) := by
  have hfind : ws.tabs.findIdx? (fun t => t.number == tab.number) = some tabIdx :=
    findIdx?_key hnumbers htab
  simp only [parseTabId, parseWorkspaceId_eq hnames hws, Option.bind_some, hws, hfind,
    Option.map_some]

variable {context : PaneMoveRecoveryContext} {moved : MovedPane} {identityCwd : String}
  {focus : Bool}

theorem placePane_existingTab {workspaceId : String} {tabNumber : ℕ} {target : PaneId}
    {split : Direction} {ratio : F32} {tabIdx : ℕ} {ws' : Workspace}
    (hparse : s.parseTabId workspaceId tabNumber = some (wsIdx, tabIdx))
    (hws : s.workspaces[wsIdx]? = some ws)
    (hinsert : ws.insertMovedPaneIntoTab tabIdx target moved split ratio focus = (ws', true))
    (crossWorkspace : Bool) : s.placePane context moved identityCwd focus
        (.existingTab workspaceId tabNumber target split ratio crossWorkspace) =
      (s.setWorkspace wsIdx ws', none) := by
  simp only [placePane, hparse, hws, Option.map_some, hinsert]

theorem placePane_newTab {workspaceId : String} {label : Option String}
    (hparse : s.parseWorkspaceId workspaceId = some wsIdx) (hws : s.workspaces[wsIdx]? = some ws) :
    s.placePane context moved identityCwd focus (.newTab workspaceId label) =
      (s.setWorkspace wsIdx (ws.createTabFromExistingPane moved label).1,
        some (wsIdx, (ws.createTabFromExistingPane moved label).2)) := by
  simp only [placePane, hparse, hws, Option.map_some]

end AppState

/-- A move that comes to its end : the tab it goes to is there and the target pane is another pane
of it, or the workspace it goes to is there. -/
def ResolvedPaneMoveDestination.Complete (s : AppState) (source : Workspace) (paneId : PaneId) :
    ResolvedPaneMoveDestination → Prop
  | existingTab workspaceId tabNumber targetPaneId _ _ crossWorkspace =>
    (∃ ws ∈ s.workspaces, ws.id = workspaceId ∧
      ∃ tab ∈ ws.tabs, tab.number = tabNumber ∧ targetPaneId ∈ tab.layout.paneIds) ∧
    targetPaneId ≠ paneId ∧ crossWorkspace = (workspaceId != source.id)
  | newTab workspaceId _ => ∃ ws ∈ s.workspaces, ws.id = workspaceId
  | newWorkspace _ _ => True

namespace AppState

variable {s : AppState}

variable {source : Workspace} {resolved : ResolvedPaneMoveDestination}

/-- A pane that is in no workspace is put where it goes. -/
theorem placePane_spec (h : s.Valid) {context : PaneMoveRecoveryContext} {moved : MovedPane}
    (hpane : moved.paneId ∉ s.paneIds) (hlt : moved.paneId.raw < s.nextPaneId)
    (hcomplete : resolved.Complete s source moved.paneId) (identityCwd : String) (focus : Bool) :
    (s.placePane context moved identityCwd focus resolved).1.Valid ∧
      s.Advances (s.placePane context moved identityCwd focus resolved).1
        ((s.placePane context moved identityCwd focus resolved).1.createdTab
          (s.placePane context moved identityCwd focus resolved).2) := by
  have hout : ∀ ws ∈ s.workspaces, moved.paneId ∉ ws.paneIds := fun ws hws hid =>
    hpane (List.mem_flatMap.2 ⟨ws, hws, hid⟩)
  have hnew : ∀ id ∈ ({moved.paneId} : Set PaneId), id ∉ s.paneIds ∧ id.raw < s.nextPaneId := by
    rintro id rfl
    exact ⟨hpane, hlt⟩
  have hloose : (∅ : Set PaneId) ⊆ {moved.paneId} := Set.empty_subset _
  rcases resolved with ⟨id, n, target, split, ratio, cross⟩ | ⟨id, label⟩ | ⟨label, tabLabel⟩
  · obtain ⟨⟨ws, hmem, rfl, tab, htabMem, rfl, htarget⟩, -, -⟩ := hcomplete
    obtain ⟨wsIdx, hws⟩ := List.getElem?_of_mem hmem
    obtain ⟨tabIdx, htab⟩ := List.getElem?_of_mem htabMem
    have hsound := h.sound hmem
    obtain ⟨ws', hinsert, hplaced⟩ := Workspace.insertMovedPaneIntoTab_spec hsound hloose
      (h.workspaces ws hmem).activeTab (hout ws hmem) htab htarget split ratio focus
    rw [placePane_existingTab (parseTabId_eq h.ids_nodup hws hsound.tabNumbers_nodup htab) hws
      hinsert]
    exact replace_spec h hws none hplaced.kept hnew
  · obtain ⟨ws, hmem, rfl⟩ := hcomplete
    obtain ⟨wsIdx, hws⟩ := List.getElem?_of_mem hmem
    have hactive := (h.workspaces ws hmem).activeTab
    have hplaced := Workspace.createTabFromExistingPane_spec (h.sound hmem) hloose
      (fun _ => hactive) (fun hempty => by simp [hempty] at hactive) (hout ws hmem) label
    rw [placePane_newTab (parseWorkspaceId_eq h.ids_nodup hws) hws]
    exact replace_spec h hws (some _) hplaced.kept hnew
  · have hsound := Workspace.single_sound (workspaceIdForNumber s.nextWorkspaceId) label identityCwd
      (Tab.fromExistingPane_sound 1 tabLabel moved) rfl rfl
    refine add_spec h hsound rfl rfl rfl (fun id hid => hnew id ?_) rfl
    simpa [Workspace.single, Workspace.paneIds, Tab.fromExistingPane, TileLayout.fromSaved,
      TileLayout.paneIds, Node.paneIds] using hid

/-- The workspaces after a pane has left one of them for good. -/
def withoutPane (s : AppState) (wsIdx : ℕ) (ws : Workspace) (paneId : PaneId) : AppState :=
  if ws.tabs.isEmpty then { s with workspaces := s.workspaces.eraseIdx wsIdx }
  else s.setWorkspace wsIdx (ws.unregisterMovedPane paneId)

variable {paneId : PaneId}

theorem withoutPane_spec (h : s.Valid) {wsIdx : ℕ} {ws : Workspace} {taken : TakenPane}
    (hsource : s.workspaces[wsIdx]? = some source) (htaken : source.Taken paneId ws taken) :
    (s.withoutPane wsIdx ws paneId).Valid ∧
      (s.withoutPane wsIdx ws paneId).nextPaneId = s.nextPaneId ∧
      (s.withoutPane wsIdx ws paneId).nextWorkspaceId = s.nextWorkspaceId ∧
      paneId ∉ (s.withoutPane wsIdx ws paneId).paneIds ∧
      (∀ ws' ∈ (s.withoutPane wsIdx ws paneId).workspaces,
        ∃ old ∈ s.workspaces, old.Advances ws' none) ∧
      ∀ other ∈ s.workspaces, other.id ≠ source.id →
        other ∈ (s.withoutPane wsIdx ws paneId).workspaces := by
  obtain ⟨hidx, rfl⟩ := List.getElem?_eq_some_iff.1 hsource
  have hout := (List.getElem_cons_eraseIdx_perm hidx).symm
  have hold : ∀ ws' ∈ s.workspaces.eraseIdx wsIdx, ∃ old ∈ s.workspaces, old.Advances ws' none :=
    fun ws' hws' => ⟨ws', List.mem_of_mem_eraseIdx hws', .refl ws'⟩
  have hother : ∀ other ∈ s.workspaces, other.id ≠ s.workspaces[wsIdx].id →
      other ∈ s.workspaces.eraseIdx wsIdx := fun other hmem hne =>
    (List.mem_cons.1 (hout.mem_iff.1 hmem)).resolve_left fun heq => hne (heq ▸ rfl)
  have hpanes : s.paneIds.Perm
      (paneId :: (ws.paneIds ++ (s.workspaces.eraseIdx wsIdx).flatMap (·.paneIds))) := by
    refine (hout.flatMap_right (·.paneIds)).trans ?_
    rw [List.flatMap_cons, ← List.cons_append]
    exact htaken.perm.append_right _
  have hnot := (List.nodup_cons.1 (hpanes.nodup_iff.1 h.disjoint)).1
  unfold withoutPane
  split
  · refine ⟨remove_spec h hsource, rfl, rfl, fun hid => hnot ?_, hold, hother⟩
    exact List.mem_append_right _ hid
  · rename_i hempty
    have hkept := htaken.unregistered (by simpa using hempty)
    have hinto := List.set_perm_cons_eraseIdx hidx (ws.unregisterMovedPane paneId)
    refine ⟨(replace_spec h hsource none hkept nofun).1, rfl, rfl, fun hid => hnot ?_,
      fun ws' hws' => ?_, fun other hmem hne => ?_⟩
    · have hids := (hinto.flatMap_right (·.paneIds)).mem_iff.1 hid
      rwa [List.flatMap_cons] at hids
    · rcases List.mem_cons.1 (hinto.mem_iff.1 hws') with rfl | hws'
      · exact ⟨_, List.getElem_mem hidx, hkept.advances⟩
      · exact hold ws' hws'
    · exact hinto.mem_iff.2 (List.mem_cons_of_mem _ (hother other hmem hne))

/-- A pane that stays in its workspace. -/
theorem placeWithin_spec (h : s.Valid) {context : PaneMoveRecoveryContext} {wsIdx : ℕ}
    {ws : Workspace} {taken : TakenPane} (hsource : s.workspaces[wsIdx]? = some source)
    (htaken : source.Taken paneId ws taken) (hcomplete : resolved.Complete s source paneId)
    (hwithin : resolved.crossWorkspace source.id = false) (identityCwd : String) (focus : Bool) :
    ∃ s' created, (s.setWorkspace wsIdx ws).placePane context taken.moved identityCwd focus resolved
        = (s', created) ∧ s'.Valid ∧ s.Advances s' (s'.createdTab created) := by
  obtain ⟨hidx, hget⟩ := List.getElem?_eq_some_iff.1 hsource
  have hmem := List.mem_of_getElem? hsource
  have hpane : taken.moved.paneId ∉ ws.paneIds := by
    rw [htaken.pane]
    exact htaken.sound.loose_disjoint paneId (Set.mem_singleton _)
  have hloose : ({paneId} : Set PaneId) ⊆ {taken.moved.paneId} := by rw [htaken.pane]
  have hws : (s.setWorkspace wsIdx ws).workspaces[wsIdx]? = some ws := by
    simp [setWorkspace, hidx]
  have hnames : ((s.setWorkspace wsIdx ws).workspaces.map (·.id)).Nodup := by
    have hsame : (s.workspaces.map (·.id)).set wsIdx ws.id = s.workspaces.map (·.id) := by
      rw [htaken.advances.id, ← hget, ← List.map_set, List.set_getElem_self]
    rw [setWorkspace, List.map_set, hsame]
    exact h.ids_nodup
  have hset : ∀ ws', (s.setWorkspace wsIdx ws).setWorkspace wsIdx ws' = s.setWorkspace wsIdx ws' :=
    fun ws' => by simp [setWorkspace]
  rcases resolved with ⟨id, n, target, split, ratio, cross⟩ | ⟨id, label⟩ | _
  · obtain ⟨⟨ws₀, hmem₀, rfl, tab, htabMem, rfl, htarget⟩, hne, hcross⟩ := hcomplete
    obtain rfl : cross = false := hwithin
    have hid : ws₀.id = source.id := by simpa using hcross.symm
    obtain rfl := h.eq_of_id_eq hmem₀ hmem hid
    obtain ⟨tab', htabMem', hnumber, htarget'⟩ := htaken.tabs tab htabMem target htarget hne
    obtain ⟨tabIdx, htab'⟩ := List.getElem?_of_mem htabMem'
    obtain ⟨ws', hinsert, hplaced⟩ := Workspace.insertMovedPaneIntoTab_spec htaken.sound hloose
      (htaken.active (List.ne_nil_of_mem htabMem')) hpane htab' htarget' split ratio focus
    have hparse := parseTabId_eq hnames hws htaken.sound.tabNumbers_nodup htab'
    rw [htaken.advances.id, hnumber] at hparse
    rw [htaken.pane] at hplaced
    refine ⟨_, _, placePane_existingTab hparse hws hinsert false, ?_⟩
    rw [hset]
    exact replace_spec h hsource none (htaken.kept hplaced) nofun
  · obtain rfl : id = source.id := by simpa [ResolvedPaneMoveDestination.crossWorkspace] using hwithin
    have hparse := parseWorkspaceId_eq hnames hws
    rw [htaken.advances.id] at hparse
    have hplaced := Workspace.createTabFromExistingPane_spec htaken.sound hloose htaken.active
      htaken.activeEmpty hpane label
    rw [htaken.pane] at hplaced
    refine ⟨_, _, placePane_newTab hparse hws, ?_⟩
    rw [hset]
    exact replace_spec h hsource (some _) (htaken.kept hplaced) nofun
  · exact absurd hwithin nofun

/-- A destination in another workspace is still there when the pane has left. -/
theorem complete_of_cross {s' : AppState} (hcomplete : resolved.Complete s source paneId)
    (hcross : resolved.crossWorkspace source.id = true)
    (hother : ∀ other ∈ s.workspaces, other.id ≠ source.id → other ∈ s'.workspaces) :
    resolved.Complete s' source paneId := by
  rcases resolved with ⟨id, n, target, split, ratio, cross⟩ | ⟨id, label⟩ | _
  · obtain ⟨⟨ws, hmem, rfl, htab⟩, hne, hcross'⟩ := hcomplete
    obtain rfl : cross = true := hcross
    exact ⟨⟨ws, hother ws hmem (by simpa using hcross'.symm), rfl, htab⟩, hne, hcross'⟩
  · obtain ⟨ws, hmem, rfl⟩ := hcomplete
    exact ⟨ws, hother ws hmem (by simpa [ResolvedPaneMoveDestination.crossWorkspace] using hcross),
      rfl⟩
  · trivial

theorem movePane_spec (h : s.Valid) {sourceWsIdx : ℕ}
    (hcomplete : ∀ source, s.workspaces[sourceWsIdx]? = some source →
      resolved.Complete s source paneId) (identityCwd : String) (focus : Bool) :
    ∃ s' created, s.movePane sourceWsIdx paneId identityCwd focus resolved = some (s', created) ∧
      s'.Valid ∧ s.Advances s' (s'.createdTab created) := by
  unfold movePane
  rcases hws : s.workspaces[sourceWsIdx]? with _ | source
  · exact ⟨s, none, rfl, h, .of_subset (le_refl _) fun _ hws => hws⟩
  have hcomplete := hcomplete source hws
  have hmem := List.mem_of_getElem? hws
  have hsound := h.sound hmem
  have hactive := (h.workspaces source hmem).activeTab
  simp only
  by_cases hpane : paneId ∈ source.paneIds
  swap
  · have htake : source.takePaneForMove paneId = some (source, none) := by
      rw [Workspace.takePaneForMove, (Workspace.findTabIndexForPane_eq_none hsound).2 hpane]
    rw [htake]
    exact ⟨_, none, rfl, replace_spec h hws none (.refl hsound hactive)
      fun id hid => absurd hid (Set.notMem_empty id)⟩
  obtain ⟨ws', taken, htake, htaken⟩ := Workspace.takePaneForMove_spec hsound hactive hpane
  rw [htake, Option.map_some]
  simp only [htaken.empty]
  rcases hcross : resolved.crossWorkspace source.id with _ | _
  · simp only [Bool.and_false, Bool.false_eq_true, if_false]
    obtain ⟨s', created, heq, hspec⟩ := placeWithin_spec h hws htaken hcomplete hcross _ _
    exact ⟨s', created, congrArg some heq, hspec⟩
  · simp only [Bool.and_true, if_true]
    obtain ⟨hvalid, hpaneId, hcounter, hnot, hold, hother⟩ := withoutPane_spec h hws htaken
    obtain rfl := htaken.pane
    have hlt := h.panes_lt taken.moved.paneId (List.mem_flatMap.2 ⟨source, hmem, hpane⟩)
    obtain ⟨hvalid', hadvances⟩ := placePane_spec hvalid hnot (hpaneId ▸ hlt)
      (complete_of_cross hcomplete hcross hother) _ _
    exact ⟨_, _, rfl, hvalid', hadvances.after h (le_of_eq hcounter.symm) hold⟩

/-! ## All operations -/

theorem drawPane_valid (h : s.Valid) : s.drawPane.Valid :=
  h.edit [] [] (List.Perm.refl _) (List.Perm.refl _) (by simp) (by simp) (by simp) (Nat.le_succ _)
    (le_refl _) h.ids_nodup (by simp)

/-- The pane id that is drawn is new. -/
theorem drawPane_new (h : s.Valid) : ∀ id ∈ ({⟨s.nextPaneId⟩} : Set PaneId),
    id ∉ s.drawPane.paneIds ∧ id.raw < s.drawPane.nextPaneId := by
  rintro id rfl
  exact ⟨fun hid => lt_irrefl _ (h.panes_lt _ hid), Nat.lt_succ_self _⟩

theorem Advances.of_drawPane {s' : AppState} {created : Option (String × ℕ)}
    (h : s.drawPane.Advances s' created) : s.Advances s' created :=
  ⟨h.counter, h.workspaces, h.created⟩

theorem onWorkspace_spec (h : s.Valid) {new : Set PaneId}
    (hnew : ∀ id ∈ new, id ∉ s.paneIds ∧ id.raw < s.nextPaneId) (wsIdx : ℕ)
    {f : Workspace → Option (Workspace × Option ℕ)}
    (hf : ∀ ws ∈ s.workspaces, ws.Sound ∅ → ws.activeTab < ws.tabs.length →
      ∃ ws' created, f ws = some (ws', created) ∧ ws.Kept new ws' (ws'.createdNumber created)) :
    ∃ s' created, s.onWorkspace wsIdx f = some (s', created) ∧ s'.Valid ∧
      s.Advances s' (s'.createdTab created) := by
  unfold onWorkspace
  rcases hws : s.workspaces[wsIdx]? with _ | ws
  · exact ⟨s, none, rfl, h, .of_subset (le_refl _) fun _ hws => hws⟩
  have hmem := List.mem_of_getElem? hws
  obtain ⟨ws', created, heq, hkept⟩ := hf ws hmem (h.sound hmem) (h.workspaces ws hmem).activeTab
  simp only [heq, Option.map_some]
  exact ⟨_, _, rfl, replace_spec h hws created hkept hnew⟩

theorem createWorkspace_spec (h : s.Valid) (initialCwd : String) (spawn : PaneLaunchEnv → Bool) :
    (s.createWorkspace initialCwd spawn).1.Valid ∧
      s.Advances (s.createWorkspace initialCwd spawn).1
        ((s.createWorkspace initialCwd spawn).1.createdTab
          (s.createWorkspace initialCwd spawn).2) := by
  have hdrawn := drawPane_valid h
  unfold createWorkspace
  simp only
  split
  · have hsound := Workspace.single_sound (workspaceIdForNumber s.nextWorkspaceId) none initialCwd
      (Tab.new_sound 1 ⟨s.nextPaneId⟩ ⟨s.nextTerminalId⟩) rfl rfl
    obtain ⟨hvalid, hadvances⟩ := add_spec hdrawn hsound rfl rfl rfl
      (fun id hid => drawPane_new h id (by
        simpa [Workspace.single, Workspace.paneIds, Tab.new, TileLayout.new, TileLayout.paneIds,
          Node.paneIds] using hid)) rfl
    exact ⟨hvalid, hadvances.of_drawPane⟩
  · refine ⟨hdrawn.edit [] [] (List.Perm.refl _) (List.Perm.refl _) (by simp) (by simp) (by simp)
      (le_refl _) (Nat.le_succ _) h.ids_nodup (by simp), ?_⟩
    exact .of_subset (Nat.le_succ _) fun _ hws => hws

end AppState

namespace WorkspaceOp

/-- Of the operations only a move asks for something : that it comes to its end. -/
def Complete (s : AppState) : WorkspaceOp → Prop
  | movePane sourceWsIdx sourcePaneId _ _ resolved => ∀ source,
    s.workspaces[sourceWsIdx]? = some source → resolved.Complete s source sourcePaneId
  | _ => True

theorem apply_spec {s : AppState} (h : s.Valid) {op : WorkspaceOp} (hcomplete : op.Complete s) :
    ∃ s' created, op.apply s = some (s', created) ∧ s'.Valid ∧
      s.Advances s' (s'.createdTab created) := by
  have hnone : ∀ id ∈ (∅ : Set PaneId), id ∉ s.paneIds ∧ id.raw < s.nextPaneId := nofun
  have hdrawn := AppState.drawPane_valid h
  have hfresh : ∀ ws ∈ s.workspaces, (⟨s.nextPaneId⟩ : PaneId) ∉ ws.paneIds := fun ws hws hid =>
    (AppState.drawPane_new h _ rfl).1 (List.mem_flatMap.2 ⟨ws, hws, hid⟩)
  cases op with
  | createWorkspace initialCwd spawn =>
    exact ⟨_, _, rfl, AppState.createWorkspace_spec h initialCwd spawn⟩
  | createTab wsIdx extraEnv spawn =>
    obtain ⟨s', created, heq, hvalid, hadvances⟩ := AppState.onWorkspace_spec hdrawn
      (AppState.drawPane_new h) wsIdx fun ws hws hsound hactive =>
        Workspace.createTabWithRuntime_kept hsound hactive (hfresh ws hws) extraEnv spawn
          ⟨s.nextTerminalId⟩
    exact ⟨s', created, heq, hvalid, hadvances.of_drawPane⟩
  | closeTab wsIdx idx =>
    exact AppState.onWorkspace_spec h hnone wsIdx fun ws _ hsound hactive =>
      ⟨_, none, rfl, Workspace.closeTab_kept hsound hactive idx⟩
  | moveTab wsIdx sourceIdx insertIdx =>
    exact AppState.onWorkspace_spec h hnone wsIdx fun ws _ hsound hactive =>
      ⟨_, none, rfl, Workspace.moveTab_kept hsound hactive sourceIdx insertIdx⟩
  | switchTab wsIdx idx =>
    exact AppState.onWorkspace_spec h hnone wsIdx fun ws _ hsound hactive =>
      ⟨_, none, rfl, Workspace.switchTab_kept hsound hactive idx⟩
  | splitPane wsIdx paneId direction ratio focusNewPane extraEnv spawn =>
    have hsplit : ∀ ws ∈ s.workspaces, ws.Sound ∅ → ws.activeTab < ws.tabs.length →
        ∃ ws' created, (ws.splitPaneWithRuntime paneId direction ratio focusNewPane extraEnv spawn
            ⟨s.nextPaneId⟩ ⟨s.nextTerminalId⟩).map (fun split => (split.1, (none : Option ℕ))) =
              some (ws', created) ∧
          ws.Kept {⟨s.nextPaneId⟩} ws' (ws'.createdNumber created) := by
      intro ws hws hsound hactive
      obtain ⟨ws', newPane, heq, hkept⟩ := Workspace.splitPaneWithRuntime_kept hsound hactive
        (hfresh ws hws) paneId direction ratio focusNewPane extraEnv spawn ⟨s.nextTerminalId⟩
      exact ⟨ws', none, by rw [heq]; rfl, hkept⟩
    obtain ⟨s', created, heq, hvalid, hadvances⟩ :=
      AppState.onWorkspace_spec hdrawn (AppState.drawPane_new h) wsIdx hsplit
    exact ⟨s', created, heq, hvalid, hadvances.of_drawPane⟩
  | closePane wsIdx paneId =>
    exact AppState.onWorkspace_spec h hnone wsIdx fun ws _ hsound hactive => by
      obtain ⟨ws', flag, hremove, hkept⟩ := Workspace.removePane_kept hsound hactive paneId
      exact ⟨ws', none, by rw [Workspace.closePane, hremove]; rfl, hkept⟩
  | removePane wsIdx paneId =>
    exact AppState.onWorkspace_spec h hnone wsIdx fun ws _ hsound hactive => by
      obtain ⟨ws', flag, hremove, hkept⟩ := Workspace.removePane_kept hsound hactive paneId
      exact ⟨ws', none, by rw [hremove]; rfl, hkept⟩
  | movePane sourceWsIdx sourcePaneId identityCwd focus resolved =>
    exact AppState.movePane_spec h hcomplete identityCwd focus

end WorkspaceOp

end Zynk
