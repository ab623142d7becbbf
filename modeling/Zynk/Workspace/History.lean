import Zynk.Workspace.Runs

/-!
# Public numbers over a run

The numbers of a workspace only come from its counters, and workspace ids are not drawn twice. So
over a whole run a public number is given to one pane or to one tab. `History` is what carries
this through a run : the numbers given so far, and that the counters are past them.

`workspace_runs` puts together what is known of every state of a run.
-/

namespace Zynk

namespace AppState

variable {s : AppState}

/-- A pane has this public number. -/
def Numbered (s : AppState) (id : String) (n : ℕ) (paneId : PaneId) : Prop :=
  ∃ ws ∈ s.workspaces, ws.id = id ∧ ws.publicPaneNumbers.lookup paneId = some n

/-- The numbers that panes had so far and the tabs that there were, and what keeps them from being
given again : the counters of the workspaces are past them, and where the workspace is gone its id
is not drawn again. -/
structure History (s : AppState) (numbers : String → ℕ → PaneId → Prop)
    (tabs : List (String × ℕ)) : Prop where
  numbered : ∀ id n paneId, s.Numbered id n paneId → numbers id n paneId
  unique : ∀ id n paneId paneId', numbers id n paneId → numbers id n paneId' → paneId = paneId'
  numbers_used : ∀ id n paneId, numbers id n paneId → s.Used id
  numbers_lt : ∀ id n paneId, numbers id n paneId →
    ∀ ws ∈ s.workspaces, ws.id = id → n < ws.nextPublicPaneNumber
  tabs_nodup : tabs.Nodup
  tabs_mem : ∀ e ∈ s.tabNumbers, e ∈ tabs
  tabs_used : ∀ e ∈ tabs, s.Used e.1
  tabs_lt : ∀ e ∈ tabs, ∀ ws ∈ s.workspaces, ws.id = e.1 → e.2 < ws.nextPublicTabNumber

theorem Valid.numbered_unique (h : s.Valid) {id : String} {n : ℕ} {paneId paneId' : PaneId}
    (hn : s.Numbered id n paneId) (hn' : s.Numbered id n paneId') : paneId = paneId' := by
  obtain ⟨ws, hws, rfl, hlookup⟩ := hn
  obtain ⟨ws', hws', hid, hlookup'⟩ := hn'
  obtain rfl := h.eq_of_id_eq hws' hws hid
  exact (h.workspaces ws' hws').numbers_inj paneId paneId' n hlookup hlookup'

theorem Valid.numbered_lt (h : s.Valid) {id : String} {n : ℕ} {paneId : PaneId}
    (hn : s.Numbered id n paneId) {ws : Workspace} (hws : ws ∈ s.workspaces) (hid : ws.id = id) :
    n < ws.nextPublicPaneNumber := by
  obtain ⟨ws', hws', rfl, hlookup⟩ := hn
  obtain rfl := h.eq_of_id_eq hws hws' hid
  exact (h.workspaces ws hws).numbers_lt paneId n hlookup

theorem Valid.tabNumbers_lt (h : s.Valid) {e : String × ℕ} (he : e ∈ s.tabNumbers)
    {ws : Workspace} (hws : ws ∈ s.workspaces) (hid : ws.id = e.1) :
    e.2 < ws.nextPublicTabNumber := by
  obtain ⟨ws', hws', hid', tab, htab, hn⟩ := mem_tabNumbers.1 he
  obtain rfl := h.eq_of_id_eq hws hws' (hid.trans hid'.symm)
  rw [← hn]
  exact (h.workspaces ws hws).tabNumbers_lt tab htab

theorem Valid.tabNumbers_nodup (h : s.Valid) : s.tabNumbers.Nodup := by
  refine List.nodup_flatMap.2 ⟨fun ws hws => ?_, ?_⟩
  · have hnodup := (h.workspaces ws hws).tabNumbers_nodup
    rw [show (ws.tabs.map fun tab => (ws.id, tab.number)) =
      (ws.tabs.map (·.number)).map (Prod.mk ws.id) by simp]
    exact hnodup.map (Prod.mk_right_injective ws.id)
  · refine (List.pairwise_map.1 h.ids_nodup).imp fun hne e he he' => hne ?_
    obtain ⟨tab, -, rfl⟩ := List.mem_map.1 he
    obtain ⟨tab', -, heq⟩ := List.mem_map.1 he'
    exact (congrArg Prod.fst heq).symm

theorem Valid.history (h : s.Valid) : s.History s.Numbered s.tabNumbers where
  numbered _ _ _ hn := hn
  unique _ _ _ _ := h.numbered_unique
  numbers_used id n paneId hn := by
    obtain ⟨ws, hws, rfl, -⟩ := hn
    exact h.ids_used ws hws
  numbers_lt _ _ _ hn _ := h.numbered_lt hn
  tabs_nodup := h.tabNumbers_nodup
  tabs_mem _ he := he
  tabs_used e he := by
    obtain ⟨ws, hws, hid, -⟩ := mem_tabNumbers.1 he
    exact hid ▸ h.ids_used ws hws
  tabs_lt _ he _ := h.tabNumbers_lt he

/-- A number of a pane is known, or is new. -/
theorem History.known_or_new {numbers : String → ℕ → PaneId → Prop} {tabs : List (String × ℕ)}
    (hhistory : s.History numbers tabs) {s' : AppState} {created : Option (String × ℕ)}
    (hadvances : s.Advances s' created) {id : String} {n : ℕ} {paneId : PaneId}
    (hn : s'.Numbered id n paneId) :
    numbers id n paneId ∨ ∀ paneId', ¬ numbers id n paneId' := by
  obtain ⟨ws', hws', rfl, hlookup⟩ := hn
  rcases hadvances.workspaces ws' hws' with ⟨ws, hws, _, hstep, -⟩ | ⟨⟨k, hk, -, hid⟩, -⟩
  · rcases hstep.numbers paneId n hlookup with hold | hle
    · exact Or.inl (hhistory.numbered _ _ _ ⟨ws, hws, hstep.id.symm, hold⟩)
    · refine Or.inr fun paneId' hnumbers => ?_
      have hlt := hhistory.numbers_lt _ _ _ hnumbers ws hws hstep.id.symm
      omega
  · exact Or.inr fun paneId' hnumbers => hhistory.numbers_used _ _ _ hnumbers k hk hid

theorem History.step {numbers : String → ℕ → PaneId → Prop} {tabs : List (String × ℕ)}
    (hhistory : s.History numbers tabs) {s' : AppState} {created : Option (String × ℕ)}
    (h' : s'.Valid) (hadvances : s.Advances s' created) :
    s'.History (fun id n paneId => numbers id n paneId ∨ s'.Numbered id n paneId)
      (tabs ++ created.toList) where
  numbered _ _ _ hn := Or.inr hn
  unique id n paneId paneId' hn hn' := by
    rcases hn with hn | hn <;> rcases hn' with hn' | hn'
    · exact hhistory.unique id n paneId paneId' hn hn'
    · rcases hhistory.known_or_new hadvances hn' with hknown | hnew
      · exact hhistory.unique id n paneId paneId' hn hknown
      · exact absurd hn (hnew paneId)
    · rcases hhistory.known_or_new hadvances hn with hknown | hnew
      · exact hhistory.unique id n paneId paneId' hknown hn'
      · exact absurd hn' (hnew paneId')
    · exact h'.numbered_unique hn hn'
  numbers_used id n paneId hn := by
    rcases hn with hn | ⟨ws, hws, rfl, -⟩
    · exact fun k hk => hhistory.numbers_used id n paneId hn k (hadvances.counter.trans hk)
    · exact h'.ids_used ws hws
  numbers_lt id n paneId hn ws' hws' hid := by
    rcases hn with hn | hn
    · rcases hadvances.workspaces ws' hws' with ⟨ws, hws, _, hstep, -⟩ | ⟨⟨k, hk, -, hid'⟩, -⟩
      · exact lt_of_lt_of_le (hhistory.numbers_lt id n paneId hn ws hws (hstep.id.symm.trans hid))
          hstep.nextPane
      · exact absurd (hid.symm.trans hid') (hhistory.numbers_used id n paneId hn k hk)
    · exact h'.numbered_lt hn hws' hid
  tabs_nodup := by
    refine List.nodup_append.2 ⟨hhistory.tabs_nodup, Option.toList_nodup created, ?_⟩
    rintro e he e' he' rfl
    obtain ⟨hmem, hnew⟩ := hadvances.created e (Option.mem_toList.1 he')
    obtain ⟨ws', hws', hid, -⟩ := mem_tabNumbers.1 hmem
    rcases hadvances.workspaces ws' hws' with ⟨ws, hws, _, hstep, -⟩ | ⟨⟨k, hk, -, hid'⟩, -⟩
    · have hold : ws.id = e.1 := hstep.id.symm.trans hid
      have hle := hnew ws hws hold
      have hlt := hhistory.tabs_lt e he ws hws hold
      omega
    · exact hhistory.tabs_used e he k hk (hid.symm.trans hid')
  tabs_mem e he := by
    obtain ⟨ws', hws', hid, tab', htab', hn⟩ := mem_tabNumbers.1 he
    obtain rfl : e = (ws'.id, tab'.number) := Prod.ext hid.symm hn.symm
    rw [List.mem_append, Option.mem_toList]
    rcases hadvances.workspaces ws' hws' with ⟨ws, hws, n, hstep, hcreated⟩ | ⟨-, hcreated⟩
    · rcases hstep.tabs tab' htab' with ⟨tab, htab, hn⟩ | hn
      · refine Or.inl (hhistory.tabs_mem _ (mem_tabNumbers.2 ⟨ws, hws, hstep.id.symm, tab, htab, hn⟩))
      · exact Or.inr (hstep.id ▸ hcreated _ hn)
    · exact Or.inr (hcreated tab' htab')
  tabs_used e he := by
    rcases List.mem_append.1 he with he | he
    · exact fun k hk => hhistory.tabs_used e he k (hadvances.counter.trans hk)
    · obtain ⟨hmem, -⟩ := hadvances.created e (Option.mem_toList.1 he)
      obtain ⟨ws, hws, hid, -⟩ := mem_tabNumbers.1 hmem
      exact hid ▸ h'.ids_used ws hws
  tabs_lt e he ws' hws' hid := by
    rcases List.mem_append.1 he with he | he
    · rcases hadvances.workspaces ws' hws' with ⟨ws, hws, _, hstep, -⟩ | ⟨⟨k, hk, -, hid'⟩, -⟩
      · exact lt_of_lt_of_le (hhistory.tabs_lt e he ws hws (hstep.id.symm.trans hid)) hstep.nextTab
      · exact absurd (hid.symm.trans hid') (hhistory.tabs_used e he k hk)
    · exact h'.tabNumbers_lt (hadvances.created e (Option.mem_toList.1 he)).1 hws' hid

end AppState

/-! ## Runs -/

namespace WorkspaceOp

/-- The tab that an operation creates. -/
def given (s : Option AppState) (op : WorkspaceOp) : Option (String × ℕ) :=
  s.bind fun s => (op.apply s).bind fun after => after.1.createdTab after.2

/-- The tabs that are created over a run, in order. -/
def tabsGiven (s : Option AppState) : List WorkspaceOp → List (String × ℕ)
  | [] => []
  | op :: ops => (given s op).toList ++ tabsGiven (step s op) ops

theorem tabsGiven_snoc (s : Option AppState) (ops : List WorkspaceOp) (op : WorkspaceOp) :
    tabsGiven s (ops ++ [op]) = tabsGiven s ops ++ (given (StepRun.run step s ops) op).toList := by
  induction ops generalizing s with
  | nil => simp [tabsGiven]
  | cons op' ops ih =>
    rw [List.cons_append, tabsGiven, ih, tabsGiven, StepRun.run_cons, List.append_assoc]

/-- In some state of the run the pane has this public number. -/
def NumberedIn (s : AppState) (ops : List WorkspaceOp) (id : String) (n : ℕ) (paneId : PaneId) :
    Prop :=
  ∃ pre, pre <+: ops ∧ ∃ t, StepRun.run step (some s) pre = some t ∧ t.Numbered id n paneId

def CompleteAt (s : Option AppState) (op : WorkspaceOp) : Prop :=
  ∀ t, s = some t → op.Complete t

/-- The run lemma : no operation panics, and the state reached is valid with the history of the
run. -/
theorem run_history {s₀ : AppState} (h₀ : s₀.Valid) (ops : List WorkspaceOp)
    (hmoves : StepRun.Along step CompleteAt (some s₀) ops) :
    ∃ s, StepRun.run step (some s₀) ops = some s ∧ s.Valid ∧
      s.History (NumberedIn s₀ ops) (s₀.tabNumbers ++ tabsGiven (some s₀) ops) := by
  have hreached := StepRun.run_induction (I := fun ops t =>
    t = StepRun.run step (some s₀) ops ∧ ∃ s, t = some s ∧ s.Valid ∧
      s.History (NumberedIn s₀ ops) (s₀.tabNumbers ++ tabsGiven (some s₀) ops)) ?_ ?_ ops hmoves
  · exact hreached.2
  · have hstart : NumberedIn s₀ [] = s₀.Numbered := by
      funext id n paneId
      simp [NumberedIn]
    refine ⟨rfl, s₀, rfl, h₀, ?_⟩
    rw [hstart, tabsGiven, List.append_nil]
    exact h₀.history
  · rintro ops t op ⟨hrun, s, rfl, hvalid, hhistory⟩ hop
    obtain ⟨s', created, happly, hvalid', hadvances⟩ := apply_spec hvalid (hop s rfl)
    have hstep : step (some s) op = some s' := by
      rw [step, Option.bind_some, happly, Option.map_some]
    have hrun' : some s' = StepRun.run step (some s₀) (ops ++ [op]) := by
      rw [StepRun.run_snoc, ← hrun, hstep]
    have hgiven : given (StepRun.run step (some s₀) ops) op = s'.createdTab created := by
      rw [← hrun, given, Option.bind_some, happly, Option.bind_some]
    have hnumbered : NumberedIn s₀ (ops ++ [op]) = fun id n paneId =>
        NumberedIn s₀ ops id n paneId ∨ s'.Numbered id n paneId := by
      funext id n paneId
      refine propext ⟨?_, ?_⟩
      · rintro ⟨pre, hpre, t, ht, hn⟩
        rcases List.prefix_concat_iff.1 hpre with rfl | hpre
        · rw [← hrun'] at ht
          cases ht
          exact Or.inr hn
        · exact Or.inl ⟨pre, hpre, t, ht, hn⟩
      · rintro (⟨pre, hpre, hn⟩ | hn)
        · exact ⟨pre, hpre.trans (List.prefix_append ops [op]), hn⟩
        · exact ⟨ops ++ [op], List.prefix_refl _, s', hrun'.symm, hn⟩
    refine ⟨hstep.trans hrun', s', hstep, hvalid', ?_⟩
    rw [hnumbered, tabsGiven_snoc, hgiven, ← List.append_assoc]
    exact hhistory.step hvalid' hadvances

/-- In every run no operation panics and every state reached is valid. Over the run no public
number is given to two panes or to two tabs, and closing or moving other tabs leaves the active
tab. -/
theorem workspace_runs {s₀ : AppState} (h₀ : s₀.Valid) (ops : List WorkspaceOp)
    (hmoves : StepRun.Along step CompleteAt (some s₀) ops) :
    ∃ s, StepRun.run step (some s₀) ops = some s ∧ s.Valid ∧
      (∀ ws ∈ s.workspaces, ws.KeepsActiveTab) ∧
      (∀ id n paneId paneId', NumberedIn s₀ ops id n paneId → NumberedIn s₀ ops id n paneId' →
        paneId = paneId') ∧
      (s₀.tabNumbers ++ tabsGiven (some s₀) ops).Nodup ∧
      ∀ e ∈ s.tabNumbers, e ∈ s₀.tabNumbers ++ tabsGiven (some s₀) ops := by
  obtain ⟨s, hrun, hvalid, hhistory⟩ := run_history h₀ ops hmoves
  exact ⟨s, hrun, hvalid, fun ws hws => Workspace.keepsActiveTab (hvalid.sound hws)
    (hvalid.workspaces ws hws).activeTab, hhistory.unique, hhistory.tabs_nodup, hhistory.tabs_mem⟩

/-- Two workspaces, a tab, a split that fails and one that does not, a pane that moves to the other
workspace, and a tab that closes. -/
def twoWorkspaces : List WorkspaceOp :=
  [.createWorkspace "/" (fun _ => true), .createWorkspace "/" (fun _ => true),
    .createTab 0 [] (fun _ => true), .splitPane 0 ⟨1⟩ .horizontal none true [] (fun _ => false),
    .splitPane 0 ⟨1⟩ .vertical none false [] (fun _ => true),
    .movePane 0 ⟨1⟩ "/" true (.newTab (workspaceIdForNumber 2) none), .closeTab 0 1]

theorem workspace_runs_two :
    ∃ s, StepRun.run step (some AppState.initial) twoWorkspaces = some s ∧ s.Valid ∧
      (∀ ws ∈ s.workspaces, ws.KeepsActiveTab) ∧
      (∀ id n paneId paneId', NumberedIn AppState.initial twoWorkspaces id n paneId →
        NumberedIn AppState.initial twoWorkspaces id n paneId' → paneId = paneId') ∧
      (AppState.initial.tabNumbers ++ tabsGiven (some AppState.initial) twoWorkspaces).Nodup ∧
      ∀ e ∈ s.tabNumbers,
        e ∈ AppState.initial.tabNumbers ++ tabsGiven (some AppState.initial) twoWorkspaces := by
  refine workspace_runs AppState.initial_valid twoWorkspaces ?_
  refine ⟨fun _ _ => trivial, fun _ _ => trivial, fun _ _ => trivial, fun _ _ => trivial,
    fun _ _ => trivial, ?_, fun _ _ => trivial, trivial⟩
  rintro t ht source -
  cases ht
  exact ⟨_, List.mem_cons_of_mem _ (List.mem_cons_self ..), rfl⟩

end WorkspaceOp

end Zynk
