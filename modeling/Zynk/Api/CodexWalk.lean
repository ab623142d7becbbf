import Zynk.Api.Caller

/-!
# The walk of a Codex hook

What `inspect_codex_ancestry_in_pane` accepts. While the table changes, a parent that is not younger
than the child that named it is the process that held the pid when it was named, so the walk reaches
ancestors only (`inspectHops_descends`). On a table that does not change, the walk and the climb of
`place_process_in_tree` both look for the first way to the root (`PathTo`) : the climb finds it
(`climb_eq_inside_iff`), and so does the walk if no daemon is on it (`inspectHops_of_pathTo`,
`inspectHops_perPane`).
-/

namespace Zynk.Api

open StepRun Platform ProcessTable

variable {caller paneRoot : ProcessPrincipal} {hop currentPid : ℕ} {seen : Assoc ℕ ℕ}
  {child : Option ProcessPrincipal}

/-! ## One hop -/

/-- The process passes the checks of a hop. -/
structure Passes (caller paneRoot : ProcessPrincipal) (hop currentPid : ℕ) (seen : Assoc ℕ ℕ)
    (child : Option ProcessPrincipal) (process : ProcessInspection) : Prop where
  caller : hop = 0 → process.principal = caller
  root : currentPid = paneRoot.pid → process.principal = paneRoot
  child : ∀ principal, child = some principal →
    process.principal.startTime ≤ principal.startTime
  seen : seen.lookup currentPid = none

/-- What the walk does with a process that passes. -/
def accepted (paneRoot : ProcessPrincipal) (process : ProcessInspection) :
    Except (Except CodexTreeError CodexAncestry) ProcessInspection :=
  if isManagedCodexDaemon process.argv then .error (.ok .sharedManagedDaemon)
  else if process.principal = paneRoot then .error (.ok .perPane)
  else .ok process

theorem codexHop_cases (inspected : Option ProcessInspection) :
    (∃ e, codexHop caller paneRoot hop currentPid seen child inspected = .error (.error e)) ∨
    ∃ process, inspected = some process ∧
      Passes caller paneRoot hop currentPid seen child process ∧
      codexHop caller paneRoot hop currentPid seen child inspected =
        accepted paneRoot process := by
  cases inspected with
  | none => exact Or.inl ⟨_, rfl⟩
  | some process =>
    simp only [codexHop]
    split
    · exact Or.inl ⟨_, rfl⟩
    · rename_i hcaller
      split
      · exact Or.inl ⟨_, rfl⟩
      · rename_i hroot
        split
        · exact Or.inl ⟨_, rfl⟩
        · rename_i hchild
          split
          · exact Or.inl ⟨_, rfl⟩
          · rename_i hseen
            refine Or.inr ⟨process, rfl, ⟨?_, ?_, fun principal hprincipal => ?_, hseen⟩, rfl⟩
            · exact fun hzero => by_contra fun hne => hcaller ⟨hzero, hne⟩
            · exact fun heq => by_contra fun hne => hroot ⟨heq, hne⟩
            · rw [hprincipal, Option.filter_some] at hchild
              by_contra hlt
              rw [if_pos (decide_eq_true (by omega))] at hchild
              exact absurd hchild (by simp)

variable {process : ProcessInspection}

theorem codexHop_of_passes (h : Passes caller paneRoot hop currentPid seen child process) :
    codexHop caller paneRoot hop currentPid seen child (some process) =
      accepted paneRoot process := by
  have hcaller : ¬ (hop = 0 ∧ process.principal ≠ caller) := fun hne => hne.2 (h.caller hne.1)
  have hroot : ¬ (currentPid = paneRoot.pid ∧ process.principal ≠ paneRoot) := fun hne =>
    hne.2 (h.root hne.1)
  have hchild : (child.filter fun child => child.startTime < process.principal.startTime) =
      none := by
    rw [Option.filter_eq_none_iff]
    intro principal hprincipal
    have := h.child principal hprincipal
    simpa using this
  simp only [codexHop, if_neg hcaller, if_neg hroot, hchild, h.seen, accepted]

theorem accepted_perPane (h : accepted paneRoot process = .error (.ok .perPane)) :
    isManagedCodexDaemon process.argv = false ∧ process.principal = paneRoot := by
  unfold accepted at h
  split at h
  · cases h
  · rename_i hmanaged
    split at h
    · rename_i hroot
      exact ⟨eq_false_of_ne_true hmanaged, hroot⟩
    · cases h

theorem accepted_shared (h : accepted paneRoot process = .error (.ok .sharedManagedDaemon)) :
    isManagedCodexDaemon process.argv = true := by
  unfold accepted at h
  split at h
  · assumption
  · split at h <;> cases h

theorem accepted_ok {process' : ProcessInspection} (h : accepted paneRoot process = .ok process') :
    process' = process ∧ isManagedCodexDaemon process.argv = false ∧
      process.principal ≠ paneRoot := by
  unfold accepted at h
  split at h
  · cases h
  · rename_i hmanaged
    split at h
    · cases h
    · rename_i hroot
      exact ⟨(Except.ok.inj h).symm, eq_false_of_ne_true hmanaged, hroot⟩

/-! ## A changing table -/

/-- A hop of the walk : an error, or a process that passes and with which the walk ends or goes
on. -/
theorem inspectHops_cases (turns : ℕ) (proc : Proc) :
    (∃ e next, inspectHops caller paneRoot (Proc.read inspection) (turns + 1) hop currentPid seen
      child proc = (.error e, next)) ∨
    ∃ process, (proc.turn currentPid).table.inspection currentPid = some process ∧
      Passes caller paneRoot hop currentPid seen child process ∧
      inspectHops caller paneRoot (Proc.read inspection) (turns + 1) hop currentPid seen child
        proc =
        match accepted paneRoot process with
        | .error result => (result, proc.turn currentPid)
        | .ok process =>
          inspectHops caller paneRoot (Proc.read inspection) turns (hop + 1) process.parentPid
            (seen.insert currentPid process.principal.startTime) (some process.principal)
            (proc.turn currentPid) := by
  rw [inspectHops]
  split
  · exact Or.inl ⟨_, _, rfl⟩
  · rw [Proc.read_bind]
    rcases @codexHop_cases caller paneRoot hop currentPid seen child
      ((proc.turn currentPid).table.inspection currentPid) with
      ⟨e, heq⟩ | ⟨process, hprocess, hpasses, heq⟩
    · rw [heq]
      exact Or.inl ⟨e, _, rfl⟩
    · refine Or.inr ⟨process, hprocess, hpasses, ?_⟩
      rw [heq]
      cases accepted paneRoot process <;> rfl

/-- The walk goes from a process to an ancestor. Before the first read it looks for the caller; then
it holds the child that named `currentPid`, and who held that pid then. -/
theorem inspectHops_descends {turns : ℕ} {proc last : Proc} (h : proc.table.Sound)
    (hclimb : hop = 0 ∧ currentPid = caller.pid ∨
      ∃ parent principal, child = some principal ∧ proc.table.holder currentPid = some parent ∧
        principal.startTime ≤ proc.table.clock ∧ proc.table.Descends parent caller)
    (hperPane : inspectHops caller paneRoot (Proc.read inspection) turns hop currentPid seen child
      proc = (.ok .perPane, last)) : last.table.Descends paneRoot caller := by
  induction turns generalizing hop currentPid seen child proc with
  | zero => exact absurd (congrArg Prod.fst hperPane) (by simp [inspectHops, pure, StateT.pure])
  | succ turns ih =>
    rcases inspectHops_cases turns proc with ⟨e, next, heq⟩ | ⟨process, hprocess, hpasses, heq⟩
    · rw [heq] at hperPane
      exact absurd (Prod.mk.inj hperPane).1 (by simp)
    have hsound := Proc.sound_turn h currentPid
    have hlater := Proc.later_turn proc currentPid
    obtain ⟨hpid, hread⟩ := inspection_eq_some hprocess
    have hholder := holder_of_parentAndStartTime hread
    have hprincipal : process.principal = ⟨currentPid, process.principal.startTime⟩ := by
      rw [← hpid]
    rw [← hprincipal] at hholder
    -- The process that was read descends from the caller.
    have hdescends : (proc.turn currentPid).table.Descends process.principal caller := by
      rcases hclimb with ⟨hzero, -⟩ | ⟨parent, principal, hchild, hparent, hclock, hdescends⟩
      · rw [hpasses.caller hzero]
        exact Relation.ReflTransGen.refl
      · have hsame := hlater.holder_of_le hholder ((hpasses.child _ hchild).trans hclock)
        rw [Option.some.inj (hsame.symm.trans hparent)]
        exact hlater.descends hdescends
    rw [heq] at hperPane
    rcases haccepted : accepted paneRoot process with result | process' <;>
      rw [haccepted] at hperPane <;> dsimp only at hperPane
    · obtain ⟨rfl, rfl⟩ := Prod.mk.inj hperPane
      rwa [(accepted_perPane haccepted).2] at hdescends
    · obtain ⟨rfl, -, -⟩ := accepted_ok haccepted
      obtain ⟨up, hup, -, hupDescends⟩ := hsound.holder_parent hread
      rw [← hprincipal] at hupDescends
      exact ih hsound (Or.inr ⟨up, process'.principal, rfl, hup, hsound.startTime_le hholder,
        hupDescends.trans hdescends⟩) hperPane

/-! ## A table that does not change -/

variable {table : ProcessTable} {root hops turns : ℕ}

theorem ancestorPid_add (i j pid : ℕ) :
    table.ancestorPid (i + j) pid = (table.ancestorPid i pid).bind (table.ancestorPid j) := by
  induction i generalizing pid with
  | zero => simp [ancestorPid]
  | succ i ih =>
    rw [Nat.succ_add, ancestorPid, ancestorPid]
    cases table.parentAndStartTime pid with
    | none => rfl
    | some stat => exact ih stat.1

/-- The root is met for the first time after some hops, and not over pid 1. -/
def PathTo (table : ProcessTable) (root : ℕ) (hops pid : ℕ) : Prop :=
  table.ancestorPid hops pid = some root ∧
    ∀ i < hops, ∀ ancestor, table.ancestorPid i pid = some ancestor → ancestor ≠ root ∧ 1 < ancestor

variable {pid parent : ℕ}

theorem pathTo_zero : PathTo table root 0 pid ↔ pid = root := by
  simp [PathTo, ancestorPid]

theorem pathTo_succ : PathTo table root (hops + 1) pid ↔ pid ≠ root ∧ 1 < pid ∧
    ∃ parent start, table.parentAndStartTime pid = some (parent, start) ∧
      PathTo table root hops parent := by
  constructor
  · rintro ⟨hroot, hbefore⟩
    obtain ⟨⟨parent, start⟩, hread, hparent⟩ := Option.bind_eq_some_iff.1 hroot
    obtain ⟨hne, hone⟩ := hbefore 0 (Nat.succ_pos _) pid rfl
    refine ⟨hne, hone, parent, start, hread, hparent, fun i hi ancestor hancestor => ?_⟩
    exact hbefore (i + 1) (by omega) ancestor (Option.bind_eq_some_iff.2 ⟨_, hread, hancestor⟩)
  · rintro ⟨hne, hone, parent, start, hread, hroot, hbefore⟩
    refine ⟨Option.bind_eq_some_iff.2 ⟨_, hread, hroot⟩, fun i hi ancestor hancestor => ?_⟩
    rcases i with _ | i
    · obtain rfl := Option.some.inj hancestor
      exact ⟨hne, hone⟩
    · obtain ⟨stat, hstat, hup⟩ := Option.bind_eq_some_iff.1 hancestor
      obtain rfl := Option.some.inj (hread.symm.trans hstat)
      exact hbefore i (by omega) ancestor hup

/-- The way to the root does not come back. -/
theorem PathTo.not_back {start i : ℕ} (h : PathTo table root (hops + 1) pid)
    (hread : table.parentAndStartTime pid = some (parent, start)) (hi : i ≤ hops) :
    table.ancestorPid i parent ≠ some pid := by
  intro hback
  have hagain : table.ancestorPid (i + 1) pid = some pid :=
    Option.bind_eq_some_iff.2 ⟨_, hread, hback⟩
  -- From `pid` again, the root is met earlier.
  have hroot := h.1
  rw [show hops + 1 = (i + 1) + (hops - i) by omega, ancestorPid_add, hagain,
    Option.bind_some] at hroot
  exact (h.2 (hops - i) (by omega) root hroot).1 rfl

theorem climb_id_succ (look : ℕ → Option (ℕ × ℕ)) (current : ℕ) :
    climb (m := Id) look root (hops + 1) current =
      if current = root then .inside
      else if current ≤ 1 then .outside
      else
        match look current with
        | some (parent, _) =>
          if parent ≠ current then climb (m := Id) look root hops parent else .outside
        | none => .outside :=
  rfl

/-- The climb finds the way to the root. -/
theorem climb_of_pathTo {i current : ℕ} (hi : i < hops) (h : PathTo table root i current) :
    climb (m := Id) table.parentAndStartTime root hops current = .inside := by
  induction hops generalizing i current with
  | zero => exact absurd hi (Nat.not_lt_zero i)
  | succ hops ih =>
    rw [climb_id_succ]
    rcases i with _ | i
    · rw [if_pos (pathTo_zero.1 h)]
    · obtain ⟨hroot, hone, parent, start, hread, hparent⟩ := pathTo_succ.1 h
      have hself : parent ≠ current := fun heq =>
        h.not_back hread (Nat.zero_le i) (congrArg some heq)
      rw [if_neg hroot, if_neg (by omega), hread]
      simp only [if_pos hself]
      exact ih (by omega) hparent

theorem pathTo_of_climb {current : ℕ}
    (h : climb (m := Id) table.parentAndStartTime root hops current = .inside) :
    ∃ i < hops, PathTo table root i current := by
  induction hops generalizing current with
  | zero => cases h
  | succ hops ih =>
    rw [climb_id_succ] at h
    split at h
    · rename_i hroot
      exact ⟨0, Nat.succ_pos _, pathTo_zero.2 hroot⟩
    · rename_i hroot
      split at h
      · cases h
      · rename_i hone
        split at h
        · rename_i parent start hread
          split at h
          · obtain ⟨i, hi, hpath⟩ := ih h
            exact ⟨i + 1, by omega, pathTo_succ.2 ⟨hroot, by omega, parent, start, hread, hpath⟩⟩
          · cases h
        · cases h

/-- A placement inside : the two ends hold their pids, and the way to the root is short enough. -/
theorem placeProcessInTree_eq_inside_iff (hcaller : 1 < caller.pid) (hroot : 1 < paneRoot.pid) :
    placeProcessInTree (m := Id) caller paneRoot table.parentAndStartTime = .inside ↔
      (∃ parent, table.parentAndStartTime paneRoot.pid = some (parent, paneRoot.startTime)) ∧
      (∃ parent, table.parentAndStartTime caller.pid = some (parent, caller.startTime)) ∧
      ∃ i < maxAncestryHops, PathTo table paneRoot.pid i caller.pid := by
  have hplace : placeProcessInTree (m := Id) caller paneRoot table.parentAndStartTime =
      (table.parentAndStartTime paneRoot.pid).elim .paneRootGone fun root =>
        if root.2 ≠ paneRoot.startTime then .paneRootReplaced
        else
          (table.parentAndStartTime caller.pid).elim .callerReplaced fun inside =>
            if inside.2 ≠ caller.startTime then .callerReplaced
            else climb (m := Id) table.parentAndStartTime paneRoot.pid maxAncestryHops
              caller.pid := by
    rw [placeProcessInTree, if_neg (by omega)]
    rcases table.parentAndStartTime paneRoot.pid with _ | root
    · rfl
    · rcases table.parentAndStartTime caller.pid with _ | inside
      · rfl
      · rfl
  rw [hplace]
  constructor
  · intro hinside
    cases hread : table.parentAndStartTime paneRoot.pid with
    | none =>
      rw [hread] at hinside
      cases hinside
    | some root =>
      rw [hread, Option.elim_some] at hinside
      split at hinside
      · cases hinside
      · rename_i hstart
        cases hread' : table.parentAndStartTime caller.pid with
        | none =>
          rw [hread'] at hinside
          cases hinside
        | some inside =>
          rw [hread', Option.elim_some] at hinside
          split at hinside
          · cases hinside
          · rename_i hstart'
            refine ⟨⟨root.1, ?_⟩, ⟨inside.1, ?_⟩, pathTo_of_climb hinside⟩
            · rw [← not_not.1 hstart]
            · rw [← not_not.1 hstart']
  · rintro ⟨⟨parent, hread⟩, ⟨parent', hread'⟩, i, hi, hpath⟩
    rw [hread, hread']
    simp only [Option.elim_some, ne_eq, not_true_eq_false, if_false]
    exact climb_of_pathTo hi hpath

/-! ### The walk -/

theorem inspectHops_id_succ (inspect : ℕ → Option ProcessInspection) :
    inspectHops (m := Id) caller paneRoot inspect (turns + 1) hop currentPid seen child =
      if currentPid ≤ 1 then .error (.pane (.outsidePane caller.pid))
      else
        match codexHop caller paneRoot hop currentPid seen child (inspect currentPid) with
        | .error result => result
        | .ok process =>
          inspectHops (m := Id) caller paneRoot inspect turns (hop + 1) process.parentPid
            (seen.insert currentPid process.principal.startTime) (some process.principal) :=
  rfl

/-- The process at the pid is a daemon that is shared. -/
def Managed (table : ProcessTable) (pid : ℕ) : Prop :=
  ∃ process, table.inspection pid = some process ∧ isManagedCodexDaemon process.argv = true

/-- A shared daemon that the walk finds is an ancestor. -/
theorem inspectHops_shared
    (h : inspectHops (m := Id) caller paneRoot table.inspection turns hop currentPid seen child =
      .ok .sharedManagedDaemon) :
    ∃ i pid, table.ancestorPid i currentPid = some pid ∧ Managed table pid := by
  induction turns generalizing hop currentPid seen child with
  | zero => cases h
  | succ turns ih =>
    rw [inspectHops_id_succ] at h
    split at h
    · cases h
    rcases codexHop_cases (table.inspection currentPid) with
      ⟨e, heq⟩ | ⟨process, hprocess, -, heq⟩ <;> rw [heq] at h
    · cases h
    rcases haccepted : accepted paneRoot process with result | process' <;>
      rw [haccepted] at h <;> dsimp only at h
    · subst h
      exact ⟨0, currentPid, rfl, process, hprocess, accepted_shared haccepted⟩
    · obtain ⟨rfl, -, -⟩ := accepted_ok haccepted
      obtain ⟨i, pid, hpid, hmanaged⟩ := ih h
      exact ⟨i + 1, pid, Option.bind_eq_some_iff.2
        ⟨_, (inspection_eq_some hprocess).2, hpid⟩, hmanaged⟩

/-- A walk that ends in the pane has met the root, and no shared daemon before. -/
theorem inspectHops_perPane
    (h : inspectHops (m := Id) caller paneRoot table.inspection turns hop currentPid seen child =
      .ok .perPane) :
    (∃ i < turns, PathTo table paneRoot.pid i currentPid ∧
      ∀ j ≤ i, ∀ pid, table.ancestorPid j currentPid = some pid → ¬ Managed table pid) ∧
    (∃ parent, table.parentAndStartTime paneRoot.pid = some (parent, paneRoot.startTime)) ∧
    (hop = 0 → ∃ parent, table.parentAndStartTime currentPid =
      some (parent, caller.startTime)) := by
  induction turns generalizing hop currentPid seen child with
  | zero => cases h
  | succ turns ih =>
    rw [inspectHops_id_succ] at h
    split at h
    · cases h
    rename_i hone
    rcases codexHop_cases (table.inspection currentPid) with
      ⟨e, heq⟩ | ⟨process, hprocess, hpasses, heq⟩ <;> rw [heq] at h
    · cases h
    obtain ⟨hpid, hread⟩ := inspection_eq_some hprocess
    have hfirst : hop = 0 → ∃ parent, table.parentAndStartTime currentPid =
        some (parent, caller.startTime) := fun hzero =>
      ⟨process.parentPid, hread.trans (by rw [hpasses.caller hzero])⟩
    have hunmanaged : isManagedCodexDaemon process.argv = false → ¬ Managed table currentPid := by
      rintro hmanaged ⟨process', hprocess', hmanaged'⟩
      obtain rfl := Option.some.inj (hprocess.symm.trans hprocess')
      exact absurd (hmanaged.symm.trans hmanaged') (by simp)
    rcases haccepted : accepted paneRoot process with result | process' <;>
      rw [haccepted] at h <;> dsimp only at h
    · subst h
      obtain ⟨hmanaged, rfl⟩ := accepted_perPane haccepted
      refine ⟨⟨0, Nat.succ_pos _, pathTo_zero.2 hpid.symm, fun j hj pid hj' => ?_⟩,
        ⟨process.parentPid, hpid ▸ hread⟩, hfirst⟩
      obtain rfl := Nat.le_zero.1 hj
      obtain rfl := Option.some.inj hj'
      exact hunmanaged hmanaged
    · obtain ⟨rfl, hmanaged, hnotRoot⟩ := accepted_ok haccepted
      obtain ⟨⟨i, hi, hpath, hclear⟩, hroot, -⟩ := ih h
      have hne : currentPid ≠ paneRoot.pid := fun heq => hnotRoot (hpasses.root heq)
      refine ⟨⟨i + 1, by omega, pathTo_succ.2 ⟨hne, by omega, _, _, hread, hpath⟩,
        fun j hj pid hj' => ?_⟩, hroot, hfirst⟩
      rcases j with _ | j
      · obtain rfl := Option.some.inj hj'
        exact hunmanaged hmanaged
      · obtain ⟨stat, hstat, hup⟩ := Option.bind_eq_some_iff.1 hj'
        obtain rfl := Option.some.inj (hread.symm.trans hstat)
        exact hclear j (by omega) pid hup

/-- Parents started no later than their children, and all arguments can be read. -/
structure Readable (table : ProcessTable) : Prop where
  parent : ∀ pid entry parent, table.live.lookup pid = some entry →
    table.live.lookup entry.parentPid = some parent → parent.startTime ≤ entry.startTime
  argv : ∀ pid entry, table.live.lookup pid = some entry → entry.argv.isSome = true

theorem readable_iff : Readable table ↔ ∀ e ∈ table.live.entries, e.2.argv.isSome = true ∧
    ∀ p ∈ table.live.entries, p.1 = e.2.parentPid → p.2.startTime ≤ e.2.startTime := by
  constructor
  · rintro ⟨hparent, hargv⟩ ⟨pid, entry⟩ he
    refine ⟨hargv pid entry (AList.mem_lookup_iff.2 he), ?_⟩
    rintro ⟨_, parent⟩ hp rfl
    exact hparent pid entry parent (AList.mem_lookup_iff.2 he) (AList.mem_lookup_iff.2 hp)
  · intro h
    refine ⟨fun pid entry parent hentry hparent => ?_, fun pid entry hentry => ?_⟩
    · exact (h _ (AList.mem_lookup_iff.1 hentry)).2 _ (AList.mem_lookup_iff.1 hparent) rfl
    · exact (h _ (AList.mem_lookup_iff.1 hentry)).1

instance : Decidable (Readable table) :=
  decidable_of_iff _ readable_iff.symm

theorem Readable.parent_le (h : Readable table) {start : ℕ} {stat : ℕ × ℕ}
    (hread : table.parentAndStartTime pid = some (parent, start))
    (hparent : table.parentAndStartTime parent = some stat) : stat.2 ≤ start := by
  obtain ⟨entry, hentry, hstat⟩ := Option.bind_eq_some_iff.1 hread
  split at hstat
  · obtain ⟨rfl, rfl⟩ := Prod.mk.inj (Option.some.inj hstat)
    obtain ⟨entry', hentry', -⟩ := Option.bind_eq_some_iff.1 hparent
    rw [startTime_of_parentAndStartTime hentry' hparent]
    exact h.parent pid entry entry' hentry hentry'
  · exact absurd hstat (by simp)

theorem Readable.inspection (h : Readable table) {start : ℕ}
    (hread : table.parentAndStartTime pid = some (parent, start)) :
    ∃ argv, table.inspection pid = some ⟨⟨pid, start⟩, parent, argv⟩ := by
  obtain ⟨entry, hentry, -⟩ := Option.bind_eq_some_iff.1 hread
  obtain ⟨argv, hargv⟩ := Option.isSome_iff_exists.1 (h.argv pid entry hentry)
  refine ⟨argv, ?_⟩
  rw [ProcessTable.inspection, hread, Option.bind_some, hentry, Option.bind_some, hargv,
    Option.map_some]

/-- The walk finds the way to the root, if no shared daemon is on it. -/
theorem inspectHops_of_pathTo (h : Readable table) (hone : 1 < paneRoot.pid) {i : ℕ}
    (hi : i < turns) (hpath : PathTo table paneRoot.pid i currentPid)
    (hroot : table.parentAndStartTime paneRoot.pid = some (parent, paneRoot.startTime))
    (hclear : ∀ j ≤ i, ∀ pid, table.ancestorPid j currentPid = some pid → ¬ Managed table pid)
    (hseen : ∀ j ≤ i, ∀ pid, table.ancestorPid j currentPid = some pid → seen.lookup pid = none)
    (hfirst : hop = 0 → currentPid = caller.pid ∧
      ∃ parent, table.parentAndStartTime currentPid = some (parent, caller.startTime))
    (hchild : ∀ principal, child = some principal → ∀ stat,
      table.parentAndStartTime currentPid = some stat → stat.2 ≤ principal.startTime) :
    inspectHops (m := Id) caller paneRoot table.inspection turns hop currentPid seen child =
      .ok .perPane := by
  induction turns generalizing hop currentPid seen child i with
  | zero => exact absurd hi (Nat.not_lt_zero i)
  | succ turns ih =>
    -- The process is the root, or on the way to it.
    obtain ⟨up, start, hread, hcurrent⟩ : ∃ up start,
        table.parentAndStartTime currentPid = some (up, start) ∧ 1 < currentPid := by
      rcases i with _ | i
      · obtain rfl := pathTo_zero.1 hpath
        exact ⟨_, _, hroot, hone⟩
      · obtain ⟨-, hcurrent, up, start, hread, -⟩ := pathTo_succ.1 hpath
        exact ⟨up, start, hread, hcurrent⟩
    obtain ⟨argv, hinspect⟩ := h.inspection hread
    have hunmanaged : isManagedCodexDaemon argv = false :=
      eq_false_of_ne_true fun hmanaged => hclear 0 (Nat.zero_le i) currentPid rfl
        ⟨_, hinspect, hmanaged⟩
    have hprincipal : currentPid = paneRoot.pid → (⟨currentPid, start⟩ : ProcessPrincipal) =
        paneRoot := by
      rintro rfl
      obtain ⟨-, rfl⟩ := Prod.mk.inj (Option.some.inj (hroot.symm.trans hread))
      rfl
    have hpasses : Passes caller paneRoot hop currentPid seen child
        ⟨⟨currentPid, start⟩, up, argv⟩ := by
      refine ⟨fun hzero => ?_, hprincipal, fun principal hprincipal' => ?_,
        hseen 0 (Nat.zero_le i) currentPid rfl⟩
      · obtain ⟨rfl, parent', hread'⟩ := hfirst hzero
        obtain ⟨-, rfl⟩ := Prod.mk.inj (Option.some.inj (hread.symm.trans hread'))
        rfl
      · exact hchild principal hprincipal' _ hread
    rw [inspectHops_id_succ, if_neg (by omega), hinspect, codexHop_of_passes hpasses, accepted,
      if_neg (by simp [hunmanaged])]
    rcases i with _ | i
    · rw [if_pos (hprincipal (pathTo_zero.1 hpath))]
    · obtain ⟨hne, -, up', start', hread', hup⟩ := pathTo_succ.1 hpath
      obtain ⟨rfl, rfl⟩ := Prod.mk.inj (Option.some.inj (hread'.symm.trans hread))
      have hnext : ∀ j ≤ i, ∀ pid, table.ancestorPid j up' = some pid →
          table.ancestorPid (j + 1) currentPid = some pid := fun j _ pid hpid =>
        Option.bind_eq_some_iff.2 ⟨_, hread, hpid⟩
      rw [if_neg fun heq => hne (congrArg ProcessPrincipal.pid heq)]
      refine ih (by omega) hup (fun j hj pid hpid => hclear (j + 1) (by omega) pid
        (hnext j hj pid hpid)) (fun j hj pid hpid => ?_) (fun hzero => absurd hzero (by omega))
        fun principal hprincipal' stat hstat => ?_
      · -- The way does not come back to the process.
        have hback : pid ≠ currentPid := fun heq => hpath.not_back hread hj (heq ▸ hpid)
        rw [AList.lookup_insert_ne hback]
        exact hseen (j + 1) (by omega) pid (hnext j hj pid hpid)
      · obtain rfl := Option.some.inj hprincipal'
        exact h.parent_le hread hstat

/-! ## Soundness and agreement -/

/-- The pid is on the chain from the caller to the root. -/
def OnChain (table : ProcessTable) (callerPid rootPid pid : ℕ) : Prop :=
  ∃ i, table.ancestorPid i callerPid = some pid ∧
    ∀ j < i, table.ancestorPid j callerPid ≠ some rootPid

theorem inspectCodexAncestryInPane_iff (h : Readable table) (hcaller : 1 < caller.pid)
    (hroot : 1 < paneRoot.pid) :
    inspectCodexAncestryInPane (m := Id) caller paneRoot table.inspection = .ok .perPane ↔
      placeProcessInTree (m := Id) caller paneRoot table.parentAndStartTime = .inside ∧
        ∀ pid, OnChain table caller.pid paneRoot.pid pid → ¬ Managed table pid := by
  rw [placeProcessInTree_eq_inside_iff hcaller hroot]
  constructor
  · intro hperPane
    obtain ⟨⟨i, hi, hpath, hclear⟩, hrootRead, hcallerRead⟩ := inspectHops_perPane hperPane
    refine ⟨⟨hrootRead, hcallerRead rfl, i, hi, hpath⟩, ?_⟩
    rintro pid ⟨j, hpid, hbefore⟩
    refine hclear j ?_ pid hpid
    by_contra hlt
    exact hbefore i (by omega) hpath.1
  · rintro ⟨⟨⟨parent, hrootRead⟩, hcallerRead, i, hi, hpath⟩, hclear⟩
    refine inspectHops_of_pathTo h hroot hi hpath hrootRead (fun j hj pid hpid => ?_)
      (fun _ _ _ _ => rfl) (fun _ => ⟨rfl, hcallerRead⟩) fun _ hnone => absurd hnone (by simp)
    refine hclear pid ⟨j, hpid, fun k hk heq => ?_⟩
    exact (hpath.2 k (by omega) paneRoot.pid heq).1 rfl

/-- The walk of a Codex hook is sound while processes fork, exec and exit between its reads : a
caller that it accepts is the root or descends from it. On a table that does not change it accepts
whom the placement accepts, if no process up to the root is a shared daemon, and it only finds a
shared daemon among the ancestors. -/
theorem codex_walk_sound :
    (∀ (bootTime : ℕ) (history : List ProcessEvent) (caller paneRoot : ProcessPrincipal)
      (pending : List (List ProcessEvent)),
      let (result, last) := inspectCodexAncestryInPane caller paneRoot (Proc.read inspection)
        { table := run step (boot bootTime) history, pending }
      result = .ok .perPane → last.table.Descends paneRoot caller) ∧
    ∀ (table : ProcessTable) (caller paneRoot : ProcessPrincipal), Readable table →
      1 < caller.pid → 1 < paneRoot.pid →
      (inspectCodexAncestryInPane (m := Id) caller paneRoot table.inspection = .ok .perPane ↔
        placeProcessInTree (m := Id) caller paneRoot table.parentAndStartTime = .inside ∧
          ∀ pid, OnChain table caller.pid paneRoot.pid pid → ¬ Managed table pid) ∧
      (inspectCodexAncestryInPane (m := Id) caller paneRoot table.inspection =
        .ok .sharedManagedDaemon →
        ∃ i pid, table.ancestorPid i caller.pid = some pid ∧ Managed table pid) := by
  refine ⟨fun bootTime history caller paneRoot pending => ?_,
    fun table caller paneRoot h hcaller hroot =>
      ⟨inspectCodexAncestryInPane_iff h hcaller hroot, inspectHops_shared⟩⟩
  rcases hinspect : inspectCodexAncestryInPane caller paneRoot (Proc.read inspection)
    { table := run step (boot bootTime) history, pending } with ⟨result, last⟩
  rintro rfl
  have hsound := (sound_boot bootTime).run history
  exact inspectHops_descends hsound (Or.inl ⟨rfl, rfl⟩) hinspect

/-- A hook that the root forked, and a daemon that init forked. -/
theorem codex_walk_sound_hook :
    let table := run step (boot 0) [.fork 1 2 0, .fork 2 3 0, .fork 1 4 0]
    table.Descends ⟨2, 1⟩ ⟨3, 2⟩ ∧
      placeProcessInTree (m := Id) ⟨3, 2⟩ ⟨2, 1⟩ table.parentAndStartTime = .inside := by
  exact ⟨codex_walk_sound.1 0 [.fork 1 2 0, .fork 2 3 0, .fork 1 4 0] ⟨3, 2⟩ ⟨2, 1⟩ [] rfl,
    ((codex_walk_sound.2 _ ⟨3, 2⟩ ⟨2, 1⟩ (by decide) (by decide) (by decide)).1.1 rfl).1⟩

end Zynk.Api
