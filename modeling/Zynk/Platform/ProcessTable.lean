import Mathlib.Data.Finmap
import Zynk.Lib.Assoc
import Zynk.Lib.Run

/-!
# The process table

The processes as the kernel keeps them, and what `/proc` shows of them : a pid has a start time, a
parent and the arguments. A fork takes a free pid, which may have belonged to another process, and a
start time above all that were given. The children of a process that exits go to one of its
ancestors or to pid 1.

A pid with a start time is a principal, which is never given twice. `forks` remembers who forked
whom, also of processes that have exited; `Descends` is what follows along it. In every reachable
table the parent of a process is a living process that started before it and that it descends from
(`Sound.run`), and who holds a pid later held it before, or started after that (`later_run`).
-/

namespace Zynk.Platform

open StepRun

/-! ## Processes -/

/-- A pid together with the start time of its process. -/
structure ProcessPrincipal where
  pid : ℕ
  startTime : ℕ
  deriving DecidableEq, Repr

structure ProcessEntry where
  startTime : ℕ
  parentPid : ℕ
  /-- `none` when the arguments cannot be read. -/
  argv : Option (List String)
  deriving DecidableEq, Repr

structure ProcessTable where
  live : Assoc ℕ ProcessEntry
  /-- Parent and child of every fork, the last one first. -/
  forks : List (ProcessPrincipal × ProcessPrincipal)
  /-- The last start time. -/
  clock : ℕ

structure ProcessInspection where
  principal : ProcessPrincipal
  parentPid : ℕ
  argv : List String
  deriving DecidableEq, Repr

inductive ProcessEvent where
  /-- The process at `parent` forks one at `pid`, `ticks` after the last start time. -/
  | fork (parent pid ticks : ℕ)
  | exec (pid : ℕ) (argv : Option (List String))
  /-- The children go to pid 1, or to the ancestor that is some hops above the parent. -/
  | exit (pid : ℕ) (heir : Option ℕ)

namespace ProcessTable

/-- Only pid 1 runs. -/
def boot (startTime : ℕ) : ProcessTable :=
  { live := AList.singleton 1 { startTime, parentPid := 0, argv := some ["init"] }
    forks := []
    clock := startTime }

def holder (table : ProcessTable) (pid : ℕ) : Option ProcessPrincipal :=
  (table.live.lookup pid).map fun entry => ⟨pid, entry.startTime⟩

/-- `process_parent_and_start_time`. -/
def parentAndStartTime (table : ProcessTable) (pid : ℕ) : Option (ℕ × ℕ) :=
  (table.live.lookup pid).bind fun entry =>
    if 0 < entry.parentPid then some (entry.parentPid, entry.startTime) else none

/-- `process_inspection`. -/
def inspection (table : ProcessTable) (pid : ℕ) : Option ProcessInspection :=
  (table.parentAndStartTime pid).bind fun stat =>
    ((table.live.lookup pid).bind (·.argv)).map fun argv =>
      { principal := ⟨pid, stat.2⟩, parentPid := stat.1, argv }

/-- The pid that is some hops above. -/
def ancestorPid (table : ProcessTable) : ℕ → ℕ → Option ℕ
  | 0, pid => some pid
  | hops + 1, pid =>
    (table.parentAndStartTime pid).bind fun stat => table.ancestorPid hops stat.1

/-- Who the children of a process go to. -/
def heirPid (table : ProcessTable) (pid : ℕ) : Option ℕ → Option ℕ
  | none => some 1
  | some hops => table.ancestorPid (hops + 1) pid

/-- A process starts. -/
def add (table : ProcessTable) (parent : ProcessPrincipal) (pid : ℕ) (entry : ProcessEntry) :
    ProcessTable :=
  { live := table.live.insert pid entry
    forks := (parent, ⟨pid, entry.startTime⟩) :: table.forks
    clock := entry.startTime }

def fork (table : ProcessTable) (parent pid ticks : ℕ) : ProcessTable :=
  if pid ≤ 1 then table
  else
    match table.live.lookup parent, table.live.lookup pid with
    | some entry, none =>
      table.add ⟨parent, entry.startTime⟩ pid
        { startTime := table.clock + 1 + ticks, parentPid := parent, argv := entry.argv }
    | _, _ => table

def exec (table : ProcessTable) (pid : ℕ) (argv : Option (List String)) : ProcessTable :=
  { table with
    live := Assoc.mapWithKey (fun key entry => if key = pid then { entry with argv } else entry)
      table.live }

/-- A process goes, and its children go to `heir`. -/
def leave (table : ProcessTable) (pid heir : ℕ) : ProcessTable :=
  { table with
    live := Assoc.mapWithKey
      (fun _ entry => if entry.parentPid = pid then { entry with parentPid := heir } else entry)
      (table.live.erase pid) }

def exit (table : ProcessTable) (pid : ℕ) (heir : Option ℕ) : ProcessTable :=
  if pid = 1 ∨ table.live.lookup pid = none then table
  else
    match table.heirPid pid heir with
    | some heir => if table.live.lookup heir = none then table else table.leave pid heir
    | none => table

def step (table : ProcessTable) : ProcessEvent → ProcessTable
  | .fork parent pid ticks => table.fork parent pid ticks
  | .exec pid argv => table.exec pid argv
  | .exit pid heir => table.exit pid heir

/-- The process of the second principal is that of the first, or one of its descendants. -/
def Descends (table : ProcessTable) : ProcessPrincipal → ProcessPrincipal → Prop :=
  Relation.ReflTransGen fun parent child => (parent, child) ∈ table.forks

/-! ## Reachable tables -/

/-- Parents live, started earlier, and are ancestors. -/
structure Sound (table : ProcessTable) : Prop where
  zero : table.live.lookup 0 = none
  init : ∃ entry, table.live.lookup 1 = some entry ∧ entry.parentPid = 0
  started : ∀ {pid entry}, table.live.lookup pid = some entry → entry.startTime ≤ table.clock
  ofInit : ∀ {pid entry init}, table.live.lookup 1 = some init →
    table.live.lookup pid = some entry → pid ≠ 1 → init.startTime < entry.startTime ∧
      table.Descends ⟨1, init.startTime⟩ ⟨pid, entry.startTime⟩
  parent : ∀ {pid entry}, table.live.lookup pid = some entry → pid ≠ 1 →
    ∃ parent, table.live.lookup entry.parentPid = some parent ∧
      parent.startTime < entry.startTime ∧
      table.Descends ⟨entry.parentPid, parent.startTime⟩ ⟨pid, entry.startTime⟩

variable {table next : ProcessTable}

theorem Descends.mono (hforks : ∀ fork ∈ table.forks, fork ∈ next.forks)
    {a b : ProcessPrincipal} (h : table.Descends a b) : next.Descends a b :=
  Relation.ReflTransGen.mono (fun _ _ => hforks _) _ _ h

theorem sound_boot (startTime : ℕ) : (boot startTime).Sound := by
  have hlookup : ∀ {pid entry}, (boot startTime).live.lookup pid = some entry →
      pid = 1 ∧ entry.startTime = startTime := by
    intro pid entry h
    by_cases hpid : pid = 1
    · subst hpid
      rw [boot, AList.lookup, AList.singleton, List.dlookup_cons_eq] at h
      exact ⟨rfl, by rw [← Option.some.inj h]⟩
    · rw [boot, AList.lookup, AList.singleton, Assoc.dlookup_cons_of_ne (Ne.symm hpid)] at h
      exact absurd h (by simp)
  refine ⟨rfl, ⟨_, rfl, rfl⟩, fun h => ?_, fun _ h hpid => absurd (hlookup h).1 hpid,
    fun h hpid => absurd (hlookup h).1 hpid⟩
  exact Nat.le_of_eq (hlookup h).2

variable {pid : ℕ} {entry : ProcessEntry}

theorem Sound.ne_zero (h : table.Sound) (hentry : table.live.lookup pid = some entry) :
    pid ≠ 0 := by
  rintro rfl
  exact absurd (h.zero.symm.trans hentry) (by simp)

/-- The parent that a read shows lives, started earlier and is an ancestor. -/
theorem Sound.parentAndStartTime (h : table.Sound) {parent startTime : ℕ}
    (hread : table.parentAndStartTime pid = some (parent, startTime)) :
    ∃ entry, table.live.lookup parent = some entry ∧ entry.startTime < startTime ∧
      table.Descends ⟨parent, entry.startTime⟩ ⟨pid, startTime⟩ := by
  obtain ⟨entry, hentry, hstat⟩ := Option.bind_eq_some_iff.1 hread
  split at hstat
  · rename_i hpositive
    obtain ⟨rfl, rfl⟩ := Prod.mk.inj (Option.some.inj hstat)
    have hpid : pid ≠ 1 := by
      rintro rfl
      obtain ⟨init, hinit, hzero⟩ := h.init
      obtain rfl := Option.some.inj (hinit.symm.trans hentry)
      omega
    exact h.parent hentry hpid
  · exact absurd hstat (by simp)

theorem startTime_of_parentAndStartTime {stat : ℕ × ℕ} (hentry : table.live.lookup pid = some entry)
    (hread : table.parentAndStartTime pid = some stat) : stat.2 = entry.startTime := by
  rw [ProcessTable.parentAndStartTime, hentry, Option.bind_some] at hread
  split at hread
  · rw [← Option.some.inj hread]
  · exact absurd hread (by simp)

/-- An ancestor started earlier. -/
theorem Sound.ancestorPid (h : table.Sound) {hops ancestor : ℕ} {entry' : ProcessEntry}
    (hancestor : table.ancestorPid (hops + 1) pid = some ancestor)
    (hentry : table.live.lookup pid = some entry)
    (hentry' : table.live.lookup ancestor = some entry') : entry'.startTime < entry.startTime ∧
      table.Descends ⟨ancestor, entry'.startTime⟩ ⟨pid, entry.startTime⟩ := by
  induction hops generalizing pid entry with
  | zero =>
    obtain ⟨⟨parent, start⟩, hread, hparent⟩ := Option.bind_eq_some_iff.1 hancestor
    obtain rfl := startTime_of_parentAndStartTime hentry hread
    obtain rfl : parent = ancestor := Option.some.inj hparent
    obtain ⟨up, hup, hlt, hdescends⟩ := h.parentAndStartTime hread
    obtain rfl := Option.some.inj (hup.symm.trans hentry')
    exact ⟨hlt, hdescends⟩
  | succ hops ih =>
    obtain ⟨⟨parent, start⟩, hread, hparent⟩ := Option.bind_eq_some_iff.1 hancestor
    obtain rfl := startTime_of_parentAndStartTime hentry hread
    obtain ⟨up, hup, hlt, hdescends⟩ := h.parentAndStartTime hread
    obtain ⟨hlt', hdescends'⟩ := ih hparent hup
    exact ⟨lt_trans hlt' hlt, hdescends'.trans hdescends⟩

/-- Who gets the children of a process started before it. -/
theorem Sound.heirPid (h : table.Sound) {heir : ℕ} {hops : Option ℕ} {entry' : ProcessEntry}
    (hheir : table.heirPid pid hops = some heir) (hpid : pid ≠ 1)
    (hentry : table.live.lookup pid = some entry) (hentry' : table.live.lookup heir = some entry') :
    entry'.startTime < entry.startTime ∧
      table.Descends ⟨heir, entry'.startTime⟩ ⟨pid, entry.startTime⟩ := by
  cases hops with
  | none =>
    obtain rfl := Option.some.inj hheir
    exact h.ofInit hentry' hentry hpid
  | some hops => exact h.ancestorPid hheir hentry hentry'

/-! ### Steps -/

/-- The process that is added, or one that was there. -/
theorem lookup_add {parent : ProcessPrincipal} {key : ℕ} {child : ProcessEntry}
    (hentry : (table.add parent pid child).live.lookup key = some entry) :
    key = pid ∧ entry = child ∨ key ≠ pid ∧ table.live.lookup key = some entry := by
  rw [add] at hentry
  by_cases hkey : key = pid
  · subst hkey
    rw [AList.lookup_insert] at hentry
    exact Or.inl ⟨rfl, (Option.some.inj hentry).symm⟩
  · rw [AList.lookup_insert_ne hkey] at hentry
    exact Or.inr ⟨hkey, hentry⟩

theorem Sound.add (h : table.Sound) {parentPid : ℕ} {parent child : ProcessEntry} (hpid : 1 < pid)
    (hparent : table.live.lookup parentPid = some parent) (hfree : table.live.lookup pid = none)
    (hclock : table.clock < child.startTime) (hchild : child.parentPid = parentPid) :
    (table.add ⟨parentPid, parent.startTime⟩ pid child).Sound := by
  have hmono : ∀ {a b}, table.Descends a b →
      (table.add ⟨parentPid, parent.startTime⟩ pid child).Descends a b := fun hdescends =>
    hdescends.mono fun _ => List.mem_cons_of_mem _
  have hkeep : ∀ {key entry}, table.live.lookup key = some entry →
      (table.add ⟨parentPid, parent.startTime⟩ pid child).live.lookup key = some entry := by
    intro key entry hkey
    have hne : key ≠ pid := by
      rintro rfl
      exact absurd (hfree.symm.trans hkey) (by simp)
    exact (AList.lookup_insert_ne hne).trans hkey
  have hnew : (table.add ⟨parentPid, parent.startTime⟩ pid child).Descends
      ⟨parentPid, parent.startTime⟩ ⟨pid, child.startTime⟩ :=
    Relation.ReflTransGen.single List.mem_cons_self
  constructor
  · exact (AList.lookup_insert_ne (by omega)).trans h.zero
  · obtain ⟨init, hinit, hzero⟩ := h.init
    exact ⟨init, hkeep hinit, hzero⟩
  · intro key entry hentry
    rcases lookup_add hentry with ⟨-, rfl⟩ | ⟨-, hentry⟩
    · exact le_rfl
    · exact (h.started hentry).trans hclock.le
  · intro key entry init hinit hentry hkey
    obtain ⟨old, hold, -⟩ := h.init
    obtain rfl := Option.some.inj ((hkeep hold).symm.trans hinit)
    rcases lookup_add hentry with ⟨rfl, rfl⟩ | ⟨-, hentry⟩
    · refine ⟨(h.started hold).trans_lt hclock, ?_⟩
      by_cases hone : parentPid = 1
      · subst hone
        rw [Option.some.inj (hold.symm.trans hparent)]
        exact hnew
      · exact (hmono (h.ofInit hold hparent hone).2).trans hnew
    · exact ⟨(h.ofInit hold hentry hkey).1, hmono (h.ofInit hold hentry hkey).2⟩
  · intro key entry hentry hkey
    rcases lookup_add hentry with ⟨rfl, rfl⟩ | ⟨-, hentry⟩
    · subst hchild
      exact ⟨parent, hkeep hparent, (h.started hparent).trans_lt hclock, hnew⟩
    · obtain ⟨up, hup, hlt, hdescends⟩ := h.parent hentry hkey
      exact ⟨up, hkeep hup, hlt, hmono hdescends⟩

theorem Sound.fork (h : table.Sound) (parent pid ticks : ℕ) :
    (table.fork parent pid ticks).Sound := by
  unfold ProcessTable.fork
  split
  · exact h
  · split
    · rename_i hpid entry hparent hfree
      exact h.add (by omega) hparent hfree (show table.clock < table.clock + 1 + ticks by omega) rfl
    · exact h

/-- Processes may go, and others get an ancestor as their parent. -/
theorem Sound.relink (h : table.Sound) (hforks : next.forks = table.forks)
    (hclock : next.clock = table.clock)
    (hinit : ∃ entry, next.live.lookup 1 = some entry ∧ entry.parentPid = 0)
    (hlookup : ∀ {pid entry}, next.live.lookup pid = some entry →
      ∃ old, table.live.lookup pid = some old ∧ entry.startTime = old.startTime)
    (hparent : ∀ {pid entry}, next.live.lookup pid = some entry → pid ≠ 1 →
      ∃ parent, next.live.lookup entry.parentPid = some parent ∧
        parent.startTime < entry.startTime ∧
        table.Descends ⟨entry.parentPid, parent.startTime⟩ ⟨pid, entry.startTime⟩) :
    next.Sound := by
  have hmono : ∀ {a b}, table.Descends a b → next.Descends a b := fun hdescends =>
    hdescends.mono fun _ hfork => hforks ▸ hfork
  constructor
  · by_contra hzero
    obtain ⟨entry, hentry⟩ := Option.ne_none_iff_exists'.1 hzero
    obtain ⟨old, hold, -⟩ := hlookup hentry
    exact h.ne_zero hold rfl
  · exact hinit
  · intro pid entry hentry
    obtain ⟨old, hold, hstart⟩ := hlookup hentry
    rw [hstart, hclock]
    exact h.started hold
  · intro pid entry init hinit hentry hpid
    obtain ⟨oldInit, holdInit, hinitStart⟩ := hlookup hinit
    obtain ⟨old, hold, hstart⟩ := hlookup hentry
    rw [hinitStart, hstart]
    exact ⟨(h.ofInit holdInit hold hpid).1, hmono (h.ofInit holdInit hold hpid).2⟩
  · intro pid entry hentry hpid
    obtain ⟨parent, hup, hlt, hdescends⟩ := hparent hentry hpid
    exact ⟨parent, hup, hlt, hmono hdescends⟩

theorem lookup_exec {key : ℕ} {argv : Option (List String)} :
    (table.exec pid argv).live.lookup key = some entry ↔
      ∃ old, table.live.lookup key = some old ∧
        entry = if key = pid then { old with argv } else old := by
  rw [exec, Assoc.lookup_mapWithKey, Option.map_eq_some_iff]
  simp only [eq_comm]

theorem Sound.exec (h : table.Sound) (pid : ℕ) (argv : Option (List String)) :
    (table.exec pid argv).Sound := by
  have hsame : ∀ key (old : ProcessEntry),
      (if key = pid then { old with argv } else old).startTime = old.startTime ∧
        (if key = pid then { old with argv } else old).parentPid = old.parentPid := by
    intro key old
    split <;> exact ⟨rfl, rfl⟩
  refine h.relink rfl rfl ?_ (fun hentry => ?_) fun {key entry} hentry hkey => ?_
  · obtain ⟨init, hinit, hzero⟩ := h.init
    exact ⟨_, lookup_exec.2 ⟨init, hinit, rfl⟩, (hsame 1 init).2.trans hzero⟩
  · obtain ⟨old, hold, rfl⟩ := lookup_exec.1 hentry
    exact ⟨old, hold, (hsame _ old).1⟩
  · obtain ⟨old, hold, rfl⟩ := lookup_exec.1 hentry
    obtain ⟨parent, hparent, hlt, hdescends⟩ := h.parent hold hkey
    rw [(hsame key old).1, (hsame key old).2]
    refine ⟨_, lookup_exec.2 ⟨parent, hparent, rfl⟩, ?_⟩
    rw [(hsame old.parentPid parent).1]
    exact ⟨hlt, hdescends⟩

theorem lookup_leave {heir key : ℕ} : (table.leave pid heir).live.lookup key = some entry ↔
      key ≠ pid ∧ ∃ old, table.live.lookup key = some old ∧
        entry = if old.parentPid = pid then { old with parentPid := heir } else old := by
  rw [leave, Assoc.lookup_mapWithKey, Option.map_eq_some_iff]
  by_cases hkey : key = pid
  · subst hkey
    simp
  · simp only [AList.lookup_erase_ne hkey, hkey, ne_eq, not_false_iff, true_and, eq_comm]

theorem Sound.leave (h : table.Sound) {heir : ℕ} {gone : ProcessEntry} (hpid : pid ≠ 1)
    (hgone : table.live.lookup pid = some gone) (hto : table.live.lookup heir = some entry)
    (hheir : entry.startTime < gone.startTime ∧
      table.Descends ⟨heir, entry.startTime⟩ ⟨pid, gone.startTime⟩) :
    (table.leave pid heir).Sound := by
  have hstart : ∀ old : ProcessEntry,
      (if old.parentPid = pid then { old with parentPid := heir } else old).startTime =
        old.startTime := by
    intro old
    split <;> rfl
  refine h.relink rfl rfl ?_ (fun hentry => ?_) fun {key entry} hentry hkey => ?_
  · obtain ⟨init, hinit, hzero⟩ := h.init
    refine ⟨init, lookup_leave.2 ⟨hpid.symm, init, hinit, ?_⟩, hzero⟩
    rw [if_neg (hzero ▸ (h.ne_zero hgone).symm)]
  · obtain ⟨-, old, hold, rfl⟩ := lookup_leave.1 hentry
    exact ⟨old, hold, hstart old⟩
  · obtain ⟨-, old, hold, rfl⟩ := lookup_leave.1 hentry
    obtain ⟨parent, hparent, hlt, hdescends⟩ := h.parent hold hkey
    by_cases hchild : old.parentPid = pid
    · -- A child of the process goes to the heir.
      subst hchild
      obtain rfl := Option.some.inj (hgone.symm.trans hparent)
      have hne : heir ≠ old.parentPid := by
        rintro rfl
        rw [Option.some.inj (hto.symm.trans hgone)] at hheir
        exact lt_irrefl _ hheir.1
      rw [if_pos rfl]
      refine ⟨_, lookup_leave.2 ⟨hne, _, hto, rfl⟩, ?_⟩
      rw [hstart]
      exact ⟨lt_trans hheir.1 hlt, hheir.2.trans hdescends⟩
    · rw [if_neg hchild]
      refine ⟨_, lookup_leave.2 ⟨hchild, parent, hparent, rfl⟩, ?_⟩
      rw [hstart]
      exact ⟨hlt, hdescends⟩

theorem Sound.exit (h : table.Sound) (pid : ℕ) (heir : Option ℕ) : (table.exit pid heir).Sound := by
  unfold ProcessTable.exit
  split
  · exact h
  · rename_i hpid
    obtain ⟨hone, hlive⟩ := not_or.1 hpid
    obtain ⟨gone, hgone⟩ := Option.ne_none_iff_exists'.1 hlive
    split
    · rename_i ancestor hheir
      split
      · exact h
      · rename_i hto
        obtain ⟨entry, hto⟩ := Option.ne_none_iff_exists'.1 hto
        exact h.leave hone hgone hto (h.heirPid hheir hone hgone hto)
    · exact h

theorem Sound.step (h : table.Sound) (event : ProcessEvent) : (table.step event).Sound := by
  cases event with
  | fork parent pid ticks => exact h.fork parent pid ticks
  | exec pid argv => exact h.exec pid argv
  | exit pid heir => exact h.exit pid heir

/-- Every reachable table is sound. -/
theorem Sound.run (h : table.Sound) (events : List ProcessEvent) :
    (StepRun.run ProcessTable.step table events).Sound :=
  run_invariant (fun _ event h => h.step event) h events

/-! ### What a table becomes -/

/-- Who holds a pid held it before, or started after the table. The forks stay. -/
structure Later (table next : ProcessTable) : Prop where
  forks : ∀ fork ∈ table.forks, fork ∈ next.forks
  clock : table.clock ≤ next.clock
  holder : ∀ {pid principal}, next.holder pid = some principal →
    table.holder pid = some principal ∨ table.clock < principal.startTime

theorem later_refl (table : ProcessTable) : table.Later table :=
  ⟨fun _ => id, le_rfl, Or.inl⟩

theorem Later.trans {last : ProcessTable} (h : table.Later next) (h' : next.Later last) :
    table.Later last where
  forks fork hfork := h'.forks fork (h.forks fork hfork)
  clock := h.clock.trans h'.clock
  holder hholder := by
    rcases h'.holder hholder with hnext | hnew
    · exact h.holder hnext
    · exact Or.inr (h.clock.trans_lt hnew)

/-- The processes that are left keep their start times. -/
theorem later_of_lookup (hforks : next.forks = table.forks) (hclock : next.clock = table.clock)
    (hlookup : ∀ {pid entry}, next.live.lookup pid = some entry →
      ∃ old, table.live.lookup pid = some old ∧ entry.startTime = old.startTime) :
    table.Later next where
  forks fork hfork := hforks ▸ hfork
  clock := hclock.ge
  holder hholder := by
    obtain ⟨entry, hentry, rfl⟩ := Option.map_eq_some_iff.1 hholder
    obtain ⟨old, hold, hstart⟩ := hlookup hentry
    exact Or.inl (Option.map_eq_some_iff.2 ⟨old, hold, by rw [hstart]⟩)

theorem later_add {parent : ProcessPrincipal} {child : ProcessEntry}
    (hclock : table.clock < child.startTime) : table.Later (table.add parent pid child) where
  forks fork hfork := List.mem_cons_of_mem _ hfork
  clock := hclock.le
  holder hholder := by
    obtain ⟨entry, hentry, rfl⟩ := Option.map_eq_some_iff.1 hholder
    rcases lookup_add hentry with ⟨-, rfl⟩ | ⟨-, hentry⟩
    · exact Or.inr hclock
    · exact Or.inl (Option.map_eq_some_iff.2 ⟨entry, hentry, rfl⟩)

theorem later_step (table : ProcessTable) (event : ProcessEvent) :
    table.Later (table.step event) := by
  cases event with
  | fork parent pid ticks =>
    simp only [step, fork]
    split
    · exact later_refl table
    · split
      · exact later_add (show table.clock < table.clock + 1 + ticks by omega)
      · exact later_refl table
  | exec pid argv =>
    refine later_of_lookup rfl rfl fun hentry => ?_
    obtain ⟨old, hold, rfl⟩ := lookup_exec.1 hentry
    refine ⟨old, hold, ?_⟩
    split <;> rfl
  | exit pid heir =>
    simp only [step, exit]
    split
    · exact later_refl table
    · split
      · split
        · exact later_refl table
        · refine later_of_lookup rfl rfl fun hentry => ?_
          obtain ⟨-, old, hold, rfl⟩ := lookup_leave.1 hentry
          refine ⟨old, hold, ?_⟩
          split <;> rfl
      · exact later_refl table

theorem later_run (table : ProcessTable) (events : List ProcessEvent) :
    table.Later (StepRun.run step table events) := by
  induction events generalizing table with
  | nil => exact later_refl table
  | cons event events ih => exact (later_step table event).trans (ih _)

/-! ### What a read shows -/

theorem holder_of_parentAndStartTime {parent startTime : ℕ}
    (hread : table.parentAndStartTime pid = some (parent, startTime)) :
    table.holder pid = some ⟨pid, startTime⟩ := by
  obtain ⟨entry, hentry, hstat⟩ := Option.bind_eq_some_iff.1 hread
  split at hstat
  · obtain ⟨-, rfl⟩ := Prod.mk.inj (Option.some.inj hstat)
    exact Option.map_eq_some_iff.2 ⟨entry, hentry, rfl⟩
  · exact absurd hstat (by simp)

theorem Sound.startTime_le (h : table.Sound) {principal : ProcessPrincipal}
    (hholder : table.holder pid = some principal) : principal.startTime ≤ table.clock := by
  obtain ⟨entry, hentry, rfl⟩ := Option.map_eq_some_iff.1 hholder
  exact h.started hentry

/-- The parent that a read shows is a process that started earlier, and an ancestor. -/
theorem Sound.holder_parent (h : table.Sound) {parent startTime : ℕ}
    (hread : table.parentAndStartTime pid = some (parent, startTime)) :
    ∃ principal, table.holder parent = some principal ∧ principal.startTime < startTime ∧
      table.Descends principal ⟨pid, startTime⟩ := by
  obtain ⟨entry, hentry, hlt, hdescends⟩ := h.parentAndStartTime hread
  exact ⟨_, Option.map_eq_some_iff.2 ⟨entry, hentry, rfl⟩, hlt, hdescends⟩

theorem inspection_eq_some {process : ProcessInspection}
    (hread : table.inspection pid = some process) : process.principal.pid = pid ∧
      table.parentAndStartTime pid = some (process.parentPid, process.principal.startTime) := by
  obtain ⟨stat, hstat, hargv⟩ := Option.bind_eq_some_iff.1 hread
  obtain ⟨argv, -, rfl⟩ := Option.map_eq_some_iff.1 hargv
  exact ⟨rfl, hstat⟩

/-- A process that is not younger than the table was there. -/
theorem Later.holder_of_le (h : table.Later next) {principal : ProcessPrincipal}
    (hholder : next.holder pid = some principal) (hle : principal.startTime ≤ table.clock) :
    table.holder pid = some principal :=
  (h.holder hholder).resolve_right (by omega)

theorem Later.descends (h : table.Later next) {a b : ProcessPrincipal}
    (hdescends : table.Descends a b) : next.Descends a b :=
  hdescends.mono h.forks

end ProcessTable

end Zynk.Platform
