import Mathlib
import Zynk.Platform.ProcessTable

/-!
# The place of a process in a tree

`place_process_in_tree` of `platform/mod.rs`, which climbs from a caller to its parent until it
meets the root of a pane. It reads one process at a time, and is the same in any monad that reads.

`Proc` is `/proc` under a changing table : before every read the next of the pending bursts of
forks, execs and exits happens. It remembers every read with the table that it saw and the one that the
read before saw. A read is `Steady` if its pid has not changed hands between the two.

A climb whose reads are steady reaches ancestors only (`climb_inside`).
-/

namespace Zynk.Platform

open StepRun ProcessTable

inductive TreePlacement where
  | inside
  | callerReplaced
  | paneRootGone
  | paneRootReplaced
  | outside
  deriving DecidableEq, Repr

def maxAncestryHops : ℕ := 64

section

variable {m : Type → Type} [Monad m]

/-- The climb of `place_process_in_tree`, with the hops that are left. -/
def climb (ancestryOf : ℕ → m (Option (ℕ × ℕ))) (rootPid : ℕ) : ℕ → ℕ → m TreePlacement
  | 0, _ => pure .outside
  | hops + 1, current =>
    if current = rootPid then pure .inside
    else if current ≤ 1 then pure .outside
    else do
      match ← ancestryOf current with
      | some (parent, _) =>
        if parent ≠ current then climb ancestryOf rootPid hops parent else pure .outside
      | none => pure .outside

def placeProcessInTree (caller paneRoot : ProcessPrincipal)
    (ancestryOf : ℕ → m (Option (ℕ × ℕ))) : m TreePlacement :=
  if caller.pid = 0 ∨ paneRoot.pid = 0 then pure .outside
  else do
    match ← ancestryOf paneRoot.pid with
    | none => pure .paneRootGone
    | some (_, startTime) =>
      if startTime ≠ paneRoot.startTime then pure .paneRootReplaced
      else
        match ← ancestryOf caller.pid with
        | none => pure .callerReplaced
        | some (_, startTime) =>
          if startTime ≠ caller.startTime then pure .callerReplaced
          else climb ancestryOf paneRoot.pid maxAncestryHops caller.pid

end

/-! ## Reads of a changing table -/

/-- A read, with the tables that the read before and it saw. -/
structure ProcRead where
  pid : ℕ
  before : ProcessTable
  after : ProcessTable

/-- The pid is held, if at all, by who held it at the read before. -/
def ProcRead.Steady (read : ProcRead) : Prop :=
  read.after.holder read.pid = none ∨ read.after.holder read.pid = read.before.holder read.pid

instance (read : ProcRead) : Decidable read.Steady :=
  inferInstanceAs (Decidable (_ ∨ _))

structure Proc where
  table : ProcessTable
  /-- What happens before each of the next reads. -/
  pending : List (List ProcessEvent)
  reads : List ProcRead := []

namespace Proc

/-- What happens before a read happens. -/
def turn (proc : Proc) (pid : ℕ) : Proc :=
  let table := run step proc.table (proc.pending.headD [])
  { table, pending := proc.pending.tail, reads := proc.reads ++ [⟨pid, proc.table, table⟩] }

def read {α : Type} (look : ProcessTable → ℕ → α) (pid : ℕ) : StateM Proc α := fun proc =>
  (look (proc.turn pid).table pid, proc.turn pid)

variable {α β : Type} {proc : Proc} {pid : ℕ}

theorem later_turn (proc : Proc) (pid : ℕ) : proc.table.Later (proc.turn pid).table :=
  later_run proc.table _

theorem sound_turn (h : proc.table.Sound) (pid : ℕ) : (proc.turn pid).table.Sound :=
  h.run _

theorem length_reads_turn (proc : Proc) (pid : ℕ) :
    (proc.turn pid).reads.length = proc.reads.length + 1 :=
  List.length_append

theorem read_bind (look : ProcessTable → ℕ → α) (f : α → StateM Proc β) :
    (read look pid >>= f) proc = f (look (proc.turn pid).table pid) (proc.turn pid) :=
  rfl

end Proc

/-! ## What a climb reaches -/

/-- A hop : the root is reached, the climb ends elsewhere, or it goes on from a parent that was
read. -/
theorem climb_cases (rootPid hops current : ℕ) (proc : Proc) :
    (current = rootPid ∧
      climb (Proc.read parentAndStartTime) rootPid (hops + 1) current proc = (.inside, proc)) ∨
    (∃ next, (next = proc ∨ next = proc.turn current) ∧
      climb (Proc.read parentAndStartTime) rootPid (hops + 1) current proc = (.outside, next)) ∨
    ∃ parent startTime,
      (proc.turn current).table.parentAndStartTime current = some (parent, startTime) ∧
      climb (Proc.read parentAndStartTime) rootPid (hops + 1) current proc =
        climb (Proc.read parentAndStartTime) rootPid hops parent (proc.turn current) := by
  rw [climb]
  split
  · rename_i hroot
    exact Or.inl ⟨hroot, rfl⟩
  · refine Or.inr ?_
    split
    · exact Or.inl ⟨proc, Or.inl rfl, rfl⟩
    · rw [Proc.read_bind]
      rcases hread : (proc.turn current).table.parentAndStartTime current with _ | ⟨parent, start⟩
      · exact Or.inl ⟨proc.turn current, Or.inr rfl, rfl⟩
      · dsimp only
        split
        · exact Or.inr ⟨parent, start, rfl, rfl⟩
        · exact Or.inl ⟨proc.turn current, Or.inr rfl, rfl⟩

theorem reads_climb (rootPid hops current : ℕ) (proc : Proc) :
    proc.reads <+: (climb (Proc.read parentAndStartTime) rootPid hops current proc).2.reads := by
  induction hops generalizing current proc with
  | zero => exact List.prefix_refl _
  | succ hops ih =>
    have hturn : proc.reads <+: (proc.turn current).reads := List.prefix_append _ _
    rcases climb_cases rootPid hops current proc with
      ⟨-, heq⟩ | ⟨next, hnext, heq⟩ | ⟨parent, start, -, heq⟩
    · exact heq ▸ List.prefix_refl _
    · rw [heq]
      rcases hnext with rfl | rfl
      · exact List.prefix_refl _
      · exact hturn
    · rw [heq]
      exact hturn.trans (ih parent _)

/-- A climb reaches ancestors only, if its reads are steady. -/
theorem climb_inside {rootPid hops current skip : ℕ} {proc last : Proc}
    {principal : ProcessPrincipal} (h : proc.table.Sound) (hskip : skip ≤ proc.reads.length)
    (hholder : proc.table.holder current = some principal)
    (hinside : climb (Proc.read parentAndStartTime) rootPid hops current proc = (.inside, last))
    (hsteady : ∀ read ∈ last.reads.drop skip, read.Steady) :
    ∃ ancestor, last.table.holder rootPid = some ancestor ∧
      ancestor.startTime ≤ principal.startTime ∧ last.table.Descends ancestor principal ∧
      proc.table.Later last.table := by
  induction hops generalizing current proc principal with
  | zero => exact absurd (congrArg Prod.fst hinside) (by simp [climb, pure, StateT.pure])
  | succ hops ih =>
    rcases climb_cases rootPid hops current proc with
      ⟨rfl, heq⟩ | ⟨next, -, heq⟩ | ⟨parent, start, hread, heq⟩ <;> rw [heq] at hinside
    · obtain rfl := (Prod.mk.inj hinside).2
      exact ⟨principal, hholder, le_rfl, Relation.ReflTransGen.refl, later_refl _⟩
    · exact absurd (Prod.mk.inj hinside).1 (by simp)
    · -- The process that is read is the one that held the pid before.
      have hmem : (⟨current, proc.table, (proc.turn current).table⟩ : ProcRead) ∈
          last.reads.drop skip := by
        obtain ⟨more, hmore⟩ := reads_climb rootPid hops parent (proc.turn current)
        rw [hinside] at hmore
        rw [← hmore, Proc.turn, List.append_assoc, List.drop_append_of_le_length hskip]
        exact List.mem_append_right _ (List.mem_cons_self)
      have hread' := holder_of_parentAndStartTime hread
      have hsame := (hsteady _ hmem).resolve_left fun hnone => by simp [hread'] at hnone
      obtain rfl := Option.some.inj (hread'.symm.trans (hsame.trans hholder))
      obtain ⟨up, hup, hlt, hdescends⟩ :=
        (Proc.sound_turn h current).holder_parent hread
      obtain ⟨ancestor, hancestor, hle, hclimb, hlater⟩ := ih (Proc.sound_turn h current)
        (by rw [Proc.length_reads_turn]; omega) hup hinside
      exact ⟨ancestor, hancestor, hle.trans hlt.le, hclimb.trans (hlater.descends hdescends),
        (Proc.later_turn proc current).trans hlater⟩

/-- The reads of a placement : the root, the caller, and those of the climb. -/
theorem placeProcessInTree_inside {caller paneRoot : ProcessPrincipal} {proc last : Proc}
    (hinside : placeProcessInTree caller paneRoot (Proc.read parentAndStartTime) proc =
      (.inside, last)) :
    (proc.turn paneRoot.pid).table.holder paneRoot.pid = some paneRoot ∧
    ((proc.turn paneRoot.pid).turn caller.pid).table.holder caller.pid = some caller ∧
    climb (Proc.read parentAndStartTime) paneRoot.pid maxAncestryHops caller.pid
      ((proc.turn paneRoot.pid).turn caller.pid) = (.inside, last) := by
  unfold placeProcessInTree at hinside
  split at hinside
  · exact absurd (congrArg Prod.fst hinside) (by simp [pure, StateT.pure])
  rw [Proc.read_bind] at hinside
  rcases hroot : (proc.turn paneRoot.pid).table.parentAndStartTime paneRoot.pid with
    _ | ⟨parent, start⟩ <;> rw [hroot] at hinside <;> dsimp only at hinside
  · exact absurd (congrArg Prod.fst hinside) (by simp [pure, StateT.pure])
  split at hinside
  · exact absurd (congrArg Prod.fst hinside) (by simp [pure, StateT.pure])
  rename_i hrootStart
  rw [Proc.read_bind] at hinside
  rcases hcaller : ((proc.turn paneRoot.pid).turn caller.pid).table.parentAndStartTime caller.pid
    with _ | ⟨parent, start⟩ <;> rw [hcaller] at hinside <;> dsimp only at hinside
  · exact absurd (congrArg Prod.fst hinside) (by simp [pure, StateT.pure])
  split at hinside
  · exact absurd (congrArg Prod.fst hinside) (by simp [pure, StateT.pure])
  rename_i hcallerStart
  obtain rfl := not_not.1 hrootStart
  obtain rfl := not_not.1 hcallerStart
  exact ⟨holder_of_parentAndStartTime hroot, holder_of_parentAndStartTime hcaller, hinside⟩

/-- A placement inside is right, if the climb is steady and the caller is not younger than the
table before the reads. -/
theorem placeProcessInTree_descends {caller paneRoot : ProcessPrincipal} {proc last : Proc}
    (h : proc.table.Sound) (hcaller : caller.startTime ≤ proc.table.clock)
    (hinside : placeProcessInTree caller paneRoot (Proc.read parentAndStartTime) proc =
      (.inside, last))
    (hsteady : ∀ read ∈ last.reads.drop (proc.reads.length + 2), read.Steady) :
    last.table.Descends paneRoot caller := by
  obtain ⟨hroot, hholder, hclimb⟩ := placeProcessInTree_inside hinside
  have hfirst := Proc.later_turn proc paneRoot.pid
  have hsecond := Proc.later_turn (proc.turn paneRoot.pid) caller.pid
  have hsound := Proc.sound_turn (Proc.sound_turn h paneRoot.pid) caller.pid
  obtain ⟨ancestor, hancestor, hle, hdescends, hlater⟩ := climb_inside hsound
    (by rw [Proc.length_reads_turn, Proc.length_reads_turn]) hholder hclimb hsteady
  -- Who holds the root's pid is older than the caller, so it held the pid when it was checked.
  have hsame := (hsecond.trans hlater).holder_of_le hancestor
    (hle.trans (hcaller.trans hfirst.clock))
  rwa [Option.some.inj (hroot.symm.trans hsame)]

end Zynk.Platform
