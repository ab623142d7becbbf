import Zynk.Api.Caller

/-!
# Sound callers

What an accepted caller is, when the process table changes between the reads of the check.

The placement of a caller pins only its two ends, and a pid on the way can change hands between the
read that names it as a parent and its own read : then the climb goes on from a process that has
nothing to do with the caller (`outsider_accepted`). If no pid does, an accepted caller is the root
or descends from it (`accepted_caller_inside`).
-/

namespace Zynk.Api

open StepRun Platform ProcessTable

/-! ## The place of a caller -/

/-- The process that connected is the root of the pane or descends from it. -/
def CallerInside (table : ProcessTable) (peer : PeerCredentials)
    (paneRoot : Option (ℕ × Option ℕ)) : Prop :=
  ∃ startTime rootPid rootStartTime, peer.startTime = some startTime ∧
    paneRoot = some (rootPid, some rootStartTime) ∧
    table.Descends ⟨rootPid, rootStartTime⟩ ⟨peer.pid, startTime⟩

theorem placeCallerInPaneTree_ok {peer : PeerCredentials} {serverUid : ℕ}
    {paneRoot : Option (ℕ × Option ℕ)} {ancestryOf : ℕ → StateM Proc (Option (ℕ × ℕ))}
    {proc last : Proc}
    (hok : placeCallerInPaneTree peer serverUid paneRoot ancestryOf proc = (.ok (), last)) :
    ∃ startTime rootPid rootStartTime, peer.startTime = some startTime ∧
      paneRoot = some (rootPid, some rootStartTime) ∧
      placeProcessInTree ⟨peer.pid, startTime⟩ ⟨rootPid, rootStartTime⟩ ancestryOf proc =
        (.inside, last) := by
  unfold placeCallerInPaneTree at hok
  split at hok
  · exact absurd (congrArg Prod.fst hok) (by simp [pure, StateT.pure])
  rcases hstart : peer.startTime with _ | startTime <;> rw [hstart] at hok
  · exact absurd (congrArg Prod.fst hok) (by simp [pure, StateT.pure])
  rcases paneRoot with _ | ⟨rootPid, _ | rootStartTime⟩
  · exact absurd (congrArg Prod.fst hok) (by simp [pure, StateT.pure])
  · exact absurd (congrArg Prod.fst hok) (by simp [pure, StateT.pure])
  · refine ⟨startTime, rootPid, rootStartTime, rfl, rfl, ?_⟩
    rcases hplace : placeProcessInTree ⟨peer.pid, startTime⟩ ⟨rootPid, rootStartTime⟩ ancestryOf
      proc with ⟨placement, next⟩
    have hresult : ((placementResult peer.pid rootPid placement, next) :
        Except CallerRejection Unit × Proc) = (.ok (), last) := by
      rw [← hok]
      simp [bind, StateT.bind, pure, StateT.pure, hplace]
    obtain ⟨hinside, rfl⟩ := Prod.mk.inj hresult
    cases placement <;> simp [placementResult] at hinside ⊢

/-- In every run, a caller that is accepted is the root of the pane or descends from it, if no pid
changes hands between the reads of the climb. -/
theorem accepted_caller_inside (bootTime pid uid serverUid : ℕ) (history : List ProcessEvent)
    (paneRoot : Option (ℕ × Option ℕ)) (pending : List (List ProcessEvent)) :
    let accepted := run step (boot bootTime) history
    let (result, last) := placeCallerInPaneTree (peerCredentials accepted pid uid) serverUid
      paneRoot (Proc.read parentAndStartTime) { table := accepted, pending }
    (∀ read ∈ last.reads.drop 2, read.Steady) → result = .ok () →
      CallerInside last.table (peerCredentials accepted pid uid) paneRoot := by
  intro accepted
  rcases hplace : placeCallerInPaneTree (peerCredentials accepted pid uid) serverUid paneRoot
    (Proc.read parentAndStartTime) { table := accepted, pending } with ⟨result, last⟩
  rintro hsteady rfl
  obtain ⟨startTime, rootPid, rootStartTime, hpeer, hroot, hinside⟩ :=
    placeCallerInPaneTree_ok hplace
  refine ⟨startTime, rootPid, rootStartTime, hpeer, hroot, ?_⟩
  have hsound := (sound_boot bootTime).run history
  obtain ⟨⟨parent, start⟩, hstat, rfl⟩ := Option.map_eq_some_iff.1 hpeer
  have hclock := hsound.startTime_le (holder_of_parentAndStartTime hstat)
  exact placeProcessInTree_descends hsound hclock hinside hsteady

/-- The root forks the caller, and another process during the check. -/
theorem accepted_caller_inside_child :
    let accepted := run step (boot 0) [.fork 1 2 0, .fork 2 3 0]
    let (_, last) := placeCallerInPaneTree (peerCredentials accepted 3 1000) 1000
      (some (2, some 1)) (Proc.read parentAndStartTime)
      { table := accepted, pending := [[], [.fork 2 4 0]] }
    CallerInside last.table (peerCredentials accepted 3 1000) (some (2, some 1)) :=
  accepted_caller_inside 0 3 1000 1000 [.fork 1 2 0, .fork 2 3 0] (some (2, some 1))
    [[], [.fork 2 4 0]] (by decide) rfl

/-- The parent of a caller exits, and its pid goes to a child of the root : the caller, which does
not descend from the root, is accepted. -/
theorem outsider_accepted :
    let accepted := run step (boot 0) [.fork 1 2 0, .fork 1 3 0, .fork 3 4 0]
    let (result, last) := placeCallerInPaneTree (peerCredentials accepted 4 1000) 1000
      (some (2, some 1)) (Proc.read parentAndStartTime)
      { table := accepted, pending := [[], [], [], [.exit 3 none, .fork 2 3 0]] }
    result = .ok () ∧ ¬ CallerInside last.table (peerCredentials accepted 4 1000)
      (some (2, some 1)) := by
  refine ⟨rfl, ?_⟩
  rintro ⟨startTime, rootPid, rootStartTime, hpeer, hroot, hdescends⟩
  obtain rfl : 3 = startTime := Option.some.inj hpeer
  obtain ⟨rfl, rfl⟩ : 2 = rootPid ∧ 1 = rootStartTime := by simpa using hroot
  -- The root forked one process, which forked none.
  have hown : ∀ principal, Relation.ReflTransGen (fun parent child => (parent, child) ∈
      [((⟨2, 1⟩, ⟨3, 4⟩) : ProcessPrincipal × ProcessPrincipal), (⟨3, 2⟩, ⟨4, 3⟩),
        (⟨1, 0⟩, ⟨3, 2⟩), (⟨1, 0⟩, ⟨2, 1⟩)]) ⟨2, 1⟩ principal →
      principal = ⟨2, 1⟩ ∨ principal = ⟨3, 4⟩ := by
    intro principal hprincipal
    induction hprincipal with
    | refl => exact Or.inl rfl
    | tail _ hfork ih => rcases ih with rfl | rfl <;> simp_all
  rcases hown _ hdescends with h | h <;> simp at h

end Zynk.Api
