import Mathlib.Algebra.Order.Ring.Int
import Zynk.Agent.Resume
import Zynk.Lib.Assoc

/-!
# Retired sessions

The two records of `terminal/state.rs` that a retired hook owner leaves :
`SuppressedHookReport` until its process is seen again, and one `StaleHookSession` for each
session it retired. Each keeps boundaries (when it was retired, when its process was last
seen gone), and a stale session the evidence that the process runs again.

An instant is an integer, a number of nanoseconds on the monotonic clock. A boundary only
moves forward and evidence is only kept while it is newer than the boundary.
-/

namespace Zynk

inductive HookSuppressionReason where
  | hookClear
  | processExit
  deriving DecidableEq, Repr

/-- The later of a boundary that may be absent and an instant. -/
def advance (boundary : Option ℤ) (observedAt : ℤ) : Option ℤ :=
  if boundary.all (· < observedAt) then some observedAt else boundary

structure SuppressedHookReport where
  agentLabel : String
  sessionRef : Option AgentSessionRef
  observedAt : ℤ
  lastLossObservedAt : Option ℤ
  reason : HookSuppressionReason
  deriving DecidableEq, Repr

namespace SuppressedHookReport

def observeProcessLoss (r : SuppressedHookReport) (observedAt : ℤ) : SuppressedHookReport :=
  { r with lastLossObservedAt := advance r.lastLossObservedAt observedAt }

end SuppressedHookReport

structure StaleHookSession where
  agentLabel : String
  sessionRef : AgentSessionRef
  freshProcessEvidence : Option ℤ
  lastLossObservedAt : Option ℤ
  retiredAt : ℤ
  deriving DecidableEq, Repr

namespace StaleHookSession

/-- What a running observation must be newer than. -/
def evidenceBoundary (s : StaleHookSession) : ℤ :=
  s.lastLossObservedAt.elim s.retiredAt fun lostAt => max lostAt s.retiredAt

def observeRetirement (s : StaleHookSession) (observedAt : ℤ) : StaleHookSession :=
  let s := { s with retiredAt := max s.retiredAt observedAt }
  if s.freshProcessEvidence.any (· ≤ s.evidenceBoundary) then
    { s with freshProcessEvidence := none }
  else s

def recordFreshProcessEvidence (s : StaleHookSession) (observedAt : ℤ) : StaleHookSession :=
  if observedAt ≤ s.evidenceBoundary then s
  else { s with freshProcessEvidence := advance s.freshProcessEvidence observedAt }

def observeProcessLoss (s : StaleHookSession) (observedAt : ℤ) : StaleHookSession :=
  let s := { s with lastLossObservedAt := advance s.lastLossObservedAt observedAt }
  if s.freshProcessEvidence.any (· ≤ observedAt) then { s with freshProcessEvidence := none }
  else s

/-- Whether an explicit session start may reclaim the session. -/
def hasReclaimableProcessEvidence (s : StaleHookSession) : Bool :=
  s.freshProcessEvidence.any (s.evidenceBoundary < ·)

end StaleHookSession

/-! ## Boundaries -/

/-- Advancing keeps the later one. -/
theorem advance_elim (boundary : Option ℤ) (observedAt floor : ℤ) :
    (advance boundary observedAt).elim floor (max · floor) =
      max (boundary.elim floor (max · floor)) observedAt := by
  cases boundary with
  | none =>
    simp only [advance, Option.all_none, if_true, Option.elim_some, Option.elim_none]
    omega
  | some lostAt =>
    by_cases h : lostAt < observedAt
    · simp only [advance, Option.all_some, h, decide_true, if_true, Option.elim_some]
      omega
    · simp only [advance, Option.all_some, h, decide_false, Bool.false_eq_true, if_false,
        Option.elim_some]
      omega

theorem advance_eq_some {boundary : Option ℤ} {observedAt newest : ℤ}
    (h : advance boundary observedAt = some newest) :
    observedAt ≤ newest ∧ (newest = observedAt ∨ boundary = some newest) := by
  unfold advance at h
  split at h
  · cases h
    exact ⟨le_refl _, Or.inl rfl⟩
  · rename_i hall
    subst h
    simp only [Option.all_some, decide_eq_true_eq, not_lt] at hall
    exact ⟨hall, Or.inr rfl⟩

/-- A boundary does not move back. -/
theorem le_of_advance_eq_some {lostAt observedAt newest : ℤ}
    (h : advance (some lostAt) observedAt = some newest) : lostAt ≤ newest := by
  unfold advance at h
  split at h
  · rename_i hall
    cases h
    simp only [Option.all_some, decide_eq_true_eq] at hall
    exact le_of_lt hall
  · cases h
    exact le_refl _

theorem advance_ne_none (boundary : Option ℤ) (observedAt : ℤ) :
    advance boundary observedAt ≠ none := by
  unfold advance
  split
  · simp
  · rename_i hall
    intro hnone
    simp [hnone] at hall

namespace StaleHookSession

variable (s : StaleHookSession) (t : ℤ)

@[simp] theorem observeRetirement_agentLabel : (s.observeRetirement t).agentLabel = s.agentLabel := by
  simp only [observeRetirement]
  split <;> rfl

@[simp] theorem observeRetirement_sessionRef : (s.observeRetirement t).sessionRef = s.sessionRef := by
  simp only [observeRetirement]
  split <;> rfl

@[simp] theorem observeProcessLoss_agentLabel :
    (s.observeProcessLoss t).agentLabel = s.agentLabel := by
  simp only [observeProcessLoss]
  split <;> rfl

@[simp] theorem observeProcessLoss_sessionRef :
    (s.observeProcessLoss t).sessionRef = s.sessionRef := by
  simp only [observeProcessLoss]
  split <;> rfl

@[simp] theorem recordFreshProcessEvidence_agentLabel :
    (s.recordFreshProcessEvidence t).agentLabel = s.agentLabel := by
  simp only [recordFreshProcessEvidence]
  split <;> rfl

@[simp] theorem recordFreshProcessEvidence_sessionRef :
    (s.recordFreshProcessEvidence t).sessionRef = s.sessionRef := by
  simp only [recordFreshProcessEvidence]
  split <;> rfl

@[simp] theorem recordFreshProcessEvidence_evidenceBoundary :
    (s.recordFreshProcessEvidence t).evidenceBoundary = s.evidenceBoundary := by
  simp only [recordFreshProcessEvidence]
  split <;> rfl

/-- A retirement moves the boundary forward. -/
@[simp] theorem observeRetirement_evidenceBoundary :
    (s.observeRetirement t).evidenceBoundary = max s.evidenceBoundary t := by
  have hmax : { s with retiredAt := max s.retiredAt t }.evidenceBoundary =
      max s.evidenceBoundary t := by
    unfold evidenceBoundary
    cases s.lastLossObservedAt with
    | none => rfl
    | some lostAt => exact (max_assoc _ _ _).symm
  simp only [observeRetirement]
  split <;> exact hmax

/-- A loss moves the boundary forward. -/
@[simp] theorem observeProcessLoss_evidenceBoundary :
    (s.observeProcessLoss t).evidenceBoundary = max s.evidenceBoundary t := by
  have h := advance_elim s.lastLossObservedAt t s.retiredAt
  simp only [observeProcessLoss]
  split <;> exact h

variable {s t}

/-- A retirement makes no evidence. -/
theorem evidence_of_observeRetirement {recordedAt : ℤ}
    (h : (s.observeRetirement t).freshProcessEvidence = some recordedAt) :
    s.freshProcessEvidence = some recordedAt := by
  simp only [observeRetirement] at h
  split at h
  · cases h
  · exact h

/-- A loss makes no evidence. -/
theorem evidence_of_observeProcessLoss {recordedAt : ℤ}
    (h : (s.observeProcessLoss t).freshProcessEvidence = some recordedAt) :
    s.freshProcessEvidence = some recordedAt := by
  simp only [observeProcessLoss] at h
  split at h
  · cases h
  · exact h

/-- New evidence is the observation. -/
theorem evidence_of_recordFreshProcessEvidence {recordedAt : ℤ}
    (h : (s.recordFreshProcessEvidence t).freshProcessEvidence = some recordedAt) :
    recordedAt = t ∨ s.freshProcessEvidence = some recordedAt := by
  simp only [recordFreshProcessEvidence] at h
  split at h
  · exact Or.inr h
  · exact (advance_eq_some h).2

theorem hasReclaimableProcessEvidence_iff :
    s.hasReclaimableProcessEvidence = true ↔
      ∃ recordedAt, s.freshProcessEvidence = some recordedAt ∧ s.evidenceBoundary < recordedAt := by
  simp [hasReclaimableProcessEvidence, Option.any_eq_true]

end StaleHookSession

end Zynk
