import Zynk.Lib.Run
import Zynk.Terminal.Session

/-!
# Evidence in any order

Observations of a retired session arrive out of order : that it was retired again, that its process
was seen gone, that it was seen running. What they come to (`StaleHookSession.summary`) is read off
the latest of each kind, and one more observation gives the summary of one more observation
(`observe_summary`). So the order in which they arrive makes no difference.
-/

namespace Zynk

/-- What is observed of a retired session, and when it was captured. -/
inductive StaleObservation where
  | retirement (observedAt : ℤ)
  | loss (observedAt : ℤ)
  | running (observedAt : ℤ)
  deriving DecidableEq, Repr

namespace StaleObservation

def retirementTime : StaleObservation → Option ℤ
  | retirement observedAt => some observedAt
  | _ => none

def lossTime : StaleObservation → Option ℤ
  | loss observedAt => some observedAt
  | _ => none

def runningTime : StaleObservation → Option ℤ
  | running observedAt => some observedAt
  | _ => none

end StaleObservation

/-! ## The latest of a list -/

theorem advance_eq (boundary : Option ℤ) (observedAt : ℤ) :
    advance boundary observedAt = some (boundary.elim observedAt (max · observedAt)) := by
  cases boundary with
  | none => rfl
  | some lostAt =>
    by_cases h : lostAt < observedAt
    · simp [advance, h, max_eq_right h.le]
    · simp [advance, h, max_eq_left (not_lt.1 h)]

theorem advance_right_comm (boundary : Option ℤ) (s t : ℤ) :
    advance (advance boundary s) t = advance (advance boundary t) s := by
  cases boundary with
  | none => simp [advance_eq, max_comm]
  | some lostAt => simp [advance_eq, max_right_comm]

theorem foldl_advance_some (lostAt : ℤ) (times : List ℤ) :
    times.foldl advance (some lostAt) = some (times.foldl max lostAt) := by
  induction times generalizing lostAt with
  | nil => rfl
  | cons t times ih =>
    rw [List.foldl_cons, List.foldl_cons, advance_eq, Option.elim_some, ih]

theorem foldl_advance (boundary : Option ℤ) (times : List ℤ) :
    times.foldl advance boundary = (boundary.toList ++ times).max? := by
  cases boundary with
  | some lostAt => exact foldl_advance_some lostAt times
  | none =>
    cases times with
    | nil => rfl
    | cons t times => exact foldl_advance_some t times

theorem foldl_max_perm {times times' : List ℤ} (h : times.Perm times') (floor : ℤ) :
    times.foldl max floor = times'.foldl max floor :=
  h.foldl_eq' (fun _ _ _ _ _ => max_right_comm _ _ _) floor

theorem foldl_advance_perm {times times' : List ℤ} (h : times.Perm times') (boundary : Option ℤ) :
    times.foldl advance boundary = times'.foldl advance boundary :=
  h.foldl_eq' (fun _ _ _ _ _ => advance_right_comm _ _ _) boundary

namespace StaleHookSession

def observe (x : StaleHookSession) : StaleObservation → StaleHookSession
  | .retirement observedAt => x.observeRetirement observedAt
  | .loss observedAt => x.observeProcessLoss observedAt
  | .running observedAt => x.recordFreshProcessEvidence observedAt

/-- What a list of observations comes to : the latest retirement, the latest loss, and the latest
running observation where it is newer than both. -/
def summary (x : StaleHookSession) (obs : List StaleObservation) : StaleHookSession :=
  let bounded : StaleHookSession := { x with
    retiredAt := (obs.filterMap StaleObservation.retirementTime).foldl max x.retiredAt
    lastLossObservedAt :=
      (obs.filterMap StaleObservation.lossTime).foldl advance x.lastLossObservedAt }
  { bounded with
    freshProcessEvidence := ((obs.filterMap StaleObservation.runningTime).foldl advance none).filter
      (bounded.evidenceBoundary < ·) }

/-! ## One more observation -/

/-- What a later boundary leaves of the evidence. Evidence is above the boundary that was, so that
it makes no difference whether it is compared with the new one or with the observation. -/
theorem filter_boundary (newest : Option ℤ) {boundary observedAt bar : ℤ}
    (hbar : bar = observedAt ∨ bar = max boundary observedAt) :
    (if (newest.filter (boundary < ·)).any (· ≤ bar) then none
      else newest.filter (boundary < ·)) = newest.filter (max boundary observedAt < ·) := by
  cases newest with
  | none => rfl
  | some seen =>
    by_cases hseen : boundary < seen
    · by_cases hobserved : observedAt < seen
      · have hnot : ¬ seen ≤ bar := by
          rcases hbar with rfl | rfl <;> omega
        simp [Option.filter_some, hseen, hobserved, hnot]
      · have hle : seen ≤ bar := by
          rcases hbar with rfl | rfl <;> omega
        simp [Option.filter_some, hseen, hobserved, hle]
    · simp [Option.filter_some, hseen]

/-- What an observation above the boundary makes of the evidence. -/
theorem advance_filter (newest : Option ℤ) (boundary observedAt : ℤ) :
    (if observedAt ≤ boundary then newest.filter (boundary < ·)
      else advance (newest.filter (boundary < ·)) observedAt) =
      (advance newest observedAt).filter (boundary < ·) := by
  cases newest with
  | none =>
    by_cases hle : observedAt ≤ boundary
    · simp [Option.filter_some, advance_eq, hle]
    · simp [Option.filter_some, advance_eq, hle, not_le.1 hle]
  | some seen =>
    by_cases hle : observedAt ≤ boundary
    · by_cases hseen : boundary < seen
      · simp [Option.filter_some, advance_eq, hle, hseen, max_eq_left (hle.trans hseen.le)]
      · simp [Option.filter_some, advance_eq, hle, hseen]
    · by_cases hseen : boundary < seen
      · simp [Option.filter_some, advance_eq, hle, hseen]
      · have hmax : max seen observedAt = observedAt := max_eq_right (by omega)
        simp [Option.filter_some, advance_eq, hle, hseen, hmax, not_le.1 hle]

theorem observe_summary (x : StaleHookSession) (obs : List StaleObservation)
    (o : StaleObservation) : (x.summary obs).observe o = x.summary (obs ++ [o]) := by
  simp only [summary, List.filterMap_append, List.foldl_append, evidenceBoundary]
  generalize (obs.filterMap StaleObservation.retirementTime).foldl max x.retiredAt = retired
  generalize (obs.filterMap StaleObservation.lossTime).foldl advance x.lastLossObservedAt = lost
  generalize (obs.filterMap StaleObservation.runningTime).foldl advance none = newest
  obtain ⟨boundary, hboundary⟩ : ∃ boundary, lost.elim retired (max · retired) = boundary :=
    ⟨_, rfl⟩
  simp only [hboundary]
  cases o with
  | retirement t =>
    have hmoved : lost.elim (max retired t) (max · (max retired t)) = max boundary t := by
      rw [← hboundary]
      cases lost with
      | none => rfl
      | some lostAt => exact (max_assoc _ _ _).symm
    have hdrop := @filter_boundary newest boundary t _ (Or.inr rfl)
    show observeRetirement _ t = ({ x with
      retiredAt := max retired t, lastLossObservedAt := lost, freshProcessEvidence :=
        newest.filter (lost.elim (max retired t) (max · (max retired t)) < ·) } : StaleHookSession)
    simp only [observeRetirement, evidenceBoundary, hmoved, ← hdrop]
    split_ifs <;> rfl
  | loss t =>
    have hmoved : (advance lost t).elim retired (max · retired) = max boundary t := by
      rw [advance_elim, hboundary]
    have hdrop := @filter_boundary newest boundary t _ (Or.inl rfl)
    show observeProcessLoss _ t = ({ x with
      retiredAt := retired, lastLossObservedAt := advance lost t, freshProcessEvidence :=
        newest.filter ((advance lost t).elim retired (max · retired) < ·) } : StaleHookSession)
    simp only [observeProcessLoss, hmoved, ← hdrop]
    split_ifs <;> rfl
  | running t =>
    show recordFreshProcessEvidence _ t = ({ x with
      retiredAt := retired, lastLossObservedAt := lost, freshProcessEvidence :=
        (advance newest t).filter (lost.elim retired (max · retired) < ·) } : StaleHookSession)
    simp only [recordFreshProcessEvidence, evidenceBoundary, hboundary, ← advance_filter]
    split_ifs <;> rfl

/-- The observations come to their summary. -/
theorem foldl_observe (x : StaleHookSession) (hnone : x.freshProcessEvidence = none)
    (obs : List StaleObservation) : obs.foldl observe x = x.summary obs := by
  induction obs using List.reverseRecOn with
  | nil =>
    obtain ⟨label, ref, evidence, lost, retired⟩ := x
    cases hnone
    rfl
  | append_singleton obs o ih =>
    rw [List.foldl_append, ih]
    exact observe_summary x obs o

theorem summary_perm (x : StaleHookSession) {obs obs' : List StaleObservation}
    (h : obs.Perm obs') : x.summary obs = x.summary obs' := by
  simp only [summary, foldl_max_perm (h.filterMap StaleObservation.retirementTime),
    foldl_advance_perm (h.filterMap StaleObservation.lossTime),
    foldl_advance_perm (h.filterMap StaleObservation.runningTime)]

/-- The newest running observation is evidence when it is newer than the boundary. -/
theorem reclaimable_summary (x : StaleHookSession) (obs : List StaleObservation) :
    (x.summary obs).hasReclaimableProcessEvidence = true ↔
      ∃ t, (obs.filterMap StaleObservation.runningTime).foldl advance none = some t ∧
        (x.summary obs).evidenceBoundary < t := by
  rw [hasReclaimableProcessEvidence_iff]
  constructor
  · rintro ⟨t, hevidence, hlt⟩
    exact ⟨t, (Option.filter_eq_some_iff.1 hevidence).1, hlt⟩
  · rintro ⟨t, hnewest, hlt⟩
    exact ⟨t, Option.filter_eq_some_iff.2 ⟨hnewest, decide_eq_true hlt⟩, hlt⟩

theorem evidenceBoundary_lt {x : StaleHookSession} {t : ℤ} :
    x.evidenceBoundary < t ↔ x.retiredAt < t ∧ ∀ l, x.lastLossObservedAt = some l → l < t := by
  unfold evidenceBoundary
  cases x.lastLossObservedAt with
  | none => simp
  | some lostAt => simp [and_comm]

/-- Observations of a session without evidence give the same state in any order : the latest
retirement, the latest loss, and as evidence the newest running observation, exactly if it is newer
than both. -/
theorem evidence_order_independent {x : StaleHookSession} (hnone : x.freshProcessEvidence = none)
    (obs : List StaleObservation) :
    (∀ obs' : List StaleObservation, obs'.Perm obs → obs'.foldl observe x = obs.foldl observe x) ∧
      (x.retiredAt :: obs.filterMap StaleObservation.retirementTime).max? =
        some (obs.foldl observe x).retiredAt ∧
      (obs.foldl observe x).lastLossObservedAt =
        (x.lastLossObservedAt.toList ++ obs.filterMap StaleObservation.lossTime).max? ∧
      ((obs.foldl observe x).hasReclaimableProcessEvidence = true ↔
        ∃ t, (obs.filterMap StaleObservation.runningTime).max? = some t ∧
          (obs.foldl observe x).retiredAt < t ∧
          ∀ l, (obs.foldl observe x).lastLossObservedAt = some l → l < t) ∧
      ((obs.foldl observe x).hasReclaimableProcessEvidence = true →
        (obs.foldl observe x).freshProcessEvidence =
          (obs.filterMap StaleObservation.runningTime).max?) := by
  have hnewest : (obs.filterMap StaleObservation.runningTime).max? =
      (obs.filterMap StaleObservation.runningTime).foldl advance none :=
    (foldl_advance none _).symm
  rw [foldl_observe x hnone obs, hnewest]
  refine ⟨fun obs' hperm => ?_, rfl, foldl_advance _ _, ?_, fun hreclaimable => ?_⟩
  · rw [foldl_observe x hnone, summary_perm x hperm]
  · simp only [reclaimable_summary, evidenceBoundary_lt]
  · obtain ⟨t, hseen, hlt⟩ := (reclaimable_summary x obs).1 hreclaimable
    rw [hseen]
    exact Option.filter_eq_some_iff.2 ⟨hseen, decide_eq_true hlt⟩

/-- A session that was retired at the instant 10. -/
def retiredAtTen : StaleHookSession where
  agentLabel := "claude"
  sessionRef := ⟨.id, "s1"⟩
  freshProcessEvidence := none
  lastLossObservedAt := none
  retiredAt := 10

theorem evidence_order_independent_three :
    (∀ obs' : List StaleObservation, obs'.Perm [.running 12, .loss 11, .retirement 9] →
        obs'.foldl observe retiredAtTen =
          [StaleObservation.running 12, .loss 11, .retirement 9].foldl observe retiredAtTen) ∧
      [StaleObservation.running 12, .loss 11, .retirement 9].foldl observe retiredAtTen =
        { retiredAtTen with freshProcessEvidence := some 12, lastLossObservedAt := some 11 } :=
  ⟨(@evidence_order_independent retiredAtTen rfl _).1, by decide⟩

end StaleHookSession

end Zynk
