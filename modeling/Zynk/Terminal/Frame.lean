import Zynk.Terminal.Ops

/-!
# What the parts of an operation leave alone

The retirement records (suppressed reports, stale sessions, sequences) are written by helper
functions that touch nothing else (`RecordsOnly`), so the owner, the session and the fences
of a state are read through them.
-/

namespace Zynk

namespace TerminalState

/-- `t` is `s` but for its retirement records. -/
def RecordsOnly (s t : TerminalState) : Prop :=
  t = { s with
    hookReportSequences := t.hookReportSequences
    suppressedHookReports := t.suppressedHookReports
    staleHookSessions := t.staleHookSessions }

namespace RecordsOnly

variable {s t u : TerminalState}

theorem trans (h : RecordsOnly s t) (h' : RecordsOnly t u) : RecordsOnly s u := by
  rw [RecordsOnly] at h h' ⊢
  rw [h', h]

theorem hookAuthority (h : RecordsOnly s t) : t.hookAuthority = s.hookAuthority := by
  rw [h]

theorem hookIdentity (h : RecordsOnly s t) : t.hookIdentity = s.hookIdentity := by
  rw [h]

theorem persistedAgentSession (h : RecordsOnly s t) :
    t.persistedAgentSession = s.persistedAgentSession := by
  rw [h]

theorem unansweredHookExit (h : RecordsOnly s t) : t.unansweredHookExit = s.unansweredHookExit := by
  rw [h]

theorem detectedAgent (h : RecordsOnly s t) : t.detectedAgent = s.detectedAgent := by
  rw [h]

end RecordsOnly

section

variable (s : TerminalState) (source label : String)

theorem commitHookReportAdmission_records (resetSequence : Bool) (sequenceToStore : Option ℕ) :
    RecordsOnly s (s.commitHookReportAdmission source resetSequence sequenceToStore) :=
  rfl

theorem rememberStaleHookSession_records (ref : AgentSessionRef) (retiredAt : ℤ)
    (evidence loss : Option ℤ) :
    RecordsOnly s (s.rememberStaleHookSession source label ref retiredAt evidence loss) :=
  rfl

theorem forgetStaleHookSession_records (ref : AgentSessionRef) :
    RecordsOnly s (s.forgetStaleHookSession source label ref) := by
  unfold forgetStaleHookSession
  split <;> rfl

theorem suppressHookReport_records (reason : HookSuppressionReason) (observedAt : ℤ) :
    RecordsOnly s (s.suppressHookReport source label reason observedAt) := by
  unfold suppressHookReport
  split <;> rfl

theorem suppressCurrentHookAuthority_records (reason : HookSuppressionReason) (observedAt : ℤ) :
    RecordsOnly s (s.suppressCurrentHookAuthority reason observedAt) := by
  unfold suppressCurrentHookAuthority
  split
  · split <;> rfl
  · rfl

theorem consumeSuppression_records : RecordsOnly s (s.consumeSuppression source) := by
  unfold consumeSuppression
  split
  · rfl
  · rename_i suppressed _
    cases suppressed.sessionRef <;> rfl

theorem retireSuppressedSessionAfterAccepting_records (ref : Option AgentSessionRef) :
    RecordsOnly s (s.retireSuppressedSessionAfterAccepting source label ref) := by
  have hconsume := consumeSuppression_records s source
  cases ref with
  | none => exact hconsume
  | some ref => exact hconsume.trans (forgetStaleHookSession_records _ source label ref)

theorem admitHookReport_records (ref : Option AgentSessionRef) (resetSequence : Bool)
    (sequenceToStore : Option ℕ) :
    RecordsOnly s (s.admitHookReport source label ref resetSequence sequenceToStore) := by
  unfold admitHookReport
  split
  · exact (commitHookReportAdmission_records s source resetSequence sequenceToStore).trans
      (retireSuppressedSessionAfterAccepting_records _ source label ref)
  · rfl

theorem convertSuppression_records (observedAt : ℤ) (suppressed : SuppressedHookReport) :
    RecordsOnly s (s.convertSuppression observedAt source suppressed) := by
  unfold convertSuppression
  cases suppressed.sessionRef <;> rfl

theorem foldl_convertSuppression_records (observedAt : ℤ)
    (lifted : List (Sigma fun _ : String => SuppressedHookReport)) :
    RecordsOnly s
      (lifted.foldl (fun s entry => s.convertSuppression observedAt entry.1 entry.2) s) := by
  induction lifted generalizing s with
  | nil => rfl
  | cons entry lifted ih =>
    exact (convertSuppression_records s entry.1 observedAt entry.2).trans (ih _)

theorem clearHookSuppressionForDetectedAgent_records (agent : Option Agent) (observedAt : ℤ) :
    RecordsOnly s (s.clearHookSuppressionForDetectedAgent agent observedAt) := by
  cases agent with
  | none => rfl
  | some detected =>
    have hfold := foldl_convertSuppression_records
      { s with
        suppressedHookReports := s.suppressedHookReports.filterWithKey
          fun _ suppressed => !liftsSuppression detected observedAt suppressed }
      observedAt (s.suppressedHookReports.entries.filter fun entry =>
        liftsSuppression detected observedAt entry.2)
    rw [RecordsOnly] at hfold
    simp only [clearHookSuppressionForDetectedAgent]
    rw [hfold]
    split <;> rfl

theorem observeProcessLossForRetiredOwners_records (agent : Option Agent) (processExited : Bool)
    (observedAt : ℤ) :
    RecordsOnly s (s.observeProcessLossForRetiredOwners agent processExited observedAt) :=
  rfl

theorem reclaimSession_records (ref : AgentSessionRef) (reason : Option String) :
    RecordsOnly s (s.reclaimSession source label ref reason) := by
  unfold reclaimSession
  split
  · exact forgetStaleHookSession_records s source label ref
  · rfl

theorem retireForeignSession_records (ownerConflicts : Bool) (now : ℤ) :
    RecordsOnly s (s.retireForeignSession ownerConflicts now) := by
  unfold retireForeignSession
  split <;> rfl

/-- Retiring the identity only drops it. -/
theorem retireHookIdentity_records (reason : HookSuppressionReason) (observedAt : ℤ) :
    RecordsOnly { s with hookIdentity := none } (s.retireHookIdentity reason observedAt) := by
  unfold retireHookIdentity
  cases hidentity : s.hookIdentity with
  | none =>
    simp only
    rw [← hidentity]
    rfl
  | some identity =>
    simp only
    split
    · have herase : RecordsOnly { s with hookIdentity := none }
          { s with
            hookIdentity := none
            hookReportSequences := s.hookReportSequences.erase identity.source } := rfl
      exact herase.trans
        (suppressHookReport_records _ identity.source identity.agentLabel reason observedAt)
    · exact suppressHookReport_records _ identity.source identity.agentLabel reason observedAt

end

/-! ## The suppressed reports -/

theorem forgetStaleHookSession_suppressed (s : TerminalState) (source label : String)
    (ref : AgentSessionRef) :
    (s.forgetStaleHookSession source label ref).suppressedHookReports =
      s.suppressedHookReports := by
  unfold forgetStaleHookSession
  split <;> rfl

theorem foldl_convertSuppression_suppressed (observedAt : ℤ)
    (lifted : List (Sigma fun _ : String => SuppressedHookReport)) (s : TerminalState) :
    (lifted.foldl (fun s entry => s.convertSuppression observedAt entry.1 entry.2)
      s).suppressedHookReports = s.suppressedHookReports := by
  induction lifted generalizing s with
  | nil => rfl
  | cons entry lifted ih =>
    refine (ih (s.convertSuppression observedAt entry.1 entry.2)).trans ?_
    rw [convertSuppression]
    cases entry.2.sessionRef <;> rfl

theorem clearHookSuppressionForDetectedAgent_suppressed (s : TerminalState) (detected : Agent)
    (observedAt : ℤ) :
    (s.clearHookSuppressionForDetectedAgent (some detected) observedAt).suppressedHookReports =
      s.suppressedHookReports.filterWithKey
        fun _ suppressed => !liftsSuppression detected observedAt suppressed := by
  simp only [clearHookSuppressionForDetectedAgent]
  split <;> exact foldl_convertSuppression_suppressed _ _ _

/-! ## The installed owner -/

theorem installedHookOwner_eq_some {s : TerminalState} {source label : String}
    {pendingExit : Option ℤ} (h : s.installedHookOwner = some (source, label, pendingExit)) :
    (∃ a, s.hookAuthority = some a ∧ (a.source, a.agentLabel) = (source, label) ∧
        a.unconfirmedSince = pendingExit) ∨
      ∃ i, s.hookIdentity = some i ∧ (i.source, i.agentLabel) = (source, label) ∧
        i.unconfirmedSince = pendingExit := by
  obtain ha | ⟨-, hi⟩ := Option.or_eq_some_iff.1 h
  · obtain ⟨authority, hauthority, heq⟩ := Option.map_eq_some_iff.1 ha
    simp only [Prod.mk.injEq] at heq ⊢
    exact Or.inl ⟨authority, hauthority, ⟨heq.1, heq.2.1⟩, heq.2.2⟩
  · obtain ⟨identity, hidentity, heq⟩ := Option.map_eq_some_iff.1 hi
    simp only [Prod.mk.injEq] at heq ⊢
    exact Or.inr ⟨identity, hidentity, ⟨heq.1, heq.2.1⟩, heq.2.2⟩

/-- The owner of a receipt is installed, and no exit is pending for it. -/
theorem confirmedHookOwner_eq_some {s : TerminalState} {o : String × String}
    (h : s.confirmedHookOwner = some o) :
    (∃ a, s.hookAuthority = some a ∧ (a.source, a.agentLabel) = o ∧ a.unconfirmedSince = none) ∨
      ∃ i, s.hookIdentity = some i ∧ (i.source, i.agentLabel) = o ∧ i.unconfirmedSince = none := by
  obtain ⟨⟨source, label, pendingExit⟩, hinstalled, howner⟩ := Option.bind_eq_some_iff.1 h
  simp only at howner
  split at howner
  · cases howner
  · rename_i hpending
    cases howner
    simp only [Bool.or_eq_true, not_or, Bool.not_eq_true, Option.isSome_eq_false_iff,
      Option.isNone_iff_eq_none] at hpending
    rw [hpending.1] at hinstalled
    exact installedHookOwner_eq_some hinstalled

/-! ## The stages of an observation -/

/-- The owner's own exit, on whichever of the two is there. -/
def observeOwner (s : TerminalState) (agent : Option Agent) (processExited : Bool) (now : ℤ) :
    TerminalState :=
  (if processExited then s.observeAuthorityExit agent now else s).observeIdentity agent
    processExited now

/-- What an observation does before it looks at the owner. -/
def noteObservation (s : TerminalState) (agent : Option Agent) (fallbackState : AgentState)
    (visibleBlocker processExited : Bool) (now : ℤ) : TerminalState :=
  let s := { s with detectedAgent := agent }
  let s := if processExited then s else s.clearHookSuppressionForDetectedAgent agent now
  { s with
    fallbackState
    fallbackVisibleBlocker := visibleBlocker && fallbackState == AgentState.blocked
    fallbackObservedAt := some now }

/-- What an observation does after. -/
def settleObservation (s : TerminalState) (agent previousDetectedAgent : Option Agent)
    (processExited : Bool) (now : ℤ) : TerminalState :=
  let s := s.observeProcessLossForRetiredOwners agent processExited now
  let s := if processExited then s.dropExitedSession agent else s
  s.retireReplacedAuthority agent previousDetectedAgent now

theorem takeObservation_eq (s : TerminalState) (agent : Option Agent) (fallbackState : AgentState)
    (visibleBlocker processExited : Bool) (now : ℤ) :
    s.takeObservation agent fallbackState visibleBlocker processExited now =
      ((s.noteObservation agent fallbackState visibleBlocker processExited now).observeOwner agent
        processExited now).settleObservation agent s.detectedAgent processExited now :=
  rfl

/-- `t` has the owner of `s` and its pending exits. -/
def SameOwner (t s : TerminalState) : Prop :=
  t.hookAuthority = s.hookAuthority ∧ t.hookIdentity = s.hookIdentity ∧
    t.unansweredHookExit = s.unansweredHookExit

theorem noteObservation_owner (s : TerminalState) (agent : Option Agent)
    (fallbackState : AgentState) (visibleBlocker processExited : Bool) (now : ℤ) :
    (s.noteObservation agent fallbackState visibleBlocker processExited now).SameOwner s := by
  have hlift := { s with
    detectedAgent := agent }.clearHookSuppressionForDetectedAgent_records agent now
  cases processExited with
  | true => exact ⟨rfl, rfl, rfl⟩
  | false => exact ⟨hlift.hookAuthority, hlift.hookIdentity, hlift.unansweredHookExit⟩

/-! ## Accepted operations -/

section

variable {s t : TerminalState} {source label : String} {ref : Option AgentSessionRef}
  {seq : Option ℕ} {now : ℤ}

/-- A report that is checked against retirement passes the gate. -/
theorem gate_of_planHookReportAdmission {reason : Option String} {exempt resetSequence : Bool}
    {sequenceToStore : Option ℕ}
    (h : s.planHookReportAdmission source label ref reason seq true exempt =
      .accept resetSequence sequenceToStore) :
    s.hookReportSequenceResetAfterRetirement source label ref reason = some resetSequence := by
  unfold planHookReportAdmission at h
  simp only [if_true] at h
  split at h
  · cases h
  · rename_i reset hreset
    split at h
    · cases h
    · cases h
      exact hreset

/-- An identity report that is accepted. -/
theorem recordIdentityOnlyHookReport_eq_some
    (h : s.recordIdentityOnlyHookReport source label ref seq now = some t) :
    s.currentSessionOwnerConflicts source label = false ∧
      ∃ resetSequence sequenceToStore,
        s.hookReportSequenceResetAfterRetirement source label ref none = some resetSequence ∧
        t = (s.clampSessionRef source label ref).elim
          (((s.admitHookReport source label (s.clampSessionRef source label ref) resetSequence
            sequenceToStore).installHookIdentity source label now).advanceSessionOwnerEpoch now)
          (persistAgentSession (((s.admitHookReport source label
            (s.clampSessionRef source label ref) resetSequence
            sequenceToStore).installHookIdentity source label now).advanceSessionOwnerEpoch now)
            source label) := by
  unfold recordIdentityOnlyHookReport at h
  split at h
  · cases h
  · rename_i hconflicts
    simp only [Bool.or_eq_true, not_or, Bool.not_eq_true] at hconflicts
    split at h
    · cases h
    · rename_i resetSequence sequenceToStore hplan
      cases h
      exact ⟨hconflicts.2, resetSequence, sequenceToStore, gate_of_planHookReportAdmission hplan,
        rfl⟩

/-- A state report that is accepted for the authority. -/
theorem setHookAuthority_eq_some {state : AgentState} {message : Option String}
    (hidentity : sessionIdentityOnlyIntegration source label = false)
    (h : s.setHookAuthority source label state message ref seq now = some t) :
    s.currentSessionOwnerConflicts source label = false ∧
      ∃ resetSequence sequenceToStore,
        s.hookReportSequenceResetAfterRetirement source label ref none = some resetSequence ∧
        t = ((s.admitHookReport source label (s.clampSessionRef source label ref) resetSequence
          sequenceToStore).installHookAuthority source label state message
            (s.clampSessionRef source label ref) now).recomputeEffectiveState := by
  unfold setHookAuthority at h
  rw [hidentity, if_neg Bool.false_ne_true] at h
  split at h
  · cases h
  · split at h
    · cases h
    · rename_i hconflicts
      simp only [Bool.or_eq_true, not_or, Bool.not_eq_true] at hconflicts
      simp only at h
      split at h
      · cases h
      · split at h
        · cases h
        · rename_i resetSequence sequenceToStore hplan
          cases h
          exact ⟨hconflicts.2, resetSequence, sequenceToStore,
            gate_of_planHookReportAdmission hplan, rfl⟩

/-- A session start that is accepted. -/
theorem setAgentSessionRefForSessionStart_eq_some {reason : Option String}
    {observation : Option ForegroundProcessObservation}
    (h : s.setAgentSessionRefForSessionStart source label ref seq reason observation now = some t) :
    ∃ sessionRef, ref = some sessionRef ∧
      s.sessionStartRefused source label sessionRef reason observation now = false ∧
      ∃ resetSequence sequenceToStore,
        ((s.currentSessionOwnerConflicts source label ||
            sessionIdentityOnlyIntegration source label) = true →
          s.hookReportSequenceResetAfterRetirement source label (some sessionRef) reason =
            some resetSequence) ∧
        t = ((s.commitHookReportAdmission source resetSequence sequenceToStore).anchorSessionStart
          source label sessionRef reason (s.currentSessionOwnerConflicts source label)
          now).recomputeEffectiveState := by
  unfold setAgentSessionRefForSessionStart at h
  obtain ⟨sessionRef, rfl, haccept⟩ := Option.bind_eq_some_iff.1 h
  clear h
  refine ⟨sessionRef, rfl, ?_⟩
  split at haccept
  · cases haccept
  · rename_i hrefused
    rw [Bool.not_eq_true] at hrefused
    refine ⟨hrefused, ?_⟩
    simp only at haccept
    split at haccept
    · cases haccept
    · rename_i resetSequence sequenceToStore hplan
      cases haccept
      refine ⟨resetSequence, sequenceToStore, fun hcheck => ?_, rfl⟩
      rw [hcheck] at hplan
      exact gate_of_planHookReportAdmission hplan

/-- A session start for another owner comes when no owner is installed. -/
theorem not_installed_of_sessionStart_conflicts {sessionRef : AgentSessionRef}
    {reason : Option String} {observation : Option ForegroundProcessObservation}
    (h : s.sessionStartRefused source label sessionRef reason observation now = false)
    (hconflicts : s.currentSessionOwnerConflicts source label = true) :
    s.hookAuthority = none ∧ s.hookIdentity = none := by
  have hallows : s.processObservationAllowsDifferentOwner source label sessionRef reason
      observation now = true := by
    by_contra hno
    rw [Bool.not_eq_true] at hno
    simp [sessionStartRefused, hconflicts, hno] at h
  unfold processObservationAllowsDifferentOwner at hallows
  split at hallows
  · simp only [Bool.and_eq_true, Option.isNone_iff_eq_none] at hallows
    tauto
  · cases hallows

/-- Committing sequences touches nothing else. -/
theorem foldl_commit_eq (sources : List String) (s : TerminalState) (seq : Option ℕ) :
    ∃ sequences, sources.foldl (fun s source => s.commitHookReportAdmission source false seq) s =
      { s with hookReportSequences := sequences } := by
  induction sources generalizing s with
  | nil => exact ⟨s.hookReportSequences, rfl⟩
  | cons source sources ih =>
    obtain ⟨sequences, h⟩ := ih (s.commitHookReportAdmission source false seq)
    exact ⟨sequences, h⟩

/-- A clear that is accepted. -/
theorem clearHookAuthority_eq_some {cleared : Option String}
    (h : s.clearHookAuthority cleared seq now = some t) :
    s.clearRefused cleared seq = false ∧ ∃ sequences,
      t = ({ s with hookReportSequences := sequences }.clearOwner cleared
        now).recomputeEffectiveState := by
  unfold clearHookAuthority at h
  split at h
  · cases h
  · rename_i hrefused
    rw [Bool.not_eq_true] at hrefused
    obtain ⟨sequences, hcommit⟩ := foldl_commit_eq (s.clearSequenceSources cleared) s seq
    cases h
    exact ⟨hrefused, sequences, by rw [hcommit]⟩

/-- A release that is accepted. -/
theorem releaseAgent_eq_some (h : s.releaseAgent source label seq now = some t) :
    s.releaseRefused source label = false ∧ ∃ sequences,
      t = ({ s with hookReportSequences := sequences }.releaseOwner source label
        now).recomputeEffectiveState := by
  unfold releaseAgent at h
  split at h
  · cases h
  · rename_i hrefused
    rw [Bool.not_eq_true] at hrefused
    split at h
    · cases h
    · cases h
      exact ⟨hrefused, _, rfl⟩

/-- What an observation does : it answers the exits before it, and is then ignored but for the
detected agent, or taken. -/
theorem setDetectedState_cases (s : TerminalState) (agent : Option Agent)
    (fallbackState : AgentState) (visibleBlocker processExited : Bool) (now : ℤ) :
    ∃ u, u = (if processExited then s else s.confirmPendingHookOwner agent now) ∧
      ((u.ignoresObservation agent processExited now = true ∧ ∃ detectedAgent,
          s.setDetectedState agent fallbackState visibleBlocker processExited now =
            { u with detectedAgent }.recomputeEffectiveState) ∨
        (u.ignoresObservation agent processExited now = false ∧
          s.setDetectedState agent fallbackState visibleBlocker processExited now =
            (u.takeObservation agent fallbackState visibleBlocker processExited
              now).recomputeEffectiveState)) := by
  refine ⟨_, rfl, ?_⟩
  simp only [setDetectedState, ignoresObservation]
  generalize (if processExited = true then s else s.confirmPendingHookOwner agent now) = u
  cases u.shouldIgnoreDetectedStateUnderFullLifecycleHook agent processExited with
  | true =>
    refine Or.inl ⟨rfl, ?_⟩
    simp only [if_true]
    split
    · exact ⟨agent, rfl⟩
    · exact ⟨u.detectedAgent, rfl⟩
  | false =>
    simp only [Bool.false_or, Bool.false_eq_true, if_false]
    cases !processExited && u.detectedStateObservedBeforeReleaseSuppression agent now with
    | true => exact Or.inl ⟨rfl, u.detectedAgent, rfl⟩
    | false => exact Or.inr ⟨rfl, rfl⟩

end

end TerminalState

end Zynk
