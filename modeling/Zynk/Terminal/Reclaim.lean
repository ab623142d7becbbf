import Zynk.Terminal.Retired

/-!
# How a retired session comes back

A session that was retired is current again only after a session start that names it
(`retired_session_reclaimed`). Where the gate is asked, for an identity-only owner or for one
that takes over from another, the start has a reason to replace on and the agent was seen
running after the retirement and after every loss since. The start of a full-lifecycle owner
on its own terminal is not gated.
-/

namespace Zynk

namespace TerminalState

open StaleHookSession

/-! ## Evidence along a run -/

section

variable {E : String → ℤ → Prop} {s : TerminalState}

/-- Answering exits does not change whether an observation is ignored. -/
theorem ignoresObservation_confirmPendingHookOwner (s : TerminalState) (detected : Option Agent)
    (at' : ℤ) (agent : Option Agent) (processExited : Bool) (now : ℤ) :
    (s.confirmPendingHookOwner detected at').ignoresObservation agent processExited now =
      s.ignoresObservation agent processExited now := by
  cases detected with
  | none => rfl
  | some detected =>
    have hlive : (s.confirmPendingHookOwner (some detected) at').liveFullLifecycleHookAuthority =
        s.liveFullLifecycleHookAuthority := by
      simp only [liveFullLifecycleHookAuthority, confirmPendingHookOwner, Option.any_map]
      refine congrArg (fun p => s.hookAuthority.any p) (funext fun authority => ?_)
      split <;> rfl
    have hconflicts : (s.confirmPendingHookOwner (some detected)
        at').hookAuthorityConflictsWithDetectedAgent agent =
        s.hookAuthorityConflictsWithDetectedAgent agent := by
      simp only [hookAuthorityConflictsWithDetectedAgent, confirmPendingHookOwner, Option.any_map]
      refine congrArg (fun p => s.hookAuthority.any p) (funext fun authority => ?_)
      split <;> rfl
    simp only [ignoresObservation, shouldIgnoreDetectedStateUnderFullLifecycleHook, hlive,
      hconflicts]
    rfl

theorem Evident.admitHookReport (h : s.Evident E) (source label : String)
    (ref : Option AgentSessionRef) (resetSequence : Bool) (sequenceToStore : Option ℕ) :
    (s.admitHookReport source label ref resetSequence sequenceToStore).Evident E := by
  have hcommit : (s.commitHookReportAdmission source resetSequence sequenceToStore).Evident E :=
    h.of_eq rfl
  unfold TerminalState.admitHookReport
  split
  · exact hcommit.retireSuppressedSessionAfterAccepting source label ref
  · exact hcommit

theorem Evident.anchorSessionStart (h : s.Evident E) (source label : String)
    (ref : AgentSessionRef) (reason : Option String) (ownerConflicts : Bool) (now : ℤ) :
    (s.anchorSessionStart source label ref reason ownerConflicts now).Evident E := by
  have hnone (label : String) : ∀ e : ℤ, none = some e → E label e := fun e he => by cases he
  have hreclaim : (s.reclaimSession source label ref reason).Evident E := by
    unfold reclaimSession
    split
    · exact h.forgetStaleHookSession source label ref
    · exact h
  have hreplace (replaced : Option AgentSessionRef) : ((s.reclaimSession source label ref
      reason).retireReplacedSession source label replaced now).Evident E := by
    cases replaced with
    | none => exact hreclaim
    | some other =>
      exact (hreclaim.rememberStaleHookSession source label other now (hnone label) none).of_eq rfl
  simp only [TerminalState.anchorSessionStart]
  have hreplaced := hreplace (s.sameOwnerFullLifecycleHookAuthoritySessionRef source label ref)
  generalize ((s.reclaimSession source label ref reason).retireReplacedSession source label
    (s.sameOwnerFullLifecycleHookAuthoritySessionRef source label ref) now) = u at hreplaced ⊢
  have hforeign : (u.retireForeignSession ownerConflicts now).Evident E := by
    unfold retireForeignSession
    split
    · exact hreplaced.rememberStaleHookSession _ _ _ now (hnone _) none
    · exact hreplaced
  generalize u.retireForeignSession ownerConflicts now = v at hforeign ⊢
  have hidentity : (v.anchorIdentity source label ref now).Evident E := by
    unfold anchorIdentity
    split
    · exact (hforeign.retireSuppressedSessionAfterAccepting source label (some ref)).of_eq rfl
    · exact hforeign
  exact hidentity.of_eq rfl

theorem Evident.clearOwner (h : s.Evident E) (source : Option String) (now : ℤ) :
    (s.clearOwner source now).Evident E := by
  have hsuppress : (if s.shouldClearAuthority source then
      s.suppressCurrentHookAuthority .hookClear now else s).Evident E := by
    split
    · exact h.suppressCurrentHookAuthority .hookClear now
    · exact h
  simp only [TerminalState.clearOwner]
  generalize (if s.shouldClearAuthority source = true then
    s.suppressCurrentHookAuthority .hookClear now else s) = u at hsuppress ⊢
  generalize (if s.shouldClearIdentity source = true then s.hookIdentity else none) = cleared
  have hretire : (if cleared.isSome then u.retireHookIdentity .hookClear now else u).Evident E := by
    split
    · exact hsuppress.retireHookIdentity .hookClear now
    · exact hsuppress
  generalize (if cleared.isSome = true then u.retireHookIdentity .hookClear now else u) = v
    at hretire ⊢
  split
  · exact hretire.of_eq rfl
  · split
    · split
      · exact hretire.of_eq rfl
      · exact hretire
    · split
      · exact hretire.of_eq rfl
      · exact hretire

theorem Evident.takeObservation (h : s.Evident E) {agent : Option Agent} {processExited : Bool}
    {now : ℤ}
    (hseen : processExited = false → ∀ label detected, agent = some detected →
      parseAgentLabel label = some detected → E label now)
    (fallbackState : AgentState) (visibleBlocker : Bool) :
    (s.takeObservation agent fallbackState visibleBlocker processExited now).Evident E := by
  rw [takeObservation_eq]
  have hnoted : (s.noteObservation agent fallbackState visibleBlocker processExited now).Evident
      E := by
    unfold noteObservation
    have hdetected : { s with detectedAgent := agent }.Evident E := h.of_eq rfl
    cases processExited with
    | true => exact hdetected.of_eq rfl
    | false => exact (hdetected.clearHookSuppressionForDetectedAgent (hseen rfl)).of_eq rfl
  generalize s.noteObservation agent fallbackState visibleBlocker processExited now = u at hnoted ⊢
  have hexit : (if processExited then u.observeAuthorityExit agent now else u).Evident E := by
    split
    · unfold observeAuthorityExit
      split
      · split
        · exact hnoted
        · split
          · exact (hnoted.suppressCurrentHookAuthority .processExit now).of_eq rfl
          · exact hnoted.of_eq rfl
      · exact hnoted
    · exact hnoted
  have howner : (u.observeOwner agent processExited now).Evident E := by
    unfold observeOwner
    generalize (if processExited = true then u.observeAuthorityExit agent now else u) = v
      at hexit ⊢
    unfold observeIdentity
    split
    · split
      · split
        · exact hexit.retireHookIdentity _ now
        · exact hexit.of_eq rfl
      · split
        · exact hexit.retireHookIdentity _ now
        · exact hexit
    · exact hexit
  generalize u.observeOwner agent processExited now = v at howner ⊢
  have hloss := howner.observeProcessLossForRetiredOwners agent processExited now
  have hdrop : (if processExited then (v.observeProcessLossForRetiredOwners agent processExited
      now).dropExitedSession agent else v.observeProcessLossForRetiredOwners agent processExited
      now).Evident E := by
    split
    · refine hloss.of_eq ?_
      unfold dropExitedSession
      split <;> rfl
    · exact hloss
  simp only [settleObservation]
  generalize (if processExited = true then (v.observeProcessLossForRetiredOwners agent
    processExited now).dropExitedSession agent else v.observeProcessLossForRetiredOwners agent
    processExited now) = w at hdrop ⊢
  unfold retireReplacedAuthority
  split
  · split
    · exact (hdrop.suppressCurrentHookAuthority .hookClear now).of_eq rfl
    · exact hdrop
  · exact hdrop

/-- Evidence is recorded by a running observation that is taken, and by nothing else. -/
theorem step_evident (h : s.Evident E) (event : TerminalEvent)
    (hseen : ∀ agent fallbackState visibleBlocker now label,
      event = .observe (some agent) fallbackState visibleBlocker false now →
      s.ignoresObservation (some agent) false now = false → parseAgentLabel label = some agent →
      E label now) : (s.step event).Evident E := by
  unfold step
  cases hhandle : s.handle event with
  | none => exact h
  | some t =>
    rw [Option.getD_some]
    cases event with
    | hookReport source label state message ref seq now =>
      cases hidentity : sessionIdentityOnlyIntegration source label with
      | true =>
        have hrecord : s.recordIdentityOnlyHookReport source label ref seq now = some t := by
          rw [← hhandle, handle, setHookAuthority, if_pos hidentity]
        obtain ⟨-, resetSequence, sequenceToStore, -, rfl⟩ :=
          recordIdentityOnlyHookReport_eq_some hrecord
        have hadmit := h.admitHookReport source label (s.clampSessionRef source label ref)
          resetSequence sequenceToStore
        generalize s.clampSessionRef source label ref = clamped at hadmit ⊢
        generalize s.admitHookReport source label clamped resetSequence sequenceToStore = admitted
          at hadmit ⊢
        cases clamped with
        | none => exact hadmit.of_eq rfl
        | some ref => exact hadmit.of_eq rfl
      | false =>
        obtain ⟨-, resetSequence, sequenceToStore, -, rfl⟩ :=
          setHookAuthority_eq_some hidentity hhandle
        exact (h.admitHookReport source label (s.clampSessionRef source label ref) resetSequence
          sequenceToStore).of_eq rfl
    | sessionStart source label ref seq reason observation now =>
      obtain ⟨ref, rfl, -, resetSequence, sequenceToStore, -, rfl⟩ :=
        setAgentSessionRefForSessionStart_eq_some hhandle
      have hcommit : (s.commitHookReportAdmission source resetSequence sequenceToStore).Evident E :=
        h.of_eq rfl
      exact (hcommit.anchorSessionStart source label ref reason _ now).of_eq rfl
    | clear source seq now =>
      obtain ⟨-, sequences, rfl⟩ := clearHookAuthority_eq_some hhandle
      have hcommit : { s with hookReportSequences := sequences }.Evident E := h.of_eq rfl
      exact (hcommit.clearOwner source now).of_eq rfl
    | release source label seq now =>
      obtain ⟨-, sequences, rfl⟩ := releaseAgent_eq_some hhandle
      have hcommit : { s with hookReportSequences := sequences }.Evident E := h.of_eq rfl
      exact (hcommit.suppressHookReport source label .hookClear now).of_eq rfl
    | observe agent fallbackState visibleBlocker processExited now =>
      cases hhandle
      obtain ⟨u, hu, hresult⟩ := s.setDetectedState_cases agent fallbackState visibleBlocker
        processExited now
      have hconfirmed : u.Evident E ∧ u.ignoresObservation agent processExited now =
          s.ignoresObservation agent processExited now := by
        rw [hu]
        split
        · exact ⟨h, rfl⟩
        · refine ⟨h.of_eq ?_, ignoresObservation_confirmPendingHookOwner s agent now _ _ _⟩
          cases agent <;> rfl
      obtain ⟨-, detectedAgent, heq⟩ | ⟨htaken, heq⟩ := hresult
      · rw [heq]
        exact hconfirmed.1.of_eq rfl
      · rw [heq]
        rw [hconfirmed.2] at htaken
        refine Evident.of_eq (Evident.takeObservation hconfirmed.1 ?_ fallbackState visibleBlocker)
          rfl
        rintro rfl label detected rfl hlabel
        exact hseen detected fallbackState visibleBlocker now label rfl htaken hlabel

end

/-! ## Observations of a run -/

/-- A running observation of the agent, captured at `t`, is taken. -/
def SeesRunning (agent : Agent) (t : ℤ) (s : TerminalState) : TerminalEvent → Prop
  | .observe observed _ _ false capturedAt => observed = some agent ∧ capturedAt = t ∧
      s.ignoresObservation observed false capturedAt = false
  | _ => False

/-- An observation that shows the agent of the label gone, captured at `t`, is taken. -/
def SeesLoss (label : String) (t : ℤ) (s : TerminalState) : TerminalEvent → Prop
  | .observe observed _ _ processExited capturedAt => showsLossOf observed processExited label ∧
      capturedAt = t ∧ s.ignoresObservation observed processExited capturedAt = false
  | _ => False

/-- The agent of the label was seen running at `t`. -/
def SeenRunning (label : String) (t : ℤ) (events : List TerminalEvent) : Prop :=
  ∃ agent, parseAgentLabel label = some agent ∧
    StepRun.Occurs step (fun _ => SeesRunning agent t) .new events

/-- All evidence of a reachable state is of a process that was seen. -/
theorem run_evident (events : List TerminalEvent) :
    (StepRun.run step .new events).Evident fun label t => SeenRunning label t events := by
  induction events using List.reverseRecOn with
  | nil =>
    intro k x hx
    cases hx
  | append_singleton events event ih =>
    rw [StepRun.run_snoc]
    have hmono : (StepRun.run step .new events).Evident
        fun label t => SeenRunning label t (events ++ [event]) := by
      intro k x hx e he
      obtain ⟨agent, hlabel, hoccurs⟩ := ih k x hx e he
      exact ⟨agent, hlabel, StepRun.occurs_snoc.2 (Or.inl hoccurs)⟩
    refine step_evident hmono event ?_
    rintro agent fallbackState visibleBlocker now label rfl htaken hlabel
    exact ⟨agent, hlabel, StepRun.occurs_snoc.2 (Or.inr ⟨rfl, rfl, htaken⟩)⟩

/-! ## The retirement -/

/-- The session is the live owner's : the authority names it, or the identity anchors it. -/
def AnchoredLive (s : TerminalState) (o : String × String) (ref : AgentSessionRef) : Prop :=
  s.authoritySession = some (o.1, o.2, some ref) ∨ s.identityOwner = some o

/-- The event retires the current session `ref` of the owner, at `r` : a release of the owner,
or a clear or an exit while the session is the live owner's. -/
def Retires (s : TerminalState) (o : String × String) (ref : AgentSessionRef) (r : ℤ)
    (event : TerminalEvent) : Prop :=
  s.currentSessionIdentityForPersistence = some (o.1, o.2, ref) ∧
    (s.step event).currentSessionIdentityForPersistence ≠ some (o.1, o.2, ref) ∧
    match event with
    | .release source label _ now => (source, label) = o ∧ now = r
    | .clear _ _ now => s.AnchoredLive o ref ∧ now = r
    | .observe _ _ _ true capturedAt => s.AnchoredLive o ref ∧ capturedAt = r
    | _ => False

section

variable {s t : TerminalState} {o : String × String} {ref : AgentSessionRef} {r : ℤ}

theorem ownedSessionRef_of_current
    (h : s.currentSessionIdentityForPersistence = some (o.1, o.2, ref)) :
    s.ownedSessionRef o.1 o.2 = some ref := by
  obtain ha | ⟨hnone, hp⟩ := Option.or_eq_some_iff.1 h
  · obtain ⟨authority, hauthority, href⟩ := Option.bind_eq_some_iff.1 ha
    obtain ⟨sessionRef, hsession, heq⟩ := Option.map_eq_some_iff.1 href
    simp only [Prod.mk.injEq] at heq
    simp only [ownedSessionRef, hauthority, Option.bind_some, heq.1, heq.2.1, and_self, if_true,
      hsession, Option.some_or, heq.2.2]
  · obtain ⟨session, hsession, heq⟩ := Option.map_eq_some_iff.1 hp
    simp only [Prod.mk.injEq] at heq
    have hauthority : (s.hookAuthority.bind fun authority =>
        if authority.source = o.1 ∧ authority.agentLabel = o.2 then authority.sessionRef
        else none) = none := by
      cases hauthority : s.hookAuthority with
      | none => rfl
      | some authority =>
        rw [hauthority, Option.bind_some, Option.map_eq_none_iff] at hnone
        simp only [Option.bind_some, hnone, ite_self]
    rw [ownedSessionRef, hauthority, Option.none_or, hsession]
    simp [heq.1, heq.2.1, heq.2.2]

/-- With no authority, the session that is not current anchors nothing. -/
theorem unanchored_of_not_current (hnone : s.authoritySession = none)
    (h : s.currentSessionIdentityForPersistence ≠ some (o.1, o.2, ref)) : s.Unanchored o ref := by
  refine ⟨fun ha => ?_, fun hp => h ?_⟩
  · rw [hnone] at ha
    cases ha
  · have hauthority : s.hookAuthority = none := Option.map_eq_none_iff.1 hnone
    rw [currentSessionIdentityForPersistence, hauthority, hp]
    rfl

theorem currentSession_of_authoritySession (h : s.authoritySession = some (o.1, o.2, some ref)) :
    s.currentSessionIdentityForPersistence = some (o.1, o.2, ref) := by
  obtain ⟨authority, hauthority, heq⟩ := Option.map_eq_some_iff.1 h
  simp only [Prod.mk.injEq] at heq
  rw [currentSessionIdentityForPersistence, hauthority, Option.bind_some, heq.2.2]
  simp [heq.1, heq.2.1]

/-- The retirement puts the session on record. -/
theorem suppressHookReportWithSessionRef_self (s : TerminalState) (o : String × String)
    (ref : AgentSessionRef) (reason : HookSuppressionReason) (r : ℤ) :
    let t := s.suppressHookReportWithSessionRef o.1 o.2 (some ref) reason r
    t.StaleAfter o ref (· = r) ∧ t.SuppressedAfter o ref (· = r) := by
  have hlist := staleSessions_mapWithKey s o.1 (fun key stales =>
    if key = o.1 then
      stales.map fun x => if x.agentLabel = o.2 then x.observeRetirement r else x
    else stales) (by simp)
  simp only [if_true] at hlist
  refine ⟨fun x' hx' hof b hb => ?_, _, AList.lookup_insert s.suppressedHookReports, rfl, rfl,
    fun b hb => Or.inl ?_⟩
  · have hx' : x' ∈ (s.staleSessions o.1).map fun x =>
        if x.agentLabel = o.2 then x.observeRetirement r else x := hlist ▸ hx'
    obtain ⟨x, hx, rfl⟩ := List.mem_map.1 hx'
    have hlabel : x.agentLabel = o.2 := by
      rw [← hof.1]
      split <;> simp
    rw [if_pos hlabel, hb]
    simp
  · exact Int.le_of_eq hb

/-- The retirement is on record in a state that differs from it in other fields. -/
theorem recorded_of_suppress {u : TerminalState} (reason : HookSuppressionReason)
    (hstale : t.staleHookSessions =
      (u.suppressHookReportWithSessionRef o.1 o.2 (some ref) reason r).staleHookSessions)
    (hsuppressed : t.suppressedHookReports =
      (u.suppressHookReportWithSessionRef o.1 o.2 (some ref) reason r).suppressedHookReports)
    (hnot : t.NotInstalled o) : t.Recorded o ref (· = r) := by
  obtain ⟨hafter, hrecord⟩ := u.suppressHookReportWithSessionRef_self o ref reason r
  have hkeeps : Keeps o ref (u.suppressHookReportWithSessionRef o.1 o.2 (some ref) reason r) t :=
    .of_eq (by rw [staleSessions, hstale, staleSessions])
  refine ⟨hkeeps.staleAfter _ hafter, Or.inr ⟨?_, hnot⟩⟩
  unfold SuppressedAfter
  rw [hsuppressed]
  exact hrecord

/-- The authority is suppressed with its session. -/
theorem suppressCurrentHookAuthority_eq (hcoherent : s.Coherent)
    (happlies : hookReportRetirementApplies o.1 o.2 = true)
    (h : s.authoritySession = some (o.1, o.2, some ref)) (reason : HookSuppressionReason) :
    s.suppressCurrentHookAuthority reason r =
      s.suppressHookReportWithSessionRef o.1 o.2 (some ref) reason r := by
  have howner : s.authorityOwner = some o := by
    rw [authorityOwner_eq_map, h]
    rfl
  have hfull : fullLifecycleHookAuthority o.1 o.2 = true := by
    simpa [hookReportRetirementApplies, hcoherent.authority o howner] using happlies
  obtain ⟨authority, hauthority, heq⟩ := Option.map_eq_some_iff.1 h
  simp only [Prod.mk.injEq] at heq
  unfold suppressCurrentHookAuthority
  rw [hauthority]
  simp only
  rw [heq.1, heq.2.1, heq.2.2, if_pos hfull]

theorem suppressHookReport_eq (happlies : hookReportRetirementApplies o.1 o.2 = true)
    (h : s.ownedSessionRef o.1 o.2 = some ref) (reason : HookSuppressionReason) :
    s.suppressHookReport o.1 o.2 reason r =
      s.suppressHookReportWithSessionRef o.1 o.2 (some ref) reason r := by
  rw [suppressHookReport, if_pos happlies, h]

theorem suppressHookReport_recorded (happlies : hookReportRetirementApplies o.1 o.2 = true)
    (h : s.ownedSessionRef o.1 o.2 = some ref) {reason : HookSuppressionReason}
    (hnot : (s.suppressHookReport o.1 o.2 reason r).NotInstalled o) :
    (s.suppressHookReport o.1 o.2 reason r).Recorded o ref (· = r) := by
  rw [suppressHookReport_eq happlies h] at hnot ⊢
  exact recorded_of_suppress reason rfl rfl hnot

theorem releaseOwner_guarded (happlies : hookReportRetirementApplies o.1 o.2 = true)
    (hcurrent : s.currentSessionIdentityForPersistence = some (o.1, o.2, ref)) :
    (s.releaseOwner o.1 o.2 r).Guarded o ref (· = r) := by
  have hsuppress := suppressHookReport_eq (r := r) happlies (ownedSessionRef_of_current hcurrent)
    .hookClear
  have hnot : (s.releaseOwner o.1 o.2 r).NotInstalled o := by
    refine ⟨(fun h => by cases h), fun h => ?_⟩
    obtain ⟨identity, hfilter, hsome⟩ := Option.map_eq_some_iff.1 h
    have hother := (Option.filter_eq_some_iff.1 hfilter).2
    simp [← hsome] at hother
  refine ⟨⟨(fun h => by cases h), fun h => ?_⟩, recorded_of_suppress (u := s)
    .hookClear ?_ ?_ hnot⟩
  · have hother := (Option.filter_eq_some_iff.1 h).2
    simp at hother
  · rw [← hsuppress]
    rfl
  · rw [← hsuppress]
    rfl

/-- An identity that is there has no authority beside it. -/
theorem Coherent.authoritySession_none (hcoherent : s.Coherent)
    (h : s.identityOwner = some o) : s.authoritySession = none := by
  obtain hnone | hnone := hcoherent.exclusive
  · rw [authorityOwner_eq_map, Option.map_eq_none_iff] at hnone
    exact hnone
  · rw [h] at hnone
    cases hnone

theorem Coherent.hookIdentity_none (hcoherent : s.Coherent)
    {x : String × String × Option AgentSessionRef} (h : s.authoritySession = some x) :
    s.hookIdentity = none := by
  obtain hnone | hnone := hcoherent.exclusive
  · rw [authorityOwner_eq_map, h] at hnone
    cases hnone
  · exact Option.map_eq_none_iff.1 hnone

/-- The session an identity anchors is the persisted one. -/
theorem persisted_of_current (hnone : s.authoritySession = none)
    (hcurrent : s.currentSessionIdentityForPersistence = some (o.1, o.2, ref)) :
    s.persistedAgentSession = some { source := o.1, agent := o.2, sessionRef := ref } := by
  have hauthority : s.hookAuthority = none := Option.map_eq_none_iff.1 hnone
  rw [currentSessionIdentityForPersistence, hauthority, Option.bind_none, Option.none_or] at hcurrent
  obtain ⟨session, hsession, heq⟩ := Option.map_eq_some_iff.1 hcurrent
  simp only [Prod.mk.injEq] at heq
  rw [hsession, ← heq.1, ← heq.2.1, ← heq.2.2]

/-- The identity goes, and its session with it on record. -/
theorem retireHookIdentity_recorded (happlies : hookReportRetirementApplies o.1 o.2 = true)
    (hidentity : s.identityOwner = some o) (hnone : s.authoritySession = none)
    (hcurrent : s.currentSessionIdentityForPersistence = some (o.1, o.2, ref))
    (reason : HookSuppressionReason) :
    (s.retireHookIdentity reason r).Recorded o ref (· = r) := by
  have hrecords := s.retireHookIdentity_records reason r
  have hnot : (s.retireHookIdentity reason r).NotInstalled o := by
    constructor
    · rw [authorityOwner, hrecords.hookAuthority]
      intro h
      have hauthority : s.hookAuthority = none := Option.map_eq_none_iff.1 hnone
      rw [hauthority] at h
      cases h
    · rw [identityOwner, hrecords.hookIdentity]
      intro h
      cases h
  have howned := ownedSessionRef_of_current hcurrent
  obtain ⟨identity, hsome, rfl⟩ := Option.map_eq_some_iff.1 hidentity
  unfold retireHookIdentity at hnot ⊢
  rw [hsome] at hnot ⊢
  simp only at hnot ⊢
  split at hnot
  · rename_i hexit
    rw [if_pos hexit]
    refine suppressHookReport_recorded (o := (identity.source, identity.agentLabel)) happlies ?_
      hnot
    exact howned
  · rename_i hexit
    rw [if_neg hexit]
    refine suppressHookReport_recorded (o := (identity.source, identity.agentLabel)) happlies ?_
      hnot
    exact howned

theorem clearOwner_guarded (happlies : hookReportRetirementApplies o.1 o.2 = true)
    (hcoherent : s.Coherent) (hanchored : s.AnchoredLive o ref)
    (hcurrent : s.currentSessionIdentityForPersistence = some (o.1, o.2, ref))
    {source : Option String}
    (hcleared : (s.clearOwner source r).currentSessionIdentityForPersistence ≠
      some (o.1, o.2, ref)) : (s.clearOwner source r).Guarded o ref (· = r) := by
  obtain ha | hi := hanchored
  · have hidentity := hcoherent.hookIdentity_none ha
    have hkeepsIdentity : s.shouldClearIdentity source = false := by
      rw [shouldClearIdentity, hidentity]
      rfl
    cases hclears : s.shouldClearAuthority source with
    | false =>
      refine absurd (currentSession_of_authoritySession ?_) hcleared
      simp only [clearOwner, hclears, hkeepsIdentity, Bool.false_eq_true, if_false,
        Option.isSome_none]
      split <;> exact ha
    | true =>
      have hsuppress := suppressCurrentHookAuthority_eq (r := r) hcoherent happlies ha .hookClear
      simp only [clearOwner, hclears, hkeepsIdentity, Bool.false_eq_true, if_false,
        Option.isSome_none, if_true]
      refine ⟨⟨(fun h => by cases h), fun h => by cases h⟩, recorded_of_suppress (u := s)
        .hookClear ?_ ?_ ⟨(fun h => by cases h), fun h => ?_⟩⟩
      · rw [← hsuppress]
      · rw [← hsuppress]
      · have hrecords := s.suppressCurrentHookAuthority_records .hookClear r
        rw [identityOwner, hrecords.hookIdentity, hidentity] at h
        cases h
  · have hnone := hcoherent.authoritySession_none hi
    have hpersisted := persisted_of_current hnone hcurrent
    have hauthority : s.hookAuthority = none := Option.map_eq_none_iff.1 hnone
    have hkeepsAuthority : s.shouldClearAuthority source = false := by
      rw [shouldClearAuthority, hauthority]
      rfl
    have hrecorded := retireHookIdentity_recorded (r := r) happlies hi hnone hcurrent .hookClear
    obtain ⟨identity, hidentity, howner⟩ := Option.map_eq_some_iff.1 hi
    cases hclears : s.shouldClearIdentity source with
    | false =>
      -- The persisted session has the source of the identity, and is not cleared either.
      have hkeeps : s.shouldClearPersistedSession source = false := by
        rw [shouldClearIdentity, hidentity, Option.any_some] at hclears
        rw [shouldClearPersistedSession, hpersisted, Option.any_some, ← hclears, ← howner]
      refine absurd ?_ hcleared
      simp only [clearOwner, hkeepsAuthority, hclears, hkeeps, Bool.false_eq_true, if_false,
        Option.isSome_none]
      exact hcurrent
    | true =>
      have hshrinks := s.clearOwner_shrinks source r
      have hnone' : (s.clearOwner source r).authoritySession = none := by
        rw [Option.eq_none_iff_forall_ne_some]
        intro x hx
        rw [hshrinks.authority x hx] at hnone
        cases hnone
      refine ⟨unanchored_of_not_current hnone' hcleared, ?_⟩
      simp only [clearOwner, hkeepsAuthority, hclears, hidentity, Bool.false_eq_true, if_false,
        Option.isSome_some, if_true]
      split
      · exact hrecorded.of_eq rfl rfl id
      · exact hrecorded

/-- The session of an authority that stays, or gives way to another agent, is current still. -/
theorem settleObservation_current_of_authority
    (h : s.authoritySession = some (o.1, o.2, some ref)) (agent previous : Option Agent)
    (processExited : Bool) (now : ℤ) :
    (s.settleObservation agent previous processExited now).currentSessionIdentityForPersistence =
      some (o.1, o.2, ref) := by
  simp only [settleObservation]
  have hkept : (if processExited then (s.observeProcessLossForRetiredOwners agent processExited
      now).dropExitedSession agent else s.observeProcessLossForRetiredOwners agent processExited
      now).authoritySession = some (o.1, o.2, some ref) := by
    rw [← h]
    split
    · unfold dropExitedSession
      split <;> rfl
    · rfl
  generalize (if processExited = true then (s.observeProcessLossForRetiredOwners agent
    processExited now).dropExitedSession agent else s.observeProcessLossForRetiredOwners agent
    processExited now) = u at hkept ⊢
  unfold retireReplacedAuthority
  obtain ⟨authority, hauthority, heq⟩ := Option.map_eq_some_iff.1 hkept
  simp only [Prod.mk.injEq] at heq
  rw [hauthority]
  simp only
  split
  · simp only [currentSessionIdentityForPersistence, Option.bind_none, Option.none_or, heq.2.2,
      Option.map_some, heq.1, heq.2.1]
  · exact currentSession_of_authoritySession hkept

/-- The session an identity anchors is current as long as it is there. -/
theorem settleObservation_current_of_identity (hi : s.identityOwner = some o)
    (hnone : s.authoritySession = none)
    (hp : s.persistedAgentSession = some { source := o.1, agent := o.2, sessionRef := ref })
    (agent previous : Option Agent) (processExited : Bool) (now : ℤ) :
    (s.settleObservation agent previous processExited now).currentSessionIdentityForPersistence =
      some (o.1, o.2, ref) := by
  have hauthority : s.hookAuthority = none := Option.map_eq_none_iff.1 hnone
  have hanchored : (s.observeProcessLossForRetiredOwners agent processExited
      now).persistedSessionIsAnchoredByHookIdentity = true := by
    obtain ⟨identity, hidentity, rfl⟩ := Option.map_eq_some_iff.1 hi
    show s.persistedSessionIsAnchoredByHookIdentity = true
    simp [persistedSessionIsAnchoredByHookIdentity, persistedAgentSessionMatches, hidentity, hp]
  have hkept : (if processExited then (s.observeProcessLossForRetiredOwners agent processExited
      now).dropExitedSession agent else s.observeProcessLossForRetiredOwners agent processExited
      now) = s.observeProcessLossForRetiredOwners agent processExited now := by
    split
    · simp [dropExitedSession, hanchored]
    · rfl
  simp only [settleObservation, hkept]
  have hnone' : (s.observeProcessLossForRetiredOwners agent processExited now).hookAuthority =
      none := hauthority
  unfold retireReplacedAuthority
  rw [hnone']
  simp only [currentSessionIdentityForPersistence, hnone', Option.bind_none, Option.none_or]
  show s.persistedAgentSession.map _ = _
  rw [hp]
  rfl

/-- The exit retires the authority with its session on record, or the authority stays. -/
theorem observeAuthorityExit_retires (happlies : hookReportRetirementApplies o.1 o.2 = true)
    (hcoherent : s.Coherent) (ha : s.authoritySession = some (o.1, o.2, some ref))
    (agent : Option Agent) :
    (s.observeAuthorityExit agent r).Recorded o ref (· = r) ∧
        (s.observeAuthorityExit agent r).authoritySession = none ∨
      (s.observeAuthorityExit agent r).authoritySession = some (o.1, o.2, some ref) := by
  obtain ⟨authority, hauthority, -⟩ := Option.map_eq_some_iff.1 ha
  unfold observeAuthorityExit
  rw [hauthority]
  simp only
  split
  · exact Or.inr ha
  · split
    · have hsuppress := suppressCurrentHookAuthority_eq (r := r) hcoherent happlies ha .processExit
      refine Or.inl ⟨recorded_of_suppress (u := s) .processExit ?_ ?_ ⟨?_, ?_⟩, rfl⟩
      · rw [← hsuppress]
      · rw [← hsuppress]
      · intro h
        cases h
      · have hrecords := s.suppressCurrentHookAuthority_records .processExit r
        intro h
        rw [identityOwner, hrecords.hookIdentity, hcoherent.hookIdentity_none ha] at h
        cases h
    · exact Or.inr ((s.holdHookOwnerUnconfirmed_authoritySession _ _ r).trans ha)

/-- The same for the identity. -/
theorem observeIdentity_retires (happlies : hookReportRetirementApplies o.1 o.2 = true)
    (hi : s.identityOwner = some o) (hnone : s.authoritySession = none)
    (hcurrent : s.currentSessionIdentityForPersistence = some (o.1, o.2, ref))
    (agent : Option Agent) (processExited : Bool) :
    (s.observeIdentity agent processExited r).Recorded o ref (· = r) ∨
      (s.observeIdentity agent processExited r).identityOwner = some o ∧
        (s.observeIdentity agent processExited r).persistedAgentSession =
          s.persistedAgentSession := by
  obtain ⟨identity, hidentity, -⟩ := Option.map_eq_some_iff.1 hi
  unfold observeIdentity
  rw [hidentity]
  simp only
  split
  · split
    · exact Or.inl (retireHookIdentity_recorded happlies hi hnone hcurrent _)
    · exact Or.inr ⟨(s.holdHookOwnerUnconfirmed_identityOwner _ _ r).trans hi, rfl⟩
  · split
    · exact Or.inl (retireHookIdentity_recorded happlies hi hnone hcurrent _)
    · exact Or.inr ⟨hi, rfl⟩

theorem authoritySession_none_of_shrinks (h : Shrinks s t) (hnone : s.authoritySession = none) :
    t.authoritySession = none := by
  rw [Option.eq_none_iff_forall_ne_some]
  intro x hx
  rw [h.authority x hx] at hnone
  cases hnone

theorem settleObservation_shrinks (s : TerminalState) (agent previous : Option Agent)
    (processExited : Bool) (now : ℤ) :
    Shrinks s (s.settleObservation agent previous processExited now) := by
  have hloss := Shrinks.of_records
    (s.observeProcessLossForRetiredOwners_records agent processExited now)
  refine hloss.trans (.trans ?_ (retireReplacedAuthority_shrinks _ agent previous now))
  split
  · exact dropExitedSession_shrinks _ agent
  · exact .refl _

/-- An exit after which the session is not current any more has put it on record. -/
theorem takeObservation_exit_guarded (happlies : hookReportRetirementApplies o.1 o.2 = true)
    (hcoherent : s.Coherent) (hanchored : s.AnchoredLive o ref)
    (hcurrent : s.currentSessionIdentityForPersistence = some (o.1, o.2, ref))
    {agent : Option Agent} {fallbackState : AgentState} {visibleBlocker : Bool}
    (hretired : (s.takeObservation agent fallbackState visibleBlocker true
      r).currentSessionIdentityForPersistence ≠ some (o.1, o.2, ref)) :
    (s.takeObservation agent fallbackState visibleBlocker true r).Guarded o ref (· = r) := by
  rw [takeObservation_eq] at hretired ⊢
  have hnoted : Shrinks s (s.noteObservation agent fallbackState visibleBlocker true r) :=
    .of_eq rfl rfl rfl
  have hcoherent := hnoted.coherent hcoherent
  have hanchored : (s.noteObservation agent fallbackState visibleBlocker true r).AnchoredLive o
      ref := hanchored
  have hcurrent : (s.noteObservation agent fallbackState visibleBlocker true
      r).currentSessionIdentityForPersistence = some (o.1, o.2, ref) := hcurrent
  generalize s.noteObservation agent fallbackState visibleBlocker true r = u at *
  -- What is left is on record and no authority, whichever of the two was there.
  suffices hrecorded : (u.observeOwner agent true r).Recorded o ref (· = r) ∧
      (u.observeOwner agent true r).authoritySession = none by
    have hsettled := hrecorded.1.settleObservation happlies agent s.detectedAgent true r
    have hnone := authoritySession_none_of_shrinks
      (settleObservation_shrinks _ agent s.detectedAgent true r) hrecorded.2
    exact ⟨unanchored_of_not_current hnone hretired, hsettled.mono fun b hb => Or.inl hb⟩
  unfold observeOwner at hretired ⊢
  rw [if_pos rfl] at hretired ⊢
  obtain ha | hi := hanchored
  · have hidentity : (u.observeAuthorityExit agent r).hookIdentity = none :=
      observeAuthorityExit_identity (hcoherent.hookIdentity_none ha)
    rw [observeIdentity_of_none hidentity] at hretired ⊢
    obtain hrecorded | hstays := observeAuthorityExit_retires (r := r) happlies hcoherent ha agent
    · exact hrecorded
    · exact absurd (settleObservation_current_of_authority hstays agent _ true r) hretired
  · have hnone := hcoherent.authoritySession_none hi
    rw [observeAuthorityExit_of_none (Option.map_eq_none_iff.1 hnone)] at hretired ⊢
    have hnone' := authoritySession_none_of_shrinks (u.observeIdentity_shrinks agent true r) hnone
    obtain hrecorded | ⟨hstays, hpersisted⟩ := observeIdentity_retires (r := r) happlies hi hnone
      hcurrent agent true
    · exact ⟨hrecorded, hnone'⟩
    · exact absurd (settleObservation_current_of_identity hstays hnone'
        (hpersisted.trans (persisted_of_current hnone hcurrent)) agent _ true r) hretired

end

/-! ## Every run -/

/-- A session start that names the session is accepted. When it is gated, it has a reason to
replace on, and the agent was seen running after the retirement at `r` and after every loss
since. -/
def Reclaims (o : String × String) (ref : AgentSessionRef) (r : ℤ)
    (before since : List TerminalEvent) (s : TerminalState) : TerminalEvent → Prop
  | .sessionStart source label named seq reason observation now =>
    (source, label) = o ∧ named = some ref ∧
      (s.setAgentSessionRefForSessionStart source label named seq reason observation now).isSome ∧
      ((s.currentSessionOwnerConflicts source label ||
          sessionIdentityOnlyIntegration source label) = true →
        sessionStartSourceAllowsSessionReplacement source label reason = true ∧
          ∃ t, SeenRunning label t (before ++ since) ∧ r < t ∧
            ∀ l, StepRun.Occurs step (fun _ => SeesLoss label l) (StepRun.run step .new before)
              since → l < t)
  | _ => False

/-- The retirement is lost : a release of the owner replaces the suppression that is the only
record of it, or a report without a reason reclaims the session, of the owner that needs none. -/
def LosesRetirement (s : TerminalState) (o : String × String) (ref : AgentSessionRef) :
    TerminalEvent → Prop
  | .release source label seq now => (source, label) = o ∧ ¬ s.IsStale o ref ∧
      (s.releaseAgent source label seq now).isSome
  | .hookReport source label state message named seq now => (source, label) = o ∧
      named = some ref ∧ sessionStartSourceAllowsSessionReplacement source label none = true ∧
      (s.setHookAuthority source label state message named seq now).isSome
  | _ => False

section

variable {s t : TerminalState} {o : String × String} {ref : AgentSessionRef} {r : ℤ}
  {B : ℤ → Prop}

/-- Nothing is said of the fields that neither anchor nor record a session. -/
theorem Guarded.of_eq (h : s.Guarded o ref B) (hshrinks : Shrinks s t)
    (hstale : t.staleHookSessions = s.staleHookSessions)
    (hsuppressed : t.suppressedHookReports = s.suppressedHookReports) : t.Guarded o ref B :=
  ⟨hshrinks.unanchored h.unanchored, h.recorded.of_eq hstale hsuppressed hshrinks.notInstalled⟩

theorem Guarded.mono (h : s.Guarded o ref B) {B' : ℤ → Prop} (hB : ∀ b, B' b → B b) :
    s.Guarded o ref B' :=
  ⟨h.unanchored, h.recorded.mono hB⟩

variable (happlies : hookReportRetirementApplies o.1 o.2 = true)

include happlies

theorem retires_guarded (hcoherent : s.Coherent) {event : TerminalEvent}
    (h : s.Retires o ref r event) : (s.step event).Guarded o ref (· = r) := by
  obtain ⟨hcurrent, hretired, hevent⟩ := h
  unfold step at hretired ⊢
  cases hhandle : s.handle event with
  | none =>
    rw [hhandle] at hretired
    exact absurd hcurrent hretired
  | some t =>
    rw [hhandle, Option.getD_some] at hretired
    rw [Option.getD_some]
    cases event with
    | hookReport => cases hevent
    | sessionStart => cases hevent
    | clear source seq now =>
      obtain ⟨hanchored, rfl⟩ := hevent
      obtain ⟨-, sequences, rfl⟩ := clearHookAuthority_eq_some hhandle
      have hcommit : Shrinks s { s with hookReportSequences := sequences } := .of_eq rfl rfl rfl
      exact (clearOwner_guarded happlies (hcommit.coherent hcoherent) hanchored hcurrent
        hretired).of_eq (recomputeEffectiveState_shrinks _) rfl rfl
    | release source label seq now =>
      obtain ⟨rfl, rfl⟩ := hevent
      obtain ⟨-, sequences, rfl⟩ := releaseAgent_eq_some hhandle
      have hreleased := releaseOwner_guarded (r := now) (o := (source, label))
        (s := { s with hookReportSequences := sequences }) happlies hcurrent
      exact hreleased.of_eq (recomputeEffectiveState_shrinks _) rfl rfl
    | observe agent fallbackState visibleBlocker processExited capturedAt =>
      cases processExited with
      | false => cases hevent
      | true =>
        obtain ⟨hanchored, rfl⟩ := hevent
        cases hhandle
        obtain ⟨u, hu, ⟨hignored, -⟩ | ⟨-, heq⟩⟩ := s.setDetectedState_cases agent fallbackState
          visibleBlocker true capturedAt
        · simp [ignoresObservation, shouldIgnoreDetectedStateUnderFullLifecycleHook] at hignored
        · rw [if_pos rfl] at hu
          rw [heq, hu] at hretired ⊢
          exact (takeObservation_exit_guarded happlies hcoherent hanchored hcurrent
            hretired).of_eq (recomputeEffectiveState_shrinks _) rfl rfl

/-- A step that neither loses the retirement nor starts the session. -/
theorem step_guarded (h : s.Guarded o ref B) {event : TerminalEvent}
    (hloses : ¬ s.LosesRetirement o ref event)
    (hstart : ∀ seq reason observation now,
      event = .sessionStart o.1 o.2 (some ref) seq reason observation now → s.handle event = none) :
    (s.step event).Guarded o ref fun b => B b ∨ SeesLoss o.2 b s event := by
  unfold step
  cases hhandle : s.handle event with
  | none =>
    -- An observation is never refused.
    refine h.mono fun b hb => hb.resolve_right fun hloss => ?_
    cases event with
    | observe => cases hhandle
    | _ => cases hloss
  | some t =>
    rw [Option.getD_some]
    have haccepted := Option.isSome_of_eq_some hhandle
    cases event with
    | hookReport source label state message named seq now =>
      refine Guarded.mono (B := B) ?_ fun b hb => hb.resolve_right fun hloss => by cases hloss
      have hnamed : (source, label) = o → named ≠ some ref := by
        rintro rfl rfl
        have hgate : ∃ resetSequence, s.hookReportSequenceResetAfterRetirement source label
            (some ref) none = some resetSequence := by
          cases hidentity : sessionIdentityOnlyIntegration source label with
          | true =>
            have hrecord : s.recordIdentityOnlyHookReport source label (some ref) seq now =
                some t := by
              rw [← hhandle, handle, setHookAuthority, if_pos hidentity]
            obtain ⟨-, resetSequence, -, hgate, -⟩ := recordIdentityOnlyHookReport_eq_some hrecord
            exact ⟨resetSequence, hgate⟩
          | false =>
            obtain ⟨-, resetSequence, -, hgate, -⟩ := setHookAuthority_eq_some hidentity hhandle
            exact ⟨resetSequence, hgate⟩
        obtain ⟨resetSequence, hgate⟩ := hgate
        exact hloses ⟨rfl, rfl, (h.recorded.reclaims_of_gate (o := (source, label)) happlies
          hgate).1, haccepted⟩
      cases hidentity : sessionIdentityOnlyIntegration source label with
      | true =>
        have hrecord : s.recordIdentityOnlyHookReport source label named seq now = some t := by
          rw [← hhandle, handle, setHookAuthority, if_pos hidentity]
        exact recordIdentityOnlyHookReport_guarded happlies h hnamed hrecord
      | false => exact setHookAuthority_guarded happlies h hidentity hnamed hhandle
    | sessionStart source label named seq reason observation now =>
      refine Guarded.mono (B := B) ?_ fun b hb => hb.resolve_right fun hloss => by cases hloss
      refine setAgentSessionRefForSessionStart_guarded h ?_ hhandle
      rintro rfl rfl
      rw [hstart seq reason observation now rfl] at hhandle
      cases hhandle
    | clear source seq now =>
      refine Guarded.mono (B := B) ?_ fun b hb => hb.resolve_right fun hloss => by cases hloss
      obtain ⟨-, sequences, rfl⟩ := clearHookAuthority_eq_some hhandle
      have hcommit : { s with hookReportSequences := sequences }.Guarded o ref B :=
        h.of_eq (.of_eq rfl rfl rfl) rfl rfl
      have hcleared : ({ s with hookReportSequences := sequences }.clearOwner source now).Guarded o
          ref B :=
        ⟨(clearOwner_shrinks _ source now).unanchored hcommit.unanchored,
          hcommit.recorded.clearOwner happlies source now⟩
      exact hcleared.of_eq (recomputeEffectiveState_shrinks _) rfl rfl
    | release source label seq now =>
      refine Guarded.mono (B := B) ?_ fun b hb => hb.resolve_right fun hloss => by cases hloss
      obtain ⟨-, sequences, rfl⟩ := releaseAgent_eq_some hhandle
      have hstale (howner : (source, label) = o) : s.IsStale o ref := by
        by_contra hnot
        exact hloses ⟨howner, hnot, haccepted⟩
      have hcommit : { s with hookReportSequences := sequences }.Guarded o ref B :=
        h.of_eq (.of_eq rfl rfl rfl) rfl rfl
      have hreleased : ({ s with hookReportSequences := sequences }.releaseOwner source label
          now).Guarded o ref B :=
        ⟨(releaseOwner_shrinks _ source label now).unanchored hcommit.unanchored,
          hcommit.recorded.releaseOwner happlies hstale now⟩
      exact hreleased.of_eq (recomputeEffectiveState_shrinks _) rfl rfl
    | observe agent fallbackState visibleBlocker processExited capturedAt =>
      cases hhandle
      obtain ⟨u, hu, hresult⟩ := s.setDetectedState_cases agent fallbackState visibleBlocker
        processExited capturedAt
      have hconfirmed : u.Guarded o ref B ∧ u.ignoresObservation agent processExited capturedAt =
          s.ignoresObservation agent processExited capturedAt := by
        rw [hu]
        split
        · exact ⟨h, rfl⟩
        · refine ⟨h.of_eq (s.confirmPendingHookOwner_shrinks agent capturedAt) ?_ ?_,
            ignoresObservation_confirmPendingHookOwner s agent capturedAt _ _ _⟩
          · cases agent <;> rfl
          · cases agent <;> rfl
      obtain ⟨hguarded, hignores⟩ := hconfirmed
      obtain ⟨hignored, detectedAgent, heq⟩ | ⟨-, heq⟩ := hresult
      · rw [heq]
        have hkept : { u with detectedAgent }.recomputeEffectiveState.Guarded o ref B :=
          hguarded.of_eq (.of_eq rfl rfl rfl) rfl rfl
        refine hkept.mono fun b hb => hb.resolve_right fun hloss => ?_
        rw [hignores, hloss.2.2] at hignored
        cases hignored
      · rw [heq]
        have htaken : (u.takeObservation agent fallbackState visibleBlocker processExited
            capturedAt).Guarded o ref fun b => B b ∨
              showsLossOf agent processExited o.2 = true ∧ b = capturedAt :=
          ⟨(u.takeObservation_shrinks agent fallbackState visibleBlocker processExited
            capturedAt).unanchored hguarded.unanchored,
            hguarded.recorded.takeObservation happlies agent fallbackState visibleBlocker
              processExited capturedAt⟩
        refine (htaken.of_eq (recomputeEffectiveState_shrinks _) rfl rfl).mono fun b hb =>
          hb.imp_right fun hloss => ⟨hloss.1, hloss.2.1.symm⟩

/-- Until a start reclaims it, the session is guarded by the retirement and the losses since. -/
theorem reclaimed_or_guarded (before after : List TerminalEvent)
    (hretired : (StepRun.run step .new before).Guarded o ref (· = r))
    (hafter : StepRun.Along step (fun s event => ¬ s.LosesRetirement o ref event)
      (StepRun.run step .new before) after) :
    StepRun.Occurs step (Reclaims o ref r before) (StepRun.run step .new before) after ∨
      (StepRun.run step (StepRun.run step .new before) after).Guarded o ref fun b => b = r ∨
        StepRun.Occurs step (fun _ => SeesLoss o.2 b) (StepRun.run step .new before) after := by
  induction after using List.reverseRecOn with
  | nil =>
    exact Or.inr (hretired.mono fun b hb => hb.resolve_right (StepRun.not_occurs_nil _))
  | append_singleton after event ih =>
    obtain ⟨halong, hloses⟩ := StepRun.along_snoc.1 hafter
    obtain hoccurs | hguarded := ih halong
    · exact Or.inl (StepRun.occurs_snoc.2 (Or.inl hoccurs))
    · have hevident := run_evident (before ++ after)
      rw [StepRun.run_append] at hevident
      simp only [StepRun.run_snoc, StepRun.occurs_snoc]
      by_cases hstart : ∀ seq reason observation now,
          event = .sessionStart o.1 o.2 (some ref) seq reason observation now →
          (StepRun.run step (StepRun.run step .new before) after).handle event = none
      · refine Or.inr ((step_guarded happlies hguarded hloses hstart).mono fun b hb => ?_)
        tauto
      · refine Or.inl (Or.inr ?_)
        simp only [not_forall] at hstart
        obtain ⟨seq, reason, observation, now, rfl, haccepted⟩ := hstart
        refine ⟨rfl, rfl, Option.isSome_iff_ne_none.2 haccepted, fun hchecked => ?_⟩
        obtain ⟨t, ht⟩ := Option.ne_none_iff_exists'.1 haccepted
        obtain ⟨named, hnamed, -, resetSequence, -, hgate, -⟩ :=
          setAgentSessionRefForSessionStart_eq_some ht
        cases hnamed
        obtain ⟨hallows, x, hx, hof, hevidence⟩ := hguarded.recorded.reclaims_of_gate happlies
          (hgate hchecked)
        obtain ⟨seenAt, hseen, hafterBoundary⟩ := hasReclaimableProcessEvidence_iff.1 hevidence
        have hbound := hguarded.recorded.staleAfter x hx hof
        refine ⟨hallows, seenAt, ?_, ?_, fun l hl => ?_⟩
        · have hrunning := hevident o.1 x hx seenAt hseen
          rw [hof.1] at hrunning
          exact hrunning
        · exact lt_of_le_of_lt (hbound r (Or.inl rfl)) hafterBoundary
        · exact lt_of_le_of_lt (hbound l (Or.inr hl)) hafterBoundary

end

/-- A session of an owner that a release, a clear or an exit has retired is current again only
after a session start that reclaims it, in every run that does not lose the retirement. -/
theorem retired_session_reclaimed (before after : List TerminalEvent) {retire : TerminalEvent}
    {source label : String} {ref : AgentSessionRef} {r : ℤ}
    (happlies : hookReportRetirementApplies source label = true)
    (hretires : (StepRun.run step .new before).Retires (source, label) ref r retire)
    (hafter : StepRun.Along step (fun s event => ¬ s.LosesRetirement (source, label) ref event)
      (StepRun.run step .new (before ++ [retire])) after)
    (hcurrent : (StepRun.run step .new
      (before ++ [retire] ++ after)).currentSessionIdentityForPersistence =
        some (source, label, ref)) :
    StepRun.Occurs step (Reclaims (source, label) ref r (before ++ [retire]))
      (StepRun.run step .new (before ++ [retire])) after := by
  have hretired : (StepRun.run step .new (before ++ [retire])).Guarded (source, label) ref
      (· = r) := by
    rw [StepRun.run_snoc]
    exact retires_guarded happlies (run_step_coherent before) hretires
  rw [StepRun.run_append] at hcurrent
  refine (reclaimed_or_guarded happlies _ after hretired hafter).resolve_right fun hguarded => ?_
  exact hguarded.unanchored.current hcurrent

/-- A resume of the session that was released, after the agent was seen running again. -/
theorem retired_session_reclaimed_hermes :
    StepRun.Occurs step
      (Reclaims ("zynk:hermes", "hermes") ⟨.id, "s"⟩ 2
        ([.hookReport "zynk:hermes" "hermes" .working none (some ⟨.id, "s"⟩) none 1] ++
          [.release "zynk:hermes" "hermes" none 2]))
      (StepRun.run step .new
        ([.hookReport "zynk:hermes" "hermes" .working none (some ⟨.id, "s"⟩) none 1] ++
          [.release "zynk:hermes" "hermes" none 2]))
      [.observe (some .hermes) .idle false false 3,
        .sessionStart "zynk:hermes" "hermes" (some ⟨.id, "s"⟩) none (some "resume") none 4] :=
  retired_session_reclaimed _ _ (by decide) ⟨by decide, by decide, rfl, rfl⟩ ⟨id, id, trivial⟩
    (by decide)

/-- The event is an accepted start of the session for a reason to replace on, and among the
events before it is a running observation captured after `r` and after every loss. -/
def AskedBack (o : String × String) (ref : AgentSessionRef) (r : ℤ)
    (before since : List TerminalEvent) (s : TerminalState) : TerminalEvent → Prop
  | .sessionStart source label named seq reason observation now =>
    (source, label) = o ∧ named = some ref ∧
      (s.setAgentSessionRefForSessionStart source label named seq reason observation now).isSome ∧
      sessionStartSourceAllowsSessionReplacement source label reason = true ∧
      ∃ agent t, parseAgentLabel label = some agent ∧ r < t ∧
        (∃ fallbackState visibleBlocker,
          .observe (some agent) fallbackState visibleBlocker false t ∈ before ++ since) ∧
        ∀ observed fallbackState visibleBlocker processExited l,
          .observe observed fallbackState visibleBlocker processExited l ∈ before ++ since →
          showsLossOf observed processExited label → l < t
  | _ => False

/-- The session was current, is not after the event, and then comes back unasked. -/
def ComesBackUnasked (o : String × String) (ref : AgentSessionRef) (r : ℤ)
    (before : List TerminalEvent) (retire : TerminalEvent) (after : List TerminalEvent) : Prop :=
  (StepRun.run step .new before).currentSessionIdentityForPersistence = some (o.1, o.2, ref) ∧
    (StepRun.run step .new (before ++ [retire])).currentSessionIdentityForPersistence ≠
      some (o.1, o.2, ref) ∧
    (StepRun.run step .new (before ++ [retire] ++ after)).confirmedHookOwner = some o ∧
    (StepRun.run step .new
      (before ++ [retire] ++ after)).currentSessionIdentityForPersistence = some (o.1, o.2, ref) ∧
    ¬ StepRun.Occurs step (AskedBack o ref r (before ++ [retire]))
      (StepRun.run step .new (before ++ [retire])) after

/-- The ways back. By design : the start of a full-lifecycle owner is not gated; a loss that
was observed before the retirement is not kept; an observation that is ignored is no loss. And
where the record is lost : a second release replaces the suppression; a clear drops a session
that a start has persisted and no owner anchors; a report reclaims a session for the owner
that starts sessions without a reason. -/
theorem retired_session_comes_back :
    ComesBackUnasked ("zynk:pi", "pi") ⟨.id, "s"⟩ 2
      [.hookReport "zynk:pi" "pi" .working none (some ⟨.id, "s"⟩) none 1] (.clear none none 2)
      [.hookReport "zynk:pi" "pi" .working none (some ⟨.id, "t"⟩) none 3,
        .sessionStart "zynk:pi" "pi" (some ⟨.id, "s"⟩) none (some "resume") none 4,
        .hookReport "zynk:pi" "pi" .working none (some ⟨.id, "s"⟩) none 5] ∧
    ComesBackUnasked ("zynk:hermes", "hermes") ⟨.id, "s"⟩ 20
      [.hookReport "zynk:hermes" "hermes" .working none (some ⟨.id, "s"⟩) none 30,
        .observe (some .hermes) .unknown false true 10,
        .observe (some .kimi) .idle false false 25]
      (.observe (some .hermes) .unknown false true 20)
      [.observe (some .hermes) .idle false false 22,
        .sessionStart "zynk:hermes" "hermes" (some ⟨.id, "s"⟩) none (some "resume") none 40] ∧
    ComesBackUnasked ("zynk:hermes", "hermes") ⟨.id, "s"⟩ 2
      [.hookReport "zynk:hermes" "hermes" .working none (some ⟨.id, "s"⟩) none 1]
      (.release "zynk:hermes" "hermes" none 2)
      [.observe (some .hermes) .idle false false 10, .observe none .unknown false false 11,
        .hookReport "zynk:pi" "pi" .working none (some ⟨.id, "t"⟩) none 12,
        .observe (some .pi) .working false false 15, .clear none none 16,
        .observe none .unknown false false 17,
        .sessionStart "zynk:hermes" "hermes" (some ⟨.id, "s"⟩) none (some "resume") none 18] ∧
    ComesBackUnasked ("zynk:pi", "pi") ⟨.id, "s"⟩ 2
      [.hookReport "zynk:pi" "pi" .working none (some ⟨.id, "s"⟩) none 1]
      (.release "zynk:pi" "pi" none 2)
      [.observe (some .pi) .unknown false true 3, .release "zynk:pi" "pi" none 4,
        .hookReport "zynk:pi" "pi" .working none (some ⟨.id, "s"⟩) none 5] ∧
    ComesBackUnasked ("zynk:pi", "pi") ⟨.id, "s"⟩ 2
      [.sessionStart "zynk:pi" "pi" (some ⟨.id, "s"⟩) none (some "new") none 1]
      (.clear none none 2)
      [.hookReport "zynk:pi" "pi" .working none (some ⟨.id, "s"⟩) none 3] ∧
    ComesBackUnasked ("zynk:antigravity_cli", "agy") ⟨.id, "s"⟩ 2
      [.hookReport "zynk:antigravity_cli" "agy" .working none (some ⟨.id, "s"⟩) none 1]
      (.release "zynk:antigravity_cli" "agy" none 2)
      [.observe (some .antigravity) .idle false false 3,
        .hookReport "zynk:antigravity_cli" "agy" .working none (some ⟨.id, "s"⟩) none 4] := by
  have hhermes : parseAgentLabel "hermes" = some .hermes := by decide
  refine ⟨⟨by decide, by decide, by decide, by decide, ?_⟩,
    ⟨by decide, by decide, by decide, by decide, ?_⟩,
    ⟨by decide, by decide, by decide +kernel, by decide +kernel, ?_⟩,
    ⟨by decide, by decide, by decide, by decide, ?_⟩,
    ⟨by decide, by decide, by decide, by decide, ?_⟩,
    ⟨by decide, by decide, by decide, by decide, ?_⟩⟩
  · simp [AskedBack]
  · -- The agent was seen running at 22, and gone at 25.
    simp only [StepRun.occurs_cons, StepRun.not_occurs_nil, or_false, AskedBack, false_or]
    rintro ⟨-, -, -, -, agent, t, hlabel, -, ⟨_, _, hrunning⟩, hloss⟩
    cases hhermes.symm.trans hlabel
    have hlost := hloss (some .kimi) .idle false false 25 (by simp) (by decide)
    simp at hrunning
    omega
  · -- The agent was seen running at 10, and gone at 15.
    simp only [StepRun.occurs_cons, StepRun.not_occurs_nil, or_false, AskedBack, false_or]
    rintro ⟨-, -, -, -, agent, t, hlabel, -, ⟨_, _, hrunning⟩, hloss⟩
    cases hhermes.symm.trans hlabel
    have hlost := hloss (some .pi) .working false false 15 (by simp) (by decide)
    simp at hrunning
    omega
  · simp [AskedBack]
  · simp [AskedBack]
  · simp [AskedBack]

end TerminalState

end Zynk
