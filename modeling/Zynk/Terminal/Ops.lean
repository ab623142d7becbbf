import Zynk.Terminal.Retirement

/-!
# The operations of a terminal

Hook reports, session starts, clears, releases and detector observations, as
`terminal/state.rs` has them. An operation that refuses returns nothing and leaves the
state as it was. `Event` is one operation with everything it reads from outside, and `step`
performs it.
-/

namespace Zynk

namespace TerminalState

def advanceSessionOwnerEpoch (s : TerminalState) (now : ℤ) : TerminalState :=
  { s with sessionOwnerEpoch := some (s.sessionOwnerEpoch.elim now (max · now)) }

/-! ## Unanswered exits -/

/-- The older of two pending exits. -/
def earlier : Option ℤ → Option ℤ → Option ℤ
  | some a, some b => some (min a b)
  | some a, none => some a
  | none, pending => pending

/-- The unanswered exit that a new record of this owner has to carry. -/
def unansweredExitToInherit (s : TerminalState) (source agentLabel : String) : Option ℤ :=
  earlier
    (earlier
      (s.hookAuthority.bind fun authority =>
        if authority.source = source ∧ authority.agentLabel = agentLabel then
          authority.unconfirmedSince
        else none)
      (s.hookIdentity.bind fun identity =>
        if identity.source = source ∧ identity.agentLabel = agentLabel then
          identity.unconfirmedSince
        else none))
    ((s.unansweredHookExit.filter fun pending => pending.1.fences source agentLabel).map Prod.snd)

/-- The owner is held provisional, and the oldest of its unanswered exits kept. -/
def holdHookOwnerUnconfirmed (s : TerminalState) (source agentLabel : String) (observedAt : ℤ) :
    TerminalState :=
  let pending := earlier
    ((s.unansweredHookExit.filter fun pending => pending.1.fences source agentLabel).map Prod.snd)
    (some observedAt)
  { s with
    unansweredHookExit := pending.map fun at' => (HookOwner.new source agentLabel, at')
    hookAuthority := s.hookAuthority.map fun authority =>
      if authority.source = source ∧ authority.agentLabel = agentLabel then
        { authority with unconfirmedSince := earlier authority.unconfirmedSince (some observedAt) }
      else authority
    hookIdentity := s.hookIdentity.map fun identity =>
      if identity.source = source ∧ identity.agentLabel = agentLabel then
        { identity with unconfirmedSince := earlier identity.unconfirmedSince (some observedAt) }
      else identity }

def hookOwnerHasUnansweredExitOlderThan (s : TerminalState) (source agentLabel : String)
    (observedAt : ℤ) : Bool :=
  (s.unansweredExitToInherit source agentLabel).any (· < observedAt)

/-- A running observation of the agent answers the exits before it. -/
def confirmPendingHookOwner (s : TerminalState) (detectedAgent : Option Agent) (observedAt : ℤ) :
    TerminalState :=
  match detectedAgent with
  | none => s
  | some detected =>
    let confirms (agentLabel : String) (pending : Option ℤ) : Bool :=
      pending.any (· < observedAt) && parseAgentLabel agentLabel == some detected
    { s with
      handoffConfirmation := s.handoffConfirmation.filter fun pending =>
        !confirms pending.1.agentLabel (some pending.2)
      hookAuthority := s.hookAuthority.map fun authority =>
        if confirms authority.agentLabel authority.unconfirmedSince then
          { authority with unconfirmedSince := none }
        else authority
      hookIdentity := s.hookIdentity.map fun identity =>
        if confirms identity.agentLabel identity.unconfirmedSince then
          { identity with unconfirmedSince := none }
        else identity
      unansweredHookExit := s.unansweredHookExit.filter fun pending =>
        !confirms pending.1.agentLabel (some pending.2) }

/-! ## Hook reports -/

/-- A state report of the shared server about the session of another client. -/
def opencodeStateReportIsCrossTalk (s : TerminalState) (source agentLabel : String)
    (sessionRef : Option AgentSessionRef) : Bool :=
  (source, agentLabel) == ("zynk:opencode", "opencode") &&
    ((parseAgentLabel agentLabel).any fun known => s.detectedAgent == some known) &&
    match s.ownedSessionRef source agentLabel, sessionRef with
    | some anchored, some incoming => anchored ≠ incoming
    | _, _ => false

def liveFullLifecycleHookAuthorityConflictsWithSession (s : TerminalState)
    (source agentLabel : String) (sessionRef : Option AgentSessionRef) : Bool :=
  s.hookAuthority.any fun authority =>
    fullLifecycleHookAuthority authority.source authority.agentLabel &&
      (authority.source = source ∧ authority.agentLabel = agentLabel) &&
      match authority.sessionRef, sessionRef with
      | some current, some incoming => current ≠ incoming
      | _, _ => false

/-- The session a report without a start reason is taken for : the one the owner has
already. -/
def clampSessionRef (s : TerminalState) (source agentLabel : String)
    (sessionRef : Option AgentSessionRef) : Option AgentSessionRef :=
  sessionRef.map fun ref => (s.conflictingSameOwnerSessionRef source agentLabel ref none).getD ref

/-- What an accepted report does before it installs its owner. -/
def admitHookReport (s : TerminalState) (source agentLabel : String)
    (sessionRef : Option AgentSessionRef) (resetSequence : Bool) (sequenceToStore : Option ℕ) :
    TerminalState :=
  let s := s.commitHookReportAdmission source resetSequence sequenceToStore
  if sessionRef.isSome then s.retireSuppressedSessionAfterAccepting source agentLabel sessionRef
  else s

/-- The reporting owner takes the authority. -/
def installHookAuthority (s : TerminalState) (source agentLabel : String) (state : AgentState)
    (message : Option String) (sessionRef : Option AgentSessionRef) (now : ℤ) : TerminalState :=
  let s := { s with
    hookIdentity := s.hookIdentity.filter fun identity =>
      identity.source = source ∧ identity.agentLabel = agentLabel
    persistedAgentSession := none }
  let authority : HookAuthority :=
    { source, agentLabel, state, message, reportedAt := now, sessionRef
      unconfirmedSince := s.unansweredExitToInherit source agentLabel }
  advanceSessionOwnerEpoch { s with hookAuthority := some authority } now

/-- The reporting owner's identity, without authority. -/
def installHookIdentity (s : TerminalState) (source agentLabel : String) (now : ℤ) :
    TerminalState :=
  let identity : HookIdentity :=
    { source, agentLabel, reportedAt := now
      unconfirmedSince := s.unansweredExitToInherit source agentLabel }
  { s with hookIdentity := some identity }

def persistAgentSession (s : TerminalState) (source agentLabel : String)
    (sessionRef : AgentSessionRef) : TerminalState :=
  { s with persistedAgentSession := some { source, agent := agentLabel, sessionRef } }

/-- A report of an integration that holds no lifecycle authority. -/
def recordIdentityOnlyHookReport (s : TerminalState) (source agentLabel : String)
    (sessionRef : Option AgentSessionRef) (seq : Option ℕ) (now : ℤ) : Option TerminalState :=
  if s.knownAgentLabelConflictsWithDetectedAgent agentLabel ||
      s.currentSessionOwnerConflicts source agentLabel then none
  else
    match s.planHookReportAdmission source agentLabel sessionRef none seq true false with
    | .refuse => none
    | .accept resetSequence sequenceToStore =>
      let sessionRef := s.clampSessionRef source agentLabel sessionRef
      let s := s.admitHookReport source agentLabel sessionRef resetSequence sequenceToStore
      let s := (s.installHookIdentity source agentLabel now).advanceSessionOwnerEpoch now
      some (sessionRef.elim s (s.persistAgentSession source agentLabel))

/-- `set_hook_authority_at`. -/
def setHookAuthority (s : TerminalState) (source agentLabel : String) (state : AgentState)
    (message : Option String) (sessionRef : Option AgentSessionRef) (seq : Option ℕ) (now : ℤ) :
    Option TerminalState :=
  if sessionIdentityOnlyIntegration source agentLabel then
    s.recordIdentityOnlyHookReport source agentLabel sessionRef seq now
  else if s.opencodeStateReportIsCrossTalk source agentLabel sessionRef then none
  else if s.knownAgentLabelConflictsWithDetectedAgent agentLabel ||
      s.currentSessionOwnerConflicts source agentLabel then none
  else
    let clamped := s.clampSessionRef source agentLabel sessionRef
    if s.liveFullLifecycleHookAuthorityConflictsWithSession source agentLabel clamped then none
    else
      -- The gate sees the session the report names, not the one it is taken for.
      match s.planHookReportAdmission source agentLabel sessionRef none seq true false with
      | .refuse => none
      | .accept resetSequence sequenceToStore =>
        let s := s.admitHookReport source agentLabel clamped resetSequence sequenceToStore
        some (s.installHookAuthority source agentLabel state message clamped
          now).recomputeEffectiveState

/-! ## Session starts -/

/-- A process probe after the current anchor lets another owner take over. -/
def processObservationAllowsDifferentOwner (s : TerminalState) (source agentLabel : String)
    (sessionRef : AgentSessionRef) (reason : Option String)
    (observation : Option ForegroundProcessObservation) (now : ℤ) : Bool :=
  match s.sessionOwnerEpoch, observation, parseAgentLabel agentLabel with
  | some epoch, some observation, some agent =>
    s.hookAuthority.isNone && s.hookIdentity.isNone &&
      sessionStartAllowsDifferentOwner source agentLabel reason &&
      (canonicalPlan source agentLabel sessionRef).isSome &&
      s.detectedAgent == some agent && observation.agent == some agent &&
      epoch < observation.observedAt && observation.observedAt ≤ now
  | _, _, _ => false

/-- An identity-only owner names another session than the one it has. -/
def replacingIdentityOnlySession (s : TerminalState) (source agentLabel : String)
    (sessionRef : AgentSessionRef) (sessionStartSource : Option String) : Bool :=
  sessionIdentityOnlyIntegration source agentLabel &&
    sessionStartSourceAllowsSessionReplacement source agentLabel sessionStartSource &&
    s.currentSessionIdentityForPersistence.any fun (currentSource, currentAgent, current) =>
      currentSource = source ∧ currentAgent = agentLabel ∧ current.kind = .id ∧
        sessionRef.kind = .id ∧ current.value ≠ sessionRef.value

def sameOwnerFullLifecycleHookAuthoritySessionRef (s : TerminalState) (source agentLabel : String)
    (sessionRef : AgentSessionRef) : Option AgentSessionRef :=
  s.hookAuthority.bind fun authority =>
    if fullLifecycleHookAuthority authority.source authority.agentLabel = true ∧
        authority.source = source ∧ authority.agentLabel = agentLabel then
      authority.sessionRef.filter (· ≠ sessionRef)
    else none

def isUnsequencedOpencodeSelection (source agentLabel : String)
    (sessionStartSource : Option String) (seq : Option ℕ) : Bool :=
  source = "zynk:opencode" ∧ agentLabel = "opencode" ∧ sessionStartSource = some "select" ∧
    seq = none

/-- What refuses a session start before the gate. -/
def sessionStartRefused (s : TerminalState) (source agentLabel : String)
    (sessionRef : AgentSessionRef) (sessionStartSource : Option String)
    (observation : Option ForegroundProcessObservation) (now : ℤ) : Bool :=
  (s.currentSessionOwnerConflicts source agentLabel &&
      !s.processObservationAllowsDifferentOwner source agentLabel sessionRef sessionStartSource
        observation now) ||
    s.knownAgentLabelConflictsWithDetectedAgent agentLabel ||
    (s.replacingIdentityOnlySession source agentLabel sessionRef sessionStartSource &&
      !(parseAgentLabel agentLabel).any fun known => s.detectedAgent == some known) ||
    (s.conflictingSameOwnerSessionRef source agentLabel sessionRef sessionStartSource).isSome ||
    ((s.sameOwnerFullLifecycleHookAuthoritySessionRef source agentLabel sessionRef).isSome &&
      !sessionStartSourceAllowsSessionReplacement source agentLabel sessionStartSource)

/-- A start reason to replace on reclaims the session it names. -/
def reclaimSession (s : TerminalState) (source agentLabel : String) (sessionRef : AgentSessionRef)
    (sessionStartSource : Option String) : TerminalState :=
  if sessionStartSourceAllowsSessionReplacement source agentLabel sessionStartSource then
    s.forgetStaleHookSession source agentLabel sessionRef
  else s

/-- The session of the owner's authority that the new one replaces is retired with it. -/
def retireReplacedSession (s : TerminalState) (source agentLabel : String)
    (replaced : Option AgentSessionRef) (now : ℤ) : TerminalState :=
  match replaced with
  | some replacedRef =>
    { s.rememberStaleHookSession source agentLabel replacedRef now none none with
      hookAuthority := none }
  | none => s

/-- The session of the owner that is taken over from is retired. -/
def retireForeignSession (s : TerminalState) (ownerConflicts : Bool) (now : ℤ) : TerminalState :=
  match ownerConflicts, s.persistedAgentSession with
  | true, some old => s.rememberStaleHookSession old.source old.agent old.sessionRef now none none
  | _, _ => s

/-- The session report of an identity-only integration is its identity report. -/
def anchorIdentity (s : TerminalState) (source agentLabel : String) (sessionRef : AgentSessionRef)
    (now : ℤ) : TerminalState :=
  if sessionIdentityOnlyIntegration source agentLabel then
    (s.retireSuppressedSessionAfterAccepting source agentLabel
      (some sessionRef)).installHookIdentity source agentLabel now
  else s

/-- What an accepted session start does. -/
def anchorSessionStart (s : TerminalState) (source agentLabel : String)
    (sessionRef : AgentSessionRef) (sessionStartSource : Option String) (ownerConflicts : Bool)
    (now : ℤ) : TerminalState :=
  let replaced := s.sameOwnerFullLifecycleHookAuthoritySessionRef source agentLabel sessionRef
  let s := s.reclaimSession source agentLabel sessionRef sessionStartSource
  let s := s.retireReplacedSession source agentLabel replaced now
  let s := s.retireForeignSession ownerConflicts now
  let s := s.anchorIdentity source agentLabel sessionRef now
  (s.persistAgentSession source agentLabel sessionRef).advanceSessionOwnerEpoch now

/-- `set_agent_session_ref_for_session_start_at`. The gate is asked only for another owner
and for the identity-only integrations. -/
def setAgentSessionRefForSessionStart (s : TerminalState) (source agentLabel : String)
    (sessionRef : Option AgentSessionRef) (seq : Option ℕ) (sessionStartSource : Option String)
    (observation : Option ForegroundProcessObservation) (now : ℤ) : Option TerminalState :=
  sessionRef.bind fun sessionRef =>
    if s.sessionStartRefused source agentLabel sessionRef sessionStartSource observation now then
      none
    else
      let ownerConflicts := s.currentSessionOwnerConflicts source agentLabel
      match s.planHookReportAdmission source agentLabel (some sessionRef) sessionStartSource seq
          (ownerConflicts || sessionIdentityOnlyIntegration source agentLabel)
          (isUnsequencedOpencodeSelection source agentLabel sessionStartSource seq) with
      | .refuse => none
      | .accept resetSequence sequenceToStore =>
        let s := s.commitHookReportAdmission source resetSequence sequenceToStore
        some (s.anchorSessionStart source agentLabel sessionRef sessionStartSource ownerConflicts
          now).recomputeEffectiveState

/-! ## Clear and release -/

/-- The sources whose sequences fence a clear : the named one, or of every owner it drops. -/
def clearSequenceSources (s : TerminalState) (source : Option String) : List String :=
  match source with
  | some source => [source]
  | none =>
    let sources := s.hookAuthority.toList.map (·.source)
    let sources := match s.hookIdentity with
      | some identity =>
        if sources.contains identity.source then sources else sources ++ [identity.source]
      | none => sources
    match s.persistedAgentSession with
    | some session =>
      if sources.contains session.source then sources else sources ++ [session.source]
    | none => sources

def shouldClearAuthority (s : TerminalState) (source : Option String) : Bool :=
  s.hookAuthority.any fun authority => source.all (authority.source == ·)

def shouldClearIdentity (s : TerminalState) (source : Option String) : Bool :=
  s.hookIdentity.any fun identity => source.all (identity.source == ·)

def shouldClearPersistedSession (s : TerminalState) (source : Option String) : Bool :=
  s.persistedAgentSession.any fun session => source.all (session.source == ·)

/-- What refuses a clear. -/
def clearRefused (s : TerminalState) (source : Option String) (seq : Option ℕ) : Bool :=
  ((s.clearSequenceSources source).any fun source => s.hookReportIsStale source seq) ||
    (!s.shouldClearAuthority source && !s.shouldClearIdentity source &&
      !s.shouldClearPersistedSession source)

/-- What an accepted clear does to the owner it clears. -/
def clearOwner (s : TerminalState) (source : Option String) (now : ℤ) : TerminalState :=
  let clearedIdentity := if s.shouldClearIdentity source then s.hookIdentity else none
  let clearsAuthority := s.shouldClearAuthority source
  let clearsPersistedSession := s.shouldClearPersistedSession source
  let s := if clearsAuthority then s.suppressCurrentHookAuthority .hookClear now else s
  let s := if clearedIdentity.isSome then s.retireHookIdentity .hookClear now else s
  if clearsAuthority then { s with hookAuthority := none, persistedAgentSession := none }
  else
    match clearedIdentity with
    | some identity =>
      if s.persistedAgentSessionMatches identity.source identity.agentLabel then
        { s with persistedAgentSession := none }
      else s
    | none => if clearsPersistedSession then { s with persistedAgentSession := none } else s

/-- `clear_hook_authority_with_mutation`. -/
def clearHookAuthority (s : TerminalState) (source : Option String) (seq : Option ℕ) (now : ℤ) :
    Option TerminalState :=
  if s.clearRefused source seq then none
  else
    let committed := (s.clearSequenceSources source).foldl
      (fun s source => s.commitHookReportAdmission source false seq) s
    some (committed.clearOwner source now).recomputeEffectiveState

/-- What refuses a release before its sequence does. -/
def releaseRefused (s : TerminalState) (source agentLabel : String) : Bool :=
  let ownsAuthority := s.hookAuthority.any fun authority =>
    authority.source = source ∧ authority.agentLabel = agentLabel
  let foreignIdentity := s.hookIdentity.any fun identity =>
    identity.agentLabel ≠ agentLabel ∨ identity.source ≠ source
  (s.hookAuthority.isSome && !ownsAuthority) || (foreignIdentity && !ownsAuthority) ||
    (s.effectiveAgentLabel != some agentLabel &&
      !s.persistedAgentSessionMatches source agentLabel &&
      !s.hookIdentity.any fun identity =>
        identity.source = source ∧ identity.agentLabel = agentLabel)

/-- What an accepted release does. The identity and the session of another owner stay. -/
def releaseOwner (s : TerminalState) (source agentLabel : String) (now : ℤ) : TerminalState :=
  { s.suppressHookReport source agentLabel .hookClear now with
    detectedAgent := none
    fallbackState := .unknown
    fallbackVisibleBlocker := false
    fallbackObservedAt := none
    hookAuthority := none
    hookIdentity := s.hookIdentity.filter fun identity =>
      identity.agentLabel ≠ agentLabel ∨ identity.source ≠ source
    persistedAgentSession := s.persistedAgentSession.filter fun session =>
      session.source ≠ source ∨ session.agent ≠ agentLabel }

/-- `release_agent_with_mutation`. -/
def releaseAgent (s : TerminalState) (source agentLabel : String) (seq : Option ℕ) (now : ℤ) :
    Option TerminalState :=
  if s.releaseRefused source agentLabel then none
  else
    match s.planHookReportAdmission source agentLabel none none seq false false with
    | .refuse => none
    | .accept resetSequence sequenceToStore =>
      let s := s.commitHookReportAdmission source resetSequence sequenceToStore
      some (s.releaseOwner source agentLabel now).recomputeEffectiveState

/-! ## Detector observations -/

def shouldIgnoreDetectedStateUnderFullLifecycleHook (s : TerminalState)
    (detectedAgent : Option Agent) (processExited : Bool) : Bool :=
  s.liveFullLifecycleHookAuthority && !processExited &&
    !s.hookAuthorityConflictsWithDetectedAgent detectedAgent

def detectedStateObservedBeforeReleaseSuppression (s : TerminalState)
    (detectedAgent : Option Agent) (observedAt : ℤ) : Bool :=
  detectedAgent.any fun detected => s.suppressedHookReports.entries.any fun entry =>
    parseAgentLabel entry.2.agentLabel == some detected && observedAt ≤ entry.2.observedAt

/-- A running observation lifts a suppression of its agent that it is newer than. -/
def liftsSuppression (detected : Agent) (observedAt : ℤ) (suppressed : SuppressedHookReport) :
    Bool :=
  parseAgentLabel suppressed.agentLabel == some detected && suppressed.observedAt < observedAt &&
    suppressed.lastLossObservedAt.all (· < observedAt)

/-- A suppression that is lifted becomes a stale session. -/
def convertSuppression (s : TerminalState) (observedAt : ℤ) (source : String)
    (suppressed : SuppressedHookReport) : TerminalState :=
  suppressed.sessionRef.elim s fun sessionRef =>
    s.rememberStaleHookSession source suppressed.agentLabel sessionRef suppressed.observedAt
      (some observedAt) suppressed.lastLossObservedAt

def clearHookSuppressionForDetectedAgent (s : TerminalState) (detectedAgent : Option Agent)
    (observedAt : ℤ) : TerminalState :=
  match detectedAgent with
  | none => s
  | some detected =>
    let lifted := s.suppressedHookReports.entries.filter fun entry =>
      liftsSuppression detected observedAt entry.2
    let s := { s with
      suppressedHookReports := s.suppressedHookReports.filterWithKey
        fun _ suppressed => !liftsSuppression detected observedAt suppressed }
    let s := lifted.foldl (fun s entry => s.convertSuppression observedAt entry.1 entry.2) s
    let s := { s with
      staleHookSessions := s.staleHookSessions.mapWithKey fun _ stales =>
        stales.map fun stale =>
          if parseAgentLabel stale.agentLabel = some detected then
            stale.recordFreshProcessEvidence observedAt
          else stale }
    if lifted.isEmpty then s
    else
      { s with hookReportSequences := s.hookReportSequences.filterWithKey fun source _ =>
          !hookReportRetirementApplies source (agentLabel detected) }

/-- The observation shows the process of the label gone : its exit, or another agent in its
place. -/
def showsLossOf (detectedAgent : Option Agent) (processExited : Bool) (label : String) : Bool :=
  (parseAgentLabel label).any fun owner =>
    (processExited && detectedAgent == some owner) || detectedAgent.any (· != owner)

def observeProcessLossForRetiredOwners (s : TerminalState) (detectedAgent : Option Agent)
    (processExited : Bool) (observedAt : ℤ) : TerminalState :=
  { s with
    suppressedHookReports := s.suppressedHookReports.mapWithKey fun _ suppressed =>
      if showsLossOf detectedAgent processExited suppressed.agentLabel then
        suppressed.observeProcessLoss observedAt
      else suppressed
    staleHookSessions := s.staleHookSessions.mapWithKey fun _ stales =>
      stales.map fun stale =>
        if showsLossOf detectedAgent processExited stale.agentLabel then
          stale.observeProcessLoss observedAt
        else stale }

/-- The exit of the authority's own process : it retires the authority, or is held against
it. -/
def observeAuthorityExit (s : TerminalState) (agent : Option Agent) (now : ℤ) : TerminalState :=
  match s.hookAuthority with
  | some authority =>
    if parseAgentLabel authority.agentLabel ≠ agent then s
    else if s.hookAuthorityNotNewerThan now ||
        s.hookOwnerHasUnansweredExitOlderThan authority.source authority.agentLabel now then
      let s := s.suppressCurrentHookAuthority .processExit now
      { s with
        hookReportSequences := s.hookReportSequences.erase authority.source
        hookAuthority := none }
    else s.holdHookOwnerUnconfirmed authority.source authority.agentLabel now
  | none => s

/-- The same for the identity, which another agent in its place retires too. -/
def observeIdentity (s : TerminalState) (agent : Option Agent) (processExited : Bool) (now : ℤ) :
    TerminalState :=
  match s.hookIdentity with
  | some identity =>
    if processExited && parseAgentLabel identity.agentLabel == agent then
      if s.hookIdentityNotNewerThan now ||
          s.hookOwnerHasUnansweredExitOlderThan identity.source identity.agentLabel now then
        s.retireHookIdentity .processExit now
      else s.holdHookOwnerUnconfirmed identity.source identity.agentLabel now
    else if s.hookIdentityNotNewerThan now && s.hookIdentityConflictsWithDetectedAgent agent then
      s.retireHookIdentity (if processExited then .processExit else .hookClear) now
    else s
  | none => s

/-- A persisted session goes with the exit of its agent, unless a live identity anchors it. -/
def dropExitedSession (s : TerminalState) (agent : Option Agent) : TerminalState :=
  if !s.persistedSessionIsAnchoredByHookIdentity &&
      s.persistedAgentSession.any fun session => parseAgentLabel session.agent = agent then
    { s with persistedAgentSession := none }
  else s

/-- An authority whose agent is no longer the detected one gives way; its session stays
persisted. -/
def retireReplacedAuthority (s : TerminalState) (agent previousDetectedAgent : Option Agent)
    (now : ℤ) : TerminalState :=
  match s.hookAuthority with
  | some authority =>
    if s.hookAuthorityNotNewerThan now &&
        (s.hookAuthorityConflictsWithDetectedAgent agent ||
          (previousDetectedAgent.isSome && agent != previousDetectedAgent &&
            parseAgentLabel authority.agentLabel == previousDetectedAgent)) then
      { s.suppressCurrentHookAuthority .hookClear now with
        hookAuthority := none
        persistedAgentSession := authority.sessionRef.map fun ref =>
          { source := authority.source, agent := authority.agentLabel, sessionRef := ref } }
    else s
  | none => s

/-- An observation that is not ignored. -/
def takeObservation (s : TerminalState) (agent : Option Agent) (fallbackState : AgentState)
    (visibleBlocker processExited : Bool) (now : ℤ) : TerminalState :=
  let previousDetectedAgent := s.detectedAgent
  let s := { s with detectedAgent := agent }
  let s := if processExited then s else s.clearHookSuppressionForDetectedAgent agent now
  let s := { s with
    fallbackState
    fallbackVisibleBlocker := visibleBlocker && fallbackState == AgentState.blocked
    fallbackObservedAt := some now }
  let s := if processExited then s.observeAuthorityExit agent now else s
  let s := s.observeIdentity agent processExited now
  let s := s.observeProcessLossForRetiredOwners agent processExited now
  let s := if processExited then s.dropExitedSession agent else s
  s.retireReplacedAuthority agent previousDetectedAgent now

/-- The observation decides nothing : a full-lifecycle authority is live, or it is older than
a release of its agent. -/
def ignoresObservation (s : TerminalState) (agent : Option Agent) (processExited : Bool) (now : ℤ) :
    Bool :=
  s.shouldIgnoreDetectedStateUnderFullLifecycleHook agent processExited ||
    (!processExited && s.detectedStateObservedBeforeReleaseSuppression agent now)

/-- `set_detected_state_with_screen_signals_at`. -/
def setDetectedState (s : TerminalState) (agent : Option Agent) (fallbackState : AgentState)
    (visibleBlocker processExited : Bool) (now : ℤ) : TerminalState :=
  let s := if processExited then s else s.confirmPendingHookOwner agent now
  if s.shouldIgnoreDetectedStateUnderFullLifecycleHook agent processExited then
    (if (s.hookAuthority.bind fun authority => parseAgentLabel authority.agentLabel) = agent then
        { s with detectedAgent := agent }
      else s).recomputeEffectiveState
  else if !processExited && s.detectedStateObservedBeforeReleaseSuppression agent now then
    s.recomputeEffectiveState
  else (s.takeObservation agent fallbackState visibleBlocker processExited now).recomputeEffectiveState

/-- `clear_agent_runtime_identity_after_respawn`. -/
def clearAgentRuntimeIdentityAfterRespawn (s : TerminalState) : TerminalState :=
  { s with
    detectedAgent := none
    fallbackState := .unknown
    fallbackVisibleBlocker := false
    fallbackObservedAt := none
    hookAuthority := none
    hookIdentity := none
    persistedAgentSession := none
    sessionOwnerEpoch := none
    suppressedHookReports := ∅
    staleHookSessions := ∅
    state := .unknown }

end TerminalState

/-! ## Events -/

/-- One operation. A hook report is routed as `HookStateReported` is : to the identity of an
integration that holds no lifecycle authority, else to the authority. -/
inductive TerminalEvent where
  | hookReport (source agentLabel : String) (state : AgentState) (message : Option String)
      (sessionRef : Option AgentSessionRef) (seq : Option ℕ) (now : ℤ)
  | sessionStart (source agentLabel : String) (sessionRef : Option AgentSessionRef)
      (seq : Option ℕ) (sessionStartSource : Option String)
      (observation : Option ForegroundProcessObservation) (now : ℤ)
  | clear (source : Option String) (seq : Option ℕ) (now : ℤ)
  | release (source agentLabel : String) (seq : Option ℕ) (now : ℤ)
  | observe (agent : Option Agent) (fallbackState : AgentState)
      (visibleBlocker processExited : Bool) (capturedAt : ℤ)

namespace TerminalState

/-- Perform an event; nothing when it is refused. -/
def handle (s : TerminalState) : TerminalEvent → Option TerminalState
  | .hookReport source agentLabel state message sessionRef seq now =>
    s.setHookAuthority source agentLabel state message sessionRef seq now
  | .sessionStart source agentLabel sessionRef seq sessionStartSource observation now =>
    s.setAgentSessionRefForSessionStart source agentLabel sessionRef seq sessionStartSource
      observation now
  | .clear source seq now => s.clearHookAuthority source seq now
  | .release source agentLabel seq now => s.releaseAgent source agentLabel seq now
  | .observe agent fallbackState visibleBlocker processExited capturedAt =>
    some (s.setDetectedState agent fallbackState visibleBlocker processExited capturedAt)

/-- The state after an event. -/
def step (s : TerminalState) (event : TerminalEvent) : TerminalState :=
  (s.handle event).getD s

end TerminalState

end Zynk
