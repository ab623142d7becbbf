import Zynk.Terminal.State

/-!
# Retirement of hook owners

The gate every hook report passes (`planHookReportAdmission`), the records a retirement
leaves (`suppressHookReport`, `rememberStaleHookSession`), how they are consumed when a
report is accepted, and what a detector observation does to them.
-/

namespace Zynk

namespace TerminalState

/-! ## Stale sessions -/

/-- The stale sessions of a source. -/
def staleSessions (s : TerminalState) (source : String) : List StaleHookSession :=
  (s.staleHookSessions.lookup source).getD []

/-- The retired session is remembered, with its boundaries before its evidence. -/
def rememberStaleHookSession (s : TerminalState) (source agentLabel : String)
    (sessionRef : AgentSessionRef) (retiredAt : ℤ) (freshProcessEvidence : Option ℤ)
    (lastLossObservedAt : Option ℤ) : TerminalState :=
  let isSame (stale : StaleHookSession) : Bool :=
    stale.agentLabel = agentLabel ∧ stale.sessionRef = sessionRef
  let stales := s.staleSessions source
  let stales :=
    if stales.any isSame then stales
    else
      stales ++ [{ agentLabel, sessionRef, freshProcessEvidence := none,
                   lastLossObservedAt := none, retiredAt }]
  let update (stale : StaleHookSession) : StaleHookSession :=
    let stale := stale.observeRetirement retiredAt
    let stale := lastLossObservedAt.elim stale stale.observeProcessLoss
    freshProcessEvidence.elim stale stale.recordFreshProcessEvidence
  let stales := stales.map fun stale => if isSame stale then update stale else stale
  { s with staleHookSessions := s.staleHookSessions.insert source stales }

/-- A session that anchors identity again is not stale. -/
def forgetStaleHookSession (s : TerminalState) (source agentLabel : String)
    (sessionRef : AgentSessionRef) : TerminalState :=
  match s.staleHookSessions.lookup source with
  | none => s
  | some stales =>
    let kept := stales.filter fun stale =>
      stale.agentLabel ≠ agentLabel ∨ stale.sessionRef ≠ sessionRef
    { s with staleHookSessions :=
        if kept.isEmpty then s.staleHookSessions.erase source
        else s.staleHookSessions.insert source kept }

/-! ## Suppression -/

/-- Record a retirement that was observed at `observedAt`. -/
def suppressHookReportWithSessionRef (s : TerminalState) (source agentLabel : String)
    (sessionRef : Option AgentSessionRef) (reason : HookSuppressionReason) (observedAt : ℤ) :
    TerminalState :=
  { s with
    staleHookSessions := s.staleHookSessions.mapWithKey fun key stales =>
      if key = source then
        stales.map fun stale =>
          if stale.agentLabel = agentLabel then stale.observeRetirement observedAt else stale
      else stales
    suppressedHookReports := s.suppressedHookReports.insert source
      { agentLabel, sessionRef, observedAt, reason
        lastLossObservedAt := if reason = .processExit then some observedAt else none } }

def suppressHookReport (s : TerminalState) (source agentLabel : String)
    (reason : HookSuppressionReason) (observedAt : ℤ) : TerminalState :=
  if hookReportRetirementApplies source agentLabel then
    s.suppressHookReportWithSessionRef source agentLabel (s.ownedSessionRef source agentLabel)
      reason observedAt
  else s

def suppressCurrentHookAuthority (s : TerminalState) (reason : HookSuppressionReason)
    (observedAt : ℤ) : TerminalState :=
  match s.hookAuthority with
  | some authority =>
    if fullLifecycleHookAuthority authority.source authority.agentLabel then
      s.suppressHookReportWithSessionRef authority.source authority.agentLabel
        authority.sessionRef reason observedAt
    else s
  | none => s

/-- The identity is retired with the session it anchored. -/
def retireHookIdentity (s : TerminalState) (reason : HookSuppressionReason) (observedAt : ℤ) :
    TerminalState :=
  match s.hookIdentity with
  | some identity =>
    let s := { s with hookIdentity := none }
    let s := if reason = .processExit then
        { s with hookReportSequences := s.hookReportSequences.erase identity.source }
      else s
    s.suppressHookReport identity.source identity.agentLabel reason observedAt
  | none => s

/-- What is suppressed under a source becomes a stale session. -/
def consumeSuppression (s : TerminalState) (source : String) : TerminalState :=
  match s.suppressedHookReports.lookup source with
  | none => s
  | some suppressed =>
    let s := { s with suppressedHookReports := s.suppressedHookReports.erase source }
    suppressed.sessionRef.elim s fun suppressedRef =>
      s.rememberStaleHookSession source suppressed.agentLabel suppressedRef
        suppressed.observedAt none suppressed.lastLossObservedAt

/-- An accepted report with a session : what was suppressed becomes stale, and the accepted
session is stale no more. -/
def retireSuppressedSessionAfterAccepting (s : TerminalState) (source agentLabel : String)
    (acceptedSessionRef : Option AgentSessionRef) : TerminalState :=
  let s := s.consumeSuppression source
  acceptedSessionRef.elim s (s.forgetStaleHookSession source agentLabel)

/-! ## The gate -/

def hookReportIsSuppressed (s : TerminalState) (source agentLabel : String)
    (sessionRef : Option AgentSessionRef) : Bool :=
  hookReportRetirementApplies source agentLabel &&
    (s.suppressedHookReports.lookup source).any fun suppressed =>
      if suppressed.agentLabel ≠ agentLabel then false
      else if suppressed.reason = .processExit then true
      else
        match suppressed.sessionRef, sessionRef with
        | some suppressedRef, some incomingRef => incomingRef = suppressedRef
        | some _, none => true
        | none, some _ => false
        | none, none => true

def hookReportHasFreshSessionAfterSuppression (s : TerminalState) (source agentLabel : String)
    (sessionRef : Option AgentSessionRef) : Bool :=
  hookReportRetirementApplies source agentLabel &&
    (s.suppressedHookReports.lookup source).any fun suppressed =>
      suppressed.agentLabel = agentLabel && suppressed.reason ≠ .processExit &&
        match suppressed.sessionRef, sessionRef with
        | some suppressedRef, some incomingRef => incomingRef ≠ suppressedRef
        | _, _ => false

def hookReportMatchesStaleSession (s : TerminalState) (source agentLabel : String)
    (sessionRef : Option AgentSessionRef) : Bool :=
  hookReportRetirementApplies source agentLabel &&
    sessionRef.any fun incomingRef =>
      (s.staleSessions source).any fun stale =>
        stale.agentLabel = agentLabel ∧ incomingRef = stale.sessionRef

def hookReportHasFreshSessionAfterStaleSession (s : TerminalState) (source agentLabel : String)
    (sessionRef : Option AgentSessionRef) : Bool :=
  hookReportRetirementApplies source agentLabel &&
    ((s.staleSessions source).any fun stale => stale.agentLabel = agentLabel) &&
    sessionRef.any fun incomingRef =>
      (s.staleSessions source).all fun stale =>
        stale.agentLabel ≠ agentLabel ∨ incomingRef ≠ stale.sessionRef

/-- The one way back into a retired session : an explicit session start, and a process
seen since. -/
def explicitSessionStartReclaimsStaleSession (s : TerminalState) (source agentLabel : String)
    (sessionRef : Option AgentSessionRef) (sessionStartSource : Option String) : Bool :=
  sessionStartSourceAllowsSessionReplacement source agentLabel sessionStartSource &&
    sessionRef.any fun incomingRef =>
      (s.staleSessions source).any fun stale =>
        (stale.agentLabel = agentLabel ∧ stale.sessionRef = incomingRef) &&
          stale.hasReclaimableProcessEvidence

/-- Nothing when the owner is still retired, else whether the sequence starts afresh. -/
def hookReportSequenceResetAfterRetirement (s : TerminalState) (source agentLabel : String)
    (sessionRef : Option AgentSessionRef) (sessionStartSource : Option String) : Option Bool :=
  if s.hookReportIsSuppressed source agentLabel sessionRef then none
  else if s.hookReportMatchesStaleSession source agentLabel sessionRef then
    if s.explicitSessionStartReclaimsStaleSession source agentLabel sessionRef
        sessionStartSource then some true
    else none
  else
    some (s.hookReportHasFreshSessionAfterSuppression source agentLabel sessionRef ||
      s.hookReportHasFreshSessionAfterStaleSession source agentLabel sessionRef)

/-- The sequence is behind the last one of the source, or repeats it. -/
def hookReportIsStale (s : TerminalState) (source : String) (seq : Option ℕ) : Bool :=
  match seq with
  | none => (s.hookReportSequences.lookup source).isSome
  | some seq => (s.hookReportSequences.lookup source).any (seq ≤ ·)

inductive HookReportAdmission where
  | refuse
  | accept (resetSequence : Bool) (sequenceToStore : Option ℕ)
  deriving DecidableEq, Repr

def planHookReportAdmission (s : TerminalState) (source agentLabel : String)
    (sessionRef : Option AgentSessionRef) (sessionStartSource : Option String) (seq : Option ℕ)
    (checkRetirement sequenceExempt : Bool) : HookReportAdmission :=
  let reset := if checkRetirement then
      s.hookReportSequenceResetAfterRetirement source agentLabel sessionRef sessionStartSource
    else some false
  match reset with
  | none => .refuse
  | some resetSequence =>
    if !sequenceExempt && !resetSequence && s.hookReportIsStale source seq then .refuse
    else .accept resetSequence (if sequenceExempt then none else seq)

/-- `commit_hook_report_admission` of an admission that is not refused. -/
def commitHookReportAdmission (s : TerminalState) (source : String) (resetSequence : Bool)
    (sequenceToStore : Option ℕ) : TerminalState :=
  let sequences := if resetSequence then s.hookReportSequences.erase source
    else s.hookReportSequences
  { s with hookReportSequences :=
      sequenceToStore.elim sequences fun seq => sequences.insert source seq }

end TerminalState

end Zynk
