import Zynk.Agent.Label

/-!
# What the detector decides

The decisions of the agent detector : the rules of `detect/manifest.rs` that say what a screen
shows, those of `pane.rs` about the foreground process, and those of `pane/agent_detection.rs` about
reading a screen and publishing what it shows.

An instant and a duration are in milliseconds, and the time since a later instant is zero. A rule is
what its gates make of an input : `accepts` stands for its region, its texts and its patterns.
-/

namespace Zynk.Detection

/-! ## Rules -/

structure AgentDetection where
  state : AgentState
  skipStateUpdate : Bool := false
  visibleIdle : Bool := false
  visibleBlocker : Bool := false
  visibleWorking : Bool := false
  deriving DecidableEq, Repr

structure DetectionInput where
  screen : String
  unwrappedTail : Option String
  oscTitle : String
  oscProgress : String
  deriving DecidableEq, Repr

/-- A rule that `validate_manifest` lets through : one that leaves the state as it is shows
nothing. -/
structure ManifestRule where
  state : Option AgentState
  priority : ℤ := 0
  visibleIdle : Bool := false
  visibleBlocker : Bool := false
  visibleWorking : Bool := false
  skipStateUpdate : Bool := false
  accepts : DetectionInput → Bool
  valid : skipStateUpdate = true → state = some .unknown ∧ visibleIdle = false ∧
    visibleBlocker = false ∧ visibleWorking = false

/-- The rules of the agents that have a manifest. -/
abbrev Manifests := Agent → Option (List ManifestRule)

/-- A rule that accepts the input takes the place of one of a lower priority. -/
def preferRule (input : DetectionInput) (matched : Option ManifestRule) (rule : ManifestRule) :
    Option ManifestRule :=
  if rule.accepts input then
    match matched with
    | some previous => if rule.priority ≤ previous.priority then matched else some rule
    | none => some rule
  else matched

/-- The first rule of the highest priority that accepts the input. -/
def matchedRule (rules : List ManifestRule) (input : DetectionInput) : Option ManifestRule :=
  rules.foldl (preferRule input) none

/-- `fallback_explain` for an agent that is known. -/
def fallbackExplain : AgentDetection :=
  { state := .idle }

def evaluateLoadedManifest (rules : List ManifestRule) (input : DetectionInput) : AgentDetection :=
  match matchedRule rules input with
  | none => fallbackExplain
  | some rule =>
    let state := rule.state.getD .unknown
    { state := state
      skipStateUpdate := rule.skipStateUpdate
      visibleIdle := rule.visibleIdle && state == .idle
      visibleBlocker := rule.visibleBlocker && state == .blocked
      visibleWorking := rule.visibleWorking && state == .working }

/-- `detect_with_osc`. -/
def detectWithOsc (manifests : Manifests) (agent : Agent) (input : DetectionInput) :
    AgentDetection :=
  match manifests agent with
  | none => fallbackExplain
  | some rules => evaluateLoadedManifest rules input

def detectAgentWithOsc (manifests : Manifests) (agent : Option Agent) (input : DetectionInput) :
    AgentDetection :=
  match agent with
  | none => { state := .unknown }
  | some agent => detectWithOsc manifests agent input

/-- `should_skip_state_update` : the screen shows something that hides the state of the agent. -/
def shouldSkipStateUpdate (manifests : Manifests) (agent : Option Agent) (screen : String) : Bool :=
  agent.any fun agent =>
    match manifests agent with
    | none => false
    | some rules =>
      (evaluateLoadedManifest rules
        { screen := screen, unwrappedTail := none, oscTitle := "", oscProgress := "" }
        ).skipStateUpdate

def detectionUpdateForPublishWithOsc (manifests : Manifests) (agent : Option Agent)
    (input : DetectionInput) (processExited : Bool) : Option AgentDetection :=
  if processExited then some { state := .idle, visibleIdle := true }
  else
    let detection := detectAgentWithOsc manifests agent input
    if detection.skipStateUpdate then none else some detection

/-! ## The foreground process -/

/-- Misses are counted up to the sixth, far below what the counter holds. -/
structure AgentDetectionPresence where
  currentAgent : Option Agent
  consecutiveMisses : ℕ := 0
  deriving DecidableEq, Repr

namespace AgentDetectionPresence

def fromAgent (currentAgent : Option Agent) : AgentDetectionPresence :=
  { currentAgent }

def agentMissConfirmationAttempts : ℕ := 6

/-- Whether the agent has changed, and the presence after it. -/
def clearCurrentAgent (p : AgentDetectionPresence) : Bool × AgentDetectionPresence :=
  if p.currentAgent.isNone then (false, { p with consecutiveMisses := 0 })
  else (true, { currentAgent := none })

def observeProcessProbe (p : AgentDetectionPresence) :
    Option Agent → Bool × AgentDetectionPresence
  | some agent =>
    if some agent = p.currentAgent then (false, { p with consecutiveMisses := 0 })
    else (true, { currentAgent := some agent })
  | none =>
    if p.currentAgent.isNone then (false, { p with consecutiveMisses := 0 })
    else if p.consecutiveMisses + 1 < agentMissConfirmationAttempts then
      (false, { p with consecutiveMisses := p.consecutiveMisses + 1 })
    else (true, { currentAgent := none })

end AgentDetectionPresence

inductive ForegroundShellAgentAction where
  | observeProbe
  | reportProcessExit
  | clearAgent
  deriving DecidableEq, Repr

def foregroundShellAgentAction (previousAgent newAgent : Option Agent)
    (foregroundIsPaneShell processExitReported : Bool) : ForegroundShellAgentAction :=
  if previousAgent.isNone || newAgent.isSome then .observeProbe
  else if processExitReported then .clearAgent
  else if foregroundIsPaneShell then .reportProcessExit
  else .observeProbe

structure ProcessProbeInput where
  currentAgent : Option Agent
  suppressedAgent : Option Agent
  foregroundPgid : Option ℕ
  lastForegroundPgid : Option ℕ
  hasProcessProbe : Bool
  acquisitionAge : Option ℕ
  pendingForegroundShellClear : Bool
  pendingRestoreProbe : Bool
  elapsedSinceProcessCheck : ℕ
  deriving DecidableEq, Repr

def processRecheckIdentified : ℕ := 5000
def processRecheckMissingForegroundGroup : ℕ := 30000
def processAcquisitionWindow : ℕ := 8000
def processAcquisitionFastWindow : ℕ := 1500
def processAcquisitionFastRecheck : ℕ := 500
def processAcquisitionSlowRecheck : ℕ := 2000
def processAcquisitionIdleReset : ℕ := 2000

def foregroundGroupChanged (foregroundPgid lastForegroundPgid : Option ℕ) : Bool :=
  foregroundPgid != lastForegroundPgid &&
    (foregroundPgid.isSome || lastForegroundPgid.isSome)

/-- `process_group_for_change_tracking` : only a group that the kernel reported is remembered. -/
def processGroupForChangeTracking (observedForegroundPgid probedProcessGroupId : Option ℕ) :
    Option ℕ :=
  if observedForegroundPgid.isNone then none
  else probedProcessGroupId.orElse fun _ => observedForegroundPgid

def shouldSkipProcessProbeForLifecycleAuthority (fullLifecycleAuthorityActive : Bool)
    (input : ProcessProbeInput) : Bool :=
  fullLifecycleAuthorityActive && input.foregroundPgid.isSome &&
    !input.pendingForegroundShellClear && input.suppressedAgent.isNone && input.hasProcessProbe &&
    !foregroundGroupChanged input.foregroundPgid input.lastForegroundPgid

/-- A probe is due while an agent is being looked for. -/
def acquisitionProbeDue (input : ProcessProbeInput) : Bool :=
  input.acquisitionAge.any fun acquisitionAge =>
    let acquisitionInterval :=
      if acquisitionAge ≤ processAcquisitionFastWindow then processAcquisitionFastRecheck
      else processAcquisitionSlowRecheck
    acquisitionAge ≤ processAcquisitionWindow &&
      acquisitionInterval ≤ input.elapsedSinceProcessCheck

def shouldProbeForegroundJob (input : ProcessProbeInput) : Bool :=
  if input.pendingForegroundShellClear || input.pendingRestoreProbe then true
  else
    let groupChanged := foregroundGroupChanged input.foregroundPgid input.lastForegroundPgid
    if input.suppressedAgent.isSome then !input.hasProcessProbe || groupChanged
    else if acquisitionProbeDue input then true
    else if input.currentAgent.isNone then
      !input.hasProcessProbe || groupChanged ||
        (input.foregroundPgid.isNone &&
          processRecheckMissingForegroundGroup ≤ input.elapsedSinceProcessCheck)
    else groupChanged || processRecheckIdentified ≤ input.elapsedSinceProcessCheck

/-! ## Reading and publishing -/

structure DetectionPublishState where
  state : AgentState
  visibleIdle : Bool
  visibleBlocker : Bool
  visibleWorking : Bool
  deriving DecidableEq, Repr

/-- What a detection is published as. -/
def AgentDetection.publishState (detection : AgentDetection) : DetectionPublishState :=
  { state := detection.state
    visibleIdle := detection.visibleIdle && detection.state == .idle
    visibleBlocker := detection.visibleBlocker && detection.state == .blocked
    visibleWorking := detection.visibleWorking && detection.state == .working }

structure PendingIdleConfirmation where
  startedAt : Option ℕ := none
  confirmations : ℕ := 0
  deriving DecidableEq, Repr

namespace PendingIdleConfirmation

def active (p : PendingIdleConfirmation) : Bool :=
  p.startedAt.isSome

def agentPendingIdleConfirmations : ℕ := 3
def agentPendingIdleCap : ℕ := 700

/-- `should_hold_working_to_idle`, and what is pending after it. -/
def shouldHoldWorkingToIdle (p : PendingIdleConfirmation) (previous next : DetectionPublishState)
    (agentChanged processExited : Bool) (now : ℕ) : Bool × PendingIdleConfirmation :=
  let isWorkingToPlainIdle := previous.state == .working && next.state == .idle &&
    !next.visibleIdle && !next.visibleBlocker && !agentChanged && !processExited
  if !isWorkingToPlainIdle then (false, {})
  else
    match p.startedAt with
    | none => (true, { startedAt := some now })
    | some startedAt =>
      if agentPendingIdleCap ≤ now - startedAt then (false, {})
      else if agentPendingIdleConfirmations ≤ p.confirmations + 1 then (false, {})
      else (true, { p with confirmations := p.confirmations + 1 })

end PendingIdleConfirmation

structure DetectionScreenReadInput where
  state : AgentState
  agent : Option Agent
  pendingIdleActive : Bool
  agentChanged : Bool
  processExited : Bool
  currentDetectionContentSeq : Option ℕ
  lastScreenScanDetectionContentSeq : Option ℕ
  deriving DecidableEq, Repr

def shouldSkipIdleScreenScan (input : DetectionScreenReadInput) : Bool :=
  if input.state != .idle || input.agent.isNone || input.pendingIdleActive ||
      input.agentChanged || input.processExited then false
  else
    input.currentDetectionContentSeq.isSome &&
      input.lastScreenScanDetectionContentSeq == input.currentDetectionContentSeq

inductive DetectionScreenReadDecision where
  | read
  | skip
  deriving DecidableEq, Repr

def decideDetectionScreenRead (input : DetectionScreenReadInput) : DetectionScreenReadDecision :=
  if shouldSkipIdleScreenScan input then .skip else .read

def stableVisibleSignalRefresh : ℕ := 800

def stableVisibleSignalRefreshDue (previous next : DetectionPublishState)
    (lastRefresh : Option ℕ) (now : ℕ) : Bool :=
  next.visibleBlocker && previous.visibleBlocker &&
    lastRefresh.all fun lastRefresh => stableVisibleSignalRefresh ≤ now - lastRefresh

def shouldPublishDetectionUpdate (previous next : DetectionPublishState)
    (agentChanged processExited stableVisibleSignalRefreshDue : Bool) : Bool :=
  next.state != previous.state || next.visibleIdle != previous.visibleIdle ||
    next.visibleBlocker != previous.visibleBlocker ||
    next.visibleWorking != previous.visibleWorking || agentChanged || processExited ||
    (stableVisibleSignalRefreshDue && next.visibleBlocker && previous.visibleBlocker)

inductive DetectionTransitionDecision where
  | noPublish
  | publishNext
  deriving DecidableEq, Repr

def decideDetectionTransition (previous next : DetectionPublishState)
    (agentChanged processExited stableRefreshDue : Bool) (now : ℕ)
    (pendingIdle : PendingIdleConfirmation) :
    DetectionTransitionDecision × PendingIdleConfirmation :=
  match pendingIdle.shouldHoldWorkingToIdle previous next agentChanged processExited now with
  | (true, pendingIdle) => (.noPublish, pendingIdle)
  | (false, pendingIdle) =>
    if shouldPublishDetectionUpdate previous next agentChanged processExited stableRefreshDue then
      (.publishNext, pendingIdle)
    else (.noPublish, pendingIdle)

inductive DetectionPublishDecision where
  | noPublish
  | publish (next : DetectionPublishState) (processExited : Bool)
  deriving DecidableEq, Repr

structure ScreenDetectionPublishInput where
  current : DetectionPublishState
  lastVisibleSignalRefresh : Option ℕ
  screenDetection : AgentDetection
  processExited : Bool
  agentChanged : Bool
  now : ℕ
  deriving DecidableEq, Repr

def decideScreenDetectionPublish (input : ScreenDetectionPublishInput)
    (pendingIdle : PendingIdleConfirmation) :
    DetectionPublishDecision × PendingIdleConfirmation :=
  let next := input.screenDetection.publishState
  let stableRefreshDue :=
    stableVisibleSignalRefreshDue input.current next input.lastVisibleSignalRefresh input.now
  match decideDetectionTransition input.current next input.agentChanged input.processExited
      stableRefreshDue input.now pendingIdle with
  | (.noPublish, pendingIdle) => (.noPublish, pendingIdle)
  | (.publishNext, pendingIdle) => (.publish next input.processExited, pendingIdle)

def screenDetectionPermitted (detectionPaused processExited : Bool) : Bool :=
  !detectionPaused || processExited

end Zynk.Detection
