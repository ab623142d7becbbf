import Zynk.Pane.Detection

/-!
# The loops of the agent detector

The two tasks that watch the agent of a pane, `spawn_basic_detection_task` of `pane.rs` for a pane
that a handoff imported and the task of a pane that was spawned. Their bodies are copies of each
other but for a few lines, each of which asks for the task here.

One turn of a loop is `iterate`. What it reads from outside is an `Iteration` : what woke it, the
clock, the probe of the foreground process, the flags other tasks set, and what the terminal shows.
An instant that `Instant::now()` returns is part of it too. Where the body ends is the `Ending`; no
code reads it.

The names of processes, which are only logged, and the colours of the host terminal are left out.
-/

namespace Zynk.Detection

/-! ## Events -/

structure StateChanged where
  agent : Option Agent
  state : AgentState
  visibleBlocker : Bool := false
  visibleWorking : Bool := false
  processExited : Bool := false
  observedAt : ℕ
  deriving DecidableEq, Repr

structure ForegroundProcessObservation where
  agent : Option Agent
  observedAt : ℕ
  deriving DecidableEq, Repr

/-- `record_process_observation` : two observations at one time that differ leave no agent. -/
def recordProcessObservation (slot : Option ForegroundProcessObservation) (agent : Option Agent)
    (observedAt : ℕ) : Option ForegroundProcessObservation :=
  match slot with
  | none => some { agent, observedAt }
  | some old =>
    if observedAt < old.observedAt then some old
    else if old.observedAt = observedAt then
      some (if old.agent = agent then old else { old with agent := none })
    else some { agent, observedAt }

/-- What the loop has sent and recorded. Who answers an exit takes it out of `pendingExits`
elsewhere. -/
structure DetectionEventSender where
  sent : List StateChanged := []
  pendingExits : List (Option Agent × ℕ) := []
  processObservation : Option ForegroundProcessObservation := none
  deriving DecidableEq, Repr

namespace DetectionEventSender

def recordForegroundProbe (d : DetectionEventSender) (nativeGroup probedGroup : Option ℕ)
    (agent : Option Agent) (observedAt : ℕ) : DetectionEventSender :=
  let nativeAgent := if nativeGroup.isSome && nativeGroup == probedGroup then agent else none
  { d with
    processObservation := recordProcessObservation d.processObservation nativeAgent observedAt }

/-- An exit is recorded before the event waits for its place in the queue. -/
def publishStateChangedEvent (d : DetectionEventSender) (event : StateChanged) :
    DetectionEventSender :=
  if event.processExited then
    { sent := d.sent ++ [event]
      pendingExits := d.pendingExits ++ [(event.agent, event.observedAt)]
      processObservation := recordProcessObservation d.processObservation none event.observedAt }
  else { d with sent := d.sent ++ [event] }

end DetectionEventSender

/-! ## The state of a loop -/

inductive DetectionTask where
  /-- `spawn_basic_detection_task`. -/
  | basic
  | spawned
  deriving DecidableEq, Repr

structure PendingAgentRelease where
  agent : Agent
  untilAt : ℕ
  deriving DecidableEq, Repr

structure DetectionLoop where
  agentPresence : AgentDetectionPresence
  state : AgentState
  lastVisibleIdle : Bool
  lastVisibleBlocker : Bool := false
  lastVisibleWorking : Bool := false
  lastVisibleSignalRefresh : Option ℕ := none
  lastProcessCheck : ℕ
  lastForegroundPgid : Option ℕ := none
  hasProcessProbe : Bool := false
  acquisitionStartedAt : Option ℕ := none
  lastContentChangeAt : Option ℕ := none
  pendingForegroundShellClear : Bool := false
  foregroundShellExitReported : Bool := false
  releaseWasActive : Bool := false
  /-- The basic task has no pane to restore. -/
  pendingRestoreProbe : Bool := false
  lastDetectionText : String := ""
  lastScreenScanDetectionContentSeq : Option ℕ := none
  agentStartupGraceUntil : Option ℕ := none
  pendingIdle : PendingIdleConfirmation := {}
  pendingRelease : Option PendingAgentRelease := none
  stateEvents : DetectionEventSender := {}
  deriving DecidableEq, Repr

/-- The state a task starts with. `detectedAgent` is the agent of the pane that is restored. -/
def DetectionTask.start (task : DetectionTask) (detectedAgent : Option Agent) (now : ℕ) :
    DetectionLoop :=
  match task with
  | .basic =>
    { agentPresence := .fromAgent none
      state := .unknown
      lastVisibleIdle := false
      lastProcessCheck := now }
  | .spawned =>
    { agentPresence := .fromAgent detectedAgent
      state := .idle
      lastVisibleIdle := detectedAgent.isSome
      lastProcessCheck := now
      pendingRestoreProbe := detectedAgent.isSome }

inductive Wake where
  | elapsed
  /-- `detect_reset`. -/
  | reset
  | pauseNotified
  deriving DecidableEq, Repr

structure ProcessProbeResult where
  processGroupId : Option ℕ := none
  foregroundIsPaneShell : Bool := false
  agent : Option Agent := none
  deriving DecidableEq, Repr

/-- What the terminal shows : the bottom of its buffer, with soft wraps and with them joined, and
the strings the agent set. -/
structure Screen where
  text : String := ""
  unwrapped : String := ""
  oscTitle : String := ""
  oscProgress : String := ""
  deriving DecidableEq, Repr

def Screen.input (screen : Screen) : DetectionInput :=
  { screen := screen.text
    unwrappedTail := some screen.unwrapped
    oscTitle := screen.oscTitle
    oscProgress := screen.oscProgress }

structure Iteration where
  wake : Wake := .elapsed
  wokenAt : ℕ
  now : ℕ
  /-- A release that was begun since the last turn. -/
  released : Option PendingAgentRelease := none
  pid : ℕ
  foregroundPgid : Option ℕ := none
  probe : ProcessProbeResult := {}
  lifecycleAuthorityActive : Bool := false
  /-- Whether detection is paused when the screen is about to be read, and when what it shows is
  about to be published. -/
  pausedAtRead : Bool := false
  pausedAtPublish : Bool := false
  detectionContentSeq : ℕ := 0
  screen : Screen := {}
  deriving DecidableEq, Repr

/-- Where the body of the loop ended. -/
inductive Ending where
  | hookAuthority
  | startupGrace
  | paused
  | skipped
  /-- The rule for a viewer matched the text of the screen. -/
  | viewer
  | noUpdate
  | pausedAtPublish
  | decided
  deriving DecidableEq, Repr

namespace DetectionLoop

def publishState (s : DetectionLoop) : DetectionPublishState :=
  { state := s.state
    visibleIdle := s.lastVisibleIdle
    visibleBlocker := s.lastVisibleBlocker
    visibleWorking := s.lastVisibleWorking }

def clearPendingIdle (s : DetectionLoop) : DetectionLoop :=
  { s with pendingIdle := {} }

/-- The next screen is read as if it was the first. -/
def forgetScreen (s : DetectionLoop) : DetectionLoop :=
  { s with lastDetectionText := "", lastScreenScanDetectionContentSeq := none, pendingIdle := {} }

def publish (s : DetectionLoop) (event : StateChanged) : DetectionLoop :=
  { s with stateEvents := s.stateEvents.publishStateChangedEvent event }

/-! ## Waking -/

def resetDetection (task : DetectionTask) (s : DetectionLoop) (wokenAt : ℕ) : DetectionLoop :=
  { agentPresence := .fromAgent none
    state := .unknown
    lastVisibleIdle := false
    lastProcessCheck :=
      match task with
      | .basic => wokenAt
      | .spawned => s.lastProcessCheck
    pendingRelease := s.pendingRelease
    stateEvents := { s.stateEvents with
      processObservation :=
        recordProcessObservation s.stateEvents.processObservation none wokenAt } }

def awaken (task : DetectionTask) (s : DetectionLoop) (it : Iteration) : DetectionLoop :=
  match it.wake with
  | .elapsed => s
  | .reset => s.resetDetection task it.wokenAt
  | .pauseNotified => s.forgetScreen

/-- `active_pending_release`. -/
def activePendingRelease (s : DetectionLoop) (now : ℕ) : Option Agent × DetectionLoop :=
  match s.pendingRelease with
  | some pending =>
    if now < pending.untilAt then (some pending.agent, s)
    else (none, { s with pendingRelease := none })
  | none => (none, s)

/-- The agent that is suppressed in this turn. A release that has ended starts the search anew. -/
def suppressReleased (s : DetectionLoop) (it : Iteration) : Option Agent × DetectionLoop :=
  let s := { s with pendingRelease := it.released.orElse fun _ => s.pendingRelease }
  match s.activePendingRelease it.now with
  | (some agent, s) => (some agent, { s with releaseWasActive := true })
  | (none, s) =>
    let s := if s.releaseWasActive then
      { s with hasProcessProbe := false, acquisitionStartedAt := none, lastContentChangeAt := none }
    else s
    (none, { s with releaseWasActive := false })

/-! ## The probe -/

/-- The group in the foreground, when there is a child to ask about. -/
def foregroundGroup (it : Iteration) : Option ℕ :=
  if 0 < it.pid then it.foregroundPgid else none

def processProbeInput (s : DetectionLoop) (it : Iteration) (suppressedAgent : Option Agent) :
    ProcessProbeInput :=
  { currentAgent := s.agentPresence.currentAgent
    suppressedAgent := suppressedAgent
    foregroundPgid := foregroundGroup it
    lastForegroundPgid := s.lastForegroundPgid
    hasProcessProbe := s.hasProcessProbe
    acquisitionAge := s.acquisitionStartedAt.map fun started => it.now - started
    pendingForegroundShellClear := s.pendingForegroundShellClear
    pendingRestoreProbe := s.pendingRestoreProbe
    elapsedSinceProcessCheck := it.now - s.lastProcessCheck }

def shouldCheckProcess (s : DetectionLoop) (it : Iteration) (suppressedAgent : Option Agent) :
    Bool :=
  let input := s.processProbeInput it suppressedAgent
  0 < it.pid &&
    (!shouldSkipProcessProbeForLifecycleAuthority it.lifecycleAuthorityActive input &&
      shouldProbeForegroundJob input)

/-- The agent the probe found, unless it is the one that is suppressed. -/
def foundAgent (it : Iteration) (suppressedAgent : Option Agent) : Option Agent :=
  if suppressedAgent.isSome && it.probe.agent == suppressedAgent then none else it.probe.agent

/-- What the probe found is noted before anything is made of it. A release ends when the agent it
suppresses is no longer there. -/
def noteProbe (s : DetectionLoop) (it : Iteration) (suppressedAgent : Option Agent) :
    DetectionLoop :=
  { s with
    lastProcessCheck := it.now
    hasProcessProbe := true
    pendingRelease :=
      if suppressedAgent.isSome && it.probe.agent != suppressedAgent then none
      else s.pendingRelease
    stateEvents := s.stateEvents.recordForegroundProbe (foregroundGroup it) it.probe.processGroupId
      (foundAgent it suppressedAgent) it.now }

/-- The presence after a probe that leaves no exit to report. -/
def answerProbe (s : DetectionLoop) (presence : AgentDetectionPresence) : DetectionLoop :=
  { s with
    agentPresence := presence
    pendingForegroundShellClear := false
    foregroundShellExitReported := false }

/-- The action on the agent : whether it has changed, and the state after it. -/
def actOnProbe (s : DetectionLoop) (it : Iteration) (newAgent : Option Agent) :
    Bool × DetectionLoop :=
  match foregroundShellAgentAction s.agentPresence.currentAgent newAgent
      it.probe.foregroundIsPaneShell s.foregroundShellExitReported with
  | .reportProcessExit => (false, { s with pendingForegroundShellClear := true })
  | .clearAgent =>
    let (changed, presence) := s.agentPresence.clearCurrentAgent
    (changed, s.answerProbe presence)
  | .observeProbe =>
    let (changed, presence) := s.agentPresence.observeProcessProbe newAgent
    (changed, s.answerProbe presence)

/-- The search for an agent ends when one is found, and starts when the group has changed. -/
def followAcquisition (s : DetectionLoop) (it : Iteration) (newAgent : Option Agent)
    (hadProcessProbe processGroupChanged : Bool) : DetectionLoop :=
  { s with
    lastForegroundPgid :=
      processGroupForChangeTracking (foregroundGroup it) it.probe.processGroupId
    acquisitionStartedAt :=
      if newAgent.isSome then none
      else if s.agentPresence.currentAgent.isNone && hadProcessProbe && processGroupChanged then
        some it.now
      else s.acquisitionStartedAt
    lastContentChangeAt := if newAgent.isSome then none else s.lastContentChangeAt
    pendingRestoreProbe := false }

def agentStartupGraceWindow : ℕ := 3000

/-- Another agent, or none, is in the foreground. An agent is announced at once. -/
def takeAgent (s : DetectionLoop) (now : ℕ) : DetectionLoop :=
  let s := { s with pendingIdle := {}, lastScreenScanDetectionContentSeq := none }
  match s.agentPresence.currentAgent with
  | some agent =>
    { s with
      agentStartupGraceUntil := some (now + agentStartupGraceWindow)
      state := .idle
      lastVisibleIdle := true
      lastVisibleBlocker := false
      lastVisibleWorking := false
      lastVisibleSignalRefresh := none
      }.publish { agent := some agent, state := .idle, observedAt := now }
  | none => { s with agentStartupGraceUntil := none }

/-- What the rest of the turn knows of the foreground. -/
structure Seen where
  loop : DetectionLoop
  /-- The agent the probe found and whether the shell of the pane is in the foreground, when there
  was a probe. -/
  found : Option (Option Agent × Bool)
  agentChanged : Bool
  suppressedAgent : Option Agent
  processGroupChanged : Bool

/-- The agent that is current, also while the rest of the turn runs. -/
def Seen.agent (seen : Seen) : Option Agent :=
  seen.loop.agentPresence.currentAgent

def probeForeground (s : DetectionLoop) (it : Iteration) : Seen :=
  let (suppressedAgent, s) := s.suppressReleased it
  let processGroupChanged := foregroundGroupChanged (foregroundGroup it) s.lastForegroundPgid
  if s.shouldCheckProcess it suppressedAgent then
    let newAgent := foundAgent it suppressedAgent
    let hadProcessProbe := s.hasProcessProbe
    let (changed, s) := (s.noteProbe it suppressedAgent).actOnProbe it newAgent
    let s := s.followAcquisition it newAgent hadProcessProbe processGroupChanged
    { loop := if changed then s.takeAgent it.now else s
      found := some (newAgent, it.probe.foregroundIsPaneShell)
      agentChanged := changed
      suppressedAgent := suppressedAgent
      processGroupChanged := processGroupChanged }
  else
    { loop := s
      found := none
      agentChanged := false
      suppressedAgent := suppressedAgent
      processGroupChanged := processGroupChanged }

/-! ## The screen -/

/-- An exit of the current agent is still to be published. -/
def processExited (s : DetectionLoop) : Bool :=
  s.pendingForegroundShellClear && s.agentPresence.currentAgent.isSome &&
    !s.foregroundShellExitReported

/-- `skip_screen_detection_under_hook_authority` : the hook says what the state is, and a probe that
has just found the agent is answered. -/
def answerUnderHookAuthority (s : DetectionLoop) (freshAgent : Option Agent) (now : ℕ) :
    DetectionLoop :=
  match freshAgent with
  | some agent => s.publish { agent := some agent, state := .idle, observedAt := now }
  | none => s

def syncContentChangeAcquisition (s : DetectionLoop) (suppressedAgent : Option Agent)
    (processGroupChanged contentChanged : Bool) (now : ℕ) : DetectionLoop :=
  if s.agentPresence.currentAgent.isSome || suppressedAgent.isSome || processGroupChanged then s
  else if contentChanged then
    let shouldStart := s.acquisitionStartedAt.all fun started =>
      processAcquisitionWindow < now - started &&
        s.lastContentChangeAt.all fun lastChange => processAcquisitionIdleReset ≤ now - lastChange
    { s with
      acquisitionStartedAt := if shouldStart then some now else s.acquisitionStartedAt
      lastContentChangeAt := some now }
  else
    match s.acquisitionStartedAt, s.lastContentChangeAt with
    | some started, some lastChange =>
      if processAcquisitionWindow < now - started &&
          processAcquisitionIdleReset ≤ now - lastChange then
        { s with acquisitionStartedAt := none, lastContentChangeAt := none }
      else s
    | _, _ => s

/-- `apply_agent_detection_publish_update`. -/
def applyAgentDetectionPublishUpdate (s : DetectionLoop) (next : DetectionPublishState)
    (processExited : Bool) (observedAt : ℕ) : DetectionLoop :=
  { s with
    state := next.state
    lastVisibleIdle := next.visibleIdle
    lastVisibleBlocker := next.visibleBlocker
    lastVisibleWorking := next.visibleWorking
    lastVisibleSignalRefresh :=
      if next.visibleBlocker || next.visibleWorking then some observedAt else none
    foregroundShellExitReported := s.foregroundShellExitReported || processExited
    }.publish
      { agent := s.agentPresence.currentAgent
        state := next.state
        visibleBlocker := next.visibleBlocker
        visibleWorking := next.visibleWorking
        processExited := processExited
        observedAt := observedAt }

/-- From the second look at the pause to the end of the body. -/
def decideAndPublish (s : DetectionLoop) (it : Iteration) (detection : AgentDetection)
    (agentChanged processExited : Bool) : DetectionLoop × Ending :=
  if !screenDetectionPermitted it.pausedAtPublish processExited then
    (s.forgetScreen, .pausedAtPublish)
  else
    let input : ScreenDetectionPublishInput :=
      { current := s.publishState
        lastVisibleSignalRefresh := s.lastVisibleSignalRefresh
        screenDetection := detection
        processExited := processExited
        agentChanged := agentChanged
        now := it.now }
    match decideScreenDetectionPublish input s.pendingIdle with
    | (.noPublish, pendingIdle) => ({ s with pendingIdle := pendingIdle }, .decided)
    | (.publish next exited, pendingIdle) =>
      ({ s with pendingIdle := pendingIdle }.applyAgentDetectionPublishUpdate next exited it.now,
        .decided)

/-- A screen that leaves the state as it is ends the body. -/
def takeUpdate (s : DetectionLoop) (it : Iteration) (update : Option AgentDetection)
    (agentChanged processExited : Bool) : DetectionLoop × Ending :=
  match update with
  | none => (s.clearPendingIdle, .noUpdate)
  | some detection => s.decideAndPublish it detection agentChanged processExited

/-- The text of a viewer hides the agent. Only the basic task looks past it for an exit. -/
def viewerHides (task : DetectionTask) (manifests : Manifests) (agent : Option Agent)
    (text : String) (processExited : Bool) : Bool :=
  match task with
  | .basic => !processExited && shouldSkipStateUpdate manifests agent text
  | .spawned => shouldSkipStateUpdate manifests agent text

/-- The number of the screen that is read, and its text. -/
def noteScreen (s : DetectionLoop) (currentDetectionContentSeq : Option ℕ) (text : String) :
    DetectionLoop :=
  { s with
    lastScreenScanDetectionContentSeq := currentDetectionContentSeq
    lastDetectionText := text }

/-- From the read of the screen to the end of the body. An exit is published without it while
detection is paused. -/
def scanScreen (s : DetectionLoop) (task : DetectionTask) (manifests : Manifests) (seen : Seen)
    (it : Iteration) (currentDetectionContentSeq : Option ℕ) (processExited : Bool) :
    DetectionLoop × Ending :=
  if it.pausedAtRead then
    let input := { screen := "", unwrappedTail := none, oscTitle := "", oscProgress := "" }
    s.takeUpdate it (detectionUpdateForPublishWithOsc manifests seen.agent input true)
      seen.agentChanged processExited
  else
    let contentChanged := it.screen.text != s.lastDetectionText
    let s := s.noteScreen currentDetectionContentSeq it.screen.text
    if viewerHides task manifests seen.agent it.screen.text processExited then
      (s.clearPendingIdle, .viewer)
    else
      (s.syncContentChangeAcquisition seen.suppressedAgent seen.processGroupChanged contentChanged
        it.now).takeUpdate it
          (detectionUpdateForPublishWithOsc manifests seen.agent it.screen.input processExited)
          seen.agentChanged processExited

/-- Whether the body goes on : an exit ends the grace window of a new agent, else the turn ends with
it. -/
def passStartupGrace (task : DetectionTask) (s : DetectionLoop) (now : ℕ) (processExited : Bool) :
    Bool × DetectionLoop :=
  match s.agentStartupGraceUntil with
  | none => (true, s)
  | some untilAt =>
    if processExited then
      let s := { s with agentStartupGraceUntil := none, pendingIdle := {} }
      match task with
      | .basic => (true, s)
      | .spawned => (true, { s with lastScreenScanDetectionContentSeq := none })
    else if now < untilAt then (false, s.clearPendingIdle)
    else
      let s := { s with agentStartupGraceUntil := none, pendingIdle := {} }
      match task with
      | .basic => (false, { s with lastScreenScanDetectionContentSeq := none })
      | .spawned => (false, s)

def screenReadInput (seen : Seen) (s : DetectionLoop) (currentDetectionContentSeq : Option ℕ)
    (processExited : Bool) : DetectionScreenReadInput :=
  { state := s.state
    agent := seen.agent
    pendingIdleActive := s.pendingIdle.active
    agentChanged := seen.agentChanged
    processExited := processExited
    currentDetectionContentSeq := currentDetectionContentSeq
    lastScreenScanDetectionContentSeq := s.lastScreenScanDetectionContentSeq }

/-- From the look at the pause to the end of the body. With `obeysSkip` a screen that need not be
read is not. -/
def watchScreen (s : DetectionLoop) (task : DetectionTask) (manifests : Manifests)
    (obeysSkip : Bool) (seen : Seen) (it : Iteration) (processExited : Bool) :
    DetectionLoop × Ending :=
  if !screenDetectionPermitted it.pausedAtRead processExited then (s.forgetScreen, .paused)
  else
    let currentDetectionContentSeq :=
      if seen.agent.isSome then some it.detectionContentSeq else none
    match decideDetectionScreenRead
        (screenReadInput seen s currentDetectionContentSeq processExited), obeysSkip with
    | .skip, true => (s, .skipped)
    | _, _ => s.scanScreen task manifests seen it currentDetectionContentSeq processExited

/-- The body of the loop after the probe. -/
def finishTurn (task : DetectionTask) (manifests : Manifests) (obeysSkip : Bool) (seen : Seen)
    (it : Iteration) : DetectionLoop × Ending :=
  let s := seen.loop
  let processExited := s.processExited
  if it.lifecycleAuthorityActive && !processExited then
    let freshAgent := if seen.agentChanged then none else seen.found.bind (·.1)
    ((s.answerUnderHookAuthority freshAgent it.now).clearPendingIdle, .hookAuthority)
  else
    match s.passStartupGrace task it.now processExited with
    | (false, s) => (s, .startupGrace)
    | (true, s) => s.watchScreen task manifests obeysSkip seen it processExited

/-- What a turn did : what its probe found and where its body ended. -/
structure Turn where
  previousAgent : Option Agent
  found : Option (Option Agent × Bool)
  ending : Ending

/-- One turn of the loop. -/
def turn (task : DetectionTask) (manifests : Manifests) (obeysSkip : Bool) (s : DetectionLoop)
    (it : Iteration) : DetectionLoop × Turn :=
  let s := s.awaken task it
  let seen := s.probeForeground it
  let (s', ending) := finishTurn task manifests obeysSkip seen it
  (s', { previousAgent := s.agentPresence.currentAgent, found := seen.found, ending := ending })

def iterate (task : DetectionTask) (manifests : Manifests) (s : DetectionLoop) (it : Iteration) :
    DetectionLoop × Turn :=
  s.turn task manifests true it

end DetectionLoop

end Zynk.Detection
