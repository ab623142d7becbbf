import Zynk.Api.EventHub
import Zynk.Lib.Run

/-!
# Waiting for a prompt's effect

`api/wait.rs` : `prompt_agent` called with a wait. It reads the hub's sequence, gets the agent,
sends the prompt through the app, which answers with the agent and the `state_change_seq` at that
time, and waits : first for any effect of the prompt, unless the agent is at work already, and then
for one of the statuses asked for. Both waits read the hub from the first sequence on and ask the
app for the agent when an event of its pane tells them to, and at their deadline.

One lock of the hub or one answer of the app is a step, and so is a step of the app, which changes
agents and queues events (`outbox`) that reach the hub one by one before it answers anyone. What
the target resolves to is up to the app; the counter behind `state_change_seq` is as in
`app/actions.rs`. Times are in milliseconds. `pushed` and the `PromptWatch` are what an observer
writes down.
-/

namespace Zynk.Api

/-- What the waits read of an agent. -/
structure AgentInfo where
  terminalId : String
  name : Option String
  agent : Option String
  agentStatus : AgentStatus
  stateChangeSeq : ℕ
  paneId : String
  deriving DecidableEq, Repr

/-- `AgentPromptParams`, with the fields of its `wait`. -/
structure AgentPromptParams where
  target : String
  «until» : List AgentStatus
  timeoutMs : Option ℕ
  deriving DecidableEq, Repr

inductive AgentWaitTimeoutKind where
  | status
  | promptStalled (baseline timeoutMs : ℕ)
  deriving DecidableEq, Repr

structure ResolvedAgentWait where
  target : String
  «until» : List AgentStatus
  timeoutMs : Option ℕ
  initial : AgentInfo
  initialSequence : ℕ
  afterStateChangeSeq : Option ℕ
  acceptTransientStatus : Bool
  timeoutKind : AgentWaitTimeoutKind
  deriving DecidableEq, Repr

inductive AgentWaitOutcome where
  | matched (agent : AgentInfo)
  | response (error : ErrorBody)
  deriving DecidableEq, Repr

/-- What `prompt_agent` answers with. -/
inductive PromptResponse where
  | agentPrompted (agent : AgentInfo) (baselineStateChangeSeq : ℕ)
  | error (error : ErrorBody)
  deriving DecidableEq, Repr

def agentPromptEffectTimeoutMs : ℕ := 5000

def allAgentStatuses : List AgentStatus :=
  [.idle, .working, .blocked, .done, .unknown]

def agentWaitStatuses («until» : List AgentStatus) : List AgentStatus :=
  if «until» = [] then [.idle, .done, .blocked] else «until»

def remainingTimeoutMs (totalMs : Option ℕ) (started now : ℕ) : Option ℕ :=
  totalMs.map fun total => total - (now - started)

def matchingReleaseStatus («until» : List AgentStatus)
    (finalStatus matchedEventStatus : Option AgentStatus) : Option AgentStatus :=
  (finalStatus.filter (· ∈ «until»)).or matchedEventStatus

/-- `agent.name.filter(|name| name == target)`. -/
def expectedName (agent : AgentInfo) (target : String) : Option String :=
  agent.name.filter (· = target)

def agentWaitIdentityMatches (agent : AgentInfo) (expectedTerminalId : String)
    (expectedName expectedAgent : Option String) : Bool :=
  agent.terminalId = expectedTerminalId && expectedName.all (fun name => agent.name = some name) &&
    match expectedAgent, agent.agent with
    | some expected, some current => expected = current
    | some _, none => agent.name.isSome
    | none, _ => true

def agentWaitMatches (agent : AgentInfo) («until» : List AgentStatus)
    (afterStateChangeSeq : Option ℕ) : Bool :=
  agent.agentStatus ∈ «until» && afterStateChangeSeq.all (· < agent.stateChangeSeq)

def agentWaitNotRunning : ErrorBody where
  code := "agent_not_running"
  message := "agent is no longer running in the target pane"

def agentWaitProbeError (error : ErrorBody) : ErrorBody :=
  if error.code = "agent_not_found" then agentWaitNotRunning else error

/-- The name of the status in `Debug`, in lower case. -/
def AgentStatus.debug : AgentStatus → String
  | .idle => "idle"
  | .working => "working"
  | .blocked => "blocked"
  | .done => "done"
  | .unknown => "unknown"

def agentWaitTimeout (kind : AgentWaitTimeoutKind) (current : AgentInfo) : ErrorBody :=
  match kind with
  | .status => { code := "timeout", message := "timed out waiting for agent status" }
  | .promptStalled baseline timeoutMs =>
    let status := current.agentStatus.debug
    { code := "agent_prompt_stalled"
      message := s!"agent prompt produced no observed state change within {timeoutMs} ms; status is {status} and state_change_seq remained {baseline}" }

namespace ResolvedAgentWait

/-- The agent is still the one that is waited for. -/
def identityMatches (wait : ResolvedAgentWait) (agent : AgentInfo) : Bool :=
  agentWaitIdentityMatches agent wait.initial.terminalId (expectedName wait.initial wait.target)
    wait.initial.agent

/-- What reading the events leads to. -/
inductive Drained where
  | over (outcome : AgentWaitOutcome)
  | more (lastEventSequence : ℕ) (shouldProbe : Bool) (matchedEventStatus : Option AgentStatus)
  deriving DecidableEq, Repr

/-- The loop over the hub's events. -/
def drain (wait : ResolvedAgentWait) (lastEventSequence : ℕ) (shouldProbe : Bool)
    (matchedEventStatus : Option AgentStatus) : List (ℕ × EventEnvelope) → Drained
  | [] => .more lastEventSequence shouldProbe matchedEventStatus
  | (sequence, event) :: rest =>
    match event.data with
    | .paneAgentDetected eventPane _ agent released finalStatus =>
      if eventPane ≠ wait.initial.paneId then
        wait.drain sequence shouldProbe matchedEventStatus rest
      else if released then
        match matchingReleaseStatus wait.until finalStatus matchedEventStatus with
        | some status => .over (.matched { wait.initial with agentStatus := status })
        | none => .over (.response agentWaitNotRunning)
      else if agent.isSome && wait.initial.agent.isSome && agent ≠ wait.initial.agent then
        .over (.response agentWaitNotRunning)
      else wait.drain sequence true matchedEventStatus rest
    | .paneAgentStatusChanged data =>
      if data.paneId ≠ wait.initial.paneId then
        wait.drain sequence shouldProbe matchedEventStatus rest
      else if wait.acceptTransientStatus && data.agentStatus ∈ wait.until then
        wait.drain sequence true (some data.agentStatus) rest
      else wait.drain sequence true matchedEventStatus rest
    | .paneUpdated pane =>
      wait.drain sequence (shouldProbe || pane.paneId = wait.initial.paneId) matchedEventStatus rest
    | .paneMoved previousPaneId _ _ _ =>
      if previousPaneId = wait.initial.paneId then .over (.response agentWaitNotRunning)
      else wait.drain sequence shouldProbe matchedEventStatus rest
    | .paneClosed eventPane _ | .paneExited eventPane _ =>
      if eventPane = wait.initial.paneId then .over (.response agentWaitNotRunning)
      else wait.drain sequence shouldProbe matchedEventStatus rest
    | .other _ => wait.drain sequence shouldProbe matchedEventStatus rest

/-- What a probe leads to : an outcome, or none yet. -/
def probed (wait : ResolvedAgentWait) (matchedEventStatus : Option AgentStatus)
    (current : AgentInfo) : Option AgentWaitOutcome :=
  if ¬ wait.identityMatches current then some (.response agentWaitNotRunning)
  else
    match matchedEventStatus with
    | some status => some (.matched { current with agentStatus := status })
    | none =>
      if agentWaitMatches current wait.until wait.afterStateChangeSeq then some (.matched current)
      else none

end ResolvedAgentWait

/-! ## The app and the thread of the call -/

/-- What a step of the app does to the counter of a terminal's status changes. -/
inductive SeqEffect where
  | changed (terminalId : String)
  /-- A new shell in the terminal has no changes yet. -/
  | respawned (terminalId : String)
  deriving DecidableEq, Repr

structure AgentApp where
  nextAgentStateChangeSeq : ℕ
  lastAgentStateChangeSeq : String → Option ℕ
  /-- What the target resolves to. -/
  target : Except ErrorBody AgentInfo
  last_le : ∀ terminalId, ∀ n ∈ lastAgentStateChangeSeq terminalId, n ≤ nextAgentStateChangeSeq

namespace AgentApp

def stateChangeSeq (app : AgentApp) (terminalId : String) : ℕ :=
  (app.lastAgentStateChangeSeq terminalId).getD 0

def effect (app : AgentApp) : SeqEffect → AgentApp
  | .changed terminalId =>
    { app with
      nextAgentStateChangeSeq := app.nextAgentStateChangeSeq + 1
      lastAgentStateChangeSeq := Function.update app.lastAgentStateChangeSeq terminalId
        (some (app.nextAgentStateChangeSeq + 1))
      last_le := by
        intro t n hn
        by_cases h : t = terminalId
        · subst h
          rw [Function.update_self] at hn
          exact Nat.le_of_eq (Option.some.inj hn).symm
        · rw [Function.update_of_ne h] at hn
          exact Nat.le_succ_of_le (app.last_le t n hn) }
  | .respawned terminalId =>
    { app with
      lastAgentStateChangeSeq := Function.update app.lastAgentStateChangeSeq terminalId none
      last_le := by
        intro t n hn
        by_cases h : t = terminalId
        · subst h
          rw [Function.update_self] at hn
          cases hn
        · rw [Function.update_of_ne h] at hn
          exact app.last_le t n hn }

/-- `agent.get` of the target. -/
def agentGet (app : AgentApp) : Except ErrorBody AgentInfo :=
  app.target.map fun agent =>
    { agent with stateChangeSeq := app.stateChangeSeq agent.terminalId }

end AgentApp

inductive WaitStage where
  /-- For an effect of the prompt. -/
  | effect
  /-- For a status asked for. -/
  | status
  deriving DecidableEq, Repr

/-- A wait of a prompt, with what `prompt_agent` still needs after it. -/
structure Waiting where
  stage : WaitStage
  wait : ResolvedAgentWait
  deadline : Option ℕ
  baseline : ℕ
  waitStarted : ℕ
  deriving DecidableEq, Repr

/-- What the thread of the call does next. -/
inductive PromptCall where
  /-- Read the hub's sequence. -/
  | opening
  /-- Get the agent. -/
  | getting (initialSequence : ℕ)
  /-- Send the prompt. -/
  | prompting (initialSequence : ℕ) (beforePrompt : AgentInfo)
  /-- Read the events. -/
  | reading (waiting : Waiting) (lastEventSequence : ℕ)
  /-- Get the agent, as an event told. -/
  | probing (waiting : Waiting) (lastEventSequence : ℕ) (matchedEventStatus : Option AgentStatus)
  /-- Look at the deadline. -/
  | checking (waiting : Waiting) (lastEventSequence : ℕ)
  /-- Get the agent, as the deadline is over. -/
  | lastProbe (waiting : Waiting)
  /-- The call is over. No response : the client is gone. -/
  | finished (response : Option PromptResponse)
  deriving DecidableEq, Repr

/-- What an observer writes down of a prompt. -/
structure PromptWatch where
  /-- The app's answer to the prompt. -/
  prompted : Option (AgentInfo × ℕ) := none
  /-- How many events were pushed when the prompt was sent. -/
  promptedAt : ℕ := 0
  /-- What the probes after the prompt saw. -/
  probes : List AgentInfo := []

structure PromptRun where
  params : AgentPromptParams
  hub : EventHub
  app : AgentApp
  outbox : List EventEnvelope
  call : PromptCall
  pushed : List EventEnvelope
  watch : PromptWatch

inductive PromptStep where
  /-- The app changes agents, and queues events. -/
  | app (effects : List SeqEffect) (target : Except ErrorBody AgentInfo)
      (events : List EventEnvelope)
  /-- The app pushes an event. -/
  | push
  /-- The thread of the call. The client may be gone, and a request may fail. -/
  | call (now : ℕ) (gone : Bool) (failure : Option ErrorBody)

namespace PromptRun

/-- The app has pushed `pushed`, and the call begins. -/
def start (params : AgentPromptParams) (app : AgentApp) (pushed : List EventEnvelope) :
    PromptRun where
  params := params
  hub := pushed.foldl EventHub.push {}
  app := app
  outbox := []
  call := .opening
  pushed := pushed
  watch := {}

/-- The beginning of `wait_for_resolved_agent`. -/
def beginWait (s : PromptRun) (stage : WaitStage) (wait : ResolvedAgentWait)
    (baseline waitStarted now : ℕ) : PromptRun :=
  { s with
    call := .reading
      { stage, wait, baseline, waitStarted, deadline := wait.timeoutMs.map (now + ·) }
      wait.initialSequence }

/-- The wait for a status. -/
def beginStatusWait (s : PromptRun) (initial : AgentInfo) (initialSequence : ℕ)
    (afterStateChangeSeq : Option ℕ) (baseline waitStarted now : ℕ) : PromptRun :=
  s.beginWait .status
    { target := s.params.target
      «until» := agentWaitStatuses s.params.until
      timeoutMs := remainingTimeoutMs s.params.timeoutMs waitStarted now
      initial
      initialSequence
      afterStateChangeSeq
      acceptTransientStatus := false
      timeoutKind := .status }
    baseline waitStarted now

/-- `prompt_agent` after the app's answer to the prompt. -/
def afterPrompt (s : PromptRun) (initialSequence : ℕ) (beforePrompt prompted : AgentInfo)
    (baseline now : ℕ) : PromptRun :=
  if ¬ agentWaitIdentityMatches prompted beforePrompt.terminalId
      (expectedName beforePrompt s.params.target) beforePrompt.agent then
    { s with call := .finished (some (.error agentWaitNotRunning)) }
  else if prompted.agentStatus ≠ .working then
    let effectTimeoutMs := s.params.timeoutMs.elim agentPromptEffectTimeoutMs
      (min · agentPromptEffectTimeoutMs)
    let timeoutKind : AgentWaitTimeoutKind :=
      if s.params.timeoutMs.any (· ≤ agentPromptEffectTimeoutMs) then .status
      else .promptStalled baseline effectTimeoutMs
    s.beginWait .effect
      { target := s.params.target
        «until» := allAgentStatuses
        timeoutMs := some effectTimeoutMs
        initial := prompted
        initialSequence
        afterStateChangeSeq := some baseline
        acceptTransientStatus := false
        timeoutKind }
      baseline now now
  else s.beginStatusWait prompted initialSequence (some baseline) baseline now now

/-- `prompt_agent` after a wait. -/
def afterWait (s : PromptRun) (waiting : Waiting) (now : ℕ) : AgentWaitOutcome → PromptRun
  | .response error => { s with call := .finished (some (.error error)) }
  | .matched agent =>
    match waiting.stage with
    | .effect =>
      if agentWaitMatches agent (agentWaitStatuses s.params.until) none then
        { s with call := .finished (some (.agentPrompted agent waiting.baseline)) }
      else
        s.beginStatusWait agent waiting.wait.initialSequence none waiting.baseline
          waiting.waitStarted now
    | .status => { s with call := .finished (some (.agentPrompted agent waiting.baseline)) }

/-- A probe that found the agent. -/
def see (s : PromptRun) (agent : AgentInfo) : PromptRun :=
  { s with watch := { s.watch with probes := s.watch.probes ++ [agent] } }

/-- The answer of the app, unless the request fails. The app answers when its events are out. -/
def ask (s : PromptRun) (failure : Option ErrorBody) : Option (Except ErrorBody AgentInfo) :=
  match failure, s.outbox with
  | some error, _ => some (.error error)
  | none, [] => some s.app.agentGet
  | none, _ :: _ => none

/-- The next step of the thread of the call. -/
def callStep (s : PromptRun) (now : ℕ) (gone : Bool) (failure : Option ErrorBody) : PromptRun :=
  match s.call with
  | .opening => { s with call := .getting s.hub.currentSequence }
  | .getting initialSequence =>
    match s.ask failure with
    | none => s
    | some (.error error) => { s with call := .finished (some (.error error)) }
    | some (.ok agent) => { s with call := .prompting initialSequence agent }
  | .prompting initialSequence beforePrompt =>
    match s.ask failure with
    | none => s
    | some (.error error) => { s with call := .finished (some (.error error)) }
    | some (.ok prompted) =>
      { s with watch :=
          { prompted := some (prompted, prompted.stateChangeSeq)
            promptedAt := s.pushed.length } }.afterPrompt initialSequence beforePrompt prompted
        prompted.stateChangeSeq now
  | .reading waiting lastEventSequence =>
    if gone then { s with call := .finished none }
    else
      match waiting.wait.drain lastEventSequence false none
          (s.hub.eventsAfter lastEventSequence) with
      | .over outcome => s.afterWait waiting now outcome
      | .more lastEventSequence true matchedEventStatus =>
        { s with call := .probing waiting lastEventSequence matchedEventStatus }
      | .more lastEventSequence false _ => { s with call := .checking waiting lastEventSequence }
  | .probing waiting lastEventSequence matchedEventStatus =>
    match s.ask failure with
    | none => s
    | some (.error error) =>
      { s with call := .finished (some (.error (agentWaitProbeError error))) }
    | some (.ok current) =>
      match waiting.wait.probed matchedEventStatus current with
      | some outcome => (s.see current).afterWait waiting now outcome
      | none => { s.see current with call := .checking waiting lastEventSequence }
  | .checking waiting lastEventSequence =>
    if waiting.deadline.any (· ≤ now) then { s with call := .lastProbe waiting }
    else { s with call := .reading waiting lastEventSequence }
  | .lastProbe waiting =>
    match s.ask failure with
    | none => s
    | some (.error error) =>
      { s with call := .finished (some (.error (agentWaitProbeError error))) }
    | some (.ok current) =>
      match waiting.wait.probed none current with
      | some outcome => (s.see current).afterWait waiting now outcome
      | none =>
        let error := agentWaitTimeout waiting.wait.timeoutKind current
        { s.see current with call := .finished (some (.error error)) }
  | .finished _ => s

def step (s : PromptRun) : PromptStep → PromptRun
  | .app effects target events =>
    match s.outbox with
    | [] => { s with app := { effects.foldl AgentApp.effect s.app with target }, outbox := events }
    | _ :: _ => s
  | .push =>
    match s.outbox with
    | [] => s
    | event :: rest =>
      { s with hub := s.hub.push event, outbox := rest, pushed := s.pushed ++ [event] }
  | .call now gone failure => s.callStep now gone failure

end PromptRun

end Zynk.Api
