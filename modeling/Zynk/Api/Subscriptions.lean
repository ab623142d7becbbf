import Zynk.Api.EventHub
import Zynk.Lib.Run

/-!
# Event subscriptions

`api/subscriptions.rs` : the subscription to a kind of event, and the subscription to the status of
a pane's agent, which also asks the app for the pane. Both run on the thread of their connection,
beside the app that pushes. One lock of the hub or one answer of the app is a step, so a list of
steps is an interleaving.

A step of the app changes the pane and queues its events (`outbox`), which reach the hub one by one
before the app takes up anything else : `pane.get` is answered by the app and waits for them, the
hub's readers do not. The pane is the one that `pane.get` finds under its id.

`pushed`, `returned` and the `Watch` are what an observer of the run writes down; no code reads
them.
-/

namespace Zynk.Api

/-! ## Events of a kind -/

structure ActiveEventSubscription where
  eventKind : EventKind
  lastSequence : ℕ
  deriving DecidableEq

namespace ActiveEventSubscription

/-- `ActiveSubscription::new` for the kinds that need no request. -/
def new (eventKind : EventKind) : ActiveEventSubscription :=
  { eventKind, lastSequence := 0 }

/-- The loop of `poll`. -/
def pollEvents (sub : ActiveEventSubscription) :
    List (ℕ × EventEnvelope) → Option EventEnvelope × ActiveEventSubscription
  | [] => (none, sub)
  | (sequence, event) :: rest =>
    let sub := { sub with lastSequence := sequence }
    if event.isOf sub.eventKind then (some event, sub) else sub.pollEvents rest

def poll (sub : ActiveEventSubscription) (hub : EventHub) :
    Option EventEnvelope × ActiveEventSubscription :=
  sub.pollEvents (hub.eventsAfter sub.lastSequence)

end ActiveEventSubscription

/-- A hub and a subscription to a kind. -/
structure KindRun where
  hub : EventHub
  sub : ActiveEventSubscription
  pushed : List EventEnvelope
  returned : List EventEnvelope
  deriving DecidableEq

inductive KindStep where
  | push (event : EventEnvelope)
  | poll
  deriving DecidableEq

namespace KindRun

/-- The hub after the pushes of `pushed`, and a new subscription. -/
def start (kind : EventKind) (pushed : List EventEnvelope) : KindRun where
  hub := pushed.foldl EventHub.push {}
  sub := .new kind
  pushed := pushed
  returned := []

def step (s : KindRun) : KindStep → KindRun
  | .push event => { s with hub := s.hub.push event, pushed := s.pushed ++ [event] }
  | .poll =>
    let result := s.sub.poll s.hub
    { s with sub := result.2, returned := s.returned ++ result.1.toList }

/-- A poll finds at most as many events it has not read as the hub keeps. -/
def Room (s : KindRun) : KindStep → Prop
  | .push _ => True
  | .poll => s.pushed.length ≤ s.sub.lastSequence + EventHub.maxEvents

end KindRun

/-! ## The status of a pane's agent -/

structure PanePresentationSnapshot where
  title : Option String
  displayAgent : Option String
  stateLabels : StateLabels
  deriving DecidableEq

namespace PanePresentationSnapshot

def of (pane : PaneInfo) : PanePresentationSnapshot where
  title := pane.title
  displayAgent := pane.displayAgent
  stateLabels := pane.stateLabels

def fromEvent (event : PaneAgentStatusChangedEvent) : PanePresentationSnapshot where
  title := event.title
  displayAgent := event.displayAgent
  stateLabels := event.stateLabels

end PanePresentationSnapshot

/-- The event made of an answer of `pane.get`. -/
def PaneInfo.statusEvent (pane : PaneInfo) : PaneAgentStatusChangedEvent where
  paneId := pane.paneId
  workspaceId := pane.workspaceId
  agentStatus := pane.agentStatus
  agent := pane.agent
  title := pane.title
  displayAgent := pane.displayAgent
  stateLabels := pane.stateLabels

structure ActiveAgentStatusChangedSubscription where
  paneId : String
  statusFilter : Option AgentStatus
  lastStatus : Option AgentStatus
  lastPresentation : Option PanePresentationSnapshot
  lastSequence : ℕ
  initialEvent : Option PaneAgentStatusChangedEvent
  deriving DecidableEq

namespace ActiveAgentStatusChangedSubscription

/-- `ActiveSubscription::new`, from the sequence read before the probe and the probe. -/
def new (statusFilter : Option AgentStatus) (lastSequence : ℕ) (probe : PaneInfo) :
    ActiveAgentStatusChangedSubscription where
  paneId := probe.paneId
  statusFilter := statusFilter
  lastStatus := some probe.agentStatus
  lastPresentation := some (.of probe)
  lastSequence := lastSequence
  initialEvent := if statusFilter.any (· = probe.agentStatus) then some probe.statusEvent else none

/-- The loop of `poll_result` : the event it returns from, and else whether it saw a status event
of the pane. -/
def readEvents (sub : ActiveAgentStatusChangedSubscription) (sawStatusEvent : Bool) :
    List (ℕ × EventEnvelope) →
      Option PaneAgentStatusChangedEvent × Bool × ActiveAgentStatusChangedSubscription
  | [] => (none, sawStatusEvent, sub)
  | (sequence, event) :: rest =>
    let sub := { sub with lastSequence := sequence }
    match event.data with
    | .paneAgentStatusChanged data =>
      if event.event ≠ .paneAgentStatusChanged then sub.readEvents sawStatusEvent rest
      else if data.paneId ≠ sub.paneId then sub.readEvents sawStatusEvent rest
      else
        let sub := { sub with
          lastStatus := some data.agentStatus
          lastPresentation := some (.fromEvent data) }
        if sub.statusFilter.any (· ≠ data.agentStatus) then sub.readEvents true rest
        else (some data, true, { sub with initialEvent := none })
    | _ => sub.readEvents sawStatusEvent rest

def eventFromSnapshot (sub : ActiveAgentStatusChangedSubscription) (pane : PaneInfo) :
    Option PaneAgentStatusChangedEvent × ActiveAgentStatusChangedSubscription :=
  let presentationChanged := sub.lastPresentation.any (· ≠ .of pane)
  let statusChanged := sub.lastStatus.any (· ≠ pane.agentStatus)
  let sub := { sub with
    lastStatus := some pane.agentStatus
    lastPresentation := some (.of pane) }
  if ¬ (statusChanged || presentationChanged) then (none, sub)
  else if sub.statusFilter.any (· ≠ pane.agentStatus) then (none, sub)
  else (some pane.statusEvent, sub)

end ActiveAgentStatusChangedSubscription

/-- What the connection's thread does next. -/
inductive Poller where
  /-- `new` reads the hub's sequence. -/
  | opening
  /-- `new` asks for the pane. -/
  | probing (lastSequence : ℕ)
  | failed (error : ErrorBody)
  /-- The next thing is a poll. -/
  | ready (sub : ActiveAgentStatusChangedSubscription)
  /-- The poll has read the events, and seen none of the pane. -/
  | comparing (sub : ActiveAgentStatusChangedSubscription)
  /-- The poll asks for the pane. -/
  | asking (sub : ActiveAgentStatusChangedSubscription)
  /-- The poll has the answer, and reads the hub's sequence again. -/
  | confirming (sub : ActiveAgentStatusChangedSubscription) (answer : Except ErrorBody PaneInfo)

/-- What an observer writes down of a run of the agent-status subscription. -/
structure Watch where
  /-- The sequence that `new` read. -/
  base : ℕ := 0
  /-- The answer to the setup probe. -/
  probe : Option PaneInfo := none
  /-- How many events were pushed when a poll first compared sequences and found them equal. -/
  calm : Option ℕ := none
  /-- How many events were pushed when the last poll read the hub. -/
  started : ℕ := 0
  /-- What the last poll returned. -/
  result : Option PaneAgentStatusChangedEvent := none
  /-- What all polls returned. -/
  returned : List PaneAgentStatusChangedEvent := []

structure StatusRun where
  hub : EventHub
  pane : PaneInfo
  outbox : List EventEnvelope
  statusFilter : Option AgentStatus
  poller : Poller
  pushed : List EventEnvelope
  watch : Watch

inductive StatusStep where
  /-- The app changes the pane, and queues events. -/
  | app (pane : PaneInfo) (events : List EventEnvelope)
  /-- The app pushes an event. -/
  | push
  /-- The connection's thread. A request may fail, whatever the app has. -/
  | poll (failure : Option ErrorBody)

namespace StatusRun

/-- The app has pushed `pushed`, and nothing has subscribed. -/
def start (pane : PaneInfo) (statusFilter : Option AgentStatus) (pushed : List EventEnvelope) :
    StatusRun where
  hub := pushed.foldl EventHub.push {}
  pane := pane
  outbox := []
  statusFilter := statusFilter
  poller := .opening
  pushed := pushed
  watch := {}

/-- A poll is over. `poll` drops the error of `poll_result`. -/
def finish (s : StatusRun) (sub : ActiveAgentStatusChangedSubscription)
    (result : Option PaneAgentStatusChangedEvent) : StatusRun :=
  { s with
    poller := .ready sub
    watch := { s.watch with result, returned := s.watch.returned ++ result.toList } }

/-- The first part of `poll_result`. -/
def readHub (s : StatusRun) (sub : ActiveAgentStatusChangedSubscription) : StatusRun :=
  let s := { s with watch := { s.watch with started := s.pushed.length } }
  match sub.readEvents false (s.hub.eventsAfter sub.lastSequence) with
  | (some event, _, sub) => s.finish sub (some event)
  | (none, true, sub) => { s with poller := .asking { sub with initialEvent := none } }
  | (none, false, sub) => { s with poller := .comparing sub }

def compareSequence (s : StatusRun) (sub : ActiveAgentStatusChangedSubscription) : StatusRun :=
  if s.hub.currentSequence ≠ sub.lastSequence then s.finish sub none
  else
    let s := { s with watch := { s.watch with calm := s.watch.calm <|> some s.pushed.length } }
    match sub.initialEvent with
    | some event => s.finish { sub with initialEvent := none } (some event)
    | none => { s with poller := .asking sub }

def confirmSnapshot (s : StatusRun) (sub : ActiveAgentStatusChangedSubscription)
    (answer : Except ErrorBody PaneInfo) : StatusRun :=
  if s.hub.currentSequence ≠ sub.lastSequence then s.finish sub none
  else
    match answer with
    | .error _ => s.finish sub none
    | .ok pane =>
      match sub.eventFromSnapshot pane with
      | (some event, sub') =>
        s.finish { sub' with lastSequence := s.hub.currentSequence } (some event)
      | (none, sub') => s.finish sub' none

/-- The next step of the connection's thread. The app answers when its events are out. -/
def pollStep (s : StatusRun) (failure : Option ErrorBody) : StatusRun :=
  match s.poller with
  | .opening =>
    { s with
      poller := .probing s.hub.currentSequence
      watch := { s.watch with base := s.hub.currentSequence } }
  | .probing lastSequence =>
    match failure, s.outbox with
    | some error, _ => { s with poller := .failed error }
    | none, [] =>
      { s with
        poller := .ready (.new s.statusFilter lastSequence s.pane)
        watch := { s.watch with probe := some s.pane } }
    | none, _ :: _ => s
  | .failed _ => s
  | .ready sub => s.readHub sub
  | .comparing sub => s.compareSequence sub
  | .asking sub =>
    match failure, s.outbox with
    | some error, _ => { s with poller := .confirming sub (.error error) }
    | none, [] => { s with poller := .confirming sub (.ok s.pane) }
    | none, _ :: _ => s
  | .confirming sub answer => s.confirmSnapshot sub answer

def step (s : StatusRun) : StatusStep → StatusRun
  | .app pane events =>
    match s.outbox with
    | [] => { s with pane := { pane with paneId := s.pane.paneId }, outbox := events }
    | _ :: _ => s
  | .push =>
    match s.outbox with
    | [] => s
    | event :: rest =>
      { s with hub := s.hub.push event, outbox := rest, pushed := s.pushed ++ [event] }
  | .poll failure => s.pollStep failure

end StatusRun

end Zynk.Api
