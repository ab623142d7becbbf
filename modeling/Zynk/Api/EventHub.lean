import Mathlib.Data.Finmap
import Zynk.Lib.Numbered

/-!
# The event hub

`api/event_hub.rs` and the part of `api/schema/events.rs` that its readers look into. The hub
numbers the events that are pushed and keeps the last 512 of them; a reader asks for those after a
number.

What the hub holds is said by the list of all events ever pushed (`EventHub.Holds`) : the events
after a number are those pushed since, but for what has fallen out (`Holds.eventsAfter`).
-/

namespace Zynk.Api

inductive AgentStatus where
  | idle | working | blocked | done | unknown
  deriving DecidableEq, Repr

inductive EventKind where
  | workspaceCreated | workspaceUpdated | workspaceMetadataUpdated | workspaceClosed
  | workspaceRenamed | workspaceMoved | workspaceReordered | workspaceFocused
  | tabCreated | tabClosed | tabRenamed | tabMoved | tabFocused
  | paneCreated | paneUpdated | paneClosed | paneFocused | paneMoved | paneOutputChanged
  | paneExited | paneAgentDetected | paneAgentStatusChanged | layoutUpdated
  deriving DecidableEq, Repr

/-- An error the app answers with, or the timeout of the request. -/
structure ErrorBody where
  code : String
  message : String
  deriving DecidableEq, Repr

/-- `HashMap<String, String>`, whose equality does not see the order of iteration. -/
abbrev StateLabels := Finmap fun _ : String => String

/-- What `pane.get` answers, as far as the subscriptions read it. -/
structure PaneInfo where
  paneId : String
  workspaceId : String
  agent : Option String
  title : Option String
  displayAgent : Option String
  agentStatus : AgentStatus
  stateLabels : StateLabels
  deriving DecidableEq

/-- The fields of an event of a pane's status, in the hub and in a subscription. -/
structure PaneAgentStatusChangedEvent where
  paneId : String
  workspaceId : String
  agentStatus : AgentStatus
  agent : Option String
  title : Option String
  displayAgent : Option String
  stateLabels : StateLabels
  deriving DecidableEq

/-- The data of an event. Nothing looks into the data of the other kinds. -/
inductive EventData where
  | paneUpdated (pane : PaneInfo)
  | paneClosed (paneId workspaceId : String)
  | paneMoved (previousPaneId previousWorkspaceId previousTabId : String) (pane : PaneInfo)
  | paneExited (paneId workspaceId : String)
  | paneAgentDetected (paneId workspaceId : String) (agent : Option String) (released : Bool)
      (finalStatus : Option AgentStatus)
  | paneAgentStatusChanged (data : PaneAgentStatusChangedEvent)
  | other (data : String)
  deriving DecidableEq

structure EventEnvelope where
  event : EventKind
  data : EventData
  deriving DecidableEq

/-- The event is of the kind. -/
def EventEnvelope.isOf (kind : EventKind) (event : EventEnvelope) : Bool :=
  event.event = kind

structure EventHub where
  nextSequence : ℕ := 0
  events : List (ℕ × EventEnvelope) := []
  deriving DecidableEq

namespace EventHub

def maxEvents : ℕ := 512

def push (hub : EventHub) (event : EventEnvelope) : EventHub :=
  let sequence := hub.nextSequence + 1
  let events := hub.events ++ [(sequence, event)]
  { nextSequence := sequence, events := events.drop (events.length - maxEvents) }

def eventsAfter (hub : EventHub) (sequence : ℕ) : List (ℕ × EventEnvelope) :=
  hub.events.filter fun e => sequence < e.1

def currentSequence (hub : EventHub) : ℕ :=
  hub.nextSequence

/-- The hub after the pushes of `pushed`. -/
structure Holds (hub : EventHub) (pushed : List EventEnvelope) : Prop where
  nextSequence : hub.nextSequence = pushed.length
  events : hub.events = (Numbered.after 0 pushed).drop (pushed.length - maxEvents)

theorem holds_nil : Holds {} [] :=
  ⟨rfl, rfl⟩

theorem Holds.push {hub : EventHub} {pushed : List EventEnvelope} (h : hub.Holds pushed)
    (event : EventEnvelope) : (hub.push event).Holds (pushed ++ [event]) := by
  refine ⟨by simp [EventHub.push, h.nextSequence], ?_⟩
  have hlast : Numbered.after 0 (pushed ++ [event]) =
      Numbered.after 0 pushed ++ [(hub.nextSequence + 1, event)] := by
    rw [Numbered.after_append, h.nextSequence, Nat.zero_add]
    rfl
  simp only [EventHub.push, h.events, hlast, List.length_append, List.length_drop,
    Numbered.length_after, List.length_singleton]
  -- The events that fell out before, and the one that may fall out now.
  rw [← List.drop_append_of_le_length (by simp), List.drop_drop,
    show pushed.length - maxEvents + (pushed.length - (pushed.length - maxEvents) + 1 - maxEvents) =
      pushed.length + 1 - maxEvents by omega]

theorem holds_foldl_push (pushed : List EventEnvelope) : Holds (pushed.foldl push {}) pushed := by
  induction pushed using List.reverseRecOn with
  | nil => exact holds_nil
  | append_singleton pushed event ih =>
    rw [List.foldl_append]
    exact ih.push event

/-- The events after `sequence`, less those that have fallen out. -/
theorem Holds.eventsAfter {hub : EventHub} {pushed : List EventEnvelope} (h : hub.Holds pushed)
    (sequence : ℕ) : hub.eventsAfter sequence =
      Numbered.after (max (pushed.length - maxEvents) sequence)
        (pushed.drop (max (pushed.length - maxEvents) sequence)) := by
  rw [EventHub.eventsAfter, h.events, Numbered.drop_after, Nat.zero_add, Numbered.filter_after,
    List.drop_drop, show pushed.length - maxEvents + (sequence - (pushed.length - maxEvents)) =
      max (pushed.length - maxEvents) sequence by omega]

theorem Holds.eventsAfter_of_le {hub : EventHub} {pushed : List EventEnvelope}
    (h : hub.Holds pushed) {sequence : ℕ} (hroom : pushed.length ≤ sequence + maxEvents) :
    hub.eventsAfter sequence = Numbered.after sequence (pushed.drop sequence) := by
  rw [h.eventsAfter, Nat.max_eq_right (by omega)]

end EventHub

end Zynk.Api
