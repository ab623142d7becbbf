import Zynk.Api.Subscriptions

/-!
# What the polls return

A poll of a subscription reads the events after its cursor up to the first it returns, so what the
polls have returned is what the subscription asks for among the events up to its cursor, as long as
none has fallen out of the hub (`KindRun.run_delivered`).

The subscription to an agent's status believes to know what the pane shows : from the probe, and
from each event since (`showing`). The app pushes an event with every change, so whenever no event
is left unread the belief is right, and the snapshot that a poll compares with it finds nothing
new. The initial event goes out at the first poll that finds no event unread, unless an event of
the pane came before (`StatusRun.Tracks`).
-/

namespace Zynk.Api

open StepRun

/-! ## Events of a kind -/

namespace ActiveEventSubscription

/-- A poll reads up to the first event of the kind. -/
theorem pollEvents_spec (sub : ActiveEventSubscription) (l : List EventEnvelope) (k : ℕ) :
    ∃ read rest, l = read ++ rest ∧
      read.filter (·.isOf sub.eventKind) = (sub.pollEvents (Numbered.after k l)).1.toList ∧
      ((sub.pollEvents (Numbered.after k l)).1 = none → rest = []) ∧
      (sub.pollEvents (Numbered.after k l)).2 =
        { sub with lastSequence := if read = [] then sub.lastSequence else k + read.length } := by
  induction l generalizing sub k with
  | nil => exact ⟨[], [], rfl, rfl, fun _ => rfl, rfl⟩
  | cons event l ih =>
    by_cases h : event.isOf sub.eventKind = true
    · exact ⟨[event], l, rfl, by simp [pollEvents, h], by simp [pollEvents, h],
        by simp [pollEvents, h]⟩
    · obtain ⟨read, rest, rfl, hread, hrest, hsub⟩ := ih { sub with lastSequence := k + 1 } (k + 1)
      refine ⟨event :: read, rest, rfl, ?_, ?_, ?_⟩
      · simpa [pollEvents, h] using hread
      · simpa [pollEvents, h] using hrest
      · rcases read with _ | ⟨e, read⟩
        · simpa [pollEvents, h] using hsub
        · simpa [pollEvents, h, Nat.add_assoc, Nat.add_comm] using hsub

end ActiveEventSubscription

namespace KindRun

/-- The events of the kind up to the cursor. -/
def delivered (s : KindRun) : List EventEnvelope :=
  (s.pushed.take s.sub.lastSequence).filter (·.isOf s.sub.eventKind)

/-- What every run keeps. -/
structure Reads (s : KindRun) : Prop where
  hub : s.hub.Holds s.pushed
  cursor : s.sub.lastSequence ≤ s.pushed.length
  returned : s.returned.Sublist s.delivered

theorem reads_start (kind : EventKind) (pushed : List EventEnvelope) :
    (start kind pushed).Reads :=
  ⟨EventHub.holds_foldl_push pushed, Nat.zero_le _, List.nil_sublist _⟩

variable {s : KindRun}

theorem delivered_push (h : s.sub.lastSequence ≤ s.pushed.length) (event : EventEnvelope) :
    (s.step (.push event)).delivered = s.delivered := by
  simp [delivered, step, List.take_append_of_le_length h]

/-- A poll goes on from the first event that is still there, and leaves the cursor alone or puts
it behind the events it has read, of which it returns the one of the kind. -/
theorem poll_spec (h : s.hub.Holds s.pushed) (hcursor : s.sub.lastSequence ≤ s.pushed.length) :
    ((s.sub.poll s.hub).1 = none ∧ (s.step .poll).sub = s.sub ∧
      s.pushed.length ≤ s.sub.lastSequence) ∨
    ∃ before read rest, s.pushed = before ++ read ++ rest ∧
      before.length = max (s.pushed.length - EventHub.maxEvents) s.sub.lastSequence ∧
      (s.step .poll).sub = { s.sub with lastSequence := (before ++ read).length } ∧
      read.filter (·.isOf s.sub.eventKind) = (s.sub.poll s.hub).1.toList ∧
      ((s.sub.poll s.hub).1 = none → rest = []) := by
  obtain ⟨read, rest, hdrop, hread, hrest, hsub⟩ :=
    s.sub.pollEvents_spec (s.pushed.drop (max (s.pushed.length - EventHub.maxEvents)
      s.sub.lastSequence)) (max (s.pushed.length - EventHub.maxEvents) s.sub.lastSequence)
  rw [← h.eventsAfter s.sub.lastSequence] at hread hrest hsub
  change (s.sub.poll s.hub).2 = _ at hsub
  change _ = (s.sub.poll s.hub).1.toList at hread
  change (s.sub.poll s.hub).1 = none → rest = [] at hrest
  generalize hfrom : max (s.pushed.length - EventHub.maxEvents) s.sub.lastSequence = from_ at *
  have hmax : EventHub.maxEvents = 512 := rfl
  have hlen : (s.pushed.take from_).length = from_ := by
    rw [List.length_take]
    omega
  rcases read with _ | ⟨e, read⟩
  · have hnone : (s.sub.poll s.hub).1 = none := Option.toList_eq_nil_iff.1 hread.symm
    rw [hrest hnone, List.append_nil, List.drop_eq_nil_iff] at hdrop
    exact Or.inl ⟨hnone, hsub.trans (by rw [if_pos rfl]), by omega⟩
  · refine Or.inr ⟨s.pushed.take from_, e :: read, rest, ?_, hlen, ?_, hread, hrest⟩
    · rw [List.append_assoc, ← hdrop, List.take_append_drop]
    · rw [List.length_append, hlen]
      exact hsub.trans (by rw [if_neg (List.cons_ne_nil e read)])

theorem delivered_step_poll (s : KindRun) : (s.step .poll).delivered =
    (s.pushed.take (s.step .poll).sub.lastSequence).filter (·.isOf (s.step .poll).sub.eventKind) :=
  rfl

theorem returned_step_poll (s : KindRun) :
    (s.step .poll).returned = s.returned ++ (s.sub.poll s.hub).1.toList :=
  rfl

theorem take_before_read {α : Type} (before read rest : List α) :
    (before ++ read ++ rest).take (before ++ read).length = before ++ read :=
  List.take_left

theorem reads_step (h : s.Reads) (e : KindStep) : (s.step e).Reads := by
  rcases e with event | _
  · refine ⟨h.hub.push event, ?_, ?_⟩
    · simpa [step] using Nat.le_succ_of_le h.cursor
    · rw [delivered_push h.cursor]
      exact h.returned
  · rcases poll_spec h.hub h.cursor with ⟨hnone, hsub, -⟩ |
      ⟨before, read, rest, hpushed, hbefore, hsub, hread, -⟩
    · refine ⟨h.hub, by rw [hsub]; exact h.cursor, ?_⟩
      rw [delivered_step_poll, returned_step_poll, hsub, hnone, Option.toList_none, List.append_nil]
      exact h.returned
    · refine ⟨h.hub, ?_, ?_⟩
      · rw [hsub]
        exact Nat.le_trans (by simp) (congrArg List.length hpushed).ge
      · -- What was delivered before is among the events before those read now.
        have hold : s.delivered.Sublist (before.filter (·.isOf s.sub.eventKind)) := by
          rw [delivered, hpushed, List.append_assoc, List.take_append_of_le_length (by omega)]
          exact (List.take_sublist _ _).filter _
        rw [delivered_step_poll, returned_step_poll, hsub, ← hread, hpushed, take_before_read,
          List.filter_append]
        exact (h.returned.trans hold).append_right _

/-- With room in the hub nothing is missing. -/
theorem exact_step (h : s.Reads) (hexact : s.returned = s.delivered) (e : KindStep)
    (hroom : s.Room e) : (s.step e).returned = (s.step e).delivered := by
  rcases e with event | _
  · rw [delivered_push h.cursor]
    exact hexact
  · rcases poll_spec h.hub h.cursor with ⟨hnone, hsub, -⟩ |
      ⟨before, read, rest, hpushed, hbefore, hsub, hread, -⟩
    · rw [delivered_step_poll, returned_step_poll, hsub, hnone, Option.toList_none, List.append_nil]
      exact hexact
    · have hlast : before.length = s.sub.lastSequence := by
        have : s.pushed.length ≤ s.sub.lastSequence + EventHub.maxEvents := hroom
        omega
      have hold : s.delivered = before.filter (·.isOf s.sub.eventKind) := by
        rw [delivered, hpushed, ← hlast, List.append_assoc, List.take_left]
      rw [delivered_step_poll, returned_step_poll, hsub, ← hread, hpushed, take_before_read,
        List.filter_append, hexact, hold]

/-- A poll that returns nothing has left nothing. -/
theorem delivered_of_poll_none (h : s.Reads) (hroom : s.Room .poll)
    (hnone : (s.sub.poll s.hub).1 = none) :
    s.delivered = s.pushed.filter (·.isOf s.sub.eventKind) := by
  rcases poll_spec h.hub h.cursor with ⟨-, -, hle⟩ |
    ⟨before, read, rest, hpushed, hbefore, hsub, hread, hrest⟩
  · rw [delivered, List.take_of_length_le hle]
  · have hlast : before.length = s.sub.lastSequence := by
      have : s.pushed.length ≤ s.sub.lastSequence + EventHub.maxEvents := hroom
      omega
    rw [hnone, Option.toList_none] at hread
    rw [delivered, hpushed, hrest hnone, ← hlast, List.append_nil, List.take_left,
      List.filter_append, hread, List.append_nil]

theorem step_eventKind (h : s.Reads) (e : KindStep) :
    (s.step e).sub.eventKind = s.sub.eventKind := by
  rcases e with event | _
  · rfl
  · rcases poll_spec h.hub h.cursor with ⟨-, hsub, -⟩ | ⟨before, read, rest, -, -, hsub, -⟩ <;>
      rw [hsub]

theorem run_reads (kind : EventKind) (pushed : List EventEnvelope) (es : List KindStep) :
    (run step (start kind pushed) es).Reads ∧
      (run step (start kind pushed) es).sub.eventKind = kind :=
  run_invariant (I := fun s : KindRun => s.Reads ∧ s.sub.eventKind = kind)
    (fun _ e h => ⟨reads_step h.1 e, (step_eventKind h.1 e).trans h.2⟩)
    ⟨reads_start kind pushed, rfl⟩ es

theorem run_exact (kind : EventKind) (pushed : List EventEnvelope) (es : List KindStep)
    (hes : Along step Room (start kind pushed) es) :
    (run step (start kind pushed) es).returned = (run step (start kind pushed) es).delivered := by
  refine (run_induction (I := fun _ (s : KindRun) => s.Reads ∧ s.returned = s.delivered)
    ⟨reads_start kind pushed, rfl⟩ ?_ es hes).2
  intro _ s e h he
  exact ⟨reads_step h.1 e, exact_step h.1 h.2 e he⟩

end KindRun

/-! ## What a pane shows -/

/-- The status and the presentation. -/
abbrev Display := AgentStatus × PanePresentationSnapshot

def PaneInfo.display (pane : PaneInfo) : Display :=
  (pane.agentStatus, .of pane)

def PaneAgentStatusChangedEvent.display (event : PaneAgentStatusChangedEvent) : Display :=
  (event.agentStatus, .fromEvent event)

/-- The data of a status event of the pane. -/
def EventEnvelope.statusOf (paneId : String) (event : EventEnvelope) :
    Option PaneAgentStatusChangedEvent :=
  match event.data with
  | .paneAgentStatusChanged data =>
    if event.event = .paneAgentStatusChanged ∧ data.paneId = paneId then some data else none
  | _ => none

def statusEvents (paneId : String) (l : List EventEnvelope) : List PaneAgentStatusChangedEvent :=
  l.filterMap (·.statusOf paneId)

/-- What the pane shows after the events, from `d` on. -/
def showing (paneId : String) (d : Display) (l : List EventEnvelope) : Display :=
  l.foldl (fun d event => ((event.statusOf paneId).map (·.display)).getD d) d

variable {paneId : String}

theorem EventEnvelope.statusOf_eq_some {event : EventEnvelope} {data : PaneAgentStatusChangedEvent}
    (h : event.statusOf paneId = some data) :
    event.event = .paneAgentStatusChanged ∧ event.data = .paneAgentStatusChanged data ∧
      data.paneId = paneId := by
  unfold EventEnvelope.statusOf at h
  split at h
  · rename_i hdata
    obtain ⟨⟨hkind, hpane⟩, hsome⟩ := Option.ite_none_right_eq_some.1 h
    obtain rfl := Option.some.inj hsome
    exact ⟨hkind, hdata, hpane⟩
  · cases h

@[simp] theorem statusEvents_nil (paneId : String) : statusEvents paneId [] = [] :=
  rfl

theorem statusEvents_append (paneId : String) (l m : List EventEnvelope) :
    statusEvents paneId (l ++ m) = statusEvents paneId l ++ statusEvents paneId m :=
  List.filterMap_append

theorem showing_append (paneId : String) (d : Display) (l m : List EventEnvelope) :
    showing paneId d (l ++ m) = showing paneId (showing paneId d l) m :=
  List.foldl_append

theorem showing_cons (paneId : String) (d : Display) (event : EventEnvelope)
    (l : List EventEnvelope) :
    showing paneId d (event :: l) = showing paneId (showing paneId d [event]) l :=
  rfl

/-- With no status event the pane shows what it did. -/
theorem showing_of_nil {l : List EventEnvelope} (d : Display) (h : statusEvents paneId l = []) :
    showing paneId d l = d := by
  induction l generalizing d with
  | nil => rfl
  | cons event l ih =>
    rcases hstatus : event.statusOf paneId with _ | data
    · rw [showing_cons, ih _ (by simpa [statusEvents, hstatus] using h)]
      simp [showing, hstatus]
    · simp [statusEvents, hstatus] at h

/-- With a status event it does not matter what it did. -/
theorem showing_of_ne_nil {l : List EventEnvelope} (d d' : Display)
    (h : statusEvents paneId l ≠ []) : showing paneId d l = showing paneId d' l := by
  induction l generalizing d d' with
  | nil => exact absurd rfl h
  | cons event l ih =>
    rcases hstatus : event.statusOf paneId with _ | data
    · exact ih _ _ (by simpa [statusEvents, hstatus] using h)
    · simp [showing, hstatus]

/-- The events in a queue are shown already, so they are after one has left it. -/
theorem showing_tail {d : Display} {event : EventEnvelope} {l : List EventEnvelope}
    (h : showing paneId d (event :: l) = d) : showing paneId d l = d := by
  by_cases hnil : statusEvents paneId l = []
  · exact showing_of_nil d hnil
  · rw [← h, showing_cons]
    exact showing_of_ne_nil _ _ hnil

namespace ActiveAgentStatusChangedSubscription

/-- The filter of the subscription. -/
def passes (statusFilter : Option AgentStatus) (event : PaneAgentStatusChangedEvent) : Bool :=
  !statusFilter.any (· ≠ event.agentStatus)

/-- What the subscription takes the pane to show. -/
def Believes (sub : ActiveAgentStatusChangedSubscription) (d : Display) : Prop :=
  sub.lastStatus = some d.1 ∧ sub.lastPresentation = some d.2

variable {sub : ActiveAgentStatusChangedSubscription} {event : EventEnvelope}
  {data : PaneAgentStatusChangedEvent}

theorem readEvents_of_none (h : event.statusOf sub.paneId = none) (saw : Bool) (sequence : ℕ)
    (rest : List (ℕ × EventEnvelope)) : sub.readEvents saw ((sequence, event) :: rest) =
      { sub with lastSequence := sequence }.readEvents saw rest := by
  rw [readEvents]
  unfold EventEnvelope.statusOf at h
  rcases hdata : event.data <;> simp_all

theorem readEvents_of_skipped (h : event.statusOf sub.paneId = some data)
    (hskip : passes sub.statusFilter data = false) (saw : Bool) (sequence : ℕ)
    (rest : List (ℕ × EventEnvelope)) : sub.readEvents saw ((sequence, event) :: rest) =
      { sub with
        lastSequence := sequence
        lastStatus := some data.agentStatus
        lastPresentation := some (.fromEvent data) }.readEvents true rest := by
  obtain ⟨hkind, hdata, hpane⟩ := EventEnvelope.statusOf_eq_some h
  have hfilter : sub.statusFilter.any (· ≠ data.agentStatus) = true := by
    simpa [passes] using hskip
  simp only [readEvents, hdata, hkind, hpane, ne_eq, not_true_eq_false, if_false, hfilter, if_true]

theorem readEvents_of_passed (h : event.statusOf sub.paneId = some data)
    (hpass : passes sub.statusFilter data = true) (saw : Bool) (sequence : ℕ)
    (rest : List (ℕ × EventEnvelope)) : sub.readEvents saw ((sequence, event) :: rest) =
      (some data, true, { sub with
        lastSequence := sequence
        lastStatus := some data.agentStatus
        lastPresentation := some (.fromEvent data)
        initialEvent := none }) := by
  obtain ⟨hkind, hdata, hpane⟩ := EventEnvelope.statusOf_eq_some h
  have hfilter : sub.statusFilter.any (· ≠ data.agentStatus) = false := by
    simpa [passes] using hpass
  simp only [readEvents, hdata, hkind, hpane, ne_eq, not_true_eq_false, if_false, hfilter,
    Bool.false_eq_true]

/-- What the loop has done when it has read `read`, with `rest` left. -/
structure ReadTo (sub : ActiveAgentStatusChangedSubscription) (d : Display) (saw : Bool)
    (read rest : List EventEnvelope)
    (result : Option PaneAgentStatusChangedEvent × Bool × ActiveAgentStatusChangedSubscription) :
    Prop where
  paneId : result.2.2.paneId = sub.paneId
  statusFilter : result.2.2.statusFilter = sub.statusFilter
  lastSequence : result.2.2.lastSequence = sub.lastSequence + read.length
  believes : result.2.2.Believes (showing sub.paneId d read)
  returned : (statusEvents sub.paneId read).filter (passes sub.statusFilter) = result.1.toList
  initialOfSome : result.1 ≠ none → result.2.2.initialEvent = none
  initialOfNone : result.1 = none → result.2.2.initialEvent = sub.initialEvent
  saw : result.1 = none → (result.2.1 = true ↔ saw = true ∨ statusEvents sub.paneId read ≠ [])
  all : result.1 = none → rest = []

/-- An event that is not returned is read before the others. -/
theorem ReadTo.cons {next : ActiveAgentStatusChangedSubscription} {d : Display} {saw saw' : Bool}
    {read rest : List EventEnvelope}
    {result : Option PaneAgentStatusChangedEvent × Bool × ActiveAgentStatusChangedSubscription}
    (h : ReadTo next (showing sub.paneId d [event]) saw' read rest result)
    (hpane : next.paneId = sub.paneId) (hfilter : next.statusFilter = sub.statusFilter)
    (hsequence : next.lastSequence = sub.lastSequence + 1)
    (hinitial : next.initialEvent = sub.initialEvent)
    (hsaw : saw' = true ↔ saw = true ∨ event.statusOf sub.paneId ≠ none)
    (hskip : ∀ data, event.statusOf sub.paneId = some data →
      passes sub.statusFilter data = false) :
    ReadTo sub d saw (event :: read) rest result where
  paneId := h.paneId.trans hpane
  statusFilter := h.statusFilter.trans hfilter
  lastSequence := by
    rw [h.lastSequence, hsequence, List.length_cons]
    omega
  believes := by
    have := h.believes
    rwa [hpane] at this
  returned := by
    rw [← h.returned, hpane, hfilter]
    rcases hstatus : event.statusOf sub.paneId with _ | data
    · simp [statusEvents, hstatus]
    · simp [statusEvents, hstatus, hskip data hstatus]
  initialOfSome := h.initialOfSome
  initialOfNone hnone := (h.initialOfNone hnone).trans hinitial
  saw hnone := by
    rw [h.saw hnone, hsaw, hpane, or_assoc]
    rcases hstatus : event.statusOf sub.paneId with _ | data <;> simp [statusEvents, hstatus]
  all := h.all

/-- The loop reads up to the first status event of the pane that passes the filter. -/
theorem readEvents_spec (sub : ActiveAgentStatusChangedSubscription) {d : Display}
    (hd : sub.Believes d) (saw : Bool) (l : List EventEnvelope) :
    ∃ read rest, l = read ++ rest ∧
      ReadTo sub d saw read rest (sub.readEvents saw (Numbered.after sub.lastSequence l)) := by
  induction l generalizing sub d saw with
  | nil =>
    exact ⟨[], [], rfl, ⟨rfl, rfl, rfl, hd, rfl, fun h => absurd rfl h, fun _ => rfl,
      fun _ => by simp [readEvents], fun _ => rfl⟩⟩
  | cons event l ih =>
    rcases hstatus : event.statusOf sub.paneId with _ | data
    · have hshow : showing sub.paneId d [event] = d := by simp [showing, hstatus]
      obtain ⟨read, rest, rfl, h⟩ := ih { sub with lastSequence := sub.lastSequence + 1 } hd saw
      refine ⟨event :: read, rest, rfl, ?_⟩
      rw [Numbered.after_cons, readEvents_of_none hstatus]
      rw [← hshow] at h
      exact h.cons rfl rfl rfl rfl (by simp [hstatus]) (by simp [hstatus])
    have hshow : showing sub.paneId d [event] = data.display := by simp [showing, hstatus]
    by_cases hpass : passes sub.statusFilter data = true
    · refine ⟨[event], l, rfl, ?_⟩
      rw [Numbered.after_cons, readEvents_of_passed hstatus hpass]
      exact ⟨rfl, rfl, rfl, by rw [hshow]; exact ⟨rfl, rfl⟩, by simp [statusEvents, hstatus, hpass],
        fun _ => rfl, nofun, nofun, nofun⟩
    · have hskip : passes sub.statusFilter data = false := by simpa using hpass
      obtain ⟨read, rest, rfl, h⟩ := ih { sub with
          lastSequence := sub.lastSequence + 1
          lastStatus := some data.agentStatus
          lastPresentation := some (.fromEvent data) } (d := data.display) ⟨rfl, rfl⟩ true
      refine ⟨event :: read, rest, rfl, ?_⟩
      rw [Numbered.after_cons, readEvents_of_skipped hstatus hskip]
      rw [← hshow] at h
      refine h.cons rfl rfl rfl rfl (by simp [hstatus]) ?_
      intro data' hdata'
      obtain rfl := Option.some.inj (hstatus.symm.trans hdata')
      exact hskip

/-- A snapshot that shows what is believed is no news. -/
theorem eventFromSnapshot_of_believes {pane : PaneInfo} (h : sub.Believes pane.display) :
    sub.eventFromSnapshot pane = (none, sub) := by
  obtain ⟨hstatus, hpresentation⟩ := h
  rcases sub with ⟨paneId, statusFilter, lastStatus, lastPresentation, lastSequence, initialEvent⟩
  obtain rfl : lastStatus = some pane.agentStatus := hstatus
  obtain rfl : lastPresentation = some (.of pane) := hpresentation
  simp [eventFromSnapshot]

end ActiveAgentStatusChangedSubscription

end Zynk.Api
