import Zynk.Api.Polling

/-!
# Runs of the agent-status subscription

In every run in which the app announces what it changes (`Announced`), the subscription is on track
(`Tracks`) between any two of its steps : its cursor, what it believes, its initial event and what
the polls have returned all follow from the events pushed since the base and from the probe.
-/

namespace Zynk.Api

open StepRun ActiveAgentStatusChangedSubscription

namespace StatusRun

/-- The app pushes an event with every change of what the pane shows, in the same step, and a poll
finds at most as many events it has not read as the hub keeps. -/
def Announced (s : StatusRun) : StatusStep → Prop
  | .app pane events => showing s.pane.paneId s.pane.display events = pane.display
  | .push => True
  | .poll _ =>
    match s.poller with
    | .ready sub => s.pushed.length ≤ sub.lastSequence + EventHub.maxEvents
    | _ => True

/-- The events after the base up to the cursor. -/
def readBy (s : StatusRun) (sub : ActiveAgentStatusChangedSubscription) : List EventEnvelope :=
  (s.pushed.take sub.lastSequence).drop s.watch.base

/-- The probe matched the filter. -/
def matched (s : StatusRun) (probe : PaneInfo) : Bool :=
  s.statusFilter.any (· = probe.agentStatus)

/-- The probe matched the filter, and no status event of the pane had been pushed after the base
when a poll first found no event unread. -/
def greeted (s : StatusRun) (probe : PaneInfo) : Bool :=
  s.matched probe && s.watch.calm.any fun n =>
    (statusEvents s.pane.paneId ((s.pushed.take n).drop s.watch.base)).isEmpty

/-- The initial event, if it is due, and the status events up to the cursor that pass the filter. -/
def owed (s : StatusRun) (probe : PaneInfo) (sub : ActiveAgentStatusChangedSubscription) :
    List PaneAgentStatusChangedEvent :=
  (if s.greeted probe then [probe.statusEvent] else []) ++
    (statusEvents s.pane.paneId (s.readBy sub)).filter (passes s.statusFilter)

/-- The subscription and the app are where the events say. -/
structure Tracks (s : StatusRun) (probe : PaneInfo)
    (sub : ActiveAgentStatusChangedSubscription) : Prop where
  probed : s.watch.probe = some probe
  paneId : sub.paneId = s.pane.paneId
  statusFilter : sub.statusFilter = s.statusFilter
  base : s.watch.base ≤ sub.lastSequence
  cursor : sub.lastSequence ≤ s.pushed.length
  calm : ∀ n ∈ s.watch.calm, n ≤ s.pushed.length
  shows : showing s.pane.paneId probe.display (s.pushed.drop s.watch.base ++ s.outbox) =
    s.pane.display
  believes : sub.Believes (showing s.pane.paneId probe.display (s.readBy sub))
  initial : sub.initialEvent =
    if s.matched probe && s.watch.calm.isNone &&
        (statusEvents s.pane.paneId (s.readBy sub)).isEmpty then
      some probe.statusEvent
    else none
  returned : s.watch.returned = s.owed probe sub

/-- What holds when the connection's thread is at `poller`. -/
def Phase (s : StatusRun) : Poller → Prop
  | .opening => s.watch = {}
  | .probing lastSequence => s.watch = { base := lastSequence } ∧ lastSequence ≤ s.pushed.length ∧
      ∃ d, showing s.pane.paneId d (s.pushed.drop lastSequence ++ s.outbox) = s.pane.display
  | .failed _ => True
  | .ready sub => ∃ probe, s.Tracks probe sub ∧
      (s.watch.result = none → s.watch.started ≤ sub.lastSequence)
  | .comparing sub | .asking sub => ∃ probe, s.Tracks probe sub ∧ s.watch.started ≤ sub.lastSequence
  | .confirming sub answer => ∃ probe, s.Tracks probe sub ∧ s.watch.started ≤ sub.lastSequence ∧
      ∀ pane, answer = .ok pane → s.pushed.length = sub.lastSequence → sub.Believes pane.display

structure Inv (s : StatusRun) : Prop where
  hub : s.hub.Holds s.pushed
  /-- The pane shows already what the queued events say. -/
  queue : showing s.pane.paneId s.pane.display s.outbox = s.pane.display
  phase : s.Phase s.poller

/-! ## Steps of the app -/

/-- What a step of the app leaves alone, and what it keeps. -/
structure AppStep (s s' : StatusRun) : Prop where
  poller : s'.poller = s.poller
  watch : s'.watch = s.watch
  statusFilter : s'.statusFilter = s.statusFilter
  paneId : s'.pane.paneId = s.pane.paneId
  pushed : ∃ new, s'.pushed = s.pushed ++ new
  hub : s'.hub.Holds s'.pushed
  queue : showing s'.pane.paneId s'.pane.display s'.outbox = s'.pane.display
  shows : ∀ base d, base ≤ s.pushed.length →
    showing s.pane.paneId d (s.pushed.drop base ++ s.outbox) = s.pane.display →
    showing s.pane.paneId d (s'.pushed.drop base ++ s'.outbox) = s'.pane.display

theorem appStep_refl {s : StatusRun} (h : s.Inv) : AppStep s s :=
  ⟨rfl, rfl, rfl, rfl, ⟨[], (List.append_nil _).symm⟩, h.hub, h.queue, fun _ _ _ h => h⟩

theorem appStep_app {s : StatusRun} (h : s.Inv) {pane : PaneInfo} {events : List EventEnvelope}
    (happ : s.Announced (.app pane events)) : AppStep s (s.step (.app pane events)) := by
  have happ : showing s.pane.paneId s.pane.display events = pane.display := happ
  rcases houtbox : s.outbox with _ | ⟨event, rest⟩
  · have hstep : s.step (.app pane events) =
        { s with pane := { pane with paneId := s.pane.paneId }, outbox := events } := by
      rw [step, houtbox]
    rw [hstep]
    refine ⟨rfl, rfl, rfl, rfl, ⟨[], (List.append_nil _).symm⟩, h.hub, ?_, ?_⟩
    · -- What the events say does not depend on what was shown before, or nothing is new.
      change showing s.pane.paneId pane.display events = pane.display
      by_cases hnil : statusEvents s.pane.paneId events = []
      · exact showing_of_nil _ hnil
      · rw [← happ]
        exact showing_of_ne_nil _ _ hnil
    · intro base d _ hd
      rw [houtbox, List.append_nil] at hd
      change showing s.pane.paneId d (s.pushed.drop base ++ events) = pane.display
      rw [showing_append, hd, happ]
  · have hstep : s.step (.app pane events) = s := by rw [step, houtbox]
    rw [hstep]
    exact appStep_refl h

theorem appStep_push {s : StatusRun} (h : s.Inv) : AppStep s (s.step .push) := by
  rcases houtbox : s.outbox with _ | ⟨event, rest⟩
  · have hstep : s.step .push = s := by rw [step, houtbox]
    rw [hstep]
    exact appStep_refl h
  · have hstep : s.step .push = { s with
        hub := s.hub.push event, outbox := rest, pushed := s.pushed ++ [event] } := by
      rw [step, houtbox]
    rw [hstep]
    refine ⟨rfl, rfl, rfl, rfl, ⟨[event], rfl⟩, h.hub.push event, ?_, ?_⟩
    · exact showing_tail (houtbox ▸ h.queue)
    · intro base d hbase hd
      rw [houtbox] at hd
      simpa [List.drop_append_of_le_length hbase] using hd

section AppStep

variable {s s' : StatusRun} {probe : PaneInfo} {sub : ActiveAgentStatusChangedSubscription}

theorem AppStep.readBy (h : AppStep s s') (hcursor : sub.lastSequence ≤ s.pushed.length) :
    s'.readBy sub = s.readBy sub := by
  obtain ⟨new, hnew⟩ := h.pushed
  rw [StatusRun.readBy, StatusRun.readBy, hnew, h.watch, List.take_append_of_le_length hcursor]

theorem AppStep.greeted (h : AppStep s s') (hcalm : ∀ n ∈ s.watch.calm, n ≤ s.pushed.length) :
    s'.greeted probe = s.greeted probe := by
  obtain ⟨new, hnew⟩ := h.pushed
  unfold StatusRun.greeted StatusRun.matched
  rw [h.watch, h.statusFilter, h.paneId, hnew]
  rcases hn : s.watch.calm with _ | n
  · rfl
  · simp [List.take_append_of_le_length (hcalm n hn)]

theorem Tracks.app (h : s.Tracks probe sub) (happ : AppStep s s') : s'.Tracks probe sub := by
  obtain ⟨new, hnew⟩ := happ.pushed
  have hle : s.pushed.length ≤ s'.pushed.length := by simp [hnew]
  refine ⟨?_, ?_, ?_, ?_, h.cursor.trans hle, ?_, ?_, ?_, ?_, ?_⟩
  · rw [happ.watch, h.probed]
  · rw [happ.paneId, h.paneId]
  · rw [happ.statusFilter, h.statusFilter]
  · rw [happ.watch]
    exact h.base
  · rw [happ.watch]
    exact fun n hn => (h.calm n hn).trans hle
  · rw [happ.watch, happ.paneId]
    exact happ.shows _ _ (h.base.trans h.cursor) h.shows
  · rw [happ.paneId, happ.readBy h.cursor]
    exact h.believes
  · rw [matched, happ.statusFilter, happ.watch, happ.paneId, happ.readBy h.cursor]
    exact h.initial
  · rw [owed, happ.watch, happ.greeted h.calm, happ.statusFilter, happ.paneId,
      happ.readBy h.cursor]
    exact h.returned

theorem Phase.app {poller : Poller} (h : s.Phase poller) (happ : AppStep s s') :
    s'.Phase poller := by
  obtain ⟨new, hnew⟩ := happ.pushed
  have hwatch := happ.watch
  rcases poller with _ | lastSequence | error | sub | sub | sub | ⟨sub, answer⟩
  · exact hwatch.trans h
  · obtain ⟨hbase, hle, d, hd⟩ := h
    refine ⟨hwatch.trans hbase, hle.trans (by simp [hnew]), d, ?_⟩
    rw [happ.paneId]
    exact happ.shows _ _ hle hd
  · trivial
  · obtain ⟨probe, htracks, hstarted⟩ := h
    exact ⟨probe, htracks.app happ, by rwa [hwatch]⟩
  · obtain ⟨probe, htracks, hstarted⟩ := h
    exact ⟨probe, htracks.app happ, by rwa [hwatch]⟩
  · obtain ⟨probe, htracks, hstarted⟩ := h
    exact ⟨probe, htracks.app happ, by rwa [hwatch]⟩
  · obtain ⟨probe, htracks, hstarted, hanswer⟩ := h
    refine ⟨probe, htracks.app happ, by rwa [hwatch], fun pane hpane hlast => ?_⟩
    -- With an event pushed since, the answer is not looked at.
    have hcursor := htracks.cursor
    rw [hnew, List.length_append] at hlast
    exact hanswer pane hpane (by omega)

theorem Inv.app (h : s.Inv) (happ : AppStep s s') : s'.Inv :=
  ⟨happ.hub, happ.queue, happ.poller ▸ h.phase.app happ⟩

end AppStep

/-! ## Steps of the connection's thread -/

/-- A poll leaves the hub, the pane and the queue alone. -/
theorem Inv.poll {s s' : StatusRun} (h : s.Inv) (hhub : s'.hub = s.hub) (hpane : s'.pane = s.pane)
    (houtbox : s'.outbox = s.outbox) (hpushed : s'.pushed = s.pushed)
    (hphase : s'.Phase s'.poller) : s'.Inv :=
  ⟨hhub ▸ hpushed ▸ h.hub, hpane ▸ houtbox ▸ h.queue, hphase⟩

section Poll

variable {s : StatusRun} {probe : PaneInfo} {sub sub' : ActiveAgentStatusChangedSubscription}

/-- The probe starts the subscription : what the pane shows is what the events since the base
say. -/
theorem tracks_new {lastSequence : ℕ} {d : Display} (hwatch : s.watch = { base := lastSequence })
    (hle : lastSequence ≤ s.pushed.length)
    (hd : showing s.pane.paneId d (s.pushed.drop lastSequence ++ s.outbox) = s.pane.display) :
    Tracks { s with
        poller := .ready (.new s.statusFilter lastSequence s.pane)
        watch := { s.watch with probe := some s.pane } }
      s.pane (.new s.statusFilter lastSequence s.pane) := by
  have hread : (s.pushed.take lastSequence).drop lastSequence = [] :=
    List.drop_eq_nil_of_le (by simp)
  rw [hwatch]
  refine ⟨rfl, rfl, rfl, Nat.le_refl _, hle, by simp, ?_, ?_, ?_, ?_⟩
  · change showing s.pane.paneId s.pane.display (s.pushed.drop lastSequence ++ s.outbox) = _
    by_cases hnil : statusEvents s.pane.paneId (s.pushed.drop lastSequence ++ s.outbox) = []
    · exact showing_of_nil _ hnil
    · rw [← hd]
      exact (showing_of_ne_nil _ _ hnil).trans rfl
  · change Believes _ (showing s.pane.paneId s.pane.display ((s.pushed.take lastSequence).drop lastSequence))
    rw [hread]
    exact ⟨rfl, rfl⟩
  · simp [readBy, ActiveAgentStatusChangedSubscription.new, hread, matched]
  · simp [owed, readBy, ActiveAgentStatusChangedSubscription.new, hread, greeted]

theorem readBy_of_drop {read rest : List EventEnvelope} (h : s.Tracks probe sub)
    (hdrop : s.pushed.drop sub.lastSequence = read ++ rest)
    (hsequence : sub'.lastSequence = sub.lastSequence + read.length) :
    s.readBy sub' = s.readBy sub ++ read := by
  have hbase := h.base
  have hcursor := h.cursor
  rw [readBy, readBy, hsequence, List.take_add, hdrop, List.take_left,
    List.drop_append_of_le_length (by simp; omega)]

/-- What a step of a poll leaves alone. -/
structure PollStep (s s' : StatusRun) : Prop where
  pane : s'.pane = s.pane
  outbox : s'.outbox = s.outbox
  pushed : s'.pushed = s.pushed
  statusFilter : s'.statusFilter = s.statusFilter
  base : s'.watch.base = s.watch.base
  probe : s'.watch.probe = s.watch.probe
  calm : s'.watch.calm = s.watch.calm

/-- The subscription has read on. -/
theorem Tracks.advance {s' : StatusRun} {read rest : List EventEnvelope}
    {result : Option PaneAgentStatusChangedEvent} (h : s.Tracks probe sub) (hs : PollStep s s')
    (hdrop : s.pushed.drop sub.lastSequence = read ++ rest)
    (hpane : sub'.paneId = sub.paneId) (hfilter : sub'.statusFilter = sub.statusFilter)
    (hsequence : sub'.lastSequence = sub.lastSequence + read.length)
    (hbelieves : sub'.Believes
      (showing sub.paneId (showing s.pane.paneId probe.display (s.readBy sub)) read))
    (hread : (statusEvents sub.paneId read).filter (passes sub.statusFilter) = result.toList)
    (hreturned : s'.watch.returned = s.watch.returned ++ result.toList)
    (hinitial : sub'.initialEvent =
      if s.matched probe && s.watch.calm.isNone &&
          (statusEvents s.pane.paneId (s.readBy sub ++ read)).isEmpty then
        some probe.statusEvent
      else none) : s'.Tracks probe sub' := by
  have hreadBy : s'.readBy sub' = s.readBy sub ++ read := by
    rw [← readBy_of_drop h hdrop hsequence, readBy, readBy, hs.pushed, hs.base]
  have hlen := congrArg List.length hdrop
  rw [List.length_drop, List.length_append] at hlen
  have hcursor := h.cursor
  have hgreeted : s'.greeted probe = s.greeted probe := by
    rw [greeted, greeted, matched, matched, hs.calm, hs.statusFilter, hs.pane, hs.pushed, hs.base]
  refine ⟨hs.probe.trans h.probed, ?_, ?_, ?_, ?_, ?_, ?_, ?_, ?_, ?_⟩
  · rw [hpane, h.paneId, hs.pane]
  · rw [hfilter, h.statusFilter, hs.statusFilter]
  · rw [hs.base, hsequence]
    exact Nat.le_trans h.base (Nat.le_add_right _ _)
  · rw [hs.pushed, hsequence]
    omega
  · rw [hs.calm, hs.pushed]
    exact h.calm
  · rw [hs.pane, hs.pushed, hs.base, hs.outbox]
    exact h.shows
  · rw [hs.pane, hreadBy, showing_append, ← h.paneId]
    rwa [← h.paneId] at hbelieves
  · rw [matched, hs.statusFilter, hs.calm, hs.pane, hreadBy]
    exact hinitial
  · rw [hreturned, owed, hgreeted, hreadBy, hs.statusFilter, hs.pane, statusEvents_append,
      List.filter_append, ← List.append_assoc, h.returned, owed, ← hread, h.paneId, h.statusFilter]

/-- The same subscription, one step of the poll later. -/
theorem Tracks.keep {s' : StatusRun} (h : s.Tracks probe sub) (hs : PollStep s s')
    (hreturned : s'.watch.returned = s.watch.returned) : s'.Tracks probe sub := by
  have hreturned' : s'.watch.returned =
      s.watch.returned ++ (none : Option PaneAgentStatusChangedEvent).toList := by
    rw [hreturned, Option.toList_none, List.append_nil]
  have hdrop : s.pushed.drop sub.lastSequence = [] ++ s.pushed.drop sub.lastSequence := rfl
  refine h.advance hs hdrop rfl rfl rfl h.believes rfl hreturned' ?_
  rw [List.append_nil]
  exact h.initial

theorem pollStep_finish (s : StatusRun) (sub : ActiveAgentStatusChangedSubscription)
    (result : Option PaneAgentStatusChangedEvent) : PollStep s (s.finish sub result) :=
  ⟨rfl, rfl, rfl, rfl, rfl, rfl, rfl⟩

/-- A poll that returns nothing. -/
theorem Tracks.finish (h : s.Tracks probe sub) (hstarted : s.watch.started ≤ sub.lastSequence) :
    (s.finish sub none).Phase (s.finish sub none).poller :=
  ⟨probe, h.keep (pollStep_finish s sub none) (List.append_nil _), fun _ => hstarted⟩

/-- The first part of a poll reads what the hub has, or up to the event it returns. -/
theorem phase_readHub (hhub : s.hub.Holds s.pushed) (h : s.Tracks probe sub)
    (hroom : s.pushed.length ≤ sub.lastSequence + EventHub.maxEvents) :
    (s.readHub sub).Phase (s.readHub sub).poller := by
  obtain ⟨read, rest, hdrop, hspec⟩ :=
    sub.readEvents_spec h.believes false (s.pushed.drop sub.lastSequence)
  rw [← hhub.eventsAfter_of_le hroom] at hspec
  have hlen := congrArg List.length hdrop
  rw [List.length_drop, List.length_append] at hlen
  -- What the loop leaves is never further than what was pushed, and is that far when it is done.
  have hstarted (hnone : (sub.readEvents false (s.hub.eventsAfter sub.lastSequence)).1 = none) :
      s.pushed.length ≤
        (sub.readEvents false (s.hub.eventsAfter sub.lastSequence)).2.2.lastSequence := by
    rw [hspec.lastSequence]
    rw [hspec.all hnone, List.length_nil] at hlen
    omega
  simp only [readHub]
  generalize sub.readEvents false (s.hub.eventsAfter sub.lastSequence) = result at hspec hstarted ⊢
  obtain ⟨_ | event, saw, sub'⟩ := result
  · rcases saw with _ | _
    · have hnil : statusEvents sub.paneId read = [] := by
        simpa using hspec.saw rfl
      refine ⟨probe, h.advance ⟨rfl, rfl, rfl, rfl, rfl, rfl, rfl⟩ hdrop hspec.paneId
        hspec.statusFilter hspec.lastSequence hspec.believes hspec.returned (List.append_nil _).symm ?_,
        hstarted rfl⟩
      rw [statusEvents_append, ← h.paneId, hnil, List.append_nil, h.paneId]
      exact (hspec.initialOfNone rfl).trans h.initial
    · have hnil : statusEvents sub.paneId read ≠ [] := by
        simpa using hspec.saw rfl
      refine ⟨probe, h.advance ⟨rfl, rfl, rfl, rfl, rfl, rfl, rfl⟩ hdrop hspec.paneId
        hspec.statusFilter hspec.lastSequence hspec.believes hspec.returned (List.append_nil _).symm ?_,
        hstarted rfl⟩
      rw [statusEvents_append, ← h.paneId]
      simp [hnil]
  · have hnil : statusEvents sub.paneId read ≠ [] := by
      intro hnil
      simpa [hnil] using hspec.returned
    refine ⟨probe, h.advance ⟨rfl, rfl, rfl, rfl, rfl, rfl, rfl⟩ hdrop hspec.paneId
      hspec.statusFilter hspec.lastSequence hspec.believes hspec.returned rfl ?_, nofun⟩
    rw [statusEvents_append, ← h.paneId, hspec.initialOfSome nofun]
    simp [hnil]

/-- With no event unread, the initial event is out or dropped for good. -/
theorem Tracks.calmed {s' : StatusRun} (h : s.Tracks probe sub)
    (hlast : s.pushed.length = sub.lastSequence) (hpane : s'.pane = s.pane)
    (houtbox : s'.outbox = s.outbox) (hpushed : s'.pushed = s.pushed)
    (hfilter : s'.statusFilter = s.statusFilter) (hbase : s'.watch.base = s.watch.base)
    (hprobe : s'.watch.probe = s.watch.probe)
    (hcalm : s'.watch.calm = (s.watch.calm <|> some s.pushed.length))
    (hreturned : s'.watch.returned = s.watch.returned ++ sub.initialEvent.toList) :
    s'.Tracks probe { sub with initialEvent := none } := by
  have hreadBy : s'.readBy { sub with initialEvent := none } = s.readBy sub := by
    rw [readBy, readBy, hpushed, hbase]
  have hread : s.readBy sub = (s.pushed.take s.pushed.length).drop s.watch.base := by
    rw [readBy, hlast]
  refine ⟨hprobe.trans h.probed, ?_, ?_, ?_, ?_, ?_, ?_, ?_, ?_, ?_⟩
  · rw [hpane]
    exact h.paneId
  · rw [hfilter]
    exact h.statusFilter
  · rw [hbase]
    exact h.base
  · rw [hpushed]
    exact h.cursor
  · rw [hcalm, hpushed]
    rcases hn : s.watch.calm with _ | n
    · simp
    · simpa using h.calm n hn
  · rw [hpane, hpushed, hbase, houtbox]
    exact h.shows
  · rw [hpane, hreadBy]
    exact h.believes
  · rcases hn : s.watch.calm with _ | n <;> simp [hcalm, hn]
  · -- The initial event is there exactly when it becomes due now.
    have hinitial := h.initial
    rw [hreturned, h.returned, owed, owed, greeted, greeted, matched, matched, hreadBy, hfilter,
      hcalm, hpane, hpushed, hbase]
    rw [matched] at hinitial
    rcases hn : s.watch.calm with _ | n
    · rw [hn] at hinitial
      have hany : ((none <|> some s.pushed.length : Option ℕ).any fun n => (statusEvents s.pane.paneId
          ((s.pushed.take n).drop s.watch.base)).isEmpty) =
          (statusEvents s.pane.paneId (s.readBy sub)).isEmpty := by
        rw [hread]
        rfl
      rw [hinitial, hany]
      by_cases hnil : statusEvents s.pane.paneId (s.readBy sub) = []
      · by_cases hmatched : s.statusFilter.any (· = probe.agentStatus) = true
        · simp [hnil, hmatched]
        · simp [hnil, hmatched]
      · simp [hnil]
    · rw [hn] at hinitial
      simp [hinitial]

theorem phase_compareSequence (hhub : s.hub.Holds s.pushed) (h : s.Tracks probe sub)
    (hstarted : s.watch.started ≤ sub.lastSequence) :
    (s.compareSequence sub).Phase (s.compareSequence sub).poller := by
  by_cases heq : s.hub.currentSequence = sub.lastSequence
  · have hlast : s.pushed.length = sub.lastSequence := hhub.nextSequence.symm.trans heq
    rcases hinitial : sub.initialEvent with _ | event
    · have hsub : sub = { sub with initialEvent := none } := by rw [← hinitial]
      simp only [compareSequence, heq, ne_eq, not_true_eq_false, if_false, hinitial]
      refine ⟨probe, ?_, hstarted⟩
      rw [hsub]
      exact h.calmed hlast rfl rfl rfl rfl rfl rfl rfl (by simp [hinitial])
    · simp only [compareSequence, heq, ne_eq, not_true_eq_false, if_false, hinitial]
      exact ⟨probe, h.calmed hlast rfl rfl rfl rfl rfl rfl rfl (by rw [hinitial]; rfl), nofun⟩
  · simp only [compareSequence, heq, ne_eq, not_false_eq_true, if_true]
    exact h.finish hstarted

/-- With no event pushed since, the answer shows what is believed. -/
theorem phase_asking (h : s.Tracks probe sub) (hstarted : s.watch.started ≤ sub.lastSequence)
    (houtbox : s.outbox = []) :
    StatusRun.Phase { s with poller := .confirming sub (.ok s.pane) }
      (.confirming sub (.ok s.pane)) := by
  refine ⟨probe, h.keep ⟨rfl, rfl, rfl, rfl, rfl, rfl, rfl⟩ rfl, hstarted, ?_⟩
  rintro pane ⟨⟩ hlast
  have hread : s.readBy sub = s.pushed.drop s.watch.base := by
    rw [readBy, List.take_of_length_le (Nat.le_of_eq hlast)]
  have hshows := h.shows
  rw [houtbox, List.append_nil, ← hread] at hshows
  rw [← hshows]
  exact h.believes

theorem phase_confirmSnapshot {answer : Except ErrorBody PaneInfo} (hhub : s.hub.Holds s.pushed)
    (h : s.Tracks probe sub) (hstarted : s.watch.started ≤ sub.lastSequence)
    (hanswer : ∀ pane, answer = .ok pane → s.pushed.length = sub.lastSequence →
      sub.Believes pane.display) :
    (s.confirmSnapshot sub answer).Phase (s.confirmSnapshot sub answer).poller := by
  by_cases heq : s.hub.currentSequence = sub.lastSequence
  · have hlast : s.pushed.length = sub.lastSequence := hhub.nextSequence.symm.trans heq
    rcases answer with error | pane
    · simp only [confirmSnapshot, heq, ne_eq, not_true_eq_false, if_false]
      exact h.finish hstarted
    · have hnews := eventFromSnapshot_of_believes (hanswer pane rfl hlast)
      simp only [confirmSnapshot, heq, ne_eq, not_true_eq_false, if_false, hnews]
      exact h.finish hstarted
  · simp only [confirmSnapshot, heq, ne_eq, not_false_eq_true, if_true]
    exact h.finish hstarted

end Poll

/-- An answer of the app when its queue is empty. -/
theorem pollStep_probing {s : StatusRun} {lastSequence : ℕ} (hpoller : s.poller = .probing lastSequence)
    (houtbox : s.outbox = []) : s.pollStep none = { s with
      poller := .ready (.new s.statusFilter lastSequence s.pane)
      watch := { s.watch with probe := some s.pane } } := by
  simp only [pollStep, hpoller, houtbox]

theorem pollStep_asking {s : StatusRun} {sub : ActiveAgentStatusChangedSubscription}
    (hpoller : s.poller = .asking sub) (houtbox : s.outbox = []) :
    s.pollStep none = { s with poller := .confirming sub (.ok s.pane) } := by
  simp only [pollStep, hpoller, houtbox]

/-- A request that the app does not answer yet. -/
theorem pollStep_waiting {s : StatusRun} {event : EventEnvelope} {rest : List EventEnvelope}
    (hpoller : (∃ lastSequence, s.poller = .probing lastSequence) ∨ ∃ sub, s.poller = .asking sub)
    (houtbox : s.outbox = event :: rest) : s.pollStep none = s := by
  rcases hpoller with ⟨lastSequence, hpoller⟩ | ⟨sub, hpoller⟩ <;>
    simp only [pollStep, hpoller, houtbox]

/-- The connection's thread takes its next step. -/
theorem Inv.pollStep {s : StatusRun} (h : s.Inv) {failure : Option ErrorBody}
    (hroom : s.Announced (.poll failure)) : (s.pollStep failure).Inv := by
  have hphase := h.phase
  have hroom : ∀ sub, s.poller = .ready sub →
      s.pushed.length ≤ sub.lastSequence + EventHub.maxEvents := by
    intro sub hsub
    unfold Announced at hroom
    rwa [hsub] at hroom
  rcases hpoller : s.poller with _ | lastSequence | error | sub | sub | sub | ⟨sub, answer⟩
  all_goals rw [hpoller] at hphase
  · -- What the queue says is shown already.
    have hwatch : s.watch = {} := hphase
    simp only [StatusRun.pollStep, hpoller]
    refine h.poll rfl rfl rfl rfl ⟨?_, Nat.le_of_eq h.hub.nextSequence, s.pane.display, ?_⟩
    · simp [hwatch]
    · change showing s.pane.paneId s.pane.display (s.pushed.drop s.hub.nextSequence ++ s.outbox) = _
      rw [h.hub.nextSequence, List.drop_length, List.nil_append]
      exact h.queue
  · obtain ⟨hwatch, hle, d, hd⟩ := hphase
    rcases failure with _ | error
    · rcases houtbox : s.outbox with _ | ⟨event, rest⟩
      · rw [pollStep_probing hpoller houtbox]
        refine h.poll rfl rfl rfl rfl ⟨s.pane, tracks_new hwatch hle hd, fun _ => ?_⟩
        simp [hwatch]
      · rw [pollStep_waiting (.inl ⟨lastSequence, hpoller⟩) houtbox]
        exact h
    · simp only [StatusRun.pollStep, hpoller]
      exact h.poll rfl rfl rfl rfl trivial
  · simpa only [StatusRun.pollStep, hpoller] using h
  · obtain ⟨probe, htracks, -⟩ := hphase
    have hphase := phase_readHub h.hub htracks (hroom sub hpoller)
    simp only [StatusRun.pollStep, hpoller]
    refine h.poll ?_ ?_ ?_ ?_ hphase
    all_goals
      unfold readHub
      dsimp only
      split <;> rfl
  · obtain ⟨probe, htracks, hstarted⟩ := hphase
    have hphase := phase_compareSequence h.hub htracks hstarted
    simp only [StatusRun.pollStep, hpoller]
    refine h.poll ?_ ?_ ?_ ?_ hphase
    all_goals
      unfold compareSequence
      dsimp only
      repeat' split
      all_goals rfl
  · obtain ⟨probe, htracks, hstarted⟩ := hphase
    rcases failure with _ | error
    · rcases houtbox : s.outbox with _ | ⟨event, rest⟩
      · rw [pollStep_asking hpoller houtbox]
        exact h.poll rfl rfl rfl rfl (phase_asking htracks hstarted houtbox)
      · rw [pollStep_waiting (.inr ⟨sub, hpoller⟩) houtbox]
        exact h
    · simp only [StatusRun.pollStep, hpoller]
      exact h.poll rfl rfl rfl rfl ⟨probe, htracks.keep ⟨rfl, rfl, rfl, rfl, rfl, rfl, rfl⟩ rfl,
        hstarted, nofun⟩
  · obtain ⟨probe, htracks, hstarted, hanswer⟩ := hphase
    have hphase := phase_confirmSnapshot h.hub htracks hstarted hanswer
    simp only [StatusRun.pollStep, hpoller]
    refine h.poll ?_ ?_ ?_ ?_ hphase
    all_goals
      unfold confirmSnapshot
      repeat' split
      all_goals rfl

theorem inv_step {s : StatusRun} (h : s.Inv) (e : StatusStep) (he : s.Announced e) :
    (s.step e).Inv := by
  rcases e with ⟨pane, events⟩ | _ | failure
  · exact h.app (appStep_app h he)
  · exact h.app (appStep_push h)
  · exact h.pollStep he

theorem inv_start (pane : PaneInfo) (statusFilter : Option AgentStatus)
    (pushed : List EventEnvelope) : (start pane statusFilter pushed).Inv :=
  ⟨EventHub.holds_foldl_push pushed, rfl, rfl⟩

/-- The pane keeps its id, and the subscription its filter. -/
theorem step_fixed (s : StatusRun) (e : StatusStep) :
    (s.step e).pane.paneId = s.pane.paneId ∧ (s.step e).statusFilter = s.statusFilter := by
  rcases e with ⟨pane, events⟩ | _ | failure
  · unfold step
    dsimp only
    split <;> exact ⟨rfl, rfl⟩
  · unfold step
    dsimp only
    split <;> exact ⟨rfl, rfl⟩
  · have hpoll : (s.pollStep failure).pane = s.pane ∧
        (s.pollStep failure).statusFilter = s.statusFilter := by
      unfold pollStep readHub compareSequence confirmSnapshot
      dsimp only
      repeat' split
      all_goals exact ⟨rfl, rfl⟩
    exact ⟨congrArg PaneInfo.paneId hpoll.1, hpoll.2⟩

theorem run_fixed (s : StatusRun) (es : List StatusStep) :
    (run step s es).pane.paneId = s.pane.paneId ∧ (run step s es).statusFilter = s.statusFilter :=
  run_invariant
    (I := fun t : StatusRun => t.pane.paneId = s.pane.paneId ∧ t.statusFilter = s.statusFilter)
    (fun t e ht => ⟨(step_fixed t e).1.trans ht.1, (step_fixed t e).2.trans ht.2⟩) ⟨rfl, rfl⟩ es

end StatusRun

/-! ## Both subscriptions -/

/-- A subscription to a kind returns pushed events of the kind, in their order and each at most
once. With room in the hub it returns all of them up to its cursor, and when a poll returns nothing
there are no others.

The subscription to an agent's status returns, when the app announces what it changes, all status
events of the pane after the base and up to its cursor that pass the filter, in their order and
once each, and before them the initial event if and only if the probe matched the filter and no
status event of the pane was pushed after the base before a poll first found no event unread. When
a poll returns nothing, the cursor is behind everything that was pushed before the poll. -/
theorem subscriptions_deliver :
    (∀ kind pushed es, (run KindRun.step (.start kind pushed) es).returned.Sublist
      ((run KindRun.step (.start kind pushed) es).pushed.filter (·.isOf kind))) ∧
    (∀ kind pushed es s, s = run KindRun.step (.start kind pushed) es →
      Along KindRun.step KindRun.Room (.start kind pushed) es →
      s.returned = (s.pushed.take s.sub.lastSequence).filter (·.isOf kind) ∧
      (s.Room .poll → (s.sub.poll s.hub).1 = none → s.returned = s.pushed.filter (·.isOf kind))) ∧
    (∀ pane statusFilter pushed es s, s = run StatusRun.step (.start pane statusFilter pushed) es →
      Along StatusRun.step StatusRun.Announced (.start pane statusFilter pushed) es →
      ∀ sub, s.poller = .ready sub → ∃ probe, s.watch.probe = some probe ∧
        s.watch.returned = (if s.greeted probe then [probe.statusEvent] else []) ++
          (statusEvents pane.paneId ((s.pushed.take sub.lastSequence).drop s.watch.base)).filter
            (passes statusFilter) ∧
        (s.watch.result = none → s.watch.started ≤ sub.lastSequence)) := by
  refine ⟨?_, ?_, ?_⟩
  · intro kind pushed es
    obtain ⟨hreads, hkind⟩ := KindRun.run_reads kind pushed es
    have hsub := hreads.returned.trans ((List.take_sublist _ _).filter _)
    rwa [hkind] at hsub
  · rintro kind pushed es s rfl hroom
    obtain ⟨hreads, hkind⟩ := KindRun.run_reads kind pushed es
    have hexact := KindRun.run_exact kind pushed es hroom
    rw [KindRun.delivered, hkind] at hexact
    refine ⟨hexact, fun hlast hnone => hexact.trans ?_⟩
    have hall := KindRun.delivered_of_poll_none hreads hlast hnone
    rwa [KindRun.delivered, hkind] at hall
  · rintro pane statusFilter pushed es s rfl hes sub hready
    have hinv := run_induction (I := fun _ (s : StatusRun) => s.Inv) (StatusRun.inv_start pane statusFilter pushed)
      (fun _ _ e ht he => StatusRun.inv_step ht e he) es hes
    obtain ⟨hpane, hfilter⟩ := StatusRun.run_fixed (.start pane statusFilter pushed) es
    have hphase := hinv.phase
    rw [hready] at hphase
    obtain ⟨probe, htracks, hstarted⟩ := hphase
    refine ⟨probe, htracks.probed, ?_, hstarted⟩
    have hreturned := htracks.returned
    rw [StatusRun.owed, hpane, hfilter] at hreturned
    exact hreturned

/-- A pane with a working agent. -/
def workingPane (title : Option String) : PaneInfo where
  paneId := "w1:p1"
  workspaceId := "w1"
  agent := some "pi"
  title := title
  displayAgent := none
  agentStatus := .working
  stateLabels := ∅

/-- The initial event goes out, and then a title that the app sets and announces. -/
def titleSet : List StatusStep :=
  [.poll none, .poll none, .poll none, .poll none,
    .app (workingPane (some "build")) [⟨.paneAgentStatusChanged,
      .paneAgentStatusChanged (workingPane (some "build")).statusEvent⟩],
    .push, .poll none]

theorem subscriptions_deliver_titleSet :
    (run StatusRun.step (.start (workingPane none) (some .working) []) titleSet).watch.returned =
      [(workingPane none).statusEvent, (workingPane (some "build")).statusEvent] := by
  have hroom : 1 ≤ 0 + EventHub.maxEvents := by decide
  obtain ⟨probe, hprobe, hreturned, -⟩ := subscriptions_deliver.2.2 (workingPane none)
    (some .working) [] titleSet _ rfl
    ⟨trivial, trivial, Nat.zero_le _, trivial, rfl, trivial, hroom, trivial⟩ _ rfl
  obtain rfl : workingPane none = probe := Option.some.inj hprobe
  rw [hreturned]
  rfl

end Zynk.Api
