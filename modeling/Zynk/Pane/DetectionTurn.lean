import Zynk.Pane.DetectionLoop

/-!
# What one turn of a detection loop can do

A turn takes up what the probe found and then looks at the screen. `Probed` lists what the first
part can come to, and `Finished` what the second can. What is proved of the events of a run goes by
these two lists.
-/

namespace Zynk.Detection

/-- The exits among the events, as they are recorded. -/
def exitsOf (events : List StateChanged) : List (Option Agent × ℕ) :=
  (events.filter (·.processExited)).map fun event => (event.agent, event.observedAt)

@[simp] theorem exitsOf_nil : exitsOf [] = [] :=
  rfl

theorem exitsOf_append (es fs : List StateChanged) :
    exitsOf (es ++ fs) = exitsOf es ++ exitsOf fs := by
  simp [exitsOf]

/-- What is published between two states, with the exits recorded. -/
structure Emits (s s' : DetectionLoop) (events : List StateChanged) : Prop where
  sent : s'.stateEvents.sent = s.stateEvents.sent ++ events
  recorded : s'.stateEvents.pendingExits = s.stateEvents.pendingExits ++ exitsOf events

theorem Emits.refl (s : DetectionLoop) : Emits s s [] :=
  ⟨by simp, by simp⟩

theorem Emits.of_eq {s s' : DetectionLoop} (h : s'.stateEvents = s.stateEvents) :
    Emits s s' [] :=
  ⟨by rw [h, List.append_nil], by rw [h, exitsOf_nil, List.append_nil]⟩

theorem Emits.trans {s s' s'' : DetectionLoop} {es fs : List StateChanged} (h : Emits s s' es)
    (h' : Emits s' s'' fs) : Emits s s'' (es ++ fs) :=
  ⟨by rw [h'.sent, h.sent, List.append_assoc],
    by rw [h'.recorded, h.recorded, exitsOf_append, List.append_assoc]⟩

/-- What was published between the two states, read off the later one. -/
def published (s s' : DetectionLoop) : List StateChanged :=
  s'.stateEvents.sent.drop s.stateEvents.sent.length

theorem Emits.published_eq {s s' : DetectionLoop} {events : List StateChanged}
    (h : Emits s s' events) : published s s' = events := by
  rw [published, h.sent, List.drop_left]

/-- The event that tells of what is shown. -/
def DetectionPublishState.event (next : DetectionPublishState) (agent : Option Agent)
    (exited : Bool) (now : ℕ) : StateChanged :=
  { agent := agent
    state := next.state
    visibleBlocker := next.visibleBlocker
    visibleWorking := next.visibleWorking
    processExited := exited
    observedAt := now }

namespace DetectionLoop

def currentAgent (s : DetectionLoop) : Option Agent :=
  s.agentPresence.currentAgent

/-- Nothing is published, and what is known of the agent, of its exit and of what is shown stays. -/
structure Kept (s s' : DetectionLoop) : Prop where
  presence : s'.agentPresence = s.agentPresence
  pending : s'.pendingForegroundShellClear = s.pendingForegroundShellClear
  reported : s'.foregroundShellExitReported = s.foregroundShellExitReported
  publishState : s'.publishState = s.publishState
  grace : s.agentStartupGraceUntil = none → s'.agentStartupGraceUntil = none
  emits : Emits s s' []

theorem Kept.refl (s : DetectionLoop) : Kept s s :=
  ⟨rfl, rfl, rfl, rfl, id, .refl s⟩

variable {s s' : DetectionLoop}

theorem Kept.trans {s'' : DetectionLoop} (h : Kept s s') (h' : Kept s' s'') : Kept s s'' :=
  ⟨h'.presence.trans h.presence, h'.pending.trans h.pending, h'.reported.trans h.reported,
    h'.publishState.trans h.publishState, fun hg => h'.grace (h.grace hg), h.emits.trans h'.emits⟩

theorem Kept.currentAgent (h : Kept s s') : s'.currentAgent = s.currentAgent := by
  unfold DetectionLoop.currentAgent
  rw [h.presence]

theorem Kept.processExited (h : Kept s s') : s'.processExited = s.processExited := by
  unfold DetectionLoop.processExited
  rw [h.presence, h.pending, h.reported]

theorem kept_clearPendingIdle (s : DetectionLoop) : Kept s s.clearPendingIdle :=
  ⟨rfl, rfl, rfl, rfl, id, .of_eq rfl⟩

theorem kept_forgetScreen (s : DetectionLoop) : Kept s s.forgetScreen :=
  ⟨rfl, rfl, rfl, rfl, id, .of_eq rfl⟩

theorem kept_noteScreen (s : DetectionLoop) (seq : Option ℕ) (text : String) :
    Kept s (s.noteScreen seq text) :=
  ⟨rfl, rfl, rfl, rfl, id, .of_eq rfl⟩

theorem kept_syncContentChangeAcquisition (s : DetectionLoop) (suppressedAgent : Option Agent)
    (groupChanged contentChanged : Bool) (now : ℕ) :
    Kept s (s.syncContentChangeAcquisition suppressedAgent groupChanged contentChanged now) := by
  unfold syncContentChangeAcquisition
  simp only
  split
  · exact .refl s
  · split
    · exact ⟨rfl, rfl, rfl, rfl, id, .of_eq rfl⟩
    · split
      · split
        · exact ⟨rfl, rfl, rfl, rfl, id, .of_eq rfl⟩
        · exact .refl s
      · exact .refl s

theorem kept_passStartupGrace (task : DetectionTask) (s : DetectionLoop) (now : ℕ)
    (exited : Bool) : Kept s (s.passStartupGrace task now exited).2 := by
  unfold passStartupGrace
  split
  · exact .refl s
  · split
    · cases task <;> exact ⟨rfl, rfl, rfl, rfl, fun _ => rfl, .of_eq rfl⟩
    · split
      · exact ⟨rfl, rfl, rfl, rfl, id, .of_eq rfl⟩
      · cases task <;> exact ⟨rfl, rfl, rfl, rfl, fun _ => rfl, .of_eq rfl⟩

variable {task : DetectionTask}

/-- An exit goes on through the grace window, and so does a turn outside of one. -/
theorem passStartupGrace_goes {now : ℕ} {exited : Bool}
    (h : exited = true ∨ s.agentStartupGraceUntil = none) :
    (s.passStartupGrace task now exited).1 = true := by
  unfold passStartupGrace
  split
  · rfl
  · rename_i untilAt huntil
    rcases h with rfl | hnone
    · cases task <;> rfl
    · rw [huntil] at hnone
      cases hnone

/-! ## Publishing -/

/-- The detection is published, under the agent that is current. -/
structure Published (s : DetectionLoop) (now : ℕ) (next : DetectionPublishState) (exited : Bool)
    (s' : DetectionLoop) : Prop where
  presence : s'.agentPresence = s.agentPresence
  pending : s'.pendingForegroundShellClear = s.pendingForegroundShellClear
  reported : s'.foregroundShellExitReported = (s.foregroundShellExitReported || exited)
  publishState : s'.publishState = next
  grace : s.agentStartupGraceUntil = none → s'.agentStartupGraceUntil = none
  emits : Emits s s' [next.event s.currentAgent exited now]

theorem emits_publish (s : DetectionLoop) (event : StateChanged) :
    Emits s (s.publish event) [event] := by
  unfold publish DetectionEventSender.publishStateChangedEvent
  split
  · rename_i hexit
    exact ⟨rfl, by simp [exitsOf, hexit]⟩
  · rename_i hexit
    exact ⟨rfl, by simp [exitsOf, hexit]⟩

theorem published_apply (s : DetectionLoop) (next : DetectionPublishState) (exited : Bool)
    (now : ℕ) : Published s now next exited
      (s.applyAgentDetectionPublishUpdate next exited now) := by
  refine ⟨rfl, rfl, rfl, rfl, id, ?_⟩
  unfold applyAgentDetectionPublishUpdate
  exact ⟨(emits_publish _ _).sent, (emits_publish _ _).recorded⟩

/-- The detection is held, says what is shown already, or is published. -/
theorem decide_cases (input : ScreenDetectionPublishInput) (pending : PendingIdleConfirmation) :
    (∃ pending', decideScreenDetectionPublish input pending = (.noPublish, pending') ∧
        input.processExited = false ∧ input.agentChanged = false ∧
        (input.screenDetection.publishState = input.current ∨
          input.current.state = .working ∧ input.screenDetection.state = .idle)) ∨
      ∃ pending', decideScreenDetectionPublish input pending =
        (.publish input.screenDetection.publishState input.processExited, pending') := by
  unfold decideScreenDetectionPublish decideDetectionTransition
  simp only
  rcases hhold : pending.shouldHoldWorkingToIdle input.current input.screenDetection.publishState
    input.agentChanged input.processExited input.now with ⟨_ | _, pending'⟩
  · simp only
    split_ifs with hnot
    · exact Or.inr ⟨pending', rfl⟩
    · left
      refine ⟨pending', rfl, ?_⟩
      simp only [shouldPublishDetectionUpdate, Bool.or_eq_true, bne_iff_ne, ne_eq, not_or,
        Bool.not_eq_true, not_not] at hnot
      obtain ⟨⟨⟨⟨⟨⟨hstate, hidle⟩, hblocker⟩, hworking⟩, hchanged⟩, hexited⟩, -⟩ := hnot
      refine ⟨hexited, hchanged, Or.inl ?_⟩
      cases hcurrent : input.current
      cases hnext : input.screenDetection.publishState
      simp_all
  · left
    refine ⟨pending', rfl, ?_⟩
    unfold PendingIdleConfirmation.shouldHoldWorkingToIdle at hhold
    simp only at hhold
    split at hhold
    · cases hhold
    · rename_i hplain
      simp only [AgentDetection.publishState, Bool.not_eq_true', Bool.not_eq_false,
        Bool.and_eq_true, beq_iff_eq] at hplain
      obtain ⟨⟨⟨⟨⟨hworking, hidle⟩, -⟩, -⟩, hchanged⟩, hexited⟩ := hplain
      exact ⟨hexited, hchanged, Or.inr ⟨hworking, hidle⟩⟩

/-- From the second look at the pause on. -/
theorem decideAndPublish_cases (s : DetectionLoop) (it : Iteration) (detection : AgentDetection)
    (changed exited : Bool) :
    (it.pausedAtPublish = true ∧ exited = false ∧
        s.decideAndPublish it detection changed exited = (s.forgetScreen, .pausedAtPublish)) ∨
      (∃ s', s.decideAndPublish it detection changed exited = (s', .decided) ∧ Kept s s' ∧
        exited = false ∧ changed = false ∧ (detection.publishState = s.publishState ∨
          s.state = .working ∧ detection.state = .idle)) ∨
      ∃ s', s.decideAndPublish it detection changed exited = (s', .decided) ∧
        Published s it.now detection.publishState exited s' := by
  unfold decideAndPublish
  split
  · rename_i hpaused
    simp only [screenDetectionPermitted, Bool.not_or, Bool.not_not, Bool.and_eq_true,
      Bool.not_eq_true'] at hpaused
    exact Or.inl ⟨hpaused.1, hpaused.2, rfl⟩
  · right
    simp only
    rcases decide_cases ⟨s.publishState, s.lastVisibleSignalRefresh, detection, exited, changed,
        it.now⟩ s.pendingIdle with ⟨pending', heq, hexited, hchanged, hsame⟩ | ⟨pending', heq⟩
    · rw [heq]
      exact Or.inl ⟨_, rfl, ⟨rfl, rfl, rfl, rfl, id, .of_eq rfl⟩, hexited, hchanged, hsame⟩
    · rw [heq]
      have hpublished := published_apply { s with pendingIdle := pending' } detection.publishState
        exited it.now
      exact Or.inr ⟨_, rfl, hpublished.presence, hpublished.pending, hpublished.reported,
        hpublished.publishState, hpublished.grace, hpublished.emits.sent,
        hpublished.emits.recorded⟩

/-! ## The rest of a turn -/

/-- A screen is skipped when its agent is idle, nothing about it is pending, and it is the one that
was read last. -/
theorem skip_iff {input : DetectionScreenReadInput} :
    decideDetectionScreenRead input = .skip ↔ input.state = .idle ∧ input.agent.isSome = true ∧
      input.pendingIdleActive = false ∧ input.agentChanged = false ∧
      input.processExited = false ∧ ∃ seq, input.currentDetectionContentSeq = some seq ∧
        input.lastScreenScanDetectionContentSeq = some seq := by
  unfold decideDetectionScreenRead shouldSkipIdleScreenScan
  cases hseq : input.currentDetectionContentSeq with
  | none => simp
  | some seq => cases hagent : input.agent <;> simp

/-- What is published of an exit. -/
def exitShown : DetectionPublishState :=
  { state := .idle, visibleIdle := true, visibleBlocker := false, visibleWorking := false }

/-- What is published of a pane without an agent. -/
def unknownShown : DetectionPublishState :=
  { state := .unknown, visibleIdle := false, visibleBlocker := false, visibleWorking := false }

/-- A pane without an agent is never a viewer, and always unknown. -/
theorem update_of_no_agent (manifests : Manifests) (input : DetectionInput) :
    detectionUpdateForPublishWithOsc manifests none input false = some { state := .unknown } :=
  rfl

theorem processExited_of_no_agent (h : s.currentAgent = none) : s.processExited = false := by
  unfold processExited
  rw [show s.agentPresence.currentAgent = none from h]
  simp

/-- The text of the screen keeps an exit from being published. -/
def ExitHidden (task : DetectionTask) (manifests : Manifests) (agent : Option Agent)
    (it : Iteration) : Prop :=
  task = .spawned ∧ it.pausedAtRead = false ∧
    shouldSkipStateUpdate manifests agent it.screen.text = true

/-- The rules say of some input that the agent is shown like this. -/
def Detected (manifests : Manifests) (agent : Agent) (next : DetectionPublishState) : Prop :=
  ∃ input, (detectWithOsc manifests agent input).skipStateUpdate = false ∧
    next = (detectWithOsc manifests agent input).publishState

/-- What the rest of a turn can come to : an answer under the authority of a hook, an end before the
decision, and a decision that publishes nothing or something. -/
inductive Finished (task : DetectionTask) (manifests : Manifests) (seen : Seen) (it : Iteration) :
    DetectionLoop → Ending → Prop
  | answered {s' : DetectionLoop} (authority : it.lifecycleAuthorityActive = true)
      (alive : seen.loop.processExited = false)
      (kept : Kept (seen.loop.answerUnderHookAuthority
        (if seen.agentChanged then none else seen.found.bind (·.1)) it.now) s') :
      Finished task manifests seen it s' .hookAuthority
  | stopped {s' : DetectionLoop} {ending : Ending} (kept : Kept seen.loop s')
      (undecided : ending ≠ .decided)
      (hidden : seen.loop.processExited = true → ExitHidden task manifests seen.agent it)
      (suppressed : seen.agent = none → seen.loop.agentStartupGraceUntil = none →
        it.pausedAtRead = true ∨ it.pausedAtPublish = true) :
      Finished task manifests seen it s' ending
  | unchanged {s' : DetectionLoop} (kept : Kept seen.loop s')
      (alive : seen.loop.processExited = false) (same : seen.agentChanged = false)
      (unknown : seen.agent = none → seen.loop.publishState = unknownShown) :
      Finished task manifests seen it s' .decided
  | published {s' : DetectionLoop} (next : DetectionPublishState)
      (publishes : Published seen.loop it.now next seen.loop.processExited s')
      (exit : seen.loop.processExited = true → next = exitShown)
      (unknown : seen.agent = none → next = unknownShown)
      (known : ∀ agent, seen.agent = some agent → seen.loop.processExited = false →
        Detected manifests agent next) :
      Finished task manifests seen it s' .decided

variable {manifests : Manifests}

theorem detected_of_update {agent : Agent} {input : DetectionInput} {detection : AgentDetection}
    (h : detection ∈ detectionUpdateForPublishWithOsc manifests (some agent) input false) :
    Detected manifests agent detection.publishState := by
  have h : (if (detectWithOsc manifests agent input).skipStateUpdate then none
      else some (detectWithOsc manifests agent input)) = some detection := h
  split_ifs at h with hskip
  obtain rfl := Option.some.inj h
  exact ⟨input, by simpa using hskip, rfl⟩

variable {seen : Seen}

/-- An update is taken, from a state that differs from the one the probe left in what has to do with
the screen only. -/
theorem finished_takeUpdate {task : DetectionTask} {it : Iteration} (hkept : Kept seen.loop s)
    {update : Option AgentDetection} (hexit : seen.loop.processExited = true →
      update = some { state := .idle, visibleIdle := true })
    (hunknown : seen.agent = none → update = some { state := .unknown })
    (hknown : ∀ agent, seen.agent = some agent → seen.loop.processExited = false →
      ∀ detection ∈ update, Detected manifests agent detection.publishState) :
    let r := s.takeUpdate it update seen.agentChanged seen.loop.processExited
    Finished task manifests seen it r.1 r.2 := by
  cases update with
  | none =>
    show Finished task manifests seen it s.clearPendingIdle .noUpdate
    refine .stopped (hkept.trans (kept_clearPendingIdle s)) (by decide) ?_ ?_
    · intro h
      cases hexit h
    · intro h
      cases hunknown h
  | some detection =>
    show Finished task manifests seen it
      (s.decideAndPublish it detection seen.agentChanged seen.loop.processExited).1
      (s.decideAndPublish it detection seen.agentChanged seen.loop.processExited).2
    have hnext (h : seen.agent = none) : detection.publishState = unknownShown := by
      rw [Option.some.inj (hunknown h)]
      rfl
    rcases decideAndPublish_cases s it detection seen.agentChanged seen.loop.processExited with
      ⟨hpaused, halive, heq⟩ | ⟨s', heq, hkept', halive, hsame, hshown⟩ | ⟨s', heq, hpublished⟩
    · rw [heq]
      show Finished task manifests seen it s.forgetScreen .pausedAtPublish
      refine .stopped (hkept.trans (kept_forgetScreen s)) (by decide) ?_ fun _ _ => Or.inr hpaused
      intro h
      rw [halive] at h
      cases h
    · rw [heq]
      refine .unchanged (hkept.trans hkept') halive hsame fun h => ?_
      rcases hshown with hshown | ⟨-, hidle⟩
      · rw [← hkept.publishState, ← hshown, hnext h]
      · rw [Option.some.inj (hunknown h)] at hidle
        cases hidle
    · rw [heq]
      refine .published detection.publishState ⟨?_, ?_, ?_, ?_, ?_, ?_⟩ ?_ hnext
        fun agent hsome halive => hknown agent hsome halive detection rfl
      · exact hpublished.presence.trans hkept.presence
      · exact hpublished.pending.trans hkept.pending
      · rw [hpublished.reported, hkept.reported]
      · exact hpublished.publishState
      · exact fun hg => hpublished.grace (hkept.grace hg)
      · have hemits := hkept.emits.trans hpublished.emits
        rw [hkept.currentAgent] at hemits
        exact hemits
      · intro h
        rw [Option.some.inj (hexit h)]
        rfl

variable {it : Iteration}

theorem finished_scanScreen {task : DetectionTask} {manifests : Manifests}
    (hkept : Kept seen.loop s) (seq : Option ℕ)
    (hpaused : it.pausedAtRead = true → seen.loop.processExited = true) :
    let r := s.scanScreen task manifests seen it seq seen.loop.processExited
    Finished task manifests seen it r.1 r.2 := by
  have hagent (h : seen.agent = none) : seen.loop.processExited = false :=
    processExited_of_no_agent h
  unfold scanScreen
  simp only
  split
  · rename_i hread
    refine finished_takeUpdate hkept (fun _ => rfl) (fun h => ?_) fun agent _ halive => ?_
    · rw [hagent h] at hpaused
      cases hpaused hread
    · rw [halive] at hpaused
      cases hpaused hread
  · rename_i hread
    rw [Bool.not_eq_true] at hread
    have hnoted := hkept.trans (kept_noteScreen s seq it.screen.text)
    split
    · rename_i hviewer
      show Finished task manifests seen it (s.noteScreen seq it.screen.text).clearPendingIdle
        .viewer
      refine .stopped (hnoted.trans (kept_clearPendingIdle _)) (by decide) ?_ ?_
      · intro hexit
        cases task with
        | basic =>
          rw [viewerHides, hexit] at hviewer
          cases hviewer
        | spawned => exact ⟨rfl, hread, hviewer⟩
      · intro h
        rw [h] at hviewer
        cases task with
        | basic =>
          simp only [viewerHides, Bool.and_eq_true] at hviewer
          cases hviewer.2
        | spawned => cases hviewer
    · refine finished_takeUpdate (hnoted.trans (kept_syncContentChangeAcquisition _ _ _ _ _)) ?_
        ?_ ?_
      · intro h
        rw [h]
        rfl
      · intro h
        rw [h, hagent h]
        exact update_of_no_agent manifests _
      · intro agent hsome halive detection hdetection
        rw [hsome, halive] at hdetection
        exact detected_of_update hdetection

theorem finished_watchScreen {task : DetectionTask} {manifests : Manifests} {obeysSkip : Bool}
    {it : Iteration} (hkept : Kept seen.loop s) :
    let r := s.watchScreen task manifests obeysSkip seen it seen.loop.processExited
    Finished task manifests seen it r.1 r.2 := by
  unfold watchScreen
  simp only
  split
  · rename_i hpaused
    simp only [screenDetectionPermitted, Bool.not_or, Bool.not_not, Bool.and_eq_true,
      Bool.not_eq_true'] at hpaused
    show Finished task manifests seen it s.forgetScreen .paused
    refine .stopped (hkept.trans (kept_forgetScreen s)) (by decide) ?_ fun _ _ => Or.inl hpaused.1
    intro h
    rw [hpaused.2] at h
    cases h
  · rename_i hpermitted
    have hpaused : it.pausedAtRead = true → seen.loop.processExited = true := by
      intro hread
      rw [screenDetectionPermitted, hread] at hpermitted
      simpa using hpermitted
    split
    · rename_i hskip
      -- Only the screen of an agent that has not exited is skipped.
      obtain ⟨-, hagent, -, -, halive, -⟩ := skip_iff.1 hskip
      show Finished task manifests seen it s .skipped
      refine .stopped hkept (by decide) ?_ ?_
      · intro h
        have halive : seen.loop.processExited = false := halive
        rw [halive] at h
        cases h
      · intro h
        rw [screenReadInput, h] at hagent
        cases hagent
    · exact finished_scanScreen hkept _ hpaused

theorem finished_finishTurn (task : DetectionTask) (manifests : Manifests) (obeysSkip : Bool)
    (seen : Seen) (it : Iteration) :
    let r := finishTurn task manifests obeysSkip seen it
    Finished task manifests seen it r.1 r.2 := by
  unfold finishTurn
  simp only
  split
  · rename_i hauthority
    simp only [Bool.and_eq_true, Bool.not_eq_true'] at hauthority
    exact .answered hauthority.1 hauthority.2 (kept_clearPendingIdle _)
  · have hkept := kept_passStartupGrace task seen.loop it.now seen.loop.processExited
    have hgoes (h : seen.loop.processExited = true ∨ seen.loop.agentStartupGraceUntil = none) :
        (seen.loop.passStartupGrace task it.now seen.loop.processExited).1 = true :=
      passStartupGrace_goes h
    rcases heq : seen.loop.passStartupGrace task it.now seen.loop.processExited with ⟨goes, s⟩
    rw [heq] at hkept hgoes
    cases goes with
    | false =>
      show Finished task manifests seen it s .startupGrace
      refine .stopped hkept (by decide) ?_ ?_
      · intro h
        cases hgoes (Or.inl h)
      · intro _ h
        cases hgoes (Or.inr h)
    | true => exact finished_watchScreen hkept

/-- What every end of a turn leaves : the agent is the same, and an exit that is not due is not
published. -/
theorem Finished.frame {ending : Ending} (h : Finished task manifests seen it s' ending) :
    s'.agentPresence = seen.loop.agentPresence ∧
      s'.pendingForegroundShellClear = seen.loop.pendingForegroundShellClear ∧
      (seen.loop.agentStartupGraceUntil = none → s'.agentStartupGraceUntil = none) := by
  cases h with
  | answered _ _ kept =>
    have hframe (fresh : Option Agent) :
        (seen.loop.answerUnderHookAuthority fresh it.now).agentPresence =
            seen.loop.agentPresence ∧
          (seen.loop.answerUnderHookAuthority fresh it.now).pendingForegroundShellClear =
            seen.loop.pendingForegroundShellClear ∧
          (seen.loop.answerUnderHookAuthority fresh it.now).agentStartupGraceUntil =
            seen.loop.agentStartupGraceUntil := by
      cases fresh <;> exact ⟨rfl, rfl, rfl⟩
    obtain ⟨hpresence, hpending, hgrace⟩ := hframe _
    exact ⟨kept.presence.trans hpresence, kept.pending.trans hpending,
      fun hnone => kept.grace (hgrace.trans hnone)⟩
  | stopped kept => exact ⟨kept.presence, kept.pending, kept.grace⟩
  | unchanged kept => exact ⟨kept.presence, kept.pending, kept.grace⟩
  | published next publishes => exact ⟨publishes.presence, publishes.pending, publishes.grace⟩

theorem Finished.no_exit {ending : Ending} (h : Finished task manifests seen it s' ending)
    (halive : seen.loop.processExited = false) :
    s'.foregroundShellExitReported = seen.loop.foregroundShellExitReported ∧
      ∃ events, Emits seen.loop s' events ∧ exitsOf events = [] := by
  cases h with
  | answered _ _ kept =>
    have hanswer (fresh : Option Agent) :
        (seen.loop.answerUnderHookAuthority fresh it.now).foregroundShellExitReported =
            seen.loop.foregroundShellExitReported ∧
          ∃ events, Emits seen.loop (seen.loop.answerUnderHookAuthority fresh it.now) events ∧
            exitsOf events = [] := by
      cases fresh with
      | none => exact ⟨rfl, [], .refl _, rfl⟩
      | some agent => exact ⟨rfl, _, emits_publish _ _, rfl⟩
    obtain ⟨hreported, events, hemits, hnone⟩ := hanswer _
    refine ⟨kept.reported.trans hreported, events ++ [], hemits.trans kept.emits, ?_⟩
    rw [List.append_nil, hnone]
  | stopped kept => exact ⟨kept.reported, [], kept.emits, rfl⟩
  | unchanged kept => exact ⟨kept.reported, [], kept.emits, rfl⟩
  | published next publishes =>
    rw [halive] at publishes
    refine ⟨?_, _, publishes.emits, rfl⟩
    rw [publishes.reported, Bool.or_false]

/-- An exit that is not hidden is published. -/
theorem Finished.exit {ending : Ending} (h : Finished task manifests seen it s' ending)
    (hexited : seen.loop.processExited = true)
    (hshown : ¬ ExitHidden task manifests seen.agent it) :
    Published seen.loop it.now exitShown true s' := by
  cases h with
  | answered _ alive =>
    rw [hexited] at alive
    cases alive
  | stopped _ _ hidden => exact absurd (hidden hexited) hshown
  | unchanged _ alive =>
    rw [hexited] at alive
    cases alive
  | published next publishes exit =>
    rw [hexited] at publishes
    exact exit hexited ▸ publishes

/-- An exit that the text hides is not published. -/
theorem kept_of_exitHidden (manifests : Manifests) (hexited : seen.loop.processExited = true)
    (hhidden : ExitHidden task manifests seen.agent it) :
    Kept seen.loop (finishTurn task manifests true seen it).1 := by
  obtain ⟨rfl, hread, hviewer⟩ := hhidden
  have hkept := kept_passStartupGrace .spawned seen.loop it.now true
  have hgoes : (seen.loop.passStartupGrace .spawned it.now true).1 = true :=
    passStartupGrace_goes (Or.inl rfl)
  unfold finishTurn
  simp only [hexited, Bool.not_true, Bool.and_false, Bool.false_eq_true, if_false]
  rcases heq : seen.loop.passStartupGrace .spawned it.now true with ⟨goes, s⟩
  rw [heq] at hgoes hkept
  simp only at hgoes hkept
  subst hgoes
  simp only [watchScreen, hread, screenDetectionPermitted, Bool.not_false, Bool.true_or,
    Bool.not_true, Bool.false_eq_true, if_false]
  split
  · exact hkept
  · simp only [scanScreen, hread, Bool.false_eq_true, if_false, viewerHides, hviewer, if_true]
    exact (hkept.trans (kept_noteScreen s _ _)).trans (kept_clearPendingIdle _)

/-! ## Waking and the probe -/

/-- The loop goes on from where it was, or from the start. -/
theorem awaken_cases (task : DetectionTask) (s : DetectionLoop) (it : Iteration) :
    it.wake ≠ .reset ∧ Kept s (s.awaken task it) ∨
      it.wake = .reset ∧ (s.awaken task it).currentAgent = none ∧
        (s.awaken task it).pendingForegroundShellClear = false ∧
        (s.awaken task it).foregroundShellExitReported = false ∧
        (s.awaken task it).publishState = unknownShown ∧
        (s.awaken task it).agentStartupGraceUntil = none ∧ Emits s (s.awaken task it) [] := by
  unfold awaken
  cases it.wake with
  | elapsed => exact Or.inl ⟨by decide, .refl s⟩
  | reset => exact Or.inr ⟨rfl, rfl, rfl, rfl, rfl, rfl, by simp [resetDetection], by
      simp [resetDetection]⟩
  | pauseNotified => exact Or.inl ⟨by decide, kept_forgetScreen s⟩

theorem kept_suppressReleased (s : DetectionLoop) (it : Iteration) :
    Kept s (s.suppressReleased it).2 := by
  unfold suppressReleased activePendingRelease
  simp only
  rcases it.released.orElse fun _ => s.pendingRelease with _ | pending
  · simp only
    split_ifs <;> exact ⟨rfl, rfl, rfl, rfl, id, .of_eq rfl⟩
  · simp only
    by_cases hactive : it.now < pending.untilAt
    · simp only [hactive, if_true]
      exact ⟨rfl, rfl, rfl, rfl, id, .of_eq rfl⟩
    · simp only [hactive, if_false]
      split_ifs <;> exact ⟨rfl, rfl, rfl, rfl, id, .of_eq rfl⟩

theorem kept_noteProbe (s : DetectionLoop) (it : Iteration) (suppressedAgent : Option Agent) :
    Kept s (s.noteProbe it suppressedAgent) :=
  ⟨rfl, rfl, rfl, rfl, id, by simp [noteProbe, DetectionEventSender.recordForegroundProbe], by
    simp [noteProbe, DetectionEventSender.recordForegroundProbe]⟩

theorem kept_followAcquisition (s : DetectionLoop) (it : Iteration) (newAgent : Option Agent)
    (had groupChanged : Bool) : Kept s (s.followAcquisition it newAgent had groupChanged) :=
  ⟨rfl, rfl, rfl, rfl, id, .of_eq rfl⟩

/-- The shown state and the events are not what the action on a probe is about. -/
structure Acted (s s' : DetectionLoop) : Prop where
  publishState : s'.publishState = s.publishState
  grace : s.agentStartupGraceUntil = none → s'.agentStartupGraceUntil = none
  emits : Emits s s' []

theorem Kept.acted (h : Kept s s') : Acted s s' :=
  ⟨h.publishState, h.grace, h.emits⟩

theorem Acted.trans {s'' : DetectionLoop} (h : Acted s s') (h' : Acted s' s'') : Acted s s'' :=
  ⟨h'.publishState.trans h.publishState, fun hg => h'.grace (h.grace hg), h.emits.trans h'.emits⟩

theorem acted_answerProbe (s : DetectionLoop) (presence : AgentDetectionPresence) :
    Acted s (s.answerProbe presence) :=
  ⟨rfl, id, .of_eq rfl⟩

/-- What the probe can come to : there was none; an exit is to be reported; the agent stays, is
dropped, or is another one now. -/
inductive Probed (s : DetectionLoop) (it : Iteration) (seen : Seen) : Prop
  | unprobed (found : seen.found = none) (same : seen.agentChanged = false)
      (kept : Kept s seen.loop)
  | exited (found : seen.found = some (none, true)) (same : seen.agentChanged = false)
      (current : s.currentAgent ≠ none) (stays : seen.loop.agentPresence = s.agentPresence)
      (unreported : s.foregroundShellExitReported = false)
      (reported : seen.loop.foregroundShellExitReported = false)
      (pending : seen.loop.pendingForegroundShellClear = true) (acted : Acted s seen.loop)
  | stayed {newAgent : Option Agent} {shell : Bool} (found : seen.found = some (newAgent, shell))
      (same : seen.agentChanged = false) (stays : seen.agent = s.currentAgent)
      (who : newAgent = s.currentAgent ∨
        newAgent = none ∧ s.foregroundShellExitReported = false ∧ shell = false)
      (reported : seen.loop.foregroundShellExitReported = false)
      (pending : seen.loop.pendingForegroundShellClear = false) (acted : Acted s seen.loop)
  | dropped {shell : Bool} (found : seen.found = some (none, shell))
      (changed : seen.agentChanged = true) (current : s.currentAgent ≠ none)
      (gone : seen.agent = none) (why : s.foregroundShellExitReported = true ∨ shell = false)
      (reported : seen.loop.foregroundShellExitReported = false)
      (pending : seen.loop.pendingForegroundShellClear = false)
      (grace : seen.loop.agentStartupGraceUntil = none) (acted : Acted s seen.loop)
  | identified {agent : Agent} {shell : Bool} (found : seen.found = some (some agent, shell))
      (changed : seen.agentChanged = true) (other : s.currentAgent ≠ some agent)
      (now : seen.agent = some agent) (reported : seen.loop.foregroundShellExitReported = false)
      (pending : seen.loop.pendingForegroundShellClear = false)
      (publishState : seen.loop.publishState = exitShown)
      (emits : Emits s seen.loop [{ agent := some agent, state := .idle, observedAt := it.now }])

/-- What the presence makes of a probe : the agent stays, is lost, or is another one. -/
theorem observe_cases (p : AgentDetectionPresence) (newAgent : Option Agent) :
    (p.observeProcessProbe newAgent).1 = false ∧
        (p.observeProcessProbe newAgent).2.currentAgent = p.currentAgent ∧
        (newAgent = p.currentAgent ∨ newAgent = none) ∨
      (p.observeProcessProbe newAgent).1 = true ∧ newAgent = none ∧ p.currentAgent ≠ none ∧
        (p.observeProcessProbe newAgent).2.currentAgent = none ∨
      ∃ agent, (p.observeProcessProbe newAgent).1 = true ∧ newAgent = some agent ∧
        p.currentAgent ≠ some agent ∧
        (p.observeProcessProbe newAgent).2.currentAgent = some agent := by
  cases newAgent with
  | none =>
    rw [AgentDetectionPresence.observeProcessProbe]
    split_ifs with hnone hfew
    · exact Or.inl ⟨rfl, rfl, Or.inr rfl⟩
    · exact Or.inl ⟨rfl, rfl, Or.inr rfl⟩
    · exact Or.inr (Or.inl ⟨rfl, rfl, by simpa using hnone, rfl⟩)
  | some agent =>
    rw [AgentDetectionPresence.observeProcessProbe]
    split_ifs with hsame
    · exact Or.inl ⟨rfl, rfl, Or.inl hsame⟩
    · exact Or.inr (Or.inr ⟨agent, rfl, rfl, fun h => hsame h.symm, rfl⟩)

/-- The action on the agent is one of these four; all but the first take an exit back. -/
inductive Action (s : DetectionLoop) (shell : Bool) (newAgent : Option Agent) :
    Bool × DetectionLoop → Prop
  | report (found : newAgent = none) (inShell : shell = true) (current : s.currentAgent ≠ none)
      (unreported : s.foregroundShellExitReported = false) :
      Action s shell newAgent (false, { s with pendingForegroundShellClear := true })
  | stay (presence : AgentDetectionPresence) (stays : presence.currentAgent = s.currentAgent)
      (who : newAgent = s.currentAgent ∨
        newAgent = none ∧ s.foregroundShellExitReported = false ∧ shell = false) :
      Action s shell newAgent (false, s.answerProbe presence)
  | drop (presence : AgentDetectionPresence) (gone : presence.currentAgent = none)
      (found : newAgent = none) (current : s.currentAgent ≠ none)
      (why : s.foregroundShellExitReported = true ∨ shell = false) :
      Action s shell newAgent (true, s.answerProbe presence)
  | change (presence : AgentDetectionPresence) (agent : Agent)
      (now : presence.currentAgent = some agent) (found : newAgent = some agent)
      (other : s.currentAgent ≠ some agent) :
      Action s shell newAgent (true, s.answerProbe presence)

/-- The probe is observed, when the shell is not in the foreground or there is no one to leave. -/
theorem action_observe (s : DetectionLoop) {shell : Bool} {newAgent : Option Agent}
    (hwhy : newAgent = none → s.currentAgent ≠ none →
      s.foregroundShellExitReported = false ∧ shell = false) :
    Action s shell newAgent ((s.agentPresence.observeProcessProbe newAgent).1,
      s.answerProbe (s.agentPresence.observeProcessProbe newAgent).2) := by
  rcases observe_cases s.agentPresence newAgent with ⟨hchanged, hstays, hwho⟩ |
    ⟨hchanged, hfound, hcurrent, hgone⟩ | ⟨agent, hchanged, hfound, hother, hnow⟩
  · rw [hchanged]
    refine .stay _ hstays ?_
    rcases hwho with hwho | hnone
    · exact Or.inl hwho
    · by_cases hcurrent : s.currentAgent = none
      · exact Or.inl (hnone.trans hcurrent.symm)
      · exact Or.inr ⟨hnone, hwhy hnone hcurrent⟩
  · rw [hchanged]
    exact .drop _ hgone hfound hcurrent (Or.inr (hwhy hfound hcurrent).2)
  · rw [hchanged]
    exact .change _ agent hnow hfound hother

theorem action_actOnProbe (s : DetectionLoop) (it : Iteration) (newAgent : Option Agent) :
    Action s it.probe.foregroundIsPaneShell newAgent (s.actOnProbe it newAgent) := by
  unfold actOnProbe foregroundShellAgentAction
  by_cases hnobody : (s.agentPresence.currentAgent.isNone || newAgent.isSome) = true
  · rw [if_pos hnobody]
    refine action_observe s fun hfound hcurrent => ?_
    rw [Bool.or_eq_true, Option.isNone_iff_eq_none, hfound] at hnobody
    rcases hnobody with hnone | hsome
    · exact absurd hnone hcurrent
    · cases hsome
  · rw [if_neg hnobody]
    simp only [Bool.or_eq_true, Option.isNone_iff_eq_none, not_or, Bool.not_eq_true,
      Option.isSome_eq_false_iff] at hnobody
    obtain ⟨hcurrent, hfound⟩ := hnobody
    by_cases hreported : s.foregroundShellExitReported = true
    · rw [if_pos hreported]
      have hclear : s.agentPresence.clearCurrentAgent = (true, { currentAgent := none }) := by
        rw [AgentDetectionPresence.clearCurrentAgent, if_neg (by simpa using hcurrent)]
      simp only [hclear]
      exact .drop _ rfl hfound hcurrent (Or.inl hreported)
    · rw [if_neg hreported]
      rw [Bool.not_eq_true] at hreported
      by_cases hshell : it.probe.foregroundIsPaneShell = true
      · rw [if_pos hshell]
        exact .report hfound hshell hcurrent hreported
      · rw [if_neg hshell]
        exact action_observe s fun _ _ => ⟨hreported, by simpa using hshell⟩

/-- Another agent is announced, and shown as idle. -/
theorem takeAgent_of_some {agent : Agent} (h : s.currentAgent = some agent) (now : ℕ) :
    (s.takeAgent now).agentPresence = s.agentPresence ∧
      (s.takeAgent now).foregroundShellExitReported = s.foregroundShellExitReported ∧
      (s.takeAgent now).pendingForegroundShellClear = s.pendingForegroundShellClear ∧
      (s.takeAgent now).publishState = exitShown ∧
      Emits s (s.takeAgent now) [{ agent := some agent, state := .idle, observedAt := now }] := by
  have h : s.agentPresence.currentAgent = some agent := h
  unfold takeAgent
  simp only [h]
  exact ⟨rfl, rfl, rfl, rfl, (emits_publish _ _).sent, (emits_publish _ _).recorded⟩

theorem takeAgent_of_none (h : s.currentAgent = none) (now : ℕ) :
    Kept s (s.takeAgent now) ∧ (s.takeAgent now).agentStartupGraceUntil = none := by
  have h : s.agentPresence.currentAgent = none := h
  have heq : s.takeAgent now = { s with
      pendingIdle := {}
      lastScreenScanDetectionContentSeq := none
      agentStartupGraceUntil := none } := by
    simp only [takeAgent, h]
  rw [heq]
  exact ⟨⟨rfl, rfl, rfl, rfl, fun _ => rfl, .of_eq rfl⟩, rfl⟩

theorem probed_probeForeground (s : DetectionLoop) (it : Iteration) :
    Probed s it (s.probeForeground it) := by
  have hsuppressed := kept_suppressReleased s it
  unfold probeForeground
  generalize s.suppressReleased it = suppressed at hsuppressed ⊢
  obtain ⟨suppressedAgent, s₁⟩ := suppressed
  simp only at hsuppressed ⊢
  by_cases hcheck : s₁.shouldCheckProcess it suppressedAgent = true
  swap
  · rw [if_neg hcheck]
    exact .unprobed rfl rfl hsuppressed
  · rw [if_pos hcheck]
    have hnoted := hsuppressed.trans (kept_noteProbe s₁ it suppressedAgent)
    have haction := action_actOnProbe (s₁.noteProbe it suppressedAgent) it
      (foundAgent it suppressedAgent)
    generalize hactedOn : (s₁.noteProbe it suppressedAgent).actOnProbe it
      (foundAgent it suppressedAgent) = acted at haction ⊢
    have hcurrent : (s₁.noteProbe it suppressedAgent).currentAgent = s.currentAgent :=
      hnoted.currentAgent
    have hreported : (s₁.noteProbe it suppressedAgent).foregroundShellExitReported =
      s.foregroundShellExitReported := hnoted.reported
    cases haction with
    | report found inShell current unreported =>
      rw [hcurrent] at current
      rw [hreported] at unreported
      refine .exited (by rw [found, inShell]) rfl current ?_ unreported ?_ rfl ?_
      · exact hnoted.presence
      · exact hnoted.reported.trans unreported
      · exact hnoted.acted.trans ⟨rfl, id, .of_eq rfl⟩
    | stay presence stays who =>
      rw [hcurrent] at stays who
      rw [hreported] at who
      exact .stayed rfl rfl stays who rfl rfl (hnoted.acted.trans ⟨rfl, id, .of_eq rfl⟩)
    | drop presence gone found current why =>
      rw [hcurrent] at current
      rw [hreported] at why
      simp only [if_true]
      have hanswered := acted_answerProbe (s₁.noteProbe it suppressedAgent) presence
      have hfollowed := kept_followAcquisition ((s₁.noteProbe it suppressedAgent).answerProbe
        presence) it (foundAgent it suppressedAgent) s₁.hasProcessProbe
        (foregroundGroupChanged (foregroundGroup it) s₁.lastForegroundPgid)
      obtain ⟨htaken, hgrace⟩ := takeAgent_of_none (hfollowed.currentAgent.trans gone) it.now
      have hkept := hfollowed.trans htaken
      refine .dropped (by rw [found]) rfl current (hkept.currentAgent.trans gone) why
        hkept.reported hkept.pending hgrace (hnoted.acted.trans (hanswered.trans hkept.acted))
    | change presence agent now found other =>
      rw [hcurrent] at other
      simp only [if_true]
      have hanswered := acted_answerProbe (s₁.noteProbe it suppressedAgent) presence
      have hfollowed := kept_followAcquisition ((s₁.noteProbe it suppressedAgent).answerProbe
        presence) it (foundAgent it suppressedAgent) s₁.hasProcessProbe
        (foregroundGroupChanged (foregroundGroup it) s₁.lastForegroundPgid)
      obtain ⟨hpresence, hreported', hpending, hshown, hemits⟩ :=
        takeAgent_of_some (hfollowed.currentAgent.trans now) it.now
      refine .identified (by rw [found]) rfl other ?_ (hreported'.trans hfollowed.reported)
        (hpending.trans hfollowed.pending) hshown
        ((hnoted.emits.trans (hanswered.emits.trans hfollowed.emits)).trans hemits)
      exact (congrArg AgentDetectionPresence.currentAgent hpresence).trans
        (hfollowed.currentAgent.trans now)

end DetectionLoop

end Zynk.Detection
