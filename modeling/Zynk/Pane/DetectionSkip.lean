import Mathlib.Data.List.Chain
import Zynk.Lib.Run
import Zynk.Pane.DetectionTurn

/-!
# Screens that are not read

The screen of an idle agent is not read again while its number stays the same. The loop that does
read it (`turn` without `obeysSkip`) publishes the same events as long as the idle state is what the
rules made of that screen. The state is idle for another reason after the exit of an agent was
published : if the agent is then found again on an unchanged screen, the screen is skipped although
the rules may say something else of it.

`ReadWatch` runs a loop and notes whether an exit was published since the screen was last read.
`skip_unseen_iff` says that the two loops publish the same events exactly as long as no such screen
is skipped.
-/

namespace Zynk.Detection

open StepRun DetectionLoop

structure ReadWatch where
  loop : DetectionLoop
  exitSinceRead : Bool := false

/-- The turn got as far as to make something of the screen. -/
def Ending.reads : Ending → Bool
  | .viewer | .noUpdate | .pausedAtPublish | .decided => true
  | .hookAuthority | .startupGrace | .paused | .skipped => false

namespace ReadWatch

def start (task : DetectionTask) (detectedAgent : Option Agent) (now : ℕ) : ReadWatch :=
  { loop := task.start detectedAgent now }

def step (task : DetectionTask) (manifests : Manifests) (w : ReadWatch) (it : Iteration) :
    ReadWatch :=
  let (s', turn) := w.loop.iterate task manifests it
  { loop := s'
    exitSinceRead :=
      if exitsOf (published w.loop s') ≠ [] then true
      else if turn.ending.reads then false
      else w.exitSinceRead }

/-- The loop that reads the screen in every turn that would skip it. -/
def readingStep (task : DetectionTask) (manifests : Manifests) (s : DetectionLoop)
    (it : Iteration) : DetectionLoop :=
  (s.turn task manifests false it).1

/-- The rules leave the state of the agent as it is on the screen, or show it like this. -/
def Shows (manifests : Manifests) (agent : Option Agent) (screen : Screen)
    (shown : DetectionPublishState) : Prop :=
  shouldSkipStateUpdate manifests agent screen.text = true ∨
    ∀ detection ∈ detectionUpdateForPublishWithOsc manifests agent screen.input false,
      detection.publishState = shown

instance (manifests : Manifests) (agent : Option Agent) (screen : Screen)
    (shown : DetectionPublishState) : Decidable (Shows manifests agent screen shown) :=
  inferInstanceAs (Decidable (_ ∨ _))

/-- A turn that skips the screen after an exit was published, and before the screen was read again,
skips one that the rules show as visibly idle. -/
def SkipsIdle (task : DetectionTask) (manifests : Manifests) (w : ReadWatch) (it : Iteration) :
    Prop :=
  (w.loop.iterate task manifests it).2.ending = .skipped → w.exitSinceRead = true →
    it.pausedAtPublish = false →
      Shows manifests (w.loop.awaken task it).currentAgent it.screen exitShown

/-- A pause that begins between the two looks at it wakes the next turn. -/
def WakesNext (it next : Iteration) : Prop :=
  it.pausedAtRead = false → it.pausedAtPublish = true → next.wake ≠ .elapsed

/-! ## What the last read screen says -/

/-- What was read last is the screen of its number, and the loop shows what the rules make of it, or
the exit that was published since. `shown` is the screen of each number. -/
structure Scanned (manifests : Manifests) (shown : ℕ → Screen) (s : DetectionLoop)
    (exitSinceRead : Bool) : Prop where
  text : ∀ seq, s.lastScreenScanDetectionContentSeq = some seq →
    s.lastDetectionText = (shown seq).text
  shows : ∀ seq, s.lastScreenScanDetectionContentSeq = some seq → exitSinceRead = false →
    s.state = .idle → Shows manifests s.currentAgent (shown seq) s.publishState
  exited : ∀ seq, s.lastScreenScanDetectionContentSeq = some seq → exitSinceRead = true →
    s.publishState = exitShown
  tidy : s.pendingIdle.startedAt = none → s.pendingIdle = {}

/-- What is remembered of the screen stays. -/
structure ScreenKept (s s' : DetectionLoop) : Prop where
  seq : s'.lastScreenScanDetectionContentSeq = s.lastScreenScanDetectionContentSeq
  text : s'.lastDetectionText = s.lastDetectionText
  pendingIdle : s'.pendingIdle = s.pendingIdle

variable {s : DetectionLoop}

theorem ScreenKept.trans {s' s'' : DetectionLoop} (h : ScreenKept s s') (h' : ScreenKept s' s'') :
    ScreenKept s s'' :=
  ⟨h'.seq.trans h.seq, h'.text.trans h.text, h'.pendingIdle.trans h.pendingIdle⟩

variable {manifests : Manifests} {shown : ℕ → Screen} {exitSinceRead : Bool}

theorem Scanned.of_kept {s' : DetectionLoop} (h : Scanned manifests shown s exitSinceRead)
    (hscreen : ScreenKept s s') (hagent : s'.currentAgent = s.currentAgent)
    (hstate : s'.publishState = s.publishState) : Scanned manifests shown s' exitSinceRead := by
  have hidle : s'.state = s.state := congrArg DetectionPublishState.state hstate
  refine ⟨?_, ?_, ?_, ?_⟩
  · rw [hscreen.seq, hscreen.text]
    exact h.text
  · rw [hscreen.seq, hidle, hagent, hstate]
    exact h.shows
  · rw [hscreen.seq, hstate]
    exact h.exited
  · rw [hscreen.pendingIdle]
    exact h.tidy

/-- After the screen was forgotten nothing is said of it. -/
theorem scanned_of_forgotten (hseq : s.lastScreenScanDetectionContentSeq = none)
    (htidy : s.pendingIdle = {}) : Scanned manifests shown s exitSinceRead := by
  refine ⟨?_, ?_, ?_, fun _ => htidy⟩
  · rw [hseq]
    simp
  · rw [hseq]
    simp
  · rw [hseq]
    simp

theorem scanned_awaken (h : Scanned manifests shown s exitSinceRead) (task : DetectionTask)
    (it : Iteration) : Scanned manifests shown (s.awaken task it) exitSinceRead := by
  unfold awaken
  cases it.wake with
  | elapsed => exact h
  | reset => exact scanned_of_forgotten rfl rfl
  | pauseNotified => exact scanned_of_forgotten rfl rfl

theorem screenKept_suppressReleased (s : DetectionLoop) (it : Iteration) :
    ScreenKept s (s.suppressReleased it).2 := by
  unfold suppressReleased activePendingRelease
  simp only
  rcases it.released.orElse fun _ => s.pendingRelease with _ | pending
  · simp only
    split_ifs <;> exact ⟨rfl, rfl, rfl⟩
  · simp only
    by_cases hactive : it.now < pending.untilAt
    · simp only [hactive, if_true]
      exact ⟨rfl, rfl, rfl⟩
    · simp only [hactive, if_false]
      split_ifs <;> exact ⟨rfl, rfl, rfl⟩

theorem screenKept_actOnProbe (s : DetectionLoop) (it : Iteration) (newAgent : Option Agent) :
    ScreenKept s (s.actOnProbe it newAgent).2 := by
  unfold actOnProbe
  split <;> exact ⟨rfl, rfl, rfl⟩

theorem takeAgent_forgets (s : DetectionLoop) (now : ℕ) :
    (s.takeAgent now).lastScreenScanDetectionContentSeq = none ∧
      (s.takeAgent now).pendingIdle = {} := by
  unfold takeAgent
  simp only
  split <;> exact ⟨rfl, rfl⟩

theorem screen_probeForeground (s : DetectionLoop) (it : Iteration) :
    (s.probeForeground it).agentChanged = true ∧
        (s.probeForeground it).loop.lastScreenScanDetectionContentSeq = none ∧
        (s.probeForeground it).loop.pendingIdle = {} ∨
      (s.probeForeground it).agentChanged = false ∧
        ScreenKept s (s.probeForeground it).loop := by
  have hsuppressed := screenKept_suppressReleased s it
  unfold probeForeground
  generalize s.suppressReleased it = suppressed at hsuppressed ⊢
  obtain ⟨suppressedAgent, s₁⟩ := suppressed
  simp only at hsuppressed ⊢
  by_cases hcheck : s₁.shouldCheckProcess it suppressedAgent = true
  swap
  · rw [if_neg hcheck]
    exact Or.inr ⟨rfl, hsuppressed⟩
  · rw [if_pos hcheck]
    have hnoted : ScreenKept s (s₁.noteProbe it suppressedAgent) :=
      hsuppressed.trans ⟨rfl, rfl, rfl⟩
    have hacted := hnoted.trans (screenKept_actOnProbe (s₁.noteProbe it suppressedAgent) it
      (foundAgent it suppressedAgent))
    generalize (s₁.noteProbe it suppressedAgent).actOnProbe it
      (foundAgent it suppressedAgent) = acted at hacted ⊢
    obtain ⟨changed, s₂⟩ := acted
    simp only at hacted ⊢
    cases changed with
    | true =>
      simp only [if_true]
      exact Or.inl ⟨trivial, takeAgent_forgets _ it.now⟩
    | false =>
      simp only [Bool.false_eq_true, if_false]
      exact Or.inr ⟨trivial, hacted.trans ⟨rfl, rfl, rfl⟩⟩

variable {it : Iteration}

/-- A probe that leaves the agent leaves what is shown. -/
theorem probe_unchanged (h : (s.probeForeground it).agentChanged = false) :
    (s.probeForeground it).loop.currentAgent = s.currentAgent ∧
      (s.probeForeground it).loop.publishState = s.publishState := by
  cases probed_probeForeground s it with
  | unprobed found same kept => exact ⟨kept.currentAgent, kept.publishState⟩
  | exited found same current stays unreported reported pending acted =>
    exact ⟨congrArg AgentDetectionPresence.currentAgent stays, acted.publishState⟩
  | stayed found same stays who reported pending acted => exact ⟨stays, acted.publishState⟩
  | dropped found changed =>
    rw [h] at changed
    cases changed
  | identified found changed =>
    rw [h] at changed
    cases changed

theorem scanned_probeForeground (h : Scanned manifests shown s exitSinceRead) (it : Iteration) :
    Scanned manifests shown (s.probeForeground it).loop exitSinceRead := by
  rcases screen_probeForeground s it with ⟨-, hseq, htidy⟩ | ⟨hsame, hkept⟩
  · exact scanned_of_forgotten hseq htidy
  · obtain ⟨hagent, hstate⟩ := probe_unchanged hsame
    exact h.of_kept hkept hagent hstate

/-- The probe publishes no exit. -/
theorem emits_probeForeground (s : DetectionLoop) (it : Iteration) :
    ∃ events, Emits s (s.probeForeground it).loop events ∧ exitsOf events = [] := by
  cases probed_probeForeground s it with
  | unprobed found same kept => exact ⟨[], kept.emits, rfl⟩
  | exited found same current stays unreported reported pending acted =>
    exact ⟨[], acted.emits, rfl⟩
  | stayed found same stays who reported pending acted => exact ⟨[], acted.emits, rfl⟩
  | dropped found changed current gone why reported pending grace acted =>
    exact ⟨[], acted.emits, rfl⟩
  | identified found changed other now reported pending publishState emits =>
    exact ⟨_, emits, rfl⟩

/-! ## The rest of a turn -/

theorem tidy_shouldHold (p : PendingIdleConfirmation) (previous next : DetectionPublishState)
    (changed exited : Bool) (now : ℕ)
    (h : (p.shouldHoldWorkingToIdle previous next changed exited now).2.startedAt = none) :
    (p.shouldHoldWorkingToIdle previous next changed exited now).2 = {} := by
  unfold PendingIdleConfirmation.shouldHoldWorkingToIdle at h ⊢
  simp only at h ⊢
  split at h
  · rename_i hplain
    rw [if_pos hplain]
  · rename_i hplain
    rw [if_neg hplain]
    split at h
    · cases h
    · rename_i startedAt hstarted
      split_ifs at h ⊢
      · rfl
      · rfl
      · rw [hstarted] at h
        cases h

theorem tidy_decide (input : ScreenDetectionPublishInput) (p : PendingIdleConfirmation)
    (h : (decideScreenDetectionPublish input p).2.startedAt = none) :
    (decideScreenDetectionPublish input p).2 = {} := by
  have hpending : (decideScreenDetectionPublish input p).2 = (p.shouldHoldWorkingToIdle
      input.current input.screenDetection.publishState input.agentChanged input.processExited
      input.now).2 := by
    unfold decideScreenDetectionPublish decideDetectionTransition
    simp only
    rcases p.shouldHoldWorkingToIdle input.current input.screenDetection.publishState
      input.agentChanged input.processExited input.now with ⟨_ | _, pending⟩
    · simp only
      split_ifs <;> rfl
    · rfl
  rw [hpending] at h ⊢
  exact tidy_shouldHold _ _ _ _ _ _ h

theorem tidy_decideAndPublish (it : Iteration) (detection : AgentDetection) (changed exited : Bool)
    (h : (s.decideAndPublish it detection changed exited).1.pendingIdle.startedAt = none) :
    (s.decideAndPublish it detection changed exited).1.pendingIdle = {} := by
  unfold decideAndPublish at h ⊢
  split at h
  · rename_i hpaused
    rw [if_pos hpaused]
    rfl
  · rename_i hpaused
    rw [if_neg hpaused]
    have htidy := tidy_decide ⟨s.publishState, s.lastVisibleSignalRefresh, detection, exited,
      changed, it.now⟩ s.pendingIdle
    simp only at h ⊢
    generalize decideScreenDetectionPublish _ s.pendingIdle = decision at h htidy ⊢
    obtain ⟨_ | ⟨next, exited'⟩, pending⟩ := decision
    · exact htidy h
    · exact htidy h

/-- The number and the text of a screen outlast the decision, or are forgotten. -/
theorem screen_decideAndPublish (s : DetectionLoop) (it : Iteration) (detection : AgentDetection)
    (changed exited : Bool) :
    let s' := (s.decideAndPublish it detection changed exited).1
    s'.lastScreenScanDetectionContentSeq = none ∨
      s'.lastScreenScanDetectionContentSeq = s.lastScreenScanDetectionContentSeq ∧
        s'.lastDetectionText = s.lastDetectionText := by
  unfold decideAndPublish
  simp only
  split
  · exact Or.inl rfl
  · right
    split
    · exact ⟨rfl, rfl⟩
    · exact ⟨rfl, rfl⟩

/-- What is noted of the exits after a turn that got to the screen. -/
def exitPublished (events : List StateChanged) : Bool :=
  decide (exitsOf events ≠ [])

theorem scanned_takeUpdate (htext : ∀ seq, s.lastScreenScanDetectionContentSeq = some seq →
      s.lastDetectionText = (shown seq).text) (it : Iteration) (update : Option AgentDetection)
    (changed exited : Bool)
    (hexit : exited = true → update = some { state := .idle, visibleIdle := true })
    (hshows : exited = false → ∀ seq, s.lastScreenScanDetectionContentSeq = some seq →
      ∀ state, (∀ detection ∈ update, detection.publishState = state) →
        Shows manifests s.currentAgent (shown seq) state) :
    let r := s.takeUpdate it update changed exited
    r.2.reads = true ∧ ∃ events, Emits s r.1 events ∧
      Scanned manifests shown r.1 (exitPublished events) := by
  cases update with
  | none =>
    refine ⟨rfl, [], (kept_clearPendingIdle s).emits, htext, ?_, fun _ _ h => ?_, fun _ => rfl⟩
    · intro seq hseq _ _
      refine hshows ?_ seq hseq _ (by simp)
      cases exited with
      | false => rfl
      | true => cases hexit rfl
    · cases h
  | some detection =>
    have hscreen := screen_decideAndPublish s it detection changed exited
    have htidy := tidy_decideAndPublish (s := s) it detection changed exited
    simp only [takeUpdate] at hscreen ⊢
    rcases decideAndPublish_cases s it detection changed exited with
      ⟨-, -, heq⟩ | ⟨s', heq, hkept, halive, -, hsame⟩ | ⟨s', heq, hpublished⟩
    · rw [heq]
      exact ⟨rfl, [], (kept_forgetScreen s).emits, scanned_of_forgotten rfl rfl⟩
    · rw [heq] at hscreen htidy ⊢
      simp only at hscreen htidy
      refine ⟨rfl, [], hkept.emits, ?_, ?_, fun _ _ h => ?_, htidy⟩
      · intro seq hseq
        rcases hscreen with hnone | ⟨hsame', htext'⟩
        · rw [hnone] at hseq
          cases hseq
        · rw [htext']
          exact htext seq (hsame' ▸ hseq)
      · intro seq hseq _ hidle
        rcases hscreen with hnone | ⟨hsame', -⟩
        · rw [hnone] at hseq
          cases hseq
        · rw [hkept.currentAgent, hkept.publishState]
          have hidle' : s.state = .idle := by
            rw [← hidle]
            exact (congrArg DetectionPublishState.state hkept.publishState).symm
          rcases hsame with hsame | ⟨hworking, -⟩
          · refine hshows halive seq (hsame' ▸ hseq) _ fun d hd => ?_
            rw [← Option.some.inj hd]
            exact hsame
          · rw [hidle'] at hworking
            cases hworking
      · cases h
    · rw [heq] at hscreen htidy ⊢
      simp only at hscreen htidy
      have hevents : exitPublished [detection.publishState.event s.currentAgent exited it.now] =
          exited := by
        cases exited <;> rfl
      refine ⟨rfl, _, hpublished.emits, ?_, ?_, ?_, htidy⟩
      · intro seq hseq
        rcases hscreen with hnone | ⟨hsame', htext'⟩
        · rw [hnone] at hseq
          cases hseq
        · rw [htext']
          exact htext seq (hsame' ▸ hseq)
      · intro seq hseq halive _
        rw [hevents] at halive
        rcases hscreen with hnone | ⟨hsame', -⟩
        · rw [hnone] at hseq
          cases hseq
        · rw [show s'.currentAgent = s.currentAgent from
            congrArg AgentDetectionPresence.currentAgent hpublished.presence,
            hpublished.publishState]
          refine hshows halive seq (hsame' ▸ hseq) _ fun d hd => ?_
          rw [← Option.some.inj hd]
      · intro seq _ hexited
        rw [hevents] at hexited
        rw [hpublished.publishState]
        cases Option.some.inj (hexit hexited)
        rfl

theorem screenKept_sync (s : DetectionLoop) (suppressedAgent : Option Agent)
    (groupChanged contentChanged : Bool) (now : ℕ) :
    ScreenKept s (s.syncContentChangeAcquisition suppressedAgent groupChanged contentChanged
      now) := by
  unfold syncContentChangeAcquisition
  simp only
  split
  · exact ⟨rfl, rfl, rfl⟩
  · split
    · exact ⟨rfl, rfl, rfl⟩
    · split
      · split <;> exact ⟨rfl, rfl, rfl⟩
      · exact ⟨rfl, rfl, rfl⟩

variable {seen : Seen}

theorem scanned_scanScreen (h : Scanned manifests shown s exitSinceRead) (task : DetectionTask)
    (hagent : seen.agent = s.currentAgent) (hshown : it.screen = shown it.detectionContentSeq)
    {exited : Bool} (hpaused : it.pausedAtRead = true → exited = true) :
    let r := s.scanScreen task manifests seen it
      (if seen.agent.isSome then some it.detectionContentSeq else none) exited
    r.2.reads = true ∧ ∃ events, Emits s r.1 events ∧
      Scanned manifests shown r.1 (exitPublished events) := by
  unfold scanScreen
  simp only
  split
  · rename_i hread
    refine scanned_takeUpdate h.text it _ _ _ (fun _ => rfl) fun halive => ?_
    rw [hpaused hread] at halive
    cases halive
  · -- The number that is noted is the one of the screen that is read.
    have hnoted (seq : ℕ) (hseq : (if seen.agent.isSome then some it.detectionContentSeq
        else none) = some seq) : shown seq = it.screen := by
      split_ifs at hseq
      rw [hshown, Option.some.inj hseq]
    split
    · rename_i hviewer
      refine ⟨rfl, [], ((kept_noteScreen s _ _).trans (kept_clearPendingIdle _)).emits, ?_, ?_,
        fun _ _ h => ?_, fun _ => rfl⟩
      · intro seq hseq
        rw [hnoted seq hseq]
        rfl
      · intro seq hseq _ _
        left
        rw [hnoted seq hseq]
        rw [hagent] at hviewer
        cases task with
        | basic =>
          simp only [viewerHides, Bool.and_eq_true] at hviewer
          exact hviewer.2
        | spawned => exact hviewer
      · cases h
    · generalize hcontent : (it.screen.text != s.lastDetectionText) = contentChanged
      have hkept := kept_syncContentChangeAcquisition (s.noteScreen
        (if seen.agent.isSome then some it.detectionContentSeq else none) it.screen.text)
        seen.suppressedAgent seen.processGroupChanged contentChanged it.now
      have hscreen := screenKept_sync (s.noteScreen
        (if seen.agent.isSome then some it.detectionContentSeq else none) it.screen.text)
        seen.suppressedAgent seen.processGroupChanged contentChanged it.now
      generalize (s.noteScreen (if seen.agent.isSome then some it.detectionContentSeq else none)
        it.screen.text).syncContentChangeAcquisition seen.suppressedAgent
          seen.processGroupChanged contentChanged it.now = s₁ at hkept hscreen ⊢
      have hagent₁ : s₁.currentAgent = seen.agent := hkept.currentAgent.trans hagent.symm
      have htext (seq : ℕ) (hseq : s₁.lastScreenScanDetectionContentSeq = some seq) :
          s₁.lastDetectionText = (shown seq).text := by
        rw [hscreen.text, hnoted seq (hscreen.seq.symm.trans hseq)]
        rfl
      have hexit (hexited : exited = true) :
          detectionUpdateForPublishWithOsc manifests seen.agent it.screen.input exited =
            some { state := .idle, visibleIdle := true } := by
        rw [hexited]
        rfl
      have hshows (halive : exited = false) (seq : ℕ)
          (hseq : s₁.lastScreenScanDetectionContentSeq = some seq) (state : DetectionPublishState)
          (hstate : ∀ detection ∈ detectionUpdateForPublishWithOsc manifests seen.agent
            it.screen.input exited, detection.publishState = state) :
          Shows manifests s₁.currentAgent (shown seq) state := by
        right
        rw [hnoted seq (hscreen.seq.symm.trans hseq), hagent₁]
        rw [halive] at hstate
        exact hstate
      obtain ⟨hreads, events, hemits, hscanned⟩ :=
        scanned_takeUpdate htext it _ seen.agentChanged exited hexit hshows
      refine ⟨hreads, events, ?_, hscanned⟩
      exact (kept_noteScreen s _ _).emits.trans (hkept.emits.trans hemits)

/-- The screen is forgotten, kept, or made something of. -/
theorem scanned_watchScreen (h : Scanned manifests shown s exitSinceRead) (task : DetectionTask)
    (hagent : seen.agent = s.currentAgent) (hshown : it.screen = shown it.detectionContentSeq)
    (exited : Bool) : let r := s.watchScreen task manifests true seen it exited
    ∃ events, Emits s r.1 events ∧ Scanned manifests shown r.1
      (if exitsOf events ≠ [] then true else if r.2.reads then false else exitSinceRead) := by
  unfold watchScreen
  simp only
  split
  · exact ⟨[], (kept_forgetScreen s).emits, scanned_of_forgotten rfl rfl⟩
  · rename_i hpermitted
    split
    · exact ⟨[], .refl s, h⟩
    · have hpaused : it.pausedAtRead = true → exited = true := by
        intro hread
        rw [screenDetectionPermitted, hread] at hpermitted
        simpa using hpermitted
      obtain ⟨hreads, events, hemits, hscanned⟩ := scanned_scanScreen h task hagent hshown hpaused
      have hflag : (if exitsOf events ≠ [] then true
          else if true then false else exitSinceRead) = exitPublished events := by
        unfold exitPublished
        by_cases hnone : exitsOf events = [] <;> simp [hnone]
      refine ⟨events, hemits, ?_⟩
      rw [hreads, hflag]
      exact hscanned

theorem scanned_passStartupGrace (h : Scanned manifests shown s exitSinceRead)
    (task : DetectionTask) (now : ℕ) (exited : Bool) :
    Scanned manifests shown (s.passStartupGrace task now exited).2 exitSinceRead := by
  have htidied (s' : DetectionLoop) (hseq : s'.lastScreenScanDetectionContentSeq =
      s.lastScreenScanDetectionContentSeq) (htext : s'.lastDetectionText = s.lastDetectionText)
      (hagent : s'.currentAgent = s.currentAgent) (hstate : s'.publishState = s.publishState)
      (htidy : s'.pendingIdle = {}) : Scanned manifests shown s' exitSinceRead := by
    have hidle : s'.state = s.state := congrArg DetectionPublishState.state hstate
    refine ⟨?_, ?_, ?_, fun _ => htidy⟩
    · rw [hseq, htext]
      exact h.text
    · rw [hseq, hidle, hagent, hstate]
      exact h.shows
    · rw [hseq, hstate]
      exact h.exited
  unfold passStartupGrace
  split
  · exact h
  · split
    · cases task
      · exact htidied _ rfl rfl rfl rfl rfl
      · exact scanned_of_forgotten rfl rfl
    · split
      · exact htidied _ rfl rfl rfl rfl rfl
      · cases task
        · exact scanned_of_forgotten rfl rfl
        · exact htidied _ rfl rfl rfl rfl rfl

theorem scanned_finishTurn (h : Scanned manifests shown seen.loop exitSinceRead)
    (task : DetectionTask) (hshown : it.screen = shown it.detectionContentSeq) :
    let r := finishTurn task manifests true seen it
    ∃ events, Emits seen.loop r.1 events ∧ Scanned manifests shown r.1
      (if exitsOf events ≠ [] then true else if r.2.reads then false else exitSinceRead) := by
  unfold finishTurn
  simp only
  split
  · have hanswer (fresh : Option Agent) : ∃ events,
        Emits seen.loop (seen.loop.answerUnderHookAuthority fresh it.now) events ∧
          exitsOf events = [] ∧ Scanned manifests shown
            (seen.loop.answerUnderHookAuthority fresh it.now).clearPendingIdle exitSinceRead := by
      cases fresh with
      | none => exact ⟨[], .refl _, rfl, h.text, h.shows, h.exited, fun _ => rfl⟩
      | some agent => exact ⟨_, emits_publish _ _, rfl, h.text, h.shows, h.exited, fun _ => rfl⟩
    obtain ⟨events, hemits, hnone, hscanned⟩ := hanswer _
    refine ⟨events ++ [], hemits.trans (kept_clearPendingIdle _).emits, ?_⟩
    rw [List.append_nil, hnone]
    exact hscanned
  · have hkept := kept_passStartupGrace task seen.loop it.now seen.loop.processExited
    have hscanned := scanned_passStartupGrace h task it.now seen.loop.processExited
    generalize seen.loop.passStartupGrace task it.now seen.loop.processExited = passed
      at hkept hscanned ⊢
    obtain ⟨_ | _, s⟩ := passed
    · exact ⟨[], hkept.emits, hscanned⟩
    · obtain ⟨events, hemits, hafter⟩ := scanned_watchScreen hscanned task
        (hkept.currentAgent.symm : seen.agent = s.currentAgent) hshown seen.loop.processExited
      exact ⟨events, hkept.emits.trans hemits, hafter⟩

theorem scanned_step {w : ReadWatch} (h : Scanned manifests shown w.loop w.exitSinceRead)
    (task : DetectionTask) (hshown : it.screen = shown it.detectionContentSeq) :
    Scanned manifests shown (w.step task manifests it).loop
      (w.step task manifests it).exitSinceRead := by
  have hawake := scanned_awaken h task it
  obtain ⟨before, hbefore, hnone⟩ := emits_probeForeground (w.loop.awaken task it) it
  obtain ⟨after, hafter, hscanned⟩ := scanned_finishTurn
    (scanned_probeForeground hawake it) task hshown
  have hwoken : Emits w.loop (w.loop.awaken task it) [] := by
    rcases awaken_cases task w.loop it with ⟨-, hkept⟩ | ⟨-, -, -, -, -, -, hemits⟩
    · exact hkept.emits
    · exact hemits
  have hpublished : exitsOf (published w.loop (w.loop.iterate task manifests it).1) =
      exitsOf after := by
    rw [show published w.loop (w.loop.iterate task manifests it).1 = _ from
      ((hwoken.trans hbefore).trans hafter).published_eq, exitsOf_append, exitsOf_append, hnone]
    rfl
  have hflag : (w.step task manifests it).exitSinceRead = if exitsOf after ≠ [] then true
      else if (w.loop.iterate task manifests it).2.ending.reads then false
      else w.exitSinceRead := by
    rw [← hpublished]
    rfl
  rw [hflag]
  exact hscanned

/-! ## The two loops -/

/-- From the idle state a detection is published exactly when it differs from what is shown. -/
theorem decide_of_idle (input : ScreenDetectionPublishInput) (p : PendingIdleConfirmation)
    (hidle : input.current.state = .idle) (hchanged : input.agentChanged = false)
    (hexited : input.processExited = false) :
    decideScreenDetectionPublish input p =
      (if input.screenDetection.publishState = input.current then .noPublish
        else .publish input.screenDetection.publishState false, {}) := by
  have hhold : p.shouldHoldWorkingToIdle input.current input.screenDetection.publishState
      input.agentChanged input.processExited input.now = (false, {}) := by
    simp [PendingIdleConfirmation.shouldHoldWorkingToIdle, hidle]
  unfold decideScreenDetectionPublish decideDetectionTransition
  simp only [hhold]
  simp only [hchanged, hexited]
  by_cases hsame : input.screenDetection.publishState = input.current
  · -- An idle state has no visible blocker to refresh.
    have hblocker : input.screenDetection.publishState.visibleBlocker = false := by
      have hstate : input.screenDetection.state = .idle := by
        rw [← hidle, ← hsame]
        rfl
      simp [AgentDetection.publishState, hstate]
    rw [if_pos hsame, if_neg]
    rw [shouldPublishDetectionUpdate, hblocker, ← hsame, hblocker]
    simp
  · rw [if_neg hsame, if_pos]
    cases hnext : input.screenDetection.publishState
    cases hcurrent : input.current
    rw [hnext, hcurrent, DetectionPublishState.mk.injEq] at hsame
    simp only [shouldPublishDetectionUpdate, Bool.or_eq_true, bne_iff_ne, ne_eq]
    grind

/-- Reading a screen that could be skipped. Either nothing comes of it, or the pause that has begun
makes the loop forget the screen, or the rules show something else than the loop does. -/
theorem scan_skipped (manifests : Manifests) (task : DetectionTask)
    (hagent : seen.agent = s.currentAgent)
    (hskip : decideDetectionScreenRead (screenReadInput seen s
      (if seen.agent.isSome then some it.detectionContentSeq else none) false) = .skip)
    (hread : it.pausedAtRead = false) (htext : s.lastDetectionText = it.screen.text)
    (htidy : s.pendingIdle.startedAt = none → s.pendingIdle = {}) :
    let s' := (s.scanScreen task manifests seen it
      (if seen.agent.isSome then some it.detectionContentSeq else none) false).1
    (Shows manifests s.currentAgent it.screen s.publishState ∧ s' = s) ∨
      (it.pausedAtPublish = true ∧ s' = s.forgetScreen) ∨
      (it.pausedAtPublish = false ∧ ¬ Shows manifests s.currentAgent it.screen s.publishState ∧
        ∃ event, Emits s s' [event]) := by
  obtain ⟨hidle, hsome, hpending, hsame, -, seq, hseq, hlast⟩ := skip_iff.1 hskip
  have hsome : seen.agent.isSome = true := hsome
  have hclear : s.pendingIdle = {} := htidy (by
    have hpending : s.pendingIdle.startedAt.isSome = false := hpending
    simpa using hpending)
  have hnoted : s.noteScreen (if seen.agent.isSome then some it.detectionContentSeq else none)
      it.screen.text = s := by
    rw [show (if seen.agent.isSome then some it.detectionContentSeq else none) = some seq from hseq,
      ← show s.lastScreenScanDetectionContentSeq = some seq from hlast, ← htext]
    rfl
  have hcleared : s.clearPendingIdle = s := by
    rw [clearPendingIdle, ← hclear]
  have hviewer : viewerHides task manifests seen.agent it.screen.text false =
      shouldSkipStateUpdate manifests s.currentAgent it.screen.text := by
    rw [← hagent]
    cases task <;> rfl
  have hsync (contentChanged : Bool) : s.syncContentChangeAcquisition seen.suppressedAgent
      seen.processGroupChanged contentChanged it.now = s := by
    rw [syncContentChangeAcquisition, if_pos]
    rw [show s.agentPresence.currentAgent = seen.agent from hagent.symm, hsome]
    rfl
  simp only [scanScreen, hread, Bool.false_eq_true, if_false, hnoted, hviewer, hsync]
  by_cases hskips : shouldSkipStateUpdate manifests s.currentAgent it.screen.text = true
  · rw [if_pos hskips]
    exact Or.inl ⟨Or.inl hskips, hcleared⟩
  · rw [if_neg hskips, hagent]
    cases hupdate : detectionUpdateForPublishWithOsc manifests s.currentAgent it.screen.input
        false with
    | none => exact Or.inl ⟨Or.inr (by simp [hupdate]), hcleared⟩
    | some detection =>
      have hshows : Shows manifests s.currentAgent it.screen s.publishState ↔
          detection.publishState = s.publishState := by
        simp [Shows, hskips, hupdate]
      rw [hshows]
      simp only [takeUpdate]
      have hsame : seen.agentChanged = false := hsame
      have hidle : s.state = .idle := hidle
      by_cases hpaused : it.pausedAtPublish = true
      · refine Or.inr (Or.inl ⟨hpaused, ?_⟩)
        rw [decideAndPublish, if_pos (by simp [screenDetectionPermitted, hpaused])]
      · rw [Bool.not_eq_true] at hpaused
        have hdecide := decide_of_idle ⟨s.publishState, s.lastVisibleSignalRefresh, detection,
          false, seen.agentChanged, it.now⟩ s.pendingIdle hidle hsame rfl
        simp only at hdecide
        have hpermitted : (!screenDetectionPermitted it.pausedAtPublish false) = false := by
          simp [screenDetectionPermitted, hpaused]
        simp only [decideAndPublish, hpermitted, Bool.false_eq_true, if_false, hdecide]
        by_cases hshown : detection.publishState = s.publishState
        · simp only [hshown, if_true]
          exact Or.inl ⟨trivial, hcleared⟩
        · simp only [hshown, if_false]
          refine Or.inr (Or.inr ⟨hpaused, not_false,
            detection.publishState.event s.currentAgent false it.now, ?_⟩)
          exact (kept_clearPendingIdle s).emits.trans (published_apply s.clearPendingIdle
            detection.publishState false it.now).emits

/-- The rest of a turn is the same in both loops, unless the screen is skipped. -/
theorem finish_lockstep (h : Scanned manifests shown seen.loop exitSinceRead) (task : DetectionTask)
    (hshown : it.screen = shown it.detectionContentSeq) :
    let r := finishTurn task manifests true seen it
    let r' := finishTurn task manifests false seen it
    r.2 ≠ .skipped ∧ r'.1 = r.1 ∨
      r.2 = .skipped ∧ seen.agentChanged = false ∧ (exitSinceRead = true →
          r.1.publishState = exitShown) ∧
        (Shows manifests seen.agent it.screen r.1.publishState ∧ r'.1 = r.1 ∨
          it.pausedAtRead = false ∧ it.pausedAtPublish = true ∧ r'.1 = r.1.forgetScreen ∨
          exitSinceRead = true ∧ it.pausedAtPublish = false ∧
            ¬ Shows manifests seen.agent it.screen r.1.publishState ∧
            ∃ event, Emits r.1 r'.1 [event]) := by
  unfold finishTurn
  simp only
  split
  · exact Or.inl ⟨by simp, rfl⟩
  · have hkept := kept_passStartupGrace task seen.loop it.now seen.loop.processExited
    have hscanned := scanned_passStartupGrace h task it.now seen.loop.processExited
    generalize seen.loop.passStartupGrace task it.now seen.loop.processExited = passed
      at hkept hscanned ⊢
    obtain ⟨_ | _, s⟩ := passed
    · exact Or.inl ⟨by simp, rfl⟩
    · simp only at hkept hscanned ⊢
      have hagent : seen.agent = s.currentAgent := hkept.currentAgent.symm
      unfold watchScreen
      by_cases hpermitted : (!screenDetectionPermitted it.pausedAtRead
          seen.loop.processExited) = true
      · simp only [hpermitted, if_true]
        exact Or.inl ⟨by simp, trivial⟩
      · simp only [hpermitted, Bool.false_eq_true, if_false]
        cases hdecision : decideDetectionScreenRead (screenReadInput seen s
          (if seen.agent.isSome then some it.detectionContentSeq else none)
          seen.loop.processExited) with
        | read =>
          left
          refine ⟨?_, rfl⟩
          have hpaused : it.pausedAtRead = true → seen.loop.processExited = true := by
            intro hread
            rw [screenDetectionPermitted, hread] at hpermitted
            simpa using hpermitted
          obtain ⟨hreads, -⟩ := scanned_scanScreen hscanned task hagent hshown hpaused
          intro hskipped
          rw [hskipped] at hreads
          cases hreads
        | skip =>
          right
          obtain ⟨hidle, hsome, -, hsame, halive, seq, hseq, hlast⟩ := skip_iff.1 hdecision
          have hsome : seen.agent.isSome = true := hsome
          have hidle : s.state = .idle := hidle
          have halive : seen.loop.processExited = false := halive
          have hlast : s.lastScreenScanDetectionContentSeq = some seq := hlast
          have hseq : (if seen.agent.isSome then some it.detectionContentSeq else none) =
            some seq := hseq
          rw [if_pos hsome, Option.some.injEq] at hseq
          have hscreen : shown seq = it.screen := by rw [hshown, hseq]
          rw [halive] at hdecision hpermitted ⊢
          have hread : it.pausedAtRead = false := by
            simpa [screenDetectionPermitted] using hpermitted
          have htext : s.lastDetectionText = it.screen.text := by
            rw [hscanned.text seq hlast, hscreen]
          refine ⟨rfl, hsame, hscanned.exited seq hlast, ?_⟩
          rw [hagent]
          rcases scan_skipped manifests task hagent hdecision hread htext
            hscanned.tidy with ⟨hshows, heq⟩ | ⟨hpaused, heq⟩ | ⟨hpaused, hnot, hemits⟩
          · exact Or.inl ⟨hshows, hagent ▸ heq⟩
          · exact Or.inr (Or.inl ⟨hread, hpaused, hagent ▸ heq⟩)
          · refine Or.inr (Or.inr ⟨?_, hpaused, hnot, hagent ▸ hemits⟩)
            cases hexit : exitSinceRead with
            | true => rfl
            | false =>
              exact absurd (hscreen ▸ hscanned.shows seq hlast hexit hidle) hnot

theorem awaken_forgetScreen (task : DetectionTask) (s : DetectionLoop) (h : it.wake ≠ .elapsed) :
    s.forgetScreen.awaken task it = s.awaken task it := by
  unfold awaken
  cases hwake : it.wake with
  | elapsed => exact absurd hwake h
  | reset => rfl
  | pauseNotified => rfl

/-- One turn of both loops, from states that the wake makes the same. -/
theorem turn_lockstep {w : ReadWatch} (h : Scanned manifests shown w.loop w.exitSinceRead)
    (task : DetectionTask) (hshown : it.screen = shown it.detectionContentSeq)
    (hawake : s.awaken task it = w.loop.awaken task it) : (SkipsIdle task manifests w it ∧
        (readingStep task manifests s it = (w.step task manifests it).loop ∨
          it.pausedAtRead = false ∧ it.pausedAtPublish = true ∧
            readingStep task manifests s it = (w.step task manifests it).loop.forgetScreen)) ∨
      ¬ SkipsIdle task manifests w it ∧
        ∃ event, Emits (w.step task manifests it).loop (readingStep task manifests s it)
          [event] := by
  have hlock := finish_lockstep (scanned_probeForeground (scanned_awaken h task it) it) task
    hshown
  have hreading : readingStep task manifests s it =
      (finishTurn task manifests false ((w.loop.awaken task it).probeForeground it) it).1 := by
    rw [← hawake]
    rfl
  have hending : (w.loop.iterate task manifests it).2.ending =
      (finishTurn task manifests true ((w.loop.awaken task it).probeForeground it) it).2 := rfl
  have hloop : (w.step task manifests it).loop =
      (finishTurn task manifests true ((w.loop.awaken task it).probeForeground it) it).1 := rfl
  rw [hreading, hloop]
  rcases hlock with ⟨hread, hsame⟩ | ⟨hskipped, hunchanged, hexit, hrest⟩
  · refine Or.inl ⟨fun hskips => ?_, Or.inl hsame⟩
    rw [hending] at hskips
    exact absurd hskips hread
  · obtain ⟨hagent, -⟩ := probe_unchanged hunchanged
    rcases hrest with ⟨hshows, heq⟩ | ⟨hread, hpaused, heq⟩ | ⟨hexited, hpaused, hnot, hemits⟩
    · refine Or.inl ⟨fun _ hexited _ => ?_, Or.inl heq⟩
      rw [← hexit hexited, ← hagent]
      exact hshows
    · refine Or.inl ⟨fun _ _ hpublish => ?_, Or.inr ⟨hread, hpaused, heq⟩⟩
      rw [hpaused] at hpublish
      cases hpublish
    · refine Or.inr ⟨fun hskips => ?_, hemits⟩
      have hshows := hskips (hending.trans hskipped) hexited hpaused
      rw [← hexit hexited, ← hagent] at hshows
      exact hnot hshows

/-! ## Runs -/

theorem scanned_start (manifests : Manifests) (shown : ℕ → Screen) (task : DetectionTask)
    (detectedAgent : Option Agent) (now : ℕ) :
    Scanned manifests shown (start task detectedAgent now).loop false := by
  cases task <;> exact scanned_of_forgotten rfl rfl

/-- The two loops, from states that the first wake makes the same. -/
theorem lockstep_iff (task : DetectionTask) (manifests : Manifests) (its : List Iteration)
    {w : ReadWatch} (h : Scanned manifests shown w.loop w.exitSinceRead)
    (hshown : ∀ it ∈ its, it.screen = shown it.detectionContentSeq) (hwakes : its.IsChain WakesNext)
    (hawake : ∀ it ∈ its.head?, s.awaken task it = w.loop.awaken task it)
    (hsent : s.stateEvents = w.loop.stateEvents) :
    (∀ turns, turns <+: its → (run (step task manifests) w turns).loop.stateEvents.sent =
        (run (readingStep task manifests) s turns).stateEvents.sent) ↔
      Along (step task manifests) (SkipsIdle task manifests) w its := by
  induction its generalizing w s with
  | nil =>
    refine iff_of_true ?_ trivial
    intro turns hturns
    rw [List.prefix_nil.1 hturns]
    exact congrArg DetectionEventSender.sent hsent.symm
  | cons it its ih =>
    have hstep := turn_lockstep h task (hshown it List.mem_cons_self) (hawake it rfl)
    rcases hstep with ⟨hskips, hsame⟩ | ⟨hnot, event, hemits⟩
    · have hevents : (readingStep task manifests s it).stateEvents =
          (w.step task manifests it).loop.stateEvents := by
        rcases hsame with heq | ⟨-, -, heq⟩
        · rw [heq]
        · rw [heq]
          rfl
      have hnext : ∀ next ∈ its.head?, (readingStep task manifests s it).awaken task next =
          (w.step task manifests it).loop.awaken task next := by
        intro next hmem
        rcases hsame with heq | ⟨hread, hpublish, heq⟩
        · rw [heq]
        · -- The pause that has begun wakes the next turn, which forgets the screen too.
          rw [heq]
          refine awaken_forgetScreen task _ ?_
          obtain ⟨rest, rfl⟩ : ∃ rest, its = next :: rest := by
            cases its with
            | nil => cases hmem
            | cons first rest => exact ⟨rest, by rw [Option.some.inj hmem]⟩
          exact (List.isChain_cons_cons.1 hwakes).1 hread hpublish
      have hrest := ih (scanned_step h task (hshown it List.mem_cons_self))
        (fun it' hit' => hshown it' (List.mem_cons_of_mem it hit')) hwakes.tail hnext hevents
      rw [Along, ← hrest]
      constructor
      · intro hall
        exact ⟨hskips, fun turns hturns => hall (it :: turns) (List.cons_prefix_cons.2
          ⟨rfl, hturns⟩)⟩
      · rintro ⟨-, hall⟩ turns hturns
        cases turns with
        | nil => exact congrArg DetectionEventSender.sent hsent.symm
        | cons it' turns =>
          obtain ⟨rfl, hturns'⟩ := List.cons_prefix_cons.1 hturns
          exact hall turns hturns'
    · refine iff_of_false (fun hall => ?_) fun hall => hnot hall.1
      have hfirst := hall [it] (List.cons_prefix_cons.2 ⟨rfl, ⟨its, rfl⟩⟩)
      simp only [run_cons, run_nil] at hfirst
      rw [hemits.sent] at hfirst
      exact absurd (congrArg List.length hfirst) (by simp)

/-- A number stands for one screen, and a pause that begins in a turn wakes the next. Then the loop
that skips screens has published at every time what the loop that reads them has, exactly when no
turn skips a screen that the rules show as something else, after an exit was published and before
the screen was read again. -/
theorem skip_unseen_iff (task : DetectionTask) (manifests : Manifests)
    (detectedAgent : Option Agent) (now : ℕ) (shown : ℕ → Screen) (its : List Iteration)
    (hshown : ∀ it ∈ its, it.screen = shown it.detectionContentSeq)
    (hwakes : its.IsChain WakesNext) :
    (∀ turns, turns <+: its →
        (run (step task manifests) (start task detectedAgent now) turns).loop.stateEvents.sent =
          (run (readingStep task manifests) (task.start detectedAgent now)
            turns).stateEvents.sent) ↔
      Along (step task manifests) (SkipsIdle task manifests) (start task detectedAgent now) its :=
  lockstep_iff task manifests its (scanned_start manifests shown task detectedAgent now) hshown
    hwakes (fun _ _ => rfl) rfl

instance (task : DetectionTask) (manifests : Manifests) (w : ReadWatch) (it : Iteration) :
    Decidable (SkipsIdle task manifests w it) :=
  inferInstanceAs (Decidable (_ → _ → _ → _))

instance : DecidableRel WakesNext := fun it next =>
  inferInstanceAs (Decidable (it.pausedAtRead = false → it.pausedAtPublish = true →
    next.wake ≠ .elapsed))

/-- A rule for an agent that works. -/
def workingManifests : Manifests := fun agent =>
  if agent = .claude then
    some [{
      state := some .working
      accepts := fun input => input.screen == "esc to interrupt"
      valid := by simp }]
  else none

def workingScreen : Screen := { text := "esc to interrupt" }

/-- A turn whose probe finds the agent. -/
def foundAt (now : ℕ) (screen : Screen) (seq : ℕ) : Iteration :=
  { wokenAt := now, now := now, pid := 7, foregroundPgid := some 8,
    probe := { processGroupId := some 8, agent := some .claude }, detectionContentSeq := seq,
    screen := screen }

/-- An idle agent whose screen is read and then skipped. -/
theorem skip_unseen_idle :
    (run (step .basic workingManifests) (start .basic none 0)
        [foundAt 300 {} 1, foundAt 4000 {} 1, foundAt 4300 {} 1,
          foundAt 4600 {} 1]).loop.stateEvents.sent =
      (run (readingStep .basic workingManifests) (DetectionTask.start .basic none 0)
        [foundAt 300 {} 1, foundAt 4000 {} 1, foundAt 4300 {} 1,
          foundAt 4600 {} 1]).stateEvents.sent :=
  (skip_unseen_iff .basic workingManifests none 0 (fun _ => {})
    [foundAt 300 {} 1, foundAt 4000 {} 1, foundAt 4300 {} 1, foundAt 4600 {} 1] (by decide +kernel)
    (by decide +kernel)).2 (by decide +kernel) _ (List.prefix_append _ [])

/-- An agent that works is stopped and taken back to the foreground, and nothing on its screen
changes. -/
def stoppedAndResumed : List Iteration :=
  [foundAt 300 workingScreen 5, foundAt 4000 workingScreen 5, foundAt 4300 workingScreen 5,
   { wokenAt := 4600, now := 4600, pid := 7, foregroundPgid := some 7,
     probe := { processGroupId := some 7, foregroundIsPaneShell := true },
     detectionContentSeq := 5, screen := workingScreen },
   foundAt 4900 workingScreen 5]

theorem resumed_agent_skipped :
    (∀ it ∈ stoppedAndResumed, it.screen = workingScreen) ∧
      (run (step .basic workingManifests) (start .basic none 0)
          stoppedAndResumed).loop.stateEvents.sent ≠
        (run (readingStep .basic workingManifests) (DetectionTask.start .basic none 0)
          stoppedAndResumed).stateEvents.sent ∧
      (run (step .spawned workingManifests) (start .spawned none 0)
          stoppedAndResumed).loop.stateEvents.sent ≠
        (run (readingStep .spawned workingManifests) (DetectionTask.start .spawned none 0)
          stoppedAndResumed).stateEvents.sent := by
  decide +kernel

end ReadWatch

end Zynk.Detection
