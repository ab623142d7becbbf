import Zynk.Lib.Run
import Zynk.Pane.DetectionTurn

/-!
# The agent that was announced last

An agent is announced when it is identified. That it is gone is announced when the turn gets to the
decision, or in a later turn : the screen of a pane without an agent is unknown, and the change of
what is shown is published. So a loss that was not announced is made up for unless the loop showed
the agent itself as unknown.

`NameWatch` runs a loop and notes the agent of the last event. `announced_follows` is the result for
runs in which no agent is lost unseen, and `announced_follows_of_decisive` for rules that never call
an agent's screen unknown.
-/

namespace Zynk.Detection

open StepRun DetectionLoop

structure NameWatch where
  loop : DetectionLoop
  /-- The agent of the last event, the one that was restored before any, and none after a reset. -/
  announced : Option Agent

namespace NameWatch

def start (task : DetectionTask) (detectedAgent : Option Agent) (now : ℕ) : NameWatch :=
  { loop := task.start detectedAgent now
    announced := (task.start detectedAgent now).currentAgent }

def announcedAfter (announced : Option Agent) (events : List StateChanged) : Option Agent :=
  match events.getLast? with
  | none => announced
  | some event => event.agent

def step (task : DetectionTask) (manifests : Manifests) (w : NameWatch) (it : Iteration) :
    NameWatch :=
  let s' := (w.loop.iterate task manifests it).1
  { loop := s'
    announced := announcedAfter (if it.wake = .reset then none else w.announced)
      (published w.loop s') }

/-- A turn that gets to the decision leaves the current agent announced. -/
def Follows (task : DetectionTask) (manifests : Manifests) (w : NameWatch) (it : Iteration) :
    Prop :=
  (w.loop.iterate task manifests it).2.ending = .decided →
    (w.step task manifests it).announced = (w.step task manifests it).loop.currentAgent

/-- A turn that drops an agent which the loop shows as unknown gets to the decision : no hook has
the authority, and detection is not paused. -/
def SeesLoss (task : DetectionTask) (w : NameWatch) (it : Iteration) : Prop :=
  (w.loop.awaken task it).currentAgent ≠ none →
    ((w.loop.awaken task it).probeForeground it).agent = none →
      (w.loop.awaken task it).state = .unknown →
        it.lifecycleAuthorityActive = false ∧ it.pausedAtRead = false ∧ it.pausedAtPublish = false

/-- The current agent is announced. When there is none, that is announced or is still to come. -/
structure Owed (s : DetectionLoop) (announced : Option Agent) : Prop where
  agent : ∀ agent, s.currentAgent = some agent → announced = some agent
  nobody : s.currentAgent = none → announced = none ∨ s.publishState ≠ unknownShown
  grace : s.currentAgent = none → s.agentStartupGraceUntil = none

/-! ## Events -/

@[simp] theorem announcedAfter_nil (announced : Option Agent) :
    announcedAfter announced [] = announced :=
  rfl

@[simp] theorem announcedAfter_singleton (announced : Option Agent) (event : StateChanged) :
    announcedAfter announced [event] = event.agent :=
  rfl

theorem announcedAfter_append (announced : Option Agent) (es fs : List StateChanged) :
    announcedAfter announced (es ++ fs) = announcedAfter (announcedAfter announced es) fs := by
  cases hlast : fs.getLast? with
  | none =>
    rw [List.getLast?_eq_none_iff.1 hlast]
    simp
  | some event => simp [announcedAfter, List.getLast?_append, hlast]

theorem Owed.of_kept {s s' : DetectionLoop} {announced : Option Agent} (h : Owed s announced)
    (hkept : Kept s s') : Owed s' announced := by
  refine ⟨?_, ?_, ?_⟩
  · rw [hkept.currentAgent]
    exact h.agent
  · rw [hkept.currentAgent, hkept.publishState]
    exact h.nobody
  · intro hnone
    rw [hkept.currentAgent] at hnone
    exact hkept.grace (h.grace hnone)

theorem owed_start (task : DetectionTask) (detectedAgent : Option Agent) (now : ℕ) :
    Owed (start task detectedAgent now).loop (start task detectedAgent now).announced := by
  refine ⟨fun _ h => h, fun h => Or.inl h, fun _ => ?_⟩
  cases task <;> rfl

theorem owed_awaken {w : NameWatch} (h : Owed w.loop w.announced) (task : DetectionTask)
    (it : Iteration) :
    Owed (w.loop.awaken task it) (if it.wake = .reset then none else w.announced) := by
  rcases awaken_cases task w.loop it with ⟨hwake, hkept⟩ | ⟨hwake, hagent, -, -, -, hgrace, -⟩
  · rw [if_neg hwake]
    exact h.of_kept hkept
  · rw [if_pos hwake]
    refine ⟨?_, fun _ => Or.inl rfl, fun _ => hgrace⟩
    intro agent hsome
    rw [hagent] at hsome
    cases hsome

/-! ## The probe -/

/-- After the probe the current agent is announced, unless it was just lost. -/
structure Taken (s : DetectionLoop) (it : Iteration) (seen : Seen) (announced : Option Agent) :
    Prop where
  agent : ∀ agent, seen.agent = some agent → announced = some agent
  fresh : ∀ agent shell, seen.found = some (some agent, shell) → seen.agentChanged = false →
    seen.agent = some agent
  nobody : seen.agent = none → seen.agentChanged = false →
    announced = none ∨ seen.loop.publishState ≠ unknownShown
  lost : seen.agent = none → seen.agentChanged = true →
    s.currentAgent ≠ none ∧ seen.loop.publishState = s.publishState
  grace : seen.agent = none → seen.loop.agentStartupGraceUntil = none

theorem taken_probeForeground {s : DetectionLoop} {announced : Option Agent}
    (h : Owed s announced) (it : Iteration) :
    ∃ events, Emits s (s.probeForeground it).loop events ∧
      Taken s it (s.probeForeground it) (announcedAfter announced events) := by
  cases probed_probeForeground s it with
  | unprobed found same kept =>
    have howed := h.of_kept kept
    refine ⟨[], kept.emits, howed.agent, ?_, fun hnone _ => howed.nobody hnone, ?_, howed.grace⟩
    · intro agent shell hsome _
      rw [found] at hsome
      cases hsome
    · intro _ hchanged
      rw [same] at hchanged
      cases hchanged
  | exited found same current stays unreported reported pending acted =>
    have hagent : (s.probeForeground it).agent = s.currentAgent :=
      congrArg AgentDetectionPresence.currentAgent stays
    refine ⟨[], acted.emits, ?_, ?_, ?_, ?_, ?_⟩
    · rw [hagent]
      exact h.agent
    · intro agent shell hsome _
      rw [found] at hsome
      simp at hsome
    · intro hnone
      exact absurd (hagent.symm.trans hnone) current
    · intro hnone
      exact absurd (hagent.symm.trans hnone) current
    · intro hnone
      exact absurd (hagent.symm.trans hnone) current
  | @stayed newAgent shell found same stays who reported pending acted =>
    refine ⟨[], acted.emits, ?_, ?_, ?_, ?_, ?_⟩
    · rw [stays]
      exact h.agent
    · intro agent shell' hsome _
      rw [found] at hsome
      obtain ⟨rfl, -⟩ : newAgent = some agent ∧ shell = shell' := by simpa using hsome
      rcases who with hsame | ⟨hnone, -⟩
      · rw [stays, ← hsame]
      · cases hnone
    · intro hnone _
      rw [acted.publishState]
      exact h.nobody (stays.symm.trans hnone)
    · intro _ hchanged
      rw [same] at hchanged
      cases hchanged
    · exact fun hnone => acted.grace (h.grace (stays.symm.trans hnone))
  | @dropped shell found changed current gone why reported pending grace acted =>
    refine ⟨[], acted.emits, ?_, ?_, ?_, fun _ _ => ⟨current, acted.publishState⟩,
      fun _ => grace⟩
    · intro agent hsome
      rw [gone] at hsome
      cases hsome
    · intro agent shell' hsome
      rw [found] at hsome
      simp at hsome
    · intro _ hsame
      rw [changed] at hsame
      cases hsame
  | @identified agent shell found changed other now reported pending publishState emits =>
    refine ⟨_, emits, ?_, ?_, ?_, ?_, ?_⟩
    · intro agent' hsome
      rw [now] at hsome
      rw [announcedAfter_singleton]
      exact hsome
    · intro agent' shell' _ hsame
      rw [changed] at hsame
      cases hsame
    · intro hnone
      rw [now] at hnone
      cases hnone
    · intro hnone
      rw [now] at hnone
      cases hnone
    · intro hnone
      rw [now] at hnone
      cases hnone

/-! ## The rest of a turn -/

/-- The rest of a turn keeps up with the agent, and a turn that gets to the decision has caught
up. -/
theorem owed_finishTurn {task : DetectionTask} {manifests : Manifests} {s s' : DetectionLoop}
    {it : Iteration} {seen : Seen} {announced : Option Agent} {ending : Ending}
    (htaken : Taken s it seen announced)
    (hsees : seen.agentChanged = true → seen.agent = none → s.publishState = unknownShown →
      it.lifecycleAuthorityActive = false ∧ it.pausedAtRead = false ∧ it.pausedAtPublish = false)
    (hfinished : Finished task manifests seen it s' ending) :
    ∃ events, Emits seen.loop s' events ∧ Owed s' (announcedAfter announced events) ∧
      (ending = .decided → announcedAfter announced events = s'.currentAgent) := by
  obtain ⟨hpresence, -, hgrace⟩ := hfinished.frame
  have hagent : s'.currentAgent = seen.agent :=
    congrArg AgentDetectionPresence.currentAgent hpresence
  have hgrace' : s'.currentAgent = none → s'.agentStartupGraceUntil = none := fun hnone =>
    hgrace (htaken.grace (hagent.symm.trans hnone))
  -- An agent that was lost unseen is still shown as something.
  have hstill (hnone : seen.agent = none)
      (hstopped : ¬ (it.lifecycleAuthorityActive = false ∧ it.pausedAtRead = false ∧
        it.pausedAtPublish = false)) :
      announced = none ∨ seen.loop.publishState ≠ unknownShown := by
    cases hchanged : seen.agentChanged with
    | false => exact htaken.nobody hnone hchanged
    | true =>
      right
      rw [(htaken.lost hnone hchanged).2]
      exact fun hunknown => hstopped (hsees hchanged hnone hunknown)
  cases hfinished with
  | answered authority alive kept =>
    have hstopped : ¬ (it.lifecycleAuthorityActive = false ∧ it.pausedAtRead = false ∧
        it.pausedAtPublish = false) := by
      rw [authority]
      simp
    cases hfresh : (if seen.agentChanged then none else seen.found.bind (·.1)) with
    | none =>
      rw [hfresh] at kept
      refine ⟨[], kept.emits, ⟨?_, ?_, hgrace'⟩, by simp⟩
      · rw [hagent]
        exact htaken.agent
      · intro hnone
        rw [kept.publishState]
        exact hstill (hagent.symm.trans hnone) hstopped
    | some agent =>
      rw [hfresh] at kept
      have hcurrent : seen.agent = some agent := by
        split_ifs at hfresh with hchanged
        obtain ⟨⟨newAgent, shell⟩, hfound, hnew⟩ := Option.bind_eq_some_iff.1 hfresh
        simp only at hnew
        rw [hnew] at hfound
        exact htaken.fresh agent shell hfound (by simpa using hchanged)
      refine ⟨_, (emits_publish _ _).trans kept.emits, ⟨?_, ?_, hgrace'⟩, by simp⟩
      · rw [hagent, hcurrent, announcedAfter_append]
        exact fun _ h => h
      · intro hnone
        rw [hagent, hcurrent] at hnone
        cases hnone
  | stopped kept undecided _ suppressed =>
    refine ⟨[], kept.emits, ⟨?_, ?_, hgrace'⟩, fun h => absurd h undecided⟩
    · rw [hagent]
      exact htaken.agent
    · intro hnone
      rw [hagent] at hnone
      rw [kept.publishState]
      refine hstill hnone ?_
      rintro ⟨-, hread, hpublish⟩
      rcases suppressed hnone (htaken.grace hnone) with hpaused | hpaused
      · rw [hread] at hpaused
        cases hpaused
      · rw [hpublish] at hpaused
        cases hpaused
  | unchanged kept alive same unknown =>
    have hannounced : announced = s'.currentAgent := by
      rw [hagent]
      cases hcurrent : seen.agent with
      | some agent => exact htaken.agent agent hcurrent
      | none =>
        rcases htaken.nobody hcurrent same with hnone | hshown
        · exact hnone
        · exact absurd (unknown hcurrent) hshown
    refine ⟨[], kept.emits, ⟨fun agent hsome => hannounced.trans hsome,
      fun hnone => Or.inl (hannounced.trans hnone), hgrace'⟩, fun _ => hannounced⟩
  | published next publishes =>
    have hannounced : announcedAfter announced
        [next.event seen.loop.currentAgent seen.loop.processExited it.now] = s'.currentAgent :=
      hagent.symm
    exact ⟨_, publishes.emits, ⟨fun agent hsome => hannounced.trans hsome,
      fun hnone => Or.inl (hannounced.trans hnone), hgrace'⟩, fun _ => hannounced⟩

/-! ## Turns and runs -/

theorem owed_step {task : DetectionTask} (manifests : Manifests) {w : NameWatch}
    (h : Owed w.loop w.announced) {it : Iteration} (hsees : SeesLoss task w it) :
    Owed (w.step task manifests it).loop (w.step task manifests it).announced ∧
      Follows task manifests w it := by
  obtain ⟨before, hbefore, htaken⟩ := taken_probeForeground (owed_awaken h task it) it
  have hfinished := finished_finishTurn task manifests true
    ((w.loop.awaken task it).probeForeground it) it
  simp only at hfinished
  have hloss : ((w.loop.awaken task it).probeForeground it).agentChanged = true →
      ((w.loop.awaken task it).probeForeground it).agent = none →
        (w.loop.awaken task it).publishState = unknownShown → it.lifecycleAuthorityActive = false ∧
          it.pausedAtRead = false ∧ it.pausedAtPublish = false := by
    intro hchanged hnone hunknown
    exact hsees (htaken.lost hnone hchanged).1 hnone
      (congrArg DetectionPublishState.state hunknown)
  obtain ⟨after, hafter, howed, hdecided⟩ := owed_finishTurn htaken hloss hfinished
  have hawake : Emits w.loop (w.loop.awaken task it) [] := by
    rcases awaken_cases task w.loop it with ⟨-, hkept⟩ | ⟨-, -, -, -, -, -, hemits⟩
    · exact hkept.emits
    · exact hemits
  have hannounced : (w.step task manifests it).announced = announcedAfter (announcedAfter
      (if it.wake = .reset then none else w.announced) before) after := by
    unfold step
    simp only
    rw [show published w.loop (w.loop.iterate task manifests it).1 = _ from
      ((hawake.trans hbefore).trans hafter).published_eq, List.nil_append, announcedAfter_append]
  refine ⟨?_, fun hending => ?_⟩
  · rw [hannounced]
    exact howed
  · rw [hannounced]
    exact hdecided hending

/-- In a run of either task in which no agent that is shown as unknown is lost unseen, every turn
that gets to the decision leaves the current agent announced. -/
theorem announced_follows (task : DetectionTask) (manifests : Manifests)
    (detectedAgent : Option Agent) (now : ℕ) (its : List Iteration)
    (hsees : Along (step task manifests) (SeesLoss task) (start task detectedAgent now) its) :
    Along (step task manifests) (Follows task manifests) (start task detectedAgent now) its := by
  have hrun (its : List Iteration) {w : NameWatch} (h : Owed w.loop w.announced)
      (hsees : Along (step task manifests) (SeesLoss task) w its) :
      Along (step task manifests) (Follows task manifests) w its := by
    induction its generalizing w with
    | nil => trivial
    | cons it its ih =>
      obtain ⟨hsee, hrest⟩ := hsees
      obtain ⟨howed, hfollows⟩ := owed_step manifests h hsee
      exact ⟨hfollows, ih howed hrest⟩
  exact hrun its (owed_start task detectedAgent now) hsees

instance (task : DetectionTask) (w : NameWatch) (it : Iteration) :
    Decidable (SeesLoss task w it) :=
  inferInstanceAs (Decidable (_ → _ → _ → _ ∧ _ ∧ _))

/-- An agent is found, exits, and is dropped. -/
def exitedAndDropped : List Iteration :=
  [{ wokenAt := 300, now := 300, pid := 7, foregroundPgid := some 8,
     probe := { processGroupId := some 8, agent := some .claude } },
   { wokenAt := 600, now := 600, pid := 7, foregroundPgid := some 7,
     probe := { processGroupId := some 7, foregroundIsPaneShell := true } },
   { wokenAt := 900, now := 900, pid := 7, foregroundPgid := some 7,
     probe := { processGroupId := some 7, foregroundIsPaneShell := true } }]

theorem announced_follows_exit :
    Along (step .spawned fun _ => none) (Follows .spawned fun _ => none) (start .spawned none 0)
        exitedAndDropped ∧
      (run (step .spawned fun _ => none) (start .spawned none 0) exitedAndDropped).announced =
        none :=
  ⟨announced_follows .spawned (fun _ => none) none 0 exitedAndDropped (by decide +kernel),
    by decide +kernel⟩

/-! ## A loss that is not announced -/

/-- A rule without a state, which calls the screen unknown. -/
def loadingManifests : Manifests := fun agent =>
  if agent = .claude then
    some [{ state := none, accepts := fun input => input.screen == "loading", valid := by simp }]
  else none

/-- A turn whose probe finds another program than the agent. -/
def missAt (now : ℕ) (paused : Bool) : Iteration :=
  { wokenAt := now, now := now, pid := 7, foregroundPgid := some 9,
    probe := { processGroupId := some 9 }, pausedAtRead := paused, pausedAtPublish := paused,
    screen := { text := "loading" } }

/-- The agent is found and shown as unknown, and the sixth miss in a row drops it while detection
is paused. -/
def lostInPause : List Iteration :=
  [{ wokenAt := 300, now := 300, pid := 7, foregroundPgid := some 8,
     probe := { processGroupId := some 8, agent := some .claude } },
   { wokenAt := 4000, now := 4000, pid := 7, foregroundPgid := some 8,
     screen := { text := "loading" } },
   { wokenAt := 4300, now := 4300, pid := 7, foregroundPgid := some 8,
     screen := { text := "loading" } },
   missAt 5000 false, missAt 10000 false, missAt 15000 false, missAt 20000 false,
   missAt 25000 false, missAt 30000 true,
   { wake := .pauseNotified, wokenAt := 30300, now := 30300, pid := 7, foregroundPgid := some 9,
     probe := { processGroupId := some 9 }, screen := { text := "loading" } }]

theorem lost_agent_stays_announced :
    (¬ ∀ its, Along (step .basic loadingManifests) (Follows .basic loadingManifests)
        (start .basic none 0) its) ∧
      ¬ ∀ its, Along (step .spawned loadingManifests) (Follows .spawned loadingManifests)
        (start .spawned none 0) its := by
  constructor
  · intro h
    obtain ⟨-, -, -, -, -, -, -, -, -, hlast, -⟩ := h lostInPause
    exact absurd (hlast (by decide +kernel)) (by decide +kernel)
  · intro h
    obtain ⟨-, -, -, -, -, -, -, -, -, hlast, -⟩ := h lostInPause
    exact absurd (hlast (by decide +kernel)) (by decide +kernel)

end NameWatch

end Zynk.Detection
