import Zynk.Lib.Run
import Zynk.Pane.DetectionTurn

/-!
# The exit of an agent is announced

When the shell of the pane is back in the foreground, the exit of the agent is published and
recorded in the turn whose probe found it so, before the agent is dropped in a later one.

`ExitWatch` runs a loop and notes the exits that were published since the probe last found an
agent. One turn goes well exactly when the text of the screen does not hide the exit, which only the
spawned task lets it do (`announces_iff`), and a run is a sequence of such turns.
-/

namespace Zynk.Detection

open StepRun DetectionLoop

structure ExitWatch where
  loop : DetectionLoop
  /-- The agents whose exit was published since the probe last found an agent. -/
  exitsSinceFound : List (Option Agent) := []

namespace ExitWatch

def start (task : DetectionTask) (detectedAgent : Option Agent) (now : ℕ) : ExitWatch :=
  { loop := task.start detectedAgent now }

/-- The exits that are published in the turn. -/
def exits (task : DetectionTask) (manifests : Manifests) (w : ExitWatch) (it : Iteration) :
    List (Option Agent × ℕ) :=
  exitsOf (published w.loop (w.loop.iterate task manifests it).1)

def step (task : DetectionTask) (manifests : Manifests) (w : ExitWatch) (it : Iteration) :
    ExitWatch :=
  let turn := (w.loop.iterate task manifests it).2
  let foundAgent := turn.found.any fun found => found.1.isSome
  { loop := (w.loop.iterate task manifests it).1
    exitsSinceFound := (if foundAgent then [] else w.exitsSinceFound) ++
      (w.exits task manifests it).map (·.1) }

/-- The probe of the turn finds the shell of the pane and no agent, while one is current whose exit
was not published since it was last found. -/
def ExitDue (task : DetectionTask) (manifests : Manifests) (w : ExitWatch) (it : Iteration)
    (agent : Agent) : Prop :=
  let turn := (w.loop.iterate task manifests it).2
  turn.previousAgent = some agent ∧ turn.found = some (none, true) ∧
    some agent ∉ w.exitsSinceFound

instance (task : DetectionTask) (manifests : Manifests) (w : ExitWatch) (it : Iteration)
    (agent : Agent) : Decidable (ExitDue task manifests w it agent) :=
  inferInstanceAs (Decidable (_ ∧ _ ∧ _))

/-- What a turn owes : an exit that is due is published once and recorded, and its agent is still
there; no other turn publishes or records an exit; and a turn whose probe finds the shell clears the
agent only when its exit was published before. -/
structure Announces (task : DetectionTask) (manifests : Manifests) (w : ExitWatch)
    (it : Iteration) : Prop where
  due : ∀ agent, ExitDue task manifests w it agent →
    w.exits task manifests it = [(some agent, it.now)] ∧
      (w.step task manifests it).loop.stateEvents.pendingExits =
        w.loop.stateEvents.pendingExits ++ [(some agent, it.now)] ∧
      (w.step task manifests it).loop.currentAgent = some agent
  other : (∀ agent, ¬ ExitDue task manifests w it agent) →
    w.exits task manifests it = [] ∧
      (w.step task manifests it).loop.stateEvents.pendingExits = w.loop.stateEvents.pendingExits
  cleared : ∀ agent, (w.loop.iterate task manifests it).2.previousAgent = some agent →
    (w.loop.iterate task manifests it).2.found = some (none, true) →
    (w.step task manifests it).loop.currentAgent = none → some agent ∈ w.exitsSinceFound

/-- No exit is due in the turn whose agent is hidden by the text of the screen. -/
def Readable (task : DetectionTask) (manifests : Manifests) (w : ExitWatch) (it : Iteration) :
    Prop :=
  ∀ agent, ExitDue task manifests w it agent → ¬ ExitHidden task manifests (some agent) it

/-- The flags of the loop say what was published. -/
structure Reported (w : ExitWatch) : Prop where
  reported : ∀ agent, w.loop.currentAgent = some agent →
    (w.loop.foregroundShellExitReported = true ↔ some agent ∈ w.exitsSinceFound)
  pending : w.loop.pendingForegroundShellClear = true → w.loop.foregroundShellExitReported = true

theorem reported_start (task : DetectionTask) (detectedAgent : Option Agent) (now : ℕ) :
    (start task detectedAgent now).Reported := by
  refine ⟨?_, ?_⟩
  · cases task <;> simp [start, DetectionTask.start]
  · cases task <;> simp [start, DetectionTask.start]

variable {w : ExitWatch}

theorem reported_awaken (h : w.Reported) (task : DetectionTask) (it : Iteration) :
    Reported { w with loop := w.loop.awaken task it } := by
  rcases awaken_cases task w.loop it with ⟨-, hkept⟩ | ⟨-, hagent, hpending, -⟩
  · refine ⟨?_, ?_⟩
    · intro agent hagent
      rw [hkept.reported]
      exact h.reported agent (hkept.currentAgent.symm.trans hagent)
    · intro hpending
      rw [hkept.reported]
      exact h.pending (hkept.pending.symm.trans hpending)
  · refine ⟨?_, ?_⟩
    · intro agent hsome
      rw [hagent] at hsome
      cases hsome
    · intro hsome
      rw [hpending] at hsome
      cases hsome

theorem emits_awaken (task : DetectionTask) (s : DetectionLoop) (it : Iteration) :
    Emits s (s.awaken task it) [] := by
  rcases awaken_cases task s it with ⟨-, hkept⟩ | ⟨-, -, -, -, -, -, hemits⟩
  · exact hkept.emits
  · exact hemits

/-- No exit of the agent is due, none is published, and the flags go on saying so. -/
structure Uneventful (task : DetectionTask) (manifests : Manifests) (w : ExitWatch)
    (it : Iteration) : Prop where
  none_due : ∀ agent, ¬ ExitDue task manifests w it agent
  exits : w.exits task manifests it = []
  recorded : (w.step task manifests it).loop.stateEvents.pendingExits =
    w.loop.stateEvents.pendingExits
  cleared : ∀ agent, (w.loop.iterate task manifests it).2.previousAgent = some agent →
    (w.loop.iterate task manifests it).2.found = some (none, true) →
    (w.step task manifests it).loop.currentAgent = none → some agent ∈ w.exitsSinceFound
  reported : (w.step task manifests it).Reported

/-- An exit is due for the agent, and what becomes of it hangs on the text of the screen. -/
structure Eventful (task : DetectionTask) (manifests : Manifests) (w : ExitWatch)
    (it : Iteration) (agent : Agent) : Prop where
  due : ExitDue task manifests w it agent
  hidden : ExitHidden task manifests (some agent) it → w.exits task manifests it = []
  shown : ¬ ExitHidden task manifests (some agent) it →
    w.exits task manifests it = [(some agent, it.now)] ∧
      (w.step task manifests it).loop.stateEvents.pendingExits =
        w.loop.stateEvents.pendingExits ++ [(some agent, it.now)] ∧
      (w.step task manifests it).loop.currentAgent = some agent ∧
      (w.step task manifests it).Reported

/-- A turn in which no exit is to be published, from what is known of its end. -/
theorem uneventful_of_alive {task : DetectionTask} {manifests : Manifests} {it : Iteration}
    {events : List StateChanged}
    (halive : ((w.loop.awaken task it).probeForeground it).loop.processExited = false)
    (hprobe : Emits (w.loop.awaken task it) ((w.loop.awaken task it).probeForeground it).loop
      events) (hevents : exitsOf events = []) (hdue : ∀ agent, ¬ ExitDue task manifests w it agent)
    (hcleared : ∀ agent, (w.loop.awaken task it).currentAgent = some agent →
      ((w.loop.awaken task it).probeForeground it).found = some (none, true) →
      ((w.loop.awaken task it).probeForeground it).agent = none → some agent ∈ w.exitsSinceFound)
    (hreported : Reported
      { loop := ((w.loop.awaken task it).probeForeground it).loop
        exitsSinceFound := if ((w.loop.awaken task it).probeForeground it).found.any
          (fun found => found.1.isSome) then [] else w.exitsSinceFound }) :
    Uneventful task manifests w it := by
  have hfinished := finished_finishTurn task manifests true
    ((w.loop.awaken task it).probeForeground it) it
  simp only at hfinished
  obtain ⟨hpresence, hpending, -⟩ := hfinished.frame
  obtain ⟨hflag, rest, hemits, hrest⟩ := hfinished.no_exit halive
  have hall := ((emits_awaken task w.loop it).trans hprobe).trans hemits
  have hexits : w.exits task manifests it = [] := by
    unfold ExitWatch.exits
    rw [show published w.loop (w.loop.iterate task manifests it).1 = _ from hall.published_eq,
      exitsOf_append, exitsOf_append, hevents, hrest]
    rfl
  refine ⟨hdue, hexits, ?_, ?_, ?_, ?_⟩
  · rw [show (w.step task manifests it).loop.stateEvents.pendingExits = _ from hall.recorded,
      exitsOf_append, exitsOf_append, hevents, hrest]
    simp
  · intro agent hprevious hfound hnone
    refine hcleared agent hprevious hfound ?_
    rw [← hnone]
    exact (congrArg AgentDetectionPresence.currentAgent hpresence).symm
  · intro agent hagent
    have hagent' : ((w.loop.awaken task it).probeForeground it).loop.currentAgent = some agent :=
      (congrArg AgentDetectionPresence.currentAgent hpresence).symm.trans hagent
    have hthen := hreported.reported agent hagent'
    simp only [step, hexits, List.map_nil, List.append_nil]
    rw [show (w.loop.iterate task manifests it).1.foregroundShellExitReported = _ from hflag]
    exact hthen
  · intro hset
    have hset' : ((w.loop.awaken task it).probeForeground it).loop.pendingForegroundShellClear =
      true := hpending.symm.trans hset
    exact hflag.trans (hreported.pending hset')

/-- A turn whose probe finds an exit to report. -/
theorem eventful_of_exited {task : DetectionTask} {manifests : Manifests} {it : Iteration}
    {agent : Agent} (hcurrent : (w.loop.awaken task it).currentAgent = some agent)
    (hunpublished : some agent ∉ w.exitsSinceFound)
    (hfound : ((w.loop.awaken task it).probeForeground it).found = some (none, true))
    (hstays : ((w.loop.awaken task it).probeForeground it).agent = some agent)
    (hpending : ((w.loop.awaken task it).probeForeground it).loop.pendingForegroundShellClear =
      true) (hflag : ((w.loop.awaken task it).probeForeground it).loop.foregroundShellExitReported =
      false)
    (hprobe : Emits (w.loop.awaken task it) ((w.loop.awaken task it).probeForeground it).loop
      []) : Eventful task manifests w it agent := by
  have hexited : ((w.loop.awaken task it).probeForeground it).loop.processExited = true := by
    unfold processExited
    rw [hpending, hflag, show ((w.loop.awaken task it).probeForeground
      it).loop.agentPresence.currentAgent = some agent from hstays]
    rfl
  have hbefore := (emits_awaken task w.loop it).trans hprobe
  refine ⟨⟨hcurrent, hfound, hunpublished⟩, ?_, ?_⟩
  · intro hhidden
    have hkept := kept_of_exitHidden manifests hexited (hstays ▸ hhidden)
    unfold ExitWatch.exits
    rw [show published w.loop (w.loop.iterate task manifests it).1 = _ from
      (hbefore.trans hkept.emits).published_eq]
    rfl
  · intro hnot
    have hfinished := finished_finishTurn task manifests true
      ((w.loop.awaken task it).probeForeground it) it
    simp only at hfinished
    have hpublishes : Published ((w.loop.awaken task it).probeForeground it).loop it.now exitShown
        true (w.loop.iterate task manifests it).1 :=
      hfinished.exit hexited (hstays ▸ hnot)
    have hall := hbefore.trans hpublishes.emits
    have hagent : ((w.loop.awaken task it).probeForeground it).loop.currentAgent = some agent :=
      hstays
    have hexits : w.exits task manifests it = [(some agent, it.now)] := by
      unfold ExitWatch.exits
      rw [show published w.loop (w.loop.iterate task manifests it).1 = _ from hall.published_eq,
        hagent]
      rfl
    have hagent' : (w.step task manifests it).loop.currentAgent = some agent :=
      (congrArg AgentDetectionPresence.currentAgent hpublishes.presence).trans hagent
    have hreported' : (w.step task manifests it).loop.foregroundShellExitReported = true :=
      hpublishes.reported.trans (Bool.or_true _)
    refine ⟨hexits, ?_, hagent', ?_, fun _ => hreported'⟩
    · rw [show (w.step task manifests it).loop.stateEvents.pendingExits = _ from hall.recorded,
        hagent]
      rfl
    · intro agent' hagent''
      rw [hagent'] at hagent''
      cases hagent''
      refine iff_of_true hreported' ?_
      simp [step, hexits]

/-- What the probe came to decides whether an exit is due. -/
theorem turn_cases (task : DetectionTask) (manifests : Manifests) (h : w.Reported)
    (it : Iteration) :
    Uneventful task manifests w it ∨ ∃ agent, Eventful task manifests w it agent := by
  have hawake := reported_awaken h task it
  have hprevious : (w.loop.iterate task manifests it).2.previousAgent =
    (w.loop.awaken task it).currentAgent := rfl
  have hturn : (w.loop.iterate task manifests it).2.found =
    ((w.loop.awaken task it).probeForeground it).found := rfl
  cases probed_probeForeground (w.loop.awaken task it) it with
  | unprobed found same kept =>
    left
    have halive : ((w.loop.awaken task it).probeForeground it).loop.processExited = false := by
      rw [kept.processExited]
      unfold processExited
      by_cases hset : (w.loop.awaken task it).pendingForegroundShellClear = true
      · rw [show (w.loop.awaken task it).foregroundShellExitReported = true from
          hawake.pending hset]
        simp
      · rw [Bool.not_eq_true] at hset
        rw [hset]
        rfl
    refine uneventful_of_alive halive kept.emits rfl ?_ ?_ ?_
    · rintro agent ⟨-, hsome, -⟩
      rw [hturn, found] at hsome
      cases hsome
    · intro agent _ hsome
      rw [found] at hsome
      cases hsome
    · rw [found]
      refine ⟨fun agent hagent => ?_, fun hset => ?_⟩
      · rw [show ((w.loop.awaken task it).probeForeground it).loop.foregroundShellExitReported = _
          from kept.reported]
        exact hawake.reported agent (kept.currentAgent.symm.trans hagent)
      · exact kept.reported.trans (hawake.pending (kept.pending.symm.trans hset))
  | exited found same current stays unreported reported pending acted =>
    right
    obtain ⟨agent, hagent⟩ := Option.ne_none_iff_exists'.1 current
    have hunpublished : some agent ∉ w.exitsSinceFound := by
      rw [← hawake.reported agent hagent, Bool.not_eq_true]
      exact unreported
    exact ⟨agent, eventful_of_exited hagent hunpublished found
      ((congrArg AgentDetectionPresence.currentAgent stays).trans hagent) pending reported
      acted.emits⟩
  | @stayed newAgent shell found same stays who reported pending acted =>
    left
    have halive : ((w.loop.awaken task it).probeForeground it).loop.processExited = false := by
      rw [processExited, pending]
      rfl
    refine uneventful_of_alive halive acted.emits rfl ?_ ?_ ?_
    · rintro agent ⟨hagent, hsome, -⟩
      rw [hturn, found] at hsome
      rw [hprevious] at hagent
      obtain ⟨rfl, rfl⟩ : newAgent = none ∧ shell = true := by simpa using hsome
      rcases who with hnobody | ⟨-, -, hshell⟩
      · rw [hagent] at hnobody
        cases hnobody
      · cases hshell
    · intro agent hagent _ hgone
      rw [stays, hagent] at hgone
      cases hgone
    · rw [found]
      refine ⟨fun agent hagent => ?_, fun hset => ?_⟩
      · rw [show ((w.loop.awaken task it).probeForeground it).loop.foregroundShellExitReported = _
          from reported]
        refine iff_of_false (by decide) ?_
        cases newAgent with
        | some found => simp
        | none =>
          have hbefore : (w.loop.awaken task it).currentAgent = some agent :=
            stays.symm.trans hagent
          simp only [Option.any_some, Option.isSome_none, Bool.false_eq_true, if_false]
          rw [← hawake.reported agent hbefore]
          rcases who with hnobody | ⟨-, hunreported, -⟩
          · rw [hbefore] at hnobody
            cases hnobody
          · exact fun hset => absurd (hunreported.symm.trans hset) (by decide)
      · exact absurd (pending.symm.trans hset) (by decide)
  | @dropped shell found changed current gone why reported pending grace acted =>
    left
    have halive : ((w.loop.awaken task it).probeForeground it).loop.processExited = false :=
      processExited_of_no_agent gone
    have hpublished (agent : Agent) (hagent : (w.loop.awaken task it).currentAgent = some agent)
        (hshell : shell = true) : some agent ∈ w.exitsSinceFound := by
      rcases why with hreported | hnot
      · exact (hawake.reported agent hagent).1 hreported
      · rw [hshell] at hnot
        cases hnot
    refine uneventful_of_alive halive acted.emits rfl ?_ ?_ ?_
    · rintro agent ⟨hagent, hsome, hunpublished⟩
      rw [hturn, found] at hsome
      exact hunpublished (hpublished agent hagent (by simpa using hsome))
    · intro agent hagent hsome _
      rw [found] at hsome
      exact hpublished agent hagent (by simpa using hsome)
    · refine ⟨fun agent hagent => ?_, fun hset => ?_⟩
      · exact absurd (gone.symm.trans hagent) (by simp)
      · exact absurd (pending.symm.trans hset) (by decide)
  | @identified agent shell found changed other now reported pending publishState emits =>
    left
    have halive : ((w.loop.awaken task it).probeForeground it).loop.processExited = false := by
      rw [processExited, pending]
      rfl
    refine uneventful_of_alive halive emits rfl ?_ ?_ ?_
    · rintro agent' ⟨-, hsome, -⟩
      rw [hturn, found] at hsome
      simp at hsome
    · intro agent' _ hsome
      rw [found] at hsome
      simp at hsome
    · rw [found]
      refine ⟨fun agent' _ => ?_, fun hset => ?_⟩
      · rw [show ((w.loop.awaken task it).probeForeground it).loop.foregroundShellExitReported = _
          from reported]
        simp
      · exact absurd (pending.symm.trans hset) (by decide)

/-! ## Runs -/

theorem announces_iff (task : DetectionTask) (manifests : Manifests) (h : w.Reported)
    (it : Iteration) : Announces task manifests w it ↔ Readable task manifests w it := by
  rcases turn_cases task manifests h it with hquiet | ⟨agent, hevent⟩
  · refine iff_of_true ⟨?_, ?_, hquiet.cleared⟩ ?_
    · intro agent hdue
      exact absurd hdue (hquiet.none_due agent)
    · exact fun _ => ⟨hquiet.exits, hquiet.recorded⟩
    · intro agent hdue
      exact absurd hdue (hquiet.none_due agent)
  · have honly {agent' : Agent} (hdue : ExitDue task manifests w it agent') : agent' = agent :=
      Option.some.inj (hdue.1.symm.trans hevent.due.1)
    constructor
    · intro hannounces agent' hdue hhidden
      cases honly hdue
      have hexits := (hannounces.due agent hdue).1
      rw [hevent.hidden hhidden] at hexits
      cases hexits
    · intro hreadable
      obtain ⟨hexits, hrecorded, hstays, -⟩ := hevent.shown (hreadable agent hevent.due)
      refine ⟨?_, ?_, ?_⟩
      · intro agent' hdue
        cases honly hdue
        exact ⟨hexits, hrecorded, hstays⟩
      · exact fun hnone => absurd hevent.due (hnone agent)
      · intro agent' _ _ hnone
        rw [hstays] at hnone
        cases hnone

theorem reported_step {task : DetectionTask} {manifests : Manifests} (h : w.Reported)
    {it : Iteration} (hreadable : Readable task manifests w it) :
    (w.step task manifests it).Reported := by
  rcases turn_cases task manifests h it with hquiet | ⟨agent, hevent⟩
  · exact hquiet.reported
  · exact (hevent.shown (hreadable agent hevent.due)).2.2.2

/-- In a run of either task every turn announces the exit that is due, and no other, exactly when
no turn of the spawned task has an exit due that the text of the screen hides. -/
theorem exit_announced_iff (task : DetectionTask) (manifests : Manifests)
    (detectedAgent : Option Agent) (now : ℕ) (its : List Iteration) :
    Along (step task manifests) (Announces task manifests) (start task detectedAgent now) its ↔
      Along (step task manifests) (Readable task manifests) (start task detectedAgent now) its := by
  have hrun {w : ExitWatch} (h : w.Reported) (its : List Iteration) :
      Along (step task manifests) (Announces task manifests) w its ↔
        Along (step task manifests) (Readable task manifests) w its := by
    induction its generalizing w with
    | nil => exact Iff.rfl
    | cons it its ih =>
      rw [Along, Along, announces_iff task manifests h it]
      refine and_congr_right fun hreadable => ?_
      exact ih (reported_step h hreadable)
  exact hrun (reported_start task detectedAgent now) its

/-- The basic task looks past a viewer, so it announces every exit. -/
theorem basic_announces (manifests : Manifests) (now : ℕ) (its : List Iteration) :
    Along (step .basic manifests) (Announces .basic manifests) (start .basic none now) its := by
  have hrun {w : ExitWatch} (h : w.Reported) :
      Along (step .basic manifests) (Announces .basic manifests) w its := by
    induction its generalizing w with
    | nil => trivial
    | cons it its ih =>
      have hreadable : Readable .basic manifests w it := by
        rintro agent - ⟨hspawned, -⟩
        cases hspawned
      exact ⟨(announces_iff .basic manifests h it).2 hreadable,
        ih (reported_step h hreadable)⟩
  exact hrun (reported_start .basic none now)

/-- A manifest with the rule for the transcript of an agent. -/
def transcriptManifests : Manifests := fun agent =>
  if agent = .claude then
    some [{
      state := some .unknown
      priority := 1000
      skipStateUpdate := true
      accepts := fun input => input.screen == "showing detailed transcript (ctrl+o to toggle)"
      valid := by simp }]
  else none

/-- The agent is found, its grace window ends, and it is killed while its transcript is shown. -/
def killedInTranscript : List Iteration :=
  [{ wokenAt := 300, now := 300, pid := 7, foregroundPgid := some 8,
     probe := { processGroupId := some 8, agent := some .claude } },
   { wokenAt := 4000, now := 4000, pid := 7, foregroundPgid := some 8,
     probe := { processGroupId := some 8, agent := some .claude } },
   { wokenAt := 4300, now := 4300, pid := 7, foregroundPgid := some 7,
     probe := { processGroupId := some 7, foregroundIsPaneShell := true }
     screen := { text := "showing detailed transcript (ctrl+o to toggle)" } }]

theorem exit_hidden_by_transcript :
    ¬ ∀ its, Along (step .spawned transcriptManifests) (Announces .spawned transcriptManifests)
      (start .spawned none 0) its := by
  intro h
  obtain ⟨-, -, hthird, -⟩ := h killedInTranscript
  have hdue := hthird.due .claude (by decide +kernel)
  exact absurd hdue.1 (by decide +kernel)

end ExitWatch

end Zynk.Detection
