import Zynk.Api.Wait

/-!
# What a prompt's answer stands for

A prompt called with a wait should only be answered `agent_prompted` by what happened after it : a
probe that saw the same agent with a greater `state_change_seq` and a status asked for, or a
release of the agent with such a status (`PromptRun.Effected`). The probes keep to it. The events
do not : the hub is read from before the prompt on, and a release from before the prompt ends the
wait (`stale_release_answers_prompt`). The second wait starts from what the first one saw and not
from the prompt, which opens three more ways : the label of the agent may be missing in between,
the terminal may get a new shell, and the release that ended the first wait may have fallen out of
the hub.

In a run without these (`Orderly`) the answer stands for an effect (`prompt_effected`). What the
waits carry from step to step is `Proper`, and `Released` right after a release.
-/

namespace Zynk.Api

open StepRun

/-- The final status, if the event is a release in the pane. -/
def EventEnvelope.releaseOf (paneId : String) (event : EventEnvelope) :
    Option (Option AgentStatus) :=
  match event.data with
  | .paneAgentDetected eventPane _ _ released finalStatus =>
    if eventPane = paneId ∧ released = true then some finalStatus else none
  | _ => none

/-- No event is a release in the pane with one of the statuses. -/
def Unreleased (statuses : List AgentStatus) (paneId : String) (events : List EventEnvelope) :
    Prop :=
  ∀ event ∈ events, ∀ status ∈ statuses, event.releaseOf paneId ≠ some (some status)

/-! ## Reading the events -/

namespace ResolvedAgentWait

variable {wait : ResolvedAgentWait}

/-- What reading `l` leads to, for a wait that takes no status from events. -/
inductive Drains (wait : ResolvedAgentWait) (cursor : ℕ) (l : List EventEnvelope) : Drained → Prop
  | more {cursor' : ℕ} {shouldProbe : Bool} (hcursor : cursor ≤ cursor')
      (hl : ∀ event ∈ l, event.releaseOf wait.initial.paneId = none) :
      Drains wait cursor l (.more cursor' shouldProbe none)
  | response (error : ErrorBody) : Drains wait cursor l (.over (.response error))
  | released {i : ℕ} {event : EventEnvelope} {status : AgentStatus} (hi : l[i]? = some event)
      (hrelease : event.releaseOf wait.initial.paneId = some (some status))
      (hstatus : status ∈ wait.until) :
      Drains wait cursor l (.over (.matched { wait.initial with agentStatus := status }))

theorem Drains.cons {cursor cursor' : ℕ} {event : EventEnvelope} {l : List EventEnvelope}
    {drained : Drained} (h : Drains wait cursor' l drained) (hcursor : cursor ≤ cursor')
    (hevent : event.releaseOf wait.initial.paneId = none) :
    Drains wait cursor (event :: l) drained := by
  rcases h with ⟨hle, hl⟩ | error | @⟨i, event', status, hi, hrelease, hstatus⟩
  · exact .more (hcursor.trans hle) (List.forall_mem_cons.2 ⟨hevent, hl⟩)
  · exact .response error
  · exact .released (i := i + 1) hi hrelease hstatus

theorem matchingReleaseStatus_eq_some {«until» : List AgentStatus}
    {finalStatus : Option AgentStatus} {status : AgentStatus}
    (h : matchingReleaseStatus «until» finalStatus none = some status) :
    finalStatus = some status ∧ status ∈ «until» := by
  rw [matchingReleaseStatus, Option.or_none, Option.filter_eq_some_iff] at h
  exact ⟨h.1, by simpa using h.2⟩

theorem drains (haccept : wait.acceptTransientStatus = false) (l : List EventEnvelope)
    {cursor k : ℕ} (hcursor : cursor ≤ k) (shouldProbe : Bool) :
    Drains wait cursor l (wait.drain cursor shouldProbe none (Numbered.after k l)) := by
  induction l generalizing cursor k shouldProbe with
  | nil => exact .more (Nat.le_refl _) (List.forall_mem_nil _)
  | cons event l ih =>
    have hskip (sp : Bool) (hevent : event.releaseOf wait.initial.paneId = none) :
        Drains wait cursor (event :: l) (wait.drain (k + 1) sp none (Numbered.after (k + 1) l)) :=
      (ih (Nat.le_refl _) sp).cons (by omega) hevent
    rw [Numbered.after_cons, drain]
    unfold EventEnvelope.releaseOf at hskip
    rcases hdata : event.data with pane | _ | _ | _ | ⟨eventPane, _, agent, released, finalStatus⟩ |
      data | _
    all_goals simp only [hdata] at hskip ⊢
    · exact hskip _ trivial
    · split
      · exact .response _
      · exact hskip _ trivial
    · split
      · exact .response _
      · exact hskip _ trivial
    · split
      · exact .response _
      · exact hskip _ trivial
    · split
      · rename_i hpane
        exact hskip _ (if_neg fun h => hpane h.1)
      · rename_i hpane
        split
        · rename_i hreleased
          split
          · rename_i status hmatching
            obtain ⟨hfinal, hstatus⟩ := matchingReleaseStatus_eq_some hmatching
            have hrelease : event.releaseOf wait.initial.paneId = some (some status) := by
              rw [EventEnvelope.releaseOf, hdata]
              exact (if_pos ⟨not_not.1 hpane, hreleased⟩).trans (congrArg some hfinal)
            exact .released (i := 0) rfl hrelease hstatus
          · exact .response _
        · rename_i hreleased
          split
          · exact .response _
          · exact hskip _ (if_neg fun h => hreleased h.2)
    · split
      · exact hskip _ trivial
      · rw [haccept, Bool.false_and, if_neg Bool.false_ne_true]
        exact hskip _ trivial
    · exact hskip _ trivial

end ResolvedAgentWait

namespace AgentApp

/-- Only a new shell takes the counter of a terminal back. -/
theorem stateChangeSeq_effect (app : AgentApp) {effect : SeqEffect} {terminalId : String}
    (h : effect ≠ .respawned terminalId) :
    app.stateChangeSeq terminalId ≤ (app.effect effect).stateChangeSeq terminalId := by
  rcases effect with changed | respawned
  · by_cases hid : terminalId = changed
    · subst hid
      simp only [AgentApp.effect, stateChangeSeq, Function.update_self]
      rcases hlast : app.lastAgentStateChangeSeq terminalId with _ | n
      · exact Nat.zero_le _
      · exact Nat.le_succ_of_le (app.last_le terminalId n hlast)
    · simp [AgentApp.effect, stateChangeSeq, Function.update_of_ne hid]
  · have hid : terminalId ≠ respawned := fun hid => h (hid ▸ rfl)
    simp [AgentApp.effect, stateChangeSeq, Function.update_of_ne hid]

theorem stateChangeSeq_effects (app : AgentApp) {effects : List SeqEffect} {terminalId : String}
    (h : .respawned terminalId ∉ effects) :
    app.stateChangeSeq terminalId ≤ (effects.foldl effect app).stateChangeSeq terminalId := by
  induction effects generalizing app with
  | nil => exact Nat.le_refl _
  | cons e effects ih =>
    obtain ⟨he, heffects⟩ := not_or.1 (List.mem_cons.not.1 h)
    exact (app.stateChangeSeq_effect (Ne.symm he)).trans (ih _ heffects)

theorem stateChangeSeq_agentGet {app : AgentApp} {agent : AgentInfo}
    (h : app.agentGet = .ok agent) : agent.stateChangeSeq = app.stateChangeSeq agent.terminalId := by
  unfold agentGet at h
  rcases htarget : app.target with error | agent'
  · rw [htarget] at h
    cases h
  · rw [htarget] at h
    cases h
    rfl

end AgentApp

/-! ## The same agent -/

/-- The probe shows the agent that was prompted. -/
def SameAgent (target : String) (prompted probe : AgentInfo) : Prop :=
  agentWaitIdentityMatches probe prompted.terminalId (expectedName prompted target)
    prompted.agent = true

theorem sameAgent_iff {target : String} {prompted probe : AgentInfo} :
    SameAgent target prompted probe ↔ probe.terminalId = prompted.terminalId ∧
      (prompted.name = some target → probe.name = some target) ∧
      ∀ agent ∈ prompted.agent, probe.agent = some agent ∨ probe.agent = none ∧ probe.name ≠ none := by
  have hname : (expectedName prompted target).all (fun name => probe.name = some name) = true ↔
      (prompted.name = some target → probe.name = some target) := by
    rcases hname : prompted.name with _ | name
    · simp [expectedName, hname]
    · by_cases htarget : name = target
      · simp [expectedName, hname, htarget]
      · simp [expectedName, hname, htarget, Option.filter]
  rw [SameAgent, agentWaitIdentityMatches.eq_def, Bool.and_eq_true, Bool.and_eq_true, hname, and_assoc]
  rcases prompted.agent with _ | expected
  · simp
  · rcases probe.agent with _ | current
    · simp [Option.isSome_iff_ne_none]
    · simp [eq_comm]

/-- An agent that still has its label is the same to whoever knew it. -/
theorem SameAgent.trans {target : String} {prompted probe probe' : AgentInfo}
    (h : SameAgent target prompted probe) (h' : SameAgent target probe probe')
    (hagent : prompted.agent.isSome → probe.agent.isSome) : SameAgent target prompted probe' := by
  rw [sameAgent_iff] at h h' ⊢
  obtain ⟨hterminal, hname, hlabel⟩ := h
  obtain ⟨hterminal', hname', hlabel'⟩ := h'
  refine ⟨hterminal'.trans hterminal, fun h => hname' (hname h), fun agent hsome => ?_⟩
  rcases hlabel agent hsome with hsame | ⟨hnone, -⟩
  · exact hlabel' agent hsame
  · have := hagent (Option.isSome_of_mem hsome)
    simp [hnone] at this

namespace PromptRun

open ResolvedAgentWait

/-! ## What the answer stands for -/

/-- The statuses asked for. -/
def requested (s : PromptRun) : List AgentStatus :=
  agentWaitStatuses s.params.until

/-- Since the prompt a probe saw the same agent with a greater `state_change_seq` and a status
asked for, or a release with such a status was published in the pane that the agent was in at the
prompt or at a probe. -/
def Effected (s : PromptRun) : Prop :=
  ∃ prompted baseline, s.watch.prompted = some (prompted, baseline) ∧
    ((∃ probe ∈ s.watch.probes, SameAgent s.params.target prompted probe ∧
        baseline < probe.stateChangeSeq ∧ probe.agentStatus ∈ s.requested) ∨
      ∃ i event paneId status, s.watch.promptedAt ≤ i ∧ s.pushed[i]? = some event ∧
        event.releaseOf paneId = some (some status) ∧ status ∈ s.requested ∧
        (paneId = prompted.paneId ∨
          ∃ probe ∈ s.watch.probes, SameAgent s.params.target prompted probe ∧
            probe.paneId = paneId))

/-- The condition on the steps. When the prompt is sent, no release with a status asked for has
been pushed in the agent's pane since the hub's sequence was read. Where the first wait finds the
agent in a status not asked for, it has its label, if it had one, and there is no such release in
its pane either. In the second wait after a first one the agent's terminal gets no new shell, and
no release in its pane has fallen out of the hub unread. -/
def Orderly (s : PromptRun) : PromptStep → Prop
  | .app effects _ _ =>
    match s.call with
    | .reading w _ | .probing w _ _ | .checking w _ | .lastProbe w =>
      w.wait.afterStateChangeSeq = none → .respawned w.wait.initial.terminalId ∉ effects
    | _ => True
  | .push => True
  | .call _ _ _ =>
    match s.call with
    | .prompting initialSequence _ =>
      ∀ agent, s.app.agentGet = .ok agent →
        Unreleased s.requested agent.paneId (s.pushed.drop initialSequence)
    | .probing w _ _ | .lastProbe w =>
      w.stage = .effect → ∀ agent, s.app.agentGet = .ok agent →
        agent.agentStatus ∉ s.requested → (w.wait.initial.agent.isSome → agent.agent.isSome) ∧
        Unreleased s.requested agent.paneId
          ((s.pushed.take s.watch.promptedAt).drop w.wait.initialSequence)
    | .reading w lastEventSequence =>
      w.wait.afterStateChangeSeq = none →
        ∀ event ∈ (s.pushed.take (s.pushed.length - EventHub.maxEvents)).drop lastEventSequence,
          event.releaseOf w.wait.initial.paneId = none
    | _ => True

/-! ## What the waits carry -/

/-- A wait of the prompt, whatever it waits for. -/
structure Core (s : PromptRun) (w : Waiting) (prompted : AgentInfo) : Prop where
  answer : s.watch.prompted = some (prompted, w.baseline)
  window : w.wait.initialSequence ≤ s.watch.promptedAt
  promptedAt : s.watch.promptedAt ≤ s.pushed.length
  target : w.wait.target = s.params.target
  accept : w.wait.acceptTransientStatus = false
  unreleased : Unreleased s.requested prompted.paneId
    ((s.pushed.take s.watch.promptedAt).drop w.wait.initialSequence)
  effect : w.stage = .effect →
    w.wait.initial = prompted ∧ w.wait.afterStateChangeSeq = some w.baseline
  status : w.stage = .status → w.wait.until = s.requested

/-- The wait started from the prompted agent, or from a probe that is proof of an effect. -/
inductive Proper (s : PromptRun) (w : Waiting) (prompted : AgentInfo) : Prop
  | prompted (hinitial : w.wait.initial = prompted)
      (hafter : w.wait.afterStateChangeSeq = some w.baseline)
  | observed (hafter : w.wait.afterStateChangeSeq = none) (hmem : w.wait.initial ∈ s.watch.probes)
      (hsame : SameAgent s.params.target prompted w.wait.initial)
      (hlabel : prompted.agent.isSome → w.wait.initial.agent.isSome)
      (hseq : w.baseline < w.wait.initial.stateChangeSeq)
      (hcounter : w.wait.initial.stateChangeSeq ≤
        s.app.stateChangeSeq w.wait.initial.terminalId)
      (hunreleased : Unreleased s.requested w.wait.initial.paneId
        ((s.pushed.take s.watch.promptedAt).drop w.wait.initialSequence))

/-- The first wait ended with a release, which the second one has still to read. -/
structure Released (s : PromptRun) (w : Waiting) (prompted : AgentInfo) (cursor : ℕ) : Prop where
  after : w.wait.afterStateChangeSeq = none
  paneId : w.wait.initial.paneId = prompted.paneId
  release : ∃ i event, cursor ≤ i ∧ s.pushed[i]? = some event ∧
    event.releaseOf prompted.paneId ≠ none

/-- What holds when the call is at `call`. -/
def Phase (s : PromptRun) : PromptCall → Prop
  | .opening => True
  | .getting initialSequence | .prompting initialSequence _ => initialSequence ≤ s.pushed.length
  | .reading w cursor => ∃ prompted, s.Core w prompted ∧ w.wait.initialSequence ≤ cursor ∧
      (s.Proper w prompted ∨ s.Released w prompted cursor)
  | .probing w cursor matched => ∃ prompted, s.Core w prompted ∧
      w.wait.initialSequence ≤ cursor ∧ s.Proper w prompted ∧ matched = none
  | .checking w cursor => ∃ prompted, s.Core w prompted ∧ w.wait.initialSequence ≤ cursor ∧
      s.Proper w prompted
  | .lastProbe w => ∃ prompted, s.Core w prompted ∧ s.Proper w prompted
  | .finished (some (.agentPrompted _ _)) => s.Effected
  | .finished _ => True

structure Inv (s : PromptRun) : Prop where
  hub : s.hub.Holds s.pushed
  phase : s.Phase s.call

/-! ## Steps of the app -/

/-- What a step of the app leaves alone. -/
structure AppStep (s s' : PromptRun) : Prop where
  params : s'.params = s.params
  call : s'.call = s.call
  watch : s'.watch = s.watch
  pushed : ∃ new, s'.pushed = s.pushed ++ new
  hub : s'.hub.Holds s'.pushed

/-- The counter of the agent that the second wait waits for does not go back. -/
def Counts (s s' : PromptRun) (w : Waiting) : Prop :=
  w.wait.afterStateChangeSeq = none → s.app.stateChangeSeq w.wait.initial.terminalId ≤
    s'.app.stateChangeSeq w.wait.initial.terminalId

section AppStep

variable {s s' : PromptRun} {w : Waiting} {prompted : AgentInfo} {cursor : ℕ}

theorem AppStep.getElem? (h : AppStep s s') {i : ℕ} {event : EventEnvelope}
    (hi : s.pushed[i]? = some event) : s'.pushed[i]? = some event := by
  obtain ⟨new, hnew⟩ := h.pushed
  rw [hnew, List.getElem?_append_left (List.getElem?_eq_some_iff.1 hi).1, hi]

theorem AppStep.window (h : AppStep s s') (hle : s.watch.promptedAt ≤ s.pushed.length) (k : ℕ) :
    (s'.pushed.take s'.watch.promptedAt).drop k = (s.pushed.take s.watch.promptedAt).drop k := by
  obtain ⟨new, hnew⟩ := h.pushed
  rw [hnew, h.watch, List.take_append_of_le_length hle]

theorem Effected.app (h : s.Effected) (happ : AppStep s s') : s'.Effected := by
  unfold Effected requested at *
  rw [happ.params, happ.watch]
  obtain ⟨prompted, baseline, hprompted, hprobe | ⟨i, event, paneId, status, hi, hget, hrest⟩⟩ := h
  · exact ⟨prompted, baseline, hprompted, .inl hprobe⟩
  · exact ⟨prompted, baseline, hprompted,
      .inr ⟨i, event, paneId, status, hi, happ.getElem? hget, hrest⟩⟩

theorem Core.app (h : s.Core w prompted) (happ : AppStep s s') : s'.Core w prompted := by
  obtain ⟨new, hnew⟩ := happ.pushed
  refine ⟨?_, ?_, ?_, ?_, h.accept, ?_, h.effect, ?_⟩
  · rw [happ.watch, h.answer]
  · rw [happ.watch]
    exact h.window
  · rw [happ.watch, hnew, List.length_append]
    exact Nat.le_add_right_of_le h.promptedAt
  · rw [happ.params, h.target]
  · rw [happ.window h.promptedAt, requested, happ.params]
    exact h.unreleased
  · rw [requested, happ.params]
    exact h.status

theorem Proper.app (h : s.Proper w prompted) (hcore : s.Core w prompted) (happ : AppStep s s')
    (hcounts : Counts s s' w) : s'.Proper w prompted := by
  rcases h with ⟨hinitial, hafter⟩ |
    ⟨hafter, hmem, hsame, hlabel, hseq, hcounter, hunreleased⟩
  · exact .prompted hinitial hafter
  · refine .observed hafter ?_ ?_ hlabel hseq (hcounter.trans (hcounts hafter)) ?_
    · rwa [happ.watch]
    · rwa [happ.params]
    · rwa [happ.window hcore.promptedAt, requested, happ.params]

theorem Released.app (h : s.Released w prompted cursor) (happ : AppStep s s') :
    s'.Released w prompted cursor := by
  obtain ⟨i, event, hi, hget, hrelease⟩ := h.release
  exact ⟨h.after, h.paneId, i, event, hi, happ.getElem? hget, hrelease⟩

/-- The wait that the call is in. -/
def PromptCall.waiting? : PromptCall → Option Waiting
  | .reading w _ | .probing w _ _ | .checking w _ | .lastProbe w => some w
  | _ => none

theorem Phase.app {call : PromptCall} (h : s.Phase call) (happ : AppStep s s')
    (hcounts : ∀ w ∈ PromptCall.waiting? call, Counts s s' w) : s'.Phase call := by
  obtain ⟨new, hnew⟩ := happ.pushed
  have hle : s.pushed.length ≤ s'.pushed.length := by simp [hnew]
  rcases call with _ | k | ⟨k, before⟩ | ⟨w, cursor⟩ | ⟨w, cursor, matched⟩ | ⟨w, cursor⟩ | w |
    response
  · trivial
  · exact Nat.le_trans h hle
  · exact Nat.le_trans h hle
  · obtain ⟨prompted, hcore, hcursor, hproper | hreleased⟩ := h
    · exact ⟨prompted, hcore.app happ, hcursor, .inl (hproper.app hcore happ (hcounts w rfl))⟩
    · exact ⟨prompted, hcore.app happ, hcursor, .inr (hreleased.app happ)⟩
  · obtain ⟨prompted, hcore, hcursor, hproper, hmatched⟩ := h
    exact ⟨prompted, hcore.app happ, hcursor, hproper.app hcore happ (hcounts w rfl), hmatched⟩
  · obtain ⟨prompted, hcore, hcursor, hproper⟩ := h
    exact ⟨prompted, hcore.app happ, hcursor, hproper.app hcore happ (hcounts w rfl)⟩
  · obtain ⟨prompted, hcore, hproper⟩ := h
    exact ⟨prompted, hcore.app happ, hproper.app hcore happ (hcounts w rfl)⟩
  · rcases response with _ | ⟨agent, baseline⟩ | error
    · trivial
    · exact Effected.app h happ
    · trivial

theorem Inv.app (h : s.Inv) (happ : AppStep s s')
    (hcounts : ∀ w ∈ PromptCall.waiting? s.call, Counts s s' w) : s'.Inv :=
  ⟨happ.hub, happ.call ▸ h.phase.app happ hcounts⟩

end AppStep

/-! ## Steps of the call -/

section Call

variable {s : PromptRun} {w : Waiting} {prompted : AgentInfo} {cursor : ℕ}

/-- No release from before the prompt in the pane that is waited for, which the agent was seen
in. -/
theorem seen (hcore : s.Core w prompted) (h : s.Proper w prompted ∨ s.Released w prompted cursor) :
    Unreleased s.requested w.wait.initial.paneId
      ((s.pushed.take s.watch.promptedAt).drop w.wait.initialSequence) ∧
    (w.wait.initial.paneId = prompted.paneId ∨
      ∃ probe ∈ s.watch.probes, SameAgent s.params.target prompted probe ∧
        probe.paneId = w.wait.initial.paneId) := by
  rcases h with (⟨hinitial, -⟩ | ⟨-, hmem, hsame, -, -, -, hunreleased⟩) | ⟨-, hpane, -⟩
  · rw [hinitial]
    exact ⟨hcore.unreleased, .inl rfl⟩
  · exact ⟨hunreleased, .inr ⟨_, hmem, hsame, rfl⟩⟩
  · rw [hpane]
    exact ⟨hcore.unreleased, .inl rfl⟩

/-- A release with a status asked for, in what a wait reads, is an effect. -/
theorem effected_of_release (hcore : s.Core w prompted)
    (h : s.Proper w prompted ∨ s.Released w prompted cursor) {i : ℕ} {event : EventEnvelope}
    {status : AgentStatus} (hi : w.wait.initialSequence ≤ i) (hget : s.pushed[i]? = some event)
    (hrelease : event.releaseOf w.wait.initial.paneId = some (some status))
    (hstatus : status ∈ s.requested) : s.Effected := by
  obtain ⟨hunreleased, hpane⟩ := seen hcore h
  refine ⟨prompted, w.baseline, hcore.answer, .inr ⟨i, event, _, status, ?_, hget, hrelease,
    hstatus, hpane⟩⟩
  by_contra hlt
  refine hunreleased event (List.mem_of_getElem? (i := i - w.wait.initialSequence) ?_) status
    hstatus hrelease
  rw [List.getElem?_drop, Nat.add_sub_cancel' hi, List.getElem?_take_of_lt (by omega), hget]

/-- The second wait of the same prompt. -/
theorem Core.next (h : s.Core w prompted) {w' : Waiting} (hstage : w'.stage = .status)
    (hbaseline : w'.baseline = w.baseline)
    (hsequence : w'.wait.initialSequence = w.wait.initialSequence)
    (htarget : w'.wait.target = s.params.target) (haccept : w'.wait.acceptTransientStatus = false)
    (huntil : w'.wait.until = s.requested) : s.Core w' prompted := by
  refine ⟨?_, ?_, h.promptedAt, htarget, haccept, ?_, ?_, fun _ => huntil⟩
  · rw [hbaseline, h.answer]
  · rw [hsequence]
    exact h.window
  · rw [hsequence]
    exact h.unreleased
  · rw [hstage]
    nofun

theorem Core.call (h : s.Core w prompted) (call : PromptCall) :
    Core { s with call } w prompted :=
  ⟨h.answer, h.window, h.promptedAt, h.target, h.accept, h.unreleased, h.effect, h.status⟩

theorem Proper.call (h : s.Proper w prompted) (call : PromptCall) :
    Proper { s with call } w prompted := by
  rcases h with ⟨hinitial, hafter⟩ | ⟨hafter, hmem, hsame, hlabel, hseq, hcounter, hunreleased⟩
  · exact .prompted hinitial hafter
  · exact .observed hafter hmem hsame hlabel hseq hcounter hunreleased

theorem Released.call (h : s.Released w prompted cursor) (call : PromptCall) :
    Released { s with call } w prompted cursor :=
  ⟨h.after, h.paneId, h.release⟩

theorem agentWaitMatches_none {agent : AgentInfo} {«until» : List AgentStatus} :
    agentWaitMatches agent «until» none = true ↔ agent.agentStatus ∈ «until» := by
  simp [agentWaitMatches]

/-- The second wait begins, with what the first one saw. -/
theorem phase_second (hcore : s.Core w prompted) (agent : AgentInfo) (now : ℕ)
    (h : ∀ w' : Waiting, w'.wait.afterStateChangeSeq = none → w'.wait.initial = agent → w'.baseline = w.baseline →
      w'.wait.initialSequence = w.wait.initialSequence →
      s.Proper w' prompted ∨ s.Released w' prompted w.wait.initialSequence) :
    Phase (s.beginStatusWait agent w.wait.initialSequence none w.baseline w.waitStarted now)
      (s.beginStatusWait agent w.wait.initialSequence none w.baseline w.waitStarted now).call := by
  refine ⟨prompted, Core.call (s := s) ?_ _, Nat.le_refl _, ?_⟩
  · exact hcore.next rfl rfl rfl rfl rfl rfl
  · exact Or.imp (fun h => Proper.call (s := s) h _) (fun h => Released.call (s := s) h _)
      (h _ rfl rfl rfl rfl)

/-- A wait that a release ends. -/
theorem phase_released (hcore : s.Core w prompted)
    (h : s.Proper w prompted ∨ s.Released w prompted cursor) {i : ℕ} {event : EventEnvelope}
    {status : AgentStatus} (hi : w.wait.initialSequence ≤ i) (hget : s.pushed[i]? = some event)
    (hrelease : event.releaseOf w.wait.initial.paneId = some (some status))
    (hstatus : status ∈ w.wait.until) (now : ℕ) :
    (s.afterWait w now (.matched { w.wait.initial with agentStatus := status })).Phase
      (s.afterWait w now (.matched { w.wait.initial with agentStatus := status })).call := by
  have heffected : status ∈ s.requested → s.Effected :=
    effected_of_release hcore h hi hget hrelease
  rcases hstage : w.stage with _ | _
  · obtain ⟨hinitial, -⟩ := hcore.effect hstage
    simp only [afterWait, hstage]
    split
    · rename_i hmatches
      exact heffected (agentWaitMatches_none.1 hmatches)
    · refine phase_second hcore _ now fun w' hafter' hinitial' _ _ => .inr ⟨hafter', ?_, ?_⟩
      · rw [hinitial', hinitial]
      · refine ⟨i, event, hi, hget, ?_⟩
        rw [← hinitial, hrelease]
        nofun
  · simp only [afterWait, hstage]
    exact heffected (hcore.status hstage ▸ hstatus)

/-- Reading on, with no release in what is read. -/
theorem proper_of_read (h : s.Proper w prompted ∨ s.Released w prompted cursor)
    (hread : ∀ event ∈ s.pushed.drop (max (s.pushed.length - EventHub.maxEvents) cursor),
      event.releaseOf w.wait.initial.paneId = none)
    (hlost : w.wait.afterStateChangeSeq = none →
      ∀ event ∈ (s.pushed.take (s.pushed.length - EventHub.maxEvents)).drop cursor,
        event.releaseOf w.wait.initial.paneId = none) : s.Proper w prompted := by
  rcases h with hproper | ⟨hafter, hpane, i, event, hi, hget, hrelease⟩
  · exact hproper
  -- The release that ended the first wait would be read now, or have fallen out.
  rw [← hpane] at hrelease
  rcases Nat.lt_or_ge i (s.pushed.length - EventHub.maxEvents) with hlt | hge
  · refine absurd (hlost hafter event (List.mem_of_getElem? (i := i - cursor) ?_)) hrelease
    rw [List.getElem?_drop, Nat.add_sub_cancel' hi, List.getElem?_take_of_lt hlt, hget]
  · refine absurd (hread event (List.mem_of_getElem?
      (i := i - max (s.pushed.length - EventHub.maxEvents) cursor) ?_)) hrelease
    rw [List.getElem?_drop, Nat.add_sub_cancel' (Nat.max_le.2 ⟨hge, hi⟩), hget]

theorem phase_reading (hhub : s.hub.Holds s.pushed) (hcore : s.Core w prompted)
    (hcursor : w.wait.initialSequence ≤ cursor)
    (h : s.Proper w prompted ∨ s.Released w prompted cursor)
    (hlost : w.wait.afterStateChangeSeq = none →
      ∀ event ∈ (s.pushed.take (s.pushed.length - EventHub.maxEvents)).drop cursor,
        event.releaseOf w.wait.initial.paneId = none)
    (hcall : s.call = .reading w cursor) (now : ℕ) (gone : Bool) (failure : Option ErrorBody) :
    (s.callStep now gone failure).Phase (s.callStep now gone failure).call := by
  have hdrains := w.wait.drains hcore.accept
    (s.pushed.drop (max (s.pushed.length - EventHub.maxEvents) cursor))
    (Nat.le_max_right (s.pushed.length - EventHub.maxEvents) cursor) false
  rw [← hhub.eventsAfter cursor] at hdrains
  rcases gone with _ | _
  · simp only [callStep, hcall, Bool.false_eq_true, if_false]
    generalize w.wait.drain cursor false none (s.hub.eventsAfter cursor) = drained at hdrains ⊢
    rcases hdrains with @⟨cursor', shouldProbe, hle, hl⟩ | error |
      @⟨i, event, status, hi, hrelease, hstatus⟩
    · have hproper := proper_of_read h hl hlost
      rcases shouldProbe with _ | _
      · exact ⟨prompted, hcore.call _, hcursor.trans hle, hproper.call _⟩
      · exact ⟨prompted, hcore.call _, hcursor.trans hle, hproper.call _, rfl⟩
    · trivial
    · rw [List.getElem?_drop] at hi
      exact phase_released hcore h (by omega) hi hrelease hstatus now
  · simp only [callStep, hcall, if_true]
    trivial

theorem ask_eq_ok {failure : Option ErrorBody} {agent : AgentInfo}
    (h : s.ask failure = some (.ok agent)) : s.app.agentGet = .ok agent := by
  rcases failure with _ | error
  · rcases houtbox : s.outbox with _ | _
    · simpa [ask, houtbox] using h
    · simp [ask, houtbox] at h
  · simp [ask] at h

theorem phase_prompting {initialSequence : ℕ} {beforePrompt : AgentInfo}
    (hsequence : initialSequence ≤ s.pushed.length)
    (hunreleased : ∀ agent, s.app.agentGet = .ok agent →
      Unreleased s.requested agent.paneId (s.pushed.drop initialSequence))
    (hcall : s.call = .prompting initialSequence beforePrompt) (now : ℕ) (gone : Bool)
    (failure : Option ErrorBody) :
    (s.callStep now gone failure).Phase (s.callStep now gone failure).call := by
  rcases hask : s.ask failure with _ | error | agent
  · simp only [callStep, hcall, hask]
    exact hsequence
  · simp only [callStep, hcall, hask]
    trivial
  · have hwindow : Unreleased s.requested agent.paneId
        ((s.pushed.take s.pushed.length).drop initialSequence) := by
      rw [List.take_length]
      exact hunreleased agent (ask_eq_ok hask)
    simp only [callStep, hcall, hask, afterPrompt]
    split
    · trivial
    · split
      · exact ⟨agent, ⟨rfl, hsequence, Nat.le_refl _, rfl, rfl, hwindow, fun _ => ⟨rfl, rfl⟩,
          nofun⟩, Nat.le_refl _, .inl (.prompted rfl rfl)⟩
      · exact ⟨agent, ⟨rfl, hsequence, Nat.le_refl _, rfl, rfl, hwindow, nofun, fun _ => rfl⟩,
          Nat.le_refl _, .inl (.prompted rfl rfl)⟩

theorem Core.see (h : s.Core w prompted) (agent : AgentInfo) : (s.see agent).Core w prompted :=
  ⟨h.answer, h.window, h.promptedAt, h.target, h.accept, h.unreleased, h.effect, h.status⟩

theorem Proper.see (h : s.Proper w prompted) (agent : AgentInfo) :
    (s.see agent).Proper w prompted := by
  rcases h with ⟨hinitial, hafter⟩ | ⟨hafter, hmem, hsame, hlabel, hseq, hcounter, hunreleased⟩
  · exact .prompted hinitial hafter
  · exact .observed hafter (List.mem_append_left _ hmem) hsame hlabel hseq hcounter hunreleased

/-- A probe that ends a wait saw the prompted agent after a change. -/
theorem Proper.probe (h : s.Proper w prompted) (hcore : s.Core w prompted) {current : AgentInfo}
    (hget : s.app.agentGet = .ok current) (hidentity : w.wait.identityMatches current = true)
    (hafter : w.wait.afterStateChangeSeq.all (· < current.stateChangeSeq) = true) :
    SameAgent s.params.target prompted current ∧ w.baseline < current.stateChangeSeq := by
  have hsame : SameAgent s.params.target w.wait.initial current := hcore.target ▸ hidentity
  rcases h with ⟨hinitial, hsome⟩ | ⟨-, -, hsame', hlabel, hseq, hcounter, -⟩
  · rw [hinitial] at hsame
    rw [hsome] at hafter
    exact ⟨hsame, by simpa using hafter⟩
  · refine ⟨hsame'.trans hsame hlabel, hseq.trans_le (hcounter.trans (Nat.le_of_eq ?_))⟩
    rw [AgentApp.stateChangeSeq_agentGet hget, (sameAgent_iff.1 hsame).1]

/-- A wait that a probe ends. -/
theorem phase_observed (hcore : s.Core w prompted) (h : s.Proper w prompted) {current : AgentInfo}
    (hget : s.app.agentGet = .ok current)
    (horderly : w.stage = .effect → current.agentStatus ∉ s.requested →
      (w.wait.initial.agent.isSome → current.agent.isSome) ∧
      Unreleased s.requested current.paneId
        ((s.pushed.take s.watch.promptedAt).drop w.wait.initialSequence))
    {outcome : AgentWaitOutcome} (hprobed : w.wait.probed none current = some outcome) (now : ℕ) :
    ((s.see current).afterWait w now outcome).Phase
      ((s.see current).afterWait w now outcome).call := by
  rw [probed] at hprobed
  split at hprobed
  · cases hprobed
    trivial
  rename_i hidentity
  split at hprobed
  on_goal 2 => cases hprobed
  rename_i hmatches
  cases hprobed
  rw [agentWaitMatches, Bool.and_eq_true, decide_eq_true_iff] at hmatches
  obtain ⟨hsame, hseq⟩ := h.probe hcore hget (not_not.1 hidentity) hmatches.2
  have heffected : current.agentStatus ∈ s.requested → (s.see current).Effected := fun hstatus =>
    ⟨prompted, w.baseline, hcore.answer,
      .inl ⟨current, List.mem_append_right _ (List.mem_singleton_self _), hsame, hseq, hstatus⟩⟩
  rcases hstage : w.stage with _ | _
  · obtain ⟨hinitial, -⟩ := hcore.effect hstage
    simp only [afterWait, hstage]
    split
    · rename_i hrequested
      exact heffected (agentWaitMatches_none.1 hrequested)
    · rename_i hrequested
      obtain ⟨hlabel, hunreleased⟩ := horderly hstage (mt agentWaitMatches_none.2 hrequested)
      refine phase_second (hcore.see current) current now fun w' hafter' hinitial' hbaseline
        hsequence => .inl (.observed hafter' ?_ ?_ ?_ ?_ ?_ ?_)
      · rw [hinitial']
        exact List.mem_append_right _ (List.mem_singleton_self _)
      · rwa [hinitial']
      · rwa [hinitial', ← hinitial]
      · rwa [hinitial', hbaseline]
      · rw [hinitial']
        exact Nat.le_of_eq (AgentApp.stateChangeSeq_agentGet hget)
      · rwa [hinitial', hsequence]
  · simp only [afterWait, hstage]
    exact heffected (hcore.status hstage ▸ hmatches.1)

theorem phase_probing (hcore : s.Core w prompted) (hcursor : w.wait.initialSequence ≤ cursor)
    (h : s.Proper w prompted)
    (horderly : w.stage = .effect → ∀ agent, s.app.agentGet = .ok agent →
      agent.agentStatus ∉ s.requested → (w.wait.initial.agent.isSome → agent.agent.isSome) ∧
      Unreleased s.requested agent.paneId
        ((s.pushed.take s.watch.promptedAt).drop w.wait.initialSequence))
    (hcall : s.call = .probing w cursor none) (now : ℕ) (gone : Bool)
    (failure : Option ErrorBody) :
    (s.callStep now gone failure).Phase (s.callStep now gone failure).call := by
  rcases hask : s.ask failure with _ | error | current
  · simp only [callStep, hcall, hask]
    exact ⟨prompted, hcore, hcursor, h, rfl⟩
  · simp only [callStep, hcall, hask]
    trivial
  · have hget := ask_eq_ok hask
    rcases hprobed : w.wait.probed none current with _ | outcome
    · simp only [callStep, hcall, hask, hprobed]
      exact ⟨prompted, (hcore.see current).call _, hcursor, (h.see current).call _⟩
    · simp only [callStep, hcall, hask, hprobed]
      exact phase_observed hcore h hget (fun hstage => horderly hstage current hget) hprobed now

theorem phase_lastProbe (hcore : s.Core w prompted) (h : s.Proper w prompted)
    (horderly : w.stage = .effect → ∀ agent, s.app.agentGet = .ok agent →
      agent.agentStatus ∉ s.requested → (w.wait.initial.agent.isSome → agent.agent.isSome) ∧
      Unreleased s.requested agent.paneId
        ((s.pushed.take s.watch.promptedAt).drop w.wait.initialSequence))
    (hcall : s.call = .lastProbe w) (now : ℕ) (gone : Bool) (failure : Option ErrorBody) :
    (s.callStep now gone failure).Phase (s.callStep now gone failure).call := by
  rcases hask : s.ask failure with _ | error | current
  · simp only [callStep, hcall, hask]
    exact ⟨prompted, hcore, h⟩
  · simp only [callStep, hcall, hask]
    trivial
  · have hget := ask_eq_ok hask
    rcases hprobed : w.wait.probed none current with _ | outcome
    · simp only [callStep, hcall, hask, hprobed]
      trivial
    · simp only [callStep, hcall, hask, hprobed]
      exact phase_observed hcore h hget (fun hstage => horderly hstage current hget) hprobed now

theorem phase_callStep (h : s.Inv) (now : ℕ) (gone : Bool) (failure : Option ErrorBody)
    (horderly : s.Orderly (.call now gone failure)) :
    (s.callStep now gone failure).Phase (s.callStep now gone failure).call := by
  have hphase := h.phase
  unfold Orderly at horderly
  rcases hcall : s.call with _ | k | ⟨k, before⟩ | ⟨w, cursor⟩ | ⟨w, cursor, matched⟩ |
    ⟨w, cursor⟩ | w | response
  all_goals rw [hcall] at hphase
  all_goals simp only [hcall] at horderly
  · simp only [callStep, hcall]
    exact Nat.le_of_eq h.hub.nextSequence
  · rcases hask : s.ask failure with _ | error | agent
    all_goals simp only [callStep, hcall, hask]
    · exact hphase
    · trivial
    · exact hphase
  · exact phase_prompting hphase horderly hcall now gone failure
  · obtain ⟨prompted, hcore, hcursor, hwait⟩ := hphase
    exact phase_reading h.hub hcore hcursor hwait horderly hcall now gone failure
  · obtain ⟨prompted, hcore, hcursor, hproper, rfl⟩ := hphase
    exact phase_probing hcore hcursor hproper horderly hcall now gone failure
  · obtain ⟨prompted, hcore, hcursor, hproper⟩ := hphase
    by_cases hdeadline : w.deadline.any (· ≤ now) = true
    · simp only [callStep, hcall, hdeadline, if_true]
      exact ⟨prompted, hcore.call _, hproper.call _⟩
    · simp only [callStep, hcall, hdeadline]
      exact ⟨prompted, hcore.call _, hcursor, .inl (hproper.call _)⟩
  · obtain ⟨prompted, hcore, hproper⟩ := hphase
    exact phase_lastProbe hcore hproper horderly hcall now gone failure
  · simp only [callStep, hcall]
    exact hphase

/-- The thread of the call only reads the hub. -/
theorem afterWait_hub (now : ℕ) (outcome : AgentWaitOutcome) :
    (s.afterWait w now outcome).hub = s.hub ∧ (s.afterWait w now outcome).pushed = s.pushed := by
  unfold afterWait
  split
  · exact ⟨rfl, rfl⟩
  · split
    · split
      all_goals exact ⟨rfl, rfl⟩
    · exact ⟨rfl, rfl⟩

theorem callStep_hub (now : ℕ) (gone : Bool) (failure : Option ErrorBody) :
    (s.callStep now gone failure).hub = s.hub ∧
      (s.callStep now gone failure).pushed = s.pushed := by
  unfold callStep
  split
  · exact ⟨rfl, rfl⟩
  · split
    all_goals exact ⟨rfl, rfl⟩
  · split
    · exact ⟨rfl, rfl⟩
    · exact ⟨rfl, rfl⟩
    · unfold afterPrompt
      split
      · exact ⟨rfl, rfl⟩
      · split
        all_goals exact ⟨rfl, rfl⟩
  · split
    · exact ⟨rfl, rfl⟩
    · split
      · exact afterWait_hub ..
      · exact ⟨rfl, rfl⟩
      · exact ⟨rfl, rfl⟩
  · split
    · exact ⟨rfl, rfl⟩
    · exact ⟨rfl, rfl⟩
    · split
      · exact afterWait_hub ..
      · exact ⟨rfl, rfl⟩
  · split
    all_goals exact ⟨rfl, rfl⟩
  · split
    · exact ⟨rfl, rfl⟩
    · exact ⟨rfl, rfl⟩
    · split
      · exact afterWait_hub ..
      · exact ⟨rfl, rfl⟩
  · exact ⟨rfl, rfl⟩

end Call

/-! ## Runs -/

theorem inv_start (params : AgentPromptParams) (app : AgentApp) (pushed : List EventEnvelope) :
    (start params app pushed).Inv :=
  ⟨EventHub.holds_foldl_push pushed, trivial⟩

theorem inv_step {s : PromptRun} (h : s.Inv) (e : PromptStep) (he : s.Orderly e) :
    (s.step e).Inv := by
  rcases e with ⟨effects, target, events⟩ | _ | ⟨now, gone, failure⟩
  · rcases houtbox : s.outbox with _ | ⟨event, rest⟩
    · simp only [step, houtbox]
      refine h.app ⟨rfl, rfl, rfl, ⟨[], (List.append_nil _).symm⟩, h.hub⟩ fun w hw hstage => ?_
      refine AgentApp.stateChangeSeq_effects s.app ?_
      unfold Orderly at he
      rcases hcall : s.call with _ | _ | _ | _ | _ | _ | _ | _
      all_goals rw [hcall] at hw he
      all_goals cases hw
      all_goals exact he hstage
    · simpa only [step, houtbox] using h
  · rcases houtbox : s.outbox with _ | ⟨event, rest⟩
    · simpa only [step, houtbox] using h
    · simp only [step, houtbox]
      exact h.app ⟨rfl, rfl, rfl, ⟨[event], rfl⟩, h.hub.push event⟩ fun w _ _ => Nat.le_refl _
  · refine ⟨?_, phase_callStep h now gone failure he⟩
    obtain ⟨hhub, hpushed⟩ := callStep_hub (s := s) now gone failure
    rw [step, hhub, hpushed]
    exact h.hub

/-- In an orderly run the answer `agent_prompted` stands for an effect of the prompt. -/
theorem prompt_effected (params : AgentPromptParams) (app : AgentApp)
    (pushed : List EventEnvelope) (es : List PromptStep) (agent : AgentInfo) (baseline : ℕ)
    (hes : Along step Orderly (start params app pushed) es)
    (hfinished : (run step (start params app pushed) es).call =
      .finished (some (.agentPrompted agent baseline))) :
    (run step (start params app pushed) es).Effected := by
  have hinv := run_induction (I := fun _ (s : PromptRun) => s.Inv) (inv_start params app pushed)
    (fun _ _ e ht he => inv_step ht e he) es hes
  have hphase := hinv.phase
  rw [hfinished] at hphase
  exact hphase

/-- An agent named `build` at the prompt. -/
def promptedAgent (agentStatus : AgentStatus) : AgentInfo where
  terminalId := "t1"
  name := some "build"
  agent := some "pi"
  agentStatus := agentStatus
  stateChangeSeq := 0
  paneId := "w1:p1"

def promptedApp : AgentApp where
  nextAgentStateChangeSeq := 0
  lastAgentStateChangeSeq := fun _ => none
  target := .ok (promptedAgent .idle)
  last_le := nofun

def promptBuild : AgentPromptParams where
  target := "build"
  «until» := []
  timeoutMs := none

/-- A release of the agent in its pane. -/
def releaseEvent (finalStatus : AgentStatus) : EventEnvelope :=
  ⟨.paneAgentDetected, .paneAgentDetected "w1:p1" "w1" (some "pi") true (some finalStatus)⟩

/-- The agent is done with the prompt, and released. -/
def releasedDone : List PromptStep :=
  [.call 0 false none, .call 0 false none, .call 0 false none,
    .app [] (.ok (promptedAgent .done)) [releaseEvent .done], .push, .call 1 false none]

theorem prompt_effected_releasedDone :
    (run step (start promptBuild promptedApp []) releasedDone).Effected := by
  refine prompt_effected promptBuild promptedApp [] releasedDone (promptedAgent .done) 0
    ⟨trivial, trivial, ?_, ?_, trivial, ?_, trivial⟩ rfl
  · intro agent _ event hevent
    cases hevent
  · nofun
  · nofun

/-- The agent is released and found again before the prompt is sent. -/
def staleRelease : List PromptStep :=
  [.call 0 false none,
    .app [] (.ok (promptedAgent .idle)) [releaseEvent .idle], .push, .call 0 false none, .call 0 false none, .call 1 false none]

/-- A release from before the prompt answers it. -/
theorem stale_release_answers_prompt :
    (run step (start promptBuild promptedApp []) staleRelease).call =
        .finished (some (.agentPrompted (promptedAgent .idle) 0)) ∧
      ¬ (run step (start promptBuild promptedApp []) staleRelease).Effected := by
  refine ⟨rfl, ?_⟩
  rintro ⟨prompted, baseline, -, ⟨probe, hprobe, -⟩ | ⟨i, event, paneId, status, hi, hget, -⟩⟩
  · cases hprobe
  · have hpushed : (run step (start promptBuild promptedApp []) staleRelease).pushed.length ≤
        (run step (start promptBuild promptedApp []) staleRelease).watch.promptedAt := by
      decide +kernel
    obtain ⟨hlt, -⟩ := List.getElem?_eq_some_iff.1 hget
    exact absurd (hpushed.trans hi) (Nat.not_le.2 hlt)

end PromptRun

end Zynk.Api
