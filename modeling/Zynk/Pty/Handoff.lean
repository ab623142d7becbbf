import Zynk.Pty.Moves

/-!
# The gate and the handoff

`Protocol` is what holds of the gate, the control commands and the call of the controller in every
ordinary run : the gate is open only while the actor runs and no `begin_handoff` is on its way, and
a quiesced actor has no user write in its channel (`protocol_run`).

A `rollback_handoff` that does not get its reply within its second returns and leaves the gate
closed, and the actor later takes the command and runs : nothing opens the gate any more
(`gate_stays_closed`). Where no call gives up so, the gate and the state agree whenever the pane is
at rest (`gate_open_iff`).
-/

namespace Zynk.Pty

/-- The reply channel of a control command. -/
def PtyIoControlCommand.reply? : PtyIoControlCommand → Option ℕ
  | .beginHandoff reply => some reply
  | .duplicateForHandoff reply => some reply
  | .foregroundProcessGroup reply => some reply
  | .rollbackHandoff reply => some reply
  | .releaseAfterCommit reply => some reply
  | .shutdown => none

/-- The commands that change the actor's state and do not end it. -/
def PtyIoControlCommand.isHandoff : PtyIoControlCommand → Bool
  | .beginHandoff _ => true
  | .rollbackHandoff _ => true
  | _ => false

namespace PtyIo

/-- The control commands still to be answered : the handoff the actor is in the middle of, and those
of the channel. -/
def commands (s : PtyIo) : List PtyIoControlCommand :=
  (s.phase.handoffReply.map .beginHandoff).toList ++ s.controlQueue

def handoffs (s : PtyIo) : List PtyIoControlCommand :=
  s.commands.filter (·.isHandoff)

def unanswered (s : PtyIo) : List ℕ :=
  s.commands.filterMap (·.reply?)

theorem commands_of_some {s : PtyIo} {reply : ℕ} (h : s.phase.handoffReply = some reply) :
    s.commands = .beginHandoff reply :: s.controlQueue := by
  simp [commands, h]

theorem commands_of_none {s : PtyIo} (h : s.phase.handoffReply = none) :
    s.commands = s.controlQueue := by
  simp [commands, h]

/-- The head of the control channel is taken. -/
theorem commands_of_cons {s s' : PtyIo} {command : PtyIoControlCommand}
    (h : s.phase.handoffReply = none) (hqueue : s.controlQueue = command :: s'.controlQueue)
    (hphase : s'.phase = s.phase) : s.commands = command :: s'.commands := by
  rw [commands_of_none h, commands_of_none (hphase ▸ h), hqueue]

/-- The controller's command is the last handoff command on its way until it is answered; then there
is none. -/
structure Awaits (s : PtyIo) (command : PtyIoControlCommand) (reply : ℕ) : Prop where
  waiting : s.replies.lookup reply = none →
    s.phase = .exited ∨ ∃ before, s.handoffs = before ++ [command]
  answered : s.replies.lookup reply ≠ none → s.handoffs = []

structure Protocol (s : PtyIo) : Prop where
  state : s.state ≠ .released
  ordinary : ∀ command ∈ s.commands,
    (∀ reply, command ≠ .releaseAfterCommit reply) ∧ command ≠ .shutdown
  unanswered : ∀ reply ∈ s.unanswered, reply < s.nextReply ∧ s.replies.lookup reply = none
  nodup : s.unanswered.Nodup
  fresh : ∀ reply, s.nextReply ≤ reply → s.replies.lookup reply = none
  gate : s.accepting = true →
    s.phase = .exited ∨ s.state = .running ∧ ∀ reply, .beginHandoff reply ∉ s.commands
  quiet : s.phase ≠ .exited → s.state = .quiesced ∨ s.phase.Drained → s.dataQueue = []
  begin : ∀ reply, s.controller = .beginHandoff reply →
    s.accepting = false ∧ s.Awaits (.beginHandoff reply) reply ∧
      (s.replies.lookup reply = some (.ok ()) → s.state = .quiesced)
  rollback : ∀ reply, s.controller = .rollbackHandoff reply →
    s.Awaits (.rollbackHandoff reply) reply ∧ ∀ result,
      s.replies.lookup reply = some result → result = .ok () ∧ s.state = .running
  openGate : s.controller = .openGate → s.handoffs = [] ∧ s.state = .running

/-! ## Steps that answer nothing -/

/-- The gate, the commands and the replies are as they were. -/
structure Same (s s' : PtyIo) : Prop where
  accepting : s'.accepting = s.accepting
  controller : s'.controller = s.controller
  commands : s'.commands = s.commands
  nextReply : s'.nextReply = s.nextReply
  replies : s'.replies = s.replies
  state : s'.state = s.state
  exited : s'.phase = .exited ↔ s.phase = .exited

variable {s s' : PtyIo}

theorem Same.handoffs (h : Same s s') : s'.handoffs = s.handoffs := by
  rw [PtyIo.handoffs, h.commands, PtyIo.handoffs]

theorem Same.awaits (h : Same s s') {command : PtyIoControlCommand} {reply : ℕ}
    (hs : s.Awaits command reply) : s'.Awaits command reply := by
  constructor
  · rw [h.replies, h.exited, h.handoffs]
    exact hs.waiting
  · rw [h.replies, h.handoffs]
    exact hs.answered

theorem Protocol.of_same (hs : Protocol s) (h : Same s s')
    (hquiet : s'.phase ≠ .exited → s'.state = .quiesced ∨ s'.phase.Drained → s'.dataQueue = []) :
    Protocol s' where
  state := by rw [h.state]; exact hs.state
  ordinary := by rw [h.commands]; exact hs.ordinary
  unanswered := by
    rw [PtyIo.unanswered, h.commands, h.nextReply, h.replies]
    exact hs.unanswered
  nodup := by rw [PtyIo.unanswered, h.commands]; exact hs.nodup
  fresh := by rw [h.nextReply, h.replies]; exact hs.fresh
  gate := by rw [h.accepting, h.exited, h.state, h.commands]; exact hs.gate
  quiet := hquiet
  begin reply hcontroller := by
    rw [h.accepting, h.replies, h.state]
    obtain ⟨hclosed, hawaits, hok⟩ := hs.begin reply (h.controller ▸ hcontroller)
    exact ⟨hclosed, h.awaits hawaits, hok⟩
  rollback reply hcontroller := by
    rw [h.replies, h.state]
    obtain ⟨hawaits, hrunning⟩ := hs.rollback reply (h.controller ▸ hcontroller)
    exact ⟨h.awaits hawaits, hrunning⟩
  openGate hcontroller := by
    rw [h.handoffs, h.state]
    exact hs.openGate (h.controller ▸ hcontroller)

/-- The gate is open : no handoff has closed the data channel to the actor. -/
theorem Protocol.not_quiet (hs : Protocol s) (haccepting : s.accepting = true)
    (hexited : s.phase ≠ .exited) : ¬ (s.state = .quiesced ∨ s.phase.Drained) := by
  obtain hgone | ⟨hrunning, hnone⟩ := hs.gate haccepting
  · exact absurd hgone hexited
  rintro (hquiesced | ⟨hhandoff, -⟩)
  · simp [hrunning] at hquiesced
  · obtain ⟨reply, hreply⟩ := Option.isSome_iff_exists.1 hhandoff
    exact hnone reply (by simp [commands, hreply])

/-! ## Steps that answer a command -/

/-- The first of the commands on its way is answered. -/
structure Answers (s s' : PtyIo) (command : PtyIoControlCommand) (reply : ℕ) (result : Reply) :
    Prop where
  commands : s.commands = command :: s'.commands
  channel : command.reply? = some reply
  replies : s'.replies = s.replies ++ [(reply, result)]
  accepting : s'.accepting = s.accepting
  controller : s'.controller = s.controller
  nextReply : s'.nextReply = s.nextReply
  exited : s.phase ≠ .exited
  inquiry : command.isHandoff = false → s'.state = s.state
  rollback : command = .rollbackHandoff reply → result = .ok () ∧ s'.state = .running
  quiesced : command = .beginHandoff reply → result = .ok () → s'.state = .quiesced

variable {command : PtyIoControlCommand} {reply : ℕ} {result : Reply}

theorem Answers.handoffs_of_isHandoff (h : Answers s s' command reply result)
    (hcommand : command.isHandoff = true) : s.handoffs = command :: s'.handoffs := by
  simp [PtyIo.handoffs, h.commands, hcommand]

theorem Answers.handoffs_of_inquiry (h : Answers s s' command reply result)
    (hcommand : command.isHandoff = false) : s.handoffs = s'.handoffs := by
  simp [PtyIo.handoffs, h.commands, hcommand]

/-- With no handoff command on its way it was an inquiry. -/
theorem Answers.inquiry_of_handoffs (h : Answers s s' command reply result)
    (hempty : s.handoffs = []) : command.isHandoff = false := by
  by_contra hcommand
  rw [h.handoffs_of_isHandoff (by simpa using hcommand)] at hempty
  simp at hempty

theorem Answers.unanswered (h : Answers s s' command reply result) :
    s.unanswered = reply :: s'.unanswered := by
  simp [PtyIo.unanswered, h.commands, h.channel]

variable {other : ℕ}

/-- The replies there were are found as before. -/
theorem Answers.lookup_of_ne_none (h : Answers s s' command reply result)
    (hother : s.replies.lookup other ≠ none) :
    s'.replies.lookup other = s.replies.lookup other := by
  rw [h.replies, List.lookup_append]
  exact Option.or_of_isSome (Option.isSome_iff_ne_none.2 hother)

theorem Answers.lookup_of_ne (h : Answers s s' command reply result) (hne : other ≠ reply) :
    s'.replies.lookup other = s.replies.lookup other := by
  rw [h.replies, List.lookup_append, List.lookup_cons, beq_eq_false_iff_ne.2 hne]
  simp

theorem Answers.lookup_self (h : Answers s s' command reply result)
    (hnone : s.replies.lookup reply = none) : s'.replies.lookup reply = some result := by
  rw [h.replies, List.lookup_append, hnone]
  simp

/-- A command that is still on its way has another reply channel. -/
theorem Answers.ne_of_mem (h : Answers s s' command reply result) (hs : Protocol s)
    {later : PtyIoControlCommand} (hlater : later ∈ s'.commands)
    (hother : later.reply? = some other) : other ≠ reply := by
  have hnodup := hs.nodup
  rw [h.unanswered, List.nodup_cons] at hnodup
  rintro rfl
  exact hnodup.1 (List.mem_filterMap.2 ⟨later, hlater, hother⟩)

/-- An inquiry is answered, or the controller's reply is still to come, or it has just come. -/
theorem Answers.awaits (h : Answers s s' command reply result) (hs : Protocol s)
    {waited : PtyIoControlCommand} (hother : waited.reply? = some other)
    (hawaits : s.Awaits waited other) : s'.Awaits waited other ∧
      (command.isHandoff = false ∧ s'.replies.lookup other = s.replies.lookup other ∨
        s'.replies.lookup other = none ∨
        command = waited ∧ s'.replies.lookup other = some result) := by
  by_cases hnone : s.replies.lookup other = none
  · obtain hgone | ⟨before, hbefore⟩ := hawaits.waiting hnone
    · exact absurd hgone h.exited
    have hstill (hmem : waited ∈ s'.handoffs) : s'.replies.lookup other = none :=
      (h.lookup_of_ne (h.ne_of_mem hs (List.mem_filter.1 hmem).1 hother)).trans hnone
    rcases hcommand : command.isHandoff with _ | _
    · rw [h.handoffs_of_inquiry hcommand] at hbefore
      have hlookup := hstill (by simp [hbefore])
      exact ⟨⟨fun _ => .inr ⟨before, hbefore⟩, fun hne => absurd hlookup hne⟩,
        .inr (.inl hlookup)⟩
    rw [h.handoffs_of_isHandoff hcommand] at hbefore
    rcases before with _ | ⟨first, before⟩
    · obtain ⟨rfl, hrest⟩ : command = waited ∧ s'.handoffs = [] := by simpa using hbefore
      obtain rfl : reply = other := Option.some_inj.1 (h.channel.symm.trans hother)
      have hlookup := h.lookup_self hnone
      exact ⟨⟨fun hne => by simp [hlookup] at hne, fun _ => hrest⟩, .inr (.inr ⟨rfl, hlookup⟩)⟩
    · have hrest : s'.handoffs = before ++ [waited] := (List.cons.inj hbefore).2
      have hlookup := hstill (by simp [hrest])
      exact ⟨⟨fun _ => .inr ⟨before, hrest⟩, fun hne => absurd hlookup hne⟩,
        .inr (.inl hlookup)⟩
  · have hempty := hawaits.answered hnone
    have hcommand := h.inquiry_of_handoffs hempty
    have hlookup := h.lookup_of_ne_none hnone
    rw [h.handoffs_of_inquiry hcommand] at hempty
    exact ⟨⟨fun hnone' => absurd (hlookup.symm.trans hnone') hnone, fun _ => hempty⟩,
      .inl ⟨hcommand, hlookup⟩⟩

theorem Protocol.answer (hs : Protocol s) (h : Answers s s' command reply result)
    (hstate : s'.state ≠ .released) (hphase : s'.phase.handoffReply = none)
    (hquiet : s'.state = .quiesced → s'.dataQueue = []) : Protocol s' where
  state := hstate
  ordinary other hother := hs.ordinary other (h.commands ▸ List.mem_cons_of_mem _ hother)
  unanswered other hother := by
    have hmem : other ∈ s.unanswered := h.unanswered ▸ List.mem_cons_of_mem _ hother
    obtain ⟨later, hlater, hreply⟩ := List.mem_filterMap.1 hother
    rw [h.nextReply, h.lookup_of_ne (h.ne_of_mem hs hlater hreply)]
    exact hs.unanswered other hmem
  nodup := (List.nodup_cons.1 (h.unanswered ▸ hs.nodup)).2
  fresh other hother := by
    rw [h.nextReply] at hother
    have hlt : reply < s.nextReply := (hs.unanswered reply (by simp [h.unanswered])).1
    rw [h.lookup_of_ne (by omega)]
    exact hs.fresh other hother
  gate haccepting := by
    obtain hgone | ⟨hrunning, hnone⟩ := hs.gate (h.accepting ▸ haccepting)
    · exact absurd hgone h.exited
    refine .inr ⟨?_, fun other hother => hnone other (h.commands ▸ List.mem_cons_of_mem _ hother)⟩
    rcases hcommand : command.isHandoff with _ | _
    · rw [h.inquiry hcommand, hrunning]
    · rcases command with other | _ | _ | other | _ | _
      · exact absurd (by simp [h.commands]) (hnone other)
      · simp [PtyIoControlCommand.isHandoff] at hcommand
      · simp [PtyIoControlCommand.isHandoff] at hcommand
      · obtain rfl : other = reply := Option.some_inj.1 h.channel
        exact (h.rollback rfl).2
      · simp [PtyIoControlCommand.isHandoff] at hcommand
      · simp [PtyIoControlCommand.isHandoff] at hcommand
  quiet _ hquiet' := by
    refine hquiet (hquiet'.resolve_right fun hdrained => ?_)
    simp [Phase.Drained, hphase] at hdrained
  begin other hcontroller := by
    obtain ⟨hclosed, hawaits, hok⟩ := hs.begin other (h.controller ▸ hcontroller)
    obtain ⟨hawaits', hcase⟩ := h.awaits hs rfl hawaits
    refine ⟨h.accepting ▸ hclosed, hawaits', fun hlookup => ?_⟩
    rcases hcase with ⟨hinquiry, hsame⟩ | hnone | ⟨rfl, hresult⟩
    · rw [h.inquiry hinquiry]
      exact hok (hsame ▸ hlookup)
    · simp [hnone] at hlookup
    · obtain rfl : other = reply := Option.some_inj.1 h.channel
      exact h.quiesced rfl (Option.some_inj.1 (hresult.symm.trans hlookup))
  rollback other hcontroller := by
    obtain ⟨hawaits, hrunning⟩ := hs.rollback other (h.controller ▸ hcontroller)
    obtain ⟨hawaits', hcase⟩ := h.awaits hs rfl hawaits
    refine ⟨hawaits', fun result' hlookup => ?_⟩
    rcases hcase with ⟨hinquiry, hsame⟩ | hnone | ⟨rfl, hresult⟩
    · rw [h.inquiry hinquiry]
      exact hrunning result' (hsame ▸ hlookup)
    · simp [hnone] at hlookup
    · obtain rfl : other = reply := Option.some_inj.1 h.channel
      obtain rfl : result = result' := Option.some_inj.1 (hresult.symm.trans hlookup)
      exact h.rollback rfl
  openGate hcontroller := by
    obtain ⟨hempty, hrunning⟩ := hs.openGate (h.controller ▸ hcontroller)
    have hinquiry := h.inquiry_of_handoffs hempty
    rw [← h.handoffs_of_inquiry hinquiry, h.inquiry hinquiry]
    exact ⟨hempty, hrunning⟩

theorem Protocol.leave (hs : Protocol s) : Protocol s.leave := by
  have hcommands : s.leave.commands = [] := rfl
  have hawaits (waited : PtyIoControlCommand) (other : ℕ) : s.leave.Awaits waited other :=
    ⟨fun _ => .inl rfl, fun _ => rfl⟩
  constructor
  · exact hs.state
  · simp [hcommands]
  · simp [PtyIo.unanswered, hcommands]
  · simp [PtyIo.unanswered, hcommands]
  · exact hs.fresh
  · exact fun _ => .inl rfl
  · exact fun h => absurd rfl h
  · intro reply hcontroller
    obtain ⟨hclosed, -, hok⟩ := hs.begin reply hcontroller
    exact ⟨hclosed, hawaits _ _, hok⟩
  · intro reply hcontroller
    exact ⟨hawaits _ _, (hs.rollback reply hcontroller).2⟩
  · exact fun hcontroller => ⟨rfl, (hs.openGate hcontroller).2⟩

/-- What a move is to the gate and the commands : it answers nothing, it answers the first command,
or the actor leaves its loop. -/
theorem Move.cases (hs : Protocol s) {input : Readings} (h : Move s input s') :
    (Same s s' ∧
      (s'.phase ≠ .exited → s'.state = .quiesced ∨ s'.phase.Drained → s'.dataQueue = [])) ∨
    (∃ command reply result, Answers s s' command reply result ∧ s'.state ≠ .released ∧
      s'.phase.handoffReply = none ∧ (s'.state = .quiesced → s'.dataQueue = [])) ∨
    s' = s.leave := by
  rcases h with ⟨resize, slot, items, phase, hphase, hdrained, hexited, -⟩ |
    ⟨data, rest, items, hqueue, -, hexited⟩ | ⟨data, rest, hqueue, hstate, hexited⟩ |
    ⟨pending, rest, written, -, -⟩ | ⟨pending, rest, -, -⟩ |
    ⟨phase, -, hphase, hdrained, hexited⟩ | ⟨reply, rest, hphase, hqueue⟩ |
    ⟨reply, rest, hphase, hqueue⟩ | ⟨command, reply, rest, result, hphase, hqueue, hcommand⟩ |
    ⟨reply, hphase, hdrained, hpending⟩ | ⟨reply, error, hphase⟩ | ⟨hphase, hexited⟩
  · refine .inl ⟨⟨rfl, rfl, ?_, rfl, rfl, rfl, hexited⟩, fun hlive hquiet => ?_⟩
    · simp [commands, queued, goto, append, hphase]
    · have hlive' : s.phase ≠ .exited := fun h => hlive (hexited.2 h)
      rcases hquiet with hquiesced | hquiet
      · exact hs.quiet hlive' (.inl hquiesced)
      · exact (hdrained hquiet).elim (fun h => hs.quiet hlive' (.inr h)) id
  · refine .inl ⟨⟨rfl, rfl, rfl, rfl, rfl, rfl, Iff.rfl⟩, fun hlive hquiet => ?_⟩
    have := hs.quiet hlive hquiet
    simp [hqueue] at this
  · refine .inl ⟨⟨rfl, rfl, rfl, rfl, rfl, rfl, Iff.rfl⟩, fun hlive hquiet => ?_⟩
    have := hs.quiet hlive hquiet
    simp [hqueue] at this
  · exact .inl ⟨⟨rfl, rfl, rfl, rfl, rfl, rfl, Iff.rfl⟩, hs.quiet⟩
  · exact .inl ⟨⟨rfl, rfl, rfl, rfl, rfl, rfl, Iff.rfl⟩, hs.quiet⟩
  · refine .inl ⟨⟨rfl, rfl, ?_, rfl, rfl, rfl, hexited⟩, fun hlive hquiet => ?_⟩
    · simp [commands, goto, hphase]
    · exact hs.quiet (fun h => hlive (hexited.2 h)) (hquiet.imp_right hdrained)
  · refine .inl ⟨⟨rfl, rfl, ?_, rfl, rfl, rfl, by simp [goto, hphase]⟩, fun _ hquiet => ?_⟩
    · simp [commands, goto, hphase, hqueue, Phase.handoffReply]
    · refine hs.quiet (by simp [hphase]) (hquiet.imp_right fun hdrained => ?_)
      exact absurd rfl (hdrained.2 reply)
  · have hnone : s.phase.handoffReply = none := by rw [hphase]; rfl
    have hanswers : Answers s ({ s with controlQueue := rest, state := .running }.answer reply
        (.ok ())) (.rollbackHandoff reply) reply (.ok ()) :=
      ⟨commands_of_cons hnone hqueue rfl, rfl, rfl, rfl, rfl, rfl, by simp [hphase],
        by simp [PtyIoControlCommand.isHandoff], fun _ => ⟨rfl, rfl⟩, by simp⟩
    exact .inr (.inl ⟨_, _, _, hanswers, by simp [PtyIo.answer], hnone, by simp [PtyIo.answer]⟩)
  · have hnone : s.phase.handoffReply = none := by rw [hphase]; rfl
    have hhandoff : command.isHandoff = false ∧ command.reply? = some reply := by
      rcases hcommand with rfl | rfl <;> exact ⟨rfl, rfl⟩
    have hanswers : Answers s ({ s with controlQueue := rest }.answer reply result) command reply
        result :=
      ⟨commands_of_cons hnone hqueue rfl, hhandoff.2, rfl, rfl, rfl, rfl, by simp [hphase],
        fun _ => rfl, by rintro rfl; simp at hcommand, by rintro rfl; simp at hcommand⟩
    exact .inr (.inl ⟨_, _, _, hanswers, hs.state, hnone, fun hquiesced =>
      hs.quiet hanswers.exited (.inl hquiesced)⟩)
  · have hlive : s.phase ≠ .exited := by
      intro h
      simp [h, Phase.handoffReply] at hphase
    have hanswers : Answers s (s.quiesce reply) (.beginHandoff reply) reply (.ok ()) :=
      ⟨(commands_of_some hphase).trans (by rw [commands_of_none rfl]; rfl), rfl, rfl, rfl, rfl, rfl,
        hlive, by simp [PtyIoControlCommand.isHandoff], by simp, fun _ _ => rfl⟩
    exact .inr (.inl ⟨_, _, _, hanswers, by simp [quiesce, endHandoff, PtyIo.answer, goto], rfl,
      fun _ => hs.quiet hlive (.inr hdrained)⟩)
  · have hlive : s.phase ≠ .exited := by
      intro h
      simp [h, Phase.handoffReply] at hphase
    have hanswers : Answers s (s.endHandoff reply (.error error)) (.beginHandoff reply) reply
        (.error error) :=
      ⟨(commands_of_some hphase).trans (by rw [commands_of_none rfl]; rfl), rfl, rfl, rfl, rfl, rfl,
        hlive, by simp [PtyIoControlCommand.isHandoff], by simp, by simp⟩
    exact .inr (.inl ⟨_, _, _, hanswers, hs.state, rfl, fun hquiesced =>
      hs.quiet hlive (.inl hquiesced)⟩)
  · exact .inr (.inr rfl)

theorem Protocol.move (hs : Protocol s) {input : Readings} (h : Move s input s') :
    Protocol s' := by
  obtain ⟨hsame, hquiet⟩ | ⟨command, reply, result, hanswers, hstate, hphase, hquiet⟩ | rfl :=
    h.cases hs
  · exact hs.of_same hsame hquiet
  · exact hs.answer hanswers hstate hphase hquiet
  · exact hs.leave

/-! ## Calls -/

/-- A command was put in the control channel. -/
structure Sent (s s' : PtyIo) (command : PtyIoControlCommand) : Prop where
  commands : s'.commands = s.commands ++ [command]
  channel : command.reply? = some s.nextReply
  ordinary : (∀ reply, command ≠ .releaseAfterCommit reply) ∧ command ≠ .shutdown
  nextReply : s'.nextReply = s.nextReply + 1
  replies : s'.replies = s.replies
  state : s'.state = s.state
  phase : s'.phase = s.phase
  dataQueue : s'.dataQueue = s.dataQueue
  accepting : s'.accepting = true → s.accepting = true ∧ ∀ reply, command ≠ .beginHandoff reply

theorem Sent.unanswered (h : Sent s s' command) :
    s'.unanswered = s.unanswered ++ [s.nextReply] := by
  simp [PtyIo.unanswered, h.commands, h.channel]

theorem Sent.handoffs (h : Sent s s' command) :
    s'.handoffs = s.handoffs ++ [command].filter (·.isHandoff) := by
  simp [PtyIo.handoffs, h.commands, List.filter_append]

/-- The command the controller has just sent. -/
theorem Sent.awaits (h : Sent s s' command) (hs : Protocol s) (hcommand : command.isHandoff = true) :
    s'.replies.lookup s.nextReply = none ∧ s'.Awaits command s.nextReply := by
  have hfresh : s'.replies.lookup s.nextReply = none := h.replies ▸ hs.fresh _ (Nat.le_refl _)
  refine ⟨hfresh, fun _ => .inr ⟨s.handoffs, ?_⟩, fun hne => absurd hfresh hne⟩
  simp [h.handoffs, hcommand]

theorem Protocol.sent (hs : Protocol s) (h : Sent s s' command)
    (hbegin : ∀ reply, s'.controller = .beginHandoff reply →
      s'.accepting = false ∧ s'.Awaits (.beginHandoff reply) reply ∧
        (s'.replies.lookup reply = some (.ok ()) → s'.state = .quiesced))
    (hrollback : ∀ reply, s'.controller = .rollbackHandoff reply →
      s'.Awaits (.rollbackHandoff reply) reply ∧
        ∀ result, s'.replies.lookup reply = some result → result = .ok () ∧ s'.state = .running)
    (hopen : s'.controller = .openGate → s'.handoffs = [] ∧ s'.state = .running) :
    Protocol s' where
  state := h.state ▸ hs.state
  ordinary other hother := by
    rw [h.commands, List.mem_append, List.mem_singleton] at hother
    rcases hother with hother | rfl
    · exact hs.ordinary other hother
    · exact h.ordinary
  unanswered other hother := by
    rw [h.unanswered, List.mem_append, List.mem_singleton] at hother
    rw [h.nextReply, h.replies]
    rcases hother with hother | rfl
    · have := hs.unanswered other hother
      exact ⟨by omega, this.2⟩
    · exact ⟨by omega, hs.fresh _ (Nat.le_refl _)⟩
  nodup := by
    rw [h.unanswered, List.nodup_append]
    refine ⟨hs.nodup, by simp, fun other hother last hlast => ?_⟩
    have := (hs.unanswered other hother).1
    rw [List.mem_singleton.1 hlast]
    omega
  fresh other hother := by
    rw [h.replies]
    rw [h.nextReply] at hother
    exact hs.fresh other (by omega)
  gate haccepting := by
    obtain ⟨haccepting, hcommand⟩ := h.accepting haccepting
    rw [h.phase, h.state]
    refine (hs.gate haccepting).imp_right fun ⟨hrunning, hnone⟩ => ⟨hrunning, fun other => ?_⟩
    simp [h.commands, hnone other, (hcommand other).symm]
  quiet := by
    rw [h.phase, h.state, h.dataQueue]
    exact hs.quiet
  begin := hbegin
  rollback := hrollback
  openGate := hopen

/-- The controller's call goes on or ends. -/
theorem Protocol.setController (hs : Protocol s) {controller : Controller}
    (hbegin : ∀ reply, controller ≠ .beginHandoff reply)
    (hrollback : ∀ reply, controller ≠ .rollbackHandoff reply)
    (hopen : controller = .openGate → s.handoffs = [] ∧ s.state = .running) :
    Protocol { s with controller } where
  state := hs.state
  ordinary := hs.ordinary
  unanswered := hs.unanswered
  nodup := hs.nodup
  fresh := hs.fresh
  gate := hs.gate
  quiet := hs.quiet
  begin reply hcontroller := absurd hcontroller (hbegin reply)
  rollback reply hcontroller := absurd hcontroller (hrollback reply)
  openGate := hopen

/-- The gate opens, where there is nothing to wait for. -/
theorem Protocol.openGate_of (hs : Protocol s)
    (h : s.phase = .exited ∨ s.state = .running ∧ ∀ reply, .beginHandoff reply ∉ s.commands) :
    Protocol { s with accepting := true, controller := .idle } where
  state := hs.state
  ordinary := hs.ordinary
  unanswered := hs.unanswered
  nodup := hs.nodup
  fresh := hs.fresh
  gate _ := h
  quiet := hs.quiet
  begin := by simp
  rollback := by simp
  openGate := by simp

theorem Protocol.inquire (hs : Protocol s) {command : ℕ → PtyIoControlCommand}
    (hcommand : command = .duplicateForHandoff ∨ command = .foregroundProcessGroup) :
    Protocol (s.control command) := by
  have hinquiry : (command s.nextReply).isHandoff = false := by
    rcases hcommand with rfl | rfl <;> rfl
  have hsent : Sent s (s.control command) (command s.nextReply) :=
    ⟨by simp [commands, control], by rcases hcommand with rfl | rfl <;> rfl,
      by rcases hcommand with rfl | rfl <;> simp, rfl, rfl, rfl, rfl, rfl,
      fun h => ⟨h, by rcases hcommand with rfl | rfl <;> simp⟩⟩
  have hhandoffs : (s.control command).handoffs = s.handoffs := by simp [hsent.handoffs, hinquiry]
  have hawaits {waited : PtyIoControlCommand} {reply : ℕ} (h : s.Awaits waited reply) :
      (s.control command).Awaits waited reply :=
    ⟨by rw [hhandoffs]; exact h.waiting, by rw [hhandoffs]; exact h.answered⟩
  refine hs.sent hsent (fun reply hcontroller => ?_) (fun reply hcontroller => ?_) ?_
  · obtain ⟨hclosed, h, hok⟩ := hs.begin reply hcontroller
    exact ⟨hclosed, hawaits h, hok⟩
  · obtain ⟨h, hrunning⟩ := hs.rollback reply hcontroller
    exact ⟨hawaits h, hrunning⟩
  · rw [hhandoffs]
    exact hs.openGate

variable {event : Event}

theorem Protocol.call (hs : Protocol s) (h : Call s event s') : Protocol s' := by
  rcases h with ⟨permits, resize, slot, writers⟩ | ⟨permits, writers, data, haccepting⟩ |
    ⟨command, hcommand, hexited⟩ | ⟨hcontroller, hexited⟩ | ⟨hcontroller, hexited⟩ |
    ⟨reply, hcontroller, hreply⟩ | _ | hexited | ⟨reply, hcontroller, hreply⟩ |
    ⟨reply, error, hcontroller, hreply⟩ | hexited | ⟨reply, -, hcontroller, hreply⟩ | hcontroller
  · exact hs.of_same ⟨rfl, rfl, rfl, rfl, rfl, rfl, Iff.rfl⟩ hs.quiet
  · refine hs.of_same ⟨rfl, rfl, rfl, rfl, rfl, rfl, Iff.rfl⟩ fun hlive hquiet => ?_
    exact absurd hquiet (hs.not_quiet haccepting hlive)
  · exact hs.inquire hcommand
  · have hsent : Sent s
        { s.control .beginHandoff with
          accepting := false, controller := .beginHandoff s.nextReply }
        (.beginHandoff s.nextReply) :=
      ⟨by simp [commands, control], rfl, by simp, rfl, rfl, rfl, rfl, rfl, by simp⟩
    obtain ⟨hfresh, hawaits⟩ := hsent.awaits hs rfl
    refine hs.sent hsent (fun reply h => ?_) (by simp) (by simp)
    obtain rfl : s.nextReply = reply := by simpa using h
    exact ⟨rfl, hawaits, fun h => by simp [hfresh] at h⟩
  · have hopen := hs.openGate_of (.inl hexited)
    rw [← hcontroller] at hopen
    exact hopen
  · exact hs.setController (by simp) (by simp) (by simp)
  · exact hs.setController (by simp) (by simp) (by simp)
  · have hsent : Sent s
        { s.control .rollbackHandoff with controller := .rollbackHandoff s.nextReply }
        (.rollbackHandoff s.nextReply) :=
      ⟨by simp [commands, control], rfl, by simp, rfl, rfl, rfl, rfl, rfl, fun h => ⟨h, by simp⟩⟩
    obtain ⟨hfresh, hawaits⟩ := hsent.awaits hs rfl
    refine hs.sent hsent (by simp) (fun reply h => ?_) (by simp)
    obtain rfl : s.nextReply = reply := by simpa using h
    exact ⟨hawaits, fun result h => by simp [hfresh] at h⟩
  · obtain ⟨hawaits, hrunning⟩ := hs.rollback reply hcontroller
    have hne : s.replies.lookup reply ≠ none := by simp [hreply]
    exact hs.setController (by simp) (by simp) fun _ =>
      ⟨hawaits.answered hne, (hrunning _ hreply).2⟩
  · exact hs.setController (by simp) (by simp) (by simp)
  · exact hs.setController (by simp) (by simp) (by simp)
  · exact hs.setController (by simp) (by simp) (by simp)
  · obtain ⟨hempty, hrunning⟩ := hs.openGate hcontroller
    refine hs.openGate_of (.inr ⟨hrunning, fun reply hmem => ?_⟩)
    have : .beginHandoff reply ∈ s.handoffs := List.mem_filter.2 ⟨hmem, rfl⟩
    simp [hempty] at this

theorem Protocol.actor_move (hs : Protocol s) (input : Readings) :
    Move s input (step s (.actor input)) := by
  have hqueue {command : PtyIoControlCommand} (h : command ∈ s.controlQueue) :=
    hs.ordinary command (List.mem_append_right _ h)
  exact PtyIo.actor_move hs.state (fun reply h => (hqueue h).1 reply rfl)
    (fun h => (hqueue h).2 rfl)

/-- A step of an ordinary run keeps it. -/
theorem Protocol.step (hs : Protocol s) (h : event.Ordinary) : Protocol (step s event) := by
  by_cases hactor : ∃ input, event = .actor input
  · obtain ⟨input, rfl⟩ := hactor
    exact hs.move (hs.actor_move input)
  · exact hs.call (step_call h fun input h => hactor ⟨input, h⟩)

theorem protocol_spawn (initiallyQuiesced : Bool) : Protocol (spawn initiallyQuiesced) := by
  rcases initiallyQuiesced <;> constructor <;> simp [spawn, commands, handoffs, PtyIo.unanswered,
    Phase.handoffReply]

/-- The gate and the commands in every ordinary run. -/
theorem protocol_run (initiallyQuiesced : Bool) {events : List Event}
    (h : ∀ event ∈ events, event.Ordinary) :
    Protocol (StepRun.run Pty.step (spawn initiallyQuiesced) events) := by
  induction events using List.reverseRecOn with
  | nil => exact protocol_spawn initiallyQuiesced
  | append_singleton events event ih =>
    rw [StepRun.run_snoc]
    exact (ih fun e he => h e (by simp [he])).step (h event (by simp))

/-! ## A pane at rest -/

/-- No handoff call is in progress, and the actor is in its loop with no control command left. -/
def AtRest (s : PtyIo) : Prop :=
  s.controller = .idle ∧ s.commands = [] ∧ s.phase ≠ .exited

/-- At rest the gate is open exactly while the actor runs. -/
def Usable (s : PtyIo) : Prop :=
  s.AtRest → (s.accepting = true ↔ s.state = .running)

/-- With the step `rollback_handoff` gives up waiting for the reply of the actor. -/
def RollbackExpires (s : PtyIo) (event : Event) : Prop :=
  event = .resumeController true ∧
    ∃ reply, s.controller = .rollbackHandoff reply ∧ s.replies.lookup reply = none

/-- Between calls no handoff command is on its way, and the gate and the state agree. -/
def Settled (s : PtyIo) : Prop :=
  s.controller = .idle →
    s.phase = .exited ∨ s.handoffs = [] ∧ (s.accepting = true ↔ s.state = .running)

theorem Settled.of_same (h : Same s s') (hs : s.Settled) : s'.Settled := by
  unfold Settled
  rw [h.controller, h.exited, h.handoffs, h.accepting, h.state]
  exact hs

theorem Settled.move (hs : s.Settled) (hprotocol : Protocol s) {input : Readings}
    (h : Move s input s') : s'.Settled := by
  obtain ⟨hsame, -⟩ | ⟨command, reply, result, hanswers, -, -, -⟩ | rfl := h.cases hprotocol
  · exact hs.of_same hsame
  · intro hidle
    obtain hgone | ⟨hempty, hagree⟩ := hs (hanswers.controller ▸ hidle)
    · exact absurd hgone hanswers.exited
    have hinquiry := hanswers.inquiry_of_handoffs hempty
    rw [← hanswers.handoffs_of_inquiry hinquiry, hanswers.accepting, hanswers.inquiry hinquiry]
    exact .inr ⟨hempty, hagree⟩
  · exact fun _ => .inl rfl

theorem Settled.call (hs : s.Settled) (hprotocol : Protocol s) (hevent : ¬ RollbackExpires s event)
    (h : Call s event s') : s'.Settled := by
  rcases h with ⟨permits, resize, slot, writers⟩ | ⟨permits, writers, data, haccepting⟩ |
    ⟨command, hcommand, hexited⟩ | ⟨hcontroller, hexited⟩ | ⟨hcontroller, hexited⟩ |
    ⟨reply, hcontroller, hreply⟩ | _ | hexited | ⟨reply, hcontroller, hreply⟩ |
    ⟨reply, error, hcontroller, hreply⟩ | hexited | ⟨reply, he, hcontroller, hreply⟩ | hcontroller
  · exact hs.of_same ⟨rfl, rfl, rfl, rfl, rfl, rfl, Iff.rfl⟩
  · exact hs.of_same ⟨rfl, rfl, rfl, rfl, rfl, rfl, Iff.rfl⟩
  · intro hidle
    refine (hs hidle).imp_right fun ⟨hempty, hagree⟩ => ⟨?_, hagree⟩
    rcases hcommand with rfl | rfl <;>
      simpa [handoffs, commands, control, PtyIoControlCommand.isHandoff] using hempty
  · intro hidle
    simp at hidle
  · exact fun _ => .inl hexited
  · obtain ⟨hclosed, hawaits, hquiesced⟩ := hprotocol.begin reply hcontroller
    refine fun _ => .inr ⟨hawaits.answered (by simp [hreply]), ?_⟩
    simp [hclosed, hquiesced hreply]
  · intro hidle
    simp at hidle
  · intro hidle
    simp at hidle
  · intro hidle
    simp at hidle
  · have := ((hprotocol.rollback reply hcontroller).2 _ hreply).1
    simp at this
  · exact fun _ => .inl hexited
  · exact absurd ⟨he, reply, hcontroller, hreply⟩ hevent
  · obtain ⟨hempty, hrunning⟩ := hprotocol.openGate hcontroller
    exact fun _ => .inr ⟨hempty, by simp [hrunning]⟩

theorem Settled.step (hs : s.Settled) (hprotocol : Protocol s) (h : event.Ordinary)
    (hevent : ¬ RollbackExpires s event) : (step s event).Settled := by
  by_cases hactor : ∃ input, event = .actor input
  · obtain ⟨input, rfl⟩ := hactor
    exact hs.move hprotocol (hprotocol.actor_move input)
  · exact hs.call hprotocol hevent (step_call h fun input h => hactor ⟨input, h⟩)

theorem settled_run (initiallyQuiesced : Bool) {events : List Event}
    (h : ∀ event ∈ events, event.Ordinary)
    (hwaits : StepRun.Along Pty.step (fun s event => ¬ RollbackExpires s event)
      (spawn initiallyQuiesced) events) :
    (StepRun.run Pty.step (spawn initiallyQuiesced) events).Settled := by
  induction events using List.reverseRecOn with
  | nil =>
    intro _
    rcases initiallyQuiesced <;> simp [spawn, handoffs, commands, Phase.handoffReply]
  | append_singleton events event ih =>
    obtain ⟨hbefore, hlast⟩ := StepRun.along_snoc.1 hwaits
    have hevents : ∀ e ∈ events, e.Ordinary := fun e he => h e (by simp [he])
    rw [StepRun.run_snoc]
    exact (ih hevents hbefore).step (protocol_run initiallyQuiesced hevents)
      (h event (by simp)) hlast

end PtyIo

open PtyIo

/-- A step of the actor at a time, where the PTY takes nothing. -/
def blocked (now : ℕ) : Event :=
  .actor ⟨now, .wouldBlock, .wouldBlock, .ready false false false, .ok ()⟩

/-- Where no `rollback_handoff` gives up waiting, the gate of a pane at rest is open exactly while
the actor runs. -/
theorem gate_open_iff (initiallyQuiesced : Bool) (events : List Event)
    (h : ∀ event ∈ events, event.Ordinary)
    (hwaits : StepRun.Along step (fun s event => ¬ RollbackExpires s event)
      (spawn initiallyQuiesced) events) :
    (StepRun.run step (spawn initiallyQuiesced) events).Usable := by
  rintro ⟨hidle, -, hlive⟩
  exact ((settled_run initiallyQuiesced h hwaits hidle).resolve_left hlive).2

theorem gate_open_iff_quiesced :
    (StepRun.run step (spawn false)
      [.beginHandoff, blocked 1, blocked 1, blocked 1, blocked 1, blocked 1,
        .resumeController false]).Usable :=
  gate_open_iff false _ (by simp [blocked, Event.Ordinary])
    (by simp [StepRun.Along, RollbackExpires, blocked])

/-- A handoff meets a user write that the PTY does not take. `begin_handoff` gives up after its
second and calls `rollback_handoff`, which gives up after another one, while the actor still drains
its writes; after two seconds the actor takes the rollback, and runs. -/
def gaveUpBeforeRollback : List Event :=
  [.tryWriteUserInput [97], .beginHandoff, blocked 1, blocked 1, blocked 1, blocked 1, blocked 1,
    .resumeController true, .resumeController false, blocked 1001, .resumeController true,
    blocked 1001, blocked 2001, blocked 2001, blocked 2001]

theorem gate_stays_closed :
    ¬ ∀ (initiallyQuiesced : Bool) (events : List Event), (∀ event ∈ events, event.Ordinary) →
      (StepRun.run step (spawn initiallyQuiesced) events).Usable := by
  intro h
  have hordinary : ∀ event ∈ gaveUpBeforeRollback, event.Ordinary := by
    simp [gaveUpBeforeRollback, blocked, Event.Ordinary]
  have hrest : (StepRun.run step (spawn false) gaveUpBeforeRollback).AtRest :=
    ⟨by decide, by decide, by decide⟩
  have := (h false gaveUpBeforeRollback hordinary hrest).2 (by decide)
  exact absurd this (by decide)

end Zynk.Pty
