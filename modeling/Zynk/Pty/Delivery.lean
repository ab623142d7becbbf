import Zynk.Pty.Handoff

/-!
# Delivery of the input

What the actor has written to the PTY, and what is pending behind it, is the concatenation of the
queued items, and the queued items are those of the accepted user writes, in the order they were
accepted and each in one piece, with terminal responses between them (`Delivery`). No user write is
thrown away in the wrong state of the actor, because a quiesced actor has none in its channel
(`Protocol`). With that `delivers` says what holds in every run.
-/

namespace Zynk.Pty

/-- What enters the pending writes at once : a user write, or a terminal response. -/
inductive Block where
  | user (command : PtyIoDataCommand)
  | response (bytes : Bytes)
  deriving DecidableEq, Repr

def Block.user? : Block → Option PtyIoDataCommand
  | .user command => some command
  | .response _ => none

/-- The items of a block : a delayed suffix is right behind its immediate part. -/
def Block.parts : Block → List Bytes
  | .user command => command.parts
  | .response bytes => [bytes]

/-- The user writes among the blocks. -/
def users (blocks : List Block) : List PtyIoDataCommand :=
  blocks.filterMap Block.user?

/-- The items of the blocks. -/
def parts (blocks : List Block) : List Bytes :=
  blocks.flatMap Block.parts

@[simp] theorem users_append (blocks more : List Block) :
    users (blocks ++ more) = users blocks ++ users more :=
  List.filterMap_append

@[simp] theorem parts_append (blocks more : List Block) :
    parts (blocks ++ more) = parts blocks ++ parts more :=
  List.flatMap_append

theorem users_responses (responses : List Bytes) : users (responses.map .response) = [] := by
  induction responses with
  | nil => rfl
  | cons bytes responses ih => exact ih

theorem parts_responses (responses : List Bytes) : parts (responses.map .response) = responses := by
  induction responses with
  | nil => rfl
  | cons bytes responses ih => exact congrArg (bytes :: ·) ih

namespace PtyIo

/-- The bytes that are pending. -/
def unwritten (s : PtyIo) : Bytes :=
  (s.pendingWrites.flatMap (·.bytes)).drop s.currentWriteOffset

/-- Every accepted user write has been written completely. -/
def AllWritten (s : PtyIo) : Prop :=
  ∃ blocks, users blocks = s.accepted ∧ parts blocks <+: s.enqueued ∧
    (parts blocks).flatten <+: s.pty

structure Delivery (s : PtyIo) : Prop where
  blocks : ∃ blocks, s.enqueued = parts blocks ∧ users blocks <+: s.accepted ∧
    (s.phase ≠ .exited → users blocks ++ s.dataQueue = s.accepted)
  inOrder : s.pty <+: s.enqueued.flatten
  unwritten : s.phase ≠ .exited → s.pty ++ s.unwritten = s.enqueued.flatten
  offset : s.currentWriteOffset ≤ s.pendingWrites.head?.elim 0 (·.bytes.length)
  quiesced : s.state = .quiesced → s.accepting = false → s.AllWritten

variable {s s' : PtyIo}

theorem AllWritten.mono (h : s.AllWritten) (haccepted : s'.accepted = s.accepted)
    (henqueued : s.enqueued <+: s'.enqueued) (hpty : s.pty <+: s'.pty) : s'.AllWritten := by
  obtain ⟨blocks, husers, hparts, hwritten⟩ := h
  exact ⟨blocks, husers.trans haccepted.symm, hparts.trans henqueued, hwritten.trans hpty⟩

/-- Nothing is pending and nothing is in the channel. -/
theorem Delivery.allWritten (h : Delivery s) (hlive : s.phase ≠ .exited)
    (hpending : s.pendingWrites = []) (hqueue : s.dataQueue = []) : s.AllWritten := by
  obtain ⟨blocks, henqueued, -, hall⟩ := h.blocks
  refine ⟨blocks, by simpa [hqueue] using hall hlive, henqueued ▸ List.prefix_rfl, ?_⟩
  have hwritten := h.unwritten hlive
  rw [PtyIo.unwritten, hpending, List.flatMap_nil, List.drop_nil, List.append_nil] at hwritten
  have hall : (parts blocks).flatten = s.pty := henqueued ▸ hwritten.symm
  exact hall ▸ List.prefix_rfl

/-! ## Steps -/

/-- A step that touches neither the bytes nor the user writes. -/
theorem Delivery.of_same (h : Delivery s) (hpty : s'.pty = s.pty)
    (hpending : s'.pendingWrites = s.pendingWrites)
    (hoffset : s'.currentWriteOffset = s.currentWriteOffset) (henqueued : s'.enqueued = s.enqueued)
    (hqueue : s'.dataQueue = s.dataQueue) (haccepted : s'.accepted = s.accepted)
    (hexited : s'.phase = .exited ↔ s.phase = .exited)
    (hquiesced : s'.state = .quiesced → s'.accepting = false → s.AllWritten) : Delivery s' where
  blocks := by
    rw [henqueued, haccepted, hqueue, ne_eq, hexited]
    exact h.blocks
  inOrder := by
    rw [hpty, henqueued]
    exact h.inOrder
  unwritten := by
    rw [hpty, PtyIo.unwritten, hpending, hoffset, henqueued, ne_eq, hexited]
    exact h.unwritten
  offset := by
    rw [hpending, hoffset]
    exact h.offset
  quiesced hstate hclosed :=
    (hquiesced hstate hclosed).mono haccepted (henqueued ▸ List.prefix_rfl) (hpty ▸ List.prefix_rfl)

theorem Delivery.offset_le (h : Delivery s) :
    s.currentWriteOffset ≤ (s.pendingWrites.flatMap (·.bytes)).length := by
  have hoffset := h.offset
  rcases hpending : s.pendingWrites with _ | ⟨pending, rest⟩
  · simpa [hpending] using hoffset
  · simp only [hpending, List.head?_cons, Option.elim_some] at hoffset
    rw [List.flatMap_cons, List.length_append]
    omega

/-- Items enter the pending writes. -/
theorem Delivery.append (h : Delivery s) {items : List PendingWrite}
    {more : List Block} {queue : List PtyIoDataCommand} (hlive : s.phase ≠ .exited)
    (hitems : items.map (·.bytes) = parts more) (hqueue : s.dataQueue = users more ++ queue) :
    Delivery { s.append items with dataQueue := queue } := by
  obtain ⟨blocks, henqueued, -, hall⟩ := h.blocks
  have hall : users blocks ++ s.dataQueue = s.accepted := hall hlive
  rw [hqueue, ← List.append_assoc, ← users_append] at hall
  constructor
  · refine ⟨blocks ++ more, ?_, ⟨queue, hall⟩, fun _ => hall⟩
    rw [parts_append, ← henqueued, ← hitems]
    rfl
  · exact h.inOrder.trans (by simp [PtyIo.append])
  · intro _
    have hdrop : (s.append items).unwritten = s.unwritten ++ items.flatMap (·.bytes) := by
      simp only [PtyIo.unwritten, PtyIo.append, List.flatMap_append]
      exact List.drop_append_of_le_length h.offset_le
    calc s.pty ++ (s.append items).unwritten
        = s.enqueued.flatten ++ items.flatMap (·.bytes) := by
          rw [hdrop, ← List.append_assoc, h.unwritten hlive]
      _ = (s.enqueued ++ items.map (·.bytes)).flatten := by
          rw [List.flatten_append, List.flatMap_def]
  · have hoffset := h.offset
    rcases hpending : s.pendingWrites with _ | ⟨pending, rest⟩
    · simp only [hpending, List.head?_nil, Option.elim_none, Nat.le_zero] at hoffset
      simp [PtyIo.append, hoffset]
    · simpa [PtyIo.append, hpending] using hoffset
  · intro hstate hclosed
    exact (h.quiesced hstate hclosed).mono rfl (List.prefix_append _ _) List.prefix_rfl

/-- Some of the pending writes is written. -/
theorem Delivery.write (h : Delivery s) {pending : List PendingWrite} {offset : ℕ} {bytes : Bytes}
    (hlive : s.phase ≠ .exited)
    (hbytes : s.unwritten = bytes ++ (pending.flatMap (·.bytes)).drop offset)
    (hoffset : offset ≤ pending.head?.elim 0 (·.bytes.length)) :
    Delivery
      { s with
        pty := s.pty ++ bytes
        pendingWrites := pending
        currentWriteOffset := offset } := by
  have hwritten : s.pty ++ bytes ++ (pending.flatMap (·.bytes)).drop offset =
      s.enqueued.flatten := by
    rw [List.append_assoc, ← hbytes, h.unwritten hlive]
  constructor
  · exact h.blocks
  · exact ⟨_, hwritten⟩
  · exact fun _ => hwritten
  · exact hoffset
  · intro hstate hclosed
    exact (h.quiesced hstate hclosed).mono rfl List.prefix_rfl (List.prefix_append _ _)

theorem Delivery.leave (h : Delivery s) : Delivery s.leave := by
  obtain ⟨blocks, henqueued, hstarts, -⟩ := h.blocks
  constructor
  · exact ⟨blocks, henqueued, hstarts, fun hlive => absurd rfl hlive⟩
  · exact h.inOrder
  · exact fun hlive => absurd rfl hlive
  · exact Nat.le_refl 0
  · intro hstate hclosed
    exact (h.quiesced hstate hclosed).mono rfl List.prefix_rfl List.prefix_rfl

theorem Delivery.move (h : Delivery s) (hs : Protocol s) {input : Readings}
    (hwrite : input.write ≠ .failed) (hmove : Move s input s') : Delivery s' := by
  have hempty {data : PtyIoDataCommand} {rest : List PtyIoDataCommand} (hlive : s.phase ≠ .exited)
      (hqueue : s.dataQueue = data :: rest) : s.state = .running := by
    have hne := hs.state
    rcases hstate : s.state with _ | _ | _
    · rfl
    · have := hs.quiet hlive (.inl hstate)
      simp [hqueue] at this
    · exact absurd hstate hne
  rcases hmove with ⟨resize, slot, items, phase, hphase, hdrained, hexited, hitems⟩ |
    ⟨data, rest, items, hqueue, hitems, hexited⟩ | ⟨data, rest, hqueue, hstate, hexited⟩ |
    ⟨pending, rest, written, hpending, hexited⟩ | ⟨pending, rest, hpending, hexited⟩ |
    ⟨phase, hfailed, -, -, -⟩ | ⟨reply, rest, hphase, hqueue⟩ |
    ⟨reply, rest, hphase, hqueue⟩ | ⟨command, reply, rest, result, hphase, hqueue, hcommand⟩ |
    ⟨reply, hphase, hdrained, hpending⟩ | ⟨reply, error, hphase⟩ | ⟨hphase, hexited⟩
  · rcases hitems with rfl | ⟨hlive, hitems⟩
    · refine h.of_same rfl ?_ rfl ?_ rfl rfl hexited h.quiesced
      · simp [queued, goto, PtyIo.append]
      · simp [queued, goto, PtyIo.append]
    · have hblock : s.dataQueue = users ((items.map (·.bytes)).map .response) ++ s.dataQueue := by
        rw [users_responses]
        rfl
      have happend := h.append hlive (parts_responses (items.map (·.bytes))).symm hblock
      exact happend.of_same rfl rfl rfl rfl rfl rfl hexited happend.quiesced
  · have hblock : s.dataQueue = users [.user data] ++ rest := hqueue
    have happend := h.append hexited (hitems.trans (List.append_nil _).symm) hblock
    exact happend.of_same rfl rfl rfl rfl rfl rfl Iff.rfl happend.quiesced
  · exact absurd (hempty hexited hqueue) hstate
  · have hoffset := h.offset
    rw [hpending, List.head?_cons, Option.elim_some] at hoffset
    have hle : s.currentWriteOffset +
        ((pending.bytes.drop s.currentWriteOffset).take written).length ≤ pending.bytes.length := by
      simp only [List.length_take, List.length_drop]
      omega
    refine h.write hexited ?_ ?_
    · have hchunk := List.prefix_iff_eq_append.1
        (List.take_prefix written (pending.bytes.drop s.currentWriteOffset))
      rw [PtyIo.unwritten, hpending, List.flatMap_cons, List.drop_append_of_le_length hoffset,
        List.drop_append_of_le_length hle, ← List.append_assoc, ← List.drop_drop, hchunk]
    · rw [hpending]
      exact hle
  · have hoffset := h.offset
    rw [hpending, List.head?_cons, Option.elim_some] at hoffset
    refine h.write hexited ?_ (Nat.zero_le _)
    rw [PtyIo.unwritten, hpending, List.flatMap_cons, List.drop_append_of_le_length hoffset,
      List.drop_zero]
  · exact absurd hfailed hwrite
  · exact h.of_same rfl rfl rfl rfl rfl rfl (by simp [goto, hphase]) h.quiesced
  · exact h.of_same rfl rfl rfl rfl rfl rfl Iff.rfl (by simp [PtyIo.answer])
  · exact h.of_same rfl rfl rfl rfl rfl rfl Iff.rfl h.quiesced
  · have hlive : s.phase ≠ .exited := by
      intro hgone
      simp [hgone, Phase.handoffReply] at hphase
    have hlast := h.allWritten hlive hpending (hs.quiet hlive (.inr hdrained))
    refine h.of_same rfl rfl rfl rfl rfl rfl ?_ fun _ _ => hlast
    exact iff_of_false (by simp [quiesce, endHandoff, goto]) hlive
  · have hlive : s.phase ≠ .exited := by
      intro hgone
      simp [hgone, Phase.handoffReply] at hphase
    refine h.of_same rfl rfl rfl rfl rfl rfl ?_ h.quiesced
    exact iff_of_false (by simp [endHandoff, goto]) hlive
  · exact h.leave

theorem Delivery.call (h : Delivery s) (hs : Protocol s) {event : Event}
    (hcall : Call s event s') : Delivery s' := by
  rcases hcall with ⟨permits, resize, slot, writers⟩ | ⟨permits, writers, data, haccepting⟩ |
    ⟨command, hcommand, hexited⟩ | ⟨hcontroller, hexited⟩ | ⟨hcontroller, hexited⟩ |
    ⟨reply, hcontroller, hreply⟩ | _ | hexited | ⟨reply, hcontroller, hreply⟩ |
    ⟨reply, error, hcontroller, hreply⟩ | hexited | ⟨reply, he, hcontroller, hreply⟩ | hcontroller
  · exact h.of_same rfl rfl rfl rfl rfl rfl Iff.rfl h.quiesced
  · obtain ⟨blocks, henqueued, hstarts, hall⟩ := h.blocks
    constructor
    · refine ⟨blocks, henqueued, hstarts.trans (List.prefix_append _ _), fun hlive => ?_⟩
      rw [send, ← hall hlive, List.append_assoc]
    · exact h.inOrder
    · exact h.unwritten
    · exact h.offset
    · intro _ hclosed
      have hclosed : s.accepting = false := hclosed
      simp [hclosed] at haccepting
  · exact h.of_same rfl rfl rfl rfl rfl rfl Iff.rfl h.quiesced
  · refine h.of_same rfl rfl rfl rfl rfl rfl Iff.rfl fun hstate _ => h.quiesced hstate ?_
    -- an open gate is that of a running actor
    by_contra hopen
    exact hs.not_quiet (by simpa using hopen) hexited (.inl hstate)
  · exact h.of_same rfl rfl rfl rfl rfl rfl Iff.rfl (by simp)
  · exact h.of_same rfl rfl rfl rfl rfl rfl Iff.rfl h.quiesced
  · exact h.of_same rfl rfl rfl rfl rfl rfl Iff.rfl h.quiesced
  · exact h.of_same rfl rfl rfl rfl rfl rfl Iff.rfl h.quiesced
  · exact h.of_same rfl rfl rfl rfl rfl rfl Iff.rfl h.quiesced
  · exact h.of_same rfl rfl rfl rfl rfl rfl Iff.rfl h.quiesced
  · exact h.of_same rfl rfl rfl rfl rfl rfl Iff.rfl h.quiesced
  · exact h.of_same rfl rfl rfl rfl rfl rfl Iff.rfl h.quiesced
  · exact h.of_same rfl rfl rfl rfl rfl rfl Iff.rfl (by simp)

theorem Delivery.step (h : Delivery s) (hs : Protocol s) {event : Event}
    (hordinary : event.Ordinary) (hwrites : event.Writes) : Delivery (step s event) := by
  by_cases hactor : ∃ input, event = .actor input
  · obtain ⟨input, rfl⟩ := hactor
    exact h.move hs (hwrites input rfl) (hs.actor_move input)
  · exact h.call hs (step_call hordinary fun input h => hactor ⟨input, h⟩)

/-- In the middle of a handoff the gate is closed, and there is no reply yet. -/
theorem Protocol.handoff (hs : Protocol s) {reply : ℕ} (hphase : s.phase.handoffReply = some reply) :
    s.phase ≠ .exited ∧ s.accepting = false ∧ ∀ result, (reply, result) ∉ s.replies := by
  have hcommands := commands_of_some hphase
  have hlive : s.phase ≠ .exited := by
    intro hgone
    simp [hgone, Phase.handoffReply] at hphase
  refine ⟨hlive, ?_, fun result hmem => ?_⟩
  · by_contra hopen
    obtain hgone | ⟨-, hnone⟩ := hs.gate (by simpa using hopen)
    · exact hlive hgone
    · exact hnone reply (by simp [hcommands])
  · have hunanswered : reply ∈ s.unanswered := by
      simp [PtyIo.unanswered, hcommands, PtyIoControlCommand.reply?]
    have hlookup := (hs.unanswered reply hunanswered).2
    simpa using List.lookup_eq_none_iff.1 hlookup _ hmem

/-- Where `begin_handoff` of the actor replies with success, nothing is left to be written. -/
theorem Delivery.replies (h : Delivery s) (hs : Protocol s) {input : Readings}
    (hwrite : input.write ≠ .failed) {reply : ℕ} (hphase : s.phase.handoffReply = some reply)
    (hreply : (reply, .ok ()) ∈ (s.actor input).replies) : (s.actor input).AllWritten := by
  obtain ⟨-, hclosed, hnone⟩ := hs.handoff hphase
  have hmove : Move s input (s.actor input) := hs.actor_move input
  have hdelivery := h.move hs hwrite hmove
  obtain ⟨hsame, -⟩ | ⟨command, other, result, hanswers, -, -, -⟩ | hleave := hmove.cases hs
  · exact absurd (hsame.replies ▸ hreply) (hnone _)
  · rw [hanswers.replies, List.mem_append, List.mem_singleton] at hreply
    obtain ⟨rfl, rfl⟩ := Prod.mk.inj (hreply.resolve_left (hnone _))
    obtain ⟨rfl, -⟩ := List.cons.inj (hanswers.commands.symm.trans (commands_of_some hphase))
    exact hdelivery.quiesced (hanswers.quiesced rfl rfl) (hanswers.accepting.trans hclosed)
  · rw [hleave] at hreply
    exact absurd hreply (hnone _)

end PtyIo

open PtyIo

end Zynk.Pty
