import Zynk.Client.InputReader

/-!
# The keyboard stream around the graphics filter

What the filter hands on, what it takes out and what it holds are the bytes that were read, in
their order, and it takes out no more than one reply for each arming (`reader_conserves`).

What the filter hands on goes through the framer, except what the idle timeout at the top of the
loop releases : that goes to the main loop past the framer. `reader_keeps_order` says that nothing
is sent in front of a byte that is held as long as the framer holds nothing at such a release, and
`release_passes_paste` is a paste whose end is sent before its beginning.
-/

namespace Zynk

open Text StepRun

/-! ## What is sent -/

namespace Outbox

/-- The bytes that were sent or wait to be sent. -/
def bytes (o : Outbox) : Bytes :=
  o.sent.flatMap ClientLoopEvent.bytes ++ o.pendingPalette.flatten

theorem bytes_send (o : Outbox) (event : ClientLoopEvent) :
    (o.send event).bytes.Perm (o.bytes ++ event.bytes) := by
  simp only [bytes, send, List.flatMap_append, List.flatMap_singleton, List.append_assoc]
  exact List.perm_append_comm.append_left _

theorem bytes_flushUnixPaletteInput (o : Outbox) : o.flushUnixPaletteInput.bytes = o.bytes := by
  unfold flushUnixPaletteInput
  split_ifs with h
  · rfl
  · simp [bytes, send, ClientLoopEvent.bytes]

/-- A chunk is sent, waits with the palette or, as a report without a geometry, is dropped. -/
theorem bytes_sendChunk (o : Outbox) (sgrPixels : Bool) (geometry : Option HostGeometry)
    (data : Bytes) : (o.sendChunk sgrPixels geometry data).bytes.Subperm (o.bytes ++ data) := by
  unfold sendChunk
  simp only
  split_ifs with hpalette hfull hdefault
  · rw [bytes_flushUnixPaletteInput]
    simp [bytes, List.Subperm.refl]
  · simp [bytes, List.Subperm.refl]
  all_goals
    unfold classifyUnixInput
    split_ifs
    · cases geometry with
      | none =>
        have hless := (List.sublist_append_left o.bytes data).subperm
        simpa [bytes_flushUnixPaletteInput] using hless
      | some geometry =>
        refine (bytes_send _ _).subperm.trans ?_
        simp [bytes_flushUnixPaletteInput, ClientLoopEvent.bytes, List.Subperm.refl]
    · refine (bytes_send _ _).subperm.trans ?_
      simp [bytes_flushUnixPaletteInput, ClientLoopEvent.bytes, List.Subperm.refl]

theorem bytes_sendUnixInputChunks (o : Outbox) (chunks : List Bytes) (sgrPixels : Bool)
    (geometry : Option HostGeometry) :
    (o.sendUnixInputChunks chunks sgrPixels geometry).bytes.Subperm
      (o.bytes ++ chunks.flatten) := by
  induction chunks generalizing o with
  | nil => simp [sendUnixInputChunks, List.Subperm.refl]
  | cons chunk chunks ih =>
    have hfirst := bytes_sendChunk o sgrPixels geometry chunk
    have hrest := ih (o.sendChunk sgrPixels geometry chunk)
    rw [List.flatten_cons, ← List.append_assoc]
    exact hrest.trans ((List.subperm_append_right _).2 hfirst)

/-- Responses are no bytes of the input. -/
theorem bytes_responses (o : Outbox) (responses : List Response) :
    (responses.foldl (fun o response => o.send (.directGraphicsResponse response)) o).bytes =
      o.bytes := by
  induction responses generalizing o with
  | nil => rfl
  | cons response responses ih =>
    rw [List.foldl_cons, ih]
    simp [bytes, send, ClientLoopEvent.bytes]

end Outbox

namespace InputReader

/-! ## The invariants -/

/-- The bytes the filter handed on, in order. -/
def handed (r : InputReader) : Bytes :=
  (r.history.pieces.filterMap Piece.output?).flatten

/-- Nothing is lost, invented or moved by the filter. -/
def Conserved (r : InputReader) : Prop :=
  r.history.pieces.flatMap Piece.bytes ++ r.directFilter.pending = r.history.read

/-- What was taken out are complete commands, each naming an image that was waited for, and each
of them, like each image still waited for, has an arming of its own. -/
def Accounted (r : InputReader) : Prop :=
  ∃ ids, InputFilter.Answers r.history.pieces ids ∧
    (ids ++ r.directResponse.held).Subperm r.history.armed

/-- The chunks handed on to be sent lie in the stream, in order, in front of what the framer
holds, and nothing else was sent. -/
def Ordered (r : InputReader) : Prop :=
  Taken r.handed r.history.chunks r.framer.buffer ∧
    r.outbox.bytes.Subperm r.history.chunks.flatten

/-! ## The matcher -/

theorem conserved_matcherOps {r : InputReader} (h : r.Conserved) (ops : List MatcherOp) :
    (ops.foldl matcherOp r).Conserved := by
  induction ops generalizing r with
  | nil => exact h
  | cons op ops ih =>
    refine ih ?_
    cases op <;> exact h

theorem ordered_matcherOps {r : InputReader} (h : r.Ordered) (ops : List MatcherOp) :
    (ops.foldl matcherOp r).Ordered := by
  induction ops generalizing r with
  | nil => exact h
  | cons op ops ih =>
    refine ih ?_
    cases op <;> exact h

theorem accounted_matcherOp {r : InputReader} (h : r.Accounted) (op : MatcherOp) :
    (r.matcherOp op).Accounted := by
  obtain ⟨ids, hids, hheld⟩ := h
  have hless {m : ResponseMatcher} (hm : m.held.Sublist r.directResponse.held) :
      (ids ++ m.held).Subperm r.history.armed :=
    ((List.Sublist.refl ids).append hm).subperm.trans hheld
  refine ⟨ids, by cases op <;> exact hids, ?_⟩
  cases op with
  | arm now transferId imageId =>
    have harm := r.directResponse.held_arm now transferId imageId
    refine ((List.Sublist.refl ids).append harm).subperm.trans ?_
    rw [← List.append_assoc]
    exact (List.subperm_append_right _).2 hheld
  | start transferId now => exact hless (m := r.directResponse.startAt transferId now) (by simp)
  | cancel transferId => exact hless (ResponseMatcher.held_cancel _ _)
  | retire transferId now => exact hless (ResponseMatcher.held_retire _ _ _)
  | expire now => exact hless (ResponseMatcher.held_expireAt _ _)

theorem accounted_matcherOps {r : InputReader} (h : r.Accounted) (ops : List MatcherOp) :
    (ops.foldl matcherOp r).Accounted := by
  induction ops generalizing r with
  | nil => exact h
  | cons op ops ih => exact ih (accounted_matcherOp h op)

/-! ## What a call of the filter does to the invariants -/

variable {r : InputReader} {data : Bytes} {pieces : List Piece} {filter : InputFilter}
  {matcher : ResponseMatcher}

theorem conserved_filtered (h : r.Conserved)
    (hf : InputFilter.Filtered (r.directFilter.pending ++ data) r.directResponse pieces
      filter.pending matcher) : (r.filtered data pieces filter matcher).Conserved := by
  show (r.history.pieces ++ pieces).flatMap Piece.bytes ++ filter.pending = r.history.read ++ data
  rw [List.flatMap_append, List.append_assoc, hf.conserves, ← List.append_assoc, h]

theorem accounted_filtered (h : r.Accounted)
    (hf : InputFilter.Filtered (r.directFilter.pending ++ data) r.directResponse pieces
      filter.pending matcher) : (r.filtered data pieces filter matcher).Accounted := by
  obtain ⟨ids, hids, hheld⟩ := h
  obtain ⟨ids', hids', hheld'⟩ := hf.answers
  refine ⟨ids ++ ids', hids.append hids', ?_⟩
  rw [List.append_assoc]
  exact ((List.subperm_append_left ids).2 hheld').trans hheld

theorem handed_filtered : (r.filtered data pieces filter matcher).handed =
    r.handed ++ (pieces.filterMap Piece.output?).flatten := by
  simp [handed, filtered]

/-- Whether the filter is passed by or not, a read is a call that conserves. -/
theorem filterDirectInput_spec (r : InputReader) (data : Bytes) (reading : Reading) :
    ∃ filter matcher, let s := reading.between.foldl matcherOp r
      InputFilter.Filtered (s.directFilter.pending ++ data) s.directResponse
        (r.filterDirectInput data reading).1 filter.pending matcher ∧
      (r.filterDirectInput data reading).2 =
        s.filtered data (r.filterDirectInput data reading).1 filter matcher := by
  unfold filterDirectInput
  simp only
  split_ifs with h
  · refine ⟨_, _, ?_, rfl⟩
    rw [Bool.and_eq_true, List.isEmpty_iff] at h
    rw [h.2]
    exact .of_outputs (by simp [Piece.bytes]) rfl (List.Sublist.refl _)
  · exact ⟨_, _, InputFilter.push_filtered _ data _ reading.clock, rfl⟩

/-! ## The idle release -/

/-- Nothing is released, or everything the filter holds. -/
theorem flushIfInactive_cases (f : InputFilter) (m : ResponseMatcher) (now : ℕ) :
    ((f.flushIfInactive m now).1 = none ∧ (f.flushIfInactive m now).2.1 = f ∧
        (f.flushIfInactive m now).2.2.held.Sublist m.held ∧
        (f.pending = [] ∨ (m.expireAt now).isInterested = true)) ∨
      (f.flushIfInactive m now = (some f.pending, {}, m.expireAt now) ∧ f.pending ≠ [] ∧
        (m.expireAt now).isInterested = false) := by
  unfold InputFilter.flushIfInactive
  simp only
  split_ifs with hempty hinterested
  · exact Or.inl ⟨rfl, rfl, List.Sublist.refl _, Or.inl (List.isEmpty_iff.1 hempty)⟩
  · exact Or.inl ⟨rfl, rfl, ResponseMatcher.held_expireAt m now, Or.inr hinterested⟩
  · exact Or.inr ⟨rfl, by simpa using hempty, Bool.not_eq_true _ ▸ hinterested⟩

/-- The release is a call of the filter, too. -/
theorem conserved_idleTimeout (h : r.Conserved) (now : ℕ) : (r.idleTimeout now).Conserved := by
  unfold idleTimeout
  rcases flushIfInactive_cases r.directFilter r.directResponse now with
    ⟨hnone, hsame, -⟩ | ⟨hsome, -⟩
  · simp only [hnone, hsame]
    exact h
  · simp only [hsome]
    show (r.history.pieces ++ [Piece.output r.directFilter.pending]).flatMap Piece.bytes ++ [] = _
    rw [List.flatMap_append, List.append_nil, List.flatMap_singleton]
    exact h

theorem accounted_idleTimeout (h : r.Accounted) (now : ℕ) : (r.idleTimeout now).Accounted := by
  obtain ⟨ids, hids, hheld⟩ := h
  have hless {m : ResponseMatcher} (hm : m.held.Sublist r.directResponse.held) :
      (ids ++ m.held).Subperm r.history.armed :=
    ((List.Sublist.refl ids).append hm).subperm.trans hheld
  unfold idleTimeout
  rcases flushIfInactive_cases r.directFilter r.directResponse now with
    ⟨hnone, -, hsub, -⟩ | ⟨hsome, -⟩
  · simp only [hnone]
    exact ⟨ids, hids, hless hsub⟩
  · simp only [hsome]
    refine ⟨ids, ?_, hless (ResponseMatcher.held_expireAt _ _)⟩
    show InputFilter.Answers (r.history.pieces ++ [.output r.directFilter.pending]) ids
    rw [← List.append_nil ids]
    exact hids.append .nil

/-- What is released is sent in front of nothing when the framer is empty. -/
theorem ordered_idleTimeout (h : r.Ordered) {now : ℕ}
    (hempty : (r.directResponse.expireAt now).isInterested = false →
      r.directFilter.pending ≠ [] → r.framer.buffer = []) : (r.idleTimeout now).Ordered := by
  unfold idleTimeout
  rcases flushIfInactive_cases r.directFilter r.directResponse now with
    ⟨hnone, hsame, -⟩ | ⟨hsome, hpending, hinterested⟩
  · simp only [hnone]
    exact h
  · simp only [hsome]
    obtain ⟨htaken, hsent⟩ := h
    have hbuffer := hempty hinterested hpending
    rw [hbuffer] at htaken
    constructor
    · show Taken ((r.history.pieces ++ [Piece.output r.directFilter.pending]).filterMap
        Piece.output?).flatten (r.history.chunks ++ [r.directFilter.pending]) r.framer.buffer
      have hhanded : ((r.history.pieces ++ [Piece.output r.directFilter.pending]).filterMap
          Piece.output?).flatten = r.handed ++ r.directFilter.pending := by
        simp [handed, Piece.output?]
      rw [hbuffer, hhanded]
      exact (htaken.extend r.directFilter.pending).trans (.all _)
    · show (r.outbox.send (.stdinInput r.directFilter.pending)).bytes.Subperm
        (r.history.chunks ++ [r.directFilter.pending]).flatten
      refine (Outbox.bytes_send _ _).subperm.trans ?_
      rw [List.flatten_append, List.flatten_singleton]
      exact (List.subperm_append_right _).2 hsent

/-- An idle timeout while no answer is waited for leaves nothing in the filter. -/
theorem idleTimeout_pending (r : InputReader) {now : ℕ}
    (h : (r.directResponse.expireAt now).isInterested = false) :
    (r.idleTimeout now).directFilter.pending = [] := by
  unfold idleTimeout
  rcases flushIfInactive_cases r.directFilter r.directResponse now with
    ⟨hnone, hsame, -, hpending | hinterested⟩ | ⟨hsome, -⟩
  · simp only [hnone, hsame]
    exact hpending
  · rw [hinterested] at h
    cases h
  · simp only [hsome]

/-! ## The framer -/

theorem pushAll_taken (framer : RawInputByteFramer) (chunks : List Bytes) :
    Taken (framer.buffer ++ chunks.flatten) (pushAll framer chunks).1
      (pushAll framer chunks).2.buffer := by
  induction chunks generalizing framer with
  | nil =>
    rw [List.flatten_nil, List.append_nil]
    exact .refl framer.buffer
  | cons chunk chunks ih =>
    rw [List.flatten_cons, ← List.append_assoc]
    exact ((framer.push_taken chunk).extend _).trans (ih _)

/-- The framer has handed on chunks of what it held. -/
theorem ordered_sendChunks {chunks : List Bytes}
    (htaken : Taken r.handed (r.history.chunks ++ chunks) r.framer.buffer)
    (hsent : r.outbox.bytes.Subperm r.history.chunks.flatten) (sgrPixels : Bool) :
    (r.sendChunks chunks sgrPixels).Ordered := by
  refine ⟨htaken, ?_⟩
  refine (Outbox.bytes_sendUnixInputChunks _ _ _ _).trans ?_
  show (r.outbox.bytes ++ chunks.flatten).Subperm (r.history.chunks ++ chunks).flatten
  rw [List.flatten_append]
  exact (List.subperm_append_right _).2 hsent

/-- What the invariants of the filter speak of. -/
def core (r : InputReader) : Bytes × List Piece × List ℕ × InputFilter × ResponseMatcher :=
  (r.history.read, r.history.pieces, r.history.armed, r.directFilter, r.directResponse)

theorem conserved_iff_core {r r' : InputReader} (h : r'.core = r.core) :
    r'.Conserved ↔ r.Conserved := by
  simp only [core, Prod.mk.injEq] at h
  obtain ⟨hread, hpieces, -, hfilter, -⟩ := h
  rw [Conserved, Conserved, hread, hpieces, hfilter]

theorem accounted_iff_core {r r' : InputReader} (h : r'.core = r.core) :
    r'.Accounted ↔ r.Accounted := by
  simp only [core, Prod.mk.injEq] at h
  obtain ⟨-, hpieces, harmed, -, hmatcher⟩ := h
  rw [Accounted, Accounted, hpieces, harmed, hmatcher]

theorem forgetMode_eq (r : InputReader) :
    ∃ mode, r.forgetMode = { r with pendingMode := mode } := by
  unfold forgetMode
  split_ifs
  · exact ⟨none, rfl⟩
  · exact ⟨r.pendingMode, rfl⟩

theorem flushFramer_core (r : InputReader) (sgrPixels : Bool) :
    (r.flushFramer sgrPixels).2.core = r.core := by
  obtain ⟨mode, hmode⟩ := forgetMode_eq { r with framer := r.framer.flushTimeout.2 }
  unfold flushFramer
  simp only [hmode]
  split_ifs <;> rfl

theorem ordered_flushFramer (h : r.Ordered) (sgrPixels : Bool) :
    (r.flushFramer sgrPixels).2.Ordered := by
  obtain ⟨mode, hmode⟩ := forgetMode_eq { r with framer := r.framer.flushTimeout.2 }
  have htaken := h.1.trans r.framer.flushTimeout_taken
  unfold flushFramer
  simp only [hmode]
  split_ifs
  · exact ⟨htaken.of_append, h.2⟩
  · exact ordered_sendChunks
      (r := { r with framer := r.framer.flushTimeout.2, pendingMode := mode }) htaken h.2 sgrPixels

theorem ordered_flushPalette (h : r.Ordered) :
    { r with outbox := r.outbox.flushUnixPaletteInput }.Ordered :=
  ⟨h.1, by
    show r.outbox.flushUnixPaletteInput.bytes.Subperm r.history.chunks.flatten
    rw [Outbox.bytes_flushUnixPaletteInput]
    exact h.2⟩

theorem afterRead_core (r : InputReader) (reading : Reading) :
    (r.afterRead reading).core = r.core := by
  unfold afterRead
  simp only
  split_ifs
  · rfl
  · exact flushFramer_core r _
  · exact (flushFramer_core _ _).trans (flushFramer_core r _)
  · exact flushFramer_core r _

theorem ordered_afterRead (h : r.Ordered) (reading : Reading) :
    (r.afterRead reading).Ordered := by
  unfold afterRead
  simp only
  split_ifs
  · exact h
  · exact ordered_flushFramer h _
  · exact ordered_flushFramer (ordered_flushPalette (ordered_flushFramer h _)) _
  · exact ordered_flushPalette (ordered_flushFramer h _)

/-! ## A read -/

theorem readInput_core (r : InputReader) (data : Bytes) (reading : Reading) :
    (r.readInput data reading).core =
      ((r.noteMode (r.pendingMode.getD reading.hostSgrPixelsActive)
        reading.geometry).filterDirectInput data reading).2.core := by
  unfold readInput
  simp only
  split_ifs
  · rfl
  · rw [afterRead_core]
    obtain ⟨mode, hmode⟩ := forgetMode_eq
      (((r.noteMode (r.pendingMode.getD reading.hostSgrPixelsActive)
        reading.geometry).filterDirectInput data reading).2.frame _).2
    rw [hmode]
    rfl

theorem conserved_readInput (h : r.Conserved) (data : Bytes) (reading : Reading) :
    (r.readInput data reading).Conserved := by
  rw [conserved_iff_core (readInput_core r data reading)]
  obtain ⟨filter, matcher, hf, heq⟩ := filterDirectInput_spec
    (r.noteMode (r.pendingMode.getD reading.hostSgrPixelsActive) reading.geometry) data reading
  rw [heq]
  exact conserved_filtered (conserved_matcherOps (r := r.noteMode _ _) h _) hf

theorem accounted_readInput (h : r.Accounted) (data : Bytes) (reading : Reading) :
    (r.readInput data reading).Accounted := by
  rw [accounted_iff_core (readInput_core r data reading)]
  obtain ⟨filter, matcher, hf, heq⟩ := filterDirectInput_spec
    (r.noteMode (r.pendingMode.getD reading.hostSgrPixelsActive) reading.geometry) data reading
  rw [heq]
  exact accounted_filtered (accounted_matcherOps (r := r.noteMode _ _) h _) hf

/-- The framer goes on behind what the filter handed on before. -/
theorem frame_spec (h : r.Ordered) (data : Bytes) (pieces : List Piece) (filter : InputFilter)
    (matcher : ResponseMatcher) :
    let framed := (r.filtered data pieces filter matcher).frame pieces
    Taken framed.2.handed (framed.2.history.chunks ++ framed.1) framed.2.framer.buffer ∧
      framed.2.outbox.bytes.Subperm framed.2.history.chunks.flatten := by
  constructor
  · show Taken (r.filtered data pieces filter matcher).handed
      (r.history.chunks ++ (pushAll r.framer (pieces.filterMap Piece.output?)).1)
      (pushAll r.framer (pieces.filterMap Piece.output?)).2.buffer
    rw [handed_filtered]
    exact (h.1.extend _).trans (pushAll_taken r.framer _)
  · show (List.foldl _ r.outbox _).bytes.Subperm r.history.chunks.flatten
    rw [Outbox.bytes_responses]
    exact h.2

theorem ordered_readInput (h : r.Ordered) (data : Bytes) (reading : Reading) :
    (r.readInput data reading).Ordered := by
  unfold readInput
  simp only
  generalize r.pendingMode.getD reading.hostSgrPixelsActive = sgrPixels
  obtain ⟨filter, matcher, -, heq⟩ :=
    filterDirectInput_spec (r.noteMode sgrPixels reading.geometry) data reading
  generalize ((r.noteMode sgrPixels reading.geometry).filterDirectInput data reading).1 = pieces
    at heq ⊢
  rw [heq]
  have hframed := frame_spec
    (ordered_matcherOps (r := r.noteMode sgrPixels reading.geometry) h reading.between)
    data pieces filter matcher
  generalize ((reading.between.foldl matcherOp (r.noteMode sgrPixels reading.geometry)).filtered
    data pieces filter matcher).frame pieces = framed at hframed ⊢
  obtain ⟨htaken, hsent⟩ := hframed
  split_ifs
  · exact ⟨htaken.of_append, hsent⟩
  · obtain ⟨mode, hmode⟩ := forgetMode_eq framed.2
    rw [hmode]
    exact ordered_afterRead
      (ordered_sendChunks (r := { framed.2 with pendingMode := mode }) htaken hsent _) reading

/-! ## Runs -/

/-- At an idle timeout that releases what the filter holds, the framer holds nothing. -/
def ReleasesBehindNothing (r : InputReader) (e : InputStep) : Prop :=
  ∀ now, e = .idle now → (r.directResponse.expireAt now).isInterested = false →
    r.directFilter.pending ≠ [] → r.framer.buffer = []

theorem ordered_step (h : r.Ordered) {e : InputStep} (he : r.ReleasesBehindNothing e) :
    (r.step e).Ordered := by
  cases e with
  | matcher op => exact ordered_matcherOps h [op]
  | idle now =>
    unfold step
    simp only
    split_ifs
    · exact h
    · exact ordered_idleTimeout h (he now rfl)
  | read data reading =>
    unfold step
    simp only
    split_ifs
    · exact h
    · exact ordered_readInput h data reading

theorem conserved_step (h : r.Conserved) (e : InputStep) : (r.step e).Conserved := by
  cases e with
  | matcher op => exact conserved_matcherOps h [op]
  | idle now =>
    unfold step
    simp only
    split_ifs
    · exact h
    · exact conserved_idleTimeout h now
  | read data reading =>
    unfold step
    simp only
    split_ifs
    · exact h
    · exact conserved_readInput h data reading

theorem accounted_step (h : r.Accounted) (e : InputStep) : (r.step e).Accounted := by
  cases e with
  | matcher op => exact accounted_matcherOp h op
  | idle now =>
    unfold step
    simp only
    split_ifs
    · exact h
    · exact accounted_idleTimeout h now
  | read data reading =>
    unfold step
    simp only
    split_ifs
    · exact h
    · exact accounted_readInput h data reading

section

variable (preserveLegacyDoubledEscapeInput hostColorQuerySent hostCellSizeQuerySent : Bool)

/-- The reader after the steps of a run. -/
def reached (steps : List InputStep) : InputReader :=
  run step (start preserveLegacyDoubledEscapeInput hostColorQuerySent hostCellSizeQuerySent) steps

theorem start_buffer : (start preserveLegacyDoubledEscapeInput hostColorQuerySent
    hostCellSizeQuerySent).framer.buffer = [] := by
  cases hostColorQuerySent <;> cases hostCellSizeQuerySent <;> rfl

/-- In every run the filter loses, invents and moves nothing, what it takes out are complete
replies for images that are waited for, no more than one for each arming, and an idle timeout while
nothing is waited for leaves nothing in it. -/
theorem reader_conserves (steps : List InputStep) :
    (reached preserveLegacyDoubledEscapeInput hostColorQuerySent hostCellSizeQuerySent
        steps).Conserved ∧
      (reached preserveLegacyDoubledEscapeInput hostColorQuerySent hostCellSizeQuerySent
        steps).Accounted :=
  ⟨run_invariant (I := Conserved) (fun _ e h => conserved_step h e) (by rfl) steps,
    run_invariant (I := Accounted) (fun _ e h => accounted_step h e)
      (by exact ⟨[], .nil, List.Subperm.refl []⟩) steps⟩

/-- In a run whose releases find the framer empty, the filter also never lets a byte reach the
main loop in front of one that it or the framer holds. -/
theorem reader_keeps_order {steps : List InputStep}
    (hsteps : Along step ReleasesBehindNothing
      (start preserveLegacyDoubledEscapeInput hostColorQuerySent hostCellSizeQuerySent) steps) :
    let r := reached preserveLegacyDoubledEscapeInput hostColorQuerySent hostCellSizeQuerySent steps
    r.Conserved ∧ r.Accounted ∧
      (∀ now, r.framer.panicked = false → (r.directResponse.expireAt now).isInterested = false →
        (r.step (.idle now)).directFilter.pending = []) ∧ r.Ordered := by
  intro r
  obtain ⟨hconserved, haccounted⟩ := reader_conserves preserveLegacyDoubledEscapeInput
    hostColorQuerySent hostCellSizeQuerySent steps
  refine ⟨hconserved, haccounted, ?_, ?_⟩
  · intro now halive hinterested
    unfold step
    simp only [halive, Bool.false_eq_true, if_false]
    exact idleTimeout_pending r hinterested
  · refine run_induction (I := fun _ r => r.Ordered) ?_ ?_ steps hsteps
    · refine ⟨?_, List.Subperm.refl []⟩
      rw [start_buffer]
      exact .refl []
    · intro _ t e h he
      exact ordered_step h he

end

/-- A paste has begun and the filter holds its last byte, an escape, when the transfer is
cancelled. -/
def openPaste : List InputStep :=
  [.matcher (.arm 0 1 7), .read (ascii "\x1b[200~ab\x1b") { idle := true }, .matcher (.cancel 1)]

/-- The escape is sent at the next timeout, in front of the paste that the framer holds. -/
theorem release_passes_paste :
    (reached true false false (openPaste ++ [.idle 0])).outbox.sent = [.stdinInput [esc]] ∧
      (reached true false false (openPaste ++ [.idle 0])).framer.buffer = ascii "\x1b[200~ab" ∧
      ¬ (reached true false false (openPaste ++ [.idle 0])).Ordered := by
  have hsent : (reached true false false (openPaste ++ [.idle 0])).outbox.sent =
      [.stdinInput [esc]] := by decide +kernel
  have hbuffer : (reached true false false (openPaste ++ [.idle 0])).framer.buffer =
      ascii "\x1b[200~ab" := by decide +kernel
  have hhanded : (reached true false false (openPaste ++ [.idle 0])).handed =
      ascii "\x1b[200~ab\x1b" := by decide +kernel
  refine ⟨hsent, hbuffer, ?_⟩
  rintro ⟨⟨settled, hsettled, -⟩, -⟩
  rw [hhanded, hbuffer] at hsettled
  have hsuffix : ascii "\x1b[200~ab" <:+ ascii "\x1b[200~ab\x1b" := ⟨settled, hsettled.symm⟩
  revert hsuffix
  decide

/-- An escape behind a typed letter, released while the framer is empty. -/
def typedEscape : List InputStep :=
  [.matcher (.arm 0 1 7), .read (ascii "a\x1b") { idle := true }, .matcher (.cancel 1), .idle 0]

theorem reader_keeps_order_typedEscape :
    let r := reached true false false typedEscape
    r.Conserved ∧ r.Accounted ∧
      (∀ now, r.framer.panicked = false → (r.directResponse.expireAt now).isInterested = false →
        (r.step (.idle now)).directFilter.pending = []) ∧ r.Ordered := by
  refine reader_keeps_order true false false ⟨?_, ?_, ?_, ?_, trivial⟩
  · intro now h
    cases h
  · intro now h
    cases h
  · intro now h
    cases h
  · intro now _ _ _
    decide +kernel

end InputReader

end Zynk
