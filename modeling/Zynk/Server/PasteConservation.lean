import Zynk.Server.PasteRuns

/-!
# The paste guard conserves its input

The bytes that are forwarded and those that are held back are the bytes that came in, less the
rejected envelopes, and every `Forward` fits the limit. In runs in which no oversized paste becomes
complete where its beginning is marked wrongly, or directly behind a forwarded Escape
(`PasteLog.Recognized`), no paste of the forwarded stream is split and exactly the oversized pastes
are rejected that nothing of their frame was forwarded in front of.
-/

namespace Zynk.Server

open Text Delimited StepRun RawPasteEnvelopeState RawPasteEnvelopeGuard

/-! ## Where a paste began -/

theorem misplaces_held (limit : ℕ) (bytes data : Bytes) (mixedPrefix : Bool) :
    misplaces limit (held bytes mixedPrefix) data =
      if agrees bracketedPasteStart (bytes ++ data) then directlyBehindPaste (bytes ++ data)
      else misplacesRelease limit bytes data := by
  rw [held]
  split <;> rfl

variable {state state' : RawPasteEnvelopeState} {data bytes : Bytes} {mixedPrefix mixed : Bool}

theorem Breaks.misplaces_eq (h : Breaks data state mixedPrefix) (limit : ℕ) :
    misplaces limit state data = misplacesRelease limit state.retained data := by
  cases h with
  | startPrefix _ h => rw [misplaces_held, h, retained_held, if_neg Bool.false_ne_true]
  | continuation _ h => rw [misplaces, h, retained_forwardedEscape, if_neg Bool.false_ne_true]

theorem directlyBehindPaste_eq {e : ℕ} (h : pasteEnvelope bytes = some e) :
    directlyBehindPaste bytes = (heldFrom (bytes.drop e) == some 0) := by
  rw [directlyBehindPaste, h]

variable {outcomes : List RawPasteEnvelopeOutcome}

/-- What a scan holds back, with its mark and what was forwarded in front of it. -/
theorem Scanned.origin {priorMixedPrefix : Bool} (h : Scanned priorMixedPrefix data outcomes state)
    (hm : state.mixedPrefix = some mixed) :
    (Held data ∧ mixed = priorMixedPrefix ∧ (forwards outcomes).flatten.length = 0) ∨
      ∃ i, heldFrom data = some i ∧ 0 < i ∧ mixed = true ∧
        (forwards outcomes).flatten.length = i := by
  cases h with
  | clear _ => simp at hm
  | keep h =>
    rw [mixedPrefix_held, Option.some.injEq] at hm
    exact Or.inl ⟨h, hm.symm, rfl⟩
  | @split i h hpos =>
    rw [mixedPrefix_held, Option.some.injEq] at hm
    refine Or.inr ⟨i, h, hpos, hm.symm, ?_⟩
    have := (heldFrom_spec h).2.1
    simp only [forwards, List.filterMap_cons, List.filterMap_nil, List.flatten_singleton,
      List.length_take]
    omega

/-- A mark that was set by a scan of the whole of `data`, `lead` bytes into its frame. -/
theorem Scanned.marked (h : Scanned false data outcomes state) (hm : state.mixedPrefix = some mixed)
    (hbehind : (heldFrom data == some 0) = false) : mixed = true := by
  rcases h.origin hm with ⟨hheld, -, -⟩ | ⟨i, -, -, hmixed, -⟩
  · simp [hheld.heldFrom] at hbehind
  · exact hmixed

variable {limit : ℕ}

theorem WellFormed.retained_ne_nil (h : WellFormed limit state)
    (hm : state.mixedPrefix = some mixed) : state.retained ≠ [] := by
  cases h with
  | held hheld _ =>
    rw [retained_held]
    exact hheld.1
  | idle | forwardedEscape _ _ => simp at hm

/-- The mark is inherited with what stays held back, and else says, where the start is not
misplaced, whether something of its frame stands in front of it. -/
def Marked (limit : ℕ) (state : RawPasteEnvelopeState) (data : Bytes) (sent : ℕ) (mixed : Bool) :
    Prop :=
  state.retained ≠ [] ∧ sent = 0 ∧ state.mixedPrefix = some mixed ∨
    (state.retained = [] ∨ sent ≠ 0) ∧
      (misplaces limit state data = false → (mixed = true ↔ state.retained.length < sent))

/-- The paste that a frame completes ends inside the frame. -/
theorem Held.length_lt_pasteEnvelope {e : ℕ} (hheld : Held bytes)
    (he : pasteEnvelope (bytes ++ data) = some e) : bytes.length < e := by
  obtain ⟨hp, n, hn, rfl⟩ := pasteEnvelope_eq_some_iff.1 he
  rcases Nat.lt_or_ge bytes.length 6 with hlt | hge
  · omega
  · have hp' : bracketedPasteStart <+: bytes :=
      List.prefix_of_prefix_length_le hp (List.prefix_append _ _)
        (by rwa [length_bracketedPasteStart])
    rw [List.drop_append_of_le_length hge] at hn
    have := length_lt_of_findSubsequence_append
      ((pasteEnvelope_eq_none_of_isPrefix hp').1 hheld.2.2) hn
    rw [List.length_drop, length_bracketedPasteEnd] at this
    omega

theorem length_forwards_cons (chunk : Bytes) (outcomes : List RawPasteEnvelopeOutcome) :
    (forwards (.forward chunk :: outcomes)).flatten.length =
      chunk.length + (forwards outcomes).flatten.length := by
  simp [forwards]

/-- Behind a paste that the frame completes. -/
theorem Scanned.marked_behind {e : ℕ} (hheld : Held bytes)
    (he : pasteEnvelope (bytes ++ data) = some e)
    (h : Scanned false ((bytes ++ data).drop e) outcomes state)
    (hm : state.mixedPrefix = some mixed) : Marked limit (held bytes mixedPrefix) data
      (forwards (.forward ((bytes ++ data).take e) :: outcomes)).flatten.length mixed := by
  have hlt := hheld.length_lt_pasteEnvelope he
  have hle := (pasteEnvelope_le he).2
  have hlen : ((bytes ++ data).take e).length = e := by rw [List.length_take, Nat.min_eq_left hle]
  rw [length_forwards_cons, hlen]
  refine Or.inr ⟨Or.inr (by omega), fun hplaced => ?_⟩
  rw [misplaces_held, if_pos (agrees_iff.2 (Or.inl (pasteEnvelope_eq_some_iff.1 he).1)),
    directlyBehindPaste_eq he] at hplaced
  rw [retained_held]
  exact iff_of_true (h.marked hm hplaced) (by omega)

/-- What a release holds back, when the frame is not cut. -/
theorem Scanned.marked_release (hlimit : 6 < limit) (hbreaks : Breaks data state mixedPrefix)
    (hlen : (state.retained ++ data).length ≤ limit)
    (h : Scanned mixedPrefix (state.retained ++ data) outcomes state')
    (hm : state'.mixedPrefix = some mixed) :
    Marked limit state data (forwards outcomes).flatten.length mixed := by
  have htake := List.take_of_length_le hlen
  rcases h.origin hm with ⟨hheld, rfl, hsent⟩ | ⟨i, hi, hpos, rfl, hsent⟩
  · -- everything is held back : nothing was retained
    have hle := hbreaks.le_of_heldFrom (n := limit) (i := 0) (by omega)
      (by rw [htake]; exact hheld.heldFrom)
    have hnil : state.retained = [] := List.eq_nil_of_length_eq_zero (by omega)
    refine Or.inr ⟨Or.inl hnil, fun _ => ?_⟩
    rw [hsent, hnil]
    refine iff_of_false ?_ (Nat.lt_irrefl 0)
    cases hbreaks with
    | startPrefix hbytes _ =>
      rw [retained_held] at hnil
      exact absurd hnil hbytes.1
    | continuation _ _ => simp
  · have hle := hbreaks.le_of_heldFrom (n := limit) (i := i) (by omega) (by rwa [htake])
    rw [hsent]
    refine Or.inr ⟨Or.inr (by omega), fun hplaced => iff_of_true rfl ?_⟩
    by_contra hge
    have heq : i = state.retained.length := by omega
    have hne : state.retained.isEmpty = false := by
      rw [List.isEmpty_eq_false_iff, ← List.length_pos_iff]
      omega
    rw [hbreaks.misplaces_eq, misplacesRelease, htake, hi] at hplaced
    simp only [hne, (heldFrom_spec hi).1.heldFrom] at hplaced
    simp [heq] at hplaced

/-- An idle guard that holds something back has scanned the whole frame. -/
theorem Pushed.of_idle (h : Pushed limit state data outcomes state') (hidle : state = .idle)
    (hm : state'.mixedPrefix = some mixed) : data ≠ [esc] ∧ Scanned false data outcomes state' := by
  cases h with
  | scan _ hesc _ h => exact ⟨hesc, h⟩
  | wait hne => exact absurd hidle hne
  | keep _ _ _ | completeScan _ _ _ _ _ => exact absurd hidle (held_ne_idle _ _)
  | release hbreaks _ _ | releaseCut hbreaks _ _ _ _ =>
    cases hbreaks with
    | startPrefix _ _ => exact absurd hidle (held_ne_idle _ _)
    | continuation _ _ => cases hidle
  | _ => simp at hm

/-- A guard that holds something back with its mark set, and gets the rest of a frame. -/
theorem Pushed.of_held (h : Pushed limit state data outcomes state')
    (hheld : state = held bytes true) (hne : data ≠ []) (hlen : (bytes ++ data).length ≤ limit)
    (hm : state'.mixedPrefix = some mixed) :
    (Held (bytes ++ data) ∧ mixed = true ∧ (forwards outcomes).flatten.length = 0) ∨
      (∃ e, pasteEnvelope (bytes ++ data) = some e ∧
        (directlyBehindPaste (bytes ++ data) = false → mixed = true) ∧
        bytes.length < (forwards outcomes).flatten.length) ∨
      mixed = true ∧ 0 < (forwards outcomes).flatten.length := by
  cases h with
  | wait _ => exact absurd rfl hne
  | keep _ hopen _ =>
    obtain ⟨rfl, rfl⟩ := held_inj hheld
    rw [mixedPrefix_held, Option.some.injEq] at hm
    exact Or.inl ⟨hopen, hm.symm, rfl⟩
  | @completeScan _ _ _ e outcomes _ hbytes he _ _ h =>
    obtain ⟨rfl, rfl⟩ := held_inj hheld
    refine Or.inr (Or.inl ⟨e, he, fun hbehind => ?_, ?_⟩)
    · rw [directlyBehindPaste_eq he] at hbehind
      exact h.marked hm hbehind
    · have hlt := hbytes.length_lt_pasteEnvelope he
      have hle := (pasteEnvelope_le he).2
      rw [length_forwards_cons, List.length_take, Nat.min_eq_left hle]
      omega
  | release hbreaks _ h =>
    cases hbreaks with
    | startPrefix hbytes hagrees =>
      obtain ⟨rfl, rfl⟩ := held_inj hheld
      rcases h.origin hm with ⟨hopen, -, -⟩ | ⟨i, -, hpos, hmixed, hsent⟩
      · rw [retained_held] at hopen
        rw [hopen.2.1] at hagrees
        cases hagrees
      · exact Or.inr (Or.inr ⟨hmixed, by omega⟩)
    | continuation _ _ => exact absurd hheld.symm (held_ne_forwardedEscape _ _ _)
  | releaseCut _ _ hlt _ _ =>
    rw [hheld, retained_held] at hlt
    omega
  | scan _ _ _ _ => exact absurd hheld.symm (held_ne_idle _ _)
  | _ => simp at hm

/-- What a release holds back that is cut at the limit. -/
theorem Pushed.marked_releaseCut (hlimit : 6 < limit) {state₁ : RawPasteEnvelopeState}
    {outcomes' : List RawPasteEnvelopeOutcome} (hbreaks : Breaks data state mixedPrefix)
    (hdata : data.length ≤ limit) (hlen : limit < (state.retained ++ data).length)
    (h : Scanned mixedPrefix ((state.retained ++ data).take limit) outcomes state₁)
    (hrest : Pushed limit state₁ ((state.retained ++ data).drop limit) outcomes' state')
    (hm : state'.mixedPrefix = some mixed) :
    Marked limit state data (forwards (outcomes ++ outcomes')).flatten.length mixed := by
  have hshort := hbreaks.length_lt
  have hne : (state.retained ++ data).drop limit ≠ [] := by
    rw [← List.length_pos_iff, List.length_drop]
    omega
  have hsome : state.retained.isEmpty = false := by
    rw [List.isEmpty_eq_false_iff, ← List.length_pos_iff]
    rw [List.length_append] at hlen
    omega
  have hfits := (hbreaks.cut_fits hlimit hdata hlen h).1
  rw [forwards_append, List.flatten_append, List.length_append]
  cases h with
  | clear hnone =>
    obtain ⟨hesc, h⟩ := hrest.of_idle rfl hm
    have hfirst : (forwards [.forward ((state.retained ++ data).take limit)]).flatten.length =
        limit := by
      simp only [forwards, List.filterMap_cons, List.filterMap_nil, List.flatten_singleton,
        List.length_take]
      omega
    rw [hfirst]
    refine Or.inr ⟨Or.inr (by omega), fun hplaced => iff_of_true ?_ (by omega)⟩
    rw [hbreaks.misplaces_eq, misplacesRelease, hnone] at hplaced
    refine h.marked hm ?_
    rw [List.length_append] at hlen
    simpa [hlen, hesc] using hplaced
  | keep hheld =>
    have := hbreaks.le_of_heldFrom (by omega) hheld.heldFrom
    rw [List.isEmpty_eq_false_iff, ← List.length_pos_iff] at hsome
    omega
  | @split i hi hpos =>
    have hle := hbreaks.le_of_heldFrom (by omega) hi
    have hlt := (heldFrom_spec hi).2.1
    have hjoin : ((state.retained ++ data).take limit).drop i ++
        (state.retained ++ data).drop limit = (state.retained ++ data).drop i := by
      rw [← List.drop_append_of_le_length (Nat.le_of_lt hlt), List.take_append_drop]
    have hfirst : (forwards [.forward (((state.retained ++ data).take limit).take i),
        .hold]).flatten.length = i := by
      simp only [forwards, List.filterMap_cons, List.filterMap_nil, List.flatten_singleton,
        List.length_take] at hlt ⊢
      omega
    rw [retained_held] at hfits
    have hcases := hrest.of_held rfl hne hfits hm
    rw [hjoin] at hcases
    rw [hfirst]
    refine Or.inr ⟨Or.inr (by omega), fun hplaced => ?_⟩
    rw [hbreaks.misplaces_eq, misplacesRelease, hi] at hplaced
    rw [Bool.or_eq_false_iff] at hplaced
    rcases hcases with ⟨hopen, hmixed, hsent⟩ | ⟨e, he, hbehind, hsent⟩ | ⟨hmixed, hsent⟩
    · refine iff_of_true hmixed ?_
      have hplaced := hplaced.1
      simp only [hsome, hopen.heldFrom] at hplaced
      have hneq : i ≠ state.retained.length := by simpa using hplaced
      omega
    · exact iff_of_true (hbehind hplaced.2) (by omega)
    · exact iff_of_true hmixed (by omega)

/-- The mark of what a push leaves held back. -/
theorem Pushed.marked (hlimit : 6 < limit) (hwell : WellFormed limit state)
    (h : Pushed limit state data outcomes state') (hm : state'.mixedPrefix = some mixed) :
    Marked limit state data (forwards outcomes).flatten.length mixed := by
  cases h with
  | nothing | escape | rejectFrame _ _ | refuseFrame _ _ | complete _ _ | reject _ _ | refuse _ _ _
  | refuseBreak _ _ _ | refuseEscape _ | extend _ _ _ | extended _ _ => simp at hm
  | wait _ =>
    exact Or.inl ⟨hwell.retained_ne_nil hm, rfl, hm⟩
  | scan _ _ _ h =>
    refine Or.inr ⟨Or.inl rfl, fun _ => ?_⟩
    rcases h.origin hm with ⟨-, rfl, hsent⟩ | ⟨i, -, hpos, rfl, hsent⟩
    · rw [hsent]
      simp
    · rw [hsent]
      simpa using hpos
  | keep hheld _ _ =>
    rw [mixedPrefix_held, Option.some.injEq] at hm
    refine Or.inl ⟨?_, rfl, by rw [mixedPrefix_held, hm]⟩
    rw [retained_held]
    exact hheld.1
  | completeScan hheld he _ _ h => exact h.marked_behind hheld he hm
  | release hbreaks hlen h => exact h.marked_release hlimit hbreaks hlen hm
  | releaseCut hbreaks hdata hlen h hrest =>
    exact hrest.marked_releaseCut hlimit hbreaks hdata hlen h hm

/-- Behind an Escape, the continuation is empty or continues one. -/
theorem Pushed.continuation (hlimit : 6 < limit) (h : Pushed limit state data outcomes state')
    {continuation : Bytes} (hstate : state' = .forwardedEscape continuation) : continuation = [] ∨
      (forwards outcomes).flatten.length = 0 ∧ ∃ before, state = .forwardedEscape before := by
  induction h with
  | wait _ => exact Or.inr ⟨rfl, continuation, hstate⟩
  | escape =>
    cases hstate
    exact Or.inl rfl
  | extend _ _ _ => exact Or.inr ⟨rfl, _, rfl⟩
  | keep _ _ _ => exact absurd hstate (held_ne_forwardedEscape _ _ _)
  | scan _ _ _ h | completeScan _ _ _ _ h | release _ _ h =>
    cases h with
    | clear _ => cases hstate
    | keep _ | split _ _ => exact absurd hstate (held_ne_forwardedEscape _ _ _)
  | releaseCut hbreaks hdata hlen h _ ih =>
    refine (ih hstate).imp_right fun ⟨_, before, hbefore⟩ => ?_
    exact absurd hbefore ((hbreaks.cut_fits hlimit hdata hlen h).2 before)
  | _ => cases hstate

/-! ## Runs -/

/-- The run has not disconnected the client at this push. -/
def Connected (limit : ℕ) (log : PasteLog) (data : Bytes) : Prop :=
  disconnects (answer limit log.guard data).1 = false

instance (limit : ℕ) (log : PasteLog) (data : Bytes) : Decidable (Connected limit log data) :=
  inferInstanceAs (Decidable (_ = false))

/-- A push of a well-formed guard, with the fuel of `answer`. -/
theorem answer_pushed (hlimit : 6 < limit) (hwell : WellFormed limit state) (data : Bytes) :
    push limit (data.length + 1) state data = some (answer limit state data) ∧
      Pushed limit state data (answer limit state data).1 (answer limit state data).2 ∧
      WellFormed limit (answer limit state data).2 := by
  obtain ⟨outcomes, state', heq, hpushed, hwell'⟩ :=
    push_pushed hlimit hwell (Nat.lt_succ_self data.length)
  rw [answer, heq]
  exact ⟨rfl, hpushed, hwell'⟩

/-- What holds of the log of every run that disconnected nobody. -/
structure Conserved (limit : ℕ) (log : PasteLog) : Prop where
  wellFormed : WellFormed limit log.guard
  accepted : log.forwarded.flatten ++ log.guard.retained = log.accepted

/-- What holds as long as every push is `Recognized`. -/
structure Recognizing (log : PasteLog) : Prop where
  settled : Settled log.forwarded log.guard
  unmarked : log.guard.mixedPrefix = none → log.lead = 0
  marked : ∀ mixed, log.guard.mixedPrefix = some mixed → log.misplaced = false →
    (mixed = true ↔ 0 < log.lead)

theorem Conserved.push (hlimit : 6 < limit) {log : PasteLog} (h : Conserved limit log)
    (hlive : Connected limit log data) : Conserved limit (log.push limit data) := by
  obtain ⟨-, hpushed, hwell⟩ := answer_pushed hlimit h.wellFormed data
  refine ⟨hwell, ?_⟩
  have hconserves := hpushed.conserves hlive log.forwarded.flatten
  simp only [PasteLog.push]
  rw [← h.accepted, List.append_assoc, hconserves, List.flatten_append, List.append_assoc]

/-- The guard rejects exactly the oversized pastes that nothing of their frame stands in front
of. -/
theorem Recognizing.rejects_iff (hlimit : 6 < limit) {log : PasteLog} (hc : Conserved limit log)
    (h : Recognizing log) (hrecognized : log.Recognized limit data) :
    (∃ size, .rejectPaste size ∈ (answer limit log.guard data).1) ↔
      OversizedPaste limit (log.guard.retained ++ data) ∧ log.lead = 0 := by
  obtain ⟨-, hpushed, -⟩ := answer_pushed hlimit hc.wellFormed data
  rw [hpushed.rejects_iff hlimit hc.wellFormed]
  refine and_congr_right fun hover => ?_
  obtain ⟨hlen, hcomplete⟩ := oversizedPaste_iff.1 hover
  obtain ⟨hplaced, hescape⟩ := hrecognized hlen hcomplete
  rcases hm : log.guard.mixedPrefix with _ | mixed
  · have hlead := h.unmarked hm
    refine ⟨fun _ => hlead, fun _ => Or.inl ?_⟩
    rcases hg : log.guard with _ | _ | _ | continuation
    · rfl
    · simp [hg, RawPasteEnvelopeState.mixedPrefix] at hm
    · simp [hg, RawPasteEnvelopeState.mixedPrefix] at hm
    · exact absurd ⟨hlead, h.settled.escape continuation hg⟩ hescape
  · have hmarked := h.marked mixed hm hplaced
    constructor
    · rintro (hidle | hmixed)
      · rw [hidle, mixedPrefix_idle] at hm
        cases hm
      · rw [Option.some.injEq] at hmixed
        subst hmixed
        have : ¬ 0 < log.lead := fun hpos => Bool.false_ne_true (hmarked.2 hpos)
        omega
    · intro hlead
      right
      rw [Option.some.injEq, ← Bool.not_eq_true, hmarked]
      omega

theorem Recognizing.push (hlimit : 6 < limit) {log : PasteLog} (hc : Conserved limit log)
    (h : Recognizing log) (hlive : Connected limit log data)
    (hrecognized : log.Recognized limit data) : Recognizing (log.push limit data) := by
  obtain ⟨-, hpushed, hwell⟩ := answer_pushed hlimit hc.wellFormed data
  have hrejects := h.rejects_iff hlimit hc hrecognized
  refine ⟨hpushed.settled hlimit hlive h.settled fun hreject => ?_, fun hm => ?_,
    fun mixed hm hplaced => ?_⟩
  · obtain ⟨hover, hlead⟩ := hrejects.1 hreject
    obtain ⟨hlen, hcomplete⟩ := oversizedPaste_iff.1 hover
    rcases ((hpushed.rejects_iff hlimit hc.wellFormed).1 hreject).2 with hidle | hmixed
    · exact h.settled.idle hidle
    · exact (h.settled.held hmixed).resolve_right fun hlast =>
        (hrecognized hlen hcomplete).2 ⟨hlead, hlast⟩
  · simp only [PasteLog.push] at hm ⊢
    rcases hg : (answer limit log.guard data).2 with _ | _ | _ | continuation
    · rfl
    · simp [hg, RawPasteEnvelopeState.mixedPrefix] at hm
    · simp [hg, RawPasteEnvelopeState.mixedPrefix] at hm
    · rcases hpushed.continuation hlimit hg with rfl | ⟨hsent, before, hbefore⟩
      · rfl
      · have hlead := h.unmarked (by rw [hbefore, mixedPrefix_forwardedEscape])
        rw [hsent, hlead, Nat.zero_sub]
        simp
  · have hne : (answer limit log.guard data).2.retained.isEmpty = false :=
      List.isEmpty_eq_false_iff.2 (hwell.retained_ne_nil hm)
    simp only [PasteLog.push, hne, Bool.false_eq_true, if_false] at hplaced ⊢
    rcases hpushed.marked hlimit hc.wellFormed hm with ⟨hnil, hsent, hbefore⟩ | ⟨hmoved, hiff⟩
    · have hwaits : log.waits (forwards (answer limit log.guard data).1).flatten.length = true := by
        simp [PasteLog.waits, hnil, hsent]
      rw [hwaits, if_pos rfl] at hplaced ⊢
      exact h.marked mixed hbefore hplaced
    · have hwaits : log.waits (forwards (answer limit log.guard data).1).flatten.length =
          false := by
        rcases hmoved with hnil | hsent
        · simp [PasteLog.waits, hnil]
        · rw [PasteLog.waits, beq_eq_false_iff_ne.2 hsent, Bool.and_false]
      rw [hwaits, if_neg Bool.false_ne_true] at hplaced ⊢
      rw [hiff hplaced]
      omega

theorem conserved_init (limit : ℕ) : Conserved limit {} :=
  ⟨.idle, rfl⟩

theorem recognizing_init : Recognizing {} := by
  refine ⟨⟨?_, unclosed_of_none (by decide), fun _ => by decide, by simp, by simp⟩, fun _ => rfl,
    by simp⟩
  intro p hp
  rw [List.flatten_nil, pastes, spans_of_none (by decide)] at hp
  simp at hp

theorem conserved_run (hlimit : 6 < limit) {frames : List Bytes}
    (hlive : Along (PasteLog.push limit) (Connected limit) {} frames) :
    Conserved limit (run (PasteLog.push limit) {} frames) :=
  run_induction (I := fun _ log => Conserved limit log) (conserved_init limit)
    (fun _ _ _ h hlive => h.push hlimit hlive) frames hlive

theorem recognizing_run (hlimit : 6 < limit) {frames : List Bytes}
    (hlive : Along (PasteLog.push limit) (Connected limit) {} frames)
    (hrecognized : Along (PasteLog.push limit) (fun log data => log.Recognized limit data) {}
      frames) : Recognizing (run (PasteLog.push limit) {} frames) :=
  (run_induction (I := fun _ log => Conserved limit log ∧ Recognizing log)
    ⟨conserved_init limit, recognizing_init⟩
    (fun _ _ _ h hP => ⟨h.1.push hlimit hP.1, h.2.push hlimit h.1 hP.1 hP.2⟩) frames
    (along_and.2 ⟨hlive, hrecognized⟩)).2

/-- Up to the first disconnect every push is answered, with chunks that fit the limit, and what was
forwarded and what is held back are the input less the rejected envelopes. As long as no oversized
paste becomes complete whose beginning is marked wrongly or that stands directly behind a forwarded
Escape, the pastes of the forwarded stream are whole, and the guard rejects exactly the oversized
pastes in front of which nothing of their frame was forwarded. -/
theorem guard_conserves {limit : ℕ} (hlimit : 6 < limit) (frames : List Bytes) (data : Bytes)
    (hlive : Along (PasteLog.push limit) (Connected limit) {} frames) :
    let log := run (PasteLog.push limit) {} frames
    let outcomes := (answer limit log.guard data).1
    push limit (data.length + 1) log.guard data = some (answer limit log.guard data) ∧
      (∀ chunk ∈ forwards outcomes, chunk.length ≤ limit) ∧
      (disconnects outcomes = false →
        (log.push limit data).forwarded.flatten ++ (log.push limit data).guard.retained =
          (log.push limit data).accepted) ∧
      (Along (PasteLog.push limit) (fun log data => log.Recognized limit data) {}
          (frames ++ [data]) →
        Whole (log.push limit data).forwarded ∧
          ((∃ size, .rejectPaste size ∈ outcomes) ↔
            OversizedPaste limit (log.guard.retained ++ data) ∧ log.lead = 0)) := by
  intro log outcomes
  have hc : Conserved limit log := conserved_run hlimit hlive
  obtain ⟨hanswer, hpushed, -⟩ := answer_pushed hlimit hc.wellFormed data
  refine ⟨hanswer, hpushed.forward_le hlimit,
    fun hconnected => (hc.push hlimit hconnected).accepted, fun hrecognized => ?_⟩
  obtain ⟨hbefore, hnow⟩ := along_snoc.1 hrecognized
  have hr : Recognizing log := recognizing_run hlimit hlive hbefore
  refine ⟨?_, hr.rejects_iff hlimit hc hnow⟩
  rcases hdisconnects : disconnects outcomes
  · exact (hr.push hlimit hc hdisconnects hnow).settled.whole
  · have hnil : forwards outcomes = [] := hpushed.forwards_eq_nil hlimit hdisconnects
    have hsame : (log.push limit data).forwarded = log.forwarded := by
      rw [PasteLog.push, hnil, List.append_nil]
    rw [hsame]
    exact hr.settled.whole

/-- A paste that comes in three frames, behind other input, and exceeds a limit of 20 bytes. -/
theorem guard_conserves_fragmented :
    (∃ size, .rejectPaste size ∈
        (answer 20 (run (PasteLog.push 20) {} [ascii "ls", ascii "\x1b[2", ascii "00~ab"]).guard
          (ascii "cdefghi\x1b[201~")).1) ∧
      Whole (run (PasteLog.push 20) {} ([ascii "ls", ascii "\x1b[2", ascii "00~ab"] ++
        [ascii "cdefghi\x1b[201~"])).forwarded := by
  have h := (guard_conserves (by decide : 6 < 20)
    [ascii "ls", ascii "\x1b[2", ascii "00~ab"] (ascii "cdefghi\x1b[201~") (by decide)).2.2.2
    (by decide)
  rw [run_snoc]
  exact ⟨h.2.2 ⟨⟨by decide, by decide, by decide⟩, by decide⟩, h.1⟩

/-! ## A paste that is rejected though its frame was forwarded -/

theorem decodeUtf8_replicate (n : ℕ) : (decodeUtf8 (List.replicate n 0x78)).isSome = true := by
  induction n with
  | zero => rfl
  | succ n ih =>
    rw [List.replicate_succ, ← checkUtf8_eq_valid_iff, checkUtf8_of_one (by decide),
      checkUtf8_eq_valid_iff]
    exact ih

theorem findSubsequence_replicate (n : ℕ) :
    findSubsequence bracketedPasteEnd (List.replicate n 0x78 ++ bracketedPasteEnd) = some n := by
  induction n with
  | zero => decide
  | succ n ih =>
    have hnot : ∀ s : Bytes, ¬ bracketedPasteEnd <+: 0x78 :: s := by
      rintro s ⟨t, ht⟩
      exact absurd (List.cons.inj ht).1 (by decide)
    rw [List.replicate_succ, List.cons_append, findSubsequence,
      if_neg (by rw [List.isPrefixOf_iff_prefix]; exact hnot _), ih, Option.map_some]

/-- A paste of `n` letters. -/
theorem oversizedPaste_replicate {n : ℕ} (h : limit < n + 12) : OversizedPaste limit
    (bracketedPasteStart ++ (List.replicate n 0x78 ++ bracketedPasteEnd)) := by
  have hlen : (bracketedPasteStart ++ (List.replicate n 0x78 ++ bracketedPasteEnd)).length =
      n + 12 := by
    simp only [List.length_append, List.length_replicate, length_bracketedPasteStart,
      length_bracketedPasteEnd]
    omega
  have hdrop : ∀ s : Bytes, (bracketedPasteStart ++ s).drop 6 = s := fun s => rfl
  rw [oversizedPaste_iff, isCompleteTextBracketedPaste_iff, pasteEnvelope_eq_some_iff, hlen]
  refine ⟨h, ⟨List.prefix_append _ _, n, ?_, rfl⟩, ?_⟩
  · rw [hdrop, findSubsequence_replicate]
  · rw [← List.append_assoc, List.take_append_of_le_length (by simp; omega), List.take_of_length_le,
      hdrop]
    · exact decodeUtf8_replicate n
    · simp only [List.length_append, List.length_replicate, length_bracketedPasteStart]
      omega

/-- The paste begins directly behind the end of another one that its frame completes. That end was
forwarded, and the paste is rejected all the same. -/
theorem guard_rejects_behind_forwarded :
    let frames := [bracketedPasteStart, bracketedPasteEnd ++ bracketedPasteStart]
    let data := List.replicate (maxInputPayload - 11) 0x78 ++ bracketedPasteEnd
    let log := run (PasteLog.push maxInputPayload) {} frames
    Along (PasteLog.push maxInputPayload) (Connected maxInputPayload) {} frames ∧
      log.forwarded = [bracketedPasteStart ++ bracketedPasteEnd] ∧ log.lead = 6 ∧
      ¬ ((∃ size, .rejectPaste size ∈ (answer maxInputPayload log.guard data).1) ↔
        OversizedPaste maxInputPayload (log.guard.retained ++ data) ∧ log.lead = 0) := by
  intro frames data log
  have hguard : log.guard = held bracketedPasteStart false := by decide
  have hlead : log.lead = 6 := by decide
  have hwell : WellFormed maxInputPayload log.guard := by
    rw [hguard]
    exact .held ⟨by decide, by decide, by decide⟩ (by decide)
  have hlimit : 6 < maxInputPayload := by decide
  have hover : OversizedPaste maxInputPayload (log.guard.retained ++ data) := by
    rw [hguard, retained_held]
    exact oversizedPaste_replicate (by decide)
  have hrejects := ((answer_pushed hlimit hwell data).2.1.rejects_iff hlimit hwell).2
    ⟨hover, Or.inr (by rw [hguard, mixedPrefix_held])⟩
  refine ⟨by decide, by decide, hlead, fun hiff => ?_⟩
  have := (hiff.1 hrejects).2
  omega

end Zynk.Server
