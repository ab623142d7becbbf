import Zynk.Server.PasteScan

/-!
# The steps of the paste guard

`Pushed` says what a push can do, in terms of plain scans : without the cursor, the slices and the
fuel. A well-formed guard always answers, with one of these steps, and stays well formed
(`push_pushed`).
-/

namespace Zynk.Server

open Text Delimited

namespace RawPasteEnvelopeState

/-- The bytes the guard has taken in and not forwarded. -/
def retained : RawPasteEnvelopeState → Bytes
  | .idle => []
  | .startPrefix bytes _ | .paste bytes _ _ => bytes
  | .forwardedEscape continuation => continuation

/-- The guard that holds back `bytes`. -/
def held (bytes : Bytes) (mixedPrefix : Bool) : RawPasteEnvelopeState :=
  if bracketedPasteStart.isPrefixOf bytes then
    .paste bytes mixedPrefix (pasteEndOverlap bytes.length)
  else .startPrefix bytes mixedPrefix

@[simp] theorem retained_idle : retained .idle = [] :=
  rfl

@[simp] theorem retained_forwardedEscape (continuation : Bytes) :
    retained (.forwardedEscape continuation) = continuation :=
  rfl

@[simp] theorem retained_held (bytes : Bytes) (mixedPrefix : Bool) :
    (held bytes mixedPrefix).retained = bytes := by
  rw [held]
  split <;> rfl

/-- The mark of what the guard holds back. -/
def mixedPrefix : RawPasteEnvelopeState → Option Bool
  | .startPrefix _ mixedPrefix | .paste _ mixedPrefix _ => some mixedPrefix
  | .idle | .forwardedEscape _ => none

@[simp] theorem mixedPrefix_idle : mixedPrefix .idle = none :=
  rfl

@[simp] theorem mixedPrefix_forwardedEscape (continuation : Bytes) :
    mixedPrefix (.forwardedEscape continuation) = none :=
  rfl

@[simp] theorem mixedPrefix_held (bytes : Bytes) (mixed : Bool) :
    (held bytes mixed).mixedPrefix = some mixed := by
  rw [held]
  split <;> rfl

theorem held_inj {bytes bytes' : Bytes} {mixed mixed' : Bool}
    (h : held bytes mixed = held bytes' mixed') : bytes = bytes' ∧ mixed = mixed' := by
  have hbytes := congrArg retained h
  have hmixed := congrArg RawPasteEnvelopeState.mixedPrefix h
  rw [retained_held, retained_held] at hbytes
  rw [mixedPrefix_held, mixedPrefix_held, Option.some.injEq] at hmixed
  exact ⟨hbytes, hmixed⟩

@[simp] theorem held_ne_idle (bytes : Bytes) (mixedPrefix : Bool) :
    held bytes mixedPrefix ≠ .idle := by
  rw [held]
  split <;> simp

@[simp] theorem held_ne_forwardedEscape (bytes continuation : Bytes) (mixedPrefix : Bool) :
    held bytes mixedPrefix ≠ .forwardedEscape continuation := by
  rw [held]
  split <;> simp

end RawPasteEnvelopeState

open RawPasteEnvelopeState

/-- The states a guard reaches. What it holds back may become a paste and fits the limit, and
behind an Escape it retains a proper part of the introducer. -/
inductive WellFormed (limit : ℕ) : RawPasteEnvelopeState → Prop
  | idle : WellFormed limit .idle
  | held {bytes : Bytes} {mixedPrefix : Bool} (hheld : Held bytes) (hlen : bytes.length ≤ limit) :
    WellFormed limit (held bytes mixedPrefix)
  | forwardedEscape {continuation : Bytes} (hbegins : continuation <+: bracketedPasteStart.drop 1)
    (hlen : continuation.length < 5) : WellFormed limit (.forwardedEscape continuation)

/-- What a scan can do : forward everything, hold back everything, or do both. -/
inductive Scanned (priorMixedPrefix : Bool) (data : Bytes) :
    List RawPasteEnvelopeOutcome → RawPasteEnvelopeState → Prop
  | clear (h : heldFrom data = none) : Scanned priorMixedPrefix data [.forward data] .idle
  | keep (h : Held data) : Scanned priorMixedPrefix data [.hold] (held data priorMixedPrefix)
  | split {i : ℕ} (h : heldFrom data = some i) (hpos : 0 < i) :
    Scanned priorMixedPrefix data [.forward (data.take i), .hold] (held (data.drop i) true)

/-- The data break off what the guard retains : it cannot become a paste any more. -/
inductive Breaks (data : Bytes) : RawPasteEnvelopeState → Bool → Prop
  | startPrefix {bytes : Bytes} {mixedPrefix : Bool} (hheld : Held bytes)
    (h : agrees bracketedPasteStart (bytes ++ data) = false) :
    Breaks data (held bytes mixedPrefix) mixedPrefix
  | continuation {continuation : Bytes} (hbegins : continuation <+: bracketedPasteStart.drop 1)
    (h : agrees (bracketedPasteStart.drop 1) (continuation ++ data) = false) :
    Breaks data (.forwardedEscape continuation) false

/-- What a push can do. -/
inductive Pushed (limit : ℕ) : RawPasteEnvelopeState → Bytes → List RawPasteEnvelopeOutcome →
    RawPasteEnvelopeState → Prop
  | wait {state} (h : state ≠ .idle) : Pushed limit state [] [.hold] state
  | nothing : Pushed limit .idle [] [.forward []] .idle
  | escape : Pushed limit .idle [esc] [.forward [esc]] (.forwardedEscape [])
  | scan {data outcomes state'} (hne : data ≠ []) (hesc : data ≠ [esc])
    (hlen : data.length ≤ limit) (h : Scanned false data outcomes state') :
    Pushed limit .idle data outcomes state'
  | rejectFrame {data} (hlen : limit < data.length) (h : isCompleteTextBracketedPaste data = true) :
    Pushed limit .idle data [.rejectPaste data.length] .idle
  | refuseFrame {data size reason} (hlen : limit < data.length)
    (h : isCompleteTextBracketedPaste data = false) :
    Pushed limit .idle data [.disconnect size reason] .idle
  | keep {bytes mixedPrefix data} (hheld : Held bytes) (hopen : Held (bytes ++ data))
    (hlen : (bytes ++ data).length ≤ limit) :
    Pushed limit (held bytes mixedPrefix) data [.hold] (held (bytes ++ data) mixedPrefix)
  | complete {bytes mixedPrefix data}
    (he : pasteEnvelope (bytes ++ data) = some (bytes ++ data).length)
    (hlen : (bytes ++ data).length ≤ limit) :
    Pushed limit (held bytes mixedPrefix) data [.forward (bytes ++ data)] .idle
  | completeScan {bytes mixedPrefix data e outcomes state'} (hheld : Held bytes)
    (he : pasteEnvelope (bytes ++ data) = some e) (hlt : e < (bytes ++ data).length)
    (hlen : (bytes ++ data).length ≤ limit)
    (h : Scanned false ((bytes ++ data).drop e) outcomes state') :
    Pushed limit (held bytes mixedPrefix) data (.forward ((bytes ++ data).take e) :: outcomes)
      state'
  | reject {bytes data} (hlen : limit < (bytes ++ data).length)
    (h : isCompleteTextBracketedPaste (bytes ++ data) = true) :
    Pushed limit (held bytes false) data [.rejectPaste (bytes ++ data).length] .idle
  | refuse {bytes mixedPrefix data size reason} (hlen : limit < (bytes ++ data).length)
    (hstart : bracketedPasteStart <+: bytes ++ data)
    (h : ¬ (mixedPrefix = false ∧ isCompleteTextBracketedPaste (bytes ++ data) = true)) :
    Pushed limit (held bytes mixedPrefix) data [.disconnect size reason] .idle
  | release {state data mixedPrefix outcomes state'} (hbreaks : Breaks data state mixedPrefix)
    (hlen : (state.retained ++ data).length ≤ limit)
    (h : Scanned mixedPrefix (state.retained ++ data) outcomes state') :
    Pushed limit state data outcomes state'
  | releaseCut {state data mixedPrefix outcomes state₁ outcomes' state'}
    (hbreaks : Breaks data state mixedPrefix) (hdata : data.length ≤ limit)
    (hlen : limit < (state.retained ++ data).length)
    (h : Scanned mixedPrefix ((state.retained ++ data).take limit) outcomes state₁)
    (hrest : Pushed limit state₁ ((state.retained ++ data).drop limit) outcomes' state') :
    Pushed limit state data (outcomes ++ outcomes') state'
  | refuseBreak {state data mixedPrefix size reason} (hbreaks : Breaks data state mixedPrefix)
    (hstate : ∀ continuation, state ≠ .forwardedEscape continuation) (hdata : limit < data.length) :
    Pushed limit state data [.disconnect size reason] .idle
  | refuseEscape {continuation data size reason} (hdata : limit < data.length) :
    Pushed limit (.forwardedEscape continuation) data [.disconnect size reason] .idle
  | extend {continuation data} (hne : data ≠ [])
    (hbegins : continuation ++ data <+: bracketedPasteStart.drop 1)
    (hlen : (continuation ++ data).length < 5) :
    Pushed limit (.forwardedEscape continuation) data [.hold]
      (.forwardedEscape (continuation ++ data))
  | extended {continuation data size reason} (hdata : data.length ≤ limit)
    (hbegins : bracketedPasteStart.drop 1 <+: continuation ++ data) :
    Pushed limit (.forwardedEscape continuation) data [.disconnect size reason] .idle

/-! ## The parts of a push -/

variable {data : Bytes} {state : RawPasteEnvelopeState}

theorem Scanned.wellFormed {limit : ℕ} {priorMixedPrefix : Bool}
    {outcomes : List RawPasteEnvelopeOutcome} (h : Scanned priorMixedPrefix data outcomes state)
    (hlen : data.length ≤ limit) : WellFormed limit state := by
  cases h with
  | clear _ => exact .idle
  | keep h => exact .held h hlen
  | split h _ =>
    refine .held (heldFrom_spec h).1 ?_
    rw [List.length_drop]
    omega

/-- The beginning that is broken off : it is shorter than a delimiter. -/
theorem Breaks.length_lt {mixedPrefix : Bool} (h : Breaks data state mixedPrefix) :
    state.retained.length < 6 := by
  cases h with
  | @startPrefix bytes mixedPrefix hheld h =>
    rw [retained_held]
    by_contra hge
    rcases agrees_iff.1 hheld.2.1 with hp | hp
    · rw [agrees_iff.2 (Or.inl (hp.trans (List.prefix_append _ _)))] at h
      cases h
    · have heq := hp.eq_of_length (Nat.le_antisymm hp.length_le (by
        rw [length_bracketedPasteStart]
        omega))
      rw [agrees_iff.2 (Or.inl (heq ▸ List.prefix_append _ _))] at h
      cases h
  | continuation hbegins h =>
    have := hbegins.length_le
    rw [List.length_drop, length_bracketedPasteStart] at this
    rw [retained_forwardedEscape]
    omega

theorem Breaks.ne_nil {mixedPrefix : Bool} (h : Breaks data state mixedPrefix) :
    state.retained ++ data ≠ [] := by
  intro hnil
  cases h with
  | startPrefix _ h =>
    rw [retained_held] at hnil
    rw [hnil, agrees_iff.2 (Or.inr List.nil_prefix)] at h
    cases h
  | continuation _ h =>
    rw [retained_forwardedEscape] at hnil
    rw [hnil, agrees_iff.2 (Or.inr List.nil_prefix)] at h
    cases h

/-- A limit that leaves the expected bytes alone does not matter. -/
theorem agrees_take {expected bytes : Bytes} {n : ℕ} (hn : expected.length ≤ n) :
    agrees expected (bytes.take n) = agrees expected bytes := by
  rcases Nat.le_total bytes.length n with hle | hle
  · rw [List.take_of_length_le hle]
  · have hlen : (bytes.take n).length = n := by rw [List.length_take, Nat.min_eq_left hle]
    rw [Bool.eq_iff_iff, agrees, agrees, hlen, Nat.min_eq_right hn,
      Nat.min_eq_right (Nat.le_trans hn hle), List.take_length, List.isPrefixOf_iff_prefix,
      List.isPrefixOf_iff_prefix]
    exact ⟨fun h => h.trans (List.take_prefix _ _),
      fun h => List.prefix_of_prefix_length_le h (List.take_prefix _ _) (by omega)⟩

/-- What is held back of a release starts behind what was retained. -/
theorem Breaks.le_of_heldFrom {mixedPrefix : Bool} (h : Breaks data state mixedPrefix) {n i : ℕ}
    (hn : 6 ≤ n) (hi : heldFrom ((state.retained ++ data).take n) = some i) :
    state.retained.length ≤ i := by
  by_contra hlt
  have hshort := h.length_lt
  obtain ⟨hheld', hlen, -⟩ := heldFrom_spec hi
  have hhead := hheld'.head
  rw [List.head?_eq_getElem?, List.getElem?_drop, List.getElem?_take_of_lt (by omega),
    List.getElem?_append_left (by omega)] at hhead
  cases h with
  | @startPrefix bytes mixedPrefix hheld h =>
    rw [retained_held] at hhead hlt hshort hheld'
    have hp : bytes <+: bracketedPasteStart := by
      refine (agrees_iff.1 hheld.2.1).resolve_left fun hp => ?_
      have := hp.length_le
      rw [length_bracketedPasteStart] at this
      omega
    obtain ⟨t, ht⟩ := hp
    rw [Nat.add_zero] at hhead
    obtain rfl : i = 0 := eq_zero_of_start_eq_esc (by omega)
      (by rw [← ht, List.getElem?_append_left (by omega), hhead])
    rw [List.drop_zero] at hheld'
    have hagrees := hheld'.2.1
    rw [agrees_take (by rwa [length_bracketedPasteStart]), h] at hagrees
    cases hagrees
  | @continuation continuation hbegins h =>
    rw [retained_forwardedEscape] at hhead hlt hshort
    obtain ⟨t, ht⟩ := hbegins
    have hescape : bracketedPasteStart[1 + i]? = some esc := by
      rw [← List.getElem?_drop, ← ht, List.getElem?_append_left (by omega)]
      simpa using hhead
    have hlen' := congrArg List.length ht
    rw [List.length_append, List.length_drop, length_bracketedPasteStart] at hlen'
    have := eq_zero_of_start_eq_esc (by omega) hescape
    omega

theorem forwardRawInput_of_le {limit : ℕ} (h : data.length ≤ limit) :
    forwardRawInput limit data = [.forward data] :=
  if_pos h

namespace RawPasteEnvelopeGuard

theorem scanIdle_scanned {limit : ℕ} {data : Bytes} (definitive priorMixedPrefix : Bool)
    (hne : data ≠ []) (hlen : data.length ≤ limit)
    (hesc : ¬ (definitive = true ∧ data = [esc])) :
    Scanned priorMixedPrefix data (scanIdle limit data definitive priorMixedPrefix).1
      (scanIdle limit data definitive priorMixedPrefix).2 := by
  have hempty : data.isEmpty = false := by simpa using hne
  have hlone : (definitive && data == [esc]) = false := by
    rw [Bool.eq_false_iff, Ne, Bool.and_eq_true, beq_iff_eq]
    exact hesc
  have htake : ∀ i, forwardRawInput limit (data.take i) = [.forward (data.take i)] := fun i =>
    forwardRawInput_of_le (by rw [List.length_take]; omega)
  rw [scanIdle, hempty, hlone, if_neg Bool.false_ne_true, if_neg Bool.false_ne_true]
  split
  · rename_i i hi
    have hfrom : heldFrom data = some i := by rw [heldFrom, hi, Option.some_or]
    have hstart : bracketedPasteStart.isPrefixOf (data.drop i) = true := by
      rw [incompleteBracketedPasteStart_eq] at hi
      exact List.isPrefixOf_iff_prefix.2 (unclosed_spec bracketedPasteStart_ne_nil hi).1
    have hstate : ∀ mixedPrefix, RawPasteEnvelopeState.paste (data.drop i) mixedPrefix
        (pasteEndOverlap (data.length - i)) = held (data.drop i) mixedPrefix := by
      intro mixedPrefix
      rw [held, if_pos hstart, List.length_drop]
    rw [hstate]
    rcases Nat.eq_zero_or_pos i with rfl | hpos
    · have hheld := (heldFrom_spec hfrom).1
      rw [List.drop_zero] at hheld ⊢
      simpa using Scanned.keep hheld
    · simpa [hpos, htake] using Scanned.split hfrom hpos
  · rename_i hi
    split
    · rename_i n hn
      have hfrom : heldFrom data = some (data.length - n) := by
        rw [heldFrom, hi, hn, Option.none_or, Option.map_some]
      obtain ⟨hpos, hlt, hsuffix⟩ := trailing_eq_some hn
      have hdrop : (data.drop (data.length - n)).length < 6 := by
        rw [List.length_drop]
        omega
      have hstate : ∀ mixedPrefix, RawPasteEnvelopeState.startPrefix
          (data.drop (data.length - n)) mixedPrefix =
            held (data.drop (data.length - n)) mixedPrefix := by
        intro mixedPrefix
        rw [held, if_neg]
        intro hp
        have := (List.isPrefixOf_iff_prefix.1 hp).length_le
        rw [length_bracketedPasteStart] at this
        omega
      simp only [hstate]
      rcases Nat.eq_zero_or_pos (data.length - n) with hzero | hpos'
      · have hheld := (heldFrom_spec hfrom).1
        rw [hzero, List.drop_zero] at hheld ⊢
        simpa using Scanned.keep hheld
      · simpa [hpos', htake] using Scanned.split hfrom hpos'
    · rename_i hn
      have hfrom : heldFrom data = none := by
        rw [heldFrom, hi, hn, Option.none_or, Option.map_none]
      simpa [forwardRawInput_of_le hlen] using Scanned.clear hfrom

variable {limit : ℕ} {data : Bytes} {mixedPrefix : Bool}

/-- A paste that fits : it is still open, it is complete, or more is behind it. -/
theorem resolvePaste_pushed {bytes : Bytes} {cursor : ℕ} (hheld : Held bytes) (hne : data ≠ [])
    (hstart : bracketedPasteStart <+: bytes ++ data) (hlen : (bytes ++ data).length ≤ limit)
    (hcursor : findPasteEnd (bytes ++ data) cursor = findPasteEnd (bytes ++ data) 6) :
    Pushed limit (held bytes mixedPrefix) data
        (resolvePaste limit (bytes ++ data) mixedPrefix cursor).1
        (resolvePaste limit (bytes ++ data) mixedPrefix cursor).2 ∧
      WellFormed limit (resolvePaste limit (bytes ++ data) mixedPrefix cursor).2 := by
  have henvelope : pasteEnvelope (bytes ++ data) =
      (findPasteEnd (bytes ++ data) 6).map (· + 6) :=
    if_pos (List.isPrefixOf_iff_prefix.2 hstart)
  rw [resolvePaste, hcursor]
  rcases hend : findPasteEnd (bytes ++ data) 6 with _ | stop
  · have hopen : Held (bytes ++ data) :=
      ⟨by simp [hne], agrees_iff.2 (Or.inl hstart), by rw [henvelope, hend, Option.map_none]⟩
    have hstate : RawPasteEnvelopeState.paste (bytes ++ data) mixedPrefix
        (pasteEndOverlap (bytes ++ data).length) = held (bytes ++ data) mixedPrefix :=
      (if_pos (List.isPrefixOf_iff_prefix.2 hstart)).symm
    simp only [if_neg (Nat.not_lt.2 hlen), hstate]
    exact ⟨.keep hheld hopen hlen, .held hopen hlen⟩
  · rw [hend, Option.map_some] at henvelope
    simp only [length_bracketedPasteEnd]
    by_cases hall : stop + 6 = (bytes ++ data).length
    · rw [if_pos hall]
      exact ⟨.complete (by rw [henvelope, hall]) hlen, .idle⟩
    · rw [if_neg hall]
      have hle := (pasteEnvelope_le henvelope).2
      have hscanned := @scanIdle_scanned limit ((bytes ++ data).drop (stop + 6)) false false
        (by rw [← List.length_pos_iff, List.length_drop]; omega)
        (by rw [List.length_drop]; omega) (by simp)
      exact ⟨.completeScan hheld henvelope (by omega) hlen hscanned,
        hscanned.wellFormed (by rw [List.length_drop]; omega)⟩

/-- A paste that exceeds the limit. -/
theorem resolveOversizedPaste_pushed {bytes : Bytes} {cursor : ℕ}
    (hstart : bracketedPasteStart <+: bytes ++ data) (hlen : limit < (bytes ++ data).length)
    (hcursor : findPasteEnd (bytes ++ data) cursor = findPasteEnd (bytes ++ data) 6) :
    Pushed limit (held bytes mixedPrefix) data
      (resolveOversizedPaste ⟨bytes, data⟩ mixedPrefix cursor) .idle := by
  have hbytes : BorrowedPasteCandidate.bytes ⟨bytes, data⟩ = bytes ++ data := rfl
  have henvelope : pasteEnvelope (bytes ++ data) =
      (findPasteEnd (bytes ++ data) 6).map (· + 6) :=
    if_pos (List.isPrefixOf_iff_prefix.2 hstart)
  rw [resolveOversizedPaste, BorrowedPasteCandidate.findPasteEndInCandidate_eq, hbytes, hcursor]
  rcases hend : findPasteEnd (bytes ++ data) 6 with _ | stop
  · refine .refuse hlen hstart ?_
    rw [isCompleteTextBracketedPaste_iff, henvelope, hend]
    simp
  · have hcomplete : isCompleteTextBracketedPaste (bytes ++ data) = true ↔
        stop + 6 = (bytes ++ data).length ∧
          splitUtf8IsValid (BorrowedPasteCandidate.payloadSlices ⟨bytes, data⟩ 6 stop).1
            (BorrowedPasteCandidate.payloadSlices ⟨bytes, data⟩ 6 stop).2 = true := by
      rw [isCompleteTextBracketedPaste_iff, henvelope, hend, splitUtf8IsValid_eq,
        BorrowedPasteCandidate.payloadSlices_append, hbytes, Option.map_some, Option.some.injEq]
      refine and_congr_right fun heq => ?_
      rw [← heq, Nat.add_sub_cancel]
    simp only [length_bracketedPasteStart, length_bracketedPasteEnd,
      BorrowedPasteCandidate.len_eq, hbytes]
    split
    · rename_i hexact
      rw [Bool.and_eq_true, Bool.and_eq_true, Bool.not_eq_true', beq_iff_eq, and_assoc,
        ← hcomplete] at hexact
      obtain ⟨rfl, hexact⟩ := hexact
      exact .reject hlen hexact
    · rename_i hexact
      rw [Bool.and_eq_true, Bool.and_eq_true, Bool.not_eq_true', beq_iff_eq, and_assoc,
        ← hcomplete] at hexact
      exact .refuse hlen hstart hexact

/-- A release : of the whole frame, or of what fits, and then the rest is pushed again. -/
theorem releaseSpeculativePrefix_pushed (hlimit : 6 < limit) {state : RawPasteEnvelopeState}
    (hbreaks : Breaks data state mixedPrefix) (hne : data ≠ [])
    {again : RawPasteEnvelopeState → Bytes →
      Option (List RawPasteEnvelopeOutcome × RawPasteEnvelopeState)}
    (hagain : ∀ state rest, WellFormed limit state → rest.length < data.length →
      ∃ outcomes state', again state rest = some (outcomes, state') ∧
        Pushed limit state rest outcomes state' ∧ WellFormed limit state')
    (hdata : data.length ≤ limit) (offset : ℕ) (reason : String) : ∃ outcomes state',
      releaseSpeculativePrefix limit again state.retained data mixedPrefix offset reason =
        some (outcomes, state') ∧
      Pushed limit state data outcomes state' ∧ WellFormed limit state' := by
  have hshort := hbreaks.length_lt
  have hpos := List.length_pos_of_ne_nil hne
  have hpiece : state.retained ++ data.take (min data.length (limit - state.retained.length)) =
      (state.retained ++ data).take limit := by
    have hall : state.retained.take limit = state.retained := List.take_of_length_le (by omega)
    rw [List.take_append, hall, Nat.min_comm, ← List.take_eq_take_min]
  have hscanned := @scanIdle_scanned limit ((state.retained ++ data).take limit) false mixedPrefix
    (by rw [← List.length_pos_iff, List.length_take, List.length_append]; omega)
    (by rw [List.length_take]; omega) (by simp)
  rw [releaseSpeculativePrefix, if_neg (by omega), if_neg (by omega)]
  simp only [hpiece]
  split
  · rename_i hcut
    have hrest : data.drop (min data.length (limit - state.retained.length)) =
        (state.retained ++ data).drop limit := by
      have hnone : state.retained.drop limit = [] := List.drop_eq_nil_of_le (by omega)
      rw [List.drop_append, hnone, List.nil_append, Nat.min_eq_right (by omega)]
    rw [hrest]
    obtain ⟨outcomes, state', heq, hpushed, hwell⟩ := hagain _ ((state.retained ++ data).drop limit)
      (hscanned.wellFormed (by rw [List.length_take]; omega))
      (by rw [List.length_drop, List.length_append]; omega)
    refine ⟨_, state', by rw [heq, Option.map_some], ?_, hwell⟩
    exact .releaseCut hbreaks hdata (by rw [List.length_append]; omega) hscanned hpushed
  · rename_i hfit
    have hle : (state.retained ++ data).length ≤ limit := by
      rw [List.length_append]
      omega
    rw [List.take_of_length_le hle] at hscanned ⊢
    exact ⟨_, _, rfl, .release hbreaks hle hscanned, hscanned.wellFormed hle⟩

/-- The test of the source for the bytes that are there of a delimiter. -/
theorem startsWith_take (retained data expected : Bytes) :
    BorrowedPasteCandidate.startsWith ⟨retained, data⟩
        (expected.take (min (BorrowedPasteCandidate.len ⟨retained, data⟩) expected.length)) =
      agrees expected (retained ++ data) := by
  rw [BorrowedPasteCandidate.startsWith_eq, BorrowedPasteCandidate.len_eq]
  rfl

theorem push_held (hlimit : 6 < limit) {fuel : ℕ} {bytes : Bytes} (hheld : Held bytes)
    (hne : data ≠ []) (hagain : ∀ state rest, WellFormed limit state → rest.length < data.length →
      ∃ outcomes state', push limit fuel state rest = some (outcomes, state') ∧
        Pushed limit state rest outcomes state' ∧ WellFormed limit state') :
    ∃ outcomes state', push limit (fuel + 1) (held bytes mixedPrefix) data =
        some (outcomes, state') ∧
      Pushed limit (held bytes mixedPrefix) data outcomes state' ∧ WellFormed limit state' := by
  have hempty : data.isEmpty = false := by simpa using hne
  by_cases hstart : bracketedPasteStart <+: bytes
  · have hstart' : bracketedPasteStart <+: bytes ++ data :=
      hstart.trans (List.prefix_append _ _)
    have hcursor := findPasteEnd_pasteEndOverlap
      ((pasteEnvelope_eq_none_of_isPrefix hstart).1 hheld.2.2) data
    have hstate : held bytes mixedPrefix =
        .paste bytes mixedPrefix (pasteEndOverlap bytes.length) :=
      if_pos (List.isPrefixOf_iff_prefix.2 hstart)
    rw [hstate, push, hempty, Bool.false_and, if_neg Bool.false_ne_true, ← hstate]
    simp only [BorrowedPasteCandidate.len, ← List.length_append]
    by_cases hlen : limit < (bytes ++ data).length
    · rw [if_pos hlen]
      exact ⟨_, _, rfl, resolveOversizedPaste_pushed hstart' hlen hcursor, .idle⟩
    · rw [if_neg hlen]
      exact ⟨_, _, rfl, resolvePaste_pushed hheld hne hstart' (Nat.not_lt.1 hlen) hcursor⟩
  · have hstate : held bytes mixedPrefix = .startPrefix bytes mixedPrefix :=
      if_neg (by rwa [List.isPrefixOf_iff_prefix])
    rw [hstate, push, hempty, Bool.false_and, if_neg Bool.false_ne_true, ← hstate]
    simp only [startsWith_take]
    simp only [BorrowedPasteCandidate.len, ← List.length_append, length_bracketedPasteStart]
    rcases hagrees : agrees bracketedPasteStart (bytes ++ data)
    · have hbreaks : Breaks data (held bytes mixedPrefix) mixedPrefix := .startPrefix hheld hagrees
      rw [Bool.not_false, if_pos rfl, releaseFalseStartPrefix]
      by_cases hdata : limit < data.length
      · rw [releaseSpeculativePrefix, if_pos hdata]
        refine ⟨_, _, rfl, .refuseBreak hbreaks (fun continuation h => ?_) hdata, .idle⟩
        rw [hstate] at h
        cases h
      · have := releaseSpeculativePrefix_pushed hlimit hbreaks hne hagain (Nat.not_lt.1 hdata) 0
          "oversized input did not complete a pending bracketed-paste prefix"
        rwa [retained_held] at this
    · rw [Bool.not_true, if_neg Bool.false_ne_true]
      by_cases hshort : (bytes ++ data).length < 6
      · have hopen : Held (bytes ++ data) :=
          ⟨by simp [hne], hagrees, pasteEnvelope_eq_none_of_length hshort⟩
        have hstate' : RawPasteEnvelopeState.startPrefix (bytes ++ data) mixedPrefix =
            held (bytes ++ data) mixedPrefix := by
          rw [held, if_neg]
          intro hp
          have := (List.isPrefixOf_iff_prefix.1 hp).length_le
          rw [length_bracketedPasteStart] at this
          omega
        rw [if_pos hshort, hstate']
        exact ⟨_, _, rfl, .keep hheld hopen (by omega), .held hopen (by omega)⟩
      · have hstart' : bracketedPasteStart <+: bytes ++ data := by
          rcases agrees_iff.1 hagrees with hp | hp
          · exact hp
          · have heq := hp.eq_of_length (Nat.le_antisymm hp.length_le
              (by rw [length_bracketedPasteStart]; omega))
            exact heq ▸ List.prefix_rfl
        rw [if_neg hshort]
        by_cases hlen : limit < (bytes ++ data).length
        · rw [if_pos hlen]
          exact ⟨_, _, rfl, resolveOversizedPaste_pushed hstart' hlen rfl, .idle⟩
        · rw [if_neg hlen]
          exact ⟨_, _, rfl, resolvePaste_pushed hheld hne hstart' (Nat.not_lt.1 hlen) rfl⟩

theorem push_forwardedEscape (hlimit : 6 < limit) {fuel : ℕ} {continuation : Bytes}
    (hbegins : continuation <+: bracketedPasteStart.drop 1) (hne : data ≠ [])
    (hagain : ∀ state rest, WellFormed limit state → rest.length < data.length →
      ∃ outcomes state', push limit fuel state rest = some (outcomes, state') ∧
        Pushed limit state rest outcomes state' ∧ WellFormed limit state') :
    ∃ outcomes state', push limit (fuel + 1) (.forwardedEscape continuation) data =
        some (outcomes, state') ∧
      Pushed limit (.forwardedEscape continuation) data outcomes state' ∧
      WellFormed limit state' := by
  have hempty : data.isEmpty = false := by simpa using hne
  have hfive : (bracketedPasteStart.drop 1).length = 5 := by decide
  rw [push, hempty, Bool.false_and, if_neg Bool.false_ne_true]
  simp only [startsWith_take]
  simp only [BorrowedPasteCandidate.len, ← List.length_append, hfive]
  by_cases hdata : limit < data.length
  · rw [if_pos hdata]
    exact ⟨_, _, rfl, .refuseEscape hdata, .idle⟩
  · rw [if_neg hdata]
    rcases hagrees : agrees (bracketedPasteStart.drop 1) (continuation ++ data)
    · rw [Bool.not_false, if_pos rfl]
      exact releaseSpeculativePrefix_pushed hlimit (.continuation hbegins hagrees) hne hagain
        (Nat.not_lt.1 hdata) 1 "oversized input followed a forwarded Escape"
    · rw [Bool.not_true, if_neg Bool.false_ne_true]
      by_cases hshort : (continuation ++ data).length < 5
      · have hp : continuation ++ data <+: bracketedPasteStart.drop 1 := by
          refine (agrees_iff.1 hagrees).resolve_left fun hp => ?_
          have := hp.length_le
          omega
        rw [if_pos hshort]
        exact ⟨_, _, rfl, .extend hne hp hshort, .forwardedEscape hp hshort⟩
      · have hp : bracketedPasteStart.drop 1 <+: continuation ++ data := by
          rcases agrees_iff.1 hagrees with hp | hp
          · exact hp
          · have heq := hp.eq_of_length (Nat.le_antisymm hp.length_le (by omega))
            exact heq ▸ List.prefix_rfl
        rw [if_neg hshort]
        exact ⟨_, _, rfl, .extended (Nat.not_lt.1 hdata) hp, .idle⟩

/-- A well-formed guard answers every push, by one of the steps, and stays well formed. -/
theorem push_pushed (hlimit : 6 < limit) {fuel : ℕ} {state : RawPasteEnvelopeState}
    (hwell : WellFormed limit state) (hfuel : data.length < fuel) :
    ∃ outcomes state', push limit fuel state data = some (outcomes, state') ∧
      Pushed limit state data outcomes state' ∧ WellFormed limit state' := by
  induction fuel generalizing state data with
  | zero => omega
  | succ fuel ih =>
    have hagain : ∀ state rest, WellFormed limit state → rest.length < data.length →
        ∃ outcomes state', push limit fuel state rest = some (outcomes, state') ∧
          Pushed limit state rest outcomes state' ∧ WellFormed limit state' :=
      fun state rest hwell hrest => ih hwell (by omega)
    by_cases hidle : state = .idle
    · subst hidle
      rw [push]
      simp only [bne_self_eq_false, Bool.and_false, Bool.false_eq_true, if_false]
      by_cases hlen : limit < data.length
      · rw [if_pos hlen]
        rcases hcomplete : isCompleteTextBracketedPaste data
        · rw [if_neg Bool.false_ne_true]
          exact ⟨_, _, rfl, .refuseFrame hlen hcomplete, .idle⟩
        · rw [if_pos rfl]
          exact ⟨_, _, rfl, .rejectFrame hlen hcomplete, .idle⟩
      · rw [if_neg hlen]
        have hle := Nat.not_lt.1 hlen
        by_cases hnil : data = []
        · subst hnil
          exact ⟨_, _, rfl, .nothing, .idle⟩
        by_cases hesc : data = [esc]
        · subst hesc
          exact ⟨_, _, rfl, .escape, .forwardedEscape (List.nil_prefix) (by decide)⟩
        have hscanned := scanIdle_scanned true false hnil hle (by simp [hesc])
        exact ⟨_, _, rfl, .scan hnil hesc hle hscanned, hscanned.wellFormed hle⟩
    by_cases hnil : data = []
    · subst hnil
      refine ⟨[.hold], state, ?_, .wait hidle, hwell⟩
      rcases state with _ | _ | _ | _
      · exact absurd rfl hidle
      all_goals rfl
    cases hwell with
    | idle => exact absurd rfl hidle
    | held hheld hlen => exact push_held hlimit hheld hnil hagain
    | forwardedEscape hbegins hlen => exact push_forwardedEscape hlimit hbegins hnil hagain

end RawPasteEnvelopeGuard

end Zynk.Server
