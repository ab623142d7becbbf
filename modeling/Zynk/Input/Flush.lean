import Zynk.Input.Chunking

/-!
# What a flush leaves

A framer that is not fed between two flushes gives its buffer up. The first flush drops what is in
it, or gives it out, or holds it once more for a reply that is awaited (`flushPending_cases`), and
the second one does not hold it again (`flushPending_held`). Three kinds of beginnings are held for
good (`Kept`).

A framer that drops the tail of a reply or of a mouse report drops 128 bytes at most
(`tail_bounded`).
-/

namespace Zynk

open Text Resumable

/-- The tail of a CSI reply or of a mouse report. -/
def ControlStringFamily.IsTail (family : ControlStringFamily) : Prop :=
  family = .hostReplyCsi ∨ family = .orphanedSgrMouseTail

namespace RawInputByteFramer

/-! ## After the loop -/

/-- The loop has nothing to do. -/
def Waits (f : RawInputByteFramer) : Prop :=
  (f.loneEscapeRecentlyFlushed = true ∧
      startsWithIncompleteOrphanedSgrMouseTail f.buffer = true) ∨
    (f.loneEscapeRecentlyFlushed = false ∧
      (f.splitCoalescedEscape && (ascii "\x1b\x1b").isPrefixOf f.buffer) = false ∧
      extractOneEvent f.buffer = .ok none)

/-- A framer between two calls. -/
structure Settled (f : RawInputByteFramer) : Prop where
  waits : f.discardUntil = none → f.Waits
  empty : ∀ family, f.discardUntil = some family → family.IsTail → f.buffer = []
  count_le : ∀ family, f.discardUntil = some family → family.IsTail →
    f.discardedTailBytes ≤ maxDiscardedControlTailBytes
  count_lt : f.discardUntil = some .hostReplyCsi →
    f.discardedTailBytes < maxDiscardedControlTailBytes

theorem waits_nil {f : RawInputByteFramer} (h : f.buffer = []) : f.Waits := by
  unfold Waits
  rw [h]
  cases f.loneEscapeRecentlyFlushed with
  | true => exact Or.inl ⟨rfl, rfl⟩
  | false => exact Or.inr ⟨rfl, Bool.and_false _, rfl⟩

theorem settled_nil {f : RawInputByteFramer} (hbuffer : f.buffer = [])
    (hcount : f.discardUntil = none ∨ f.discardedTailBytes < maxDiscardedControlTailBytes) :
    f.Settled := by
  refine ⟨fun _ => waits_nil hbuffer, fun _ _ _ => hbuffer, fun family hd _ => ?_, fun hd => ?_⟩
  · rcases hcount with hnone | hlt
    · rw [hnone] at hd
      cases hd
    · exact hlt.le
  · rcases hcount with hnone | hlt
    · rw [hnone] at hd
      cases hd
    · exact hlt

theorem iterate_waits {f : RawInputByteFramer} (hp : f.panicked = false)
    (hd : f.discardUntil = none) (h : f.Waits) : f.iterate = .stop f := by
  rcases h with ⟨hflushed, hincomplete⟩ | ⟨hflushed, hsplit, hnone⟩
  · rw [iterate_flushed hp hflushed, if_pos hincomplete]
  · rw [iterate_eq_iterateRest hp hflushed]
    simp only [iterateRest, hd, iterateEvent, hsplit, hnone, Bool.false_eq_true, if_false]

/-- A settled framer that discards nothing has no chunk. -/
theorem drain_settled {f : RawInputByteFramer} (hp : f.panicked = false)
    (hd : f.discardUntil = none) (h : f.Settled) : f.drainAvailableChunks = ([], f) := by
  rw [drainAvailableChunks, drain_eq iterate_size_lt, iterate_waits hp hd (h.waits hd)]

/-- A framer that discards nothing, or a control string, has no tail. -/
theorem settled_of_not_tail {f : RawInputByteFramer}
    (htail : ∀ family, f.discardUntil = some family → ¬ family.IsTail)
    (hwaits : f.discardUntil = none → f.Waits) : f.Settled :=
  ⟨hwaits, fun family hd h => absurd h (htail family hd),
    fun family hd h => absurd h (htail family hd),
    fun hd => absurd (Or.inl rfl) (htail _ hd)⟩

theorem iterateEvent_stop_waits {f f' : RawInputByteFramer}
    (hflushed : f.loneEscapeRecentlyFlushed = false) (hp : f'.panicked = false)
    (h : f.iterateEvent = .stop f') : f' = f ∧ f.Waits := by
  unfold iterateEvent at h
  split at h
  · cases h
  · rename_i hsplit
    cases he : extractOneEvent f.buffer with
    | error p =>
      simp only [he] at h
      cases h
      cases hp
    | ok result =>
      cases result with
      | some found =>
        simp only [he] at h
        cases h
      | none =>
        simp only [he] at h
        cases h
        exact ⟨rfl, Or.inr ⟨hflushed, Bool.eq_false_iff.2 hsplit, he⟩⟩

theorem iterateRest_stop_settled {f f' : RawInputByteFramer}
    (hflushed : f.loneEscapeRecentlyFlushed = false) (hp : f'.panicked = false)
    (h : f.iterateRest = .stop f') : f'.Settled := by
  have htail {skip final : UInt8 → Bool}
      (h : f.iterateTail (discardTail skip final f.buffer f.discardedTailBytes) = .stop f') :
      f'.Settled := by
    rcases hd : discardTail skip final f.buffer f.discardedTailBytes with ⟨done, rest, count⟩
    rw [hd] at h
    cases done with
    | true => cases h
    | false =>
      obtain ⟨rfl, -, hlt, -⟩ := discardTail_false hd
      cases h
      exact settled_nil rfl (Or.inr hlt)
  have hstring {family : ControlStringFamily} (hd : f.discardUntil = some family)
      (hfamily : ¬ family.IsTail) (h : f.iterateString family = .stop f') : f'.Settled := by
    obtain rfl := iterateString_stop h
    refine settled_of_not_tail (fun family' hd' => ?_) fun hnone => ?_
    · obtain rfl := Option.some.inj (hd.symm.trans hd')
      exact hfamily
    · rw [hd] at hnone
      cases hnone
  unfold iterateRest at h
  cases hd : f.discardUntil with
  | none =>
    simp only [hd] at h
    obtain ⟨rfl, hwaits⟩ := iterateEvent_stop_waits hflushed hp h
    refine settled_of_not_tail (fun family hfamily => ?_) fun _ => hwaits
    rw [hd] at hfamily
    cases hfamily
  | some family =>
    simp only [hd] at h
    cases family with
    | orphanedSgrMouseTail => exact htail h
    | hostReplyCsi => exact htail h
    | osc => exact hstring hd (by rintro (h | h) <;> cases h) h
    | stTerminated => exact hstring hd (by rintro (h | h) <;> cases h) h

theorem iterate_stop_settled {f f' : RawInputByteFramer} (hf : f.Coherent)
    (hp' : f'.panicked = false) (h : f.iterate = .stop f') : f'.Settled := by
  cases hp : f.panicked with
  | true =>
    rw [iterate_panicked hp] at h
    cases h
    rw [hp] at hp'
    cases hp'
  | false =>
    cases hflushed : f.loneEscapeRecentlyFlushed with
    | false =>
      rw [iterate_eq_iterateRest hp hflushed] at h
      exact iterateRest_stop_settled hflushed hp' h
    | true =>
      rw [iterate_flushed hp hflushed] at h
      split at h
      · rename_i hincomplete
        cases h
        refine settled_of_not_tail (fun family hfamily => ?_) fun _ =>
          Or.inl ⟨hflushed, hincomplete⟩
        rw [hf hflushed] at hfamily
        cases hfamily
      · split at h
        · cases h
        · rw [iterate_eq_iterateRest (by exact hp) rfl] at h
          exact iterateRest_stop_settled rfl hp' h

theorem drain_isSettled {f : RawInputByteFramer} (hf : f.Coherent)
    (hp : f.drainAvailableChunks.2.panicked = false) : f.drainAvailableChunks.2.Settled := by
  refine drain_induction iterate_size_lt
    (I := fun g _ g' => g.Coherent → g'.panicked = false → g'.Settled) ?_ ?_ f hf hp
  · intro g g' hstop hg hp'
    exact iterate_stop_settled hg hp' hstop
  · intro g out g' outs g'' hnext ih _ hp'
    refine ih (fun htrue => ?_) hp'
    rw [(iterate_turn hnext).flushed] at htrue
    cases htrue

/-! ## The flush -/

/-- What a flush keeps : the beginning of a paste, of a colour reply, or of a character, perhaps
behind an escape. -/
def Kept (x : Bytes) : Prop :=
  (bracketedPasteStart.isPrefixOf x = true ∧ findSubsequence bracketedPasteEnd x = none) ∨
    startsWithIncompleteDefaultColorResponse x = true ∨ isIncompleteChar x = true ∨
    (x.head? = some esc ∧ isIncompleteChar (x.drop 1) = true)

/-- The buffer is held for one more flush. -/
def hold (f : RawInputByteFramer) : RawInputByteFramer :=
  { f with heldPendingHostReplyEsc := true }

theorem flushInput_cases (f : RawInputByteFramer) :
    f.flushInput.2.buffer = [] ∨ f.flushInput.2 = f ∧ Kept f.buffer ∨
      f.flushInput.2 = f.hold ∧ f.heldPendingHostReplyEsc = false := by
  unfold flushInput
  split
  · split
    · rename_i hheld
      exact Or.inr (Or.inr ⟨rfl, by simpa using (Bool.and_eq_true_iff.1 hheld).2⟩)
    · exact Or.inl rfl
  · split
    · exact Or.inl rfl
    · split
      · rename_i hincomplete
        exact Or.inr (Or.inl ⟨rfl, Or.inr (Or.inr (Or.inl hincomplete))⟩)
      · split
        · rename_i hincomplete
          exact Or.inr (Or.inl ⟨rfl, Or.inr (Or.inr (Or.inr hincomplete))⟩)
        · exact Or.inl rfl

theorem flushReply_cases (f : RawInputByteFramer) :
    f.flushReply.2.buffer = [] ∨ f.flushReply.2 = f ∧ Kept f.buffer ∨
      f.flushReply.2 = f.hold ∧ f.heldPendingHostReplyEsc = false := by
  unfold flushReply
  split
  · exact Or.inl rfl
  · split
    · rename_i hcolor
      exact Or.inr (Or.inl ⟨rfl, Or.inr (Or.inl hcolor)⟩)
    · split
      · split
        · rename_i hheld
          exact Or.inr (Or.inr ⟨rfl, by simpa using (Bool.and_eq_true_iff.1 hheld).2⟩)
        · exact Or.inl rfl
      · split
        · exact Or.inl rfl
        · exact f.flushInput_cases

/-- `ESC [` on its own is not held when no reply is awaited. -/
theorem flushReply_bracket {f : RawInputByteFramer} (hbuffer : f.buffer = ascii "\x1b[")
    (hcell : f.hostCellSizeRepliesAwaited = 0) : f.flushReply.2.buffer = [] := by
  have hinput : f.flushInput.2.buffer = [] := by
    have hne : f.buffer ≠ [esc] := by
      rw [hbuffer]
      decide
    have hchar : isIncompleteChar (ascii "\x1b[") = false := by decide
    have hescaped : isIncompleteChar ((ascii "\x1b[").drop 1) = false := by decide
    unfold flushInput
    rw [if_neg hne]
    split
    · rfl
    · simp only [hbuffer, hchar, hescaped, Bool.false_eq_true, and_false, if_false]
  have hcolor : startsWithIncompleteDefaultColorResponse (ascii "\x1b[") = false := by decide
  have hscheme : startsWithIncompleteHostColorSchemeReport (ascii "\x1b[") = false := by decide
  have hstring : controlString (ascii "\x1b[") = none := by decide
  unfold flushReply
  simp only [hcell, hbuffer, hcolor, hscheme, hstring, Nat.lt_irrefl, false_and, if_false,
    Bool.false_eq_true, hinput]

theorem flushPending_cases (f : RawInputByteFramer) :
    f.flushPending.2.buffer = [] ∨ f.flushPending.2 = f ∧ Kept f.buffer ∨
      f.flushPending.2 = f.hold ∧ f.heldPendingHostReplyEsc = false := by
  unfold flushPending
  split
  · exact Or.inl rfl
  · split
    · exact Or.inl rfl
    · split
      · rename_i hpaste
        rw [Bool.and_eq_true, Option.isNone_iff_eq_none] at hpaste
        exact Or.inr (Or.inl ⟨rfl, Or.inl hpaste⟩)
      · split
        · rename_i hbracket
          split
          · rename_i hheld
            exact Or.inr (Or.inr ⟨rfl, by simpa using hheld⟩)
          · have hbuffer := (Bool.and_eq_true_iff.1 hbracket).2
            exact Or.inl (flushReply_bracket (by simpa using hbuffer) rfl)
        · exact f.flushReply_cases

/-- What was held once is not held again. -/
theorem flushPending_held {f : RawInputByteFramer} (hheld : f.heldPendingHostReplyEsc = true)
    (hkept : ¬ Kept f.buffer) : f.flushPending.2.buffer = [] := by
  rcases f.flushPending_cases with h | ⟨-, h⟩ | ⟨-, h⟩
  · exact h
  · exact absurd h hkept
  · rw [hheld] at h
    cases h

/-! ## Two flushes -/

theorem iterateRest_stop_nil {f f' : RawInputByteFramer} (h : f.iterateRest = .stop f')
    (hnil : f.buffer = []) : f'.buffer = [] := by
  unfold iterateRest at h
  cases hd : f.discardUntil with
  | none =>
    simp only [hd] at h
    obtain rfl | ⟨rfl, -⟩ := iterateEvent_stop h []
    · exact hnil
    · exact hnil
  | some family =>
    simp only [hd] at h
    cases family with
    | orphanedSgrMouseTail => rw [(iterateTail_stop h []).1]
    | hostReplyCsi => rw [(iterateTail_stop h []).1]
    | osc => rw [iterateString_stop h, hnil]
    | stTerminated => rw [iterateString_stop h, hnil]

theorem iterate_stop_nil {f f' : RawInputByteFramer} (h : f.iterate = .stop f')
    (hnil : f.buffer = []) : f'.buffer = [] := by
  cases hp : f.panicked with
  | true =>
    rw [iterate_panicked hp] at h
    cases h
    exact hnil
  | false =>
    cases hflushed : f.loneEscapeRecentlyFlushed with
    | false =>
      rw [iterate_eq_iterateRest hp hflushed] at h
      exact iterateRest_stop_nil h hnil
    | true =>
      rw [iterate_flushed hp hflushed, if_pos (by rw [hnil]; rfl)] at h
      cases h
      exact hnil

/-- From an empty buffer the loop makes nothing. -/
theorem drain_nil {f : RawInputByteFramer} (hnil : f.buffer = []) :
    f.drainAvailableChunks.2.buffer = [] := by
  refine drain_induction iterate_size_lt
    (I := fun g _ g' => g.buffer = [] → g'.buffer = []) ?_ ?_ f hnil
  · intro g g' hstop hnil
    exact iterate_stop_nil hstop hnil
  · intro g out g' outs g'' hnext ih hnil
    have hlt := iterate_size_lt g out g' hnext
    have hle : g.size ≤ 1 := by
      simp only [size, hnil, List.length_nil]
      split <;> omega
    refine ih (List.length_eq_zero_iff.1 ?_)
    unfold size at hlt hle
    omega

theorem flushTimeout_nil {f : RawInputByteFramer} (hnil : f.buffer = []) :
    f.flushTimeout.2.buffer = [] := by
  have hdrained := drain_nil hnil
  unfold flushTimeout
  generalize f.drainAvailableChunks = drained at hdrained
  obtain ⟨chunks, g⟩ := drained
  simp only at hdrained ⊢
  split
  · exact hdrained
  · split
    · rename_i family hd
      cases family <;> simp [flushDiscard, discarded, hdrained] <;> split <;> rfl
    · simp [hdrained]

/-- The flush of a settled framer that discards nothing. -/
theorem flushTimeout_settled {f : RawInputByteFramer} (hp : f.panicked = false)
    (hd : f.discardUntil = none) (h : f.Settled) (hne : f.buffer ≠ []) :
    f.flushTimeout = f.flushPending := by
  have hempty : f.buffer.isEmpty = false := by simpa using hne
  simp only [flushTimeout, drain_settled hp hd h, hp, hd, hempty, Bool.false_eq_true, if_false,
    List.nil_append]

/-- A settled framer that is flushed twice gives its buffer up. -/
theorem flushTimeout_twice {f : RawInputByteFramer} (hp : f.panicked = false) (h : f.Settled)
    (hd : f.discardUntil = none) (hkept : ¬ Kept f.buffer) :
    f.flushTimeout.2.flushTimeout.2.buffer = [] := by
  by_cases hnil : f.buffer = []
  · exact flushTimeout_nil (flushTimeout_nil hnil)
  · have hfirst := flushTimeout_settled hp hd h hnil
    rcases f.flushPending_cases with hempty | ⟨-, hk⟩ | ⟨hhold, -⟩
    · exact flushTimeout_nil (by rw [hfirst, hempty])
    · exact absurd hk hkept
    · have hheld : f.hold.Settled := ⟨h.waits, h.empty, h.count_le, h.count_lt⟩
      rw [hfirst, hhold, flushTimeout_settled (f := f.hold) hp hd hheld hnil]
      exact flushPending_held rfl hkept

/-! ## Reachable framers -/

theorem Settled.hold {f : RawInputByteFramer} (h : f.Settled) : f.hold.Settled :=
  ⟨h.waits, h.empty, h.count_le, h.count_lt⟩

theorem maxDiscardedControlTailBytes_pos : 0 < maxDiscardedControlTailBytes := by
  decide

theorem flushInput_settled {f : RawInputByteFramer} (h : f.Settled) (hd : f.discardUntil = none) :
    f.flushInput.2.Settled := by
  rcases f.flushInput_cases with hnil | ⟨hsame, -⟩ | ⟨hhold, -⟩
  · exact settled_nil hnil (Or.inl (f.flushInput_discardUntil.trans hd))
  · rwa [hsame]
  · rw [hhold]
    exact h.hold

theorem flushReply_settled {f : RawInputByteFramer} (h : f.Settled) (hd : f.discardUntil = none) :
    f.flushReply.2.Settled := by
  unfold flushReply
  split
  · exact settled_nil rfl (Or.inr maxDiscardedControlTailBytes_pos)
  · split
    · exact h
    · split
      · split
        · exact h.hold
        · exact settled_nil rfl (Or.inr maxDiscardedControlTailBytes_pos)
      · split
        · exact settled_nil rfl (Or.inr maxDiscardedControlTailBytes_pos)
        · exact flushInput_settled h hd

theorem flushPending_settled {f : RawInputByteFramer} (h : f.Settled) (hd : f.discardUntil = none) :
    f.flushPending.2.Settled := by
  unfold flushPending
  split
  · exact settled_nil rfl (Or.inr maxDiscardedControlTailBytes_pos)
  · split
    · -- The bytes of the report so far count.
      by_cases hle : f.buffer.length ≤ maxDiscardedControlTailBytes
      · rw [if_pos hle]
        refine ⟨fun _ => waits_nil rfl, fun _ _ _ => rfl, fun _ _ _ => hle, nofun⟩
      · rw [if_neg hle]
        exact settled_nil rfl (Or.inl rfl)
    · split
      · exact h
      · split
        · split
          · exact h.hold
          · exact flushReply_settled ⟨h.waits, h.empty, h.count_le, h.count_lt⟩ hd
        · exact flushReply_settled h hd

theorem flushDiscard_settled {f : RawInputByteFramer} (h : f.Settled) {family : ControlStringFamily}
    (hd : f.discardUntil = some family) : (f.flushDiscard family).Settled := by
  have hstring (hfamily : ¬ family.IsTail) (x : Bytes) (n : ℕ) :
      ({ f with buffer := x, discardedTailBytes := n } : RawInputByteFramer).Settled := by
    refine settled_of_not_tail (fun family' hd' => ?_) fun hnone => ?_
    · obtain rfl := Option.some.inj (hd.symm.trans hd')
      exact hfamily
    · exact absurd (hd.symm.trans hnone) nofun
  cases family with
  | hostReplyCsi => exact h
  | orphanedSgrMouseTail => exact settled_nil rfl (Or.inl rfl)
  | osc =>
    simp only [flushDiscard]
    split
    · exact hstring (by rintro (h | h) <;> cases h) _ _
    · exact settled_nil rfl (Or.inl rfl)
  | stTerminated =>
    simp only [flushDiscard]
    split
    · exact hstring (by rintro (h | h) <;> cases h) _ _
    · exact settled_nil rfl (Or.inl rfl)

theorem flushTimeout_isSettled {f : RawInputByteFramer} (hf : f.Coherent)
    (hp : f.flushTimeout.2.panicked = false) : f.flushTimeout.2.Settled := by
  have hdrained := @drain_isSettled f hf
  unfold flushTimeout at hp ⊢
  generalize f.drainAvailableChunks = drained at hdrained hp ⊢
  obtain ⟨chunks, g⟩ := drained
  simp only at hdrained hp ⊢
  split
  · rename_i hpanicked
    rw [if_pos hpanicked] at hp
    exact hdrained hp
  · rename_i hpanicked
    have hg := hdrained (by simpa using hpanicked)
    split
    · rename_i family hd
      exact flushDiscard_settled hg hd
    · rename_i hd
      split
      · exact hg
      · exact flushPending_settled hg hd

theorem apply_settled {f : RawInputByteFramer} (hf : f.Coherent)
    (h : f.panicked = false → f.Settled) (op : Op) (hp : (f.apply op).panicked = false) :
    (f.apply op).Settled := by
  have hfields {g : RawInputByteFramer} (hg : f.Settled) (hbuffer : g.buffer = f.buffer)
      (hflushed : g.loneEscapeRecentlyFlushed = f.loneEscapeRecentlyFlushed)
      (hsplit : g.splitCoalescedEscape = f.splitCoalescedEscape)
      (hd : g.discardUntil = f.discardUntil)
      (hcount : g.discardedTailBytes = f.discardedTailBytes) : g.Settled := by
    refine ⟨?_, ?_, ?_, ?_⟩
    · unfold Waits
      rw [hbuffer, hflushed, hsplit, hd]
      exact hg.waits
    · rw [hbuffer, hd]
      exact hg.empty
    · rw [hcount, hd]
      exact hg.count_le
    · rw [hcount, hd]
      exact hg.count_lt
  cases op with
  | push data => exact @drain_isSettled (f.extend data) hf hp
  | flushTimeout => exact flushTimeout_isSettled hf hp
  | hostColorQuerySent => exact hfields (h hp) rfl rfl rfl rfl rfl
  | hostCellSizeQuerySent => exact hfields (h hp) rfl rfl rfl rfl rfl
  | enableHostColorSchemeChangeTracking => exact hfields (h hp) rfl rfl rfl rfl rfl
  | enableHostAppearanceQueryOnFocus => exact hfields (h hp) rfl rfl rfl rfl rfl

/-- Every framer reached is settled, when no call panicked. -/
theorem run_settled (ops : List Op) {f : RawInputByteFramer} (hf : f.Coherent) (h : f.Settled)
    (hp : (StepRun.run apply f ops).panicked = false) : (StepRun.run apply f ops).Settled := by
  have hstep (g : RawInputByteFramer) (op : Op)
      (hg : g.Coherent ∧ (g.panicked = false → g.Settled)) :
      (g.apply op).Coherent ∧ ((g.apply op).panicked = false → (g.apply op).Settled) :=
    ⟨apply_coherent g op hg.1, apply_settled hg.1 hg.2 op⟩
  exact (StepRun.run_invariant hstep ⟨hf, fun _ => h⟩ ops).2 hp

theorem reached_settled (preserve : Bool) (ops : List Op)
    (hp : (reached preserve ops).panicked = false) : (reached preserve ops).Settled :=
  run_settled ops (fun h => by cases h) (settled_nil rfl (Or.inl rfl)) hp

/-! ## Tails -/

theorem scanTail_eq_drop {skip final : UInt8 → Bool} {k : ℕ} {x rest : Bytes}
    (h : scanTail skip final k x = some rest) : ∃ n ≤ k, n ≤ x.length ∧ rest = x.drop n := by
  induction k generalizing x with
  | zero => simp at h
  | succ k ih =>
    cases x with
    | nil => cases h
    | cons b x =>
      rw [scanTail] at h
      split_ifs at h
      · obtain ⟨n, hn, hn', rfl⟩ := ih h
        exact ⟨n + 1, by omega, by simpa using hn', rfl⟩
      · cases h
        exact ⟨1, by omega, by simp, rfl⟩
      · cases h
        exact ⟨0, by omega, by simp, rfl⟩

/-- The framer drops the tail of a family, `count` bytes so far. -/
structure Dropping (f : RawInputByteFramer) (family : ControlStringFamily) (count : ℕ) : Prop where
  isTail : family.IsTail
  discardUntil : f.discardUntil = some family
  discardedTailBytes : f.discardedTailBytes = count
  count_le : count ≤ maxDiscardedControlTailBytes
  count_lt : family = .hostReplyCsi → count < maxDiscardedControlTailBytes
  buffer : f.buffer = []
  flushed : f.loneEscapeRecentlyFlushed = false
  panicked : f.panicked = false

variable {f : RawInputByteFramer} {family : ControlStringFamily} {count : ℕ}

/-- One turn of the loop that drops a tail. -/
theorem Dropping.iterate (h : f.Dropping family count) (data : Bytes) :
    ∃ skip final, (f.extend data).iterate =
      (f.extend data).iterateTail (discardTail skip final data count) := by
  have hdata : (f.extend data).buffer = data := by
    rw [extend, h.buffer, List.nil_append]
  have hcount : (f.extend data).discardedTailBytes = count := h.discardedTailBytes
  have hd : (f.extend data).discardUntil = some family := h.discardUntil
  rw [iterate_eq_iterateRest (by exact h.panicked) (by exact h.flushed)]
  simp only [iterateRest, hd, hdata, hcount]
  rcases h.isTail with rfl | rfl
  · exact ⟨_, _, rfl⟩
  · exact ⟨_, _, rfl⟩

/-- A push drops a beginning of the bytes : all of them, or as many as there are before the tail
ends, and the rest is framed as ever. -/
theorem Dropping.push (h : f.Dropping family count) (data : Bytes) :
    ∃ n ≤ data.length, count + n ≤ maxDiscardedControlTailBytes ∧
      (f.push data = (f.discarded []).push (data.drop n) ∨
        n = data.length ∧ f.push data = ([], { f with discardedTailBytes := count + n }) ∧
          (f.push data).2.Dropping family (count + n)) := by
  obtain ⟨skip, final, hiterate⟩ := h.iterate data
  have hle := h.count_le
  have hends (n : ℕ) (hstep : (f.extend data).iterate =
      .next [] ((f.extend data).discarded (data.drop n))) :
      f.push data = (f.discarded []).push (data.drop n) := by
    rw [RawInputByteFramer.push, drainAvailableChunks, drain_eq iterate_size_lt, hstep]
    rfl
  cases hscan : scanTail skip final
      (min data.length (maxDiscardedControlTailBytes - count)) data with
  | some rest =>
    obtain ⟨n, hn, hn', rfl⟩ := scanTail_eq_drop hscan
    refine ⟨n, hn', by omega, Or.inl (hends n ?_)⟩
    simp only [hiterate, discardTail, hscan, iterateTail]
  | none =>
    refine ⟨min data.length (maxDiscardedControlTailBytes - count), by omega, by omega, ?_⟩
    by_cases hlimit : maxDiscardedControlTailBytes ≤
        count + min data.length (maxDiscardedControlTailBytes - count)
    · refine Or.inl (hends _ ?_)
      simp only [hiterate, discardTail, hscan, iterateTail, hlimit, decide_true]
    · have hall : min data.length (maxDiscardedControlTailBytes - count) = data.length := by omega
      rw [hall] at hlimit hscan ⊢
      have hpush : f.push data = ([], { f with discardedTailBytes := count + data.length }) := by
        rw [RawInputByteFramer.push, drainAvailableChunks, drain_eq iterate_size_lt, hiterate]
        simp only [discardTail, hall, hscan, iterateTail, hlimit, decide_false, List.drop_length,
          extend, h.buffer]
      refine Or.inr ⟨rfl, hpush, ?_⟩
      rw [hpush]
      exact ⟨h.isTail, h.discardUntil, rfl, by omega, fun _ => by omega, h.buffer, h.flushed,
        h.panicked⟩

/-- A flush ends the tail, or leaves it as it is. -/
theorem Dropping.flushTimeout (h : f.Dropping family count) :
    f.flushTimeout = ([], f.discarded []) ∨ f.flushTimeout = ([], f) := by
  have hdrain : f.drainAvailableChunks = f.push [] := by
    rw [RawInputByteFramer.push, extend, List.append_nil]
  have hended : (f.discarded []).drainAvailableChunks = ([], f.discarded []) :=
    drain_settled h.panicked rfl (settled_nil rfl (Or.inl rfl))
  obtain ⟨n, hn, -, hpush⟩ := h.push []
  obtain rfl : n = 0 := Nat.le_zero.1 hn
  rcases hpush with hpush | ⟨-, hpush, -⟩
  · have hdrained : f.drainAvailableChunks = ([], f.discarded []) := by
      rw [hdrain, hpush]
      exact hended
    left
    simp only [RawInputByteFramer.flushTimeout, hdrained, discarded, h.panicked, Bool.false_eq_true,
      if_false, List.isEmpty_nil, if_true]
  · have hsame : ({ f with discardedTailBytes := count + 0 } : RawInputByteFramer) = f := by
      rw [Nat.add_zero, ← h.discardedTailBytes]
    rw [hsame] at hpush
    have hflush : f.flushTimeout = ([], f.flushDiscard family) := by
      simp only [RawInputByteFramer.flushTimeout, hdrain, hpush, h.panicked, h.discardUntil,
        Bool.false_eq_true, if_false]
    rw [hflush]
    rcases h.isTail with rfl | rfl
    · exact Or.inr rfl
    · exact Or.inl rfl

/-- The bytes that an operation brings. -/
def Op.brought : Op → ℕ
  | .push data => data.length
  | _ => 0

/-- The bytes that operations bring. -/
def broughtBy (ops : List Op) : ℕ :=
  (ops.map Op.brought).sum

/-- The tail ends at an operation : a flush, or a push of which `n` more bytes are dropped and the
rest is framed as ever. All bytes dropped, `count` of them so far, are within the limit. -/
def TailEnds (f : RawInputByteFramer) (family : ControlStringFamily) (count : ℕ) (op : Op) : Prop :=
  f.Dropping family count ∧
    (op = .flushTimeout ∧ f.flushTimeout = ([], f.discarded []) ∨
      ∃ data n, op = .push data ∧ n ≤ data.length ∧ count + n ≤ maxDiscardedControlTailBytes ∧
        f.push data = (f.discarded []).push (data.drop n))

theorem Dropping.apply (h : f.Dropping family count) (op : Op) :
    f.TailEnds family count op ∨ (f.apply op).Dropping family (count + op.brought) := by
  cases op with
  | push data =>
    obtain ⟨n, hn, hle, hpush | ⟨rfl, -, hpush⟩⟩ := h.push data
    · exact Or.inl ⟨h, Or.inr ⟨data, n, rfl, hn, hle, hpush⟩⟩
    · exact Or.inr hpush
  | flushTimeout =>
    rcases h.flushTimeout with hflush | hflush
    · exact Or.inl ⟨h, Or.inl ⟨rfl, hflush⟩⟩
    · right
      show f.flushTimeout.2.Dropping family count
      rw [hflush]
      exact h
  | hostColorQuerySent => exact Or.inr { h with }
  | hostCellSizeQuerySent => exact Or.inr { h with }
  | enableHostColorSchemeChangeTracking => exact Or.inr { h with }
  | enableHostAppearanceQueryOnFocus => exact Or.inr { h with }

/-- In every run from a framer that drops a tail, the tail goes on and all that came was dropped,
within the limit, or it has ended. -/
theorem tail_bounded (h : f.Dropping family count) (ops : List Op) :
    (StepRun.run RawInputByteFramer.apply f ops).Dropping family (count + broughtBy ops) ∨
      ∃ before op after, ops = before ++ op :: after ∧
        (StepRun.run RawInputByteFramer.apply f before).TailEnds family
          (count + broughtBy before) op := by
  induction ops using List.reverseRecOn with
  | nil => exact Or.inl h
  | append_singleton ops op ih =>
    rcases ih with hgoes | ⟨before, op', after, rfl, hends⟩
    · rcases hgoes.apply op with hends | hgoes'
      · exact Or.inr ⟨ops, op, [], rfl, hends⟩
      · left
        have hbrought : count + broughtBy (ops ++ [op]) = count + broughtBy ops + op.brought := by
          simp [broughtBy, Nat.add_assoc]
        rw [hbrought, StepRun.run_snoc]
        exact hgoes'
    · exact Or.inr ⟨before, op', after ++ [op], by simp, hends⟩

theorem Settled.dropping (h : f.Settled) (hf : f.Coherent) (hp : f.panicked = false)
    (hd : f.discardUntil = some family) (hfamily : family.IsTail) :
    f.Dropping family f.discardedTailBytes := by
  refine ⟨hfamily, hd, rfl, h.count_le family hd hfamily, ?_, h.empty family hd hfamily, ?_, hp⟩
  · rintro rfl
    exact h.count_lt hd
  · rw [Bool.eq_false_iff]
    intro hflushed
    rw [hf hflushed] at hd
    cases hd

/-- Every framer that is reached, when no call panicked : where nothing is discarded, two flushes
give the buffer up unless it is one that is kept; and the tail of a reply or of a mouse report is
dropped up to the limit only. -/
theorem never_wedged (preserveLegacyDoubledEscapeInput : Bool) (ops : List Op)
    (hp : (reached preserveLegacyDoubledEscapeInput ops).panicked = false) :
    ((reached preserveLegacyDoubledEscapeInput ops).discardUntil = none →
        Kept (reached preserveLegacyDoubledEscapeInput ops).buffer ∨
          (reached preserveLegacyDoubledEscapeInput ops).flushTimeout.2.flushTimeout.2.buffer =
            []) ∧
      ∀ family, (reached preserveLegacyDoubledEscapeInput ops).discardUntil = some family →
        family.IsTail →
        (reached preserveLegacyDoubledEscapeInput ops).discardedTailBytes ≤ 128 ∧
          ∀ later,
            (StepRun.run RawInputByteFramer.apply (reached preserveLegacyDoubledEscapeInput ops)
                later).Dropping family
              ((reached preserveLegacyDoubledEscapeInput ops).discardedTailBytes +
                broughtBy later) ∨
            ∃ before op after, later = before ++ op :: after ∧
              (StepRun.run RawInputByteFramer.apply (reached preserveLegacyDoubledEscapeInput ops)
                  before).TailEnds family
                ((reached preserveLegacyDoubledEscapeInput ops).discardedTailBytes +
                  broughtBy before) op := by
  have hsettled := reached_settled preserveLegacyDoubledEscapeInput ops hp
  have hcoherent := reached_coherent preserveLegacyDoubledEscapeInput ops
  refine ⟨fun hd => ?_, fun family hd hfamily => ?_⟩
  · by_cases hkept : Kept (reached preserveLegacyDoubledEscapeInput ops).buffer
    · exact Or.inl hkept
    · exact Or.inr (flushTimeout_twice hp hsettled hd hkept)
  · exact ⟨hsettled.count_le family hd hfamily,
      tail_bounded (hsettled.dropping hcoherent hp hd hfamily)⟩

/-- A held escape is given up, and so is the tail of a mouse report. -/
theorem never_wedged_escape :
    ((reached true [.hostColorQuerySent, .push [esc]]).discardUntil = none →
        Kept (reached true [.hostColorQuerySent, .push [esc]]).buffer ∨
          (reached true
            [.hostColorQuerySent, .push [esc]]).flushTimeout.2.flushTimeout.2.buffer = []) ∧
      (reached true [.push (ascii "\x1b[<0"), .flushTimeout]).discardedTailBytes ≤ 128 :=
  ⟨(never_wedged true [.hostColorQuerySent, .push [esc]] (by decide)).1,
    ((never_wedged true [.push (ascii "\x1b[<0"), .flushTimeout] (by decide)).2
      .orphanedSgrMouseTail (by decide) (Or.inr rfl)).1⟩

end RawInputByteFramer

end Zynk
