import Zynk.Input.Extract
import Zynk.Lib.Run

/-!
# Input in pieces

The operating system may cut the input anywhere. `push_append` says when that cannot be
seen : `push (a ++ b)` is `push a` and then `push b`, unless the cut splits an orphaned
mouse report that the framer does not recognise as the beginning of one
(`SplitsOrphanedReport`). `push_conserves` says that nothing is lost or invented while
nothing is discarded.
-/

namespace Zynk

open Text Resumable

/-! ## Discarded tails -/

section Tail

variable {skip final : UInt8 → Bool}

@[simp] theorem scanTail_zero (x : Bytes) : scanTail skip final 0 x = none := by
  cases x <;> rfl

variable {x : Bytes}

/-- A tail that ended stays ended. -/
theorem scanTail_append {k m : ℕ} {rest : Bytes} (h : scanTail skip final k x = some rest)
    (hkm : k ≤ m) (t : Bytes) : scanTail skip final m (x ++ t) = some (rest ++ t) := by
  induction k generalizing m x with
  | zero => cases h
  | succ k ih =>
    obtain ⟨m, rfl⟩ : ∃ j, m = j + 1 := ⟨m - 1, by omega⟩
    cases x with
    | nil => cases h
    | cons b x =>
      rw [scanTail] at h
      rw [List.cons_append, scanTail]
      split_ifs at h ⊢
      · exact ih h (by omega)
      · cases h
        rfl
      · cases h
        rfl

/-- A scan that did not end within `k` bytes goes on after them. -/
theorem scanTail_eq_none {k : ℕ} (h : scanTail skip final k x = none) (hk : k ≤ x.length) (m : ℕ)
    (t : Bytes) : scanTail skip final (k + m) (x ++ t) = scanTail skip final m (x.drop k ++ t) := by
  induction k generalizing x with
  | zero => rw [Nat.zero_add, List.drop_zero]
  | succ k ih =>
    cases x with
    | nil => simp at hk
    | cons b x =>
      rw [scanTail] at h
      rw [Nat.add_right_comm, List.cons_append, scanTail]
      split_ifs at h ⊢
      exact ih h (by simpa using hk)

/-- A tail that ended ends in every extension, and leaves the extension. -/
theorem discardTail_true_append {rest : Bytes} {c d : ℕ}
    (h : discardTail skip final x c = (true, rest, d)) (t : Bytes) :
    ∃ d', discardTail skip final (x ++ t) c = (true, rest ++ t, d') := by
  simp only [discardTail] at h ⊢
  cases hscan : scanTail skip final (min x.length (maxDiscardedControlTailBytes - c)) x with
  | some r =>
    simp only [hscan] at h
    cases h
    rw [scanTail_append hscan (by rw [List.length_append]; omega)]
    exact ⟨_, rfl⟩
  | none =>
    simp only [hscan, Prod.mk.injEq, decide_eq_true_eq] at h
    obtain ⟨hmax, rfl, -⟩ := h
    -- The limit was reached within the bytes that were there.
    have hmin : min (x ++ t).length (maxDiscardedControlTailBytes - c) =
        min x.length (maxDiscardedControlTailBytes - c) := by
      rw [List.length_append]
      omega
    have hnone := scanTail_eq_none hscan (by omega) 0 t
    rw [Nat.add_zero, scanTail_zero] at hnone
    rw [hmin, hnone]
    simp only [hmax, decide_true, Prod.mk.injEq, true_and]
    exact ⟨_, List.drop_append_of_le_length (by omega), rfl⟩

/-- A tail that did not end was discarded whole, below the limit. -/
theorem discardTail_false {rest : Bytes} {c d : ℕ}
    (h : discardTail skip final x c = (false, rest, d)) :
    rest = [] ∧ d = c + x.length ∧ d < maxDiscardedControlTailBytes ∧
      scanTail skip final x.length x = none := by
  simp only [discardTail] at h
  cases hscan : scanTail skip final (min x.length (maxDiscardedControlTailBytes - c)) x with
  | some r =>
    simp only [hscan] at h
    cases h
  | none =>
    simp only [hscan, Prod.mk.injEq, decide_eq_false_iff_not] at h
    obtain ⟨hmax, rfl, rfl⟩ := h
    have hmin : min x.length (maxDiscardedControlTailBytes - c) = x.length := by omega
    rw [hmin] at hmax hscan ⊢
    exact ⟨List.drop_length, rfl, by omega, hscan⟩

end Tail

namespace RawInputByteFramer

/-- What follows a discarded piece is discarded as if it had come with it. -/
theorem iterateTail_append {skip final : UInt8 → Bool} (f : RawInputByteFramer) {x : Bytes}
    {c : ℕ} (hlt : c + x.length < maxDiscardedControlTailBytes)
    (hscan : scanTail skip final x.length x = none) (t : Bytes) (y : Bytes) (d : ℕ) :
    f.iterateTail (discardTail skip final (x ++ t) c) =
      { f with buffer := y, discardedTailBytes := d }.iterateTail
        (discardTail skip final t (c + x.length)) := by
  have hmin : min (x ++ t).length (maxDiscardedControlTailBytes - c) =
      x.length + min t.length (maxDiscardedControlTailBytes - (c + x.length)) := by
    rw [List.length_append]
    omega
  have hgo := scanTail_eq_none hscan (Nat.le_refl _)
    (min t.length (maxDiscardedControlTailBytes - (c + x.length))) t
  rw [List.drop_length, List.nil_append] at hgo
  simp only [discardTail, hmin, hgo, List.drop_length_add_append, ← Nat.add_assoc]
  cases scanTail skip final (min t.length (maxDiscardedControlTailBytes - (c + x.length))) t with
  | some r => rfl
  | none =>
    simp only
    cases decide (maxDiscardedControlTailBytes ≤
      c + x.length + min t.length (maxDiscardedControlTailBytes - (c + x.length))) <;> rfl

variable {f f' : RawInputByteFramer} {out : List Bytes}

/-- A tail that ends leaves the buffer after it. -/
theorem iterateTail_next {skip final : UInt8 → Bool}
    (h : f.iterateTail (discardTail skip final f.buffer f.discardedTailBytes) = .next out f')
    (t : Bytes) :
    (f.extend t).iterateTail (discardTail skip final (f.buffer ++ t) f.discardedTailBytes) =
      .next out (f'.extend t) := by
  rcases hd : discardTail skip final f.buffer f.discardedTailBytes with ⟨done, rest, d⟩
  rw [hd] at h
  cases done with
  | false => cases h
  | true =>
    cases h
    obtain ⟨d', hd'⟩ := discardTail_true_append hd t
    rw [hd']
    rfl

/-- A tail that goes on is discarded whole. -/
theorem iterateTail_stop {skip final : UInt8 → Bool}
    (h : f.iterateTail (discardTail skip final f.buffer f.discardedTailBytes) = .stop f')
    (t : Bytes) :
    f' = { f with buffer := [], discardedTailBytes := f.discardedTailBytes + f.buffer.length } ∧
      (f.extend t).iterateTail (discardTail skip final (f.buffer ++ t) f.discardedTailBytes) =
        (f'.extend t).iterateTail
          (discardTail skip final (f'.buffer ++ t) f'.discardedTailBytes) := by
  rcases hd : discardTail skip final f.buffer f.discardedTailBytes with ⟨done, rest, d⟩
  rw [hd] at h
  cases done with
  | true => cases h
  | false =>
    obtain ⟨rfl, rfl, hlt, hscan⟩ := discardTail_false hd
    cases h
    exact ⟨rfl, iterateTail_append (f.extend t) hlt hscan t _ _⟩

/-- The bookkeeping of an event does not touch the bytes. -/
theorem noteEvent_buffer (f : RawInputByteFramer) (event : RawInputEvent) (x : Bytes) :
    { f with buffer := x }.noteEvent event = { f.noteEvent event with buffer := x } := by
  cases event with
  | outerFocusGained =>
    simp only [noteEvent]
    split <;> rfl
  | hostColorSchemeChanged appearance =>
    simp only [noteEvent]
    split <;> rfl
  | _ => rfl

/-- Whether an escape is split off is decided once there is an event. -/
theorem doubledEscape_append {x : Bytes} (h : extractOneEvent x ≠ .ok none) (t : Bytes) :
    (ascii "\x1b\x1b").isPrefixOf (x ++ t) = (ascii "\x1b\x1b").isPrefixOf x := by
  cases hx : (ascii "\x1b\x1b").isPrefixOf x with
  | true => exact isPrefixOf_append hx t
  | false =>
    rw [Bool.eq_false_iff]
    intro hp
    have hlt : x.length < 2 := length_lt_of_isPrefixOf_append hp hx
    rw [eq_take_of_isPrefixOf_append hp hlt] at h
    interval_cases hk : x.length
    · exact h (by decide)
    · exact h (by decide)

/-- An event is framed the same with more bytes behind it. -/
theorem iterateEvent_next (h : f.iterateEvent = .next out f') (t : Bytes) :
    (f.extend t).iterateEvent = .next out (f'.extend t) := by
  unfold iterateEvent at h ⊢
  split at h
  · rename_i hsplit
    cases h
    obtain ⟨hs, hp⟩ := Bool.and_eq_true_iff.1 hsplit
    have hlen := (List.isPrefixOf_iff_prefix.1 hp).length_le
    have htwo : (ascii "\x1b\x1b").length = 2 := by decide
    simp only [extend, hs, isPrefixOf_append hp t, Bool.and_true, if_true]
    rw [List.drop_append_of_le_length (by omega)]
  · rename_i hsplit
    cases he : extractOneEvent f.buffer with
    | error p =>
      simp only [he] at h
      cases h
    | ok result =>
      cases result with
      | none =>
        simp only [he] at h
        cases h
      | some p =>
        simp only [he] at h
        cases h
        have hne : extractOneEvent f.buffer ≠ .ok none := by simp [he]
        have hle := (extractOneEvent_consumed he).2
        simp only [extend, doubledEscape_append hne, extractOneEvent_append hne]
        rw [if_neg hsplit, he]
        simp only [List.take_append_of_le_length hle, List.drop_append_of_le_length hle,
          noteEvent_buffer]

/-- A buffer without an event waits as it is, unless it panics. -/
theorem iterateEvent_stop (h : f.iterateEvent = .stop f') (t : Bytes) :
    f' = f ∨ f' = { f with panicked := true } ∧
      (f.extend t).iterateEvent = .stop (f'.extend t) := by
  unfold iterateEvent at h ⊢
  split at h
  · cases h
  · rename_i hsplit
    cases he : extractOneEvent f.buffer with
    | error p =>
      simp only [he] at h
      cases h
      have hne : extractOneEvent f.buffer ≠ .ok none := by simp [he]
      simp only [extend, doubledEscape_append hne, extractOneEvent_append hne]
      rw [if_neg hsplit, he]
      exact Or.inr ⟨trivial, rfl⟩
    | ok result =>
      cases result with
      | none =>
        simp only [he] at h
        cases h
        exact Or.inl rfl
      | some p =>
        simp only [he] at h
        cases h

/-- A terminator is found at the same place. -/
theorem iterateString_next {family : ControlStringFamily}
    (h : f.iterateString family = .next out f') (t : Bytes) :
    (f.extend t).iterateString family = .next out (f'.extend t) := by
  unfold iterateString at h ⊢
  cases hlen : controlStringTerminatorForFamily f.buffer family with
  | none =>
    simp only [hlen] at h
    cases h
  | some len =>
    simp only [hlen] at h
    cases h
    obtain ⟨hlen', -, hle⟩ := controlStringTerminatorForFamily_append hlen t
    simp only [extend, hlen', List.drop_append_of_le_length hle]
    rfl

theorem iterateString_stop {family : ControlStringFamily} (h : f.iterateString family = .stop f') :
    f' = f := by
  unfold iterateString at h
  split at h
  · cases h
    rfl
  · cases h

/-- One turn without a flushed escape is the same with more bytes behind it. -/
theorem iterateRest_next (h : f.iterateRest = .next out f') (t : Bytes) :
    (f.extend t).iterateRest = .next out (f'.extend t) := by
  unfold iterateRest at h ⊢
  rw [show (f.extend t).discardUntil = f.discardUntil from rfl]
  cases hd : f.discardUntil with
  | none =>
    simp only [hd] at h ⊢
    exact iterateEvent_next h t
  | some family =>
    simp only [hd] at h ⊢
    cases family with
    | orphanedSgrMouseTail => exact iterateTail_next h t
    | hostReplyCsi => exact iterateTail_next h t
    | osc => exact iterateString_next h t
    | stTerminated => exact iterateString_next h t

/-- One turn that stops : the bytes that come later are read as if they had been there. -/
theorem iterateRest_stop (h : f.iterateRest = .stop f') (t : Bytes) :
    f'.loneEscapeRecentlyFlushed = f.loneEscapeRecentlyFlushed ∧
      (f'.panicked = f.panicked ∧ (f.extend t).iterateRest = (f'.extend t).iterateRest ∨
        f'.panicked = true ∧ (f.extend t).iterateRest = .stop (f'.extend t)) := by
  have htail {skip final : UInt8 → Bool} {family : ControlStringFamily}
      (hd : f.discardUntil = some family)
      (hrest : ∀ g : RawInputByteFramer, g.discardUntil = some family →
        g.iterateRest = g.iterateTail (discardTail skip final g.buffer g.discardedTailBytes)) :
      f'.loneEscapeRecentlyFlushed = f.loneEscapeRecentlyFlushed ∧
        f'.panicked = f.panicked ∧ (f.extend t).iterateRest = (f'.extend t).iterateRest := by
    rw [hrest f hd] at h
    obtain ⟨hf', heq⟩ := iterateTail_stop h t
    refine ⟨by rw [hf'], by rw [hf'], ?_⟩
    rw [hrest (f.extend t) hd, hrest (f'.extend t) (by rw [hf']; exact hd)]
    exact heq
  cases hd : f.discardUntil with
  | none =>
    have hevent (g : RawInputByteFramer) (hg : g.discardUntil = none) :
        g.iterateRest = g.iterateEvent := by
      simp only [iterateRest, hg]
    rw [hevent f hd] at h
    rw [hevent (f.extend t) hd]
    obtain rfl | ⟨hf', heq⟩ := iterateEvent_stop h t
    · exact ⟨rfl, Or.inl ⟨rfl, (hevent (f'.extend t) hd).symm⟩⟩
    · exact ⟨by rw [hf'], Or.inr ⟨by rw [hf'], heq⟩⟩
  | some family =>
    have hstring (hfamily : f.iterateRest = f.iterateString family) : f' = f :=
      iterateString_stop (hfamily ▸ h)
    cases family with
    | orphanedSgrMouseTail =>
      obtain ⟨hflag, hrest⟩ := htail hd fun g hg => by
        simp only [iterateRest, hg, discardOrphanedSgrMouseTail]
        rfl
      exact ⟨hflag, Or.inl hrest⟩
    | hostReplyCsi =>
      obtain ⟨hflag, hrest⟩ := htail hd fun g hg => by
        simp only [iterateRest, hg, discardHostReplyCsiTail]
        rfl
      exact ⟨hflag, Or.inl hrest⟩
    | osc =>
      rw [hstring (by simp only [iterateRest, hd])]
      exact ⟨rfl, Or.inl ⟨rfl, rfl⟩⟩
    | stTerminated =>
      rw [hstring (by simp only [iterateRest, hd])]
      exact ⟨rfl, Or.inl ⟨rfl, rfl⟩⟩

end RawInputByteFramer

/-! ## Orphaned mouse reports -/

/-- What may become an orphaned report with more bytes may become one. -/
theorem startsWithIncompleteOrphanedSgrMouseTail_of_append {x t : Bytes}
    (h : startsWithIncompleteOrphanedSgrMouseTail (x ++ t) = true) :
    startsWithIncompleteOrphanedSgrMouseTail x = true := by
  unfold startsWithIncompleteOrphanedSgrMouseTail at h ⊢
  split at h
  · cases h
  · rename_i hmax
    rw [List.length_append] at hmax h
    rw [if_neg (by omega)]
    simp only [Bool.or_eq_true, Bool.and_eq_true, decide_eq_true_eq] at h ⊢
    obtain ⟨hlen, hp⟩ | ⟨hp, hall⟩ := h
    · refine Or.inl ⟨by omega, List.isPrefixOf_iff_prefix.2 ?_⟩
      exact (List.prefix_append x t).trans (List.isPrefixOf_iff_prefix.1 hp)
    · by_cases hlen : 2 ≤ x.length
      · rw [List.drop_append_of_le_length hlen, List.all_append, Bool.and_eq_true] at hall
        rw [isPrefixOf_append_of_length (k := 2) (by decide) hlen] at hp
        exact Or.inr ⟨hp, hall.1⟩
      · have htwo : (ascii "[<").length = 2 := by decide
        have hx := eq_take_of_isPrefixOf_append hp (by omega)
        refine Or.inl ⟨by omega, List.isPrefixOf_iff_prefix.2 ?_⟩
        rw [hx]
        exact List.take_prefix _ _

theorem startsWithIncompleteOrphanedSgrMouseTail_append {x : Bytes}
    (h : startsWithIncompleteOrphanedSgrMouseTail x = false) (t : Bytes) :
    startsWithIncompleteOrphanedSgrMouseTail (x ++ t) = false := by
  rw [Bool.eq_false_iff]
  intro happend
  rw [startsWithIncompleteOrphanedSgrMouseTail_of_append happend] at h
  cases h

/-- A complete orphaned report stays complete. -/
theorem completeOrphanedSgrMouseTailLen_append {x : Bytes} {n : ℕ}
    (h : completeOrphanedSgrMouseTailLen x = some n) (t : Bytes) :
    completeOrphanedSgrMouseTailLen (x ++ t) = some n ∧ 0 < n ∧ n ≤ x.length := by
  simp only [completeOrphanedSgrMouseTailLen, Option.bind_eq_bind] at h
  split at h
  · cases h
  · rename_i hp
    obtain ⟨stop, hstop, h⟩ := Option.bind_eq_some_iff.1 h
    obtain ⟨sequence, hsequence, h⟩ := Option.bind_eq_some_iff.1 h
    obtain ⟨event, hevent, h⟩ := Option.bind_eq_some_iff.1 h
    cases h
    have hlt := (List.findIdx?_eq_some_iff_getElem.1 hstop).1
    rw [List.length_take] at hlt
    have hstop' : ((x ++ t).take maxOrphanedSgrMouseTailBytes).findIdx?
        (fun b => b == 0x4d || b == 0x6d) = some stop := by
      rw [List.take_append, findIdx?_append_of_some hstop]
    have hp' : ¬ (!(ascii "[<").isPrefixOf (x ++ t)) = true := by
      rw [Bool.not_eq_true', Bool.not_eq_false] at hp ⊢
      exact isPrefixOf_append hp t
    refine ⟨?_, by omega, by omega⟩
    simp only [completeOrphanedSgrMouseTailLen, Option.bind_eq_bind]
    rw [if_neg hp', hstop', Option.bind_some, List.take_append_of_le_length (by omega), hsequence,
      Option.bind_some, hevent]
    rfl

namespace RawInputByteFramer

/-- The framer has just flushed a lone escape, its buffer is neither an orphaned mouse
report nor, for the framer, the beginning of one, and with the bytes `t` it starts with an
orphaned report. -/
def SplitsOrphanedReport (f : RawInputByteFramer) (t : Bytes) : Prop :=
  f.panicked = false ∧ f.loneEscapeRecentlyFlushed = true ∧
    startsWithIncompleteOrphanedSgrMouseTail f.buffer = false ∧
    completeOrphanedSgrMouseTailLen f.buffer = none ∧
    completeOrphanedSgrMouseTailLen (f.buffer ++ t) ≠ none

variable {f f' : RawInputByteFramer}

/-- Every turn but the first is made with no flushed escape. -/
theorem iterate_eq_iterateRest (hp : f.panicked = false)
    (hflag : f.loneEscapeRecentlyFlushed = false) : f.iterate = f.iterateRest := by
  simp [iterate, hp, hflag]

theorem forgetEscape_eq (hflag : f.loneEscapeRecentlyFlushed = false) : f.forgetEscape = f := by
  rw [forgetEscape, ← hflag]

/-- A panicked framer does nothing. -/
theorem iterate_panicked (hp : f.panicked = true) : f.iterate = .stop f := by
  simp [iterate, hp]

/-- What the first turn after a flushed escape does. -/
theorem iterate_flushed (hp : f.panicked = false) (hflag : f.loneEscapeRecentlyFlushed = true) :
    f.iterate = if startsWithIncompleteOrphanedSgrMouseTail f.buffer then .stop f
      else match completeOrphanedSgrMouseTailLen f.buffer with
        | some len =>
          .next [] { f with buffer := f.buffer.drop len, loneEscapeRecentlyFlushed := false }
        | none => f.forgetEscape.iterate := by
  rw [iterate_eq_iterateRest (f := f.forgetEscape) hp rfl]
  simp only [iterate, hp, hflag, Bool.false_eq_true, if_false, if_true] <;> rfl

/-- A flushed escape is forgotten before what is no orphaned report. -/
theorem iterate_forget (hp : f.panicked = false)
    (hincomplete : startsWithIncompleteOrphanedSgrMouseTail f.buffer = false)
    (hcomplete : completeOrphanedSgrMouseTailLen f.buffer = none) :
    f.iterate = f.forgetEscape.iterate := by
  cases hflag : f.loneEscapeRecentlyFlushed with
  | true => rw [iterate_flushed hp hflag, hincomplete, hcomplete, if_neg Bool.false_ne_true]
  | false => rw [forgetEscape_eq hflag]

/-! ## What one turn does -/

@[simp] theorem noteEvent_frame (f : RawInputByteFramer) (event : RawInputEvent) :
    (f.noteEvent event).discardUntil = f.discardUntil ∧
      (f.noteEvent event).loneEscapeRecentlyFlushed = f.loneEscapeRecentlyFlushed := by
  cases event with
  | outerFocusGained =>
    simp only [noteEvent]
    split <;> exact ⟨rfl, rfl⟩
  | hostColorSchemeChanged appearance =>
    simp only [noteEvent]
    split <;> exact ⟨rfl, rfl⟩
  | _ => exact ⟨rfl, rfl⟩

variable {out : List Bytes}

/-- An event moves its bytes from the buffer to a chunk. -/
theorem iterateEvent_next_spec (h : f.iterateEvent = .next out f') :
    out.flatten ++ f'.buffer = f.buffer ∧ (∀ chunk ∈ out, chunk ≠ []) ∧
      f'.buffer.length < f.buffer.length ∧ f'.discardUntil = f.discardUntil ∧
      f'.loneEscapeRecentlyFlushed = f.loneEscapeRecentlyFlushed := by
  unfold iterateEvent at h
  split at h
  · rename_i hsplit
    cases h
    obtain ⟨r, hr⟩ := List.isPrefixOf_iff_prefix.1 (Bool.and_eq_true_iff.1 hsplit).2
    simp [← hr, ascii, esc]
  · split at h
    · cases h
    · cases h
    · rename_i event consumed he
      cases h
      obtain ⟨hpos, hle⟩ := extractOneEvent_consumed he
      refine ⟨by simp, ?_, ?_, noteEvent_frame f event⟩
      · intro chunk hchunk
        rw [List.mem_singleton.1 hchunk, ← List.length_pos_iff, List.length_take]
        omega
      · rw [List.length_drop]
        omega

variable {x : Bytes}

theorem scanTail_length_le {skip final : UInt8 → Bool} {k : ℕ} {rest : Bytes}
    (h : scanTail skip final k x = some rest) : rest.length ≤ x.length := by
  induction k generalizing x with
  | zero => simp at h
  | succ k ih =>
    cases x with
    | nil => cases h
    | cons b x =>
      rw [scanTail] at h
      split_ifs at h
      · exact Nat.le_succ_of_le (ih h)
      · cases h
        exact Nat.le_succ _
      · cases h
        exact Nat.le_refl _

/-- A tail that ended leaves no more than there was. -/
theorem iterateTail_next_spec {skip final : UInt8 → Bool} {c : ℕ}
    (h : f.iterateTail (discardTail skip final f.buffer c) = .next out f') :
    ∃ rest, out = [] ∧ f' = f.discarded rest ∧ rest.length ≤ f.buffer.length := by
  rcases hd : discardTail skip final f.buffer c with ⟨done, rest, d⟩
  rw [hd] at h
  cases done with
  | false => cases h
  | true =>
    cases h
    refine ⟨rest, rfl, rfl, ?_⟩
    simp only [discardTail] at hd
    split at hd
    · rename_i r hscan
      cases hd
      exact scanTail_length_le hscan
    · simp only [Prod.mk.injEq] at hd
      rw [← hd.2.1, List.length_drop]
      omega

/-- What a turn that goes on does : it makes the framer smaller, and it conserves the
bytes while nothing is discarded. -/
structure Turn (f : RawInputByteFramer) (out : List Bytes) (f' : RawInputByteFramer) : Prop where
  size_lt : f'.size < f.size
  flushed : f'.loneEscapeRecentlyFlushed = false
  discardUntil : f.discardUntil = none → f'.discardUntil = none
  conserves : f.discardUntil = none → f.loneEscapeRecentlyFlushed = false →
    out.flatten ++ f'.buffer = f.buffer
  nonempty : ∀ chunk ∈ out, chunk ≠ []

/-- The end of a discard is a turn. -/
theorem turn_discarded {rest : Bytes} {family : ControlStringFamily}
    (hflag : f.loneEscapeRecentlyFlushed = false) (hd : f.discardUntil = some family)
    (hle : rest.length ≤ f.buffer.length) : Turn f [] (f.discarded rest) := by
  refine ⟨?_, hflag, fun _ => rfl, fun hnone => ?_, by simp⟩
  · simp only [size, discarded, hd, Option.isSome_some, Option.isSome_none, if_true,
      Bool.false_eq_true, if_false]
    omega
  · rw [hd] at hnone
    cases hnone

theorem iterateRest_turn (hflag : f.loneEscapeRecentlyFlushed = false)
    (h : f.iterateRest = .next out f') : Turn f out f' := by
  have htail {skip final : UInt8 → Bool} {family : ControlStringFamily}
      (hd : f.discardUntil = some family)
      (h : f.iterateTail (discardTail skip final f.buffer f.discardedTailBytes) = .next out f') :
      Turn f out f' := by
    obtain ⟨rest, rfl, rfl, hle⟩ := iterateTail_next_spec h
    exact turn_discarded hflag hd hle
  have hstring {family : ControlStringFamily} (hd : f.discardUntil = some family)
      (h : f.iterateString family = .next out f') : Turn f out f' := by
    unfold iterateString at h
    split at h
    · cases h
    · cases h
      exact turn_discarded hflag hd (by simp)
  unfold iterateRest at h
  cases hd : f.discardUntil with
  | none =>
    simp only [hd] at h
    obtain ⟨hbytes, hne, hlt, hd', hflag'⟩ := iterateEvent_next_spec h
    refine ⟨?_, hflag' ▸ hflag, fun _ => hd' ▸ hd, fun _ _ => hbytes, hne⟩
    simp only [size, hd', hd, Option.isSome_none, Bool.false_eq_true, if_false]
    omega
  | some family =>
    simp only [hd] at h
    cases family with
    | orphanedSgrMouseTail => exact htail hd h
    | hostReplyCsi => exact htail hd h
    | osc => exact hstring hd h
    | stTerminated => exact hstring hd h

theorem iterate_turn (h : f.iterate = .next out f') : Turn f out f' := by
  cases hp : f.panicked with
  | true =>
    rw [iterate_panicked hp] at h
    cases h
  | false =>
    cases hflag : f.loneEscapeRecentlyFlushed with
    | false =>
      rw [iterate_eq_iterateRest hp hflag] at h
      exact iterateRest_turn hflag h
    | true =>
      have hno : f.loneEscapeRecentlyFlushed ≠ false := by simp [hflag]
      rw [iterate_flushed hp hflag] at h
      split at h
      · cases h
      · cases hlen : completeOrphanedSgrMouseTailLen f.buffer with
        | some len =>
          simp only [hlen] at h
          cases h
          obtain ⟨-, hpos, hle⟩ := completeOrphanedSgrMouseTailLen_append hlen []
          refine ⟨?_, rfl, fun hd => hd, fun _ h => absurd h hno, by simp⟩
          simp only [size, List.length_drop]
          omega
        | none =>
          simp only [hlen] at h
          rw [iterate_eq_iterateRest (by exact hp) rfl] at h
          obtain ⟨hlt, hflag', hd', -, hne⟩ := iterateRest_turn rfl h
          exact ⟨hlt, hflag', hd', fun _ h => absurd h hno, hne⟩

/-- Every turn that goes on makes the framer smaller. -/
theorem iterate_size_lt (f : RawInputByteFramer) (out : List Bytes) (f' : RawInputByteFramer)
    (h : f.iterate = .next out f') : f'.size < f.size :=
  (iterate_turn h).size_lt

/-- What a turn that stops does : it keeps the bytes while nothing is discarded, and a
flushed escape is remembered only before what may become an orphaned report. -/
structure Halt (f f' : RawInputByteFramer) : Prop where
  discardUntil : f'.discardUntil = f.discardUntil
  buffer : f.discardUntil = none → f'.buffer = f.buffer
  flushed : f'.loneEscapeRecentlyFlushed = true →
    f' = f ∧ (f.panicked = true ∨ startsWithIncompleteOrphanedSgrMouseTail f.buffer = true)

theorem iterateRest_halt (hflag : f.loneEscapeRecentlyFlushed = false)
    (h : f.iterateRest = .stop f') : Halt f f' := by
  have hflag' : f'.loneEscapeRecentlyFlushed ≠ true := by
    rw [(iterateRest_stop h []).1, hflag]
    exact Bool.false_ne_true
  unfold iterateRest at h
  cases hd : f.discardUntil with
  | none =>
    simp only [hd] at h
    obtain rfl | ⟨rfl, -⟩ := iterateEvent_stop h []
    · exact ⟨rfl, fun _ => rfl, fun h => absurd h hflag'⟩
    · exact ⟨rfl, fun _ => rfl, fun h => absurd h hflag'⟩
  | some family =>
    have hsome : f.discardUntil ≠ none := by simp [hd]
    simp only [hd] at h
    cases family with
    | orphanedSgrMouseTail =>
      obtain ⟨rfl, -⟩ := iterateTail_stop h []
      exact ⟨rfl, fun h => absurd h hsome, fun h => absurd h hflag'⟩
    | hostReplyCsi =>
      obtain ⟨rfl, -⟩ := iterateTail_stop h []
      exact ⟨rfl, fun h => absurd h hsome, fun h => absurd h hflag'⟩
    | osc =>
      obtain rfl := iterateString_stop h
      exact ⟨rfl, fun _ => rfl, fun h => absurd h hflag'⟩
    | stTerminated =>
      obtain rfl := iterateString_stop h
      exact ⟨rfl, fun _ => rfl, fun h => absurd h hflag'⟩

theorem iterate_halt (h : f.iterate = .stop f') : Halt f f' := by
  cases hp : f.panicked with
  | true =>
    rw [iterate_panicked hp] at h
    cases h
    exact ⟨rfl, fun _ => rfl, fun _ => ⟨rfl, Or.inl hp⟩⟩
  | false =>
    cases hflag : f.loneEscapeRecentlyFlushed with
    | false =>
      rw [iterate_eq_iterateRest hp hflag] at h
      exact iterateRest_halt hflag h
    | true =>
      rw [iterate_flushed hp hflag] at h
      split at h
      · rename_i hincomplete
        cases h
        exact ⟨rfl, fun _ => rfl, fun _ => ⟨rfl, Or.inr hincomplete⟩⟩
      · cases hlen : completeOrphanedSgrMouseTailLen f.buffer with
        | some len =>
          simp only [hlen] at h
          cases h
        | none =>
          simp only [hlen] at h
          rw [iterate_eq_iterateRest (by exact hp) rfl] at h
          obtain ⟨hd, hbuffer, -⟩ := iterateRest_halt rfl h
          refine ⟨hd, hbuffer, fun htrue => ?_⟩
          rw [(iterateRest_stop h []).1] at htrue
          cases htrue

/-! ## Pieces -/

/-- The three ways a turn begins : the framer panicked, or a flushed escape is followed by
what may become or is an orphaned report, or the turn is as without a flushed escape, also
with the bytes `t` behind the buffer. -/
theorem iterate_cases {t : Bytes} (hgood : ¬ f.SplitsOrphanedReport t) : (f.iterate = .stop f) ∨
    (∃ len, f.panicked = false ∧ f.loneEscapeRecentlyFlushed = true ∧
      startsWithIncompleteOrphanedSgrMouseTail f.buffer = false ∧
      completeOrphanedSgrMouseTailLen f.buffer = some len) ∨
    (f.panicked = false ∧ f.iterate = f.forgetEscape.iterateRest ∧
      (f.extend t).iterate =
        (f.forgetEscape.extend t).iterateRest) := by
  cases hp : f.panicked with
  | true => exact Or.inl (iterate_panicked hp)
  | false =>
    cases hflag : f.loneEscapeRecentlyFlushed with
    | false =>
      refine Or.inr (Or.inr ⟨rfl, ?_, ?_⟩)
      · rw [iterate_eq_iterateRest hp hflag, forgetEscape_eq hflag]
      · rw [iterate_eq_iterateRest (by exact hp) (by exact hflag), forgetEscape_eq hflag]
    | true =>
      cases hincomplete : startsWithIncompleteOrphanedSgrMouseTail f.buffer with
      | true => exact Or.inl (by rw [iterate_flushed hp hflag, if_pos hincomplete])
      | false =>
        cases hcomplete : completeOrphanedSgrMouseTailLen f.buffer with
        | some len => exact Or.inr (Or.inl ⟨len, rfl, rfl, rfl, rfl⟩)
        | none =>
          have hcomplete' : completeOrphanedSgrMouseTailLen (f.buffer ++ t) = none := by
            by_contra hne
            exact hgood ⟨hp, hflag, hincomplete, hcomplete, hne⟩
          have hincomplete' := startsWithIncompleteOrphanedSgrMouseTail_append hincomplete t
          refine Or.inr (Or.inr ⟨rfl, ?_, ?_⟩)
          · rw [iterate_forget hp hincomplete hcomplete, iterate_eq_iterateRest (by exact hp) rfl]
          · rw [iterate_forget (by exact hp) hincomplete' hcomplete',
              iterate_eq_iterateRest (by exact hp) rfl]
            rfl

/-- A turn that goes on is the same with more bytes behind it. -/
theorem iterate_next {t : Bytes} (hgood : ¬ f.SplitsOrphanedReport t)
    (h : f.iterate = .next out f') : (f.extend t).iterate = .next out (f'.extend t) := by
  obtain hstop | ⟨len, hp, hflag, hincomplete, hcomplete⟩ | ⟨-, hrest, hrest'⟩ :=
    iterate_cases hgood
  · rw [hstop] at h
    cases h
  · rw [iterate_flushed hp hflag, hincomplete, hcomplete, if_neg Bool.false_ne_true] at h
    cases h
    obtain ⟨hcomplete', -, hle⟩ := completeOrphanedSgrMouseTailLen_append hcomplete t
    have hincomplete' := startsWithIncompleteOrphanedSgrMouseTail_append hincomplete t
    rw [iterate_flushed (by exact hp) (by exact hflag)]
    simp only [extend, hincomplete', hcomplete', Bool.false_eq_true, if_false,
      List.drop_append_of_le_length hle]
  · rw [hrest] at h
    rw [hrest']
    exact iterateRest_next h t

/-- After a turn that stops, the bytes that come later are read as if they had been
there. -/
theorem iterate_stop {t : Bytes} (hgood : ¬ f.SplitsOrphanedReport t) (h : f.iterate = .stop f') :
    (f.extend t).iterate = (f'.extend t).iterate := by
  obtain hstop | ⟨len, hp, hflag, hincomplete, hcomplete⟩ | ⟨hp, hrest, hrest'⟩ :=
    iterate_cases hgood
  · rw [hstop] at h
    cases h
    rfl
  · rw [iterate_flushed hp hflag, hincomplete, hcomplete, if_neg Bool.false_ne_true] at h
    cases h
  · rw [hrest] at h
    rw [hrest']
    obtain ⟨hflag, ⟨hp', heq⟩ | ⟨hp', heq⟩⟩ := iterateRest_stop h t
    · rw [heq, iterate_eq_iterateRest (by exact hp'.trans hp) (by exact hflag)]
    · rw [heq, iterate_panicked (by exact hp')]

/-- Unless the cut splits an orphaned report, the bytes before it and the bytes after it
are framed as if they had come together. -/
theorem push_append {a b : Bytes} (hgood : ¬ (f.extend a).SplitsOrphanedReport b) :
    f.push (a ++ b) =
      ((f.push a).1 ++ ((f.push a).2.push b).1, ((f.push a).2.push b).2) := by
  have hextend : f.extend (a ++ b) = (f.extend a).extend b := by
    simp only [extend, List.append_assoc]
  rw [push, hextend]
  refine drain_extend iterate_size_lt (P := fun g => ¬ g.SplitsOrphanedReport b) ?_ ?_ ?_
    (f.extend a) hgood
  · intro g out g' _ hnext hsplits
    rw [SplitsOrphanedReport, (iterate_turn hnext).flushed] at hsplits
    cases hsplits.2.1
  · intro g out g' hg hnext
    exact iterate_next hg hnext
  · intro g g' hg hstop
    exact iterate_stop hg hstop

/-! ## Conservation -/

theorem drainAvailableChunks_nonempty (f : RawInputByteFramer) :
    ∀ chunk ∈ f.drainAvailableChunks.1, chunk ≠ [] := by
  refine drain_induction iterate_size_lt
    (I := fun _ outs _ => ∀ chunk ∈ outs, chunk ≠ []) ?_ ?_ f
  · intro g g' _ chunk hchunk
    cases hchunk
  · intro g out g' outs g'' hnext ih chunk hchunk
    obtain hchunk | hchunk := List.mem_append.1 hchunk
    · exact (iterate_turn hnext).nonempty chunk hchunk
    · exact ih chunk hchunk

/-- While nothing is discarded, the chunks and the buffer are the bytes that came. -/
theorem drainAvailableChunks_conserves (hd : f.discardUntil = none)
    (hflag : f.loneEscapeRecentlyFlushed = false) :
    f.drainAvailableChunks.1.flatten ++ f.drainAvailableChunks.2.buffer = f.buffer ∧
      f.drainAvailableChunks.2.discardUntil = none ∧
      f.drainAvailableChunks.2.loneEscapeRecentlyFlushed = false := by
  refine drain_induction iterate_size_lt
    (I := fun g outs g' => g.discardUntil = none → g.loneEscapeRecentlyFlushed = false →
      outs.flatten ++ g'.buffer = g.buffer ∧ g'.discardUntil = none ∧
        g'.loneEscapeRecentlyFlushed = false) ?_ ?_ f hd hflag
  · intro g g' hstop hd hflag
    have hhalt := iterate_halt hstop
    refine ⟨hhalt.buffer hd, hhalt.discardUntil.trans hd, ?_⟩
    rw [Bool.eq_false_iff]
    intro htrue
    rw [(hhalt.flushed htrue).1, hflag] at htrue
    cases htrue
  · intro g out g' outs g'' hnext ih hd hflag
    have hturn := iterate_turn hnext
    obtain ⟨hbytes, hd'', hflag''⟩ := ih (hturn.discardUntil hd) hturn.flushed
    refine ⟨?_, hd'', hflag''⟩
    rw [List.flatten_append, List.append_assoc, hbytes, hturn.conserves hd hflag]

theorem push_conserves (hd : f.discardUntil = none) (hflag : f.loneEscapeRecentlyFlushed = false)
    (data : Bytes) : (f.push data).1.flatten ++ (f.push data).2.buffer = f.buffer ++ data ∧
      (f.push data).2.discardUntil = none ∧
      (f.push data).2.loneEscapeRecentlyFlushed = false :=
  drainAvailableChunks_conserves (f := f.extend data) hd hflag

/-! ## Reachable framers -/

/-- What the reader does with a framer. -/
inductive Op where
  | push (data : Bytes)
  | flushTimeout
  | hostColorQuerySent
  | hostCellSizeQuerySent
  | enableHostColorSchemeChangeTracking
  | enableHostAppearanceQueryOnFocus

def apply (f : RawInputByteFramer) : Op → RawInputByteFramer
  | .push data => (f.push data).2
  | .flushTimeout => f.flushTimeout.2
  | .hostColorQuerySent => f.hostColorQuerySent
  | .hostCellSizeQuerySent => f.hostCellSizeQuerySent
  | .enableHostColorSchemeChangeTracking => f.enableHostColorSchemeChangeTracking
  | .enableHostAppearanceQueryOnFocus => f.enableHostAppearanceQueryOnFocus

/-- A flushed escape is remembered only while nothing is discarded. -/
def Coherent (f : RawInputByteFramer) : Prop :=
  f.loneEscapeRecentlyFlushed = true → f.discardUntil = none

/-- The loop keeps coherence, and remembers a flushed escape only before what may become an
orphaned report. -/
theorem drainAvailableChunks_coherent (f : RawInputByteFramer) (hf : f.Coherent) :
    f.drainAvailableChunks.2.Coherent ∧
      (f.drainAvailableChunks.2.loneEscapeRecentlyFlushed = true →
        f.drainAvailableChunks.2.panicked = true ∨
          startsWithIncompleteOrphanedSgrMouseTail f.drainAvailableChunks.2.buffer = true) := by
  refine drain_induction iterate_size_lt
    (I := fun g _ g' => g.Coherent → g'.Coherent ∧ (g'.loneEscapeRecentlyFlushed = true →
      g'.panicked = true ∨ startsWithIncompleteOrphanedSgrMouseTail g'.buffer = true)) ?_ ?_ f hf
  · intro g g' hstop hg
    have hhalt := iterate_halt hstop
    refine ⟨fun htrue => ?_, fun htrue => ?_⟩
    · obtain ⟨rfl, -⟩ := hhalt.flushed htrue
      exact hg htrue
    · obtain ⟨rfl, h⟩ := hhalt.flushed htrue
      exact h
  · intro g out g' outs g'' hnext ih _
    refine ih fun htrue => ?_
    rw [(iterate_turn hnext).flushed] at htrue
    cases htrue

theorem flushInput_discardUntil (f : RawInputByteFramer) :
    f.flushInput.2.discardUntil = f.discardUntil := by
  unfold flushInput
  split_ifs <;> rfl

theorem isPrefixOf_escape_eq_false {lead : Bytes} (h : x.head? ≠ some esc) :
    (esc :: lead).isPrefixOf x = false := by
  cases x with
  | nil => rfl
  | cons b x =>
    have hb : ¬ esc = b := fun hb => h (by rw [← hb, List.head?_cons])
    simp [List.isPrefixOf, hb]

theorem controlString_eq_none (h : x.head? ≠ some esc) : controlString x = none := by
  have hfamily : controlStringFamily x = none := by
    unfold controlStringFamily
    split
    · rename_i a b rest
      have ha : ¬ a = esc := fun ha => h (by rw [ha, List.head?_cons])
      simp [ha]
    · rfl
  rw [controlString, hfamily, Option.map_none]

/-- A buffer that does not start with an escape is no host reply. -/
theorem flushReply_eq_flushInput (h : f.buffer.head? ≠ some esc) : f.flushReply = f.flushInput := by
  have hcsi : (ascii "\x1b[").isPrefixOf f.buffer = false := isPrefixOf_escape_eq_false h
  have hquery : (ascii "\x1b[?").isPrefixOf f.buffer = false := isPrefixOf_escape_eq_false h
  simp [flushReply, startsWithIncompleteHostCellSizeReport, hcsi,
    startsWithIncompleteDefaultColorResponse, controlString_eq_none h,
    startsWithIncompleteHostColorSchemeReport, hquery]

theorem flushReply_coherent (hd : f.discardUntil = none)
    (hflag : f.loneEscapeRecentlyFlushed = false) : f.flushReply.2.Coherent := by
  have hkeep {g : RawInputByteFramer} (hg : g.loneEscapeRecentlyFlushed = false) :
      g.Coherent := fun htrue => by
    rw [hg] at htrue
    cases htrue
  unfold flushReply
  split
  · exact hkeep hflag
  · split
    · exact hkeep hflag
    · split
      · split <;> exact hkeep hflag
      · split
        · exact hkeep hflag
        · exact fun _ => f.flushInput_discardUntil.trans hd

/-- What may become an orphaned report does not start with an escape. -/
theorem head?_ne_esc_of_incompleteOrphanedSgrMouseTail
    (h : startsWithIncompleteOrphanedSgrMouseTail x = true) : x.head? ≠ some esc := by
  unfold startsWithIncompleteOrphanedSgrMouseTail at h
  cases x with
  | nil => simp
  | cons b x =>
    have hb (hb : b = 0x5b) : (b :: x).head? ≠ some esc := by
      rw [hb, List.head?_cons]
      decide
    split at h
    · cases h
    · simp only [Bool.or_eq_true, Bool.and_eq_true, List.isPrefixOf_iff_prefix] at h
      obtain ⟨-, r, hr⟩ | ⟨⟨r, hr⟩, -⟩ := h
      · exact hb (List.head_eq_of_cons_eq hr)
      · exact hb (List.head_eq_of_cons_eq hr).symm

/-- The flush of what is left after the loop. -/
theorem flushPending_coherent (hd : f.discardUntil = none)
    (hflag : f.loneEscapeRecentlyFlushed = true →
      startsWithIncompleteOrphanedSgrMouseTail f.buffer = true) : f.flushPending.2.Coherent := by
  have hkeep {g : RawInputByteFramer} (hg : g.loneEscapeRecentlyFlushed = false) :
      g.Coherent := fun htrue => by
    rw [hg] at htrue
    cases htrue
  cases hflush : f.loneEscapeRecentlyFlushed with
  | true =>
    have hhead := head?_ne_esc_of_incompleteOrphanedSgrMouseTail (hflag hflush)
    have hsgr : (ascii "\x1b[<").isPrefixOf f.buffer = false := isPrefixOf_escape_eq_false hhead
    have hpaste : bracketedPasteStart.isPrefixOf f.buffer = false :=
      isPrefixOf_escape_eq_false hhead
    have hcsi : (f.buffer == ascii "\x1b[") = false := by
      rw [beq_eq_false_iff_ne]
      intro heq
      exact hhead (by rw [heq]; rfl)
    unfold flushPending
    split
    · exact hkeep rfl
    · simp only [startsWithIncompleteSgrMouseSequence, hsgr, hpaste, hcsi, Bool.false_and,
        Bool.and_false, Bool.false_eq_true, if_false, flushReply_eq_flushInput hhead]
      exact fun _ => f.flushInput_discardUntil.trans hd
  | false =>
    unfold flushPending
    split
    · exact hkeep rfl
    · split
      · exact hkeep hflush
      · split
        · exact hkeep hflush
        · split
          · split
            · exact hkeep hflush
            · exact flushReply_coherent hd hflush
          · exact flushReply_coherent hd hflush

theorem flushDiscard_flushed (f : RawInputByteFramer) (family : ControlStringFamily) :
    (f.flushDiscard family).loneEscapeRecentlyFlushed = f.loneEscapeRecentlyFlushed := by
  cases family with
  | hostReplyCsi => rfl
  | orphanedSgrMouseTail => rfl
  | osc =>
    simp only [flushDiscard]
    split <;> rfl
  | stTerminated =>
    simp only [flushDiscard]
    split <;> rfl

theorem flushTimeout_coherent (hf : f.Coherent) : f.flushTimeout.2.Coherent := by
  obtain ⟨hdrained, hflag⟩ := f.drainAvailableChunks_coherent hf
  unfold flushTimeout
  generalize f.drainAvailableChunks = drained at hdrained hflag
  obtain ⟨chunks, g⟩ := drained
  simp only at hdrained hflag ⊢
  split
  · exact hdrained
  · rename_i hp
    cases hd : g.discardUntil with
    | some family =>
      simp only
      intro htrue
      rw [flushDiscard_flushed] at htrue
      rw [hdrained htrue] at hd
      cases hd
    | none =>
      simp only
      split
      · exact hdrained
      · refine flushPending_coherent hd fun htrue => ?_
        exact (hflag htrue).resolve_left hp

theorem apply_coherent (f : RawInputByteFramer) (op : Op) (hf : f.Coherent) :
    (f.apply op).Coherent := by
  cases op with
  | push data => exact ((f.extend data).drainAvailableChunks_coherent hf).1
  | flushTimeout => exact flushTimeout_coherent hf
  | hostColorQuerySent => exact hf
  | hostCellSizeQuerySent => exact hf
  | enableHostColorSchemeChangeTracking => exact hf
  | enableHostAppearanceQueryOnFocus => exact hf

/-- The framer after the operations `ops`, from a new one. -/
def reached (preserveLegacyDoubledEscapeInput : Bool) (ops : List Op) : RawInputByteFramer :=
  StepRun.run apply (withHostInputPolicy preserveLegacyDoubledEscapeInput) ops

theorem reached_coherent (preserve : Bool) (ops : List Op) : (reached preserve ops).Coherent :=
  StepRun.run_invariant apply_coherent (fun h => by cases h) ops

/-! ## Chunking invariance -/

/-- Two pushes are one push of their bytes; and while nothing is discarded and no escape
was just flushed, the chunks and the buffer are the bytes that came, with no empty chunk. -/
def ChunkingInvariant (f : RawInputByteFramer) (a b : Bytes) : Prop :=
  f.push (a ++ b) = ((f.push a).1 ++ ((f.push a).2.push b).1, ((f.push a).2.push b).2) ∧
    (f.discardUntil = none → f.loneEscapeRecentlyFlushed = false → ∀ data,
      (f.push data).1.flatten ++ (f.push data).2.buffer = f.buffer ++ data ∧
        ∀ chunk ∈ (f.push data).1, chunk ≠ [])

/-- In one piece, an orphaned report that the cut would split is dropped. -/
theorem push_of_splitsOrphanedReport {a b : Bytes} (hf : f.Coherent)
    (h : (f.extend a).SplitsOrphanedReport b) :
    ((f.push (a ++ b)).1.flatten ++ (f.push (a ++ b)).2.buffer).length <
      (f.buffer ++ (a ++ b)).length := by
  obtain ⟨hp, hflag, hincomplete, -, hcomplete⟩ := h
  obtain ⟨len, hlen⟩ := Option.ne_none_iff_exists'.1 hcomplete
  obtain ⟨-, hpos, hle⟩ := completeOrphanedSgrMouseTailLen_append hlen []
  have hincomplete' := startsWithIncompleteOrphanedSgrMouseTail_append hincomplete b
  simp only [extend, List.append_assoc] at hlen hle hincomplete'
  have hstep : (f.extend (a ++ b)).iterate = .next []
      { f with buffer := (f.buffer ++ (a ++ b)).drop len, loneEscapeRecentlyFlushed := false } := by
    rw [iterate_flushed (by exact hp) (by exact hflag)]
    simp only [extend, hincomplete', hlen, Bool.false_eq_true, if_false]
  rw [push, drainAvailableChunks, drain_eq iterate_size_lt, hstep]
  obtain ⟨hbytes, -⟩ := drainAvailableChunks_conserves
    (f := { f with buffer := (f.buffer ++ (a ++ b)).drop len, loneEscapeRecentlyFlushed := false })
    (hf hflag) rfl
  simp only [List.nil_append]
  rw [drainAvailableChunks] at hbytes
  rw [hbytes, List.length_drop]
  omega

/-- In two pieces, it is not. -/
theorem push_push_of_splitsOrphanedReport {a b : Bytes} (hf : f.Coherent)
    (h : (f.extend a).SplitsOrphanedReport b) :
    ((f.push a).1 ++ ((f.push a).2.push b).1).flatten ++ ((f.push a).2.push b).2.buffer =
      f.buffer ++ (a ++ b) := by
  obtain ⟨hp, hflag, hincomplete, hcomplete, -⟩ := h
  have hforget : f.push a = f.forgetEscape.push a :=
    drain_congr iterate_size_lt (iterate_forget hp hincomplete hcomplete)
  obtain ⟨hbytes, hd, hflag'⟩ := push_conserves (f := f.forgetEscape) (hf hflag) rfl a
  obtain ⟨hbytes', -⟩ := push_conserves hd hflag' b
  rw [hforget, List.flatten_append, List.append_assoc, hbytes', ← List.append_assoc, hbytes,
    ← List.append_assoc]
  rfl

/-- The cut between two pushes is invisible exactly when it does not split an orphaned
mouse report that the framer does not take for the beginning of one. -/
theorem chunking_invariant_iff (preserveLegacyDoubledEscapeInput : Bool) (ops : List Op)
    (a b : Bytes) :
    (reached preserveLegacyDoubledEscapeInput ops).ChunkingInvariant a b ↔
      ¬ ((reached preserveLegacyDoubledEscapeInput ops).extend a).SplitsOrphanedReport b := by
  have hf := reached_coherent preserveLegacyDoubledEscapeInput ops
  constructor
  · rintro ⟨hpush, -⟩ hsplits
    have hlt := push_of_splitsOrphanedReport hf hsplits
    rw [hpush, push_push_of_splitsOrphanedReport hf hsplits] at hlt
    exact Nat.lt_irrefl _ hlt
  · intro hgood
    refine ⟨push_append hgood, fun hd hflag data => ⟨(push_conserves hd hflag data).1, ?_⟩⟩
    exact (RawInputByteFramer.extend _ data).drainAvailableChunks_nonempty

/-- A mouse report after a flushed escape, with a sign before its first number : dropped in
one piece, typed as text when it is cut after the sign. -/
theorem chunking_invariant_signed_report :
    ¬ (reached true [.push [esc], .flushTimeout]).ChunkingInvariant (ascii "[<+")
      (ascii "0;1;1M") := by
  rintro ⟨hpush, -⟩
  exact absurd hpush (by decide)

end RawInputByteFramer

end Zynk
