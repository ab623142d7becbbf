import Zynk.Input.Chunking
import Zynk.Lib.Pieces

/-!
# Chunks in order

The framer works from the front of its buffer. Whatever it is told to discard, the chunks it
returns are pieces of the bytes it was given, disjoint and in order, and what is still in its buffer
lies behind all of them (`push_taken`, `flushTimeout_taken`).
-/

namespace Zynk

open Text Resumable

theorem scanTail_suffix {skip final : UInt8 → Bool} {k : ℕ} {x rest : Bytes}
    (h : scanTail skip final k x = some rest) : rest <:+ x := by
  induction k generalizing x with
  | zero => simp at h
  | succ k ih =>
    cases x with
    | nil => cases h
    | cons b x =>
      rw [scanTail] at h
      split_ifs at h
      · exact (ih h).trans (List.suffix_cons b x)
      · cases h
        exact List.suffix_cons b rest
      · cases h
        exact List.suffix_refl _

theorem discardTail_suffix {skip final : UInt8 → Bool} {x rest : Bytes} {c d : ℕ} {done : Bool}
    (h : discardTail skip final x c = (done, rest, d)) : rest <:+ x := by
  simp only [discardTail] at h
  split at h
  · rename_i hscan
    cases h
    exact scanTail_suffix hscan
  · cases h
    exact List.drop_suffix _ x

namespace RawInputByteFramer

/-- What one turn does with the buffer, whether the loop goes on or stops. -/
def TurnTakes (f : RawInputByteFramer) : Iter RawInputByteFramer Bytes → Prop
  | .stop f' => Taken f.buffer [] f'.buffer
  | .next out f' => Taken f.buffer out f'.buffer

theorem iterateTail_takes {skip final : UInt8 → Bool} (f : RawInputByteFramer) (c : ℕ) :
    f.TurnTakes (f.iterateTail (discardTail skip final f.buffer c)) := by
  rcases h : discardTail skip final f.buffer c with ⟨done, rest, d⟩
  have hsuffix := discardTail_suffix h
  cases done with
  | false => exact .dropped hsuffix
  | true => exact .dropped hsuffix

theorem iterateString_takes (f : RawInputByteFramer) (family : ControlStringFamily) :
    f.TurnTakes (f.iterateString family) := by
  unfold iterateString
  cases controlStringTerminatorForFamily f.buffer family with
  | none => exact .refl f.buffer
  | some len => exact .dropped (List.drop_suffix len f.buffer)

theorem iterateEvent_takes (f : RawInputByteFramer) : f.TurnTakes f.iterateEvent := by
  cases h : f.iterateEvent with
  | stop f' =>
    unfold iterateEvent at h
    split at h
    · cases h
    · split at h
      · cases h
        exact .refl f.buffer
      · cases h
        exact .refl f.buffer
      · cases h
  | next out f' =>
    unfold iterateEvent at h
    split at h
    · rename_i hsplit
      cases h
      have hfront : f.buffer = [esc] ++ f.buffer.drop 1 := by
        rw [Bool.and_eq_true, List.isPrefixOf_iff_prefix] at hsplit
        obtain ⟨t, ht⟩ := hsplit.2
        rw [← ht]
        rfl
      show Taken f.buffer [[esc]] (f.buffer.drop 1)
      conv => rw [hfront]
      exact .front [esc] _
    · split at h
      · cases h
      · cases h
      · rename_i event consumed _
        cases h
        have hfront := Taken.front (f.buffer.take consumed) (f.buffer.drop consumed)
        rw [List.take_append_drop] at hfront
        exact hfront

theorem iterateRest_takes (f : RawInputByteFramer) : f.TurnTakes f.iterateRest := by
  unfold iterateRest
  split
  · exact iterateTail_takes f _
  · exact iterateTail_takes f _
  · exact iterateString_takes f _
  · exact iterateEvent_takes f

theorem iterate_takes (f : RawInputByteFramer) : f.TurnTakes f.iterate := by
  unfold iterate
  split_ifs
  · exact .refl f.buffer
  · exact .refl f.buffer
  · split
    · rename_i len _
      exact .dropped (List.drop_suffix len f.buffer)
    · exact iterateRest_takes f.forgetEscape
  · exact iterateRest_takes f

theorem drainAvailableChunks_taken (f : RawInputByteFramer) :
    Taken f.buffer f.drainAvailableChunks.1 f.drainAvailableChunks.2.buffer := by
  refine drain_induction iterate_size_lt
    (I := fun g outs g' => Taken g.buffer outs g'.buffer) ?_ ?_ f
  · intro g g' hstop
    have hturn := iterate_takes g
    rwa [hstop] at hturn
  · intro g out g' outs g'' hnext ih
    have hturn := iterate_takes g
    rw [hnext] at hturn
    exact hturn.trans ih

theorem push_taken (f : RawInputByteFramer) (data : Bytes) :
    Taken (f.buffer ++ data) (f.push data).1 (f.push data).2.buffer :=
  drainAvailableChunks_taken (f.extend data)

/-! ## The idle flush -/

/-- Everything is dropped. -/
theorem taken_nothing (x : Bytes) : Taken x [] ([] : Bytes) :=
  .dropped (List.nil_suffix)

theorem flushDiscard_taken (f : RawInputByteFramer) (family : ControlStringFamily) :
    Taken f.buffer [] (f.flushDiscard family).buffer := by
  have hstring : ∀ c : Bool, ∀ n : ℕ, Taken f.buffer []
      (if c = true then
        { f with
          discardedTailBytes := n
          buffer := if f.buffer.getLast? == some esc then [esc] else [] }
      else f.discarded []).buffer := by
    intro c n
    split_ifs with _ hesc
    · rw [beq_iff_eq] at hesc
      refine .dropped ⟨f.buffer.dropLast, ?_⟩
      exact List.dropLast_append_getLast? esc hesc
    · exact taken_nothing f.buffer
    · exact taken_nothing f.buffer
  cases family with
  | hostReplyCsi => exact .refl f.buffer
  | orphanedSgrMouseTail => exact taken_nothing f.buffer
  | osc => exact hstring _ _
  | stTerminated => exact hstring _ _

theorem flushInput_taken (f : RawInputByteFramer) :
    Taken f.buffer f.flushInput.1 f.flushInput.2.buffer := by
  unfold flushInput
  split_ifs
  · exact .refl f.buffer
  · exact .all f.buffer
  · exact .all f.buffer
  · exact .refl f.buffer
  · exact .refl f.buffer
  · exact taken_nothing f.buffer

theorem flushReply_taken (f : RawInputByteFramer) :
    Taken f.buffer f.flushReply.1 f.flushReply.2.buffer := by
  unfold flushReply
  split_ifs
  · exact taken_nothing f.buffer
  · exact .refl f.buffer
  · exact .refl f.buffer
  · exact taken_nothing f.buffer
  · split
    · exact taken_nothing f.buffer
    · exact flushInput_taken f

theorem flushPending_taken (f : RawInputByteFramer) :
    Taken f.buffer f.flushPending.1 f.flushPending.2.buffer := by
  unfold flushPending
  split_ifs
  · exact taken_nothing f.buffer
  · exact taken_nothing f.buffer
  · exact taken_nothing f.buffer
  · exact .refl f.buffer
  · exact .refl f.buffer
  · exact flushReply_taken { f with
      hostAppearanceReplyAwaited := false, hostCellSizeRepliesAwaited := 0,
      heldPendingHostReplyEsc := false }
  · exact flushReply_taken f

theorem flushTimeout_taken (f : RawInputByteFramer) :
    Taken f.buffer f.flushTimeout.1 f.flushTimeout.2.buffer := by
  have hdrain := drainAvailableChunks_taken f
  unfold flushTimeout
  simp only
  split
  · exact hdrain
  · cases hd : f.drainAvailableChunks.2.discardUntil with
    | some family =>
      have hflush := hdrain.trans (flushDiscard_taken f.drainAvailableChunks.2 family)
      rwa [List.append_nil] at hflush
    | none =>
      simp only
      split
      · exact hdrain
      · exact hdrain.trans (flushPending_taken f.drainAvailableChunks.2)

end RawInputByteFramer

end Zynk
