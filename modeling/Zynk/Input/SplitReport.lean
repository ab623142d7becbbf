import Zynk.Input.Chunking

/-!
# Mouse reports that are cut by a flush

The framer is flushed in the middle of a mouse report. After the escape alone, the flush gives the
escape out and the rest is an orphaned report; after more than `ESC [`, the flush drops what is
there and goes on to drop the rest. Either way the framer is a new one when the report is over
(`push_orphan`, `push_discarded`), however the bytes behind the cut arrive (`pushAll_eq`).
-/

namespace Zynk

open Text Resumable

/-! ## The report -/

/-- `ESC [ < cb ; x ; y` and a final character, the numbers in decimal. -/
def sgrReport (cb x y : ℕ) (final : Char) : Text :=
  "\x1b[<".toList ++ (decimal cb ++ ';' :: (decimal x ++ ';' :: (decimal y ++ [final])))

theorem length_decimal_le {n k : ℕ} (hk : 0 < k) (h : n < 10 ^ k) : (decimal n).length ≤ k :=
  (Nat.length_toDigits_le_iff (by decide) hk).2 h

/-- What is accepted has fields of their types. -/
theorem sgrReport_accepted {cb x y : ℕ} {final : Char}
    (h : (parseSgrMouse (sgrReport cb x y final)).isSome = true) :
    cb ≤ 255 ∧ x ≤ 65535 ∧ y ≤ 65535 ∧ (final = 'M' ∨ final = 'm') := by
  have hbody : stripPrefix "\x1b[<" (sgrReport cb x y final) =
      some ((decimal cb ++ ';' :: (decimal x ++ ';' :: decimal y)) ++ [final]) := by
    rw [sgrReport, stripPrefix_append]
    simp
  have hsplit : splitOn ';' (decimal cb ++ ';' :: (decimal x ++ ';' :: decimal y)) =
      [decimal cb, decimal x, decimal y] := by
    have hnot (n : ℕ) : ';' ∉ decimal n := not_mem_decimal (by decide) n
    rw [splitOn_append_cons (hnot cb), splitOn_append_cons (hnot x), splitOn_of_not_mem (hnot y)]
  simp only [parseSgrMouse, Option.bind_eq_bind, hbody, Option.bind_some, List.getLast?_concat,
    List.dropLast_concat, hsplit, parseU8, parseU16, parseUnsigned_decimal] at h
  split at h
  · cases h
  · rename_i hfinal
    refine ⟨?_, ?_, ?_, ?_⟩
    · by_contra hcb
      simp [hcb] at h
    · by_contra hx
      simp [hx] at h
    · by_contra hy
      simp [hy] at h
    · refine or_iff_not_imp_left.2 ?_
      simpa using hfinal

/-- The bytes of an accepted report : its lead, parameter bytes and a final byte. -/
theorem encodeUtf8_sgrReport {cb x y : ℕ} {final : Char}
    (h : (parseSgrMouse (sgrReport cb x y final)).isSome = true) :
    ∃ (params : Bytes) (last : UInt8),
      encodeUtf8 (sgrReport cb x y final) = esc :: 0x5b :: 0x3c :: (params ++ [last]) ∧
        decodeUtf8 (encodeUtf8 (sgrReport cb x y final)) = some (sgrReport cb x y final) ∧
        params.all isParameterByte = true ∧ params.length ≤ 15 ∧ (last = 0x4d ∨ last = 0x6d) := by
  obtain ⟨hcb, hx, hy, hfinal⟩ := sgrReport_accepted h
  have hfields : sgrReport cb x y final = "\x1b[<".toList ++
      ((decimal cb ++ ';' :: (decimal x ++ ';' :: decimal y)) ++ [final]) := by
    simp [sgrReport]
  have hparam {c : Char} (hc : c ∈ decimal cb ++ ';' :: (decimal x ++ ';' :: decimal y)) :
      c.isDigit = true ∨ c = ';' := by
    simp only [List.mem_append, List.mem_cons] at hc
    rcases hc with hc | rfl | hc | rfl | hc
    · exact Or.inl (isDigit_of_mem_decimal hc)
    · exact Or.inr rfl
    · exact Or.inl (isDigit_of_mem_decimal hc)
    · exact Or.inr rfl
    · exact Or.inl (isDigit_of_mem_decimal hc)
  have hlength : (decimal cb ++ ';' :: (decimal x ++ ';' :: decimal y)).length ≤ 15 := by
    have hlcb := @length_decimal_le cb 3 (by decide) (by omega)
    have hlx := @length_decimal_le x 5 (by decide) (by omega)
    have hly := @length_decimal_le y 5 (by decide) (by omega)
    simp only [List.length_append, List.length_cons]
    omega
  have hascii : ∀ c ∈ sgrReport cb x y final, c.toNat < 128 := by
    intro c hc
    rw [hfields, List.mem_append, List.mem_append, List.mem_singleton] at hc
    rcases hc with hc | hc | rfl
    · have hlead : "\x1b[<".toList.all (fun c ↦ c.toNat < 128) = true := by decide
      exact of_decide_eq_true (List.all_eq_true.1 hlead c hc)
    · rcases hparam hc with hdigit | rfl
      · have := toNat_of_isDigit hdigit
        omega
      · decide
    · rcases hfinal with rfl | rfl <;> decide
  refine ⟨(decimal cb ++ ';' :: (decimal x ++ ';' :: decimal y)).map fun c => UInt8.ofNat c.toNat,
    UInt8.ofNat final.toNat, ?_, decodeUtf8_encodeUtf8 _, ?_, by simpa using hlength, ?_⟩
  · rw [encodeUtf8_eq_map hascii, hfields, List.map_append, List.map_append]
    rfl
  · rw [List.all_map, List.all_eq_true]
    intro c hc
    rcases hparam hc with hdigit | rfl
    · have hrange := toNat_of_isDigit hdigit
      have hnat : (UInt8.ofNat c.toNat).toNat = c.toNat := by
        rw [UInt8.toNat_ofNat']
        omega
      simp only [Function.comp_apply, isParameterByte, hnat, Bool.or_eq_true, Bool.and_eq_true,
        decide_eq_true_eq]
      exact Or.inl ⟨hrange.1, hrange.2⟩
    · decide
  · rcases hfinal with rfl | rfl
    · exact Or.inl rfl
    · exact Or.inr rfl

namespace RawInputByteFramer

/-! ## Pushing in pieces -/

/-- One push for each piece. -/
def pushAll (f : RawInputByteFramer) : List Bytes → List Bytes × RawInputByteFramer
  | [] => ([], f)
  | piece :: pieces =>
    ((f.push piece).1 ++ ((f.push piece).2.pushAll pieces).1, ((f.push piece).2.pushAll pieces).2)

/-- No cut of the bytes splits an orphaned report. -/
def NoSplit (f : RawInputByteFramer) (data : Bytes) : Prop :=
  ∀ a b, a ++ b = data → ¬ (f.extend a).SplitsOrphanedReport b

variable {f : RawInputByteFramer}

theorem noSplit_of_not_flushed (h : f.loneEscapeRecentlyFlushed = false) (data : Bytes) :
    f.NoSplit data := by
  rintro a b - ⟨-, hflushed, -⟩
  rw [show (f.extend a).loneEscapeRecentlyFlushed = false from h] at hflushed
  cases hflushed

/-- A framer after a push has nothing more to give out. -/
theorem push_push_nil (f : RawInputByteFramer) (a : Bytes) :
    (f.push a).2.push [] = ([], (f.push a).2) := by
  have hno : ¬ (f.extend a).SplitsOrphanedReport [] := by
    rintro ⟨-, -, -, hnone, hsome⟩
    rw [List.append_nil] at hsome
    exact hsome hnone
  have happend := push_append hno
  rw [List.append_nil] at happend
  have hchunks := congrArg Prod.fst happend
  refine Prod.ext ?_ (congrArg Prod.snd happend).symm
  exact List.append_cancel_left ((List.append_nil _).trans hchunks).symm

/-- A flushed escape that is still remembered : nothing has happened but the bytes that came. -/
theorem push_eq_extend {a : Bytes} (h : (f.push a).2.loneEscapeRecentlyFlushed = true) :
    (f.push a).2 = f.extend a := by
  refine drain_induction iterate_size_lt
    (I := fun g _ g' => g'.loneEscapeRecentlyFlushed = true → g' = g) ?_ ?_ (f.extend a) h
  · intro g g' hstop hflushed
    exact ((iterate_halt hstop).flushed hflushed).1
  · intro g out g' outs g'' hnext ih hflushed
    have hforgotten := (iterate_turn hnext).flushed
    rw [← ih hflushed, hflushed] at hforgotten
    cases hforgotten

theorem NoSplit.push {a b : Bytes} (h : f.NoSplit (a ++ b)) : (f.push a).2.NoSplit b := by
  cases hflushed : (f.push a).2.loneEscapeRecentlyFlushed with
  | false => exact noSplit_of_not_flushed hflushed b
  | true =>
    rintro c d rfl
    rw [push_eq_extend hflushed]
    have hextend : (f.extend a).extend c = f.extend (a ++ c) := by
      simp only [extend, List.append_assoc]
    rw [hextend]
    exact h (a ++ c) d (List.append_assoc a c d)

/-- Pieces are framed as if they had come together. -/
theorem pushAll_eq {pieces : List Bytes} (hidle : f.push [] = ([], f))
    (h : f.NoSplit pieces.flatten) : f.pushAll pieces = f.push pieces.flatten := by
  induction pieces generalizing f with
  | nil => exact hidle.symm
  | cons piece pieces ih =>
    rw [List.flatten_cons] at h ⊢
    rw [pushAll, ih (push_push_nil f piece) h.push, push_append (h piece pieces.flatten rfl)]

/-! ## After the escape -/

theorem isParameterByte_of_last {last : UInt8} (h : last = 0x4d ∨ last = 0x6d) :
    isParameterByte last = false := by
  rcases h with rfl | rfl <;> decide

/-- The beginning of an orphaned report. -/
theorem incomplete_orphan {params a : Bytes} (hparams : params.all isParameterByte = true)
    (hlength : params.length ≤ 15) (ha : a <+: 0x5b :: 0x3c :: params) :
    startsWithIncompleteOrphanedSgrMouseTail a = true := by
  have hfull : startsWithIncompleteOrphanedSgrMouseTail (0x5b :: 0x3c :: params) = true := by
    rw [startsWithIncompleteOrphanedSgrMouseTail, if_neg (by
      simp only [List.length_cons, maxOrphanedSgrMouseTailBytes]
      omega)]
    simp only [List.drop_succ_cons, List.drop_zero, hparams, Bool.and_true, Bool.or_eq_true]
    exact Or.inr rfl
  obtain ⟨rest, hrest⟩ := ha
  rw [← hrest] at hfull
  exact startsWithIncompleteOrphanedSgrMouseTail_of_append hfull

section

variable {params : Bytes} {last : UInt8} {sequence : Text}

/-- The whole orphaned report. -/
theorem complete_orphan (hparams : params.all isParameterByte = true) (hlength : params.length ≤ 15)
    (hlast : last = 0x4d ∨ last = 0x6d)
    (hdecode : decodeUtf8 (esc :: 0x5b :: 0x3c :: (params ++ [last])) = some sequence)
    (haccept : (parseSgrMouse sequence).isSome = true) :
    completeOrphanedSgrMouseTailLen (0x5b :: 0x3c :: (params ++ [last])) =
        some (params.length + 3) ∧
      startsWithIncompleteOrphanedSgrMouseTail (0x5b :: 0x3c :: (params ++ [last])) = false := by
  obtain ⟨event, hevent⟩ := Option.isSome_iff_exists.1 haccept
  have hfinal {b : UInt8} (hb : isParameterByte b = true) : (b == 0x4d || b == 0x6d) = false := by
    rw [Bool.eq_false_iff]
    intro h
    rw [isParameterByte_of_last (by simpa using h)] at hb
    cases hb
  have hindex : ((0x5b :: 0x3c :: (params ++ [last])).take maxOrphanedSgrMouseTailBytes).findIdx?
      (fun b => b == 0x4d || b == 0x6d) = some (params.length + 2) := by
    rw [List.take_of_length_le (by
      simp only [List.length_cons, List.length_append, List.length_nil,
        maxOrphanedSgrMouseTailBytes]
      omega)]
    have hnone : params.findIdx? (fun b => b == 0x4d || b == 0x6d) = none :=
      List.findIdx?_eq_none_iff.2 fun b hb => hfinal (List.all_eq_true.1 hparams b hb)
    have hone : [last].findIdx? (fun b => b == 0x4d || b == 0x6d) = some 0 := by
      rcases hlast with rfl | rfl <;> decide
    simp [List.findIdx?_cons, List.findIdx?_append, hnone, hone]
  have htake : (0x5b :: 0x3c :: (params ++ [last])).take (params.length + 2 + 1) =
      0x5b :: 0x3c :: (params ++ [last]) := List.take_of_length_le (by simp)
  constructor
  · simp only [completeOrphanedSgrMouseTailLen, hindex, Option.bind_eq_bind, Option.bind_some,
      htake, hdecode, hevent]
    rfl
  · rw [startsWithIncompleteOrphanedSgrMouseTail, if_neg (by
      simp only [List.length_cons, List.length_append, List.length_nil,
        maxOrphanedSgrMouseTailBytes]
      omega)]
    simp [isParameterByte_of_last hlast]

/-- The framer that has just flushed a lone escape. -/
def escapeFlushed : RawInputByteFramer where
  loneEscapeRecentlyFlushed := true

theorem escapeFlushed_noSplit (hparams : params.all isParameterByte = true)
    (hlength : params.length ≤ 15) (hlast : last = 0x4d ∨ last = 0x6d)
    (hdecode : decodeUtf8 (esc :: 0x5b :: 0x3c :: (params ++ [last])) = some sequence)
    (haccept : (parseSgrMouse sequence).isSome = true) (suffix : Bytes) :
    escapeFlushed.NoSplit ((0x5b :: 0x3c :: (params ++ [last])) ++ suffix) := by
  rintro a b hab ⟨-, -, hincomplete, hcomplete, -⟩
  have hbuffer : (escapeFlushed.extend a).buffer = a := rfl
  rw [hbuffer] at hincomplete hcomplete
  -- The cut is in the report or behind it.
  rcases List.append_eq_append_iff.1 hab with ⟨rest, hreport, -⟩ | ⟨rest, ha, -⟩
  · rcases List.eq_nil_or_concat rest with rfl | ⟨rest, b', rfl⟩
    · rw [List.append_nil] at hreport
      rw [← hreport, (complete_orphan hparams hlength hlast hdecode haccept).1] at hcomplete
      cases hcomplete
    · rw [List.concat_eq_append, ← List.append_assoc] at hreport
      have hends : (0x5b :: 0x3c :: params) ++ [last] = (a ++ rest) ++ [b'] := hreport
      have hstart := (List.append_inj' hends rfl).1
      rw [incomplete_orphan hparams hlength ⟨rest, hstart.symm⟩] at hincomplete
      cases hincomplete
  · rw [ha, (completeOrphanedSgrMouseTailLen_append
      (complete_orphan hparams hlength hlast hdecode haccept).1 rest).1] at hcomplete
    cases hcomplete

/-- The orphaned report is dropped, and the framer is a new one. -/
theorem push_orphan (hparams : params.all isParameterByte = true)
    (hlength : params.length ≤ 15) (hlast : last = 0x4d ∨ last = 0x6d)
    (hdecode : decodeUtf8 (esc :: 0x5b :: 0x3c :: (params ++ [last])) = some sequence)
    (haccept : (parseSgrMouse sequence).isSome = true) (suffix : Bytes) :
    escapeFlushed.push ((0x5b :: 0x3c :: (params ++ [last])) ++ suffix) =
      ({} : RawInputByteFramer).push suffix := by
  obtain ⟨hcomplete, hincomplete⟩ := complete_orphan hparams hlength hlast hdecode haccept
  have hcomplete' := (completeOrphanedSgrMouseTailLen_append hcomplete suffix).1
  have hincomplete' := startsWithIncompleteOrphanedSgrMouseTail_append hincomplete suffix
  have hstep : (escapeFlushed.extend ((0x5b :: 0x3c :: (params ++ [last])) ++ suffix)).iterate =
      .next [] (({} : RawInputByteFramer).extend suffix) := by
    have hdrop : ((0x5b :: 0x3c :: (params ++ [last])) ++ suffix).drop (params.length + 3) =
        suffix := List.drop_left' (by simp)
    rw [iterate_flushed rfl rfl]
    simp only [extend, escapeFlushed, List.nil_append, hincomplete', hcomplete', hdrop,
      Bool.false_eq_true, if_false]
  rw [push, drainAvailableChunks, drain_eq iterate_size_lt, hstep]
  rfl

/-! ## After more of the report -/

/-- The framer that drops the rest of a report of which `n` bytes were flushed. -/
def reportDropped (n : ℕ) : RawInputByteFramer where
  discardUntil := some .orphanedSgrMouseTail
  discardedTailBytes := n

theorem scanTail_params {params : Bytes} (hparams : params.all isParameterByte = true)
    (hlast : last = 0x4d ∨ last = 0x6d) {n : ℕ} (hn : params.length < n) (suffix : Bytes) :
    scanTail isParameterByte (fun b => b == 0x4d || b == 0x6d) n (params ++ last :: suffix) =
      some suffix := by
  induction params generalizing n with
  | nil =>
    obtain ⟨n, rfl⟩ : ∃ j, n = j + 1 := ⟨n - 1, by simp only [List.length_nil] at hn; omega⟩
    have hfinal : (last == 0x4d || last == 0x6d) = true := by
      rcases hlast with rfl | rfl <;> rfl
    rw [List.nil_append, scanTail, isParameterByte_of_last hlast, if_neg Bool.false_ne_true,
      if_pos hfinal]
  | cons b params ih =>
    rw [List.length_cons] at hn
    rw [List.all_cons, Bool.and_eq_true] at hparams
    obtain ⟨n, rfl⟩ : ∃ j, n = j + 1 := ⟨n - 1, by omega⟩
    rw [List.cons_append, scanTail, if_pos hparams.1]
    exact ih hparams.2 (by omega)

/-- The rest of the report is dropped, and the framer is a new one. -/
theorem push_dropped (hparams : params.all isParameterByte = true)
    (hlast : last = 0x4d ∨ last = 0x6d) {n : ℕ} (hn : n + params.length < 128) (suffix : Bytes) :
    (reportDropped n).push (params ++ last :: suffix) = ({} : RawInputByteFramer).push suffix := by
  have hscan := scanTail_params hparams hlast
    (n := min (params ++ last :: suffix).length (maxDiscardedControlTailBytes - n)) (by
      simp only [List.length_append, List.length_cons, maxDiscardedControlTailBytes]
      omega) suffix
  have hstep : ((reportDropped n).extend (params ++ last :: suffix)).iterate =
      .next [] (({} : RawInputByteFramer).extend suffix) := by
    rw [iterate_eq_iterateRest rfl rfl]
    simp only [iterateRest, extend, reportDropped, List.nil_append, discardOrphanedSgrMouseTail,
      discardTail, hscan, iterateTail, discarded]
  rw [push, drainAvailableChunks, drain_eq iterate_size_lt, hstep]
  rfl

theorem reportDropped_idle {n : ℕ} (hn : n < 128) :
    (reportDropped n).push [] = ([], reportDropped n) := by
  have hlimit : ¬ maxDiscardedControlTailBytes ≤ n := by
    simp only [maxDiscardedControlTailBytes]
    omega
  have hstop : ((reportDropped n).extend []).iterate = .stop (reportDropped n) := by
    rw [iterate_eq_iterateRest rfl rfl]
    simp [iterateRest, extend, reportDropped, discardOrphanedSgrMouseTail, discardTail, iterateTail,
      hlimit]
  rw [push, drainAvailableChunks, drain_eq iterate_size_lt, hstop]

/-- The beginning of a report is no event. -/
theorem extractOneEvent_incomplete_report {params : Bytes}
    (hparams : params.all isParameterByte = true) :
    extractOneEvent (esc :: 0x5b :: 0x3c :: params) = .ok none := by
  have hlen : completeEscapeSequenceLen (esc :: 0x5b :: 0x3c :: params) = none := by
    have hplain : escapedMouseLen (esc :: 0x5b :: 0x3c :: params) (0x5b :: 0x3c :: params) = none :=
      escapedMouseLen_eq_none rfl rfl
    have hfinal : findCsiFinal (esc :: 0x5b :: 0x3c :: params) (ascii "Mm") = none := by
      refine Option.map_eq_none_iff.2 (List.findIdx?_eq_none_iff.2 fun b hb => ?_)
      rw [Bool.eq_false_iff]
      intro hcontains
      have hlast : b = 0x4d ∨ b = 0x6d := by simpa [ascii] using hcontains
      rcases List.mem_cons.1 hb with rfl | hb
      · revert hlast
        decide
      · have hparam := List.all_eq_true.1 hparams b hb
        rw [isParameterByte_of_last hlast] at hparam
        cases hparam
    rw [completeEscapeSequenceLen_cons_cons, hplain]
    exact hfinal
  rw [extractOneEvent_escape rfl, hlen]

/-- The beginning of a report waits. -/
theorem drain_report {params : Bytes} (hparams : params.all isParameterByte = true) :
    (({} : RawInputByteFramer).extend (esc :: 0x5b :: 0x3c :: params)).drainAvailableChunks =
      ([], ({} : RawInputByteFramer).extend (esc :: 0x5b :: 0x3c :: params)) := by
  have hstop : (({} : RawInputByteFramer).extend (esc :: 0x5b :: 0x3c :: params)).iterate =
      .stop (({} : RawInputByteFramer).extend (esc :: 0x5b :: 0x3c :: params)) := by
    rw [iterate_eq_iterateRest rfl rfl]
    simp only [iterateRest, iterateEvent, extend, List.nil_append,
      extractOneEvent_incomplete_report hparams, Bool.false_and, Bool.false_eq_true, if_false]
  rw [drainAvailableChunks, drain_eq iterate_size_lt, hstop]

/-- What is flushed of a report after its lead. -/
theorem flush_report {params : Bytes} (hparams : params.all isParameterByte = true)
    (hlength : params.length ≤ 15) :
    (({} : RawInputByteFramer).extend (esc :: 0x5b :: 0x3c :: params)).flushTimeout =
      ([], reportDropped (params.length + 3)) := by
  have hincomplete : startsWithIncompleteSgrMouseSequence (esc :: 0x5b :: 0x3c :: params) = true :=
    (Bool.and_eq_true _ _).mpr ⟨rfl, hparams⟩
  have hmax : params.length + 3 ≤ maxDiscardedControlTailBytes := by
    simp only [maxDiscardedControlTailBytes]
    omega
  rw [flushTimeout, drain_report hparams]
  simp only [extend, List.nil_append, flushPending, hincomplete, reportDropped, List.length_cons,
    Bool.false_and, Bool.false_eq_true, if_false, if_true, List.isEmpty_cons, hmax]

end

/-- A mouse report that is cut by a flush, except right after `ESC [`, leaves nothing behind but
the escape, when the cut is right after it, and what follows is framed as by a new framer. -/
theorem split_report_swallowed {cb x y : ℕ} {final : Char}
    (haccept : (parseSgrMouse (sgrReport cb x y final)).isSome = true) {cut : ℕ} (hcut : 0 < cut)
    (hcut' : cut < (encodeUtf8 (sgrReport cb x y final)).length) (hne : cut ≠ 2)
    {before after fresh : List Bytes} {suffix : Bytes}
    (hbefore : before.flatten = (encodeUtf8 (sgrReport cb x y final)).take cut)
    (hafter : after.flatten = (encodeUtf8 (sgrReport cb x y final)).drop cut ++ suffix)
    (hfresh : fresh.flatten = suffix) :
    (({} : RawInputByteFramer).pushAll before).1 ++
        (({} : RawInputByteFramer).pushAll before).2.flushTimeout.1 ++
        ((({} : RawInputByteFramer).pushAll before).2.flushTimeout.2.pushAll after).1 =
      (if cut = 1 then [[esc]] else []) ++ (({} : RawInputByteFramer).pushAll fresh).1 := by
  obtain ⟨params, last, hbytes, hdecode, hparams, hlength, hlast⟩ := encodeUtf8_sgrReport haccept
  rw [hbytes] at hcut' hbefore hafter hdecode
  have hnew {pieces : List Bytes} : ({} : RawInputByteFramer).pushAll pieces =
      ({} : RawInputByteFramer).push pieces.flatten :=
    pushAll_eq rfl (noSplit_of_not_flushed rfl _)
  rw [hnew, hnew, hbefore, hfresh]
  obtain rfl | hcut3 : cut = 1 ∨ 3 ≤ cut := by omega
  · have hescape : (({} : RawInputByteFramer).push [esc]).1 = [] ∧
        (({} : RawInputByteFramer).push [esc]).2.flushTimeout = ([[esc]], escapeFlushed) := by
      decide
    have hrest : (esc :: 0x5b :: 0x3c :: (params ++ [last])).drop 1 =
      0x5b :: 0x3c :: (params ++ [last]) := rfl
    have hflushed : escapeFlushed.pushAll after = ({} : RawInputByteFramer).push suffix := by
      rw [hrest] at hafter
      rw [pushAll_eq (by decide) (hafter ▸
        escapeFlushed_noSplit hparams hlength hlast hdecode haccept suffix), hafter]
      exact push_orphan hparams hlength hlast hdecode haccept suffix
    show (({} : RawInputByteFramer).push [esc]).1 ++
      (({} : RawInputByteFramer).push [esc]).2.flushTimeout.1 ++
      ((({} : RawInputByteFramer).push [esc]).2.flushTimeout.2.pushAll after).1 = _
    rw [hescape.1, hescape.2, hflushed]
    rfl
  · obtain ⟨n, rfl⟩ : ∃ n, cut = n + 3 := ⟨cut - 3, by omega⟩
    have hn : n ≤ params.length := by
      simp only [List.length_cons, List.length_append, List.length_nil] at hcut'
      omega
    have htake : (esc :: 0x5b :: 0x3c :: (params ++ [last])).take (n + 3) =
        esc :: 0x5b :: 0x3c :: params.take n := by
      simp [List.take_append_of_le_length hn]
    have hrest : (esc :: 0x5b :: 0x3c :: (params ++ [last])).drop (n + 3) ++ suffix =
        params.drop n ++ last :: suffix := by
      simp [List.drop_append_of_le_length hn]
    have hparams₁ : (params.take n).all isParameterByte = true :=
      List.all_eq_true.2 fun b hb => List.all_eq_true.1 hparams b (List.mem_of_mem_take hb)
    have hparams₂ : (params.drop n).all isParameterByte = true :=
      List.all_eq_true.2 fun b hb => List.all_eq_true.1 hparams b (List.mem_of_mem_drop hb)
    have hpushed : ({} : RawInputByteFramer).push (esc :: 0x5b :: 0x3c :: params.take n) =
        ([], ({} : RawInputByteFramer).extend (esc :: 0x5b :: 0x3c :: params.take n)) :=
      drain_report hparams₁
    have hdropped : (reportDropped ((params.take n).length + 3)).pushAll after =
        ({} : RawInputByteFramer).push suffix := by
      have hcount : (params.take n).length + 3 + (params.drop n).length < 128 := by
        rw [List.length_take, List.length_drop]
        omega
      rw [pushAll_eq (reportDropped_idle (by omega)) (noSplit_of_not_flushed rfl _), hafter, hrest]
      exact push_dropped hparams₂ hlast hcount suffix
    rw [htake, hpushed]
    simp only [flush_report hparams₁ (by simp; omega), hdropped]
    simp

/-- A press at the first cell, cut after the first number, and a key behind it. -/
theorem split_report_swallowed_press :
    (({} : RawInputByteFramer).pushAll [ascii "\x1b[<0"]).1 ++
        (({} : RawInputByteFramer).pushAll [ascii "\x1b[<0"]).2.flushTimeout.1 ++
        ((({} : RawInputByteFramer).pushAll [ascii "\x1b[<0"]).2.flushTimeout.2.pushAll
          [ascii ";1;", ascii "1Mx"]).1 =
      (if 4 = 1 then [[esc]] else []) ++ (({} : RawInputByteFramer).pushAll [ascii "x"]).1 :=
  @split_report_swallowed 0 1 1 'M' (by decide) 4 (by decide) (by decide) (by decide)
    [ascii "\x1b[<0"] [ascii ";1;", ascii "1Mx"] [ascii "x"] (ascii "x") (by decide) (by decide)
    (by decide)

end RawInputByteFramer

end Zynk
