import Mathlib.Tactic.IntervalCases
import Zynk.Input.Framer

/-!
# Extraction looks at a prefix

An event that `extractOneEvent` finds in a buffer it finds in every extension of the
buffer, with the same bytes : each length decision is made on bytes that are there. The
decisions that wait for more bytes find nothing, so the bytes that come later never have
to undo one.
-/

namespace Zynk

open Text Resumable

/-! ## Prefixes -/

variable {l x t rest : Bytes}

/-- A literal that begins an extension of a shorter buffer : the buffer is the beginning of
the literal. -/
theorem eq_take_of_isPrefixOf_append (h : l.isPrefixOf (x ++ t) = true)
    (hlt : x.length < l.length) : x = l.take x.length :=
  List.prefix_iff_eq_take.1 (List.prefix_of_prefix_length_le (List.prefix_append _ _)
    (List.isPrefixOf_iff_prefix.1 h) (Nat.le_of_lt hlt))

/-- A literal that does not begin the buffer, but an extension of it, is longer than the
buffer. -/
theorem length_lt_of_isPrefixOf_append (h : l.isPrefixOf (x ++ t) = true)
    (hx : l.isPrefixOf x = false) : x.length < l.length := by
  by_contra hge
  rw [isPrefixOf_append_of_le (by omega), hx] at h
  cases h

theorem isPrefixOf_eq_false_of_append (h : l.isPrefixOf (x ++ t) = false) :
    l.isPrefixOf x = false := by
  rw [Bool.eq_false_iff]
  intro hp
  rw [isPrefixOf_append hp t] at h
  cases h

theorem isPrefixOf_append_of_length {k : ℕ} (hl : l.length = k) (hx : k ≤ x.length) (t : Bytes) :
    l.isPrefixOf (x ++ t) = l.isPrefixOf x :=
  isPrefixOf_append_of_le (hl ▸ hx) t

/-! ## Terminators and final bytes -/

variable {n : ℕ}

theorem findCsiFinal_append {finals : Bytes} (h : findCsiFinal x finals = some n) (t : Bytes) :
    findCsiFinal (x ++ t) finals = some n ∧ 2 < n ∧ n ≤ x.length := by
  obtain ⟨i, hi, rfl⟩ := Option.map_eq_some_iff.1 h
  have hlt : i < (x.drop 2).length := (List.findIdx?_eq_some_iff_getElem.1 hi).1
  rw [List.length_drop] at hlt
  refine ⟨?_, by omega, by omega⟩
  rw [findCsiFinal, List.drop_append_of_le_length (by omega), findIdx?_append_of_some hi,
    Option.map_some]

theorem stStringTerminator_append (h : stStringTerminator x = some n) (t : Bytes) :
    stStringTerminator (x ++ t) = some n ∧ 0 < n ∧ n ≤ x.length := by
  obtain ⟨i, hi, rfl⟩ := Option.map_eq_some_iff.1 h
  have hle := findSubsequence_le hi
  have htwo : (ascii "\x1b\\").length = 2 := by decide
  refine ⟨?_, by omega, by omega⟩
  rw [stStringTerminator, findSubsequence_append hi, Option.map_some]

/-- The first of two terminators is the same in an extension, if one is there. -/
theorem oscStringTerminator_append (h : oscStringTerminator x = some n) (t : Bytes) :
    oscStringTerminator (x ++ t) = some n ∧ 0 < n ∧ n ≤ x.length := by
  have htwo : (ascii "\x1b\\").length = 2 := by decide
  simp only [oscStringTerminator] at h ⊢
  cases hst : findSubsequence (ascii "\x1b\\") x with
  | some i =>
    have hi := findSubsequence_le hst
    rw [findSubsequence_append hst]
    cases hbel : x.findIdx? (· == 0x07) with
    | some j =>
      have hj := (List.findIdx?_eq_some_iff_getElem.1 hbel).1
      rw [findIdx?_append_of_some hbel]
      simp only [hst, hbel, Option.map_some, Option.some.injEq] at h ⊢
      omega
    | none =>
      simp only [hst, hbel, Option.map_some, Option.map_none, Option.some.injEq] at h ⊢
      cases hbel' : (x ++ t).findIdx? (· == 0x07) with
      | some j =>
        -- A later `BEL` does not come first.
        have hj := length_le_of_findIdx?_append hbel hbel'
        simp only [Option.map_some, Option.some.injEq]
        omega
      | none =>
        simp only [Option.map_none, Option.some.injEq]
        omega
  | none =>
    cases hbel : x.findIdx? (· == 0x07) with
    | some j =>
      have hj := (List.findIdx?_eq_some_iff_getElem.1 hbel).1
      rw [findIdx?_append_of_some hbel]
      simp only [hst, hbel, Option.map_some, Option.map_none, Option.some.injEq] at h ⊢
      cases hst' : findSubsequence (ascii "\x1b\\") (x ++ t) with
      | some i =>
        -- A later `ESC \`, even with its escape already there, does not come first.
        have hi := length_lt_of_findSubsequence_append hst hst'
        simp only [Option.map_some, Option.some.injEq]
        omega
      | none =>
        simp only [Option.map_none, Option.some.injEq]
        omega
    | none =>
      simp only [hst, hbel, Option.map_none] at h
      cases h

theorem controlStringTerminatorForFamily_append {family : ControlStringFamily}
    (h : controlStringTerminatorForFamily x family = some n) (t : Bytes) :
    controlStringTerminatorForFamily (x ++ t) family = some n ∧ 0 < n ∧ n ≤ x.length := by
  cases family with
  | osc => exact oscStringTerminator_append h t
  | stTerminated => exact stStringTerminator_append h t
  | hostReplyCsi => cases h
  | orphanedSgrMouseTail => cases h

theorem controlStringFamily_append (h : 2 ≤ x.length) (t : Bytes) :
    controlStringFamily (x ++ t) = controlStringFamily x := by
  match x, h with
  | _ :: _ :: _, _ => rfl

/-! ## Characters -/

theorem utf8CharWidth_pos {b : UInt8} {w : ℕ} (h : utf8CharWidth b = some w) : 0 < w := by
  simp only [utf8CharWidth] at h
  split_ifs at h <;> cases h <;> decide

/-- The bytes after an offset that hold one character. -/
theorem take_drop_append {i w : ℕ} (h : i + w ≤ x.length) (t : Bytes) :
    ((x ++ t).drop i).take w = (x.drop i).take w := by
  rw [List.drop_append_of_le_length (by omega), List.take_append_of_le_length (by
    rw [List.length_drop]
    omega)]

theorem firstCompleteUtf8CharLen_append {w : ℕ} (h : firstCompleteUtf8CharLen x = some w)
    (t : Bytes) : firstCompleteUtf8CharLen (x ++ t) = some w ∧ 0 < w ∧ w ≤ x.length := by
  cases x with
  | nil => cases h
  | cons b x =>
    simp only [firstCompleteUtf8CharLen, List.head?_cons, Option.bind_eq_bind, Option.bind_some,
      List.cons_append] at h ⊢
    obtain ⟨width, hwidth, h⟩ := Option.bind_eq_some_iff.1 h
    split at h
    · cases h
    · rename_i hle
      have hw := utf8CharWidth_pos hwidth
      obtain ⟨text, htext, h⟩ := Option.bind_eq_some_iff.1 h
      cases h
      have hlen : ¬ (b :: (x ++ t)).length < w := by
        simp only [List.length_cons, List.length_append] at hle ⊢
        omega
      have htake : (b :: (x ++ t)).take w = (b :: x).take w := by
        rw [← List.cons_append, List.take_append_of_le_length (by omega)]
      refine ⟨?_, hw, by omega⟩
      rw [hwidth, Option.bind_some, if_neg hlen, htake, htext]
      rfl

/-! ## Escape sequences -/

/-- A sequence with one escape, once its second byte is there. -/
theorem plainEscapeSequenceLen_append (htwo : 2 ≤ x.length) (h : plainEscapeSequenceLen x = some n)
    (t : Bytes) : plainEscapeSequenceLen (x ++ t) = some n ∧ 0 < n ∧ n ≤ x.length := by
  have hcsi := isPrefixOf_append_of_length (l := ascii "\x1b[") (by decide) htwo t
  have hss3 := isPrefixOf_append_of_length (l := ascii "\x1bO") (by decide) htwo t
  -- The third byte is there as soon as a length is known.
  have hthird (l : Bytes) (hl : l.length = 3) (hx : 3 ≤ x.length) :
      l.isPrefixOf (x ++ t) = l.isPrefixOf x := isPrefixOf_append_of_length hl hx t
  unfold plainEscapeSequenceLen at h ⊢
  rw [hcsi]
  split at h
  · rename_i hp
    rw [if_pos hp]
    split at h
    · rename_i hsgr
      obtain ⟨hfind, hpos, hle⟩ := findCsiFinal_append h t
      rw [if_pos (isPrefixOf_append hsgr t)]
      exact ⟨hfind, by omega, hle⟩
    · rename_i hsgr
      split at h
      · rename_i hmouse
        split at h
        · rename_i hsix
          cases h
          rw [hthird _ (by decide) (by omega), if_neg hsgr, if_pos (isPrefixOf_append hmouse t),
            if_pos (by simp only [List.length_append]; omega)]
          exact ⟨rfl, by decide, hsix⟩
        · cases h
      · rename_i hmouse
        obtain ⟨hfind, hpos, hle⟩ := findCsiFinal_append h t
        rw [hthird _ (by decide) (by omega), hthird _ (by decide) (by omega), if_neg hsgr,
          if_neg hmouse]
        exact ⟨hfind, by omega, hle⟩
  · rename_i hp
    rw [if_neg hp]
    simp only [controlString, controlStringFamily_append htwo] at h ⊢
    cases hfamily : controlStringFamily x with
    | some family =>
      simp only [hfamily, Option.map_some] at h ⊢
      cases hterm : controlStringTerminatorForFamily x family with
      | some len =>
        obtain ⟨hterm', hpos, hle⟩ := controlStringTerminatorForFamily_append hterm t
        simp only [hterm, Option.some.injEq] at h
        subst h
        simp only [hterm']
        exact ⟨trivial, hpos, hle⟩
      | none =>
        simp only [hterm] at h
        cases h
    | none =>
      simp only [hfamily, Option.map_none, hss3] at h ⊢
      split at h
      · rename_i hp3
        rw [if_pos hp3]
        split at h
        · rename_i hlen
          cases h
          rw [if_pos (by simp only [List.length_append]; omega)]
          exact ⟨rfl, by decide, hlen⟩
        · cases h
      · rename_i hp3
        rw [if_neg hp3]
        obtain ⟨b, hb, h⟩ := Option.bind_eq_some_iff.1 h
        obtain ⟨w, hw, h⟩ := Option.bind_eq_some_iff.1 h
        split at h
        · cases h
        · rename_i hlen
          obtain ⟨text, htext, h⟩ := Option.bind_eq_some_iff.1 h
          cases h
          have hget : (x ++ t)[1]? = some b := by
            rw [List.getElem?_append_left (by omega), hb]
          refine ⟨?_, by omega, by omega⟩
          simp only [Option.bind_eq_bind, hget, Option.bind_some, hw]
          rw [if_neg (by simp only [List.length_append]; omega),
            take_drop_append (by omega), htext]
          rfl

/-- The beginning of an escaped mouse report is no complete sequence. -/
theorem completeEscapeSequenceLen_take_escapedMouse {lead : Bytes}
    (hlead : lead = ascii "\x1b\x1b[<" ∨ lead = ascii "\x1b\x1b[M") {k : ℕ} (hk : k < 4) :
    completeEscapeSequenceLen (lead.take k) = none := by
  obtain rfl | rfl := hlead
  · interval_cases k <;> decide
  · interval_cases k <;> decide

theorem completeEscapeSequenceLen_cons_cons (a b : UInt8) (rest : Bytes) :
    completeEscapeSequenceLen (a :: b :: rest) =
      match escapedMouseLen (a :: b :: rest) (b :: rest) with
      | some result => result
      | none =>
        if (ascii "\x1b\x1b").isPrefixOf (a :: b :: rest) then
          (completeEscapeSequenceLen (b :: rest)).map (· + 1)
        else plainEscapeSequenceLen (a :: b :: rest) := by
  rw [completeEscapeSequenceLen, List.isEmpty_cons, if_neg Bool.false_ne_true] <;> rfl

/-- Nothing else starts an escaped mouse report. -/
theorem escapedMouseLen_eq_none {tail : Bytes} (hsgr : (ascii "\x1b\x1b[<").isPrefixOf x = false)
    (hdefault : (ascii "\x1b\x1b[M").isPrefixOf x = false) : escapedMouseLen x tail = none := by
  simp [escapedMouseLen, hsgr, hdefault]
 
/-- An escaped SGR report before its final byte is no complete sequence. -/
theorem completeEscapeSequenceLen_escapedSgr
    (h : findCsiFinal (esc :: 0x5b :: 0x3c :: rest) (ascii "Mm") = none) :
    completeEscapeSequenceLen (esc :: esc :: 0x5b :: 0x3c :: rest) = none := by
  have hsgr : escapedMouseLen (esc :: esc :: 0x5b :: 0x3c :: rest)
      (esc :: 0x5b :: 0x3c :: rest) = none := by
    have hlead : (ascii "\x1b\x1b[M").isPrefixOf (esc :: esc :: 0x5b :: 0x3c :: rest) = false := rfl
    simp [escapedMouseLen, h, hlead]
  have hplain : escapedMouseLen (esc :: 0x5b :: 0x3c :: rest) (0x5b :: 0x3c :: rest) = none :=
    escapedMouseLen_eq_none rfl rfl
  have htail : completeEscapeSequenceLen (esc :: 0x5b :: 0x3c :: rest) = none := by
    rw [completeEscapeSequenceLen_cons_cons, hplain]
    exact h
  rw [completeEscapeSequenceLen_cons_cons, hsgr, htail]
  rfl

/-- An escaped default report before its sixth byte is no complete sequence. -/
theorem completeEscapeSequenceLen_escapedDefault (h : rest.length < 3) :
    completeEscapeSequenceLen (esc :: esc :: 0x5b :: 0x4d :: rest) = none := by
  have hdefault : escapedMouseLen (esc :: esc :: 0x5b :: 0x4d :: rest)
      (esc :: 0x5b :: 0x4d :: rest) = none := by
    have hlead : (ascii "\x1b\x1b[<").isPrefixOf (esc :: esc :: 0x5b :: 0x4d :: rest) = false := rfl
    have hlen : ¬ 3 ≤ rest.length := by omega
    simp [escapedMouseLen, hlead, hlen]
  have hplain : escapedMouseLen (esc :: 0x5b :: 0x4d :: rest) (0x5b :: 0x4d :: rest) = none :=
    escapedMouseLen_eq_none rfl rfl
  have htail : completeEscapeSequenceLen (esc :: 0x5b :: 0x4d :: rest) = none := by
    rw [completeEscapeSequenceLen_cons_cons, hplain]
    have hlen : ¬ 6 ≤ (esc :: 0x5b :: 0x4d :: rest).length := by
      simp only [List.length_cons]
      omega
    have hsix : plainEscapeSequenceLen (esc :: 0x5b :: 0x4d :: rest) =
      if 6 ≤ (esc :: 0x5b :: 0x4d :: rest).length then some 6 else none := rfl
    rw [if_neg hlen] at hsix
    exact hsix
  rw [completeEscapeSequenceLen_cons_cons, hdefault, htail]
  rfl

/-- Only the escape before the report is cut off. -/
theorem escapedMouseLen_eq_one {tail : Bytes} (h : escapedMouseLen x tail = some (some n)) :
    n = 1 := by
  simp only [escapedMouseLen] at h
  split at h
  · rename_i result hresult
    cases h
    split_ifs at hresult
    split at hresult
    · split at hresult
      · cases hresult
      · split_ifs at hresult
        cases hresult
        rfl
    · cases hresult
  · split_ifs at h
    cases h
    rfl

/-- A literal that begins an extension of a complete sequence begins the sequence. -/
theorem isPrefixOf_of_escapedMouse {lead : Bytes}
    (hlead : lead = ascii "\x1b\x1b[<" ∨ lead = ascii "\x1b\x1b[M")
    (h : completeEscapeSequenceLen x ≠ none) (hp : lead.isPrefixOf (x ++ t) = true) :
    lead.isPrefixOf x = true := by
  cases hx : lead.isPrefixOf x with
  | true => rfl
  | false =>
    have hlen : lead.length = 4 := by
      obtain rfl | rfl := hlead <;> decide
    have hlt := length_lt_of_isPrefixOf_append hp hx
    rw [eq_take_of_isPrefixOf_append hp hlt] at h
    exact absurd (completeEscapeSequenceLen_take_escapedMouse hlead (hlen ▸ hlt)) h
 
/-- The decision about an escaped mouse report is not undone by later bytes. -/
theorem escapedMouseLen_append {a b : UInt8} (h : completeEscapeSequenceLen (a :: b :: rest) ≠ none)
    (t : Bytes) : escapedMouseLen (a :: b :: rest ++ t) (b :: rest ++ t) =
      escapedMouseLen (a :: b :: rest) (b :: rest) := by
  by_cases hsgr : (ascii "\x1b\x1b[<").isPrefixOf (a :: b :: rest ++ t) = true
  · have hsgr' := isPrefixOf_of_escapedMouse (Or.inl rfl) h hsgr
    obtain ⟨r, hr⟩ := List.isPrefixOf_iff_prefix.1 hsgr'
    obtain ⟨rfl, rfl, rfl⟩ : a = esc ∧ b = esc ∧ rest = 0x5b :: 0x3c :: r := by
      simpa [ascii, esc, eq_comm] using hr
    have hno (s : Bytes) :
        (ascii "\x1b\x1b[M").isPrefixOf (esc :: esc :: 0x5b :: 0x3c :: s) = false := rfl
    cases hfind : findCsiFinal (esc :: 0x5b :: 0x3c :: r) (ascii "Mm") with
    | none => exact absurd (completeEscapeSequenceLen_escapedSgr hfind) h
    | some len =>
      obtain ⟨hfind', -, hle⟩ := findCsiFinal_append hfind t
      have htake : (esc :: 0x5b :: 0x3c :: r ++ t).take len = (esc :: 0x5b :: 0x3c :: r).take len :=
        List.take_append_of_le_length hle
      simp only [escapedMouseLen, List.cons_append] at hsgr hfind' htake ⊢
      simp only [hsgr, hsgr', if_true, hfind, hfind', htake, hno, Bool.and_false, Bool.false_and]
  · rw [Bool.not_eq_true] at hsgr
    have hsgr' := isPrefixOf_eq_false_of_append hsgr
    by_cases hdefault : (ascii "\x1b\x1b[M").isPrefixOf (a :: b :: rest ++ t) = true
    · have hdefault' := isPrefixOf_of_escapedMouse (Or.inr rfl) h hdefault
      obtain ⟨r, hr⟩ := List.isPrefixOf_iff_prefix.1 hdefault'
      obtain ⟨rfl, rfl, rfl⟩ : a = esc ∧ b = esc ∧ rest = 0x5b :: 0x4d :: r := by
        simpa [ascii, esc, eq_comm] using hr
      have hlen : 3 ≤ r.length := by
        by_contra hlt
        exact h (completeEscapeSequenceLen_escapedDefault (by omega))
      have htake : (r ++ t).take 3 = r.take 3 := List.take_append_of_le_length hlen
      have hlen' : 3 ≤ (r ++ t).length := by
        rw [List.length_append]
        omega
      simp only [escapedMouseLen, List.cons_append] at hsgr hdefault ⊢
      simp only [hsgr, hsgr', hdefault, hdefault', Bool.false_eq_true, if_false, Bool.and_true,
        List.take_succ_cons, htake, List.length_cons]
      rw [decide_eq_true (by omega), decide_eq_true (by omega)]
    · rw [Bool.not_eq_true] at hdefault
      rw [escapedMouseLen_eq_none hsgr hdefault,
        escapedMouseLen_eq_none hsgr' (isPrefixOf_eq_false_of_append hdefault)]

/-- A complete sequence stays complete, at the same length. -/
theorem completeEscapeSequenceLen_append (h : completeEscapeSequenceLen x = some n) (t : Bytes) :
    completeEscapeSequenceLen (x ++ t) = some n ∧ 0 < n ∧ n ≤ x.length := by
  -- By induction on the run of escapes the sequence starts with.
  induction x generalizing n with
  | nil => cases h
  | cons a tail ih =>
    cases tail with
    | nil => cases h
    | cons b rest =>
      have hmouse := escapedMouseLen_append (h ▸ Option.some_ne_none n) t
      have htwo := isPrefixOf_append_of_length (l := ascii "\x1b\x1b") (x := a :: b :: rest)
        (k := 2) (by decide) (by simp) t
      simp only [List.cons_append] at hmouse htwo ih ⊢
      rw [completeEscapeSequenceLen_cons_cons] at h ⊢
      rw [hmouse, htwo]
      cases hresult : escapedMouseLen (a :: b :: rest) (b :: rest) with
      | some result =>
        simp only [hresult] at h ⊢
        subst h
        have hone := escapedMouseLen_eq_one hresult
        simp only [List.length_cons]
        exact ⟨trivial, by omega, by omega⟩
      | none =>
        simp only [hresult] at h ⊢
        split at h
        · rename_i hp
          obtain ⟨m, hm, rfl⟩ := Option.map_eq_some_iff.1 h
          obtain ⟨hm', hpos, hle⟩ := ih hm
          rw [if_pos hp, hm']
          exact ⟨rfl, by omega, by simpa using hle⟩
        · rename_i hp
          rw [if_neg hp]
          exact plainEscapeSequenceLen_append (by simp) h t

/-! ## Events -/

theorem extractPaste_append {event : RawInputEvent} (h : extractPaste x = some (event, n))
    (t : Bytes) : extractPaste (x ++ t) = some (event, n) ∧ 0 < n ∧ n ≤ x.length := by
  obtain ⟨stop, hstop, h⟩ := Option.bind_eq_some_iff.1 h
  obtain ⟨content, hcontent, h⟩ := Option.bind_eq_some_iff.1 h
  cases h
  have hsix : bracketedPasteEnd.length = 6 := by decide
  have hle := findSubsequence_le hstop
  refine ⟨?_, by omega, hle⟩
  simp only [extractPaste, Option.bind_eq_bind, findSubsequence_append hstop, Option.bind_some]
  rw [List.take_append_of_le_length (by omega), hcontent]
  rfl

theorem extractChar_append {event : RawInputEvent} (h : extractChar x = some (event, n))
    (t : Bytes) : extractChar (x ++ t) = some (event, n) ∧ 0 < n ∧ n ≤ x.length := by
  obtain ⟨consumed, hconsumed, h⟩ := Option.bind_eq_some_iff.1 h
  obtain ⟨text, htext, h⟩ := Option.bind_eq_some_iff.1 h
  obtain ⟨key, hkey, h⟩ := Option.bind_eq_some_iff.1 h
  cases h
  obtain ⟨hchar, hpos, hle⟩ := firstCompleteUtf8CharLen_append hconsumed t
  refine ⟨?_, hpos, hle⟩
  simp only [extractChar, Option.bind_eq_bind, hchar, Option.bind_some]
  rw [List.take_append_of_le_length hle, htext]
  simp only [Option.bind_some, hkey]
  rfl

/-- The beginning of the start of a paste is no complete sequence. -/
theorem completeEscapeSequenceLen_take_bracketedPasteStart {k : ℕ} (hk : k < 6) :
    completeEscapeSequenceLen (bracketedPasteStart.take k) = none := by
  interval_cases k <;> decide

theorem extractOneEvent_paste (hp : bracketedPasteStart.isPrefixOf x = true) :
    extractOneEvent x = .ok (extractPaste x) := by
  cases x with
  | nil => cases hp
  | cons b x => rw [extractOneEvent, if_neg (by simp), if_pos hp]

theorem extractOneEvent_escape (hp : bracketedPasteStart.isPrefixOf (esc :: rest) = false) :
    extractOneEvent (esc :: rest) = match completeEscapeSequenceLen (esc :: rest) with
      | none => .ok none
      | some len => do
        return (← classifyEscapeSequence ((esc :: rest).take len)).map (·, len) := by
  rw [extractOneEvent, if_neg (by simp), if_neg (by simp [hp]), if_pos (by rfl)] <;> rfl

theorem extractOneEvent_char {b : UInt8} (hb : b ≠ esc) :
    extractOneEvent (b :: rest) = .ok (extractChar (b :: rest)) := by
  have hp : bracketedPasteStart.isPrefixOf (b :: rest) = false := by
    rw [Bool.eq_false_iff]
    intro hp
    obtain ⟨r, hr⟩ := List.isPrefixOf_iff_prefix.1 hp
    exact hb (List.head_eq_of_cons_eq hr).symm
  rw [extractOneEvent, if_neg (by simp), if_neg (by simp [hp]), if_neg (by simpa using hb)]

/-- What is decided about a buffer is decided about its extensions : the same event of
the same bytes, or the same panic. -/
theorem extractOneEvent_append (h : extractOneEvent x ≠ .ok none) (t : Bytes) :
    extractOneEvent (x ++ t) = extractOneEvent x := by
  cases x with
  | nil => exact absurd rfl h
  | cons b rest =>
    cases hp : bracketedPasteStart.isPrefixOf (b :: rest) with
    | true =>
      rw [extractOneEvent_paste hp] at h ⊢
      rw [extractOneEvent_paste (isPrefixOf_append hp t)]
      cases hpaste : extractPaste (b :: rest) with
      | none => exact absurd (by rw [hpaste]) h
      | some p => rw [(extractPaste_append hpaste t).1]
    | false =>
      by_cases hb : b = esc
      · subst hb
        rw [extractOneEvent_escape hp] at h ⊢
        cases hlen : completeEscapeSequenceLen (esc :: rest) with
        | none => exact absurd (by rw [hlen]) h
        | some len =>
          obtain ⟨hlen', -, hle⟩ := completeEscapeSequenceLen_append hlen t
          have hp' : bracketedPasteStart.isPrefixOf (esc :: rest ++ t) = false := by
            rw [Bool.eq_false_iff]
            intro hp'
            have hlt := length_lt_of_isPrefixOf_append hp' hp
            rw [eq_take_of_isPrefixOf_append hp' hlt,
              completeEscapeSequenceLen_take_bracketedPasteStart hlt] at hlen
            cases hlen
          have htake : (esc :: (rest ++ t)).take len = (esc :: rest).take len := by
            rw [← List.cons_append, List.take_append_of_le_length hle]
          rw [List.cons_append] at hp' hlen' ⊢
          rw [extractOneEvent_escape hp', hlen']
          simp only [htake]
      · rw [extractOneEvent_char hb] at h ⊢
        rw [List.cons_append, extractOneEvent_char hb]
        cases hchar : extractChar (b :: rest) with
        | none => exact absurd (by rw [hchar]) h
        | some p => rw [← List.cons_append, (extractChar_append hchar t).1]

/-- An event has at least one byte, and its bytes are there. -/
theorem extractOneEvent_consumed {event : RawInputEvent}
    (h : extractOneEvent x = .ok (some (event, n))) : 0 < n ∧ n ≤ x.length := by
  cases x with
  | nil => cases h
  | cons b rest =>
    cases hp : bracketedPasteStart.isPrefixOf (b :: rest) with
    | true =>
      rw [extractOneEvent_paste hp] at h
      exact (extractPaste_append (Except.ok.inj h) []).2
    | false =>
      by_cases hb : b = esc
      · subst hb
        rw [extractOneEvent_escape hp] at h
        cases hlen : completeEscapeSequenceLen (esc :: rest) with
        | none =>
          simp only [hlen] at h
          cases h
        | some len =>
          simp only [hlen] at h
          cases hclass : classifyEscapeSequence ((esc :: rest).take len) with
          | error p =>
            rw [hclass] at h
            cases h
          | ok result =>
            rw [hclass] at h
            obtain ⟨e, -, he⟩ := Option.map_eq_some_iff.1 (Except.ok.inj h)
            cases he
            exact (completeEscapeSequenceLen_append hlen []).2
      · rw [extractOneEvent_char hb] at h
        exact (extractChar_append (Except.ok.inj h) []).2

end Zynk
