import Zynk.Server.PasteGuard

/-!
# What the paste guard's searches find

The guard looks for delimiters from a cursor, across two slices that are not put together, and
checks UTF-8 across them. Each of these searches finds what a plain scan of the bytes put together
finds.
-/

namespace Zynk.Server

open Text Delimited

@[simp] theorem length_bracketedPasteStart : bracketedPasteStart.length = 6 := by
  decide

@[simp] theorem length_bracketedPasteEnd : bracketedPasteEnd.length = 6 := by
  decide

theorem bracketedPasteStart_ne_nil : bracketedPasteStart ≠ [] := by
  decide

/-! ## End delimiters -/

theorem find?_range' {needle bytes : Bytes} (hneedle : needle ≠ []) {start n : ℕ}
    (hn : n = bytes.length - start) :
    (List.range' start n).find? (fun i => needle.isPrefixOf (bytes.drop i)) =
      (findSubsequence needle (bytes.drop start)).map (start + ·) := by
  induction n generalizing start with
  | zero =>
    rw [List.drop_eq_nil_of_le (by omega), findSubsequence]
    simp [hneedle]
  | succ n ih =>
    have hlt : start < bytes.length := by omega
    rw [List.range'_succ, List.find?_cons, List.drop_eq_getElem_cons hlt, findSubsequence,
      ← List.drop_eq_getElem_cons hlt]
    rcases hp : needle.isPrefixOf (bytes.drop start)
    · rw [ih (by omega), if_neg (by simp), Option.map_map]
      refine congrArg (Option.map · _) (funext fun i => ?_)
      simp only [Function.comp]
      omega
    · simp

theorem findPasteEnd_eq (bytes : Bytes) (start : ℕ) :
    findPasteEnd bytes start =
      (findSubsequence bracketedPasteEnd (bytes.drop start)).map (start + ·) :=
  find?_range' (by decide) rfl

/-- A search from further on finds the same, when nothing is skipped. -/
theorem findSubsequence_drop_add {needle bytes : Bytes} (hneedle : needle ≠ []) (start n : ℕ)
    (hskip : ∀ i, start ≤ i → i < start + n → ¬ needle <+: bytes.drop i) :
    (findSubsequence needle (bytes.drop (start + n))).map (start + n + ·) =
      (findSubsequence needle (bytes.drop start)).map (start + ·) := by
  induction n generalizing start with
  | zero => rfl
  | succ n ih =>
    rw [← Nat.add_assoc, Nat.add_right_comm, ih (start + 1) fun i hi hlt =>
      hskip i (by omega) (by omega)]
    rcases Nat.lt_or_ge start bytes.length with hlt | hge
    · have hnot : needle.isPrefixOf (bytes.drop start) ≠ true := by
        rw [Ne, List.isPrefixOf_iff_prefix]
        exact hskip start (by omega) (by omega)
      rw [List.drop_eq_getElem_cons hlt] at hnot ⊢
      rw [findSubsequence, if_neg hnot, Option.map_map]
      refine congrArg (Option.map · _) (funext fun i => ?_)
      simp only [Function.comp]
      omega
    · rw [List.drop_eq_nil_of_le hge, List.drop_eq_nil_of_le (by omega), findSubsequence]
      simp [hneedle]

/-- The cursor skips nothing : an end delimiter in front of it would have been found before. -/
theorem findPasteEnd_pasteEndOverlap {bytes : Bytes}
    (hnone : findSubsequence bracketedPasteEnd (bytes.drop 6) = none) (data : Bytes) :
    findPasteEnd (bytes ++ data) (pasteEndOverlap bytes.length) =
      findPasteEnd (bytes ++ data) 6 := by
  obtain ⟨n, hn⟩ : ∃ n, pasteEndOverlap bytes.length = 6 + n :=
    ⟨bytes.length - 5 - 6, by simp only [pasteEndOverlap, length_bracketedPasteStart,
      length_bracketedPasteEnd]; omega⟩
  have hn' : n = 0 ∨ 6 + n + 5 = bytes.length := by
    simp only [pasteEndOverlap, length_bracketedPasteStart, length_bracketedPasteEnd] at hn
    omega
  rw [findPasteEnd_eq, findPasteEnd_eq, hn]
  refine findSubsequence_drop_add (by decide) 6 n fun i hi hlt hp => ?_
  have hfit : bracketedPasteEnd.length ≤ (bytes.drop i).length := by
    rw [List.length_drop, length_bracketedPasteEnd]
    omega
  rw [List.drop_append_of_le_length (by omega)] at hp
  have hin := List.prefix_of_prefix_length_le hp (List.prefix_append _ _) hfit
  refine findSubsequence_ne_none (i := i - 6) ?_ hnone
  rwa [List.drop_drop, Nat.add_sub_of_le hi]

/-! ## The two slices -/

namespace BorrowedPasteCandidate

variable (candidate : BorrowedPasteCandidate)

/-- The bytes put together. -/
def bytes : Bytes :=
  candidate.retained ++ candidate.incoming

theorem len_eq : candidate.len = candidate.bytes.length := by
  rw [len, bytes, List.length_append]

theorem byte_eq (index : ℕ) : candidate.byte index = candidate.bytes[index]? := by
  rw [byte, bytes]
  split
  · rename_i h
    rw [List.getElem?_append_left h]
  · rename_i h
    rw [List.getElem?_append_right (by omega)]

theorem startsWithAt_eq (start : ℕ) (needle : Bytes) :
    candidate.startsWithAt start needle = needle.isPrefixOf (candidate.bytes.drop start) := by
  rw [Bool.eq_iff_iff, List.isPrefixOf_iff_prefix, startsWithAt, List.all_eq_true,
    List.prefix_iff_getElem?]
  simp only [byte_eq, beq_iff_eq, List.getElem?_drop]
  constructor
  · intro h i hi
    exact h (needle[i], i) (List.mem_zipIdx_iff_getElem?.2 (List.getElem?_eq_getElem hi))
  · rintro h ⟨b, i⟩ hmem
    rw [List.mem_zipIdx_iff_getElem?] at hmem
    obtain ⟨hi, hb⟩ := List.getElem?_eq_some_iff.1 hmem
    rw [h i hi, Option.some.injEq]
    exact hb

theorem startsWith_eq (needle : Bytes) :
    candidate.startsWith needle = needle.isPrefixOf candidate.bytes := by
  have h := candidate.startsWithAt_eq 0 needle
  simp only [startsWithAt, Nat.zero_add, List.drop_zero] at h
  rw [startsWith, h]

theorem findPasteEndInCandidate_eq (start : ℕ) :
    findPasteEndInCandidate candidate start = findPasteEnd candidate.bytes start := by
  simp only [findPasteEndInCandidate, findPasteEnd, startsWithAt_eq, len_eq]

theorem payloadSlices_append (start stop : ℕ) :
    (candidate.payloadSlices start stop).1 ++ (candidate.payloadSlices start stop).2 =
      (candidate.bytes.take stop).drop start := by
  simp only [payloadSlices, bytes]
  split
  · rename_i hstop
    rw [List.take_append_of_le_length hstop, List.append_nil]
  · rename_i hstop
    have hall : candidate.retained.take stop = candidate.retained :=
      List.take_of_length_le (by omega)
    rw [List.take_append, hall, List.drop_append]
    split
    · rename_i hstart
      rw [List.drop_eq_nil_of_le hstart]
    · rename_i hstart
      rw [Nat.sub_eq_zero_of_le (by omega : start ≤ candidate.retained.length), List.drop_zero]

end BorrowedPasteCandidate

theorem boundaryIsValid_sound {incomplete incoming : Bytes} {l : List ℕ}
    (h : boundaryIsValid incomplete incoming l = true) :
    checkUtf8 (incomplete ++ incoming) = .valid := by
  induction l with
  | nil => simp [boundaryIsValid] at h
  | cons consumed l ih =>
    rw [boundaryIsValid] at h
    split at h
    · rename_i hvalid
      have := checkUtf8_append_of_valid hvalid (incoming.drop consumed)
      rw [List.append_assoc, List.take_append_drop] at this
      rw [this]
      exact beq_iff_eq.1 h
    · cases h
    · exact ih h

theorem boundaryIsValid_complete {incomplete incoming : Bytes} {l : List ℕ}
    (h : checkUtf8 (incomplete ++ incoming) = .valid) (consumed : ℕ) (hmem : consumed ∈ l)
    (hdecided : ∀ tail, checkUtf8 (incomplete ++ incoming.take consumed) ≠ .incomplete tail) :
    boundaryIsValid incomplete incoming l = true := by
  induction l with
  | nil => simp at hmem
  | cons c l ih =>
    have hsplit : incomplete ++ incoming = (incomplete ++ incoming.take c) ++ incoming.drop c := by
      rw [List.append_assoc, List.take_append_drop]
    rw [boundaryIsValid]
    split
    · rename_i hvalid
      rw [hsplit, checkUtf8_append_of_valid hvalid] at h
      exact beq_iff_eq.2 h
    · rename_i hinvalid
      rw [hsplit, checkUtf8_append_of_invalid hinvalid] at h
      cases h
    · rename_i tail htail
      rcases List.mem_cons.1 hmem with rfl | hmem
      · exact absurd htail (hdecided tail)
      · exact ih hmem

/-- A text in two slices is checked as the text put together. -/
theorem splitUtf8IsValid_eq (retained incoming : Bytes) :
    splitUtf8IsValid retained incoming = (decodeUtf8 (retained ++ incoming)).isSome := by
  rw [Bool.eq_iff_iff, ← checkUtf8_eq_valid_iff, splitUtf8IsValid]
  split
  · rename_i h
    rw [checkUtf8_append_of_valid h]
    exact beq_iff_eq
  · rename_i h
    simp [checkUtf8_append_of_invalid h]
  · rename_i incomplete h
    obtain ⟨a, u, n, rfl, hn, hlt, hle⟩ := incomplete_tail h
    rw [checkUtf8_append_of_incomplete h]
    split
    · rename_i hempty
      rw [List.isEmpty_iff.1 hempty, List.append_nil]
      simp [checkUtf8_ne_valid hn hlt]
    · refine ⟨boundaryIsValid_sound, fun hvalid => ?_⟩
      -- the character at the boundary is decided once its last byte is there
      have hthere : n ≤ (a :: u).length + incoming.length := by
        by_contra hshort
        refine checkUtf8_ne_valid (u := u ++ incoming) hn ?_ hvalid
        simp only [List.length_cons, List.length_append] at hshort ⊢
        omega
      refine boundaryIsValid_complete hvalid (n - (a :: u).length) ?_ fun tail => ?_
      · rw [List.mem_range'_1]
        omega
      · refine checkUtf8_ne_incomplete (u := u ++ incoming.take (n - (a :: u).length)) hn ?_ tail
        simp only [List.length_cons, List.length_append, List.length_take] at hthere hlt ⊢
        omega

/-! ## Start delimiters -/

theorem incompleteStartLoop_eq {data : Bytes} {fuel searchFrom : ℕ}
    (h : data.length - searchFrom < fuel) : incompleteStartLoop data fuel searchFrom =
      (unclosed bracketedPasteStart bracketedPasteEnd (data.drop searchFrom)).map
        (searchFrom + ·) := by
  induction fuel generalizing searchFrom with
  | zero => omega
  | succ fuel ih =>
    rw [incompleteStartLoop]
    rcases hi : findSubsequence bracketedPasteStart (data.drop searchFrom) with _ | i
    · simp [unclosed_of_none hi]
    · have hle := findSubsequence_le hi
      have hdrop : ∀ n, data.drop (searchFrom + n) = (data.drop searchFrom).drop n := fun n =>
        List.drop_drop.symm
      rw [List.length_drop, length_bracketedPasteStart] at hle
      simp only [findPasteEnd_eq, Nat.add_assoc, hdrop]
      rcases hj : findSubsequence bracketedPasteEnd
        ((data.drop searchFrom).drop (i + bracketedPasteStart.length)) with _ | j
      · simp [unclosed_of_open hi hj]
      · simp only [Option.map_some]
        rw [ih (by simp only [length_bracketedPasteStart, length_bracketedPasteEnd]; omega),
          unclosed_of_closed bracketedPasteStart_ne_nil hi hj, Option.map_map]
        simp only [List.drop_drop, Nat.add_assoc]
        rfl

theorem incompleteBracketedPasteStart_eq (data : Bytes) :
    incompleteBracketedPasteStart data =
      unclosed bracketedPasteStart bracketedPasteEnd data := by
  rw [incompleteBracketedPasteStart, incompleteStartLoop_eq (by omega)]
  simp

theorem trailing_eq_some {data : Bytes} {n : ℕ}
    (h : trailingBracketedPasteStartPrefix data = some n) :
    1 ≤ n ∧ n < 6 ∧ bracketedPasteStart.take n <:+ data := by
  have hmem := List.mem_of_find?_eq_some h
  have hsuffix := List.find?_some h
  rw [List.mem_reverse, List.mem_range'_1, length_bracketedPasteStart] at hmem
  exact ⟨hmem.1, by omega, List.isSuffixOf_iff_suffix.1 hsuffix⟩

theorem trailing_eq_none_iff {data : Bytes} : trailingBracketedPasteStartPrefix data = none ↔
    ∀ t, t ≠ [] → t.length < 6 → t <+: bracketedPasteStart → ¬ t <:+ data := by
  rw [trailingBracketedPasteStartPrefix, List.find?_eq_none]
  constructor
  · intro h t hne hlen hp hsuffix
    have hpos := List.length_pos_of_ne_nil hne
    refine h t.length ?_ (List.isSuffixOf_iff_suffix.2 ?_)
    · rw [List.mem_reverse, List.mem_range'_1, length_bracketedPasteStart]
      omega
    · rwa [← List.prefix_iff_eq_take.1 hp]
  · intro h n hn hsuffix
    rw [List.mem_reverse, List.mem_range'_1, length_bracketedPasteStart] at hn
    have hlen : (bracketedPasteStart.take n).length = n := by
      rw [List.length_take, length_bracketedPasteStart]
      omega
    refine h _ ?_ (by omega) (List.take_prefix _ _) (List.isSuffixOf_iff_suffix.1 hsuffix)
    rw [← List.length_pos_iff, hlen]
    omega

/-! ## Envelopes -/

/-- The length of the paste that the bytes begin with. -/
def pasteEnvelope (bytes : Bytes) : Option ℕ :=
  if bracketedPasteStart.isPrefixOf bytes then
    (findPasteEnd bytes bracketedPasteStart.length).map (· + bracketedPasteEnd.length)
  else none

theorem pasteEnvelope_eq_some_iff {bytes : Bytes} {e : ℕ} : pasteEnvelope bytes = some e ↔
    bracketedPasteStart <+: bytes ∧
      ∃ n, findSubsequence bracketedPasteEnd (bytes.drop 6) = some n ∧ e = n + 12 := by
  rw [pasteEnvelope, findPasteEnd_eq, length_bracketedPasteStart, length_bracketedPasteEnd]
  split
  · rename_i h
    rw [List.isPrefixOf_iff_prefix] at h
    simp only [h, true_and, Option.map_map, Option.map_eq_some_iff, Function.comp]
    exact exists_congr fun n => and_congr_right fun _ => ⟨fun h => by omega, fun h => by omega⟩
  · rename_i h
    rw [List.isPrefixOf_iff_prefix] at h
    simp [h]

theorem pasteEnvelope_le {bytes : Bytes} {e : ℕ} (h : pasteEnvelope bytes = some e) :
    12 ≤ e ∧ e ≤ bytes.length := by
  obtain ⟨hp, n, hn, rfl⟩ := pasteEnvelope_eq_some_iff.1 h
  have hle := findSubsequence_le hn
  have hlen := hp.length_le
  rw [List.length_drop, length_bracketedPasteEnd] at hle
  rw [length_bracketedPasteStart] at hlen
  omega

/-- A paste that is complete : nothing is open behind it, and it does not end with a part of a start
delimiter. -/
theorem pasteEnvelope_take {bytes : Bytes} {e : ℕ} (h : pasteEnvelope bytes = some e) :
    bracketedPasteStart <+: bytes.take e ∧
      unclosed bracketedPasteStart bracketedPasteEnd (bytes.take e) = none ∧
      trailingBracketedPasteStartPrefix (bytes.take e) = none := by
  obtain ⟨hle, hlen⟩ := pasteEnvelope_le h
  obtain ⟨hp, n, hn, rfl⟩ := pasteEnvelope_eq_some_iff.1 h
  have hp' : bracketedPasteStart <+: bytes.take (n + 12) :=
    List.prefix_take_iff.2 ⟨hp, by rw [length_bracketedPasteStart]; omega⟩
  refine ⟨hp', ?_, trailing_eq_none_iff.2 fun t hne hshort ht hsuffix => ?_⟩
  · have hend : findSubsequence bracketedPasteEnd
        ((bytes.take (n + 12)).drop (0 + bracketedPasteStart.length)) = some n := by
      rw [Nat.zero_add, length_bracketedPasteStart, List.drop_take]
      exact findSubsequence_take hn (by rw [length_bracketedPasteEnd]; omega)
    rw [unclosed_of_closed bracketedPasteStart_ne_nil (findSubsequence_of_isPrefix hp') hend,
      List.drop_eq_nil_of_le, unclosed_of_none (by decide), Option.map_none]
    rw [List.length_take, length_bracketedPasteStart, length_bracketedPasteEnd]
    omega
  · -- its last byte is that of an end delimiter
    have hend := List.prefix_iff_getElem?.1 (isPrefix_findSubsequence hn) 5 (by decide)
    rw [List.getElem?_drop, List.getElem?_drop] at hend
    have hlast : (bytes.take (n + 12)).getLast? = some 0x7e := by
      rw [List.getLast?_eq_getElem?, List.length_take, Nat.min_eq_left hlen,
        List.getElem?_take_of_lt (by omega), show n + 12 - 1 = 6 + (n + 5) by omega, hend]
      decide
    obtain ⟨u, hu⟩ := hsuffix
    rw [← hu, List.getLast?_append_of_ne_nil _ hne] at hlast
    have hall : ∀ n < 6, 0x7e ∉ bracketedPasteStart.take n := by decide
    refine hall t.length hshort ?_
    rw [← List.prefix_iff_eq_take.1 ht]
    exact List.mem_of_getLast? hlast

/-- Only the first byte of a start delimiter is an escape. -/
theorem eq_zero_of_start_eq_esc {i : ℕ} (hi : i < 6) (h : bracketedPasteStart[i]? = some esc) :
    i = 0 := by
  have hall : ∀ i < 6, bracketedPasteStart[i]? = some esc → i = 0 := by decide
  exact hall i hi h

/-- A start delimiter and an end delimiter do not overlap. -/
theorem findSubsequence_bracketedPasteEnd {bytes : Bytes} (h : bracketedPasteStart <+: bytes) :
    findSubsequence bracketedPasteEnd bytes =
      (findSubsequence bracketedPasteEnd (bytes.drop 6)).map (6 + ·) := by
  have hskip := @findSubsequence_drop_add bracketedPasteEnd bytes
    (by decide) 0 6 fun i _ hi hp => ?_
  · simpa using hskip.symm
  · obtain ⟨t, rfl⟩ := h
    rw [List.prefix_iff_getElem?] at hp
    -- only the first byte of a start delimiter is an escape, and its fifth is not that of an end
    have hescape := hp 0 (by decide)
    have hfifth := hp 4 (by decide)
    rw [List.getElem?_drop, List.getElem?_append_left (by rw [length_bracketedPasteStart]; omega)]
      at hescape
    obtain rfl : i = 0 := eq_zero_of_start_eq_esc (by omega) hescape
    rw [List.getElem?_drop, List.getElem?_append_left (by decide)] at hfifth
    exact absurd hfifth (by decide)

/-- One complete paste with a text in it. -/
theorem isCompleteTextBracketedPaste_iff {bytes : Bytes} :
    isCompleteTextBracketedPaste bytes = true ↔ pasteEnvelope bytes = some bytes.length ∧
      (decodeUtf8 ((bytes.take (bytes.length - 6)).drop 6)).isSome = true := by
  rw [isCompleteTextBracketedPaste, pasteEnvelope_eq_some_iff]
  split
  · rename_i h
    rw [Bool.not_eq_true', ← Bool.not_eq_true, List.isPrefixOf_iff_prefix] at h
    simp [h]
  · rename_i h
    rw [Bool.not_eq_true', Bool.not_eq_false, List.isPrefixOf_iff_prefix] at h
    rw [findSubsequence_bracketedPasteEnd h]
    rcases hn : findSubsequence bracketedPasteEnd (bytes.drop 6) with _ | n
    · simp
    · simp only [Option.map_some, Bool.and_eq_true, beq_iff_eq, h, true_and, Option.some.injEq,
        length_bracketedPasteStart, length_bracketedPasteEnd]
      constructor
      · rintro ⟨hlen, htext⟩
        refine ⟨⟨n, rfl, by omega⟩, ?_⟩
        rwa [← hlen, Nat.add_sub_cancel]
      · rintro ⟨⟨_, rfl, hlen⟩, htext⟩
        refine ⟨by omega, ?_⟩
        rwa [show 6 + n = bytes.length - 6 by omega]

/-! ## What is held back -/

/-- The bytes agree with the expected ones as far as both go. -/
def agrees (expected bytes : Bytes) : Bool :=
  (expected.take (min bytes.length expected.length)).isPrefixOf bytes

theorem agrees_iff {expected bytes : Bytes} :
    agrees expected bytes = true ↔ expected <+: bytes ∨ bytes <+: expected := by
  rw [agrees, List.isPrefixOf_iff_prefix]
  rcases Nat.le_total bytes.length expected.length with hle | hle
  · rw [Nat.min_eq_left hle]
    constructor
    · intro h
      have heq := h.eq_of_length (by rw [List.length_take, Nat.min_eq_left hle])
      exact Or.inr (heq ▸ List.take_prefix _ _)
    · rintro (h | h)
      · have heq := h.eq_of_length (Nat.le_antisymm h.length_le hle)
        exact (List.take_prefix _ _).trans (heq ▸ List.prefix_rfl)
      · exact List.prefix_iff_eq_take.1 h ▸ List.prefix_rfl
  · rw [Nat.min_eq_right hle, List.take_length]
    refine ⟨Or.inl, fun h => ?_⟩
    rcases h with h | h
    · exact h
    · exact h.eq_of_length (Nat.le_antisymm h.length_le hle) ▸ List.prefix_rfl

/-- From where on the guard holds back what it scans : from a start delimiter that nothing closes,
or from the longest end of the data that may become a start delimiter. -/
def heldFrom (data : Bytes) : Option ℕ :=
  (incompleteBracketedPasteStart data).or
    ((trailingBracketedPasteStartPrefix data).map (data.length - ·))

/-- The bytes may become one paste, and are not yet. -/
def Held (bytes : Bytes) : Prop :=
  bytes ≠ [] ∧ agrees bracketedPasteStart bytes = true ∧ pasteEnvelope bytes = none

theorem Held.head {bytes : Bytes} (h : Held bytes) : bytes.head? = some esc := by
  rcases agrees_iff.1 h.2.1 with ⟨t, rfl⟩ | ⟨t, ht⟩
  · rfl
  · rcases bytes with _ | ⟨b, s⟩
    · exact absurd rfl h.1
    · have := congrArg List.head? ht
      rw [List.cons_append, List.head?_cons] at this
      rw [List.head?_cons, this]
      rfl

theorem pasteEnvelope_eq_none_of_isPrefix {bytes : Bytes} (h : bracketedPasteStart <+: bytes) :
    pasteEnvelope bytes = none ↔ findSubsequence bracketedPasteEnd (bytes.drop 6) = none := by
  rw [pasteEnvelope, if_pos (List.isPrefixOf_iff_prefix.2 h), findPasteEnd_eq]
  simp

theorem pasteEnvelope_eq_none_of_length {bytes : Bytes} (h : bytes.length < 6) :
    pasteEnvelope bytes = none := by
  rw [pasteEnvelope, if_neg]
  intro hp
  have := (List.isPrefixOf_iff_prefix.1 hp).length_le
  rw [length_bracketedPasteStart] at this
  omega

/-- A proper prefix of the start delimiter. -/
theorem held_of_take {n : ℕ} (hpos : 1 ≤ n) (hlt : n < 6) : Held (bracketedPasteStart.take n) := by
  have hlen : (bracketedPasteStart.take n).length = n := by
    rw [List.length_take, length_bracketedPasteStart]
    omega
  refine ⟨?_, agrees_iff.2 (Or.inr (List.take_prefix _ _)),
    pasteEnvelope_eq_none_of_length (by omega)⟩
  rw [← List.length_pos_iff]
  omega

/-- Nothing is held back : nothing is open and no end may become a start delimiter. -/
theorem heldFrom_eq_none_iff {data : Bytes} : heldFrom data = none ↔
    unclosed bracketedPasteStart bracketedPasteEnd data = none ∧
      trailingBracketedPasteStartPrefix data = none := by
  rw [heldFrom, incompleteBracketedPasteStart_eq, Option.or_eq_none_iff, Option.map_eq_none_iff]

/-- What is held back may become a paste, and in front of it nothing is open. -/
theorem heldFrom_spec {data : Bytes} {i : ℕ} (h : heldFrom data = some i) :
    Held (data.drop i) ∧ i < data.length ∧
      unclosed bracketedPasteStart bracketedPasteEnd (data.take i) = none := by
  rw [heldFrom, incompleteBracketedPasteStart_eq, Option.or_eq_some_iff] at h
  rcases h with h | ⟨hnone, h⟩
  · obtain ⟨hp, hle, hend⟩ := unclosed_spec bracketedPasteStart_ne_nil h
    have hlen := length_bracketedPasteStart
    refine ⟨⟨?_, agrees_iff.2 (Or.inl hp), ?_⟩, by omega,
      unclosed_take bracketedPasteStart_ne_nil h⟩
    · rw [← List.length_pos_iff, List.length_drop]
      omega
    · rw [pasteEnvelope_eq_none_of_isPrefix hp, List.drop_drop]
      exact hend
  · obtain ⟨n, hn, rfl⟩ := Option.map_eq_some_iff.1 h
    obtain ⟨hpos, hlt, hsuffix⟩ := trailing_eq_some hn
    have htake : (bracketedPasteStart.take n).length = n := by
      rw [List.length_take, length_bracketedPasteStart]
      omega
    have hle := hsuffix.length_le
    have hdrop : data.drop (data.length - n) = bracketedPasteStart.take n := by
      rw [List.suffix_iff_eq_drop.1 hsuffix, htake]
    rw [hdrop]
    refine ⟨held_of_take hpos hlt, by omega, ?_⟩
    rw [← List.take_append_drop (data.length - n) data, hdrop] at hnone
    refine unclosed_of_append bracketedPasteStart_ne_nil (b := 0x7e) (by decide) (fun hmem => ?_)
      hnone
    have hall : ∀ n < 6, 0x7e ∉ bracketedPasteStart.take n := by decide
    exact hall n hlt hmem

theorem Held.heldFrom {bytes : Bytes} (h : Held bytes) : heldFrom bytes = some 0 := by
  obtain ⟨hne, hagrees, hnone⟩ := h
  rw [Zynk.Server.heldFrom, incompleteBracketedPasteStart_eq]
  by_cases hp : bracketedPasteStart <+: bytes
  · rw [unclosed_of_isPrefix hp ((pasteEnvelope_eq_none_of_isPrefix hp).1 hnone), Option.some_or]
  · have hp' : bytes <+: bracketedPasteStart := (agrees_iff.1 hagrees).resolve_left hp
    have hpos := List.length_pos_of_ne_nil hne
    have hlt : bytes.length < 6 := by
      have hle := hp'.length_le
      rw [length_bracketedPasteStart] at hle
      refine Nat.lt_of_le_of_ne hle fun heq => hp ?_
      exact hp'.eq_of_length (by rw [heq, length_bracketedPasteStart]) ▸ List.prefix_rfl
    have hbytes := List.prefix_iff_eq_take.1 hp'
    have hall : ∀ n < 6, 1 ≤ n →
        (unclosed bracketedPasteStart bracketedPasteEnd (bracketedPasteStart.take n)).or
          ((trailingBracketedPasteStartPrefix (bracketedPasteStart.take n)).map
            ((bracketedPasteStart.take n).length - ·)) = some 0 := by decide
    have := hall bytes.length hlt hpos
    rwa [← hbytes] at this

end Zynk.Server
