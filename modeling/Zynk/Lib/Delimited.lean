import Zynk.Lib.Text

/-!
# Delimited spans

A byte stream holds spans that a start delimiter opens and a stop delimiter closes. They are found
from the left : the first start, the first stop behind it, and on from there. `spans` are the closed
ones, by the offsets of their beginning and of their end; `unclosed` is the offset of a start that
nothing closes.

A stream that comes in pieces is read as the pieces are (`spans_append`, `unclosed_append`) as long
as no span is open between them and no start delimiter straddles the cut (`Straddles`).
-/

namespace Delimited

open Text

section

variable (start stop : Bytes)

/-- At most `fuel` spans of a byte string, and the start behind them that nothing closes. -/
def scan : ℕ → Bytes → List (ℕ × ℕ) × Option ℕ
  | 0, _ => ([], none)
  | fuel + 1, s =>
    match findSubsequence start s with
    | none => ([], none)
    | some i =>
      match findSubsequence stop (s.drop (i + start.length)) with
      | none => ([], some i)
      | some j =>
        let k := i + start.length + j + stop.length
        let rest := scan fuel (s.drop k)
        ((i, k) :: rest.1.map (fun p => (k + p.1, k + p.2)), rest.2.map (k + ·))

example (s : Bytes) : scan start stop 0 s = ([], none) := by
  unfold scan
  rfl

/-- The closed spans, from the left. -/
def spans (s : Bytes) : List (ℕ × ℕ) :=
  (scan start stop (s.length + 1) s).1

/-- The offset of the start that nothing closes. -/
def unclosed (s : Bytes) : Option ℕ :=
  (scan start stop (s.length + 1) s).2

/-- A start delimiter begins in `s` and ends in `t`. -/
def Straddles (s t : Bytes) : Prop :=
  ∃ u, u ≠ [] ∧ u <:+ s ∧ u.length < start.length ∧ start <+: u ++ t

end

variable {start stop : Bytes}

/-! ## Reading from the left -/

variable {needle s t : Bytes} {i j : ℕ}

theorem isPrefix_findSubsequence (h : findSubsequence needle s = some i) : needle <+: s.drop i := by
  induction s generalizing i with
  | nil =>
    rw [findSubsequence] at h
    split at h
    · rename_i hempty
      rw [List.isEmpty_iff] at hempty
      simp [hempty]
    · cases h
  | cons b s ih =>
    rw [findSubsequence] at h
    split at h
    · rename_i hp
      cases h
      exact List.isPrefixOf_iff_prefix.1 hp
    · obtain ⟨j, hj, rfl⟩ := Option.map_eq_some_iff.1 h
      exact ih hj

theorem findSubsequence_of_isPrefix (h : needle <+: s) : findSubsequence needle s = some 0 := by
  cases s with
  | nil => simp [findSubsequence, List.prefix_nil.1 h]
  | cons b s => rw [findSubsequence, if_pos (List.isPrefixOf_iff_prefix.2 h)]

theorem findSubsequence_ne_none (h : needle <+: s.drop i) : findSubsequence needle s ≠ none := by
  induction s generalizing i with
  | nil => simp_all [findSubsequence]
  | cons b s ih =>
    cases i with
    | zero =>
      rw [List.drop_zero] at h
      simp [findSubsequence_of_isPrefix h]
    | succ i =>
      rw [findSubsequence]
      split
      · simp
      · simpa using ih h

/-- What is found within a part of the bytes is found in that part. -/
theorem findSubsequence_take {n : ℕ} (h : findSubsequence needle s = some i)
    (hn : i + needle.length ≤ n) : findSubsequence needle (s.take n) = some i := by
  rcases hi : findSubsequence needle (s.take n) with _ | j
  · refine absurd hi (findSubsequence_ne_none (i := i) ?_)
    rw [List.drop_take]
    exact List.prefix_take_iff.2 ⟨isPrefix_findSubsequence h, by omega⟩
  · have := findSubsequence_append hi (s.drop n)
    rw [List.take_append_drop, h] at this
    exact this.symm

/-- Enough fuel is enough. -/
theorem scan_fuel (hstart : start ≠ []) {n m : ℕ} (hn : s.length < n) (hm : s.length < m) :
    scan start stop n s = scan start stop m s := by
  induction n generalizing m s with
  | zero => omega
  | succ n ih =>
    obtain ⟨m, rfl⟩ : ∃ k, m = k + 1 := ⟨m - 1, by omega⟩
    rw [scan, scan]
    split
    · rfl
    · rename_i i hi
      split
      · rfl
      · rename_i j hj
        have hpos := List.length_pos_of_ne_nil hstart
        have hle := findSubsequence_le hi
        have hrest : scan start stop n (s.drop (i + start.length + j + stop.length)) =
            scan start stop m (s.drop (i + start.length + j + stop.length)) :=
          ih (by rw [List.length_drop]; omega) (by rw [List.length_drop]; omega)
        simp only [hrest]

theorem spans_of_none (h : findSubsequence start s = none) : spans start stop s = [] := by
  rw [spans, scan, h]

theorem unclosed_of_none (h : findSubsequence start s = none) : unclosed start stop s = none := by
  rw [unclosed, scan, h]

theorem spans_of_open (hi : findSubsequence start s = some i)
    (hj : findSubsequence stop (s.drop (i + start.length)) = none) : spans start stop s = [] := by
  rw [spans, scan, hi]
  simp only [hj]

theorem unclosed_of_open (hi : findSubsequence start s = some i)
    (hj : findSubsequence stop (s.drop (i + start.length)) = none) :
    unclosed start stop s = some i := by
  rw [unclosed, scan, hi]
  simp only [hj]

theorem scan_of_closed (hstart : start ≠ []) (hi : findSubsequence start s = some i)
    (hj : findSubsequence stop (s.drop (i + start.length)) = some j) :
    scan start stop (s.length + 1) s =
      ((i, i + start.length + j + stop.length) ::
        (spans start stop (s.drop (i + start.length + j + stop.length))).map (fun p =>
          (i + start.length + j + stop.length + p.1, i + start.length + j + stop.length + p.2)),
        (unclosed start stop (s.drop (i + start.length + j + stop.length))).map
          (i + start.length + j + stop.length + ·)) := by
  have hpos := List.length_pos_of_ne_nil hstart
  have hle := findSubsequence_le hi
  rw [scan, hi]
  simp only [hj]
  rw [spans, unclosed, scan_fuel hstart (Nat.lt_succ_self _) (m := s.length)
    (by rw [List.length_drop]; omega)]

theorem spans_of_closed (hstart : start ≠ []) (hi : findSubsequence start s = some i)
    (hj : findSubsequence stop (s.drop (i + start.length)) = some j) :
    spans start stop s = (i, i + start.length + j + stop.length) ::
      (spans start stop (s.drop (i + start.length + j + stop.length))).map (fun p =>
        (i + start.length + j + stop.length + p.1, i + start.length + j + stop.length + p.2)) := by
  rw [spans, scan_of_closed hstart hi hj]

theorem unclosed_of_closed (hstart : start ≠ []) (hi : findSubsequence start s = some i)
    (hj : findSubsequence stop (s.drop (i + start.length)) = some j) : unclosed start stop s =
      (unclosed start stop (s.drop (i + start.length + j + stop.length))).map
        (i + start.length + j + stop.length + ·) := by
  rw [unclosed, scan_of_closed hstart hi hj]

/-- What the scanning of a byte string comes to, span by span. -/
@[elab_as_elim]
theorem scan_induction (start stop : Bytes) (hstart : start ≠ []) {motive : Bytes → Prop}
    (nothing : ∀ s, findSubsequence start s = none → motive s)
    (opened : ∀ s i, findSubsequence start s = some i →
      findSubsequence stop (s.drop (i + start.length)) = none → motive s)
    (closed : ∀ s i j, findSubsequence start s = some i →
      findSubsequence stop (s.drop (i + start.length)) = some j →
      motive (s.drop (i + start.length + j + stop.length)) → motive s) (s : Bytes) : motive s := by
  induction hn : s.length using Nat.strongRecOn generalizing s with
  | _ n ih =>
    rcases hi : findSubsequence start s with _ | i
    · exact nothing s hi
    · rcases hj : findSubsequence stop (s.drop (i + start.length)) with _ | j
      · exact opened s i hi hj
      · have hpos := List.length_pos_of_ne_nil hstart
        have hle := findSubsequence_le hi
        refine closed s i j hi hj (ih _ ?_ _ rfl)
        rw [List.length_drop]
        omega

/-- A start that nothing closes is there, and no stop is behind it. -/
theorem unclosed_spec (hstart : start ≠ []) (h : unclosed start stop s = some i) :
    start <+: s.drop i ∧ i + start.length ≤ s.length ∧
      findSubsequence stop (s.drop (i + start.length)) = none := by
  induction s using scan_induction start stop hstart generalizing i with
  | nothing s hi => simp [unclosed_of_none hi] at h
  | opened s i' hi hj =>
    rw [unclosed_of_open hi hj] at h
    cases h
    exact ⟨isPrefix_findSubsequence hi, findSubsequence_le hi, hj⟩
  | closed s i' j hi hj ih =>
    rw [unclosed_of_closed hstart hi hj] at h
    obtain ⟨d, hd, rfl⟩ := Option.map_eq_some_iff.1 h
    obtain ⟨hp, hle, hnone⟩ := ih hd
    have hle' := findSubsequence_le hj
    rw [List.drop_drop] at hp hnone
    rw [List.length_drop] at hle hle'
    have hpos := List.length_pos_of_ne_nil hstart
    refine ⟨hp, by omega, ?_⟩
    rw [Nat.add_assoc _ d]
    exact hnone

/-- Behind a start that nothing closes there is nothing else. -/
theorem unclosed_of_isPrefix (hp : start <+: s)
    (hj : findSubsequence stop (s.drop start.length) = none) : unclosed start stop s = some 0 :=
  unclosed_of_open (findSubsequence_of_isPrefix hp) (by rwa [Nat.zero_add])

/-- The spans lie within the byte string. -/
theorem spans_le (hstart : start ≠ []) {p : ℕ × ℕ} (h : p ∈ spans start stop s) :
    p.2 ≤ s.length := by
  induction s using scan_induction start stop hstart generalizing p with
  | nothing s hi => simp [spans_of_none hi] at h
  | opened s i hi hj => simp [spans_of_open hi hj] at h
  | closed s i j hi hj ih =>
    have hlei := findSubsequence_le hi
    have hlej := findSubsequence_le hj
    rw [List.length_drop] at hlej
    rw [spans_of_closed hstart hi hj, List.mem_cons, List.mem_map] at h
    rcases h with rfl | ⟨q, hq, rfl⟩
    · simp only
      omega
    · have := ih hq
      rw [List.length_drop] at this
      simp only
      omega

/-! ## Pieces -/

theorem Straddles.of_drop {k : ℕ} (h : Straddles start (s.drop k) t) : Straddles start s t := by
  obtain ⟨u, hu, hsuffix, hlen, hp⟩ := h
  exact ⟨u, hu, hsuffix.trans (List.drop_suffix k s), hlen, hp⟩

/-- Without a straddling start, the first one is found behind the cut where it is there. -/
theorem findSubsequence_append_of_none (h : findSubsequence start s = none)
    (hcut : ¬ Straddles start s t) :
    findSubsequence start (s ++ t) = (findSubsequence start t).map (s.length + ·) := by
  induction s with
  | nil =>
    rw [List.nil_append]
    simp
  | cons b s ih =>
    have hnot : ¬ start <+: b :: (s ++ t) := by
      intro hp
      refine hcut ⟨b :: s, by simp, List.suffix_refl _, ?_, hp⟩
      by_contra hge
      have hp' : start <+: b :: s :=
        List.prefix_of_prefix_length_le hp (List.prefix_append (b :: s) t) (by omega)
      rw [findSubsequence_of_isPrefix hp'] at h
      cases h
    rw [findSubsequence] at h
    split at h
    · cases h
    · rw [List.cons_append, findSubsequence, if_neg (by rwa [List.isPrefixOf_iff_prefix]),
        ih (Option.map_eq_none_iff.1 h) fun hs => hcut (Straddles.of_drop (k := 1) hs)]
      rw [Option.map_map]
      refine congrArg (Option.map · _) (funext fun n => ?_)
      simp only [Function.comp, List.length_cons]
      omega

private theorem drop_closed (hi : findSubsequence start s = some i)
    (hj : findSubsequence stop (s.drop (i + start.length)) = some j) (t : Bytes) :
    findSubsequence start (s ++ t) = some i ∧
      findSubsequence stop ((s ++ t).drop (i + start.length)) = some j ∧
      (s ++ t).drop (i + start.length + j + stop.length) =
        s.drop (i + start.length + j + stop.length) ++ t := by
  have hlei := findSubsequence_le hi
  have hlej := findSubsequence_le hj
  rw [List.length_drop] at hlej
  refine ⟨findSubsequence_append hi t, ?_, ?_⟩
  · rw [List.drop_append_of_le_length hlei]
    exact findSubsequence_append hj t
  · rw [List.drop_append_of_le_length (by omega)]

/-- The spans of a stream with nothing open at the cut are those of its pieces. -/
theorem spans_append (hstart : start ≠ []) (h : unclosed start stop s = none)
    (hcut : ¬ Straddles start s t) : spans start stop (s ++ t) = spans start stop s ++
      (spans start stop t).map fun p => (s.length + p.1, s.length + p.2) := by
  induction s using scan_induction start stop hstart with
  | nothing s hi =>
    have hfind := findSubsequence_append_of_none hi hcut
    rw [spans_of_none hi, List.nil_append]
    rcases ht : findSubsequence start t with _ | i
    · rw [ht] at hfind
      rw [spans_of_none ht, spans_of_none hfind, List.map_nil]
    · rw [ht, Option.map_some] at hfind
      have hdrop : ∀ n, (s ++ t).drop (s.length + n) = t.drop n := by
        intro n
        rw [List.drop_append]
        simp
      rcases hj : findSubsequence stop (t.drop (i + start.length)) with _ | j
      · rw [spans_of_open ht hj, spans_of_open hfind (by rwa [Nat.add_assoc, hdrop]), List.map_nil]
      · rw [spans_of_closed hstart ht hj,
          spans_of_closed hstart (j := j) hfind (by rwa [Nat.add_assoc, hdrop])]
        simp only [List.map_cons, List.map_map, Nat.add_assoc, hdrop]
        rfl
  | opened s i hi hj => simp [unclosed_of_open hi hj] at h
  | closed s i j hi hj ih =>
    obtain ⟨hi', hj', hdrop⟩ := drop_closed hi hj t
    have hlej := findSubsequence_le hj
    have hlei := findSubsequence_le hi
    rw [List.length_drop] at hlej
    rw [unclosed_of_closed hstart hi hj] at h
    rw [spans_of_closed hstart hi' hj', hdrop,
      ih (Option.map_eq_none_iff.1 h) fun hs => hcut hs.of_drop, spans_of_closed hstart hi hj]
    simp only [List.map_append, List.map_map, List.cons_append]
    congr 2
    refine List.map_congr_left fun p _ => ?_
    simp only [Function.comp, List.length_drop, Prod.mk.injEq]
    omega

/-- What is open behind a stream with nothing open at the cut. -/
theorem unclosed_append (hstart : start ≠ []) (h : unclosed start stop s = none)
    (hcut : ¬ Straddles start s t) :
    unclosed start stop (s ++ t) = (unclosed start stop t).map (s.length + ·) := by
  induction s using scan_induction start stop hstart with
  | nothing s hi =>
    have hfind := findSubsequence_append_of_none hi hcut
    rcases ht : findSubsequence start t with _ | i
    · rw [ht] at hfind
      rw [unclosed_of_none ht, unclosed_of_none hfind, Option.map_none]
    · rw [ht, Option.map_some] at hfind
      have hdrop : ∀ n, (s ++ t).drop (s.length + n) = t.drop n := by
        intro n
        rw [List.drop_append]
        simp
      rcases hj : findSubsequence stop (t.drop (i + start.length)) with _ | j
      · rw [unclosed_of_open ht hj, unclosed_of_open hfind (by rwa [Nat.add_assoc, hdrop]),
          Option.map_some]
      · rw [unclosed_of_closed hstart ht hj,
          unclosed_of_closed hstart (j := j) hfind (by rwa [Nat.add_assoc, hdrop])]
        simp only [Option.map_map, Nat.add_assoc, hdrop]
        rfl
  | opened s i hi hj => simp [unclosed_of_open hi hj] at h
  | closed s i j hi hj ih =>
    obtain ⟨hi', hj', hdrop⟩ := drop_closed hi hj t
    have hlej := findSubsequence_le hj
    have hlei := findSubsequence_le hi
    rw [List.length_drop] at hlej
    rw [unclosed_of_closed hstart hi hj] at h
    rw [unclosed_of_closed hstart hi' hj', hdrop,
      ih (Option.map_eq_none_iff.1 h) fun hs => hcut hs.of_drop, Option.map_map]
    refine congrArg (Option.map · _) (funext fun n => ?_)
    simp only [Function.comp, List.length_drop]
    omega

/-- A start that was open stays open, or the stop that closes it ends behind the cut. -/
theorem unclosed_append_of_some (hstart : start ≠ []) (h : unclosed start stop s = some i)
    (t : Bytes) : findSubsequence stop ((s ++ t).drop (i + start.length)) = none ∧
        unclosed start stop (s ++ t) = some i ∨
      ∃ j, findSubsequence stop ((s ++ t).drop (i + start.length)) = some j ∧
        s.length < i + start.length + j + stop.length ∧
        unclosed start stop (s ++ t) =
          (unclosed start stop ((s ++ t).drop (i + start.length + j + stop.length))).map
            (i + start.length + j + stop.length + ·) := by
  induction s using scan_induction start stop hstart generalizing i with
  | nothing s hi => simp [unclosed_of_none hi] at h
  | opened s i' hi hj =>
    rw [unclosed_of_open hi hj] at h
    cases h
    have hi' := findSubsequence_append hi t
    rcases hj' : findSubsequence stop ((s ++ t).drop (i' + start.length)) with _ | j
    · exact Or.inl ⟨rfl, unclosed_of_open hi' hj'⟩
    · refine Or.inr ⟨j, rfl, ?_, unclosed_of_closed hstart hi' hj'⟩
      have hle := findSubsequence_le hi
      rw [List.drop_append_of_le_length hle] at hj'
      have hlt := length_lt_of_findSubsequence_append hj hj'
      rw [List.length_drop] at hlt
      omega
  | closed s i' j' hi hj ih =>
    rw [unclosed_of_closed hstart hi hj] at h
    obtain ⟨d, hd, rfl⟩ := Option.map_eq_some_iff.1 h
    obtain ⟨hi', hj', hdrop⟩ := drop_closed hi hj t
    have hle := findSubsequence_le hj
    have hlei := findSubsequence_le hi
    rw [List.length_drop] at hle
    rw [unclosed_of_closed hstart hi' hj', hdrop]
    rcases ih hd with ⟨hnone, hopen⟩ | ⟨j, hj₂, hlt, hclosed⟩
    · left
      rw [← hdrop, List.drop_drop] at hnone
      refine ⟨?_, by rw [hopen, Option.map_some]⟩
      rw [Nat.add_assoc _ d]
      exact hnone
    · right
      rw [← hdrop, List.drop_drop] at hj₂
      rw [List.length_drop] at hlt
      refine ⟨j, by rw [Nat.add_assoc _ d]; exact hj₂, by omega, ?_⟩
      rw [hclosed, Option.map_map, ← hdrop, List.drop_drop]
      simp only [Nat.add_assoc]
      rfl

/-- In front of a start that nothing closes nothing is open. -/
theorem unclosed_take (hstart : start ≠ []) (h : unclosed start stop s = some i) :
    unclosed start stop (s.take i) = none := by
  obtain ⟨-, hle, hnone⟩ := unclosed_spec hstart h
  rcases hopen : unclosed start stop (s.take i) with _ | d
  · rfl
  · exfalso
    obtain ⟨-, hd, -⟩ := unclosed_spec hstart hopen
    have hpos := List.length_pos_of_ne_nil hstart
    rw [List.length_take] at hd
    have hcase := unclosed_append_of_some hstart hopen (s.drop i)
    rw [List.take_append_drop, List.length_take] at hcase
    rcases hcase with ⟨-, hsame⟩ | ⟨j, -, hlt, hlater⟩
    · rw [h] at hsame
      cases hsame
      omega
    · rw [h] at hlater
      obtain ⟨e, -, he⟩ := Option.map_eq_some_iff.1 hlater.symm
      omega

/-- What is cut off behind a stream with nothing open leaves nothing open, if a stop cannot end in
it. -/
theorem unclosed_of_append (hstart : start ≠ []) {b : UInt8} (hlast : stop.getLast? = some b)
    (hb : b ∉ t) (h : unclosed start stop (s ++ t) = none) : unclosed start stop s = none := by
  rcases hopen : unclosed start stop s with _ | i
  · rfl
  · exfalso
    rcases unclosed_append_of_some hstart hopen t with ⟨-, hsame⟩ | ⟨j, hj, hlt, -⟩
    · rw [h] at hsame
      cases hsame
    · refine hb ?_
      obtain ⟨-, hle, -⟩ := unclosed_spec hstart hopen
      obtain ⟨v, hv⟩ := isPrefix_findSubsequence hj
      have hstop : stop = stop.dropLast ++ [b] := (List.dropLast_append_getLast? b hlast).symm
      have hlen : stop.dropLast.length + 1 = stop.length := by
        conv_rhs => rw [hstop]
        simp
      have hget : (s ++ t)[i + start.length + j + stop.dropLast.length]? = some b := by
        rw [List.drop_drop] at hv
        have := congrArg (·[stop.dropLast.length]?) hv
        simp only [List.getElem?_drop] at this
        rw [← this]
        conv_lhs => rw [hstop]
        simp
      rw [List.getElem?_append_right (by omega)] at hget
      exact List.mem_of_getElem? hget

end Delimited
