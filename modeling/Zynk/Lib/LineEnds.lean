import Mathlib.Algebra.BigOperators.Group.List.Basic
import Mathlib.Algebra.Order.Group.Nat
import Zynk.Lib.Lines

/-!
# Lines with their ends, and byte offsets

`endedLines` are the lines of a text, each with the line break behind it, so that nothing of the
text is lost (`joinEnded_endedLines`). A reader that keeps only the lines and takes each break for
one byte is off by one for each carriage return : `splitAtByte_assumedOffset` and
`isSome_splitAtByte_assumedOffset` tell where it cuts.
-/

namespace Text

/-! ## Byte offsets -/

theorem byteLen_append (s t : Text) : byteLen (s ++ t) = byteLen s + byteLen t := by
  simp [byteLen]

theorem byteLen_cons (c : Char) (s : Text) : byteLen (c :: s) = c.utf8Size + byteLen s := by
  simp [byteLen]

variable {s : Text}

theorem byteLen_pos (h : s ≠ []) : 0 < byteLen s := by
  obtain ⟨c, s, rfl⟩ := List.exists_cons_of_ne_nil h
  have := c.utf8Size_pos
  rw [byteLen_cons]
  omega

theorem splitAtByte_eq_some_iff {n : ℕ} {a b : Text} :
    splitAtByte n s = some (a, b) ↔ s = a ++ b ∧ byteLen a = n := by
  induction s generalizing n a b with
  | nil =>
    rcases n with _ | n
    · simp only [splitAtByte, Option.some.injEq, Prod.mk.injEq]
      constructor
      · rintro ⟨rfl, rfl⟩
        exact ⟨rfl, rfl⟩
      · rintro ⟨h, -⟩
        rw [eq_comm, List.append_eq_nil_iff] at h
        exact ⟨h.1.symm, h.2.symm⟩
    · simp only [splitAtByte, reduceCtorEq, false_iff, not_and]
      intro h
      rw [eq_comm, List.append_eq_nil_iff] at h
      simp [h.1, byteLen]
  | cons c s ih =>
    have hc := c.utf8Size_pos
    rcases n with _ | n
    · simp only [splitAtByte, Option.some.injEq, Prod.mk.injEq]
      constructor
      · rintro ⟨rfl, rfl⟩
        exact ⟨rfl, rfl⟩
      · rintro ⟨h, hlen⟩
        obtain rfl : a = [] := by
          by_contra hne
          have := byteLen_pos hne
          omega
        exact ⟨rfl, h⟩
    · rw [splitAtByte.eq_3 _ _ _ (by omega)]
      split_ifs with hle
      · rw [Option.map_eq_some_iff]
        constructor
        · rintro ⟨⟨a', b'⟩, hsplit, heq⟩
          obtain ⟨rfl, rfl⟩ := Prod.mk.inj heq
          obtain ⟨rfl, hlen⟩ := ih.1 hsplit
          refine ⟨rfl, ?_⟩
          rw [byteLen_cons, hlen]
          omega
        · rintro ⟨h, hlen⟩
          rcases a with _ | ⟨c', a⟩
          · simp [byteLen] at hlen
          · obtain ⟨rfl, rfl⟩ := List.cons.inj h
            rw [byteLen_cons] at hlen
            exact ⟨(a, b), ih.2 ⟨rfl, by omega⟩, rfl⟩
      · simp only [false_iff, not_and]
        intro h hlen
        rcases a with _ | ⟨c', a⟩
        · simp [byteLen] at hlen
        · obtain ⟨rfl, -⟩ := List.cons.inj h
          rw [byteLen_cons] at hlen
          omega

theorem isSome_splitAtByte {n : ℕ} :
    (splitAtByte n s).isSome = true ↔ ∃ a b, s = a ++ b ∧ byteLen a = n := by
  rw [Option.isSome_iff_exists]
  constructor
  · rintro ⟨⟨a, b⟩, h⟩
    exact ⟨a, b, splitAtByte_eq_some_iff.1 h⟩
  · rintro ⟨a, b, h⟩
    exact ⟨(a, b), splitAtByte_eq_some_iff.2 h⟩

/-- Inside a beginning of the text the rest does not matter. -/
theorem isSome_splitAtByte_append {n : ℕ} {a : Text} (h : n ≤ byteLen a) (b : Text) :
    (splitAtByte n (a ++ b)).isSome = true ↔ ∃ suf, suf <:+ a ∧ byteLen suf + n = byteLen a := by
  rw [isSome_splitAtByte]
  constructor
  · rintro ⟨x, y, heq, rfl⟩
    rcases List.append_eq_append_iff.1 heq with ⟨t, rfl, rfl⟩ | ⟨t, rfl, rfl⟩
    · rw [byteLen_append] at h
      obtain rfl : t = [] := by
        by_contra hne
        have := byteLen_pos hne
        omega
      exact ⟨[], List.nil_suffix, by simp [byteLen]⟩
    · exact ⟨t, List.suffix_append _ _, by rw [byteLen_append]; omega⟩
  · rintro ⟨suf, ⟨x, rfl⟩, hlen⟩
    rw [byteLen_append] at hlen
    exact ⟨x, suf ++ b, by rw [List.append_assoc], by omega⟩

/-! ## Lines with their ends -/

/-- A line, and the line break behind it. -/
abbrev Ended :=
  Text × Text

def endOf (part : Text) : Text :=
  if (stripSuffix "\r" part).isSome then ['\r', '\n'] else ['\n']

/-- The parts between line feeds, each with its end. The last one has none. -/
def endedOf : List Text → List Ended
  | [] => []
  | [last] => if last.isEmpty then [] else [(last, [])]
  | part :: next :: parts => (stripCr part, endOf part) :: endedOf (next :: parts)

def endedLines (s : Text) : List Ended :=
  endedOf (splitOn '\n' s)

def joinEnded (l : List Ended) : Text :=
  l.flatMap fun e => e.1 ++ e.2

@[simp] theorem joinEnded_nil : joinEnded [] = [] :=
  rfl

@[simp] theorem joinEnded_cons (e : Ended) (l : List Ended) :
    joinEnded (e :: l) = e.1 ++ e.2 ++ joinEnded l :=
  rfl

@[simp] theorem joinEnded_append (l l' : List Ended) :
    joinEnded (l ++ l') = joinEnded l ++ joinEnded l' :=
  List.flatMap_append

/-- The lines without their ends. -/
theorem map_endedLines (s : Text) : (endedLines s).map Prod.fst = lines s := by
  rw [endedLines, lines]
  generalize splitOn '\n' s = parts
  induction parts with
  | nil => rfl
  | cons part parts ih =>
    rcases parts with _ | ⟨next, parts⟩
    · rw [endedOf, linesOf]
      split_ifs <;> rfl
    · rw [endedOf, linesOf, List.map_cons, ih]

theorem stripCr_append_endOf (part : Text) : stripCr part ++ endOf part = part ++ ['\n'] := by
  rw [stripCr, endOf, stripSuffix]
  split_ifs with hsuffix hsome hsome
  · obtain ⟨head, rfl⟩ := List.isSuffixOf_iff_suffix.1 hsuffix
    simp
  · simp at hsome
  · simp at hsome
  · simp

theorem endedLines_of_not_mem (h : '\n' ∉ s) :
    endedLines s = if s.isEmpty then [] else [(s, [])] := by
  rw [endedLines, splitOn_of_not_mem h, endedOf]

theorem endedLines_append_cons {part : Text} (h : '\n' ∉ part) (rest : Text) :
    endedLines (part ++ '\n' :: rest) = (stripCr part, endOf part) :: endedLines rest := by
  obtain ⟨next, parts, hparts⟩ := List.exists_cons_of_ne_nil (splitOn_ne_nil '\n' rest)
  rw [endedLines, splitOn_append_cons h, endedLines, hparts, endedOf]

/-- A text has no line feed, or it has a first line. -/
theorem exists_first_line (s : Text) :
    '\n' ∉ s ∨ ∃ part rest, '\n' ∉ part ∧ s = part ++ '\n' :: rest := by
  by_cases h : '\n' ∈ s
  · obtain ⟨part, rest, rfl, hpart⟩ := List.eq_append_cons_of_mem h
    exact Or.inr ⟨part, rest, hpart, rfl⟩
  · exact Or.inl h

/-- The lines with their ends are the whole text. -/
theorem joinEnded_endedLines (s : Text) : joinEnded (endedLines s) = s := by
  induction hn : s.length using Nat.strong_induction_on generalizing s with
  | _ n ih =>
    rcases exists_first_line s with h | ⟨part, rest, h, rfl⟩
    · rw [endedLines_of_not_mem h]
      rcases s with _ | ⟨c, s⟩
      · rfl
      · simp
    · have hlt : rest.length < n := by
        rw [← hn]
        simp
        omega
      rw [endedLines_append_cons h, joinEnded_cons, ih _ hlt rest rfl, stripCr_append_endOf]
      simp

variable {front back : List Ended}

/-- The first lines of a text, as a text of its own. -/
theorem endedLines_joinEnded (h : endedLines s = front ++ back) :
    endedLines (joinEnded front) = front := by
  induction front generalizing s with
  | nil => rfl
  | cons e front ih =>
    rcases exists_first_line s with hs | ⟨part, rest, hpart, rfl⟩
    · rw [endedLines_of_not_mem hs] at h
      split_ifs at h with hempty
      · cases h
      obtain ⟨rfl, hnil⟩ := List.cons.inj h
      obtain ⟨rfl, -⟩ := List.append_eq_nil_iff.1 hnil.symm
      rw [joinEnded_cons, joinEnded_nil, List.append_nil, List.append_nil,
        endedLines_of_not_mem hs, if_neg hempty]
    · rw [endedLines_append_cons hpart] at h
      obtain ⟨rfl, hrest⟩ := List.cons.inj h
      rw [joinEnded_cons, stripCr_append_endOf, List.append_assoc, List.singleton_append,
        endedLines_append_cons hpart, ih hrest]

/-- Only the last line may have no end. -/
theorem end_of_mem_endedLines {e : Ended} (h : endedLines s = front ++ e :: back) :
    e.2 = ['\n'] ∨ e.2 = ['\r', '\n'] ∧ '\r' ∈ s ∨ e.2 = [] ∧ back = [] := by
  induction front generalizing s with
  | nil =>
    rcases exists_first_line s with hs | ⟨part, rest, hpart, rfl⟩
    · rw [endedLines_of_not_mem hs] at h
      split_ifs at h
      · cases h
      obtain ⟨rfl, rfl⟩ := List.cons.inj h
      exact Or.inr (Or.inr ⟨rfl, rfl⟩)
    · rw [endedLines_append_cons hpart] at h
      obtain ⟨rfl, -⟩ := List.cons.inj h
      unfold endOf stripSuffix
      split_ifs with hsuffix
      · have hmem := (List.isSuffixOf_iff_suffix.1 hsuffix).mem (List.mem_cons_self (a := '\r'))
        exact Or.inr (Or.inl ⟨rfl, List.mem_append_left _ hmem⟩)
      all_goals simp_all
  | cons e' front ih =>
    rcases exists_first_line s with hs | ⟨part, rest, hpart, rfl⟩
    · rw [endedLines_of_not_mem hs] at h
      split_ifs at h
      · cases h
      · simp at h
    · rw [endedLines_append_cons hpart] at h
      obtain ⟨-, hrest⟩ := List.cons.inj h
      exact (ih hrest).imp_right (Or.imp_left (And.imp_right fun hmem =>
        List.mem_append_right _ (List.mem_cons_of_mem _ hmem)))

/-! ## Offsets that take each line end for one byte -/

/-- The offset behind lines, when each end is one byte and the text ends at `total`. -/
def assumedOffset (front : List Text) (total : ℕ) : ℕ :=
  min ((front.map fun line => byteLen line + 1).sum) total

/-- The line ends of two bytes. -/
def crLfs (front : List Ended) : ℕ :=
  front.countP fun e => e.2 = ['\r', '\n']

/-- The lines with their ends, and a line feed for an end that is missing. -/
def joinClosed (front : List Ended) : Text :=
  front.flatMap fun e => e.1 ++ if e.2 = [] then ['\n'] else e.2

/-- The last bytes of the lines, one for each end of two bytes, are whole characters. -/
def Lands (front : List Ended) : Prop :=
  ∃ suf, suf <:+ joinClosed front ∧ byteLen suf = crLfs front

theorem end_cases (h : endedLines s = front ++ back) :
    ∀ e ∈ front, e.2 = ['\n'] ∨ e.2 = ['\r', '\n'] ∨ e.2 = [] := by
  intro e he
  obtain ⟨x, y, rfl⟩ := List.append_of_mem he
  rw [List.append_assoc, List.cons_append] at h
  exact (end_of_mem_endedLines h).imp_right (Or.imp And.left And.left)

/-- The lines of a text are closed, or they are all of it and only a line feed is missing. -/
theorem joinClosed_of_endedLines (h : endedLines s = front ++ back) :
    joinClosed front = joinEnded front ∨ back = [] ∧ joinClosed front = s ++ ['\n'] := by
  have hclosed {l : List Ended} (hl : ∀ e ∈ l, e.2 ≠ []) : joinClosed l = joinEnded l := by
    refine List.flatMap_congr fun e he => ?_
    rw [if_neg (hl e he)]
  by_cases hall : ∀ e ∈ front, e.2 ≠ []
  · exact Or.inl (hclosed hall)
  · simp only [not_forall, not_not] at hall
    obtain ⟨e, he, hend⟩ := hall
    obtain ⟨x, y, rfl⟩ := List.append_of_mem he
    have hsplit := h
    rw [List.append_assoc, List.cons_append] at hsplit
    -- Nothing stands behind a line without an end.
    have hlast : y ++ back = [] := by
      rcases end_of_mem_endedLines hsplit with hlf | ⟨hcrlf, -⟩ | ⟨-, hlast⟩
      · simp [hlf] at hend
      · simp [hcrlf] at hend
      · exact hlast
    have hx : ∀ e' ∈ x, e'.2 ≠ [] := by
      intro e' he' hnil
      obtain ⟨x', y', rfl⟩ := List.append_of_mem he'
      rw [List.append_assoc, List.cons_append] at hsplit
      rcases end_of_mem_endedLines hsplit with hlf | ⟨hcrlf, -⟩ | ⟨-, hlast⟩
      · simp [hlf] at hnil
      · simp [hcrlf] at hnil
      · simp at hlast
    obtain ⟨rfl, rfl⟩ := List.append_eq_nil_iff.1 hlast
    refine Or.inr ⟨rfl, ?_⟩
    have hs := joinEnded_endedLines s
    rw [h, List.append_nil, joinEnded_append, joinEnded_cons, joinEnded_nil, hend] at hs
    rw [← hs, ← hclosed hx]
    simp [joinClosed, hend]

/-- What is assumed for the length of lines, and what is missing. -/
theorem sum_byteLen_add_crLfs (h : endedLines s = front ++ back) :
    ((front.map Prod.fst).map fun line => byteLen line + 1).sum + crLfs front =
      byteLen (joinClosed front) := by
  have hends := end_cases h
  clear h
  induction front with
  | nil => rfl
  | cons e front ih =>
    have hrest := ih fun e' he' => hends e' (List.mem_cons_of_mem _ he')
    have hone : byteLen e.1 + 1 + (if e.2 = ['\r', '\n'] then 1 else 0) =
        byteLen (e.1 ++ if e.2 = [] then ['\n'] else e.2) := by
      rw [byteLen_append, Nat.add_assoc]
      rcases hends e List.mem_cons_self with hend | hend | hend <;> rw [hend] <;> rfl
    have hjoin : joinClosed (e :: front) =
        (e.1 ++ if e.2 = [] then ['\n'] else e.2) ++ joinClosed front := rfl
    rw [hjoin, byteLen_append, ← hrest, ← hone, crLfs, List.countP_cons, ← crLfs,
      List.map_cons, List.map_cons, List.sum_cons]
    simp only [decide_eq_true_eq]
    omega

theorem isSome_splitAtByte_assumedOffset (h : endedLines s = front ++ back) :
    (splitAtByte (assumedOffset (front.map Prod.fst) (byteLen s)) s).isSome = true ↔
      Lands front := by
  have hsum := sum_byteLen_add_crLfs h
  have hs := joinEnded_endedLines s
  rw [h, joinEnded_append] at hs
  unfold assumedOffset
  generalize ((front.map Prod.fst).map fun line => byteLen line + 1).sum = n at hsum ⊢
  rcases joinClosed_of_endedLines h with hclosed | ⟨rfl, hclosed⟩
  · have hlen : byteLen (joinClosed front) ≤ byteLen s := by
      rw [← hs, byteLen_append, hclosed]
      omega
    rw [Nat.min_eq_left (by omega), ← hs, ← hclosed, isSome_splitAtByte_append (by omega)]
    refine exists_congr fun suf => and_congr_right fun _ => ?_
    omega
  · have hlen : byteLen (joinClosed front) = byteLen s + 1 := by
      rw [hclosed, byteLen_append]
      rfl
    rcases Nat.eq_zero_or_pos (crLfs front) with hzero | hpos
    · refine iff_of_true ?_ ⟨[], List.nil_suffix, hzero.symm⟩
      rw [Nat.min_eq_right (by omega), isSome_splitAtByte]
      exact ⟨s, [], (List.append_nil s).symm, rfl⟩
    · have happend := isSome_splitAtByte_append (show n ≤ byteLen s by omega) []
      rw [List.append_nil] at happend
      rw [Nat.min_eq_left (by omega), happend, Lands, hclosed]
      constructor
      · rintro ⟨suf, ⟨x, rfl⟩, hsuf⟩
        refine ⟨suf ++ ['\n'], ⟨x, (List.append_assoc _ _ _).symm⟩, ?_⟩
        have hone : byteLen ['\n'] = 1 := rfl
        rw [byteLen_append, hone]
        omega
      · rintro ⟨suf, hsuffix, hsuf⟩
        rcases List.suffix_concat_iff.1 hsuffix with rfl | ⟨t, rfl, ht⟩
        · rw [← hsuf] at hpos
          exact absurd hpos (Nat.lt_irrefl 0)
        · have hone : byteLen ['\n'] = 1 := rfl
          rw [byteLen_append, hone] at hsuf
          exact ⟨t, ht, by omega⟩

/-- Without carriage returns no byte is missing. -/
theorem splitAtByte_assumedOffset (hcr : '\r' ∉ s) (h : endedLines s = front ++ back) :
    splitAtByte (assumedOffset (front.map Prod.fst) (byteLen s)) s =
      some (joinEnded front, joinEnded back) := by
  have hsum := sum_byteLen_add_crLfs h
  have hs := joinEnded_endedLines s
  rw [h, joinEnded_append] at hs
  have hzero : crLfs front = 0 := by
    rw [crLfs, List.countP_eq_zero]
    intro e he hend
    obtain ⟨x, y, rfl⟩ := List.append_of_mem he
    rw [List.append_assoc, List.cons_append] at h
    have hend := of_decide_eq_true hend
    rcases end_of_mem_endedLines h with hlf | ⟨-, hmem⟩ | ⟨hnil, -⟩
    · simp [hlf] at hend
    · exact hcr hmem
    · simp [hnil] at hend
  unfold assumedOffset
  rw [splitAtByte_eq_some_iff]
  refine ⟨hs.symm, ?_⟩
  rcases joinClosed_of_endedLines h with hclosed | ⟨rfl, hclosed⟩
  · rw [← hs, byteLen_append, ← hclosed]
    omega
  · rw [joinEnded_nil, List.append_nil] at hs
    rw [hclosed, byteLen_append] at hsum
    rw [hs]
    omega

end Text
