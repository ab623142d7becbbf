import Mathlib.Data.List.Induction
import Zynk.Detect.RegionSpec

/-!
# Where the regions are cut

The functions of the regions find lines by their numbers and slice the text at offsets that take
each line end for one byte. Here is where they find the lines that `Selects` tells of
(`rposition_of_isLast` and its siblings), and what a slice at such an offset is (`Meets`) : it
panics exactly when the cut does not land between two characters, and without carriage returns it
is made of whole lines.
-/

namespace Zynk.Detect

open Text

/-- What a region comes to, by where it is cut and what is selected. -/
structure Meets (content : Text) (cuts : List (List Ended)) (text : Text)
    (result : Option Text) : Prop where
  isSome_iff : result.isSome = true ↔ ∀ front ∈ cuts, Lands front
  eq_some : '\r' ∉ content → result = some text

theorem meets_some (content text : Text) : Meets content [] text (some text) :=
  ⟨by simp, fun _ => rfl⟩

/-! ## Slices -/

section

variable {content : Text} {front back : List Ended}

theorem lineStartOffset_eq (h : endedLines content = front ++ back) :
    lineStartOffset content (lines content) front.length =
      assumedOffset (front.map Prod.fst) (byteLen content) := by
  have hlines : lines content = front.map Prod.fst ++ back.map Prod.fst := by
    rw [← map_endedLines, h, List.map_append]
  have htake : (lines content).take (min front.length (lines content).length) =
      front.map Prod.fst := by
    rw [hlines, Nat.min_eq_left (by simp)]
    exact List.take_left' (List.length_map _)
  rw [lineStartOffset, assumedOffset, htake]

theorem min_assumedOffset (l : List Text) (total : ℕ) :
    min (assumedOffset l total) total = assumedOffset l total :=
  Nat.min_eq_left (Nat.min_le_right _ _)

theorem meets_sliceFrom (h : endedLines content = front ++ back) :
    Meets content [front] (joinEnded back)
      (sliceFrom content (assumedOffset (front.map Prod.fst) (byteLen content))) where
  isSome_iff := by
    rw [sliceFrom, Option.isSome_map, isSome_splitAtByte_assumedOffset h]
    simp
  eq_some hcr := by rw [sliceFrom, splitAtByte_assumedOffset hcr h, Option.map_some]

theorem meets_sliceTo (h : endedLines content = front ++ back) :
    Meets content [front] (joinEnded front)
      (sliceTo content (assumedOffset (front.map Prod.fst) (byteLen content))) where
  isSome_iff := by
    rw [sliceTo, Option.isSome_map, isSome_splitAtByte_assumedOffset h]
    simp
  eq_some hcr := by rw [sliceTo, splitAtByte_assumedOffset hcr h, Option.map_some]

theorem meets_sliceFromLineIndex (h : endedLines content = front ++ back) :
    Meets content [front] (joinEnded back)
      (sliceFromLineIndex content (lines content) front.length) := by
  rw [sliceFromLineIndex, lineStartOffset_eq h, min_assumedOffset]
  exact meets_sliceFrom h

theorem assumedOffset_mono (front middle : List Text) (total : ℕ) :
    assumedOffset front total ≤ assumedOffset (front ++ middle) total := by
  rw [assumedOffset, assumedOffset, List.map_append, List.sum_append]
  omega

/-- Two cuts, the first one in front of the second. -/
theorem meets_sliceBetween {middle : List Ended}
    (h : endedLines content = front ++ (middle ++ back)) :
    Meets content [front, front ++ middle] (joinEnded middle)
      (sliceBetween content (assumedOffset (front.map Prod.fst) (byteLen content))
        (assumedOffset ((front ++ middle).map Prod.fst) (byteLen content))) := by
  have h' : endedLines content = (front ++ middle) ++ back := by rw [h, List.append_assoc]
  have hle := assumedOffset_mono (front.map Prod.fst) (middle.map Prod.fst) (byteLen content)
  rw [← List.map_append] at hle
  have hstart := isSome_splitAtByte_assumedOffset h
  have hstop := isSome_splitAtByte_assumedOffset h'
  constructor
  · rw [sliceBetween, sliceTo]
    rcases hsplit : splitAtByte (assumedOffset ((front ++ middle).map Prod.fst) (byteLen content))
      content with _ | ⟨head, tail⟩
    · rw [hsplit] at hstop
      simp [← hstop]
    · obtain ⟨hcontent, hlen⟩ := splitAtByte_eq_some_iff.1 hsplit
      rw [hsplit] at hstop
      rw [← hlen] at hle
      -- Inside the head the first cut is where it is in the text.
      have hhead := isSome_splitAtByte_append hle tail
      have hself := isSome_splitAtByte_append hle []
      rw [List.append_nil] at hself
      rw [← hcontent, ← hself, hstart] at hhead
      simp only [Option.map_some, Option.bind_eq_bind, Option.bind_some, sliceFrom,
        Option.isSome_map, ← hhead, List.mem_cons, List.not_mem_nil, or_false, forall_eq_or_imp,
        forall_eq]
      exact (and_iff_left (hstop.1 rfl)).symm
  · intro hcr
    have hhead : splitAtByte (assumedOffset (front.map Prod.fst) (byteLen content))
        (joinEnded (front ++ middle)) = some (joinEnded front, joinEnded middle) := by
      have hsplit := splitAtByte_eq_some_iff.1 (splitAtByte_assumedOffset hcr h)
      rw [splitAtByte_eq_some_iff, joinEnded_append]
      exact ⟨rfl, hsplit.2⟩
    rw [sliceBetween, sliceTo, splitAtByte_assumedOffset hcr h']
    simp only [Option.map_some, Option.bind_eq_bind, Option.bind_some, sliceFrom, hhead]

end

/-! ## Where the lines are found -/

section

variable {p : Text → Bool}

theorem rposition_eq_none {l : List Ended} (h : ∀ e ∈ l, ¬ p e.1 = true) :
    rposition p (l.map Prod.fst) = none := by
  induction l with
  | nil => rfl
  | cons e l ih =>
    rw [List.map_cons, rposition, ih fun e' he' => h e' (List.mem_cons_of_mem _ he')]
    exact if_neg (h e List.mem_cons_self)

theorem rposition_of_isLast {raw front back : List Ended} {e : Ended}
    (h : IsLast (fun e => p e.1 = true) raw front e back) :
    rposition p (raw.map Prod.fst) = some front.length := by
  obtain ⟨rfl, hholds, hlast⟩ := h
  induction front with
  | nil =>
    rw [List.nil_append, List.map_cons, rposition, rposition_eq_none hlast]
    exact if_pos hholds
  | cons e' front ih =>
    rw [List.cons_append, List.map_cons, rposition, ih]
    rfl

end

variable {raw : List Ended} {e : Ended}

theorem currentCodexPromptIndex_eq {front back : List Ended}
    (h : IsLast IsPrompt raw front e back) :
    currentCodexPromptIndex (raw.map Prod.fst) =
      if back.any fun e => codexBlockMarkerLine e.1 then none else some front.length := by
  have hdrop : (raw.map Prod.fst).drop (front.length + 1) = back.map Prod.fst := by
    rw [h.eq, ← List.map_drop, List.append_cons]
    congr 1
    exact List.drop_left' (by simp)
  rw [currentCodexPromptIndex, rposition_of_isLast h]
  simp only [hdrop, List.any_map]
  rfl

theorem currentCodexPromptIndex_of_current {front back : List Ended}
    (h : IsCurrentPrompt raw front e back) :
    currentCodexPromptIndex (raw.map Prod.fst) = some front.length := by
  rw [currentCodexPromptIndex_eq h.toIsLast, if_neg]
  rw [List.any_eq_true]
  rintro ⟨e', he', hmarker⟩
  exact h.noMarker e' he' hmarker

theorem currentCodexPromptIndex_of_none (h : ¬ HasCurrentPrompt raw) :
    currentCodexPromptIndex (raw.map Prod.fst) = none := by
  rcases exists_isLast IsPrompt raw with hnone | ⟨front, e, back, hlast⟩
  · rw [currentCodexPromptIndex, rposition_eq_none hnone]
  · rw [currentCodexPromptIndex_eq hlast, if_pos]
    by_contra hany
    refine h ⟨front, e, back, hlast, fun e' he' hmarker => hany ?_⟩
    exact List.any_eq_true.2 ⟨e', he', hmarker⟩

/-- Of the lines that are kept, in order, the one where the count is reached. -/
theorem getLast?_take_append {α : Type} {before after : List α} {x : α} {count : ℕ}
    (h : before.length + 1 = count ∨ before.length + 1 < count ∧ after = []) :
    ((before ++ x :: after).take count).getLast? = some x := by
  rw [List.append_cons]
  rcases h with heq | ⟨hlt, rfl⟩
  · rw [List.take_left' (by simpa using heq), List.getLast?_concat]
  · rw [List.append_nil, List.take_of_length_le (by simpa using hlt.le), List.getLast?_concat]

/-- The lines that are not blank, with their numbers. -/
def numbered (l : List Ended) (n : ℕ) : List (Text × ℕ) :=
  ((l.map Prod.fst).zipIdx n).filter fun e => !isBlank e.1

theorem numbered_append (l l' : List Ended) (n : ℕ) :
    numbered (l ++ l') n = numbered l n ++ numbered l' (n + l.length) := by
  rw [numbered, List.map_append, List.zipIdx_append, List.filter_append, List.length_map]
  rfl

theorem numbered_cons (he : ¬ IsBlank e) (l : List Ended) (n : ℕ) :
    numbered (e :: l) n = (e.1, n) :: numbered l (n + 1) := by
  rw [numbered, List.map_cons, List.zipIdx_cons, List.filter_cons_of_pos]
  · rfl
  · simpa [IsBlank] using he

theorem length_numbered (l : List Ended) (n : ℕ) : (numbered l n).length = nonBlanks l := by
  induction l generalizing n with
  | nil => rfl
  | cons e l ih =>
    rw [nonBlanks_cons]
    by_cases he : isBlank e.1 = true
    · have hskip : numbered (e :: l) n = numbered l (n + 1) := by
        rw [numbered, List.map_cons, List.zipIdx_cons, List.filter_cons_of_neg (by simp [he])]
        rfl
      rw [hskip, ih, he]
      rfl
    · rw [numbered_cons he, List.length_cons, ih]
      simp [he]

/-! ## Horizontal rules -/

theorem scanBorders_append {l : List Ended} (h : ∀ e ∈ l, ¬ IsRule e) (n count : ℕ)
    (rest : List (Text × ℕ)) :
    scanBorders count (((l.map Prod.fst).zipIdx n).reverse ++ rest) = scanBorders count rest := by
  induction l using List.reverseRecOn with
  | nil => rfl
  | append_singleton l e ih =>
    rw [List.map_append, List.zipIdx_append, List.reverse_append, List.map_singleton,
      List.zipIdx_singleton, List.reverse_singleton, List.singleton_append, List.cons_append,
      scanBorders, if_neg (show ¬ isHorizontalRule e.1 = true from h e (by simp)),
      ih fun e' he' => h e' (List.mem_append_left _ he')]

theorem zipIdx_map_append_cons (front : List Ended) (e : Ended) (back : List Ended) (n : ℕ) :
    (((front ++ e :: back).map Prod.fst).zipIdx n).reverse =
      ((back.map Prod.fst).zipIdx (n + front.length + 1)).reverse ++
        (e.1, n + front.length) :: ((front.map Prod.fst).zipIdx n).reverse := by
  rw [List.map_append, List.zipIdx_append, List.map_cons, List.zipIdx_cons, List.reverse_append,
    List.reverse_cons, List.append_assoc, List.singleton_append, List.length_map]

theorem scanBorders_of_isLast {front back : List Ended} (h : IsLast IsRule raw front e back)
    (count : ℕ) : scanBorders count (raw.map Prod.fst).zipIdx.reverse =
      if count + 1 = 2 then some front.length
      else scanBorders (count + 1) (front.map Prod.fst).zipIdx.reverse := by
  have hrule : isHorizontalRule e.1 = true := h.holds
  rw [h.eq, zipIdx_map_append_cons, scanBorders_append h.last, scanBorders, if_pos hrule,
    Nat.zero_add]

theorem scanBorders_of_none (h : ∀ e ∈ raw, ¬ IsRule e) (count : ℕ) :
    scanBorders count (raw.map Prod.fst).zipIdx.reverse = none := by
  have := scanBorders_append h 0 count []
  rwa [List.append_nil] at this

theorem promptBoxTopBorderIndex_of_box {above body below : List Ended} {top bottom : Ended}
    (h : IsPromptBox raw above top body bottom below) :
    promptBoxTopBorderIndex (raw.map Prod.fst) = some above.length := by
  rw [promptBoxTopBorderIndex, scanBorders_of_isLast h.box, if_neg (by decide),
    scanBorders_of_isLast h.inner, if_pos rfl]

theorem promptBoxTopBorderIndex_of_none (h : ¬ HasPromptBox raw) :
    promptBoxTopBorderIndex (raw.map Prod.fst) = none := by
  rw [promptBoxTopBorderIndex]
  rcases exists_isLast IsRule raw with hnone | ⟨front, e, back, hlast⟩
  · exact scanBorders_of_none hnone 0
  · rw [scanBorders_of_isLast hlast, if_neg (by decide)]
    rcases exists_isLast IsRule front with hnone | ⟨above, top, body, hinner⟩
    · exact scanBorders_of_none hnone 1
    · have heq := hinner.eq
      subst heq
      exact absurd ⟨above, top, body, e, back, hlast, hinner⟩ h

theorem foldl_advanceRule_of_none {l : List Ended} (h : ∀ e ∈ l, ¬ IsRule e) (total stop n : ℕ) :
    (l.map Prod.fst).foldl (advanceRule total) (stop, n) =
      (stop, n + ((l.map Prod.fst).map fun line => byteLen line + 1).sum) := by
  induction l generalizing n with
  | nil => rfl
  | cons e l ih =>
    have hrule : ¬ isHorizontalRule e.1 = true := h e List.mem_cons_self
    have hstep : advanceRule total (stop, n) e.1 = (stop, n + byteLen e.1 + 1) := by
      rw [advanceRule, if_neg hrule]
    rw [List.map_cons, List.foldl_cons, hstep, ih fun e' he' => h e' (List.mem_cons_of_mem _ he'),
      List.map_cons, List.sum_cons]
    refine congrArg _ ?_
    omega

theorem snd_foldl_advanceRule (l : List Text) (total : ℕ) (acc : ℕ × ℕ) :
    (l.foldl (advanceRule total) acc).2 =
      acc.2 + (l.map fun line => byteLen line + 1).sum := by
  induction l generalizing acc with
  | nil => rfl
  | cons line l ih =>
    rw [List.foldl_cons, ih, List.map_cons, List.sum_cons, advanceRule]
    omega

theorem foldl_advanceRule_of_isLast {front back : List Ended} (h : IsLast IsRule raw front e back)
    (total : ℕ) : ((raw.map Prod.fst).foldl (advanceRule total) (0, 0)).1 =
      assumedOffset ((front ++ [e]).map Prod.fst) total := by
  have hoffset := snd_foldl_advanceRule (front.map Prod.fst) total (0, 0)
  rw [h.eq, List.map_append, List.foldl_append, List.map_cons, List.foldl_cons]
  generalize (front.map Prod.fst).foldl (advanceRule total) (0, 0) = acc at hoffset ⊢
  have hrule : isHorizontalRule e.1 = true := h.holds
  have hstep : advanceRule total acc e.1 =
      (min (acc.2 + byteLen e.1 + 1) total, acc.2 + byteLen e.1 + 1) := by
    rw [advanceRule, if_pos hrule]
  rw [hstep, foldl_advanceRule_of_none h.last, hoffset, assumedOffset]
  simp only [List.map_append, List.map_singleton, List.sum_append, List.sum_singleton]
  congr 1
  omega

end Zynk.Detect
