import Mathlib.Tactic.IntervalCases
import Zynk.Terminal.HistoryRead

/-!
# Stitching windows

A document is scrolled up window by window, and `merge_scrolled_up` puts what came in above in
front of the history. Rows with a text are told apart, so it finds by how many rows the window has
moved. What it puts in front goes down to the first row with a text in the window before, so that
blank rows above that row are in the history twice (`merge_window`). A chain of windows is stitched
without loss or repetition exactly if every window but the last begins with a row that is not blank
(`stitched_iff`).
-/

namespace Zynk.Terminal

open Text

/-! ## Windows -/

/-- The rows with a text have different texts. -/
def Distinct (document : List ScreenTextRow) : Prop :=
  ∀ (i j : ℕ) (text : Text), (rowIdentities document)[i]? = some text →
    (rowIdentities document)[j]? = some text → text ≠ [] → i = j

/-- The rows from `top` to `bottom`. -/
def slice (document : List ScreenTextRow) (top bottom : ℕ) : List ScreenTextRow :=
  (document.drop top).take (bottom - top)

def window (document : List ScreenTextRow) (cols height top : ℕ) : ScreenSnapshot where
  cols
  rows := slice document top (top + height)

def Blank (document : List ScreenTextRow) (i : ℕ) : Prop :=
  (rowIdentities document)[i]? = some []

/-- The window at `top` has been scrolled up to `next`, and both show a row that is not blank. -/
structure ScrolledUp (document : List ScreenTextRow) (height top next : ℕ) : Prop where
  up : next < top
  overlap : top < next + height
  inside : top + height ≤ document.length
  shared : ∃ i, top ≤ i ∧ i < next + height ∧ ¬ Blank document i

/-- Each window is merged as the rows that came in with it, and the history is what has been seen
from there to `bottom`. -/
def Stitched (document : List ScreenTextRow) (cols height bottom : ℕ) :
    ℕ → List ScreenTextRow → List ℕ → Prop
  | _, _, [] => True
  | top, history, next :: tops =>
    let merged := mergeScrolledUp history (window document cols height top)
      (window document cols height next)
    merged = (.advanced (top - next), slice document next bottom) ∧
      Stitched document cols height bottom next merged.2 tops

/-! ## Alignment -/

/-- Two screens of one height, of which the second has moved up by `shift` rows. -/
structure Aligned (previous next : List Text) (shift : ℕ) : Prop where
  pos : 0 < shift
  lt : shift < previous.length
  length : next.length = previous.length
  moved : ∀ i, i + shift < previous.length → next[i + shift]? = previous[i]?
  distinct : ∀ i j text, previous[i]? = some text → next[j]? = some text → text ≠ [] →
    j = i + shift
  shared : ∃ i text, i + shift < previous.length ∧ previous[i]? = some text ∧ text ≠ []

/-- A fold in which only one element matters. -/
theorem foldl_of_only {α β : Type} {f : β → α → β} {l : List α} {a : α} (hnodup : l.Nodup)
    (hmem : a ∈ l) (hother : ∀ b, ∀ x ∈ l, x ≠ a → f b x = b) (b : β) : l.foldl f b = f b a := by
  have hkeep : ∀ l' : List α, (∀ x ∈ l', x ∈ l ∧ x ≠ a) → ∀ b, l'.foldl f b = b := by
    intro l' h
    induction l' with
    | nil => exact fun b ↦ rfl
    | cons x l' ih =>
      intro b
      obtain ⟨hx, hne⟩ := h x List.mem_cons_self
      rw [List.foldl_cons, hother b x hx hne]
      exact ih (fun y hy ↦ h y (List.mem_cons_of_mem x hy)) b
  obtain ⟨s, t, rfl⟩ := List.append_of_mem hmem
  rw [List.nodup_append, List.nodup_cons] at hnodup
  obtain ⟨-, ⟨hat, -⟩, hdisjoint⟩ := hnodup
  rw [List.foldl_append, List.foldl_cons, hkeep s fun x hx ↦ ⟨List.mem_append_left _ hx, ?_⟩,
    hkeep t fun x hx ↦ ⟨List.mem_append_right _ (List.mem_cons_of_mem a hx), ?_⟩]
  · exact fun heq ↦ hat (heq ▸ hx)
  · exact hdisjoint x hx a List.mem_cons_self

namespace Aligned

variable {previous next : List Text} {shift : ℕ}

/-- The pairs of rows that are compared. -/
theorem exists_of_mem_zip {a b : Text} {d : ℕ} (h : (a, b) ∈ previous.zip (next.drop d)) :
    ∃ i, previous[i]? = some a ∧ next[i + d]? = some b := by
  obtain ⟨i, hi⟩ := List.mem_iff_getElem?.1 h
  rw [List.getElem?_zip_eq_some, List.getElem?_drop, Nat.add_comm d i] at hi
  exact ⟨i, hi⟩

/-- No row is found at another shift. -/
theorem overlapAt_of_ne (h : Aligned previous next shift) {d : ℕ} (hne : d ≠ shift) :
    (overlapAt previous next d).1 = 0 := by
  simp only [overlapAt, List.countP_eq_zero, List.mem_filter]
  rintro ⟨a, b⟩ ⟨hmem, hboth⟩ heq
  obtain ⟨i, ha, hb⟩ := exists_of_mem_zip hmem
  have hsame : a = b := beq_iff_eq.1 heq
  rw [← hsame] at hb
  have hne' : a ≠ [] ∧ b ≠ [] := by simpa using hboth
  have hj := h.distinct i (i + d) a ha hb hne'.1
  omega

/-- Every row is found at the shift. -/
theorem overlapAt_shift (h : Aligned previous next shift) :
    (overlapAt previous next shift).1 = (overlapAt previous next shift).2 ∧
      0 < (overlapAt previous next shift).2 := by
  simp only [overlapAt]
  constructor
  · rw [List.countP_eq_length]
    rintro ⟨a, b⟩ hmem
    obtain ⟨i, ha, hb⟩ := exists_of_mem_zip (List.mem_filter.1 hmem).1
    have hlt : i + shift < previous.length := by
      obtain ⟨hlt, -⟩ := List.getElem?_eq_some_iff.1 hb
      rwa [h.length] at hlt
    rw [h.moved i hlt, ha] at hb
    simpa using hb
  · obtain ⟨i, text, hlt, htext, hne⟩ := h.shared
    refine List.length_pos_iff_exists_mem.2 ⟨(text, text), ?_⟩
    rw [List.mem_filter]
    refine ⟨List.mem_iff_getElem?.2 ⟨i, ?_⟩, by simpa using hne⟩
    rw [List.getElem?_zip_eq_some, List.getElem?_drop, Nat.add_comm shift i]
    exact ⟨htext, (h.moved i hlt).trans htext⟩

theorem bestUpwardShift_eq (h : Aligned previous next shift) :
    bestUpwardShift previous next = some shift := by
  have hmem : shift ∈ List.range' 1 (previous.length - 1) := by
    rw [List.mem_range'_1]
    have hpos := h.pos
    have hlt := h.lt
    omega
  obtain ⟨hall, hsome⟩ := h.overlapAt_shift
  rw [bestUpwardShift]
  dsimp only
  rw [foldl_of_only List.nodup_range' hmem]
  · have hkept : ¬ ((overlapAt previous next shift).2 = 0 ∨
        (overlapAt previous next shift).1 * 100 <
          (overlapAt previous next shift).2 * minAlignmentRatioPercent) := by
      rw [hall, minAlignmentRatioPercent]
      omega
    rw [if_neg (by simpa using hkept)]
    rfl
  · intro best d _ hne
    refine if_pos ?_
    rw [h.overlapAt_of_ne hne]
    simp [minAlignmentRatioPercent]
    omega

/-- The first row with a text, which both screens show. -/
theorem exists_first (h : Aligned previous next shift) :
    ∃ i text, i + shift < previous.length ∧ previous[i]? = some text ∧ text ≠ [] ∧
      ∀ j < i, previous[j]? = some [] := by
  classical
  have hsome : ∃ i, ∃ text, i + shift < previous.length ∧ previous[i]? = some text ∧ text ≠ [] :=
    h.shared
  obtain ⟨text, hlt, htext, hne⟩ := Nat.find_spec hsome
  refine ⟨Nat.find hsome, text, hlt, htext, hne, fun j hj ↦ ?_⟩
  have hmin := Nat.find_min hsome hj
  by_contra hnot
  have hj' : j < previous.length := by omega
  refine hmin ⟨previous[j], by omega, List.getElem?_eq_getElem hj', fun hnil ↦ hnot ?_⟩
  rw [List.getElem?_eq_getElem hj', hnil]

theorem ne (h : Aligned previous next shift) : previous ≠ next := by
  rintro rfl
  obtain ⟨i, text, -, htext, hne⟩ := h.shared
  have hi := h.distinct i i text htext htext hne
  have hpos := h.pos
  omega

/-- Of the rows above the overlap none is dropped. -/
theorem addedRows_eq (h : Aligned previous next shift) (rows : List ScreenTextRow) (boundary : ℕ) :
    addedRows previous next rows boundary = rows.take boundary := by
  rw [addedRows, List.filter_eq_self.2 ?_, List.zipIdx_map_fst]
  rintro ⟨row, i⟩ -
  rcases hnext : next[i]? with _ | text
  · simp [List.getD, hnext]
  · rcases text with _ | ⟨c, text⟩
    · simp [List.getD, hnext]
    · rw [Bool.or_eq_true]
      refine .inr ?_
      rw [bne_iff_ne]
      intro hsame
      have hi := h.distinct i i _ (hsame.trans hnext) hnext (List.cons_ne_nil c text)
      have hpos := h.pos
      omega

theorem find_shared (h : Aligned previous next shift) {i : ℕ} {text : Text}
    (hlt : i + shift < previous.length) (htext : previous[i]? = some text) (hne : text ≠ [])
    (hblank : ∀ j < i, previous[j]? = some []) :
    ((List.range (previous.length - shift)).find? fun index ↦
      !(previous.getD index []).isEmpty && previous[index]? == next[index + shift]?) = some i := by
  rw [List.find?_range_eq_some]
  refine ⟨?_, List.mem_range.2 (by omega), fun j hj ↦ ?_⟩
  · rw [h.moved i hlt]
    simpa [List.getD, htext] using hne
  · simp [List.getD, hblank j hj]

/-- What is put in front goes down to the first row with a text in the screen before. -/
theorem mergeScrolledUp_eq (history : List ScreenTextRow) {before after : ScreenSnapshot}
    (h : Aligned (rowIdentities before.rows) (rowIdentities after.rows) shift)
    (hcols : before.cols = after.cols) :
    ∃ i text, i + shift < before.rows.length ∧ (rowIdentities before.rows)[i]? = some text ∧
      text ≠ [] ∧ (∀ j < i, (rowIdentities before.rows)[j]? = some []) ∧
      mergeScrolledUp history before after =
        (.advanced (i + shift), after.rows.take (i + shift) ++ history) := by
  obtain ⟨i, text, hlt, htext, hne, hblank⟩ := h.exists_first
  have hbefore : (rowIdentities before.rows).length = before.rows.length := List.length_map _
  have hafter : (rowIdentities after.rows).length = after.rows.length := List.length_map _
  have hlength := h.length
  rw [hbefore] at hlt hlength
  rw [hafter] at hlength
  refine ⟨i, text, hlt, htext, hne, hblank, ?_⟩
  have htake : (after.rows.take (i + shift)).length = i + shift := by
    rw [List.length_take]
    omega
  have hpos := h.pos
  have hsize : ¬ (decide (before.cols ≠ after.cols) ||
      decide (before.rows.length ≠ after.rows.length)) = true := by
    simp [hcols, hlength]
  rw [mergeScrolledUp, if_neg hsize]
  dsimp only
  rw [if_neg (by simpa using h.ne), h.bestUpwardShift_eq]
  dsimp only
  rw [h.find_shared (by rwa [hbefore]) htext hne hblank]
  dsimp only
  rw [h.addedRows_eq, if_neg ?_, htake]
  rw [List.isEmpty_iff, ← List.length_eq_zero_iff, htake]
  omega

end Aligned

/-! ## Chains -/

theorem rowIdentities_slice (document : List ScreenTextRow) (top bottom : ℕ) :
    rowIdentities (slice document top bottom) =
      ((rowIdentities document).drop top).take (bottom - top) := by
  rw [rowIdentities, slice, List.map_take, List.map_drop]
  rfl

theorem getElem_window (document : List ScreenTextRow) (cols height top i : ℕ) :
    (rowIdentities (window document cols height top).rows)[i]? =
      if i < height then (rowIdentities document)[top + i]? else none := by
  rw [window, rowIdentities_slice, Nat.add_sub_cancel_left, List.getElem?_take,
    List.getElem?_drop]

variable {top : ℕ}

theorem length_window {document : List ScreenTextRow} {height : ℕ} (cols : ℕ)
    (h : top + height ≤ document.length) :
    (rowIdentities (window document cols height top).rows).length = height := by
  rw [rowIdentities, List.length_map, window, slice, List.length_take, List.length_drop]
  omega

theorem ScrolledUp.aligned {document : List ScreenTextRow} {height next : ℕ} (cols : ℕ)
    (hdistinct : Distinct document) (h : ScrolledUp document height top next) :
    Aligned (rowIdentities (window document cols height top).rows)
      (rowIdentities (window document cols height next).rows) (top - next) := by
  have hup := h.up
  have hoverlap := h.overlap
  have hinside := h.inside
  have hlength := length_window cols hinside
  have hlength' := length_window cols (by omega : next + height ≤ document.length)
  refine ⟨by omega, by omega, hlength'.trans hlength.symm, ?_, ?_, ?_⟩
  · intro i hi
    rw [hlength] at hi
    rw [getElem_window, getElem_window, if_pos hi, if_pos (by omega)]
    congr 1
    omega
  · intro i j text hi hj hne
    rw [getElem_window, Option.ite_none_right_eq_some] at hi hj
    have hsame := hdistinct (top + i) (next + j) text hi.2 hj.2 hne
    omega
  · obtain ⟨i, htop, hnext, hblank⟩ := h.shared
    have hlt : i < (rowIdentities document).length := by
      rw [rowIdentities, List.length_map]
      omega
    refine ⟨i - top, (rowIdentities document)[i], by omega, ?_, fun hnil ↦ hblank ?_⟩
    · rw [getElem_window, if_pos (by omega), Nat.add_sub_cancel' htop, List.getElem?_eq_getElem hlt]
    · rw [Blank, List.getElem?_eq_getElem hlt, hnil]

theorem slice_append (document : List ScreenTextRow) {middle bottom : ℕ} (h : top ≤ middle)
    (h' : middle ≤ bottom) :
    slice document top middle ++ slice document middle bottom = slice document top bottom := by
  have hdrop : document.drop middle = (document.drop top).drop (middle - top) := by
    rw [List.drop_drop, Nat.add_sub_cancel' h]
  have hsum : bottom - top = (middle - top) + (bottom - middle) := by omega
  rw [slice, slice, slice, hdrop, hsum, List.take_add]

/-- One merge is right exactly if the window before begins with a row that is not blank. -/
theorem merge_window {document : List ScreenTextRow} {height next bottom : ℕ} (cols : ℕ)
    (hdistinct : Distinct document) (h : ScrolledUp document height top next)
    (hbottom : top ≤ bottom) :
    mergeScrolledUp (slice document top bottom) (window document cols height top)
        (window document cols height next) = (.advanced (top - next), slice document next bottom) ↔
      ¬ Blank document top := by
  have hup := h.up
  have hoverlap := h.overlap
  obtain ⟨i, text, hlt, htext, hne, hblank, hmerge⟩ :=
    (h.aligned cols hdistinct).mergeScrolledUp_eq (slice document top bottom) rfl
  have htop (j : ℕ) (hj : j < height) :
      (rowIdentities (window document cols height top).rows)[j]? =
        (rowIdentities document)[top + j]? := by
    rw [getElem_window, if_pos hj]
  rw [hmerge]
  rcases Nat.eq_zero_or_pos i with rfl | hpos
  · have hrows : (window document cols height next).rows.take (0 + (top - next)) =
        slice document next top := by
      rw [Nat.zero_add, window, slice, slice, List.take_take]
      congr 1
      omega
    rw [hrows, slice_append document (Nat.le_of_lt hup) hbottom, Nat.zero_add]
    refine iff_of_true rfl fun hblank' ↦ hne ?_
    rw [htop 0 (by omega), Nat.add_zero, hblank', Option.some_inj] at htext
    exact htext.symm
  · refine iff_of_false (fun heq ↦ ?_) (not_not.2 ?_)
    · have hrows := UpwardMerge.advanced.inj (Prod.ext_iff.1 heq).1
      omega
    · rw [Blank, ← Nat.add_zero top, ← htop 0 (by omega)]
      exact hblank 0 hpos

/-- The chain of windows at `first` and at `tops`. -/
theorem stitched_iff {document : List ScreenTextRow} {cols height first : ℕ} {tops : List ℕ}
    (hdistinct : Distinct document)
    (hchain : (first :: tops).IsChain (ScrolledUp document height)) :
    Stitched document cols height (first + height) first
        (window document cols height first).rows tops ↔
      ∀ top ∈ (first :: tops).dropLast, ¬ Blank document top := by
  have hrun : ∀ bottom top tops, top ≤ bottom →
      (top :: tops).IsChain (ScrolledUp document height) →
      (Stitched document cols height bottom top (slice document top bottom) tops ↔
        ∀ t ∈ (top :: tops).dropLast, ¬ Blank document t) := by
    intro bottom top tops
    induction tops generalizing top with
    | nil => exact fun _ _ ↦ iff_of_true trivial nofun
    | cons next tops ih =>
      intro hbottom hchain
      rw [List.isChain_cons_cons] at hchain
      have hmerge := merge_window cols hdistinct hchain.1 hbottom
      have hle : next ≤ bottom := Nat.le_trans (Nat.le_of_lt hchain.1.up) hbottom
      rw [List.dropLast_cons_cons, List.forall_mem_cons, ← ih next hle hchain.2, ← hmerge, Stitched]
      refine and_congr_right fun heq ↦ ?_
      rw [heq]
  exact hrun (first + height) first tops (Nat.le_add_right first height) hchain

/-! ### A blank row at the top of a window -/

/-- The rows `a`, blank, `b` and `c`. -/
def blankSecond : List ScreenTextRow :=
  ['a', ' ', 'b', 'c'].map fun c ↦ ⟨[⟨.narrow, [c.toNat]⟩], false⟩

theorem blankSecond_distinct : Distinct blankSecond := by
  have hrows : rowIdentities blankSecond = [['a'], [], ['b'], ['c']] := by decide
  intro i j text hi hj hne
  rw [hrows] at hi hj
  obtain ⟨hi', rfl⟩ := List.getElem?_eq_some_iff.1 hi
  obtain ⟨hj', -⟩ := List.getElem?_eq_some_iff.1 hj
  rw [List.length_cons, List.length_cons, List.length_cons, List.length_singleton] at hi' hj'
  interval_cases i <;> interval_cases j <;> simp_all

theorem blankSecond_scrolledUp : ScrolledUp blankSecond 3 1 0 := by
  refine ⟨by decide, by decide, by decide, 2, by decide, by decide, ?_⟩
  unfold Blank
  decide

theorem stitched_iff_blankSecond :
    Stitched blankSecond 1 3 (1 + 3) 1 (window blankSecond 1 3 1).rows [0] ↔
      ∀ top ∈ [1, 0].dropLast, ¬ Blank blankSecond top :=
  stitched_iff blankSecond_distinct (.cons_cons blankSecond_scrolledUp (.singleton 0))

/-- The window `blank, b, c` is scrolled up to `a, blank, b` : the blank row is counted and put in
front a second time. -/
theorem not_stitched_blankSecond :
    Distinct blankSecond ∧ [1, 0].IsChain (ScrolledUp blankSecond 3) ∧
      ¬ Stitched blankSecond 1 3 (1 + 3) 1 (window blankSecond 1 3 1).rows [0] := by
  refine ⟨blankSecond_distinct, .cons_cons blankSecond_scrolledUp (.singleton 0), fun h ↦ ?_⟩
  have hmerge : mergeScrolledUp (window blankSecond 1 3 1).rows (window blankSecond 1 3 1)
      (window blankSecond 1 3 0) = (.advanced 2, blankSecond.take 2 ++ blankSecond.drop 1) := by
    decide
  have hone := (Prod.ext_iff.1 (hmerge.symm.trans h.1)).1
  cases UpwardMerge.advanced.inj hone

end Zynk.Terminal
