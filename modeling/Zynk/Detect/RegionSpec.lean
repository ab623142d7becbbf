import Zynk.Detect.Region

/-!
# What the regions are

`Selects` says of each region which lines of a text it is, in terms of lines with their ends :
`front`, `back` and the like are the lines before and behind the ones that a region looks for. It
also names the cuts, the lines in front of each place where the text is sliced. Every text has such
lines for every region (`exists_selects`).
-/

namespace Zynk.Detect

open Text

inductive RegionName where
  | wholeRecent
  | afterLastPromptMarker
  | beforeCurrentPromptMarker
  | wholeRecentWithoutCurrentPromptMarker
  | currentPromptBlockMarker
  | afterCurrentPromptBlockMarker
  | promptBoxBody
  | abovePromptBox
  | lastNonEmptyAbovePromptBox
  | afterLastHorizontalRule
  | oscTitle
  | oscProgress
  | bottomLines (count : ℕ)
  | bottomNonEmptyLines (count : ℕ)
  | bottomLogicalNonEmptyLines (count : ℕ)
  | topNonEmptyLines (count : ℕ)

/-- The names, without white space around them. -/
inductive Names : Text → RegionName → Prop
  | wholeRecent : Names "whole_recent".toList .wholeRecent
  | afterLastPromptMarker : Names "after_last_prompt_marker".toList .afterLastPromptMarker
  | beforeCurrentPromptMarker :
      Names "before_current_prompt_marker".toList .beforeCurrentPromptMarker
  | wholeRecentWithoutCurrentPromptMarker :
      Names "whole_recent_without_current_prompt_marker".toList
        .wholeRecentWithoutCurrentPromptMarker
  | currentPromptBlockMarker : Names "current_prompt_block_marker".toList .currentPromptBlockMarker
  | afterCurrentPromptBlockMarker :
      Names "after_current_prompt_block_marker".toList .afterCurrentPromptBlockMarker
  | promptBoxBody : Names "prompt_box_body".toList .promptBoxBody
  | abovePromptBox : Names "above_prompt_box".toList .abovePromptBox
  | lastNonEmptyAbovePromptBox :
      Names "last_non_empty_above_prompt_box".toList .lastNonEmptyAbovePromptBox
  | afterLastHorizontalRule : Names "after_last_horizontal_rule".toList .afterLastHorizontalRule
  | oscTitle : Names "osc_title".toList .oscTitle
  | oscProgress : Names "osc_progress".toList .oscProgress
  | bottomLines {spec count} (h : regionCount spec "bottom_lines" = some count) :
      Names spec (.bottomLines count)
  | bottomNonEmptyLines {spec count} (h : regionCount spec "bottom_non_empty_lines" = some count) :
      Names spec (.bottomNonEmptyLines count)
  | bottomLogicalNonEmptyLines {spec count}
      (h : strictRegionCount spec bottomLogicalNonEmptyLinesName = some count) :
      Names spec (.bottomLogicalNonEmptyLines count)
  | topNonEmptyLines {spec count}
      (h : strictRegionCount spec topNonEmptyLinesName = some count) :
      Names spec (.topNonEmptyLines count)

/-- The text that a region is cut from. -/
def RegionName.source (input : DetectionInput) : RegionName → Text
  | .oscTitle => input.oscTitle
  | .oscProgress => input.oscProgress
  | .bottomLogicalNonEmptyLines _ => input.unwrappedTail.getD input.screen
  | _ => input.screen

/-! ## Lines -/

def IsPrompt (e : Ended) : Prop :=
  codexPromptLine e.1 = true

def IsMarker (e : Ended) : Prop :=
  codexBlockMarkerLine e.1 = true

def IsRule (e : Ended) : Prop :=
  isHorizontalRule e.1 = true

def IsBlank (e : Ended) : Prop :=
  isBlank e.1 = true

/-- The lines that are not blank. -/
def nonBlanks (l : List Ended) : ℕ :=
  l.countP fun e => !isBlank e.1

/-- The last line of a kind, between the lines before and behind it. -/
structure IsLast (p : Ended → Prop) (raw front : List Ended) (e : Ended) (back : List Ended) :
    Prop where
  eq : raw = front ++ e :: back
  holds : p e
  last : ∀ e' ∈ back, ¬ p e'

/-- The current prompt line : the last prompt line, and no block marker line behind it. -/
structure IsCurrentPrompt (raw front : List Ended) (e : Ended) (back : List Ended) : Prop
    extends IsLast IsPrompt raw front e back where
  noMarker : ∀ e' ∈ back, ¬ IsMarker e'

def HasCurrentPrompt (raw : List Ended) : Prop :=
  ∃ front e back, IsCurrentPrompt raw front e back

/-- The last two horizontal rules. -/
structure IsPromptBox (raw above : List Ended) (top : Ended) (body : List Ended) (bottom : Ended)
    (below : List Ended) : Prop where
  box : IsLast IsRule raw (above ++ top :: body) bottom below
  inner : IsLast IsRule (above ++ top :: body) above top body

def HasPromptBox (raw : List Ended) : Prop :=
  ∃ above top body bottom below, IsPromptBox raw above top body bottom below

/-- The lines above the prompt box, and where they are cut. -/
inductive Above (raw : List Ended) : List (List Ended) → List Ended → Prop
  | box {above top body bottom below} (h : IsPromptBox raw above top body bottom below) :
      Above raw [above] above
  | none (h : ¬ HasPromptBox raw) : Above raw [] raw

/-! ## Regions -/

/-- The lines of a region, by where the text is cut and what comes out. -/
inductive Selects (raw : List Ended) : RegionName → List (List Ended) → Text → Prop
  | wholeRecent : Selects raw .wholeRecent [] (joinEnded raw)
  | oscTitle : Selects raw .oscTitle [] (joinEnded raw)
  | oscProgress : Selects raw .oscProgress [] (joinEnded raw)
  | bottomLines {count front back} (h : raw = front ++ back)
      (hback : back.length = min count raw.length) :
      Selects raw (.bottomLines count) [front] (joinEnded back)
  | bottomNonEmpty {count front e back} (h : raw = front ++ e :: back) (he : ¬ IsBlank e)
      (hcount : nonBlanks (e :: back) = count ∨
        nonBlanks (e :: back) < count ∧ nonBlanks front = 0) :
      Selects raw (.bottomNonEmptyLines count) [front] (joinEnded (e :: back))
  | bottomNone {count} (h : count = 0 ∨ nonBlanks raw = 0) :
      Selects raw (.bottomNonEmptyLines count) [] []
  | bottomLogical {count cuts text} (h : Selects raw (.bottomNonEmptyLines count) cuts text) :
      Selects raw (.bottomLogicalNonEmptyLines count) cuts text
  | topNonEmpty {count front e back} (h : raw = front ++ e :: back) (he : ¬ IsBlank e)
      (hcount : nonBlanks (front ++ [e]) = count ∨
        nonBlanks (front ++ [e]) < count ∧ nonBlanks back = 0) :
      Selects raw (.topNonEmptyLines count) [front ++ [e]] (joinEnded (front ++ [e]))
  | topNone {count} (h : count = 0 ∨ nonBlanks raw = 0) :
      Selects raw (.topNonEmptyLines count) [] []
  | afterPrompt {front e back} (h : IsLast IsPrompt raw front e back) :
      Selects raw .afterLastPromptMarker [front ++ [e]] (joinEnded back)
  | afterNoPrompt (h : ∀ e ∈ raw, ¬ IsPrompt e) :
      Selects raw .afterLastPromptMarker [] (joinEnded raw)
  | beforePrompt {front e back} (h : IsCurrentPrompt raw front e back) :
      Selects raw .beforeCurrentPromptMarker [front] (joinEnded front)
  | beforeNoPrompt (h : ¬ HasCurrentPrompt raw) :
      Selects raw .beforeCurrentPromptMarker [] (joinEnded raw)
  | withPrompt (h : HasCurrentPrompt raw) :
      Selects raw .wholeRecentWithoutCurrentPromptMarker [] []
  | withoutPrompt (h : ¬ HasCurrentPrompt raw) :
      Selects raw .wholeRecentWithoutCurrentPromptMarker [] (joinEnded raw)
  | blockMarker {front e back before marker between} (h : IsCurrentPrompt raw front e back)
      (hmarker : IsLast IsMarker front before marker between) :
      Selects raw .currentPromptBlockMarker [] marker.1
  | noBlockMarker
      (h : ∀ front e back, IsCurrentPrompt raw front e back → ∀ e' ∈ front, ¬ IsMarker e') :
      Selects raw .currentPromptBlockMarker [] []
  | afterBlockMarker {front e back before marker between} (h : IsCurrentPrompt raw front e back)
      (hmarker : IsLast IsMarker front before marker between) :
      Selects raw .afterCurrentPromptBlockMarker [before]
        (joinEnded (marker :: between ++ e :: back))
  | afterNoBlockMarker
      (h : ∀ front e back, IsCurrentPrompt raw front e back → ∀ e' ∈ front, ¬ IsMarker e') :
      Selects raw .afterCurrentPromptBlockMarker [] []
  | promptBox {above top body bottom below} (h : IsPromptBox raw above top body bottom below) :
      Selects raw .promptBoxBody [above ++ [top], above ++ top :: body] (joinEnded body)
  | noPromptBox (h : ¬ HasPromptBox raw) : Selects raw .promptBoxBody [] []
  | abovePromptBox {cuts above} (h : Above raw cuts above) :
      Selects raw .abovePromptBox cuts (joinEnded above)
  | lastNonEmpty {cuts above front e back} (h : Above raw cuts above)
      (hlast : IsLast (fun e => ¬ IsBlank e) above front e back) :
      Selects raw .lastNonEmptyAbovePromptBox cuts e.1
  | allBlank {cuts above} (h : Above raw cuts above) (hblank : ∀ e ∈ above, IsBlank e) :
      Selects raw .lastNonEmptyAbovePromptBox cuts []
  | afterRule {front e back} (h : IsLast IsRule raw front e back) :
      Selects raw .afterLastHorizontalRule [front ++ [e]] (joinEnded back)
  | afterNoRule (h : ∀ e ∈ raw, ¬ IsRule e) :
      Selects raw .afterLastHorizontalRule [] (joinEnded raw)

/-! ## Every text has the lines of a region -/

theorem exists_isLast (p : Ended → Prop) (raw : List Ended) :
    (∀ e ∈ raw, ¬ p e) ∨ ∃ front e back, IsLast p raw front e back := by
  classical
  induction raw with
  | nil => exact Or.inl fun e he => absurd he List.not_mem_nil
  | cons e raw ih =>
    rcases ih with hnone | ⟨front, e', back, h⟩
    · by_cases he : p e
      · exact Or.inr ⟨[], e, raw, rfl, he, hnone⟩
      · refine Or.inl fun e' he' => ?_
        rcases List.mem_cons.1 he' with rfl | he'
        · exact he
        · exact hnone e' he'
    · exact Or.inr ⟨e :: front, e', back, by rw [h.eq, List.cons_append], h.holds, h.last⟩

theorem nonBlanks_append (l l' : List Ended) :
    nonBlanks (l ++ l') = nonBlanks l + nonBlanks l' :=
  List.countP_append

theorem nonBlanks_cons (e : Ended) (l : List Ended) :
    nonBlanks (e :: l) = nonBlanks l + if isBlank e.1 then 0 else 1 := by
  rw [nonBlanks, List.countP_cons, ← nonBlanks]
  cases isBlank e.1 <;> rfl

theorem nonBlanks_reverse (l : List Ended) : nonBlanks l.reverse = nonBlanks l :=
  List.countP_reverse

theorem exists_bottomNonEmpty {count : ℕ} (hcount : count ≠ 0) {raw : List Ended}
    (h : nonBlanks raw ≠ 0) :
    ∃ front e back, raw = front ++ e :: back ∧ ¬ IsBlank e ∧
      (nonBlanks (e :: back) = count ∨
        nonBlanks (e :: back) < count ∧ nonBlanks front = 0) := by
  induction raw with
  | nil => exact absurd rfl h
  | cons e raw ih =>
    have hcons := nonBlanks_cons e raw
    by_cases hraw : nonBlanks raw = 0
    · rw [hraw] at hcons
      have he : isBlank e.1 = false := by
        by_contra hblank
        rw [Bool.not_eq_false] at hblank
        rw [hblank] at hcons
        exact h hcons
      rw [he] at hcons
      refine ⟨[], e, raw, rfl, by simp [IsBlank, he], ?_⟩
      rcases Nat.eq_or_lt_of_le (Nat.one_le_iff_ne_zero.2 hcount) with hone | hone
      · exact Or.inl (hcons.trans hone)
      · exact Or.inr ⟨hcons.trans_lt hone, rfl⟩
    · obtain ⟨front, e', back, rfl, he', hcases⟩ := ih hraw
      have hsplit := nonBlanks_append front (e' :: back)
      rcases hcases with heq | ⟨hlt, hfront⟩
      · exact ⟨e :: front, e', back, rfl, he', Or.inl heq⟩
      · by_cases he : IsBlank e
        · refine ⟨e :: front, e', back, rfl, he', Or.inr ⟨hlt, ?_⟩⟩
          rw [nonBlanks_cons, hfront, show isBlank e.1 = true from he]
          rfl
        · -- One more line, and none above it.
          refine ⟨[], e, front ++ e' :: back, rfl, he, ?_⟩
          rw [IsBlank, Bool.not_eq_true] at he
          rw [he] at hcons
          simp only [Bool.false_eq_true, if_false] at hcons
          rcases Nat.eq_or_lt_of_le (show nonBlanks (e :: (front ++ e' :: back)) ≤ count by omega)
            with heq | hlt
          · exact Or.inl heq
          · exact Or.inr ⟨hlt, rfl⟩

theorem exists_topNonEmpty {count : ℕ} (hcount : count ≠ 0) {raw : List Ended}
    (h : nonBlanks raw ≠ 0) :
    ∃ front e back, raw = front ++ e :: back ∧ ¬ IsBlank e ∧
      (nonBlanks (front ++ [e]) = count ∨
        nonBlanks (front ++ [e]) < count ∧ nonBlanks back = 0) := by
  obtain ⟨front, e, back, heq, he, hcases⟩ :=
    @exists_bottomNonEmpty count hcount raw.reverse (by rwa [nonBlanks_reverse])
  refine ⟨back.reverse, e, front.reverse, ?_, he, ?_⟩
  · rw [← List.reverse_inj, heq]
    simp
  · have hrev : back.reverse ++ [e] = (e :: back).reverse := List.reverse_cons.symm
    rw [hrev, nonBlanks_reverse, nonBlanks_reverse]
    exact hcases

theorem exists_above (raw : List Ended) : ∃ cuts above, Above raw cuts above := by
  by_cases h : HasPromptBox raw
  · obtain ⟨above, top, body, bottom, below, hbox⟩ := h
    exact ⟨_, _, .box hbox⟩
  · exact ⟨_, _, .none h⟩

/-- The block marker line that belongs to the current prompt line, if there is one. -/
theorem exists_marker (raw : List Ended) :
    (∀ front e back, IsCurrentPrompt raw front e back → ∀ e' ∈ front, ¬ IsMarker e') ∨
      ∃ front e back before marker between, IsCurrentPrompt raw front e back ∧
        IsLast IsMarker front before marker between := by
  by_cases h : ∀ front e back, IsCurrentPrompt raw front e back → ∀ e' ∈ front, ¬ IsMarker e'
  · exact Or.inl h
  · simp only [not_forall] at h
    obtain ⟨front, e, back, hcurrent, e', he', hmarker⟩ := h
    rcases exists_isLast IsMarker front with hnone | ⟨before, marker, between, hlast⟩
    · exact absurd (hnone e' he') hmarker
    · exact Or.inr ⟨front, e, back, before, marker, between, hcurrent, hlast⟩

theorem exists_selects (raw : List Ended) (name : RegionName) :
    ∃ cuts text, Selects raw name cuts text := by
  have hbottom (count : ℕ) : ∃ cuts text, Selects raw (.bottomNonEmptyLines count) cuts text := by
    by_cases h : count = 0 ∨ nonBlanks raw = 0
    · exact ⟨_, _, .bottomNone h⟩
    · rw [not_or] at h
      obtain ⟨front, e, back, heq, he, hcount⟩ := exists_bottomNonEmpty h.1 h.2
      exact ⟨_, _, .bottomNonEmpty heq he hcount⟩
  cases name with
  | wholeRecent => exact ⟨_, _, .wholeRecent⟩
  | oscTitle => exact ⟨_, _, .oscTitle⟩
  | oscProgress => exact ⟨_, _, .oscProgress⟩
  | bottomLines count =>
    refine ⟨_, _, .bottomLines (List.take_append_drop (raw.length - count) raw).symm ?_⟩
    rw [List.length_drop]
    omega
  | bottomNonEmptyLines count => exact hbottom count
  | bottomLogicalNonEmptyLines count =>
    obtain ⟨cuts, text, h⟩ := hbottom count
    exact ⟨cuts, text, .bottomLogical h⟩
  | topNonEmptyLines count =>
    by_cases h : count = 0 ∨ nonBlanks raw = 0
    · exact ⟨_, _, .topNone h⟩
    · rw [not_or] at h
      obtain ⟨front, e, back, heq, he, hcount⟩ := exists_topNonEmpty h.1 h.2
      exact ⟨_, _, .topNonEmpty heq he hcount⟩
  | afterLastPromptMarker =>
    rcases exists_isLast IsPrompt raw with hnone | ⟨front, e, back, h⟩
    · exact ⟨_, _, .afterNoPrompt hnone⟩
    · exact ⟨_, _, .afterPrompt h⟩
  | beforeCurrentPromptMarker =>
    by_cases h : HasCurrentPrompt raw
    · obtain ⟨front, e, back, hcurrent⟩ := h
      exact ⟨_, _, .beforePrompt hcurrent⟩
    · exact ⟨_, _, .beforeNoPrompt h⟩
  | wholeRecentWithoutCurrentPromptMarker =>
    by_cases h : HasCurrentPrompt raw
    · exact ⟨_, _, .withPrompt h⟩
    · exact ⟨_, _, .withoutPrompt h⟩
  | currentPromptBlockMarker =>
    rcases exists_marker raw with hnone | ⟨_, _, _, _, _, _, hcurrent, hmarker⟩
    · exact ⟨_, _, .noBlockMarker hnone⟩
    · exact ⟨_, _, .blockMarker hcurrent hmarker⟩
  | afterCurrentPromptBlockMarker =>
    rcases exists_marker raw with hnone | ⟨_, _, _, _, _, _, hcurrent, hmarker⟩
    · exact ⟨_, _, .afterNoBlockMarker hnone⟩
    · exact ⟨_, _, .afterBlockMarker hcurrent hmarker⟩
  | promptBoxBody =>
    by_cases h : HasPromptBox raw
    · obtain ⟨above, top, body, bottom, below, hbox⟩ := h
      exact ⟨_, _, .promptBox hbox⟩
    · exact ⟨_, _, .noPromptBox h⟩
  | abovePromptBox =>
    obtain ⟨cuts, above, h⟩ := exists_above raw
    exact ⟨_, _, .abovePromptBox h⟩
  | lastNonEmptyAbovePromptBox =>
    obtain ⟨cuts, above, h⟩ := exists_above raw
    rcases exists_isLast (fun e => ¬ IsBlank e) above with hnone | ⟨front, e, back, hlast⟩
    · exact ⟨_, _, .allBlank h fun e he => not_not.1 (hnone e he)⟩
    · exact ⟨_, _, .lastNonEmpty h hlast⟩
  | afterLastHorizontalRule =>
    rcases exists_isLast IsRule raw with hnone | ⟨front, e, back, h⟩
    · exact ⟨_, _, .afterNoRule hnone⟩
    · exact ⟨_, _, .afterRule h⟩

end Zynk.Detect
