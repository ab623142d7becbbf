import Zynk.Detect.RegionCuts

/-!
# The regions are their lines

What each function computes is compared with the lines that it is to select (`meets_of_selects`).
So without carriage returns a region that is accepted is the lines that its name selects
(`region_selects`), and with them it panics exactly when a cut does not land between two
characters (`region_isSome_iff`).
-/

namespace Zynk.Detect

open Text

/-! ## Each region -/

theorem nonBlanks_cons_of_not {e : Ended} (he : ¬ IsBlank e) (l : List Ended) :
    nonBlanks (e :: l) = nonBlanks l + 1 := by
  rw [nonBlanks_cons, if_neg (show ¬ isBlank e.1 = true from he)]

section

variable {content : Text} {raw : List Ended}

variable {cuts : List (List Ended)} {text : Text}

theorem meets_bottomNonEmptyLines (hraw : endedLines content = raw) {count : ℕ}
    (h : Selects raw (.bottomNonEmptyLines count) cuts text) :
    Meets content cuts text (bottomNonEmptyLines content count) := by
  have hlines := map_endedLines content
  rw [hraw] at hlines
  rw [bottomNonEmptyLines, ← hlines, List.filter_reverse]
  cases h with
  | @bottomNonEmpty _ front e back heq he hcount =>
    have hsplit : (numbered raw 0).reverse =
        (numbered back (front.length + 1)).reverse ++ (e.1, front.length) ::
          (numbered front 0).reverse := by
      rw [heq, numbered_append, numbered_cons he]
      simp
    have hlast : (((numbered raw 0).reverse).take count).getLast? = some (e.1, front.length) := by
      rw [hsplit]
      refine getLast?_take_append ?_
      rw [nonBlanks_cons_of_not he] at hcount
      rw [List.length_reverse, length_numbered]
      refine hcount.imp_right (And.imp_right fun hfront => ?_)
      rw [List.reverse_eq_nil_iff, ← List.length_eq_zero_iff, length_numbered, hfront]
    rw [numbered] at hlast
    rw [hlast, hlines]
    exact meets_sliceFromLineIndex (hraw.trans heq)
  | bottomNone hnone =>
    have hlast : (((numbered raw 0).reverse).take count).getLast? = none := by
      rcases hnone with rfl | hnone
      · rfl
      · rw [← length_numbered raw 0, List.length_eq_zero_iff] at hnone
        rw [hnone]
        simp
    rw [numbered] at hlast
    rw [hlast]
    exact meets_some content []

theorem meets_topNonEmptyLines (hraw : endedLines content = raw) {count : ℕ}
    (h : Selects raw (.topNonEmptyLines count) cuts text) :
    Meets content cuts text (topNonEmptyLines content count) := by
  have hlines := map_endedLines content
  rw [hraw] at hlines
  rw [topNonEmptyLines, ← hlines]
  cases h with
  | @topNonEmpty _ front e back heq he hcount =>
    have hsplit : numbered raw 0 =
        numbered front 0 ++ (e.1, front.length) :: numbered back (front.length + 1) := by
      rw [heq, numbered_append, numbered_cons he]
      simp
    have hlast : ((numbered raw 0).take count).getLast? = some (e.1, front.length) := by
      rw [hsplit]
      refine getLast?_take_append ?_
      rw [nonBlanks_append, nonBlanks_cons_of_not he] at hcount
      rw [length_numbered]
      refine hcount.imp_right (And.imp_right fun hback => ?_)
      rw [← List.length_eq_zero_iff, length_numbered, hback]
    rw [numbered] at hlast
    have heq' : endedLines content = (front ++ [e]) ++ back := by
      rw [hraw, heq, List.append_cons]
    have hoffset := lineStartOffset_eq heq'
    rw [List.length_append, List.length_singleton] at hoffset
    rw [hlast, hlines]
    dsimp only
    rw [hoffset]
    exact meets_sliceTo heq'
  | topNone hnone =>
    have hlast : ((numbered raw 0).take count).getLast? = none := by
      rcases hnone with rfl | hnone
      · rfl
      · rw [← length_numbered raw 0, List.length_eq_zero_iff] at hnone
        rw [hnone]
        simp
    rw [numbered] at hlast
    rw [hlast]
    exact meets_some content []

theorem meets_abovePromptBox (hraw : endedLines content = raw) {above : List Ended}
    (h : Above raw cuts above) : Meets content cuts (joinEnded above) (abovePromptBox content) := by
  have hlines := map_endedLines content
  rw [hraw] at hlines
  rw [abovePromptBox, ← hlines]
  cases h with
  | @box _ top body bottom below hbox =>
    have heq : endedLines content = above ++ (top :: body ++ bottom :: below) := by
      rw [hraw, hbox.box.eq, List.append_assoc]
    rw [promptBoxTopBorderIndex_of_box hbox, hlines]
    dsimp only
    rw [lineStartOffset_eq heq, min_assumedOffset]
    exact meets_sliceTo heq
  | none hnone =>
    rw [promptBoxTopBorderIndex_of_none hnone, ← hraw, joinEnded_endedLines]
    exact meets_some content content

/-- Above the prompt box are the first lines of the text. -/
theorem Above.endedLines_eq (hraw : endedLines content = raw) {above : List Ended}
    (h : Above raw cuts above) : endedLines (joinEnded above) = above := by
  cases h with
  | @box _ top body bottom below hbox =>
    have heq : endedLines content = above ++ (top :: body ++ bottom :: below) := by
      rw [hraw, hbox.box.eq, List.append_assoc]
    exact endedLines_joinEnded heq
  | none hnone =>
    rw [← hraw, joinEnded_endedLines]

theorem meets_promptBoxBody (hraw : endedLines content = raw)
    (h : Selects raw .promptBoxBody cuts text) :
    Meets content cuts text ((promptBoxBody content).getD (some [])) := by
  have hlines := map_endedLines content
  rw [hraw] at hlines
  rw [promptBoxBody]
  cases h with
  | @promptBox above top body bottom below hbox =>
    have htop := promptBoxTopBorderIndex_of_box hbox
    rw [hlines] at htop
    have heq : endedLines content = (above ++ [top]) ++ (body ++ bottom :: below) := by
      rw [hraw, hbox.box.eq]
      simp
    have heq' : endedLines content = (above ++ [top] ++ body) ++ bottom :: below := by
      rw [heq, ← List.append_assoc]
    have hfind : ((lines content).drop (above.length + 1)).findIdx? isHorizontalRule =
        some body.length := by
      have hdrop : (lines content).drop (above.length + 1) =
          body.map Prod.fst ++ bottom.1 :: below.map Prod.fst := by
        rw [← map_endedLines, heq, ← List.map_drop, List.drop_left' (by simp)]
        simp
      have hnone : (body.map Prod.fst).findIdx? isHorizontalRule = none := by
        rw [List.findIdx?_eq_none_iff]
        intro line hline
        obtain ⟨e, he, rfl⟩ := List.mem_map.1 hline
        exact Bool.not_eq_true _ ▸ hbox.inner.last e he
      have hrule : isHorizontalRule bottom.1 = true := hbox.box.holds
      rw [hdrop, List.findIdx?_append, hnone, List.findIdx?_cons, if_pos hrule]
      simp
    have hstart := lineStartOffset_eq heq
    have hstop := lineStartOffset_eq heq'
    rw [List.length_append, List.length_singleton] at hstart
    rw [List.length_append, List.length_append, List.length_singleton] at hstop
    rw [htop]
    simp only [Option.bind_eq_bind, Option.bind_some, Option.pure_def, Option.getD_some, hfind,
      Option.map_some, hstart, hstop, min_assumedOffset]
    have hcut : above ++ top :: body = above ++ [top] ++ body := List.append_cons _ _ _
    rw [hcut]
    exact meets_sliceBetween heq
  | noPromptBox hnone =>
    have htop := promptBoxTopBorderIndex_of_none hnone
    rw [hlines] at htop
    rw [htop]
    exact meets_some content []

theorem meets_afterLastHorizontalRule (hraw : endedLines content = raw)
    (h : Selects raw .afterLastHorizontalRule cuts text) :
    Meets content cuts text (afterLastHorizontalRule content) := by
  have hlines := map_endedLines content
  rw [hraw] at hlines
  rw [afterLastHorizontalRule, ← hlines]
  cases h with
  | @afterRule front e back hlast =>
    rw [foldl_advanceRule_of_isLast hlast]
    refine meets_sliceFrom ?_
    rw [hraw, hlast.eq, List.append_cons]
  | afterNoRule hnone =>
    rw [foldl_advanceRule_of_none hnone, ← hraw, joinEnded_endedLines, sliceFrom, splitAtByte]
    exact meets_some content content

theorem meets_afterLastPromptMarker (hraw : endedLines content = raw)
    (h : Selects raw .afterLastPromptMarker cuts text) :
    Meets content cuts text (afterLastPromptMarker content) := by
  have hlines := map_endedLines content
  rw [hraw] at hlines
  rw [afterLastPromptMarker, ← hlines]
  cases h with
  | @afterPrompt front e back hlast =>
    have heq : endedLines content = (front ++ [e]) ++ back := by
      rw [hraw, hlast.eq, List.append_cons]
    have hslice := meets_sliceFromLineIndex heq
    rw [List.length_append, List.length_singleton] at hslice
    rw [rposition_of_isLast hlast, hlines]
    exact hslice
  | afterNoPrompt hnone =>
    rw [rposition_eq_none hnone, ← hraw, joinEnded_endedLines]
    exact meets_some content content

theorem meets_beforeCurrentPromptMarker (hraw : endedLines content = raw)
    (h : Selects raw .beforeCurrentPromptMarker cuts text) :
    Meets content cuts text (beforeCurrentPromptMarker content) := by
  have hlines := map_endedLines content
  rw [hraw] at hlines
  rw [beforeCurrentPromptMarker, ← hlines]
  cases h with
  | @beforePrompt front e back hcurrent =>
    have htake : (raw.map Prod.fst).take front.length = front.map Prod.fst := by
      rw [hcurrent.eq, List.map_append]
      exact List.take_left' (List.length_map _)
    rw [currentCodexPromptIndex_of_current hcurrent]
    dsimp only
    rw [htake]
    exact meets_sliceTo (hraw.trans hcurrent.eq)
  | beforeNoPrompt hnone =>
    rw [currentCodexPromptIndex_of_none hnone, ← hraw, joinEnded_endedLines]
    exact meets_some content content

theorem meets_wholeRecentWithoutCurrentPromptMarker (hraw : endedLines content = raw)
    (h : Selects raw .wholeRecentWithoutCurrentPromptMarker cuts text) :
    Meets content cuts text (wholeRecentWithoutCurrentPromptMarker content) := by
  have hlines := map_endedLines content
  rw [hraw] at hlines
  rw [wholeRecentWithoutCurrentPromptMarker, ← hlines]
  cases h with
  | withPrompt hcurrent =>
    obtain ⟨front, e, back, hcurrent⟩ := hcurrent
    rw [currentCodexPromptIndex_of_current hcurrent]
    exact meets_some content []
  | withoutPrompt hnone =>
    rw [currentCodexPromptIndex_of_none hnone, ← hraw, joinEnded_endedLines]
    exact meets_some content content

/-- The lines in front of the current prompt line. -/
theorem take_lines_of_current (hraw : endedLines content = raw) {front back : List Ended}
    {e : Ended} (h : IsCurrentPrompt raw front e back) :
    (lines content).take front.length = front.map Prod.fst := by
  rw [← map_endedLines, hraw, h.eq, List.map_append]
  exact List.take_left' (List.length_map _)

theorem meets_currentPromptBlockMarker (hraw : endedLines content = raw)
    (h : Selects raw .currentPromptBlockMarker cuts text) :
    Meets content cuts text (some ((currentPromptBlockMarker content).getD [])) := by
  have hlines := map_endedLines content
  rw [hraw] at hlines
  rw [currentPromptBlockMarker]
  cases h with
  | @blockMarker front e back before marker between hcurrent hmarker =>
    have hindex := currentCodexPromptIndex_of_current hcurrent
    rw [hlines] at hindex
    have hfind : ((lines content).take front.length).reverse.find? codexBlockMarkerLine =
        some marker.1 := by
      have hrule : codexBlockMarkerLine marker.1 = true := hmarker.holds
      have hnone : (between.map Prod.fst).reverse.find? codexBlockMarkerLine = none := by
        rw [List.find?_eq_none]
        intro line hline
        obtain ⟨e', he', rfl⟩ := List.mem_map.1 (List.mem_reverse.1 hline)
        exact hmarker.last e' he'
      rw [take_lines_of_current hraw hcurrent, hmarker.eq, List.map_append, List.map_cons,
        List.reverse_append, List.reverse_cons, List.append_assoc, List.find?_append, hnone,
        List.singleton_append, List.find?_cons_of_pos hrule]
      rfl
    rw [hindex]
    dsimp only
    rw [hfind]
    exact meets_some content marker.1
  | noBlockMarker hnone =>
    by_cases hcurrent : HasCurrentPrompt raw
    · obtain ⟨front, e, back, hcurrent⟩ := hcurrent
      have hindex := currentCodexPromptIndex_of_current hcurrent
      have hfind : ((lines content).take front.length).reverse.find? codexBlockMarkerLine =
          none := by
        rw [take_lines_of_current hraw hcurrent, List.find?_eq_none]
        intro line hline
        obtain ⟨e', he', rfl⟩ := List.mem_map.1 (List.mem_reverse.1 hline)
        exact hnone front e back hcurrent e' he'
      rw [hlines] at hindex
      rw [hindex]
      dsimp only
      rw [hfind]
      exact meets_some content []
    · have hindex := currentCodexPromptIndex_of_none hcurrent
      rw [hlines] at hindex
      rw [hindex]
      exact meets_some content []

theorem meets_afterCurrentPromptBlockMarker (hraw : endedLines content = raw)
    (h : Selects raw .afterCurrentPromptBlockMarker cuts text) :
    Meets content cuts text ((afterCurrentPromptBlockMarker content).getD (some [])) := by
  have hlines := map_endedLines content
  rw [hraw] at hlines
  rw [afterCurrentPromptBlockMarker]
  cases h with
  | @afterBlockMarker front e back before marker between hcurrent hmarker =>
    have hindex := currentCodexPromptIndex_of_current hcurrent
    rw [hlines] at hindex
    have heq : endedLines content = before ++ (marker :: between ++ e :: back) := by
      rw [hraw, hcurrent.eq, hmarker.eq, List.append_assoc]
    rw [hindex]
    simp only [Option.bind_eq_bind, Option.bind_some, take_lines_of_current hraw hcurrent,
      rposition_of_isLast hmarker, Option.pure_def, Option.getD_some]
    exact meets_sliceFromLineIndex heq
  | afterNoBlockMarker hnone =>
    by_cases hcurrent : HasCurrentPrompt raw
    · obtain ⟨front, e, back, hcurrent⟩ := hcurrent
      have hindex := currentCodexPromptIndex_of_current hcurrent
      have hposition : rposition codexBlockMarkerLine (front.map Prod.fst) = none :=
        rposition_eq_none (hnone front e back hcurrent)
      rw [hlines] at hindex
      rw [hindex]
      simp only [Option.bind_eq_bind, Option.bind_some, take_lines_of_current hraw hcurrent,
        hposition, Option.bind_none, Option.getD_none]
      exact meets_some content []
    · have hindex := currentCodexPromptIndex_of_none hcurrent
      rw [hlines] at hindex
      rw [hindex]
      exact meets_some content []

theorem meets_bottomLines (hraw : endedLines content = raw) {count : ℕ}
    (h : Selects raw (.bottomLines count) cuts text) :
    Meets content cuts text (bottomLines content count) := by
  cases h with
  | @bottomLines _ front back heq hback =>
    have hlen : (lines content).length = front.length + back.length := by
      rw [← map_endedLines, hraw, List.length_map, heq, List.length_append]
    have hstart : (lines content).length - count = front.length := by
      rw [heq, List.length_append] at hback
      omega
    rw [bottomLines, hstart]
    exact meets_sliceFromLineIndex (hraw.trans heq)

theorem meets_lastNonEmptyAbovePromptBox (hraw : endedLines content = raw)
    (h : Selects raw .lastNonEmptyAbovePromptBox cuts text) :
    Meets content cuts text ((abovePromptBox content).map lastNonEmptyLine) := by
  have hfind {above : List Ended} (habove : Above raw cuts above) :
      lines (joinEnded above) = above.map Prod.fst := by
    rw [← map_endedLines, habove.endedLines_eq hraw]
  cases h with
  | @lastNonEmpty _ above front e back habove hlast =>
    have hmeets := meets_abovePromptBox hraw habove
    refine ⟨by rw [Option.isSome_map]; exact hmeets.isSome_iff, fun hcr => ?_⟩
    have he : (!isBlank e.1) = true := by
      simpa [IsBlank] using hlast.holds
    have hnone : (back.map Prod.fst).reverse.find? (fun line => !isBlank line) = none := by
      rw [List.find?_eq_none]
      intro line hline
      obtain ⟨e', he', rfl⟩ := List.mem_map.1 (List.mem_reverse.1 hline)
      simpa [IsBlank] using hlast.last e' he'
    rw [hmeets.eq_some hcr, Option.map_some, lastNonEmptyLine, hfind habove, hlast.eq,
      List.map_append, List.map_cons, List.reverse_append, List.reverse_cons, List.append_assoc,
      List.find?_append, hnone, List.singleton_append, List.find?_cons, he]
    rfl
  | @allBlank _ above habove hblank =>
    have hmeets := meets_abovePromptBox hraw habove
    refine ⟨by rw [Option.isSome_map]; exact hmeets.isSome_iff, fun hcr => ?_⟩
    have hnone : (above.map Prod.fst).reverse.find? (fun line => !isBlank line) = none := by
      rw [List.find?_eq_none]
      intro line hline
      obtain ⟨e', he', rfl⟩ := List.mem_map.1 (List.mem_reverse.1 hline)
      simpa [IsBlank] using hblank e' he'
    rw [hmeets.eq_some hcr, Option.map_some, lastNonEmptyLine, hfind habove, hnone]
    rfl

end

/-! ## Every name -/

/-- The function that a region is computed by. -/
def computeRegion (input : DetectionInput) : RegionName → Option Text
  | .wholeRecent => some input.screen
  | .afterLastPromptMarker => afterLastPromptMarker input.screen
  | .beforeCurrentPromptMarker => beforeCurrentPromptMarker input.screen
  | .wholeRecentWithoutCurrentPromptMarker => wholeRecentWithoutCurrentPromptMarker input.screen
  | .currentPromptBlockMarker => some ((currentPromptBlockMarker input.screen).getD [])
  | .afterCurrentPromptBlockMarker => (afterCurrentPromptBlockMarker input.screen).getD (some [])
  | .promptBoxBody => (promptBoxBody input.screen).getD (some [])
  | .abovePromptBox => abovePromptBox input.screen
  | .lastNonEmptyAbovePromptBox => (abovePromptBox input.screen).map lastNonEmptyLine
  | .afterLastHorizontalRule => afterLastHorizontalRule input.screen
  | .oscTitle => some input.oscTitle
  | .oscProgress => some input.oscProgress
  | .bottomLines count => bottomLines input.screen count
  | .bottomNonEmptyLines count => bottomNonEmptyLines input.screen count
  | .bottomLogicalNonEmptyLines count =>
    bottomNonEmptyLines (input.unwrappedTail.getD input.screen) count
  | .topNonEmptyLines count => topNonEmptyLines input.screen count

variable {cuts : List (List Ended)}

theorem meets_of_selects (input : DetectionInput) (name : RegionName) {text : Text}
    (h : Selects (endedLines (name.source input)) name cuts text) :
    Meets (name.source input) cuts text (computeRegion input name) := by
  cases name with
  | wholeRecent =>
    cases h
    rw [joinEnded_endedLines]
    exact meets_some _ _
  | oscTitle =>
    cases h
    rw [joinEnded_endedLines]
    exact meets_some _ _
  | oscProgress =>
    cases h
    rw [joinEnded_endedLines]
    exact meets_some _ _
  | afterLastPromptMarker => exact meets_afterLastPromptMarker rfl h
  | beforeCurrentPromptMarker => exact meets_beforeCurrentPromptMarker rfl h
  | wholeRecentWithoutCurrentPromptMarker =>
    exact meets_wholeRecentWithoutCurrentPromptMarker rfl h
  | currentPromptBlockMarker => exact meets_currentPromptBlockMarker rfl h
  | afterCurrentPromptBlockMarker => exact meets_afterCurrentPromptBlockMarker rfl h
  | promptBoxBody => exact meets_promptBoxBody rfl h
  | abovePromptBox =>
    cases h with
    | abovePromptBox habove => exact meets_abovePromptBox rfl habove
  | lastNonEmptyAbovePromptBox => exact meets_lastNonEmptyAbovePromptBox rfl h
  | afterLastHorizontalRule => exact meets_afterLastHorizontalRule rfl h
  | bottomLines count => exact meets_bottomLines rfl h
  | bottomNonEmptyLines count => exact meets_bottomNonEmptyLines rfl h
  | bottomLogicalNonEmptyLines count =>
    cases h with
    | bottomLogical hbottom => exact meets_bottomNonEmptyLines rfl hbottom
  | topNonEmptyLines count => exact meets_topNonEmptyLines rfl h

variable {spec : Text}

/-- A region with a count is its name, and something behind an opening parenthesis. -/
theorem eq_of_regionCount {name : String} {count : ℕ} (h : regionCount spec name = some count) :
    ∃ rest, spec = name.toList ++ '(' :: rest := by
  simp only [regionCount, Option.bind_eq_bind, Option.bind_eq_some_iff] at h
  obtain ⟨rest, hname, rest', hopen, -⟩ := h
  exact ⟨rest', by rw [eq_append_of_stripPrefix hname, eq_append_of_stripPrefix hopen]; rfl⟩

theorem eq_of_strictRegionCount {name : String} {count : ℕ}
    (h : strictRegionCount spec name = some count) : ∃ rest, spec = name.toList ++ '(' :: rest := by
  simp only [strictRegionCount, Option.bind_eq_bind, Option.bind_eq_some_iff] at h
  obtain ⟨rest, hname, rest', hopen, -⟩ := h
  exact ⟨rest', by rw [eq_append_of_stripPrefix hname, eq_append_of_stripPrefix hopen]; rfl⟩

/-- A spec has the count of one name only. -/
theorem regionCount_eq_none {rest : Text} {name : String} (other : String)
    (h : spec = name.toList ++ '(' :: rest) (hname : '(' ∉ name.toList)
    (hother : '(' ∉ other.toList) (hne : name.toList ≠ other.toList) :
    regionCount spec other = none ∧ strictRegionCount spec other = none := by
  constructor
  · rw [Option.eq_none_iff_forall_ne_some]
    intro count hcount
    obtain ⟨rest', heq⟩ := eq_of_regionCount hcount
    exact hne (append_cons_inj hname hother (h.symm.trans heq)).1
  · rw [Option.eq_none_iff_forall_ne_some]
    intro count hcount
    obtain ⟨rest', heq⟩ := eq_of_strictRegionCount hcount
    exact hne (append_cons_inj hname hother (h.symm.trans heq)).1
 
/-- The names without a count have no parenthesis. -/
theorem ne_of_paren {trimmed : Text} (h : '(' ∈ trimmed) (name : String)
    (hname : '(' ∉ name.toList) : trimmed ≠ name.toList := by
  rintro rfl
  exact hname h

variable {input : DetectionInput}

theorem region_eq_countedRegion (h : '(' ∈ trim spec) :
    region input spec = countedRegion input (trim spec) := by
  rw [region]
  simp only [ne_of_paren h "osc_title" (by decide), ne_of_paren h "osc_progress" (by decide),
    ne_of_paren h "whole_recent" (by decide), ne_of_paren h "after_last_prompt_marker" (by decide),
    ne_of_paren h "before_current_prompt_marker" (by decide),
    ne_of_paren h "whole_recent_without_current_prompt_marker" (by decide),
    ne_of_paren h "current_prompt_block_marker" (by decide),
    ne_of_paren h "after_current_prompt_block_marker" (by decide),
    ne_of_paren h "prompt_box_body" (by decide), ne_of_paren h "above_prompt_box" (by decide),
    ne_of_paren h "last_non_empty_above_prompt_box" (by decide),
    ne_of_paren h "after_last_horizontal_rule" (by decide), if_false]
 
variable {name : RegionName}

theorem countedRegion_of_names {trimmed : Text} (h : Names trimmed name) (hparen : '(' ∈ trimmed) :
    countedRegion input trimmed = computeRegion input name := by
  cases h with
  | bottomLines hcount =>
    rw [countedRegion, hcount]
    rfl
  | bottomNonEmptyLines hcount =>
    obtain ⟨rest, heq⟩ := eq_of_regionCount hcount
    have h₁ := (regionCount_eq_none "bottom_lines" heq (by decide) (by decide)
      (by decide)).1
    rw [countedRegion, h₁, hcount]
    rfl
  | bottomLogicalNonEmptyLines hcount =>
    obtain ⟨rest, heq⟩ := eq_of_strictRegionCount hcount
    have h₁ := (regionCount_eq_none "bottom_lines" heq (by decide) (by decide)
      (by decide)).1
    have h₂ := (regionCount_eq_none "bottom_non_empty_lines" heq (by decide)
      (by decide) (by decide)).1
    rw [countedRegion, h₁, h₂, hcount]
    rfl
  | topNonEmptyLines hcount =>
    obtain ⟨rest, heq⟩ := eq_of_strictRegionCount hcount
    have h₁ := (regionCount_eq_none "bottom_lines" heq (by decide) (by decide)
      (by decide)).1
    have h₂ := (regionCount_eq_none "bottom_non_empty_lines" heq (by decide)
      (by decide) (by decide)).1
    have h₃ := (regionCount_eq_none bottomLogicalNonEmptyLinesName heq (by decide)
      (by decide) (by decide)).2
    rw [countedRegion, h₁, h₂, h₃, hcount]
    rfl
  | _ => exact absurd hparen (by decide)
 
/-- A region with a name is never the one for a name that is none. -/
theorem region_of_names (h : Names (trim spec) name) :
    region input spec = computeRegion input name := by
  by_cases hparen : '(' ∈ trim spec
  · rw [region_eq_countedRegion hparen, countedRegion_of_names h hparen]
  · rw [region]
    generalize trim spec = trimmed at h hparen
    cases h with
    | bottomLines hcount =>
      obtain ⟨rest, rfl⟩ := eq_of_regionCount hcount
      exact absurd (by simp) hparen
    | bottomNonEmptyLines hcount =>
      obtain ⟨rest, rfl⟩ := eq_of_regionCount hcount
      exact absurd (by simp) hparen
    | bottomLogicalNonEmptyLines hcount =>
      obtain ⟨rest, rfl⟩ := eq_of_strictRegionCount hcount
      exact absurd (by simp) hparen
    | topNonEmptyLines hcount =>
      obtain ⟨rest, rfl⟩ := eq_of_strictRegionCount hcount
      exact absurd (by simp) hparen
    | _ => rfl

/-- A name that is accepted is one of the names. -/
theorem exists_names (h : validateRegionName spec = .ok ()) : ∃ name, Names (trim spec) name := by
  rw [validateRegionName] at h
  split_ifs at h with hplain hcounted
  · rcases hplain with heq | heq | heq | heq | heq | heq | heq | heq | heq | heq | heq | heq
    all_goals rw [heq]
    · exact ⟨_, .wholeRecent⟩
    · exact ⟨_, .afterLastPromptMarker⟩
    · exact ⟨_, .beforeCurrentPromptMarker⟩
    · exact ⟨_, .wholeRecentWithoutCurrentPromptMarker⟩
    · exact ⟨_, .currentPromptBlockMarker⟩
    · exact ⟨_, .afterCurrentPromptBlockMarker⟩
    · exact ⟨_, .promptBoxBody⟩
    · exact ⟨_, .abovePromptBox⟩
    · exact ⟨_, .lastNonEmptyAbovePromptBox⟩
    · exact ⟨_, .afterLastHorizontalRule⟩
    · exact ⟨_, .oscTitle⟩
    · exact ⟨_, .oscProgress⟩
  · simp only [Bool.or_eq_true, Option.isSome_iff_exists] at hcounted
    rcases hcounted with ((⟨count, hcount⟩ | ⟨count, hcount⟩) | ⟨count, hcount⟩) | ⟨count, hcount⟩
    · exact ⟨_, .bottomLines hcount⟩
    · exact ⟨_, .bottomNonEmptyLines hcount⟩
    · exact ⟨_, .bottomLogicalNonEmptyLines hcount⟩
    · exact ⟨_, .topNonEmptyLines hcount⟩

/-! ## Whole lines -/

/-- What is selected are whole lines, one after the other, or a line without its end. -/
def IsPiece (raw : List Ended) (text : Text) : Prop :=
  ∃ piece, piece <:+: raw ∧ (text = joinEnded piece ∨ ∃ e, piece = [e] ∧ text = e.1)

theorem isPiece_joinEnded {raw piece : List Ended} (h : piece <:+: raw) :
    IsPiece raw (joinEnded piece) :=
  ⟨piece, h, Or.inl rfl⟩

theorem isPiece_nil (raw : List Ended) : IsPiece raw [] :=
  isPiece_joinEnded List.nil_infix

theorem isPiece_line {raw : List Ended} {e : Ended} (h : e ∈ raw) : IsPiece raw e.1 := by
  obtain ⟨front, back, rfl⟩ := List.append_of_mem h
  exact ⟨[e], ⟨front, back, by simp⟩, Or.inr ⟨e, rfl, rfl⟩⟩

theorem Above.prefix_raw {raw above : List Ended} (h : Above raw cuts above) : above <+: raw := by
  cases h with
  | @box _ top body bottom below hbox =>
    rw [hbox.box.eq, List.append_assoc]
    exact List.prefix_append _ _
  | none hnone => exact List.prefix_rfl

theorem Selects.isPiece {raw : List Ended} {text : Text} (h : Selects raw name cuts text) :
    IsPiece raw text := by
  induction h with
  | bottomLogical _ ih => exact ih
  | bottomLines heq _ => exact isPiece_joinEnded (heq ▸ (List.suffix_append _ _).isInfix)
  | bottomNonEmpty heq _ _ => exact isPiece_joinEnded (heq ▸ (List.suffix_append _ _).isInfix)
  | topNonEmpty heq _ _ =>
    rw [List.append_cons] at heq
    exact isPiece_joinEnded (heq ▸ (List.prefix_append _ _).isInfix)
  | afterPrompt h =>
    have heq := h.eq
    rw [List.append_cons] at heq
    exact isPiece_joinEnded (heq ▸ (List.suffix_append _ _).isInfix)
  | beforePrompt h => exact isPiece_joinEnded (h.eq ▸ (List.prefix_append _ _).isInfix)
  | blockMarker h hmarker =>
    refine isPiece_line ?_
    rw [h.eq, hmarker.eq]
    simp
  | afterBlockMarker h hmarker =>
    refine isPiece_joinEnded ?_
    rw [h.eq, hmarker.eq, List.append_assoc]
    exact (List.suffix_append _ _).isInfix
  | @promptBox above top body bottom below h =>
    refine isPiece_joinEnded ⟨above ++ [top], bottom :: below, ?_⟩
    rw [h.box.eq]
    simp
  | abovePromptBox h => exact isPiece_joinEnded h.prefix_raw.isInfix
  | lastNonEmpty h hlast =>
    refine isPiece_line (h.prefix_raw.subset ?_)
    rw [hlast.eq]
    simp
  | afterRule h =>
    have heq := h.eq
    rw [List.append_cons] at heq
    exact isPiece_joinEnded (heq ▸ (List.suffix_append _ _).isInfix)
  | wholeRecent => exact isPiece_joinEnded List.infix_rfl
  | oscTitle => exact isPiece_joinEnded List.infix_rfl
  | oscProgress => exact isPiece_joinEnded List.infix_rfl
  | afterNoPrompt _ => exact isPiece_joinEnded List.infix_rfl
  | beforeNoPrompt _ => exact isPiece_joinEnded List.infix_rfl
  | withoutPrompt _ => exact isPiece_joinEnded List.infix_rfl
  | afterNoRule _ => exact isPiece_joinEnded List.infix_rfl
  | _ => exact isPiece_nil _

/-! ## Regions -/

theorem computeRegion_of_selects (hscreen : '\r' ∉ input.screen)
    (htail : ∀ tail, input.unwrappedTail = some tail → '\r' ∉ tail) {text : Text}
    (h : Selects (endedLines (name.source input)) name cuts text) :
    computeRegion input name = some text := by
  have hmeets := meets_of_selects input name h
  cases name with
  | oscTitle =>
    cases h
    rw [joinEnded_endedLines]
    rfl
  | oscProgress =>
    cases h
    rw [joinEnded_endedLines]
    rfl
  | bottomLogicalNonEmptyLines count =>
    refine hmeets.eq_some ?_
    rw [RegionName.source]
    rcases hunwrapped : input.unwrappedTail with _ | tail
    · exact hscreen
    · exact htail tail hunwrapped
  | _ => exact hmeets.eq_some hscreen

/-- Without carriage returns a region that is accepted is the lines that its name selects. -/
theorem region_selects (input : DetectionInput) (spec : Text) (hscreen : '\r' ∉ input.screen)
    (htail : ∀ tail, input.unwrappedTail = some tail → '\r' ∉ tail)
    (hspec : validateRegionName spec = .ok ()) :
    ∃ name, Names (trim spec) name ∧
      ∃ cuts text, Selects (endedLines (name.source input)) name cuts text ∧
        region input spec = some text ∧ IsPiece (endedLines (name.source input)) text ∧
        ∀ cuts' text', Selects (endedLines (name.source input)) name cuts' text' →
          text' = text := by
  obtain ⟨name, hname⟩ := exists_names hspec
  obtain ⟨cuts, text, h⟩ := exists_selects (endedLines (name.source input)) name
  have hcompute := computeRegion_of_selects hscreen htail h
  refine ⟨name, hname, cuts, text, h, (region_of_names hname).trans hcompute, h.isPiece, ?_⟩
  intro cuts' text' h'
  have hcompute' := computeRegion_of_selects hscreen htail h'
  exact Option.some.inj (hcompute'.symm.trans hcompute)

theorem region_selects_bottom :
    '\r' ∉ "a\nb\n".toList ∧
      ∃ name, Names (trim "bottom_lines(1)".toList) name ∧
        ∃ cuts text,
          Selects (endedLines (name.source ⟨"a\nb\n".toList, none, [], []⟩)) name cuts text ∧
          region ⟨"a\nb\n".toList, none, [], []⟩ "bottom_lines(1)".toList = some text ∧
          IsPiece (endedLines (name.source ⟨"a\nb\n".toList, none, [], []⟩)) text ∧
          ∀ cuts' text',
            Selects (endedLines (name.source ⟨"a\nb\n".toList, none, [], []⟩)) name cuts' text' →
              text' = text :=
  ⟨by decide, region_selects _ _ (by decide) (by simp) (by decide)⟩

/-- The title of the terminal is no piece of the screen. -/
theorem region_oscTitle_not_screen :
    ¬ ∀ (input : DetectionInput) (spec : Text), '\r' ∉ input.screen →
      validateRegionName spec = .ok () →
        ∃ text, region input spec = some text ∧ text <:+: input.screen := by
  intro h
  obtain ⟨text, hregion, hinfix⟩ := h ⟨[], none, ['x'], []⟩ "osc_title".toList (by decide)
    (by decide)
  have heq : region ⟨[], none, ['x'], []⟩ "osc_title".toList = some ['x'] := by decide
  rw [heq] at hregion
  obtain rfl := Option.some.inj hregion
  exact absurd hinfix (by decide)

/-- Every cut of the region lands between two characters. -/
def CutsLand (input : DetectionInput) (spec : Text) : Prop :=
  ∀ name cuts text, Names (trim spec) name →
    Selects (endedLines (name.source input)) name cuts text → ∀ front ∈ cuts, Lands front

/-- A region that is accepted panics exactly when one of its cuts does not land. -/
theorem region_isSome_iff (input : DetectionInput) (spec : Text)
    (hspec : validateRegionName spec = .ok ()) :
    (region input spec).isSome = true ↔ CutsLand input spec := by
  constructor
  · intro hsome name cuts text hname h
    rw [region_of_names hname] at hsome
    exact (meets_of_selects input name h).isSome_iff.1 hsome
  · intro hland
    obtain ⟨name, hname⟩ := exists_names hspec
    obtain ⟨cuts, text, h⟩ := exists_selects (endedLines (name.source input)) name
    rw [region_of_names hname]
    exact (meets_of_selects input name h).isSome_iff.2 (hland name cuts text hname h)

theorem region_isSome_iff_bottom :
    (region ⟨"a\r\nb".toList, none, [], []⟩ "bottom_lines(1)".toList).isSome = true ↔
      CutsLand ⟨"a\r\nb".toList, none, [], []⟩ "bottom_lines(1)".toList :=
  region_isSome_iff _ _ (by decide)

/-- Three carriage returns in front of the last line : its offset is inside the character
before the last line break. -/
theorem region_panics :
    validateRegionName "bottom_lines(1)".toList = .ok () ∧
      region ⟨"\r\n\r\né\r\nx".toList, none, [], []⟩ "bottom_lines(1)".toList = none := by
  decide

end Zynk.Detect
