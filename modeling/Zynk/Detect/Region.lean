import Zynk.Agent.Label
import Zynk.Lib.LineEnds

/-!
# Detection regions

A detection rule names the region of the screen that it reads. `region` cuts the region out of the
screen text : the functions below look at the lines, take the line end for one byte to compute an
offset, and slice the text there. A slice is `none` when the offset is inside a character, where
the program panics.
-/

namespace Zynk.Detect

open Text

structure DetectionInput where
  screen : Text
  unwrappedTail : Option Text
  oscTitle : Text
  oscProgress : Text

/-! ## Slices -/

/-- `&content[offset..]`. -/
def sliceFrom (content : Text) (offset : ℕ) : Option Text :=
  (splitAtByte offset content).map (·.2)

/-- `&content[..offset]`. -/
def sliceTo (content : Text) (offset : ℕ) : Option Text :=
  (splitAtByte offset content).map (·.1)

/-- `&content[start..stop]`. -/
def sliceBetween (content : Text) (start stop : ℕ) : Option Text := do
  sliceFrom (← sliceTo content stop) start

def lineStartOffset (content : Text) (lines : List Text) (index : ℕ) : ℕ :=
  min (((lines.take (min index lines.length)).map fun line => byteLen line + 1).sum)
    (byteLen content)

def sliceFromLineIndex (content : Text) (lines : List Text) (index : ℕ) : Option Text :=
  let byteOffset := lineStartOffset content lines index
  sliceFrom content (min byteOffset (byteLen content))

/-! ## Lines -/

/-- `iter().rposition(p)` : the last index. -/
def rposition (p : Text → Bool) : List Text → Option ℕ
  | [] => none
  | line :: lines =>
    match rposition p lines with
    | some i => some (i + 1)
    | none => if p line then some 0 else none

def isBlank (line : Text) : Bool :=
  (trim line).isEmpty

def codexPromptLine (line : Text) : Bool :=
  line = ['›'] || ['›', ' '].isPrefixOf line

def codexBlockMarkerLine (line : Text) : Bool :=
  line.head? = some '•' || line.head? = some '■' || line.head? = some '✗' || line.head? = some '✓'

def isHorizontalRule (line : Text) : Bool :=
  let trimmed := trim line
  if trimmed.isEmpty then false
  else
    let ruleChars := (trimmed.takeWhile (· = '─')).length
    if ruleChars = 0 then false
    else
      let suffix := (trimmed.drop ruleChars).dropWhile isWhitespace
      suffix.isEmpty || 3 ≤ ruleChars

/-! ## Regions -/

def bottomLines (content : Text) (count : ℕ) : Option Text :=
  let lines := lines content
  let start := lines.length - count
  sliceFromLineIndex content lines start

def bottomNonEmptyLines (content : Text) (count : ℕ) : Option Text :=
  let lines := lines content
  match ((lines.zipIdx.reverse.filter fun e => !isBlank e.1).take count).getLast? with
  | none => some []
  | some (_, startIndex) => sliceFromLineIndex content lines startIndex

def topNonEmptyLines (content : Text) (count : ℕ) : Option Text :=
  let lines := lines content
  match ((lines.zipIdx.filter fun e => !isBlank e.1).take count).getLast? with
  | none => some []
  | some (_, endIndex) => sliceTo content (lineStartOffset content lines (endIndex + 1))

def afterLastPromptMarker (content : Text) : Option Text :=
  let lines := lines content
  match rposition codexPromptLine lines with
  | none => some content
  | some index => sliceFromLineIndex content lines (index + 1)

/-- The last prompt line, unless a block marker line follows it. -/
def currentCodexPromptIndex (lines : List Text) : Option ℕ :=
  match rposition codexPromptLine lines with
  | none => none
  | some promptIndex =>
    if (lines.drop (promptIndex + 1)).any codexBlockMarkerLine then none else some promptIndex

def beforeCurrentPromptMarker (content : Text) : Option Text :=
  let lines := lines content
  match currentCodexPromptIndex lines with
  | none => some content
  | some index =>
    let byteOffset := ((lines.take index).map fun line => byteLen line + 1).sum
    sliceTo content (min byteOffset (byteLen content))

def wholeRecentWithoutCurrentPromptMarker (content : Text) : Option Text :=
  if (currentCodexPromptIndex (lines content)).isSome then some [] else some content

/-- The line itself, nothing is sliced. -/
def currentPromptBlockMarker (content : Text) : Option Text :=
  let lines := lines content
  match currentCodexPromptIndex lines with
  | none => none
  | some promptIndex => (lines.take promptIndex).reverse.find? codexBlockMarkerLine

/-- The outer option is that of the source, the inner one is that of the slice. -/
def afterCurrentPromptBlockMarker (content : Text) : Option (Option Text) := do
  let lines := lines content
  let promptIndex ← currentCodexPromptIndex lines
  let blockIndex ← rposition codexBlockMarkerLine (lines.take promptIndex)
  return sliceFromLineIndex content lines blockIndex

/-- The loop of `prompt_box_top_border_index`, over the lines from the last one on. -/
def scanBorders : ℕ → List (Text × ℕ) → Option ℕ
  | _, [] => none
  | borderCount, (line, index) :: rest =>
    if isHorizontalRule line then
      if borderCount + 1 = 2 then some index else scanBorders (borderCount + 1) rest
    else scanBorders borderCount rest

def promptBoxTopBorderIndex (lines : List Text) : Option ℕ :=
  scanBorders 0 lines.zipIdx.reverse

def promptBoxBody (content : Text) : Option (Option Text) := do
  let lines := lines content
  let top ← promptBoxTopBorderIndex lines
  let start := lineStartOffset content lines (top + 1)
  let endIndex := (((lines.drop (top + 1)).findIdx? isHorizontalRule).map
    fun relative => top + 1 + relative).getD lines.length
  let stop := lineStartOffset content lines endIndex
  return sliceBetween content (min start (byteLen content)) (min stop (byteLen content))

def abovePromptBox (content : Text) : Option Text :=
  let lines := lines content
  match promptBoxTopBorderIndex lines with
  | none => some content
  | some top =>
    let stop := lineStartOffset content lines top
    sliceTo content (min stop (byteLen content))

/-- `last_rule_end` and `offset` after one more line. -/
def advanceRule (total : ℕ) (acc : ℕ × ℕ) (line : Text) : ℕ × ℕ :=
  let nextOffset := acc.2 + byteLen line + 1
  (if isHorizontalRule line then min nextOffset total else acc.1, nextOffset)

def afterLastHorizontalRule (content : Text) : Option Text :=
  let lastRuleEnd := ((lines content).foldl (advanceRule (byteLen content)) (0, 0)).1
  sliceFrom content lastRuleEnd

def lastNonEmptyLine (content : Text) : Text :=
  ((lines content).reverse.find? fun line => !isBlank line).getD []

/-! ## Names of regions -/

def usizeMax : ℕ :=
  2 ^ 64 - 1

def regionCount (spec : Text) (name : String) : Option ℕ := do
  let rest ← stripPrefix name spec
  let rest ← stripPrefix "(" rest
  let count ← stripSuffix ")" rest
  parseUnsigned usizeMax count

def topNonEmptyLinesName : String :=
  "top_non_empty_lines"

def bottomLogicalNonEmptyLinesName : String :=
  "bottom_logical_non_empty_lines"

/-- `MAX_STRICT_REGION_LINE_COUNT`. -/
def maxStrictRegionLineCount : ℕ :=
  65535

def strictRegionCount (spec : Text) (name : String) : Option ℕ := do
  let rest ← stripPrefix name spec
  let rest ← stripPrefix "(" rest
  let count ← stripSuffix ")" rest
  if count.head? = some '0' || !count.all Char.isDigit then none
  else (parseUnsigned usizeMax count).filter fun count => count ≤ maxStrictRegionLineCount

def validateRegionName (spec : Text) : Except Text Unit :=
  let trimmed := trim spec
  if trimmed = "whole_recent".toList ∨
      trimmed = "after_last_prompt_marker".toList ∨
      trimmed = "before_current_prompt_marker".toList ∨
      trimmed = "whole_recent_without_current_prompt_marker".toList ∨
      trimmed = "current_prompt_block_marker".toList ∨
      trimmed = "after_current_prompt_block_marker".toList ∨
      trimmed = "prompt_box_body".toList ∨
      trimmed = "above_prompt_box".toList ∨
      trimmed = "last_non_empty_above_prompt_box".toList ∨
      trimmed = "after_last_horizontal_rule".toList ∨
      trimmed = "osc_title".toList ∨
      trimmed = "osc_progress".toList then .ok ()
  else if (regionCount trimmed "bottom_lines").isSome ||
      (regionCount trimmed "bottom_non_empty_lines").isSome ||
      (strictRegionCount trimmed bottomLogicalNonEmptyLinesName).isSome ||
      (strictRegionCount trimmed topNonEmptyLinesName).isSome then .ok ()
  else .error trimmed

/-- The regions with a count. The last case is the one for a name that is none. -/
def countedRegion (input : DetectionInput) (trimmed : Text) : Option Text :=
  let content := input.screen
  match regionCount trimmed "bottom_lines" with
  | some count => bottomLines content count
  | none =>
    match regionCount trimmed "bottom_non_empty_lines" with
    | some count => bottomNonEmptyLines content count
    | none =>
      match strictRegionCount trimmed bottomLogicalNonEmptyLinesName with
      | some count => bottomNonEmptyLines (input.unwrappedTail.getD content) count
      | none =>
        match strictRegionCount trimmed topNonEmptyLinesName with
        | some count => topNonEmptyLines content count
        | none => some []

/-- `region` : `none` is a panic. -/
def region (input : DetectionInput) (spec : Text) : Option Text :=
  let trimmed := trim spec
  let content := input.screen
  if trimmed = "osc_title".toList then some input.oscTitle
  else if trimmed = "osc_progress".toList then some input.oscProgress
  else if trimmed = "whole_recent".toList then some content
  else if trimmed = "after_last_prompt_marker".toList then afterLastPromptMarker content
  else if trimmed = "before_current_prompt_marker".toList then beforeCurrentPromptMarker content
  else if trimmed = "whole_recent_without_current_prompt_marker".toList then
    wholeRecentWithoutCurrentPromptMarker content
  else if trimmed = "current_prompt_block_marker".toList then
    some ((currentPromptBlockMarker content).getD [])
  else if trimmed = "after_current_prompt_block_marker".toList then
    (afterCurrentPromptBlockMarker content).getD (some [])
  else if trimmed = "prompt_box_body".toList then (promptBoxBody content).getD (some [])
  else if trimmed = "above_prompt_box".toList then abovePromptBox content
  else if trimmed = "last_non_empty_above_prompt_box".toList then
    (abovePromptBox content).map lastNonEmptyLine
  else if trimmed = "after_last_horizontal_rule".toList then afterLastHorizontalRule content
  else countedRegion input trimmed

end Zynk.Detect
