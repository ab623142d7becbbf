import Zynk.Lib.Text

/-!
# Screens and their history

`terminal/history_read.rs` : a screen that was scrolled up is compared with the screen before it,
and the rows that came in above are put in front of the rows read so far.

The saturating multiplications are plain ones : a screen has at most 65535 rows.
-/

namespace Zynk.Terminal

open Text

inductive CellWide where
  | narrow
  | wide
  | spacerTail
  | spacerHead
  deriving DecidableEq, Repr

structure ScreenTextCell where
  wide : CellWide
  graphemes : List ℕ
  deriving DecidableEq, Repr

structure ScreenTextRow where
  cells : List ScreenTextCell
  softWrapped : Bool
  deriving DecidableEq, Repr

structure ScreenSnapshot where
  cols : ℕ
  rows : List ScreenTextRow
  deriving DecidableEq, Repr

structure TerminalReadSnapshot where
  text : Text
  truncated : Bool
  deriving DecidableEq, Repr

def minAlignmentRatioPercent : ℕ := 30

def similarViewportRatioPercent : ℕ := 70

def kittyUnicodePlaceholder : ℕ := 0x10EEEE

/-! ## The text of rows -/

/-- `str::trim_end`. -/
def trimEnd (s : Text) : Text :=
  (s.reverse.dropWhile isWhitespace).reverse

def cellText (cell : ScreenTextCell) : Text :=
  if cell.wide = .spacerTail then []
  else if cell.graphemes.isEmpty || cell.graphemes.head? == some kittyUnicodePlaceholder then [' ']
  else cell.graphemes.map fun codepoint => (charFromU32 codepoint).getD '\uFFFD'

def rowText (row : ScreenTextRow) : Text :=
  row.cells.flatMap cellText

def rowIdentities (rows : List ScreenTextRow) : List Text :=
  rows.map fun row => trimEnd (rowText row)

/-- The lines without the blank ones at the end, one line break behind each. -/
def linesToText (lines : List Text) : Text :=
  let lines := (lines.reverse.dropWhile fun line => line.all isWhitespace).reverse
  let text := ['\n'].intercalate lines
  if text.isEmpty then text else text ++ ['\n']

def wrappedText (rows : List ScreenTextRow) : Text :=
  linesToText (rowIdentities rows)

/-- The loop of `unwrapped_text`, with the line that is not finished yet. -/
def unwrappedLines (current : Text) : List ScreenTextRow → List Text
  | [] => if current.isEmpty then [] else [current]
  | row :: rows =>
    let current := current ++ trimEnd (rowText row)
    if row.softWrapped then unwrappedLines current rows else current :: unwrappedLines [] rows

def unwrappedText (rows : List ScreenTextRow) : Text :=
  linesToText (unwrappedLines [] rows)

def snapshotText (rows : List ScreenTextRow) (lines : ℕ) (unwrap truncated : Bool) :
    TerminalReadSnapshot :=
  let rows := rows.drop (rows.length - lines)
  { text := if unwrap then unwrappedText rows else wrappedText rows, truncated }

/-! ## Comparing screens -/

def ScreenSnapshot.similarText (self other : ScreenSnapshot) : Bool :=
  if self.cols ≠ other.cols || self.rows.length ≠ other.rows.length then false
  else
    let pairs := (rowIdentities self.rows).zip (rowIdentities other.rows)
    let comparable := pairs.countP fun (left, right) => !left.isEmpty || !right.isEmpty
    if comparable = 0 then true
    else
      let matches_ := pairs.countP fun (left, right) =>
        left == right && (!left.isEmpty || !right.isEmpty)
      comparable * similarViewportRatioPercent ≤ matches_ * 100

inductive UpwardMerge where
  | advanced (rows : ℕ)
  | unchanged
  | unaligned
  deriving DecidableEq, Repr

/-- The number of rows that match and of those that can be compared, at a shift. -/
def overlapAt (previous next : List Text) (shift : ℕ) : ℕ × ℕ :=
  let pairs := (previous.zip (next.drop shift)).filter fun (before, after) =>
    !before.isEmpty && !after.isEmpty
  (pairs.countP fun (before, after) => before == after, pairs.length)

/-- The shift with the most matches, and among those with the most that can be compared; the
smallest of them. -/
def bestUpwardShift (previous next : List Text) : Option ℕ :=
  let best := (List.range' 1 (previous.length - 1)).foldl
    (fun (best : Option (ℕ × ℕ × ℕ)) shift =>
      let (matches_, comparable) := overlapAt previous next shift
      if comparable = 0 || matches_ * 100 < comparable * minAlignmentRatioPercent then best
      else
        match best with
        | none => some (shift, matches_, comparable)
        | some (_, bestMatches, bestComparable) =>
          if bestMatches < matches_ || (matches_ == bestMatches && bestComparable < comparable) then
            some (shift, matches_, comparable)
          else best)
    none
  best.map (·.1)

/-- The rows of the next screen that are above what it shares with the previous one, without those
that were there before at the same place. -/
def addedRows (previousText nextText : List Text) (next : List ScreenTextRow) (boundary : ℕ) :
    List ScreenTextRow :=
  ((next.take boundary).zipIdx.filter fun (_, index) =>
    (nextText.getD index []).isEmpty || previousText[index]? != nextText[index]?).map (·.1)

/-- What becomes of the history, and how the screens compare. -/
def mergeScrolledUp (history : List ScreenTextRow) (previous next : ScreenSnapshot) :
    UpwardMerge × List ScreenTextRow :=
  if previous.cols ≠ next.cols || previous.rows.length ≠ next.rows.length then (.unaligned, history)
  else
    let previousText := rowIdentities previous.rows
    let nextText := rowIdentities next.rows
    if previousText == nextText then (.unchanged, history)
    else
      match bestUpwardShift previousText nextText with
      | none => (.unaligned, history)
      | some shift =>
        let shared := (List.range (previousText.length - shift)).find? fun index =>
          !(previousText.getD index []).isEmpty &&
            previousText[index]? == nextText[index + shift]?
        match shared with
        | none => (.unaligned, history)
        | some index =>
          let added := addedRows previousText nextText next.rows (index + shift)
          if added.isEmpty then (.unaligned, history)
          else (.advanced added.length, added ++ history)

/-! ## What a merge does -/

/-- A merge puts the rows it counts in front of the history, or leaves the history as it is. -/
theorem mergeScrolledUp_cases (history : List ScreenTextRow) (previous next : ScreenSnapshot) :
    (∃ added, added ≠ [] ∧
      mergeScrolledUp history previous next = (.advanced added.length, added ++ history)) ∨
    mergeScrolledUp history previous next = (.unchanged, history) ∨
    mergeScrolledUp history previous next = (.unaligned, history) := by
  simp only [mergeScrolledUp]
  split
  · exact .inr (.inr rfl)
  split
  · exact .inr (.inl rfl)
  split
  · exact .inr (.inr rfl)
  split
  · exact .inr (.inr rfl)
  split
  · exact .inr (.inr rfl)
  · rename_i hadded
    exact .inl ⟨_, fun hnil => hadded (by rw [hnil]; rfl), rfl⟩

end Zynk.Terminal
