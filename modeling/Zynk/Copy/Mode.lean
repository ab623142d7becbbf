import Zynk.Copy.State

/-!
# Copy mode

The keys of copy mode and what each one does to the cursor (`handleCopyModeKey`), as
`app/input/copy_mode.rs` has them. A motion clamps what it moves : one along a row the column, one
across rows the row. The rows it cannot move within the pane it scrolls.

`syncCopyModeSearchGeometry` runs after each change of the pane's size. It lets go of the matches
of a search, and of nothing else.
-/

namespace Zynk

namespace CopyMode

open Text

/-! ## Columns of a row -/

/-- `char_cell_width`. -/
def charCellWidth (unicode : Unicode) (ch : Char) : ℕ :=
  max (unicode.codepointWidth ch) 1

def firstNonBlankColFrom (unicode : Unicode) (col : ℕ) : Text → Option ℕ
  | [] => none
  | ch :: text =>
    if !isWhitespace ch then some col
    else firstNonBlankColFrom unicode (saturatingAdd16 col (charCellWidth unicode ch)) text

def firstNonBlankCol (unicode : Unicode) (text : Text) : Option ℕ :=
  firstNonBlankColFrom unicode 0 text

def lastCharacterColFrom (unicode : Unicode) (col : ℕ) (lastCol : Option ℕ) : Text → Option ℕ
  | [] => lastCol
  | ch :: text =>
    let width := unicode.codepointWidth ch
    if 0 < width then lastCharacterColFrom unicode (saturatingAdd16 col width) (some col) text
    else lastCharacterColFrom unicode col lastCol text

def lastCharacterCol (unicode : Unicode) (text : Text) : Option ℕ :=
  lastCharacterColFrom unicode 0 none text

/-! ## Keys -/

/-- `shifted_ascii_char`. -/
def shiftedAsciiChar (ch : Char) : Option Char :=
  if 'a'.toNat ≤ ch.toNat ∧ ch.toNat ≤ 'z'.toNat then some ch.toUpper
  else
    [('1', '!'), ('2', '@'), ('3', '#'), ('4', '$'), ('5', '%'), ('6', '^'), ('7', '&'), ('8', '*'),
      ('9', '('), ('0', ')'), ('-', '_'), ('=', '+'), ('[', '\x7b'), (']', '\x7d'), ('\\', '|'),
      (';', ':'), ('\'', '"'), (',', '<'), ('.', '>'), ('/', '?'), ('\x60', '~')].lookup ch

/-- `copy_mode_command_char`. -/
def copyModeCommandChar (key : TerminalKey) : Option Char :=
  if key.modifiers.withoutShift ≠ {} then none
  else
    match key.shiftedCodepoint.bind charFromU32 with
    | some ch => some ch
    | none =>
      match key.code with
      | .char ch =>
        if key.modifiers.shift then some ((shiftedAsciiChar ch).getD ch) else some ch
      | _ => none

def copyModePageLines (height : ℕ) (halfPage : Bool) : ℕ :=
  if height ≤ 2 then 1 else if halfPage then height / 2 else height - 2

/-! ## Search -/

/-- `search_match_index`. -/
def searchMatchIndex (found : List TerminalTextMatch) (direction : CopyModeSearchDirection)
    (cursor : TerminalTextPoint) (previous : Option TerminalTextMatch) : Option ℕ :=
  if found.isEmpty then none
  else
    match direction with
    | .forward =>
      let origin := previous.elim cursor fun textMatch => textMatch.end
      (found.findIdx? fun textMatch => origin.before textMatch.start).or (some 0)
    | .backward =>
      let origin := previous.elim cursor fun textMatch => textMatch.start
      ((found.reverse.findIdx? fun textMatch => textMatch.end.before origin).map fun i =>
        found.length - 1 - i).or (some (found.length - 1))

namespace AppState

variable (s : AppState)

/-! ## The selection -/

def exitCopyMode (copy : Bool) : AppState :=
  let restoreScroll := s.copyMode.map fun copyMode =>
    (copyMode.paneId, copyMode.entryOffsetFromBottom)
  let s := if copy then s.copySelection else s.clearSelection
  let s :=
    match restoreScroll with
    | none => s
    | some (paneId, offsetFromBottom) => s.setPaneScrollOffset paneId offsetFromBottom
  { s with copyMode := none, mode := if s.active.isSome then .terminal else .navigate }

def cancelCopyMode : AppState :=
  s.exitCopyMode false

def clearCopyModeSelection : AppState :=
  s.clearSelection.updateCopyMode fun copyMode => { copyMode with selection := none }

def beginCopyModeSelection : AppState :=
  match s.copyMode with
  | none => s
  | some copyMode =>
    match s.paneInfoById copyMode.paneId with
    | none => s
    | some info =>
      if info.innerRect.height ≤ copyMode.cursorRow ∨ info.innerRect.width ≤ copyMode.cursorCol then
        s
      else
        { s with
          selection := some (.anchorAt copyMode.paneId copyMode.cursorRow copyMode.cursorCol
            (s.paneScrollMetrics copyMode.paneId))
          copyMode := some { copyMode with selection := some .character } }

def selectCopyModeLine : AppState :=
  match s.copyMode with
  | none => s
  | some copyMode =>
    match s.paneInfoById copyMode.paneId with
    | none => s
    | some info =>
      let anchorRow :=
        absoluteRowForViewportRow copyMode.cursorRow (s.paneScrollMetrics copyMode.paneId)
      { s with
        selection :=
          some (.lineRange copyMode.paneId anchorRow anchorRow (info.innerRect.width - 1))
        copyMode := some { copyMode with selection := some (.linewise anchorRow) } }

def syncCopyModeSelection : AppState :=
  match s.copyMode with
  | none => s
  | some copyMode =>
    match copyMode.selection with
    | none => s
    | some selection =>
      match s.paneInfoById copyMode.paneId with
      | none => s
      | some info =>
        match selection with
        | .character =>
          s.updateSelectionCursor copyMode.paneId
            (saturatingAdd16 info.innerRect.x copyMode.cursorCol)
            (saturatingAdd16 info.innerRect.y copyMode.cursorRow)
        | .linewise anchorRow =>
          let cursorRow :=
            absoluteRowForViewportRow copyMode.cursorRow (s.paneScrollMetrics copyMode.paneId)
          { s with
            selection :=
              some (.lineRange copyMode.paneId anchorRow cursorRow (info.innerRect.width - 1)) }

/-! ## Lines and pages -/

/-- The writes at the end of a motion : the cursor, then the selection that follows it. -/
def placeCopyCursor (cursorRow cursorCol : ℕ) : AppState :=
  (s.updateCopyMode fun copyMode => { copyMode with cursorRow, cursorCol }).syncCopyModeSelection

def moveCopyCursor (rowDelta colDelta : ℤ) : AppState :=
  match s.copyMode with
  | none => s
  | some copyMode =>
    let paneId := copyMode.paneId
    match s.paneInfoById paneId with
    | none => s.exitCopyMode false
    | some info =>
      let cursorCol :=
        if colDelta < 0 then copyMode.cursorCol - colDelta.natAbs
        else if 0 < colDelta then
          min (saturatingAdd16 copyMode.cursorCol colDelta.natAbs) (info.innerRect.width - 1)
        else copyMode.cursorCol
      let delta := rowDelta.natAbs
      let bottom := info.innerRect.height - 1
      if rowDelta < 0 then
        if delta ≤ copyMode.cursorRow then
          s.placeCopyCursor (copyMode.cursorRow - delta) cursorCol
        else (s.scrollPaneUp paneId delta).placeCopyCursor 0 cursorCol
      else if 0 < rowDelta then
        if saturatingAdd16 copyMode.cursorRow delta ≤ bottom then
          s.placeCopyCursor (copyMode.cursorRow + delta) cursorCol
        else (s.scrollPaneDown paneId delta).placeCopyCursor bottom cursorCol
      else s.placeCopyCursor copyMode.cursorRow cursorCol

/-- A motion that leaves the column. -/
def placeCopyRow (cursorRow : ℕ) : AppState :=
  (s.updateCopyMode fun copyMode => { copyMode with cursorRow }).syncCopyModeSelection

/-- A motion that leaves the row. -/
def placeCopyCol (cursorCol : ℕ) : AppState :=
  (s.updateCopyMode fun copyMode => { copyMode with cursorCol }).syncCopyModeSelection

def scrollCopyModePage (direction : ℤ) (halfPage : Bool) : AppState :=
  match s.copyMode with
  | none => s
  | some copyMode =>
    let paneId := copyMode.paneId
    match s.paneInfoById paneId with
    | none => s.exitCopyMode false
    | some info =>
      let lines := copyModePageLines info.innerRect.height halfPage
      match s.paneScrollMetrics paneId with
      | some metrics =>
        if direction < 0 then
          let nextOffset := saturatingAdd64 metrics.offsetFromBottom lines
          if metrics.maxOffsetFromBottom < nextOffset then
            let scrolledLines := metrics.maxOffsetFromBottom - metrics.offsetFromBottom
            let cursorLines := lines - scrolledLines
            (s.setPaneScrollOffset paneId metrics.maxOffsetFromBottom).placeCopyRow
              (copyMode.cursorRow - min cursorLines 65535)
          else (s.setPaneScrollOffset paneId nextOffset).placeCopyRow copyMode.cursorRow
        else if metrics.offsetFromBottom < lines then
          let cursorLines := lines - metrics.offsetFromBottom
          (s.setPaneScrollOffset paneId 0).placeCopyRow
            (min (saturatingAdd16 copyMode.cursorRow (min cursorLines 65535))
              (info.innerRect.height - 1))
        else
          (s.setPaneScrollOffset paneId (metrics.offsetFromBottom - lines)).placeCopyRow
            copyMode.cursorRow
      | none =>
        if direction < 0 then (s.scrollPaneUp paneId lines).placeCopyRow copyMode.cursorRow
        else (s.scrollPaneDown paneId lines).placeCopyRow copyMode.cursorRow

def copyModeHistoryTop : AppState :=
  match s.copyMode with
  | none => s
  | some copyMode =>
    match s.paneScrollMetrics copyMode.paneId with
    | none => s
    | some metrics =>
      (s.setPaneScrollOffset copyMode.paneId metrics.maxOffsetFromBottom).placeCopyRow 0

def copyModeHistoryBottom : AppState :=
  match s.copyMode with
  | none => s
  | some copyMode =>
    match s.paneInfoById copyMode.paneId with
    | none => s.exitCopyMode false
    | some info =>
      (s.setPaneScrollOffset copyMode.paneId 0).placeCopyRow (info.innerRect.height - 1)

/-! ## Motions to a point -/

def moveCopyCursorToAbsolute (target : TerminalTextPoint) (reserveOverlayRow : Bool) : AppState :=
  match s.copyMode with
  | none => s
  | some copyMode =>
    let paneId := copyMode.paneId
    match s.paneInfoById paneId with
    | none => s
    | some info =>
      match s.paneScrollMetrics paneId with
      | none => s
      | some metrics =>
        let currentTop := metrics.viewportTopRow
        let maxCursorRow := info.innerRect.height - if reserveOverlayRow then 2 else 1
        let desiredTop :=
          if target.row < currentTop then target.row
          else if min (currentTop + maxCursorRow) 4294967295 < target.row then
            target.row - maxCursorRow
          else currentTop
        let desiredOffset := metrics.maxOffsetFromBottom - desiredTop
        let s := s.setPaneScrollOffset paneId desiredOffset
        match s.paneScrollMetrics paneId with
        | none => s
        | some updatedMetrics =>
          let updatedTop := updatedMetrics.viewportTopRow
          s.placeCopyCursor (min (target.row - updatedTop) (info.innerRect.height - 1))
            (min target.col (info.innerRect.width - 1))

/-- `copy_mode_visible_row_text`. -/
def copyModeVisibleRowText (viewportRow : ℕ) : Option Text :=
  match s.copyMode, s.active with
  | some copyMode, some wsIdx =>
    match s.paneInfoById copyMode.paneId with
    | none => none
    | some info =>
      if info.innerRect.height ≤ viewportRow ∨ info.innerRect.width = 0 then none
      else
        let rowSelection := Selection.range copyMode.paneId viewportRow 0
          (info.innerRect.width - 1) (s.paneScrollMetrics copyMode.paneId)
        (s.runtimeForPaneInWorkspace wsIdx copyMode.paneId).bind
          fun rt => rt.content.extractSelection rowSelection.orderedCells
  | _, _ => none

def copyModeLineEdge (unicode : Unicode) («end» : Bool) : AppState :=
  match s.copyMode with
  | none => s
  | some copyMode =>
    match s.paneInfoById copyMode.paneId with
    | none => s.exitCopyMode false
    | some info =>
      if «end» then
        match s.copyModeVisibleRowText copyMode.cursorRow with
        | none => s
        | some text =>
          s.placeCopyCol
            (min ((lastCharacterCol unicode text).getD 0) (info.innerRect.width - 1))
      else s.placeCopyCol 0

def copyModeFirstNonBlank (unicode : Unicode) : AppState :=
  match s.copyMode with
  | none => s
  | some copyMode =>
    match s.copyModeVisibleRowText copyMode.cursorRow with
    | none => s
    | some text => s.placeCopyCol ((firstNonBlankCol unicode text).getD 0)

def copyModeWordMotion (motion : WordMotion) : AppState :=
  match s.copyMode with
  | none => s
  | some copyMode =>
    match s.paneScrollMetrics copyMode.paneId with
    | none => s
    | some metrics =>
      match s.active.bind fun wsIdx => s.runtimeForPaneInWorkspace wsIdx copyMode.paneId with
      | none => s
      | some runtime =>
        let absoluteRow := min (metrics.viewportTopRow + copyMode.cursorRow) 4294967295
        match runtime.content.wordMotionTarget absoluteRow copyMode.cursorCol motion with
        | none => s
        | some target => s.moveCopyCursorToAbsolute target false

/-- A row whose text trims to nothing. -/
def isBlankRow (text : Option Text) : Bool :=
  text.any fun text => text.all isWhitespace

/-- What tells whether a step of a paragraph motion has moved the cursor. -/
def copyCursor : Option (ℕ × ℕ × Option CopyModeSelection) :=
  s.copyMode.map fun copyMode => (copyMode.cursorRow, copyMode.cursorCol, copyMode.selection)

/-- The loop of `copy_mode_paragraph`, with the rounds that are left. -/
def copyModeParagraphLoop (paneId : PaneId) (paneHeight : ℕ) (direction : ℤ) :
    ℕ → AppState → AppState
  | 0, s => s
  | limit + 1, s =>
    let before := s.copyCursor
    let beforeOffset := (s.paneScrollMetrics paneId).map ScrollMetrics.offsetFromBottom
    let s := s.moveCopyCursor direction 0
    match s.copyMode with
    | none => s
    | some after =>
      if isBlankRow (s.copyModeVisibleRowText after.cursorRow) then s
      else
        match s.paneScrollMetrics after.paneId with
        | none => copyModeParagraphLoop paneId paneHeight direction limit s
        | some afterMetrics =>
          let didNotMove :=
            before = s.copyCursor ∧ beforeOffset = some afterMetrics.offsetFromBottom
          let atTop := direction < 0 ∧ after.cursorRow = 0 ∧
            afterMetrics.offsetFromBottom = afterMetrics.maxOffsetFromBottom
          let atBottom := 0 < direction ∧ paneHeight ≤ after.cursorRow + 1 ∧
            afterMetrics.offsetFromBottom = 0
          if didNotMove ∨ atTop ∨ atBottom then s
          else copyModeParagraphLoop paneId paneHeight direction limit s

/-- The most rows a paragraph motion goes. -/
def paragraphLimit (paneId : PaneId) (paneHeight : ℕ) : ℕ :=
  min (max (((s.paneScrollMetrics paneId).map fun metrics =>
    metrics.maxOffsetFromBottom + metrics.viewportRows).getD paneHeight) 1) 1000

def copyModeParagraph (direction : ℤ) : AppState :=
  match s.copyMode with
  | none => s
  | some copyMode =>
    match s.paneInfoById copyMode.paneId with
    | none => s.exitCopyMode false
    | some info =>
      copyModeParagraphLoop copyMode.paneId info.innerRect.height direction
        (s.paragraphLimit copyMode.paneId info.innerRect.height) s

/-! ## Searches -/

def openCopyModeSearch (direction : CopyModeSearchDirection) : AppState :=
  s.updateCopyMode fun copyMode =>
    { copyMode with search.prompt := some { direction, query := [] } }

/-- The matches of a search, and the one it goes to. -/
def searchFrom (unicode : Unicode) (copyMode : CopyModeState) (runtime : TerminalRuntime)
    (metrics : ScrollMetrics) (query : Text) (direction : CopyModeSearchDirection)
    (again : Bool) : List TerminalTextMatch × Option ℕ :=
  let cursor : TerminalTextPoint :=
    { row := min (metrics.viewportTopRow + copyMode.cursorRow) 4294967295
      col := copyMode.cursorCol }
  let previousMatch :=
    if again then
      (copyMode.search.current.bind fun index => copyMode.search.matches[index]?).filter
        fun textMatch => textMatch.start = cursor && runtime.content.textMatchIsCurrent textMatch
    else none
  let found := runtime.content.searchTextMatches query (query.any unicode.isUppercase)
  (found, searchMatchIndex found direction cursor previousMatch)

def submitCopyModeSearch (unicode : Unicode) (query : Text) (direction : CopyModeSearchDirection)
    (again : Bool) : AppState :=
  if query.isEmpty then s
  else
    match s.copyMode with
    | none => s
    | some copyMode =>
      match s.active.bind fun wsIdx => s.runtimeForPaneInWorkspace wsIdx copyMode.paneId with
      | none => s
      | some runtime =>
        match runtime.scrollMetrics with
        | none => s
        | some metrics =>
          let (found, current) :=
            searchFrom unicode copyMode runtime metrics query direction again
          let s := s.updateCopyMode fun copyMode =>
            { copyMode with
              search :=
                { copyMode.search with
                  query
                  direction := if again then copyMode.search.direction else some direction
                  «matches» := found
                  current } }
          match current.bind fun index => found[index]? with
          | none => s
          | some target => s.moveCopyCursorToAbsolute target.start true

def repeatCopyModeSearch (unicode : Unicode) (reverse : Bool) : AppState :=
  match s.copyMode with
  | none => s
  | some copyMode =>
    if copyMode.search.query.isEmpty then s
    else
      match copyMode.search.direction with
      | none => s
      | some direction =>
        s.submitCopyModeSearch unicode copyMode.search.query
          (if reverse then direction.reversed else direction) true

/-- `handle_copy_mode_search_prompt_key`, `none` when no prompt is open. -/
def handleCopyModeSearchPromptKey (unicode : Unicode) (key : TerminalKey) : Option AppState :=
  match s.copyMode with
  | none => none
  | some copyMode =>
    match copyMode.search.prompt with
    | none => none
    | some prompt =>
      let withPrompt (prompt : Option CopyModeSearchPrompt) : AppState :=
        { s with copyMode := some { copyMode with search.prompt := prompt } }
      match key.code with
      | .esc => some (withPrompt none)
      | .enter =>
        some ((withPrompt none).submitCopyModeSearch unicode prompt.query prompt.direction false)
      | .backspace => some (withPrompt (some { prompt with query := prompt.query.dropLast }))
      | code =>
        if code = .char 'u' ∧ key.modifiers.control = true then
          some (withPrompt (some { prompt with query := [] }))
        else
          match copyModeCommandChar key with
          | none => some s
          | some ch => some (withPrompt (some { prompt with query := prompt.query ++ [ch] }))

/-! ## Entering copy mode, and its keys -/

def enterCopyMode : AppState :=
  match s.active with
  | none => s
  | some wsIdx =>
    match (s.workspaces[wsIdx]?).bind Workspace.focusedPaneId with
    | none => s
    | some paneId =>
      match s.paneInfoById paneId with
      | none => s
      | some info =>
        if info.innerRect.width = 0 ∨ info.innerRect.height = 0 then s
        else
          let cursor :=
            (((s.runtimeForPaneInWorkspace wsIdx paneId).bind fun rt =>
              rt.content.cursorState info.innerRect).filter TerminalCursorState.visible).elim
                (info.innerRect.height - 1, 0)
                fun cursor => (cursor.y - info.innerRect.y, cursor.x - info.innerRect.x)
          let entryOffsetFromBottom :=
            (s.paneScrollMetrics paneId).elim 0 ScrollMetrics.offsetFromBottom
          { s.clearSelection with
            copyMode := some
              { paneId
                cursorRow := min cursor.1 (info.innerRect.height - 1)
                cursorCol := min cursor.2 (info.innerRect.width - 1)
                entryOffsetFromBottom
                selection := none
                search := { geometry := some (info.innerRect.width, info.innerRect.height) } }
            mode := .copy }

/-- The commands of one character. -/
def copyModeCommand (unicode : Unicode) : Char → AppState
  | 'q' => s.exitCopyMode false
  | 'y' => s.exitCopyMode true
  | 'v' | ' ' => s.beginCopyModeSelection
  | 'V' => s.selectCopyModeLine
  | 'h' => s.moveCopyCursor 0 (-1)
  | 'j' => s.moveCopyCursor 1 0
  | 'k' => s.moveCopyCursor (-1) 0
  | 'l' => s.moveCopyCursor 0 1
  | 'g' => s.copyModeHistoryTop
  | 'G' => s.copyModeHistoryBottom
  | '0' => s.copyModeLineEdge unicode false
  | '$' => s.copyModeLineEdge unicode true
  | '^' => s.copyModeFirstNonBlank unicode
  | '/' => s.openCopyModeSearch .forward
  | '?' => s.openCopyModeSearch .backward
  | 'n' => s.repeatCopyModeSearch unicode false
  | 'N' => s.repeatCopyModeSearch unicode true
  | 'w' => s.copyModeWordMotion .nextStart
  | 'b' => s.copyModeWordMotion .previousStart
  | 'e' => s.copyModeWordMotion .nextEnd
  | 'W' => s.copyModeWordMotion .nextBigStart
  | 'B' => s.copyModeWordMotion .previousBigStart
  | 'E' => s.copyModeWordMotion .nextBigEnd
  | '\x7b' => s.copyModeParagraph (-1)
  | '\x7d' => s.copyModeParagraph 1
  | _ => s

/-- Escape lets go of a selection or a search, and leaves copy mode when there is none. -/
def escapeCopyMode : AppState :=
  let shouldClear := s.copyMode.any fun copyMode =>
    copyMode.selection.isSome || !copyMode.search.query.isEmpty ||
      !copyMode.search.matches.isEmpty || copyMode.search.direction.isSome
  if shouldClear then
    s.clearCopyModeSelection.updateCopyMode fun copyMode =>
      { copyMode with search := { geometry := copyMode.search.geometry } }
  else s.exitCopyMode false

/-- The second match of `handle_copy_mode_key`, on characters with Control. -/
def controlCopyMode (key : TerminalKey) : AppState :=
  if key.modifiers.control then
    match key.code with
    | .char 'b' => s.scrollCopyModePage (-1) false
    | .char 'f' => s.scrollCopyModePage 1 false
    | .char 'u' => s.scrollCopyModePage (-1) true
    | .char 'd' => s.scrollCopyModePage 1 true
    | _ => s
  else s

/-- `AppState::handle_copy_mode_key`. -/
def handleCopyModeKey (unicode : Unicode) (key : TerminalKey) : AppState :=
  match s.handleCopyModeSearchPromptKey unicode key with
  | some s => s
  | none =>
    match key.code with
    | .esc => s.escapeCopyMode
    | .enter => s.exitCopyMode true
    | .left => s.moveCopyCursor 0 (-1)
    | .down => s.moveCopyCursor 1 0
    | .up => s.moveCopyCursor (-1) 0
    | .right => s.moveCopyCursor 0 1
    | .pageUp => s.scrollCopyModePage (-1) false
    | .pageDown => s.scrollCopyModePage 1 false
    | .home => s.copyModeLineEdge unicode false
    | .«end» => s.copyModeLineEdge unicode true
    | _ =>
      match copyModeCommandChar key with
      | none => s.controlCopyMode key
      | some ch => (s.controlCopyMode key).copyModeCommand unicode ch

/-- `App::handle_copy_mode_key` : the prefix key is not one of copy mode. -/
def pressKey (unicode : Unicode) (key : TerminalKey) : AppState :=
  if key.kind = .release then s
  else if Config.terminalKeyMatchesCombo key s.prefixKey then { s with mode := .awaitPrefix }
  else s.handleCopyModeKey unicode key

/-- `sync_copy_mode_search_geometry`. -/
def syncCopyModeSearchGeometry : AppState :=
  match s.copyMode with
  | none => s
  | some copyMode =>
    match s.paneInfoById copyMode.paneId with
    | none => s
    | some info =>
      let geometry := (info.innerRect.width, info.innerRect.height)
      let search :=
        if copyMode.search.geometry.isSome ∧ copyMode.search.geometry ≠ some geometry then
          { copyMode.search with «matches» := [], current := none, geometry := some geometry }
        else { copyMode.search with geometry := some geometry }
      { s with copyMode := some { copyMode with search } }

end AppState

end CopyMode

end Zynk
