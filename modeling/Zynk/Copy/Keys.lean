import Zynk.Copy.Placed

/-!
# The motions of copy mode, and its other keys

A key of copy mode is a motion (`AppState.motionOf`), leaves copy mode, or changes neither the
cursor nor the scroll position (`Placed.handleCopyModeKey`). `Motion.spot` is the spot a motion
leads to, from the spot it starts at and what the terminal shows there.
-/

namespace Zynk

namespace CopyMode

/-! ## Motions -/

inductive Motion where
  | left
  | right
  | up
  | down
  | page (up half : Bool)
  | historyTop
  | historyBottom
  | lineEdge («end» : Bool)
  | firstNonBlank
  | word (motion : WordMotion)
  | paragraph (up : Bool)
  /-- Enter at the prompt of a search. -/
  | submit (query : Text) (direction : CopyModeSearchDirection)
  /-- The search once more, the other way round or not. -/
  | again (reverse : Bool)
  deriving DecidableEq, Repr

def Motion.isSubmit : Motion → Bool
  | submit _ _ => true
  | _ => false

/-- The motion a command character stands for. -/
def charMotion : Char → Option Motion
  | 'h' => some .left
  | 'j' => some .down
  | 'k' => some .up
  | 'l' => some .right
  | 'g' => some .historyTop
  | 'G' => some .historyBottom
  | '0' => some (.lineEdge false)
  | '$' => some (.lineEdge true)
  | '^' => some .firstNonBlank
  | 'n' => some (.again false)
  | 'N' => some (.again true)
  | 'w' => some (.word .nextStart)
  | 'b' => some (.word .previousStart)
  | 'e' => some (.word .nextEnd)
  | 'W' => some (.word .nextBigStart)
  | 'B' => some (.word .previousBigStart)
  | 'E' => some (.word .nextBigEnd)
  | '\x7b' => some (.paragraph true)
  | '\x7d' => some (.paragraph false)
  | _ => none

def controlMotion (key : TerminalKey) : Option Motion :=
  if key.modifiers.control then
    match key.code with
    | .char 'b' => some (.page true false)
    | .char 'f' => some (.page false false)
    | .char 'u' => some (.page true true)
    | .char 'd' => some (.page false true)
    | _ => none
  else none

/-- The motion a key stands for when no prompt is open. -/
def keyMotion (key : TerminalKey) : Option Motion :=
  match key.code with
  | .esc => none
  | .enter => none
  | .left => some .left
  | .down => some .down
  | .up => some .up
  | .right => some .right
  | .pageUp => some (.page true false)
  | .pageDown => some (.page false false)
  | .home => some (.lineEdge false)
  | .«end» => some (.lineEdge true)
  | _ => (copyModeCommandChar key).elim (controlMotion key) charMotion

/-- The motion a key stands for. -/
def AppState.motionOf (s : AppState) (key : TerminalKey) : Option Motion :=
  match s.copyMode with
  | none => none
  | some cm =>
    match cm.search.prompt with
    | some prompt =>
      if key.code = .enter then some (.submit prompt.query prompt.direction) else none
    | none => keyMotion key

/-- The search prompt is closed. -/
def CopyModeState.closed (cm : CopyModeState) : CopyModeState :=
  { cm with search.prompt := none }

/-- What a motion does. -/
def AppState.apply (s : AppState) (unicode : Unicode) : Motion → AppState
  | .left => s.moveCopyCursor 0 (-1)
  | .right => s.moveCopyCursor 0 1
  | .up => s.moveCopyCursor (-1) 0
  | .down => s.moveCopyCursor 1 0
  | .page up half => s.scrollCopyModePage (if up then -1 else 1) half
  | .historyTop => s.copyModeHistoryTop
  | .historyBottom => s.copyModeHistoryBottom
  | .lineEdge «end» => s.copyModeLineEdge unicode «end»
  | .firstNonBlank => s.copyModeFirstNonBlank unicode
  | .word motion => s.copyModeWordMotion motion
  | .paragraph up => s.copyModeParagraph (if up then -1 else 1)
  | .submit query direction =>
    (s.updateCopyMode CopyModeState.closed).submitCopyModeSearch unicode query direction false
  | .again reverse => s.repeatCopyModeSearch unicode reverse

/-! ## Where they lead -/

namespace Spot

variable (p : CopyPane) (unicode : Unicode) (a : Spot)

def line (up : Bool) : Spot :=
  if up then a.up else a.down p

/-- A step from `a` to `after` ends a paragraph motion at the edge of the history. -/
def AtEdge (up : Bool) (after : Spot) : Prop :=
  (a.row = after.row ∧ a.metrics.offsetFromBottom = after.metrics.offsetFromBottom) ∨
  (up = true ∧ after.row = 0 ∧
    after.metrics.offsetFromBottom = after.metrics.maxOffsetFromBottom) ∨
  (up = false ∧ p.height ≤ after.row + 1 ∧ after.metrics.offsetFromBottom = 0)

instance (up : Bool) (after : Spot) : Decidable (a.AtEdge p up after) :=
  inferInstanceAs (Decidable (_ ∨ _))

/-- The loop of a paragraph motion. -/
def paragraphLoop (up : Bool) : ℕ → Spot → Spot
  | 0, a => a
  | limit + 1, a =>
    let after := a.line p up
    if AppState.isBlankRow (p.rowText after.metrics after.row) then after
    else if a.AtEdge p up after then after
    else paragraphLoop up limit after

/-- The most rows a paragraph motion goes. -/
def paragraphLimit : ℕ :=
  min (max (a.metrics.maxOffsetFromBottom + a.metrics.viewportRows) 1) 1000

def paragraph (up : Bool) : Spot :=
  paragraphLoop p up a.paragraphLimit a

/-- Where the search goes when it is repeated. -/
def againTarget (cm : CopyModeState) (reverse : Bool) : Option TerminalTextPoint :=
  cm.search.direction.bind fun direction =>
    a.searchTarget p unicode cm cm.search.query
      (if reverse then direction.reversed else direction) true

end Spot

/-- The spot a motion leads to. -/
def Motion.spot (p : CopyPane) (unicode : Unicode) (cm : CopyModeState) (a : Spot) : Motion → Spot
  | .left => a.left
  | .right => a.right p
  | .up => a.up
  | .down => a.down p
  | .page true half => a.pageUp (copyModePageLines p.height half)
  | .page false half => a.pageDown p (copyModePageLines p.height half)
  | .historyTop => a.historyTop
  | .historyBottom => a.historyBottom p
  | .lineEdge false => { a with col := 0 }
  | .lineEdge true => a.lineEnd p unicode
  | .firstNonBlank => a.firstNonBlank p unicode
  | .word motion => a.goToTarget p (a.wordTarget p motion) false
  | .paragraph upward => a.paragraph p upward
  | .submit query direction =>
    a.goToTarget p (a.searchTarget p unicode cm.closed query direction false) true
  | .again reverse => a.goToTarget p (a.againTarget p unicode cm reverse) true

namespace Placed

variable {s : AppState} {p : CopyPane} {a : Spot} {cm : CopyModeState} {unicode : Unicode}

theorem moveCopyCursor_line (h : Placed s p a cm) (up : Bool) :
    Placed (s.moveCopyCursor (if up then -1 else 1) 0) p (a.line p up) cm := by
  cases up with
  | true => exact h.moveCopyCursor_up
  | false => exact h.moveCopyCursor_down

theorem copyModeParagraphLoop (up : Bool) (limit : ℕ) : ∀ {s : AppState} {a : Spot},
    Placed s p a cm →
    Placed (AppState.copyModeParagraphLoop p.paneId p.height (if up then -1 else 1) limit s) p
      (Spot.paragraphLoop p up limit a) cm := by
  induction limit with
  | zero => exact fun h => h
  | succ limit ih =>
    intro s a h
    have hafter := h.moveCopyCursor_line up
    have hcursor : s.copyCursor = some (a.row, a.col, cm.selection) := by
      rw [AppState.copyCursor, h.copyMode]
      rfl
    have hcursor' : (s.moveCopyCursor (if up then -1 else 1) 0).copyCursor =
        some ((a.line p up).row, (a.line p up).col, cm.selection) := by
      rw [AppState.copyCursor, hafter.copyMode]
      rfl
    have hcol : (a.line p up).col = a.col := by
      cases up with
      | true => simp only [Spot.line, Spot.up, if_true]; split <;> rfl
      | false => simp only [Spot.line, Spot.down, Bool.false_eq_true, if_false]; split <;> rfl
    rw [AppState.copyModeParagraphLoop, Spot.paragraphLoop, h.paneScrollMetrics]
    simp only [hcursor, hcursor', hafter.copyMode, hafter.visibleRowText, hafter.scrollMetrics,
      hcol]
    rw [show (cm.at (a.line p up)).cursorRow = (a.line p up).row from rfl]
    by_cases hblank : AppState.isBlankRow
        (p.rowText (a.line p up).metrics (a.line p up).row) = true
    · rw [if_pos hblank, if_pos hblank]
      exact hafter
    · rw [if_neg hblank, if_neg hblank]
      by_cases hedge : a.AtEdge p up (a.line p up)
      · rw [if_pos hedge, if_pos]
        · exact hafter
        · cases up <;> simpa [Spot.AtEdge, CopyModeState.at] using hedge
      · rw [if_neg hedge, if_neg]
        · exact ih hafter
        · cases up <;> simpa [Spot.AtEdge, CopyModeState.at] using hedge

theorem copyModeParagraph (h : Placed s p a cm) (up : Bool) :
    Placed (s.copyModeParagraph (if up then -1 else 1)) p (a.paragraph p up) cm := by
  rw [AppState.copyModeParagraph, h.copyMode]
  simp only [h.paneInfo]
  rw [show (cm.at a).paneId = p.paneId from h.paneId, AppState.paragraphLimit, h.paneScrollMetrics]
  exact copyModeParagraphLoop up _ h

theorem updateSearch (h : Placed s p a cm) (f : CopyModeSearchState → CopyModeSearchState) :
    Placed (s.updateCopyMode fun cm => { cm with search := f cm.search }) p a
      { cm with search := f cm.search } :=
  ⟨h.toShown.congr rfl rfl rfl, by rw [AppState.updateCopyMode, h.copyMode]; rfl, h.paneId⟩

theorem repeatCopyModeSearch (h : Placed s p a cm) (reverse : Bool) :
    ∃ search, Placed (s.repeatCopyModeSearch unicode reverse) p
      (a.goToTarget p (a.againTarget p unicode cm reverse) true) { cm with search } ∧
      search.prompt = cm.search.prompt := by
  rw [AppState.repeatCopyModeSearch, h.copyMode, Spot.againTarget]
  simp only [show (cm.at a).search = cm.search from rfl]
  by_cases hquery : cm.search.query.isEmpty = true
  · rw [if_pos hquery]
    refine ⟨cm.search, ?_, rfl⟩
    have hnone : (cm.search.direction.bind fun direction => a.searchTarget p unicode cm
        cm.search.query (if reverse then direction.reversed else direction) true) = none := by
      cases cm.search.direction with
      | none => rfl
      | some direction => simp [Spot.searchTarget, hquery]
    rw [hnone]
    exact h
  · rw [if_neg hquery]
    cases hdirection : cm.search.direction with
    | none => exact ⟨cm.search, h, rfl⟩
    | some direction => exact h.submitCopyModeSearch _ _ true

/-- A motion leads to its spot. Only a search writes more than the cursor, and only Enter closes a
prompt. -/
theorem apply (h : Placed s p a cm) (m : Motion) :
    ∃ search, Placed (s.apply unicode m) p (m.spot p unicode cm a) { cm with search } ∧
      search.prompt = if m.isSubmit then none else cm.search.prompt := by
  cases m with
  | left => exact ⟨_, h.moveCopyCursor_left, rfl⟩
  | right => exact ⟨_, h.moveCopyCursor_right, rfl⟩
  | up => exact ⟨_, h.moveCopyCursor_up, rfl⟩
  | down => exact ⟨_, h.moveCopyCursor_down, rfl⟩
  | page up half =>
    cases up with
    | true => exact ⟨_, h.scrollCopyModePage_up half, rfl⟩
    | false => exact ⟨_, h.scrollCopyModePage_down half, rfl⟩
  | historyTop => exact ⟨_, h.copyModeHistoryTop, rfl⟩
  | historyBottom => exact ⟨_, h.copyModeHistoryBottom, rfl⟩
  | lineEdge «end» =>
    cases «end» with
    | true => exact ⟨_, h.copyModeLineEdge_end, rfl⟩
    | false => exact ⟨_, h.copyModeLineEdge_start, rfl⟩
  | firstNonBlank => exact ⟨_, h.copyModeFirstNonBlank, rfl⟩
  | word motion => exact ⟨_, h.copyModeWordMotion motion, rfl⟩
  | paragraph up => exact ⟨_, h.copyModeParagraph up, rfl⟩
  | submit query direction =>
    have hclosed := h.updateSearch fun search => { search with prompt := none }
    obtain ⟨search, hplaced, hprompt⟩ :=
      @submitCopyModeSearch _ _ _ _ unicode hclosed query direction false
    exact ⟨search, hplaced, hprompt⟩
  | again reverse =>
    obtain ⟨search, hplaced, hprompt⟩ := @repeatCopyModeSearch _ _ _ _ unicode h reverse
    exact ⟨search, hplaced, hprompt⟩

end Placed

/-! ## Keys that are no motions -/

/-- Copy mode is off, and the pane is scrolled to where it was entered. -/
structure Left (s : AppState) (p : CopyPane) (a : Spot) (cm : CopyModeState) : Prop where
  shown : Shown s p (a.metrics.setOffset cm.entryOffsetFromBottom)
  copyMode : s.copyMode = none

/-- What a key that is no motion does : copy mode is left, or the cursor stays. -/
def Rests (s : AppState) (p : CopyPane) (a : Spot) (cm : CopyModeState) : Prop :=
  Left s p a cm ∨
    ∃ cm', Placed s p a cm' ∧ cm'.entryOffsetFromBottom = cm.entryOffsetFromBottom

theorem copySelection_eq (s : AppState) :
    ∃ selection requestClipboardWrite,
      s.copySelection = { s with selection, requestClipboardWrite } := by
  unfold AppState.copySelection
  split
  · exact ⟨s.selection, s.requestClipboardWrite, rfl⟩
  · dsimp only
    split
    · exact ⟨_, _, rfl⟩
    · split
      · exact ⟨_, _, rfl⟩
      · split
        · exact ⟨_, _, rfl⟩
        · split
          · exact ⟨_, _, rfl⟩
          · exact ⟨_, _, rfl⟩

namespace Placed

variable {s : AppState} {p : CopyPane} {a : Spot} {cm : CopyModeState} {unicode : Unicode}

theorem rests (h : Placed s p a cm) : Rests s p a cm :=
  Or.inr ⟨cm, h, rfl⟩

/-- Leaving copy mode restores the scroll position. -/
theorem exitCopyMode (h : Placed s p a cm) (copy : Bool) : Left (s.exitCopyMode copy) p a cm := by
  have hselection : ∃ selection requestClipboardWrite,
      (if copy then s.copySelection else s.clearSelection) =
        { s with selection, requestClipboardWrite } := by
    cases copy with
    | true => exact copySelection_eq s
    | false => exact ⟨_, _, rfl⟩
  obtain ⟨selection, requestClipboardWrite, hselection⟩ := hselection
  have hshown : Shown (if copy then s.copySelection else s.clearSelection) p a.metrics := by
    rw [hselection]
    exact h.toShown.congr rfl rfl rfl
  have hscrolled := hshown.setPaneScrollOffset cm.entryOffsetFromBottom
  rw [← h.paneId] at hscrolled
  rw [AppState.exitCopyMode, h.copyMode]
  exact ⟨hscrolled.congr rfl rfl rfl, rfl⟩

theorem beginCopyModeSelection (h : Placed s p a cm) : Rests s.beginCopyModeSelection p a cm := by
  rw [AppState.beginCopyModeSelection, h.copyMode]
  simp only [h.paneInfo]
  split
  · exact h.rests
  · exact Or.inr ⟨{ cm with selection := some .character },
      ⟨h.toShown.congr rfl rfl rfl, rfl, h.paneId⟩, rfl⟩

theorem selectCopyModeLine (h : Placed s p a cm) : Rests s.selectCopyModeLine p a cm := by
  rw [AppState.selectCopyModeLine, h.copyMode]
  simp only [h.paneInfo]
  exact Or.inr ⟨{ cm with selection := some (.linewise _) },
    ⟨h.toShown.congr rfl rfl rfl, rfl, h.paneId⟩, rfl⟩

theorem openCopyModeSearch (h : Placed s p a cm) (direction : CopyModeSearchDirection) :
    Rests (s.openCopyModeSearch direction) p a cm :=
  Or.inr ⟨_, h.updateSearch fun search => { search with prompt := some { direction, query := [] } },
    rfl⟩

theorem escapeCopyMode (h : Placed s p a cm) : Rests s.escapeCopyMode p a cm := by
  rw [AppState.escapeCopyMode]
  split
  · refine Or.inr ⟨{ cm with selection := none, search := { geometry := cm.search.geometry } },
      ⟨h.toShown.congr rfl rfl rfl, ?_, h.paneId⟩, rfl⟩
    simp [AppState.updateCopyMode, AppState.clearCopyModeSelection, AppState.clearSelection,
      h.copyMode, CopyModeState.at]
  · exact Or.inl (h.exitCopyMode false)

/-- A command is its motion, or no motion. -/
theorem copyModeCommand (h : Placed s p a cm) (ch : Char) :
    (∃ m, charMotion ch = some m ∧ s.copyModeCommand unicode ch = s.apply unicode m) ∨
      (charMotion ch = none ∧ Rests (s.copyModeCommand unicode ch) p a cm) := by
  unfold AppState.copyModeCommand
  split
  · exact Or.inr ⟨rfl, Or.inl (h.exitCopyMode false)⟩
  · exact Or.inr ⟨rfl, Or.inl (h.exitCopyMode true)⟩
  · exact Or.inr ⟨rfl, h.beginCopyModeSelection⟩
  · exact Or.inr ⟨rfl, h.beginCopyModeSelection⟩
  · exact Or.inr ⟨rfl, h.selectCopyModeLine⟩
  · exact Or.inl ⟨_, rfl, rfl⟩
  · exact Or.inl ⟨_, rfl, rfl⟩
  · exact Or.inl ⟨_, rfl, rfl⟩
  · exact Or.inl ⟨_, rfl, rfl⟩
  · exact Or.inl ⟨_, rfl, rfl⟩
  · exact Or.inl ⟨_, rfl, rfl⟩
  · exact Or.inl ⟨_, rfl, rfl⟩
  · exact Or.inl ⟨_, rfl, rfl⟩
  · exact Or.inl ⟨_, rfl, rfl⟩
  · exact Or.inr ⟨rfl, h.openCopyModeSearch _⟩
  · exact Or.inr ⟨rfl, h.openCopyModeSearch _⟩
  all_goals try exact Or.inl ⟨_, rfl, rfl⟩
  refine Or.inr ⟨?_, h.rests⟩
  unfold charMotion
  split <;> first | rfl | simp_all

theorem control_of_copyModeCommandChar {key : TerminalKey} {ch : Char}
    (h : copyModeCommandChar key = some ch) : key.modifiers.control = false := by
  unfold copyModeCommandChar at h
  split at h
  · exact absurd h (by simp)
  · next hshift =>
    have hplain : key.modifiers.withoutShift = {} := not_not.mp hshift
    exact congrArg KeyModifiers.control hplain

theorem controlCopyMode (h : Placed s p a cm) (key : TerminalKey) :
    (∃ m, controlMotion key = some m ∧ s.controlCopyMode key = s.apply unicode m) ∨
      (controlMotion key = none ∧ Rests (s.controlCopyMode key) p a cm) := by
  unfold AppState.controlCopyMode controlMotion
  by_cases hcontrol : key.modifiers.control = true
  · rw [if_pos hcontrol, if_pos hcontrol]
    generalize key.code = code
    split
    · exact Or.inl ⟨_, rfl, rfl⟩
    · exact Or.inl ⟨_, rfl, rfl⟩
    · exact Or.inl ⟨_, rfl, rfl⟩
    · exact Or.inl ⟨_, rfl, rfl⟩
    · next hb hf hu hd =>
      refine Or.inr ⟨rfl, ?_⟩
      -- the keys of the source are those of the motions, whether the two matches are one or not
      first
        | exact h.rests
        | split
          · exact absurd rfl hb
          · exact absurd rfl hf
          · exact absurd rfl hu
          · exact absurd rfl hd
          · exact h.rests
  · rw [if_neg hcontrol, if_neg hcontrol]
    exact Or.inr ⟨rfl, h.rests⟩

/-- A key of the prompt edits it, closes it, or searches. -/
theorem promptKey (h : Placed s p a cm) {prompt : CopyModeSearchPrompt}
    (hprompt : cm.search.prompt = some prompt) (key : TerminalKey) :
    ∃ s', s.handleCopyModeSearchPromptKey unicode key = some s' ∧
      ((∃ m, s.motionOf key = some m ∧ s' = s.apply unicode m) ∨
        (s.motionOf key = none ∧ Rests s' p a cm)) := by
  have hwith (prompt' : Option CopyModeSearchPrompt) :
      Rests { s with copyMode := some { cm.at a with search.prompt := prompt' } } p a cm :=
    Or.inr ⟨{ cm with search.prompt := prompt' }, ⟨h.toShown.congr rfl rfl rfl, rfl, h.paneId⟩, rfl⟩
  have hopen : (cm.at a).search.prompt = some prompt := hprompt
  rw [AppState.handleCopyModeSearchPromptKey, AppState.motionOf, h.copyMode]
  simp only [hopen]
  cases hcode : key.code
  case enter =>
    refine ⟨_, rfl, Or.inl ⟨_, if_pos rfl, ?_⟩⟩
    rw [AppState.apply, AppState.updateCopyMode, h.copyMode]
    rfl
  case esc => exact ⟨_, rfl, Or.inr ⟨if_neg (by simp), hwith _⟩⟩
  case backspace => exact ⟨_, rfl, Or.inr ⟨if_neg (by simp), hwith _⟩⟩
  all_goals
    dsimp only
    split
    · exact ⟨_, rfl, Or.inr ⟨if_neg (by simp), hwith _⟩⟩
    · split
      · exact ⟨_, rfl, Or.inr ⟨if_neg (by simp), h.rests⟩⟩
      · exact ⟨_, rfl, Or.inr ⟨if_neg (by simp), hwith _⟩⟩

/-- A key of copy mode is its motion, leaves copy mode, or moves nothing. -/
theorem handleCopyModeKey (h : Placed s p a cm) (key : TerminalKey) :
    (∃ m, s.motionOf key = some m ∧ s.handleCopyModeKey unicode key = s.apply unicode m) ∨
      (s.motionOf key = none ∧ Rests (s.handleCopyModeKey unicode key) p a cm) := by
  rw [AppState.handleCopyModeKey]
  cases hprompt : cm.search.prompt with
  | some prompt =>
    obtain ⟨s', hs', hcases⟩ := @promptKey _ _ _ _ unicode h prompt hprompt key
    rw [hs']
    exact hcases
  | none =>
    have hnone : s.handleCopyModeSearchPromptKey unicode key = none := by
      rw [AppState.handleCopyModeSearchPromptKey, h.copyMode]
      simp only [show (cm.at a).search.prompt = none from hprompt]
    have hmotion : s.motionOf key = keyMotion key := by
      rw [AppState.motionOf, h.copyMode]
      simp only [show (cm.at a).search.prompt = none from hprompt]
    -- A key without a code of its own is a character, with Control or without.
    have hchar : (∃ m, (copyModeCommandChar key).elim (controlMotion key) charMotion = some m ∧
          (copyModeCommandChar key).elim (s.controlCopyMode key)
            ((s.controlCopyMode key).copyModeCommand unicode) = s.apply unicode m) ∨
        ((copyModeCommandChar key).elim (controlMotion key) charMotion = none ∧
          Rests ((copyModeCommandChar key).elim (s.controlCopyMode key)
            ((s.controlCopyMode key).copyModeCommand unicode)) p a cm) := by
      cases hch : copyModeCommandChar key with
      | none => exact h.controlCopyMode key
      | some ch =>
        have hcontrol : s.controlCopyMode key = s := by
          rw [AppState.controlCopyMode, control_of_copyModeCommandChar hch]
          rfl
        simp only [hcontrol]
        exact h.copyModeCommand ch
    rw [hnone, hmotion, keyMotion]
    cases hcode : key.code
    case esc => exact Or.inr ⟨rfl, h.escapeCopyMode⟩
    case enter => exact Or.inr ⟨rfl, Or.inl (h.exitCopyMode true)⟩
    case left => exact Or.inl ⟨_, rfl, rfl⟩
    case right => exact Or.inl ⟨_, rfl, rfl⟩
    case up => exact Or.inl ⟨_, rfl, rfl⟩
    case down => exact Or.inl ⟨_, rfl, rfl⟩
    case pageUp => exact Or.inl ⟨_, rfl, rfl⟩
    case pageDown => exact Or.inl ⟨_, rfl, rfl⟩
    case home => exact Or.inl ⟨_, rfl, rfl⟩
    case «end» => exact Or.inl ⟨_, rfl, rfl⟩
    all_goals
      cases hch : copyModeCommandChar key with
      | none =>
        rw [hch] at hchar
        exact hchar
      | some ch =>
        rw [hch] at hchar
        exact hchar

theorem isSubmit_of_charMotion {ch : Char} {m : Motion} (h : charMotion ch = some m) :
    m.isSubmit = false := by
  unfold charMotion at h
  split at h <;> cases h <;> rfl

theorem isSubmit_of_keyMotion {key : TerminalKey} {m : Motion} (h : keyMotion key = some m) :
    m.isSubmit = false := by
  have hchar (h : (copyModeCommandChar key).elim (controlMotion key) charMotion = some m) :
      m.isSubmit = false := by
    cases hch : copyModeCommandChar key with
    | none =>
      rw [hch, Option.elim_none, controlMotion] at h
      split at h
      · split at h <;> cases h <;> rfl
      · cases h
    | some ch =>
      rw [hch, Option.elim_some] at h
      exact isSubmit_of_charMotion h
  rw [keyMotion] at h
  cases hcode : key.code <;> rw [hcode] at h <;> first | exact hchar h | (cases h; rfl) | cases h

/-- Under an open prompt the one motion is to submit it. -/
theorem prompt_of_motionOf (h : Placed s p a cm) {key : TerminalKey} {m : Motion}
    (hm : s.motionOf key = some m) : m.isSubmit = !cm.search.prompt.isNone := by
  rw [AppState.motionOf, h.copyMode] at hm
  simp only [show (cm.at a).search = cm.search from rfl] at hm
  cases hprompt : cm.search.prompt with
  | some prompt =>
    rw [hprompt] at hm
    obtain ⟨-, hm⟩ := Option.ite_none_right_eq_some.mp hm
    rw [← Option.some.inj hm]
    rfl
  | none =>
    rw [hprompt] at hm
    exact isSubmit_of_keyMotion hm

end Placed

end CopyMode

end Zynk
