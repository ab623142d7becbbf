import Zynk.Copy.Keys

/-!
# Runs of copy mode

Copy mode is entered in the focused pane (`Enters`). A run is a list of events : keys, scrolls of
the pane, and changes of its size, after each of which the geometry of the search is synchronised.
`EveryStep P` says that each event of a run happens in a state that `P` allows.
-/

namespace Zynk

namespace CopyMode

/-! ## Events -/

inductive Event where
  | press (key : TerminalKey)
  /-- The wheel or the scrollbar. -/
  | scroll (offsetFromBottom : ℕ)
  /-- The pane gets another size, and its terminal another layout of its text. -/
  | resize (innerRect : Rect) (metrics : ScrollMetrics) (content : TerminalContent)

/-- The size of the pane does not change. -/
def Event.KeepsSize : Event → Prop
  | press _ => True
  | scroll _ => True
  | resize _ _ _ => False

/-- The pane has some cells. -/
def Event.Nonempty : Event → Prop
  | press _ => True
  | scroll _ => True
  | resize innerRect _ _ => 0 < innerRect.width ∧ 0 < innerRect.height

namespace AppState

variable (s : AppState)

/-- The motion a pressed key stands for. -/
def pressMotion (key : TerminalKey) : Option Motion :=
  if key.kind = .release then none
  else if Config.terminalKeyMatchesCombo key s.prefixKey then none
  else s.motionOf key

/-- The pane and its terminal after a change of its size. -/
def resizePane (paneId : PaneId) (innerRect : Rect) (metrics : ScrollMetrics)
    (content : TerminalContent) : AppState :=
  { s with
    paneInfos := s.paneInfos.map fun info =>
      if info.id = paneId then { info with innerRect } else info
    workspaces := s.workspaces.map fun ws =>
      { ws with
        runtimes := Function.update ws.runtimes paneId
          ((ws.runtimes paneId).map fun _ => { scrollMetrics := some metrics, content }) } }

/-- A key goes to copy mode as long as it is on. -/
def step (unicode : Unicode) (paneId : PaneId) : Event → AppState
  | .press key => if s.copyMode.isSome then s.pressKey unicode key else s
  | .scroll offsetFromBottom => s.setPaneScrollOffset paneId offsetFromBottom
  | .resize innerRect metrics content =>
    (s.resizePane paneId innerRect metrics content).syncCopyModeSearchGeometry

def run (unicode : Unicode) (paneId : PaneId) (events : List Event) : AppState :=
  events.foldl (fun s e => s.step unicode paneId e) s

/-- The cursor of copy mode is inside its pane. -/
def CursorInPane : Prop :=
  ∀ cm, s.copyMode = some cm → ∃ info, s.paneInfoById cm.paneId = some info ∧
    cm.cursorRow < info.innerRect.height ∧ cm.cursorCol < info.innerRect.width

end AppState

/-- Each event of a run happens in a state that `P` allows. -/
def EveryStep (unicode : Unicode) (paneId : PaneId) (P : AppState → Event → Prop) :
    AppState → List Event → Prop
  | _, [] => True
  | s, e :: events => P s e ∧ EveryStep unicode paneId P (s.step unicode paneId e) events

/-! ## Entering -/

/-- The focused pane is shown, and has some cells. -/
structure Enters (s : AppState) (p : CopyPane) (metrics : ScrollMetrics) : Prop
    extends Shown s p metrics where
  focused : (s.workspaces[p.wsIdx]?).bind Workspace.focusedPaneId = some p.paneId
  width_pos : 0 < p.width
  height_pos : 0 < p.height

/-- The cursor is inside the pane. -/
structure Spot.Inside (p : CopyPane) (a : Spot) : Prop where
  row_lt : a.row < p.height
  col_lt : a.col < p.width

theorem Enters.enterCopyMode {s : AppState} {p : CopyPane} {metrics : ScrollMetrics}
    (h : Enters s p metrics) : ∃ row col cm, Placed s.enterCopyMode p { metrics, row, col } cm ∧
      Spot.Inside p { metrics, row, col } ∧
      cm.entryOffsetFromBottom = metrics.offsetFromBottom := by
  have hwidth : p.info.innerRect.width ≠ 0 := (show 0 < p.info.innerRect.width from h.width_pos).ne'
  have hheight : p.info.innerRect.height ≠ 0 :=
    (show 0 < p.info.innerRect.height from h.height_pos).ne'
  rw [AppState.enterCopyMode, h.active]
  simp only [h.focused, h.info, hwidth, hheight, or_self, if_false]
  rw [h.paneScrollMetrics]
  let cm : CopyModeState :=
    { paneId := p.paneId
      cursorRow := 0
      cursorCol := 0
      entryOffsetFromBottom := metrics.offsetFromBottom
      selection := none
      search := { geometry := some (p.info.innerRect.width, p.info.innerRect.height) } }
  refine ⟨_, _, cm, ⟨h.toShown.congr rfl rfl rfl, rfl, rfl⟩, ⟨?_, ?_⟩, rfl⟩
  · simp only [CopyPane.height]
    omega
  · simp only [CopyPane.width]
    omega

/-! ## Steps -/

namespace Placed

variable {s : AppState} {p : CopyPane} {a : Spot} {cm : CopyModeState} {unicode : Unicode}

theorem cursorInPane_iff (h : Placed s p a cm) : s.CursorInPane ↔ a.Inside p := by
  constructor
  · intro hin
    obtain ⟨info, hinfo, hrow, hcol⟩ := hin _ h.copyMode
    rw [h.paneInfo, Option.some_inj] at hinfo
    rw [← hinfo] at hrow hcol
    exact ⟨hrow, hcol⟩
  · intro hin cm' hcm'
    rw [h.copyMode, Option.some_inj] at hcm'
    rw [← hcm']
    exact ⟨p.info, h.paneInfo, hin.row_lt, hin.col_lt⟩

theorem pressKey (h : Placed s p a cm) (key : TerminalKey) :
    (∃ m search, s.pressMotion key = some m ∧
        Placed (s.pressKey unicode key) p (m.spot p unicode cm a) { cm with search } ∧
        search.prompt = none ∧ s.pressKey unicode key = s.apply unicode m) ∨
      (s.pressMotion key = none ∧ Rests (s.pressKey unicode key) p a cm) := by
  rw [AppState.pressKey, AppState.pressMotion]
  by_cases hrelease : key.kind = .release
  · rw [if_pos hrelease, if_pos hrelease]
    exact Or.inr ⟨rfl, h.rests⟩
  · rw [if_neg hrelease, if_neg hrelease]
    by_cases hserves : Config.terminalKeyMatchesCombo key s.prefixKey = true
    · rw [if_pos hserves, if_pos hserves]
      exact Or.inr ⟨rfl, Or.inr ⟨cm, ⟨h.toShown.congr rfl rfl rfl, h.copyMode, h.paneId⟩, rfl⟩⟩
    · rw [if_neg hserves, if_neg hserves]
      rcases @handleCopyModeKey _ _ _ _ unicode h key with ⟨m, hm, hkey⟩ | hrest
      · obtain ⟨search, hplaced, hprompt⟩ := @apply _ _ _ _ unicode h m
        refine Or.inl ⟨m, search, hm, hkey ▸ hplaced, ?_, hkey⟩
        rw [hprompt, h.prompt_of_motionOf hm]
        cases cm.search.prompt <;> rfl
      · exact Or.inr hrest

end Placed

end CopyMode

end Zynk
