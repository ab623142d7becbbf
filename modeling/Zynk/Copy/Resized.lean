import Zynk.Copy.Landing

/-!
# The copy cursor when the pane changes its size

A change of the pane's size leaves the cursor where it is, and a motion clamps only the coordinate
it moves, in the direction it moves it. So a coordinate that the new size has left outside stays
outside until a motion takes it back : `Motion.Regains` says for each motion from which cursors it
ends inside the pane. In a run with any changes of size the cursor is inside the pane after every
motion, and a selection can be started there, exactly when every motion starts from such a cursor
(`inside_after_motions_iff`).
-/

namespace Zynk

namespace CopyMode

open Text

/-! ## Which motions take the cursor back -/

/-- What a motion needs of the cursor, the pane and the terminal to end inside the pane. -/
def Motion.Regains (unicode : Unicode) (width height : ℕ) (a : Spot) (text : Option Text)
    (target : Option TerminalTextPoint) : Motion → Prop
  | .left => a.row < height ∧ a.col < width + 1
  | .right => a.row < height
  | .up => a.row < height + 1 ∧ a.col < width
  | .down => a.col < width
  | .page true half => a.row < height + a.pageCarry (copyModePageLines height half) ∧ a.col < width
  | .page false half =>
    (a.metrics.offsetFromBottom < copyModePageLines height half ∨ a.row < height) ∧ a.col < width
  | .historyTop | .historyBottom => a.col < width
  | .lineEdge false => a.row < height
  | .lineEdge true => a.row < height ∧ (text.isSome ∨ a.col < width)
  | .firstNonBlank =>
    a.row < height ∧ text.elim (a.col < width) fun text => LeadingFits unicode text width
  | .paragraph true => a.row < height + a.paragraphLimit ∧ a.col < width
  | .paragraph false => a.col < width
  | .word _ | .submit _ _ | .again _ => target.isSome ∨ (a.row < height ∧ a.col < width)

/-- The state is one from which the motion ends inside the pane. -/
def AppState.Regains (s : AppState) (unicode : Unicode) (m : Motion) : Prop :=
  ∀ cm info metrics, s.copyMode = some cm → s.paneInfoById cm.paneId = some info →
    s.paneScrollMetrics cm.paneId = some metrics →
    m.Regains unicode info.innerRect.width info.innerRect.height
      { metrics, row := cm.cursorRow, col := cm.cursorCol }
      (s.copyModeVisibleRowText cm.cursorRow) (s.motionTarget unicode m)

/-- The key `v` starts a selection at the cursor. -/
def AppState.StartsSelection (s : AppState) (unicode : Unicode) : Prop :=
  ∀ cm, s.copyMode = some cm → s.handleCopyModeKey unicode (.new (.char 'v') {}) =
    { s with
      selection := some (.anchorAt cm.paneId cm.cursorRow cm.cursorCol
        (s.paneScrollMetrics cm.paneId))
      copyMode := some { cm with selection := some .character } }

namespace Spot

variable {p : CopyPane} {a : Spot} {unicode : Unicode}

theorem inside_iff : a.Inside p ↔ a.row < p.height ∧ a.col < p.width :=
  ⟨fun h => ⟨h.row_lt, h.col_lt⟩, fun h => ⟨h.1, h.2⟩⟩

/-- A row out of the pane has no text. -/
theorem not_isBlankRow (metrics : ScrollMetrics) {row : ℕ} (hrow : p.height ≤ row) :
    ¬ AppState.isBlankRow (p.rowText metrics row) = true := by
  rw [CopyPane.rowText, if_pos (Or.inl hrow)]
  simp [AppState.isBlankRow]

/-- Going up a stale cursor is taken back a row at a time. -/
theorem paragraphLoop_up_row_lt_iff (hheight : 0 < p.height) (limit : ℕ) : ∀ a : Spot,
    (paragraphLoop p true limit a).row < p.height ↔ a.row < p.height + limit := by
  induction limit with
  | zero => exact fun _ => Iff.rfl
  | succ limit ih =>
    intro a
    have hup : (a.line p true).row = a.row - 1 := by
      rw [line, if_pos rfl, Spot.up]
      split
      · rfl
      · show 0 = a.row - 1
        omega
    rw [paragraphLoop]
    rcases Nat.lt_or_ge (a.line p true).row p.height with hin | hout
    · refine iff_of_true ?_ (by omega)
      split
      · exact hin
      · split
        · exact hin
        · rw [ih]
          omega
    · have hedge : ¬ a.AtEdge p true (a.line p true) := by
        simp only [AtEdge, Bool.true_eq_false, false_and, or_false]
        omega
      rw [if_neg (not_isBlankRow _ hout), if_neg hedge, ih]
      omega

theorem down_row_lt (hheight : 0 < p.height) (a : Spot) : (a.down p).row < p.height := by
  rw [Spot.down]
  split
  · next hin =>
    have hle := (saturatingAdd16_one_le (by have := height_le p; omega)).mp hin
    show a.row + 1 < p.height
    omega
  · exact Nat.sub_lt hheight Nat.one_pos

/-- Going down a stale cursor is taken back at once. -/
theorem paragraphLoop_down_row_lt (hheight : 0 < p.height) (limit : ℕ) : ∀ a : Spot,
    (paragraphLoop p false (limit + 1) a).row < p.height := by
  induction limit with
  | zero =>
    intro a
    have hdown : (a.line p false).row < p.height := down_row_lt hheight a
    rw [paragraphLoop]
    split
    · exact hdown
    · split <;> exact hdown
  | succ limit ih =>
    intro a
    have hdown : (a.line p false).row < p.height := down_row_lt hheight a
    rw [paragraphLoop]
    split
    · exact hdown
    · split
      · exact hdown
      · exact ih _

theorem goToTarget_inside_iff (hwidth : 0 < p.width) (hheight : 0 < p.height)
    (target : Option TerminalTextPoint) (reserveOverlayRow : Bool) :
    (a.goToTarget p target reserveOverlayRow).Inside p ↔
      target.isSome ∨ (a.row < p.height ∧ a.col < p.width) := by
  cases target with
  | none => simp [goToTarget, inside_iff]
  | some target =>
    refine iff_of_true ⟨?_, ?_⟩ (Or.inl rfl)
    · simp only [goToTarget, goTo]
      omega
    · simp only [goToTarget, goTo]
      omega

end Spot

namespace Placed

variable {s : AppState} {p : CopyPane} {a : Spot} {cm : CopyModeState} {unicode : Unicode}

/-- Where a motion ends inside the pane, for any cursor it starts from. -/
theorem spot_inside_iff (h : Placed s p a cm) (hwidth : 0 < p.width) (hheight : 0 < p.height)
    (m : Motion) : (m.spot p unicode cm a).Inside p ↔
      m.Regains unicode p.width p.height a (p.rowText a.metrics a.row)
        (s.motionTarget unicode m) := by
  have hle := Spot.width_le p
  rw [Spot.inside_iff]
  cases m with
  | left =>
    simp only [Motion.spot, Spot.left, Motion.Regains]
    omega
  | right =>
    simp only [Motion.spot, Spot.right, Motion.Regains]
    omega
  | up =>
    have hcol : a.up.col = a.col := Spot.col_line (p := p) a true
    have hrow : a.up.row = a.row - 1 := by
      rw [Spot.up]
      split
      · rfl
      · show 0 = a.row - 1
        omega
    simp only [Motion.spot, hcol, hrow, Motion.Regains]
    omega
  | down =>
    have hcol : (a.down p).col = a.col := Spot.col_line (p := p) a false
    have hrow := Spot.down_row_lt hheight a
    simp only [Motion.spot, hcol, hrow, Motion.Regains, true_and]
  | page up half =>
    cases up with
    | true =>
      simp only [Motion.spot, Spot.pageUp, Motion.Regains]
      omega
    | false =>
      simp only [Motion.spot, Spot.pageDown, Motion.Regains]
      split <;> omega
  | historyTop =>
    simp only [Motion.spot, Spot.historyTop, Motion.Regains]
    omega
  | historyBottom =>
    simp only [Motion.spot, Spot.historyBottom, Motion.Regains]
    omega
  | lineEdge «end» =>
    cases «end» with
    | false =>
      simp only [Motion.spot, Motion.Regains]
      omega
    | true =>
      simp only [Motion.spot, Spot.lineEnd, Motion.Regains]
      cases p.rowText a.metrics a.row with
      | none => simp
      | some text =>
        simp only [Option.isSome_some, true_or, and_true]
        omega
  | firstNonBlank =>
    simp only [Motion.spot, Spot.firstNonBlank, Motion.Regains]
    cases p.rowText a.metrics a.row with
    | none => rfl
    | some text => simp only [firstNonBlankCol_lt_iff hwidth hle, Option.elim_some]
  | word motion =>
    rw [h.motionTarget_word, ← Spot.inside_iff]
    exact Spot.goToTarget_inside_iff hwidth hheight _ _
  | paragraph up =>
    have hcol : (a.paragraph p up).col = a.col := Spot.col_paragraphLoop up _ a
    simp only [Motion.spot, hcol]
    cases up with
    | true =>
      rw [Spot.paragraph, Spot.paragraphLoop_up_row_lt_iff hheight]
      rfl
    | false =>
      have hpos : 0 < a.paragraphLimit := by
        rw [Spot.paragraphLimit]
        omega
      obtain ⟨limit, hlimit⟩ : ∃ limit, a.paragraphLimit = limit + 1 :=
        ⟨a.paragraphLimit - 1, by omega⟩
      rw [Spot.paragraph, hlimit]
      exact and_iff_right (Spot.paragraphLoop_down_row_lt hheight limit a)
  | submit query direction =>
    rw [h.motionTarget_submit, ← Spot.inside_iff]
    exact Spot.goToTarget_inside_iff hwidth hheight _ _
  | again reverse =>
    rw [h.motionTarget_again, ← Spot.inside_iff]
    exact Spot.goToTarget_inside_iff hwidth hheight _ _

theorem regains_iff (h : Placed s p a cm) (m : Motion) : s.Regains unicode m ↔
    m.Regains unicode p.width p.height a (p.rowText a.metrics a.row)
      (s.motionTarget unicode m) := by
  constructor
  · intro hregains
    have hspot := hregains _ _ _ h.copyMode h.paneInfo h.scrollMetrics
    rw [h.visibleRowText] at hspot
    exact hspot
  · intro hregains cm' info metrics hcm hinfo hmetrics
    rw [h.copyMode, Option.some_inj] at hcm
    rw [← hcm, h.paneInfo, Option.some_inj] at hinfo
    rw [← hcm, h.scrollMetrics, Option.some_inj] at hmetrics
    rw [← hcm, ← hinfo, ← hmetrics, h.visibleRowText]
    exact hregains

/-- Inside the pane, and with no prompt open, `v` starts a selection. -/
theorem startsSelection (h : Placed s p a cm) (hin : a.Inside p)
    (hprompt : cm.search.prompt = none) : s.StartsSelection unicode := by
  intro cm' hcm
  rw [h.copyMode, Option.some_inj] at hcm
  have hnone : s.handleCopyModeSearchPromptKey unicode (.new (.char 'v') {}) = none := by
    rw [AppState.handleCopyModeSearchPromptKey, h.copyMode]
    simp only [show (cm.at a).search.prompt = none from hprompt]
  have hkey : s.handleCopyModeKey unicode (.new (.char 'v') {}) = s.beginCopyModeSelection := by
    rw [AppState.handleCopyModeKey, hnone]
    rfl
  have hrow : ¬ (p.info.innerRect.height ≤ (cm.at a).cursorRow ∨
      p.info.innerRect.width ≤ (cm.at a).cursorCol) := by
    have hrow := hin.row_lt
    have hcol := hin.col_lt
    simp only [CopyPane.height, CopyPane.width] at hrow hcol
    simp only [CopyModeState.at]
    omega
  rw [hkey, AppState.beginCopyModeSelection, h.copyMode, ← hcm]
  simp only [h.paneInfo, if_neg hrow]

end Placed

/-! ## Runs with changes of the size -/

/-- The pane after a change of its size. -/
def CopyPane.resized (p : CopyPane) (innerRect : Rect) (content : TerminalContent) : CopyPane :=
  { p with info := { p.info with innerRect }, content }

section Runs

variable {s : AppState} {p : CopyPane} {a : Spot} {cm : CopyModeState} {unicode : Unicode}
  {metrics : ScrollMetrics}

theorem Shown.resizePane (h : Shown s p metrics) (innerRect : Rect) (metrics' : ScrollMetrics)
    (content : TerminalContent) :
    Shown (s.resizePane p.paneId innerRect metrics' content) (p.resized innerRect content)
      metrics' where
  active := h.active
  runtime := by
    have hruntime := h.runtime
    rw [AppState.runtimeForPaneInWorkspace] at hruntime ⊢
    obtain ⟨ws, hws, hrt⟩ := Option.bind_eq_some_iff.mp hruntime
    rw [AppState.resizePane, List.getElem?_map]
    simp only [CopyPane.resized, hws, Option.map_some, Option.bind_some, Function.update_self, hrt]
  only i hi := by
    refine h.only i ?_
    rw [AppState.runtimeForPaneInWorkspace, AppState.resizePane, List.getElem?_map] at hi
    rw [AppState.runtimeForPaneInWorkspace]
    cases hws : s.workspaces[i]? with
    | none => simp [hws] at hi
    | some ws => simpa [hws, CopyPane.resized] using hi
  info := by
    have hinfo := h.info
    rw [AppState.paneInfoById] at hinfo
    have hid : p.info.id = p.paneId := by simpa using List.find?_some hinfo
    have hsame : ((fun info : PaneInfo => decide (info.id = p.paneId)) ∘ fun info =>
        if info.id = p.paneId then { info with innerRect } else info) =
        fun info => decide (info.id = p.paneId) := by
      funext info
      by_cases hinfo : info.id = p.paneId <;> simp [hinfo]
    change (s.paneInfos.map fun info =>
      if info.id = p.paneId then { info with innerRect } else info).find?
        (fun info => decide (info.id = p.paneId)) = some { p.info with innerRect }
    rw [List.find?_map, hsame, hinfo, Option.map_some, if_pos hid]

/-- A change of the size leaves the cursor where it is. -/
theorem Placed.resize (h : Placed s p a cm) (innerRect : Rect) (metrics' : ScrollMetrics)
    (content : TerminalContent) :
    ∃ search, Placed (s.step unicode p.paneId (.resize innerRect metrics' content))
      (p.resized innerRect content) { a with metrics := metrics' } { cm with search } := by
  have hshown := h.toShown.resizePane innerRect metrics' content
  have hcopy : (s.resizePane p.paneId innerRect metrics' content).copyMode = some (cm.at a) :=
    h.copyMode
  have hinfo := hshown.info
  rw [show (p.resized innerRect content).paneId = (cm.at a).paneId from h.paneId.symm] at hinfo
  rw [AppState.step, AppState.syncCopyModeSearchGeometry, hcopy]
  simp only [hinfo]
  exact ⟨_, hshown.congr rfl rfl rfl, rfl, h.paneId⟩

/-- Copy mode is on in a pane with some cells, or has been left. -/
def Live (paneId : PaneId) (s : AppState) : Prop :=
  (∃ p a cm, Placed s p a cm ∧ p.paneId = paneId ∧ 0 < p.width ∧ 0 < p.height) ∨
    s.copyMode = none

theorem copyMode_setPaneScrollOffset (s : AppState) (paneId : PaneId) (n : ℕ) :
    (s.setPaneScrollOffset paneId n).copyMode = s.copyMode := by
  rw [AppState.setPaneScrollOffset]
  split <;> rfl

theorem Live.step {paneId : PaneId} (h : Live paneId s) {e : Event} (he : e.Nonempty) :
    Live paneId (s.step unicode paneId e) := by
  rcases h with ⟨p, a, cm, hplaced, rfl, hwidth, hheight⟩ | hnone
  · cases e with
    | press key =>
      rw [AppState.step, hplaced.copyMode, if_pos Option.isSome_some]
      rcases @Placed.pressKey _ _ _ _ unicode hplaced key with
        ⟨m, search, -, hmoved, -, -⟩ | ⟨-, hleft | ⟨cm', hplaced', -⟩⟩
      · exact Or.inl ⟨p, _, _, hmoved, rfl, hwidth, hheight⟩
      · exact Or.inr hleft.copyMode
      · exact Or.inl ⟨p, a, cm', hplaced', rfl, hwidth, hheight⟩
    | scroll n =>
      have hscrolled := hplaced.setPaneScrollOffset n
      rw [show (cm.at a).paneId = p.paneId from hplaced.paneId] at hscrolled
      exact Or.inl ⟨p, _, cm, hscrolled, rfl, hwidth, hheight⟩
    | resize innerRect metrics content =>
      obtain ⟨search, hresized⟩ := @Placed.resize _ _ _ _ unicode hplaced innerRect metrics content
      exact Or.inl ⟨_, _, _, hresized, rfl, he⟩
  · refine Or.inr ?_
    cases e with
    | press key =>
      rw [AppState.step, hnone]
      exact hnone
    | scroll n => exact (copyMode_setPaneScrollOffset s paneId n).trans hnone
    | resize innerRect metrics content =>
      have hcopy : (s.resizePane paneId innerRect metrics content).copyMode = none := hnone
      rw [AppState.step, AppState.syncCopyModeSearchGeometry, hcopy]
      exact hcopy

/-- After a motion the cursor is inside the pane, and `v` starts a selection there. -/
def SelectableAfterMotion (unicode : Unicode) (paneId : PaneId) (s : AppState) (e : Event) :
    Prop :=
  ∀ key m, e = .press key → s.pressMotion key = some m →
    (s.step unicode paneId e).CursorInPane ∧ (s.step unicode paneId e).StartsSelection unicode

/-- A motion starts from a cursor that it takes into the pane. -/
def MotionRegains (unicode : Unicode) (s : AppState) (e : Event) : Prop :=
  ∀ key m, e = .press key → s.pressMotion key = some m → s.Regains unicode m

theorem Live.selectable_iff {paneId : PaneId} (h : Live paneId s) (e : Event) :
    SelectableAfterMotion unicode paneId s e ↔ MotionRegains unicode s e := by
  refine forall₄_congr fun key m he hm => ?_
  rcases h with ⟨p, a, cm, hplaced, rfl, hwidth, hheight⟩ | hnone
  · rw [he, AppState.step, hplaced.copyMode, if_pos Option.isSome_some]
    rcases @Placed.pressKey _ _ _ _ unicode hplaced key with
      ⟨m', search, hm', hmoved, hprompt, -⟩ | ⟨hno, -⟩
    · obtain rfl : m' = m := Option.some.inj (hm'.symm.trans hm)
      rw [hmoved.cursorInPane_iff, hplaced.regains_iff,
        ← hplaced.spot_inside_iff hwidth hheight]
      exact ⟨fun hin => hin.1, fun hin => ⟨hin, hmoved.startsSelection hin hprompt⟩⟩
    · exact absurd (hno.symm.trans hm) (by simp)
  · rw [AppState.pressMotion, AppState.motionOf, hnone] at hm
    split at hm
    · exact absurd hm (by simp)
    · split at hm <;> exact absurd hm (by simp)

theorem Live.everyStep_iff {paneId : PaneId} (h : Live paneId s) {events : List Event}
    (hevents : ∀ e ∈ events, e.Nonempty) :
    EveryStep unicode paneId (SelectableAfterMotion unicode paneId) s events ↔
      EveryStep unicode paneId (MotionRegains unicode) s events := by
  induction events generalizing s with
  | nil => exact Iff.rfl
  | cons e events ih =>
    have hrest := ih (@Live.step s unicode paneId h e (hevents e (List.mem_cons_self ..)))
      fun e' he' => hevents e' (List.mem_cons_of_mem _ he')
    exact and_congr (h.selectable_iff e) hrest

end Runs

/-- In every run of copy mode, with changes of the pane to any size with some cells in it, the
cursor is inside the pane after every motion and `v` starts a selection there, exactly when every
motion of the run starts from a cursor that it takes into the pane. -/
theorem inside_after_motions_iff {s : AppState} {p : CopyPane} {metrics : ScrollMetrics}
    (h : Enters s p metrics) (unicode : Unicode) {events : List Event}
    (hevents : ∀ e ∈ events, e.Nonempty) :
    EveryStep unicode p.paneId (SelectableAfterMotion unicode p.paneId) s.enterCopyMode events ↔
      EveryStep unicode p.paneId (MotionRegains unicode) s.enterCopyMode events := by
  obtain ⟨row, col, cm, hplaced, -, -⟩ := h.enterCopyMode
  exact Live.everyStep_iff
    (Or.inl ⟨p, _, cm, hplaced, rfl, h.width_pos, h.height_pos⟩) hevents

theorem twenty_lt : 20 < 2 ^ 16 := by decide

/-- The pane loses its last row, and the cursor was in it. -/
def shrunkRect : Rect :=
  { x := 0, y := 0, width := 20, height := 2, width_lt := twenty_lt, height_lt := by decide }

/-- The pane is made a row shorter and `h` is pressed : the cursor is in the row that is gone, and
`v` starts nothing. -/
theorem cursor_stays_outside :
    Enters markedApp markedPane markedMetrics ∧
      (∀ e ∈ [Event.resize shrunkRect markedMetrics markedContent,
        .press (.new (.char 'h') {})], e.Nonempty) ∧
      ((markedApp.enterCopyMode.run markedUnicode ⟨0⟩
        [.resize shrunkRect markedMetrics markedContent,
          .press (.new (.char 'h') {})]).copyMode.map CopyModeState.cursorRow) = some 2 ∧
      ((markedApp.enterCopyMode.run markedUnicode ⟨0⟩
        [.resize shrunkRect markedMetrics markedContent, .press (.new (.char 'h') {}),
          .press (.new (.char 'v') {})]).selection) = none ∧
      ¬ EveryStep markedUnicode ⟨0⟩ (SelectableAfterMotion markedUnicode ⟨0⟩)
        markedApp.enterCopyMode
        [.resize shrunkRect markedMetrics markedContent, .press (.new (.char 'h') {})] := by
  refine ⟨markedApp_enters, by simp [Event.Nonempty, shrunkRect], by decide, by decide, ?_⟩
  rintro ⟨-, hafter, -⟩
  obtain ⟨info, hinfo, hrow, -⟩ := (hafter _ .left rfl rfl).1 _ rfl
  obtain rfl : { markedInfo with innerRect := shrunkRect } = info := Option.some.inj hinfo
  exact absurd hrow (by decide)

/-- With a motion down in place of it the cursor is inside again. -/
theorem inside_after_motions_iff_down :
    EveryStep markedUnicode ⟨0⟩ (SelectableAfterMotion markedUnicode ⟨0⟩) markedApp.enterCopyMode
        [.resize shrunkRect markedMetrics markedContent, .press (.new (.char 'j') {})] ↔
      EveryStep markedUnicode ⟨0⟩ (MotionRegains markedUnicode) markedApp.enterCopyMode
        [.resize shrunkRect markedMetrics markedContent, .press (.new (.char 'j') {})] :=
  inside_after_motions_iff markedApp_enters markedUnicode
    (by simp [Event.Nonempty, shrunkRect])

end CopyMode

end Zynk
