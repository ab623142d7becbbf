import Zynk.Layout.Tile
import Zynk.Lib.Run

/-!
# Layouts over whole runs

Nine operations change a layout. Each of them has an exact effect on the list of panes
(`LayoutOp.Effect`) and keeps the layout well formed : distinct panes, focus on one of them,
the pane focus came from another one of them. So no operation meets a layout on which it would
panic or lose its tree (`layout_runs`).

A ratio is a NaN or a positive number in every layout reached, so that two lists of ratios that
compare equal are equal : a resize that reports no change made none.
-/

namespace Zynk

/-! ## Effects on a list -/

/-- `new` stands right after `target`, and all else is as it was. -/
def InsertedAfter (target new : PaneId) (ids ids' : List PaneId) : Prop :=
  ∃ pre post, ids = pre ++ target :: post ∧ ids' = pre ++ target :: new :: post

/-- `target` is gone, and all else is as it was. -/
def RemovedFrom (target : PaneId) (ids ids' : List PaneId) : Prop :=
  ∃ pre post, ids = pre ++ target :: post ∧ ids' = pre ++ post

variable {target : PaneId} {ids : List PaneId}

theorem insertedAfter_flatMap {new : PaneId} (hnodup : ids.Nodup) (hmem : target ∈ ids) :
    InsertedAfter target new ids
      (ids.flatMap fun id => if id = target then [id, new] else [id]) := by
  obtain ⟨pre, post, rfl⟩ := List.append_of_mem hmem
  refine ⟨pre, post, rfl, ?_⟩
  have hkeep {part : List PaneId} (hpart : target ∉ part) :
      (part.flatMap fun id => if id = target then [id, new] else [id]) = part := by
    induction part with
    | nil => rfl
    | cons id part ih =>
      simp only [List.mem_cons, not_or] at hpart
      rw [List.flatMap_cons, if_neg (Ne.symm hpart.1), ih hpart.2, List.singleton_append]
  have hparts := List.nodup_middle.1 hnodup
  rw [List.nodup_cons, List.mem_append, not_or] at hparts
  rw [List.flatMap_append, List.flatMap_cons, if_pos rfl, hkeep hparts.1.1, hkeep hparts.1.2]
  rfl

theorem removedFrom_filter (hnodup : ids.Nodup) (hmem : target ∈ ids) :
    RemovedFrom target ids (ids.filter (· ≠ target)) := by
  obtain ⟨pre, post, rfl⟩ := List.append_of_mem hmem
  have hparts := List.nodup_middle.1 hnodup
  rw [List.nodup_cons, List.mem_append, not_or] at hparts
  refine ⟨pre, post, rfl, ?_⟩
  have hkeep {part : List PaneId} (hpart : target ∉ part) : part.filter (· ≠ target) = part := by
    rw [List.filter_eq_self]
    rintro id hid
    simp only [decide_eq_true_eq]
    rintro rfl
    exact hpart hid
  rw [List.filter_append, List.filter_cons, hkeep hparts.1.1, hkeep hparts.1.2]
  simp

theorem InsertedAfter.perm {new : PaneId} {ids' : List PaneId}
    (h : InsertedAfter target new ids ids') : ids'.Perm (new :: ids) := by
  obtain ⟨pre, post, rfl, rfl⟩ := h
  have hswap : (pre ++ target :: new :: post).Perm (pre ++ new :: target :: post) :=
    (List.Perm.swap new target post).append_left pre
  exact hswap.trans List.perm_middle

theorem RemovedFrom.perm {ids' : List PaneId} (h : RemovedFrom target ids ids') :
    ids.Perm (target :: ids') := by
  obtain ⟨pre, post, rfl, rfl⟩ := h
  exact List.perm_middle

namespace TileLayout

/-! ## Well-formed layouts -/

structure WellFormed (l : TileLayout) : Prop where
  nodup : l.paneIds.Nodup
  focus : l.focus ∈ l.paneIds
  prevFocus : ∀ prev, l.prevFocus = some prev → prev ∈ l.paneIds ∧ prev ≠ l.focus
  ratios : l.root.AllRatios F32.Regular

theorem new_wellFormed (rootId : PaneId) : (new rootId).WellFormed where
  nodup := by simp [new, paneIds, Node.paneIds]
  focus := by simp [new, paneIds, Node.paneIds]
  prevFocus := by simp [new]
  ratios := trivial

@[simp] theorem paneIds_setFocus (l : TileLayout) (id : PaneId) :
    (l.setFocus id).paneIds = l.paneIds := by
  unfold setFocus
  split <;> rfl

theorem WellFormed.setFocus {l : TileLayout} (h : l.WellFormed) {id : PaneId}
    (hid : id ∈ l.paneIds) : (l.setFocus id).WellFormed := by
  unfold TileLayout.setFocus
  split
  · rename_i hne
    refine ⟨h.nodup, hid, ?_, h.ratios⟩
    rintro prev hprev
    cases hprev
    exact ⟨h.focus, Ne.symm hne⟩
  · exact h

@[simp] theorem paneIds_focusPane (l : TileLayout) (id : PaneId) :
    (l.focusPane id).paneIds = l.paneIds := by
  unfold focusPane
  split
  · exact paneIds_setFocus l id
  · rfl

theorem WellFormed.focusPane {l : TileLayout} (h : l.WellFormed) (id : PaneId) :
    (l.focusPane id).WellFormed := by
  unfold TileLayout.focusPane
  split
  · rename_i hid
    exact h.setFocus (by simpa using hid)
  · exact h

/-- A new tree with the same panes. -/
theorem WellFormed.withRoot {l : TileLayout} (h : l.WellFormed) {root : Node}
    (hroot : root.paneIds.Perm l.paneIds) (hratios : root.AllRatios F32.Regular) :
    ({ l with root := root } : TileLayout).WellFormed where
  nodup := hroot.nodup_iff.2 h.nodup
  focus := hroot.mem_iff.2 h.focus
  prevFocus prev hprev := ⟨hroot.mem_iff.2 (h.prevFocus prev hprev).1, (h.prevFocus prev hprev).2⟩
  ratios := hratios

variable {target : PaneId}

/-- A new tree with one more pane. -/
theorem WellFormed.insert {l : TileLayout} (h : l.WellFormed) {new : PaneId} {root : Node}
    (hroot : InsertedAfter target new l.paneIds root.paneIds) (hnew : new ∉ l.paneIds)
    (hratios : root.AllRatios F32.Regular) : ({ l with root := root } : TileLayout).WellFormed where
  nodup := hroot.perm.nodup_iff.2 (List.nodup_cons.2 ⟨hnew, h.nodup⟩)
  focus := hroot.perm.mem_iff.2 (List.mem_cons_of_mem new h.focus)
  prevFocus prev hprev :=
    ⟨hroot.perm.mem_iff.2 (List.mem_cons_of_mem new (h.prevFocus prev hprev).1),
      (h.prevFocus prev hprev).2⟩
  ratios := hratios

/-! ## Splitting and inserting -/

theorem insertedAfter_splitAt {l : TileLayout} (h : l.WellFormed) (htarget : target ∈ l.paneIds)
    (direction : Direction) (new : PaneId) (r : F32) :
    InsertedAfter target new l.paneIds (l.root.splitAt target direction new r).paneIds := by
  rw [Node.paneIds_splitAt]
  exact insertedAfter_flatMap h.nodup htarget

theorem WellFormed.splitAt {l : TileLayout} (h : l.WellFormed) {new : PaneId}
    (htarget : target ∈ l.paneIds) (hnew : new ∉ l.paneIds) (direction : Direction) (ratio : F32) :
    ({ l with root := l.root.splitAt target direction new (validSplitRatio ratio) } :
      TileLayout).WellFormed :=
  h.insert (insertedAfter_splitAt h htarget direction new _) hnew
    (h.ratios.splitAt (validSplitRatio_regular ratio) target direction new)

theorem splitPane_eq {l : TileLayout} (h : l.WellFormed) {new : PaneId}
    (htarget : target ∈ l.paneIds) (hnew : new ∉ l.paneIds) (direction : Direction) (ratio : F32) :
    ∃ l', l.splitPane target direction ratio new = (l', some new) ∧ l'.WellFormed ∧
      InsertedAfter target new l.paneIds l'.paneIds :=
  ⟨_, by simp [splitPane, htarget], h.splitAt htarget hnew direction ratio,
    insertedAfter_splitAt h htarget direction new _⟩

theorem insertPaneNear_eq {l : TileLayout} (h : l.WellFormed) {moved : PaneId}
    (htarget : target ∈ l.paneIds) (hmoved : moved ∉ l.paneIds) (direction : Direction)
    (ratio : F32) (focus : Bool) :
    ∃ l', l.insertPaneNear target moved direction ratio focus = (l', true) ∧ l'.WellFormed ∧
      InsertedAfter target moved l.paneIds l'.paneIds := by
  have hne : target ≠ moved := fun heq => hmoved (heq ▸ htarget)
  have hsplit := h.splitAt htarget hmoved direction ratio
  have hinserted := insertedAfter_splitAt h htarget direction moved (validSplitRatio ratio)
  refine ⟨_, by simp [insertPaneNear, htarget, hmoved, hne]; rfl, ?_⟩
  rcases focus with _ | _
  · exact ⟨hsplit, hinserted⟩
  · refine ⟨hsplit.setFocus (hinserted.perm.mem_iff.2 (by simp)), ?_⟩
    simp only [if_true, paneIds_setFocus]
    exact hinserted

/-! ## Closing -/

/-- A layout with another pane left keeps its tree. -/
theorem removePane_eq_some {l : TileLayout} (h : l.WellFormed) {id : PaneId} (hid : id ∈ l.paneIds)
    (hcount : ¬ l.paneCount ≤ 1) :
    ∃ root, l.root.removePane id = some root ∧ RemovedFrom id l.paneIds root.paneIds := by
  have hfilter := Node.paneIds_removePane id l.root
  have hremoved := removedFrom_filter h.nodup hid
  rcases hroot : l.root.removePane id with _ | root
  · rw [hroot, Option.elim_none] at hfilter
    have hperm := hremoved.perm
    have hlength := hperm.length_eq
    rw [TileLayout.paneCount, Node.countPanes_eq] at hcount
    rw [TileLayout.paneIds, ← hfilter] at hlength
    simp only [List.length_cons, List.length_nil] at hlength
    omega
  · rw [hroot, Option.elim_some] at hfilter
    exact ⟨root, rfl, hfilter ▸ hremoved⟩

/-- The pane next to the one in focus, in a layout with another pane. -/
theorem exists_ordered {ids : List PaneId} (hnodup : ids.Nodup) (htarget : target ∈ ids)
    (hcount : ¬ ids.length ≤ 1) : ∃ pos ordered, ids.idxOf? target = some pos ∧
      (if pos + 1 < ids.length then ids[pos + 1]? else if pos = 0 then none else ids[pos - 1]?) =
        some ordered ∧ ordered ∈ ids ∧ ordered ≠ target := by
  obtain ⟨pos, hpos, rfl⟩ := List.getElem_of_mem htarget
  have hother {i : ℕ} (hi : i < ids.length) (hne : i ≠ pos) :
      ids[i]? = some ids[i] ∧ ids[i] ∈ ids ∧ ids[i] ≠ ids[pos] := by
    refine ⟨List.getElem?_eq_getElem hi, List.getElem_mem hi, fun heq => hne ?_⟩
    exact (List.Nodup.getElem_inj_iff hnodup).1 heq
  have hidx : ids.idxOf? ids[pos] = some pos := by
    rw [List.idxOf?_eq_some_iff]
    refine ⟨hpos, rfl, fun j hj heq => ?_⟩
    have := (List.Nodup.getElem_inj_iff hnodup).1 heq
    omega
  by_cases hnext : pos + 1 < ids.length
  · refine ⟨pos, ids[pos + 1], hidx, ?_⟩
    rw [if_pos hnext]
    exact hother hnext (by omega)
  · have hpos' : pos ≠ 0 := by omega
    refine ⟨pos, ids[pos - 1], hidx, ?_⟩
    rw [if_neg hnext, if_neg hpos']
    exact hother (by omega) (by omega)

theorem focusAfterClose_mem {ids : List PaneId} (prevFocus : Option PaneId) {ordered : PaneId}
    (hmem : ordered ∈ ids) (hne : ordered ≠ target) :
    focusAfterClose ids prevFocus target ordered ∈ ids ∧
      focusAfterClose ids prevFocus target ordered ≠ target := by
  unfold focusAfterClose
  rcases prevFocus with _ | prev
  · exact ⟨hmem, hne⟩
  · simp only
    split
    · rename_i hprev
      exact ⟨by simpa using hprev.2, hprev.1⟩
    · exact ⟨hmem, hne⟩

/-- Closing the pane in focus, when it is not the last one. -/
theorem closeFocused_eq {l : TileLayout} (h : l.WellFormed) (hcount : ¬ l.paneCount ≤ 1) :
    ∃ l', l.closeFocused = some (l', true) ∧ l'.WellFormed ∧
      RemovedFrom l.focus l.paneIds l'.paneIds := by
  have hlength : ¬ l.paneIds.length ≤ 1 := by
    rwa [TileLayout.paneCount, Node.countPanes_eq] at hcount
  obtain ⟨pos, ordered, hpos, hordered, hmem, hne⟩ := exists_ordered h.nodup h.focus hlength
  obtain ⟨root, hroot, hremoved⟩ := removePane_eq_some h h.focus hcount
  obtain ⟨hmem', hne'⟩ := focusAfterClose_mem l.prevFocus hmem hne
  refine ⟨⟨root, focusAfterClose l.paneIds l.prevFocus l.focus ordered, none⟩, ?_, ?_, hremoved⟩
  · unfold closeFocused
    simp only [if_neg hcount, hpos, Option.bind_some, hordered, Option.map_some, hroot]
  · have hperm := hremoved.perm
    refine ⟨?_, ?_, by simp, h.ratios.removePane hroot⟩
    · exact (List.nodup_cons.1 (hperm.nodup_iff.1 h.nodup)).2
    · rcases List.mem_cons.1 (hperm.mem_iff.1 hmem') with heq | hmem''
      · exact absurd heq hne'
      · exact hmem''

theorem closePane_eq {l : TileLayout} (h : l.WellFormed) {id : PaneId} (hid : id ∈ l.paneIds)
    (hcount : ¬ l.paneCount ≤ 1) :
    ∃ l', l.closePane id = some (l', true) ∧ l'.WellFormed ∧
      RemovedFrom id l.paneIds l'.paneIds := by
  unfold closePane
  by_cases hfocus : l.focus = id
  · subst hfocus
    rw [if_pos rfl]
    exact closeFocused_eq h hcount
  · obtain ⟨root, hroot, hremoved⟩ := removePane_eq_some h hid hcount
    have hguard : ¬ (decide (l.paneCount ≤ 1) || !l.paneIds.contains id) = true := by
      simp [hcount, hid]
    refine ⟨⟨root, l.focus, if l.prevFocus = some id then none else l.prevFocus⟩, ?_, ?_, hremoved⟩
    · simp only [if_neg hfocus, if_neg hguard, hroot]
    · have hperm := hremoved.perm
      have hkept {other : PaneId} (hmem : other ∈ l.paneIds) (hne : other ≠ id) :
          other ∈ root.paneIds := by
        rcases List.mem_cons.1 (hperm.mem_iff.1 hmem) with heq | hmem'
        · exact absurd heq hne
        · exact hmem'
      refine ⟨(List.nodup_cons.1 (hperm.nodup_iff.1 h.nodup)).2, hkept h.focus hfocus, ?_,
        h.ratios.removePane hroot⟩
      intro prev hprev
      simp only at hprev
      split_ifs at hprev with hsome
      obtain ⟨hmem, hne⟩ := h.prevFocus prev hprev
      exact ⟨hkept hmem fun heq => hsome (heq ▸ hprev), hne⟩

/-! ## Resizing -/

theorem WellFormed.setRatioAt {l : TileLayout} (h : l.WellFormed) (path : List Bool) (ratio : F32) :
    (l.setRatioAt path ratio).1.WellFormed :=
  h.withRoot (by rw [Node.paneIds_setRatioAt]; rfl) (h.ratios.setRatioAt (clampRatio_regular ratio))

/-- A resize sets at most one ratio. -/
theorem resizeFocused_eq (l : TileLayout) (nav : NavDirection) (delta : F32) (area : Rect) :
    l.resizeFocused nav delta area = l ∨
      ∃ path ratio, l.resizeFocused nav delta area = (l.setRatioAt path ratio).1 := by
  unfold resizeFocused
  split
  · exact Or.inl rfl
  · exact Or.inr ⟨_, _, rfl⟩

theorem resizePane_cases (l : TileLayout) (paneId : PaneId) (nav : NavDirection) (delta : F32)
    (area : Rect) :
    (l.resizePane paneId nav delta area).1 = l ∨
      ∃ path ratio, l.resizePane paneId nav delta area =
        ((l.setRatioAt path ratio).1,
          !ratiosEq (l.setRatioAt path ratio).1.root.splitRatios l.root.splitRatios) := by
  unfold resizePane
  split
  · rcases resizeFocused_eq { l with focus := paneId } nav delta area with hsame | ⟨path, ratio, hset⟩
    · left
      simp only [hsame]
    · refine Or.inr ⟨path, ratio, ?_⟩
      simp only [hset]
      rfl
  · exact Or.inl rfl

/-- Lists of regular ratios that compare equal are equal. -/
theorem eq_of_ratiosEq {a b : List (List Bool × F32)} (ha : ∀ entry ∈ a, entry.2.Regular)
    (h : ratiosEq a b = true) : a = b := by
  fun_induction ratiosEq a b with
  | case1 => rfl
  | case2 path r rest path' r' rest' ih =>
    simp only [Bool.and_eq_true, beq_iff_eq] at h
    obtain ⟨⟨rfl, hr⟩, hrest⟩ := h
    have hr' : r = r' := F32.Regular.eq_of_eq (ha (path, r) (by simp)) hr
    rw [hr', ih (fun entry hentry => ha entry (by simp [hentry])) hrest]
  | case3 => cases h

theorem regular_of_splitRatiosFrom {node : Node} (h : node.AllRatios F32.Regular) (path : List Bool) :
    ∀ entry ∈ node.splitRatiosFrom path, entry.2.Regular := by
  induction node generalizing path with
  | pane id => simp [Node.splitRatiosFrom]
  | split direction ratio first second ih₁ ih₂ =>
    intro entry hentry
    simp only [Node.splitRatiosFrom, List.mem_cons, List.mem_append] at hentry
    rcases hentry with rfl | hentry | hentry
    · exact h.1
    · exact ih₁ h.2.1 _ entry hentry
    · exact ih₂ h.2.2 _ entry hentry

/-- Resizing a pane changes ratios only, and reports whether it did. -/
theorem resizePane_eq {l : TileLayout} (h : l.WellFormed) (paneId : PaneId) (nav : NavDirection)
    (delta : F32) (area : Rect) :
    (l.resizePane paneId nav delta area).1.WellFormed ∧
      (l.resizePane paneId nav delta area).1.paneIds = l.paneIds ∧
      (l.resizePane paneId nav delta area).1.focus = l.focus ∧
      (l.resizePane paneId nav delta area).1.prevFocus = l.prevFocus ∧
      ((l.resizePane paneId nav delta area).2 = false →
        (l.resizePane paneId nav delta area).1 = l) := by
  rcases l.resizePane_cases paneId nav delta area with hsame | ⟨path, ratio, hset⟩
  · rw [hsame]
    exact ⟨h, rfl, rfl, rfl, fun _ => rfl⟩
  · rw [hset]
    refine ⟨h.setRatioAt path ratio, Node.paneIds_setRatioAt _ _ _, rfl, rfl, fun hfalse => ?_⟩
    have hregular := regular_of_splitRatiosFrom (h.setRatioAt path ratio).ratios []
    have heq : ratiosEq (l.setRatioAt path ratio).1.root.splitRatios l.root.splitRatios = true := by
      simpa using hfalse
    have hroot := Node.setRatioAt_eq_self_of_splitRatios (eq_of_ratiosEq hregular heq)
    exact congrArg (fun root => ({ l with root := root } : TileLayout)) hroot

end TileLayout

/-! ## Operations -/

inductive LayoutOp where
  | splitPane (target : PaneId) (direction : Direction) (ratio : F32) (newId : PaneId)
  | insertPaneNear (target moved : PaneId) (direction : Direction) (ratio : F32) (focus : Bool)
  | closeFocused
  | closePane (id : PaneId)
  | focusPane (id : PaneId)
  | swapPanes (first second : PaneId)
  | setRatioAt (path : List Bool) (ratio : F32)
  | resizeFocused (nav : NavDirection) (delta : F32) (area : Rect)
  | resizePane (paneId : PaneId) (nav : NavDirection) (delta : F32) (area : Rect)

/-- What a call returns. -/
inductive LayoutReply where
  | unit
  | flag (changed : Bool)
  | pane (id : Option PaneId)

/-- `false` or `None`. -/
def LayoutReply.Refused : LayoutReply → Prop
  | unit => False
  | flag changed => changed = false
  | pane id => id = none

namespace LayoutOp

/-- One call. `none` is a panic. -/
def apply (l : TileLayout) : LayoutOp → Option (TileLayout × LayoutReply)
  | splitPane target direction ratio newId =>
    let (l, id) := l.splitPane target direction ratio newId
    some (l, .pane id)
  | insertPaneNear target moved direction ratio focus =>
    let (l, changed) := l.insertPaneNear target moved direction ratio focus
    some (l, .flag changed)
  | closeFocused => l.closeFocused.map fun (l, changed) => (l, .flag changed)
  | closePane id => (l.closePane id).map fun (l, changed) => (l, .flag changed)
  | focusPane id => some (l.focusPane id, .unit)
  | swapPanes first second =>
    let (l, changed) := l.swapPanes first second
    some (l, .flag changed)
  | setRatioAt path ratio =>
    let (l, changed) := l.setRatioAt path ratio
    some (l, .flag changed)
  | resizeFocused nav delta area => some (l.resizeFocused nav delta area, .unit)
  | resizePane paneId nav delta area =>
    let (l, changed) := l.resizePane paneId nav delta area
    some (l, .flag changed)

/-- The id a split allocates is not in the layout. -/
def Fresh (l : TileLayout) : LayoutOp → Prop
  | splitPane _ _ _ newId => newId ∉ l.paneIds
  | _ => True

/-- A layout or, after a panic, none. -/
def step (s : Option TileLayout) (op : LayoutOp) : Option TileLayout :=
  s.bind fun l => (op.apply l).map (·.1)

/-- Closing `id` : removes it when it is there and another pane is, and else is refused. -/
def Closes (id : PaneId) (l l' : TileLayout) (reply : LayoutReply) : Prop :=
  (id ∈ l.paneIds ∧ 2 ≤ l.paneIds.length ∧ reply = .flag true ∧
      RemovedFrom id l.paneIds l'.paneIds ∧ l'.paneIds ≠ []) ∨
    (¬ (id ∈ l.paneIds ∧ 2 ≤ l.paneIds.length) ∧ reply = .flag false)

/-- What a call does to the list of panes. -/
def Effect (l l' : TileLayout) (reply : LayoutReply) : LayoutOp → Prop
  | splitPane target _ _ newId =>
    (target ∈ l.paneIds ∧ reply = .pane (some newId) ∧
        InsertedAfter target newId l.paneIds l'.paneIds) ∨
      (target ∉ l.paneIds ∧ reply = .pane none)
  | insertPaneNear target moved _ _ _ =>
    (target ∈ l.paneIds ∧ moved ∉ l.paneIds ∧ reply = .flag true ∧
        InsertedAfter target moved l.paneIds l'.paneIds) ∨
      (¬ (target ∈ l.paneIds ∧ moved ∉ l.paneIds) ∧ reply = .flag false)
  | closeFocused => Closes l.focus l l' reply
  | closePane id => Closes id l l' reply
  | focusPane _ => l'.paneIds = l.paneIds
  | swapPanes first second =>
    (first ≠ second ∧ first ∈ l.paneIds ∧ second ∈ l.paneIds ∧ reply = .flag true ∧
        l'.paneIds = l.paneIds.map (Equiv.swap first second)) ∨
      (¬ (first ≠ second ∧ first ∈ l.paneIds ∧ second ∈ l.paneIds) ∧ reply = .flag false)
  | setRatioAt _ _ => l'.paneIds = l.paneIds
  | resizeFocused _ _ _ => l'.paneIds = l.paneIds
  | resizePane _ _ _ _ => l'.paneIds = l.paneIds

/-- One call on a well-formed layout : it returns, has its effect, leaves a well-formed layout,
and leaves the layout it found when it is refused. -/
def Lawful (l : TileLayout) (op : LayoutOp) : Prop :=
  ∃ l' reply, op.apply l = some (l', reply) ∧ l'.WellFormed ∧ op.Effect l l' reply ∧
    (reply.Refused → l' = l)

variable {l : TileLayout}

theorem splitPane_lawful (h : l.WellFormed) (target : PaneId) (direction : Direction) (ratio : F32)
    {newId : PaneId} (hfresh : newId ∉ l.paneIds) :
    (splitPane target direction ratio newId).Lawful l := by
  by_cases htarget : target ∈ l.paneIds
  · obtain ⟨l', hsplit, hl', hinserted⟩ :=
      TileLayout.splitPane_eq h htarget hfresh direction ratio
    exact ⟨l', .pane (some newId), by simp [apply, hsplit], hl',
      Or.inl ⟨htarget, rfl, hinserted⟩, nofun⟩
  · refine ⟨l, .pane none, ?_, h, Or.inr ⟨htarget, rfl⟩, fun _ => rfl⟩
    simp [apply, TileLayout.splitPane, htarget]

theorem insertPaneNear_lawful (h : l.WellFormed) (target moved : PaneId) (direction : Direction)
    (ratio : F32) (focus : Bool) : (insertPaneNear target moved direction ratio focus).Lawful l := by
  by_cases hmem : target ∈ l.paneIds ∧ moved ∉ l.paneIds
  · obtain ⟨l', hinsert, hl', hinserted⟩ :=
      TileLayout.insertPaneNear_eq h hmem.1 hmem.2 direction ratio focus
    exact ⟨l', .flag true, by simp [apply, hinsert], hl',
      Or.inl ⟨hmem.1, hmem.2, rfl, hinserted⟩, nofun⟩
  · refine ⟨l, .flag false, ?_, h, Or.inr ⟨hmem, rfl⟩, fun _ => rfl⟩
    by_cases htarget : target ∈ l.paneIds
    · have hmoved : moved ∈ l.paneIds := by simpa [htarget] using hmem
      simp [apply, TileLayout.insertPaneNear, hmoved]
    · simp [apply, TileLayout.insertPaneNear, htarget]

theorem paneCount_le_one : l.paneCount ≤ 1 ↔ ¬ 2 ≤ l.paneIds.length := by
  rw [TileLayout.paneCount, Node.countPanes_eq, TileLayout.paneIds]
  omega

theorem closeFocused_lawful (h : l.WellFormed) : closeFocused.Lawful l := by
  by_cases hcount : l.paneCount ≤ 1
  · refine ⟨l, .flag false, ?_, h, Or.inr ⟨?_, rfl⟩, fun _ => rfl⟩
    · simp [apply, TileLayout.closeFocused, hcount]
    · exact fun hclosed => paneCount_le_one.1 hcount hclosed.2
  · obtain ⟨l', hclose, hl', hremoved⟩ := TileLayout.closeFocused_eq h hcount
    refine ⟨l', .flag true, by simp [apply, hclose], hl',
      Or.inl ⟨h.focus, ?_, rfl, hremoved, Node.paneIds_ne_nil _⟩, nofun⟩
    exact not_not.1 (mt paneCount_le_one.2 hcount)

theorem closePane_lawful (h : l.WellFormed) (id : PaneId) : (closePane id).Lawful l := by
  by_cases hclosed : id ∈ l.paneIds ∧ 2 ≤ l.paneIds.length
  · have hcount : ¬ l.paneCount ≤ 1 := fun hle => paneCount_le_one.1 hle hclosed.2
    obtain ⟨l', hclose, hl', hremoved⟩ := TileLayout.closePane_eq h hclosed.1 hcount
    exact ⟨l', .flag true, by simp [apply, hclose], hl',
      Or.inl ⟨hclosed.1, hclosed.2, rfl, hremoved, Node.paneIds_ne_nil _⟩, nofun⟩
  · refine ⟨l, .flag false, ?_, h, Or.inr ⟨hclosed, rfl⟩, fun _ => rfl⟩
    have hguard : l.paneCount ≤ 1 ∨ id ∉ l.paneIds := by
      rw [paneCount_le_one]
      tauto
    by_cases hfocus : l.focus = id
    · have hcount : l.paneCount ≤ 1 := hguard.resolve_right fun hid => hid (hfocus ▸ h.focus)
      simp [apply, TileLayout.closePane, TileLayout.closeFocused, hfocus, hcount]
    · rcases hguard with hcount | hid
      · simp [apply, TileLayout.closePane, hfocus, hcount]
      · simp [apply, TileLayout.closePane, hfocus, hid]

theorem focusPane_lawful (h : l.WellFormed) (id : PaneId) : (focusPane id).Lawful l :=
  ⟨_, .unit, rfl, h.focusPane id, TileLayout.paneIds_focusPane l id, nofun⟩

theorem swapPanes_lawful (h : l.WellFormed) (first second : PaneId) :
    (swapPanes first second).Lawful l := by
  by_cases hswap : first ≠ second ∧ first ∈ l.paneIds ∧ second ∈ l.paneIds
  · obtain ⟨hne, hfirst, hsecond⟩ := hswap
    have hids : (l.root.swapPaneIds first second).paneIds =
        l.paneIds.map (Equiv.swap first second) := Node.paneIds_swapPaneIds first second l.root
    refine ⟨{ l with root := l.root.swapPaneIds first second }, .flag true, ?_,
      h.withRoot ?_ (h.ratios.swapPaneIds first second), Or.inl ⟨hne, hfirst, hsecond, rfl, hids⟩,
      nofun⟩
    · simp [apply, TileLayout.swapPanes, hne, hfirst, hsecond]
    · -- Both ids are leaves, so swapping them permutes the leaves.
      rw [hids, List.perm_ext_iff_of_nodup (h.nodup.map (Equiv.injective _)) h.nodup]
      intro id
      rw [List.mem_map]
      constructor
      · rintro ⟨id', hid', rfl⟩
        rw [Equiv.swap_apply_def]
        split_ifs <;> assumption
      · intro hid
        refine ⟨Equiv.swap first second id, ?_, Equiv.swap_apply_self first second id⟩
        show _ ∈ l.paneIds
        rw [Equiv.swap_apply_def]
        split_ifs <;> assumption
  · refine ⟨l, .flag false, ?_, h, Or.inr ⟨hswap, rfl⟩, fun _ => rfl⟩
    by_cases hne : first = second
    · simp [apply, TileLayout.swapPanes, hne]
    · by_cases hfirst : first ∈ l.paneIds
      · have hsecond : second ∉ l.paneIds := fun hmem => hswap ⟨hne, hfirst, hmem⟩
        simp [apply, TileLayout.swapPanes, hsecond]
      · simp [apply, TileLayout.swapPanes, hfirst]

theorem setRatioAt_lawful (h : l.WellFormed) (path : List Bool) (ratio : F32) :
    (setRatioAt path ratio).Lawful l := by
  refine ⟨(l.setRatioAt path ratio).1, .flag (l.setRatioAt path ratio).2, rfl,
    h.setRatioAt path ratio, Node.paneIds_setRatioAt _ _ _, fun hfalse => ?_⟩
  exact congrArg (fun root => ({ l with root := root } : TileLayout))
    (Node.setRatioAt_eq_self hfalse)

theorem resizeFocused_lawful (h : l.WellFormed) (nav : NavDirection) (delta : F32) (area : Rect) :
    (resizeFocused nav delta area).Lawful l := by
  refine ⟨l.resizeFocused nav delta area, .unit, rfl, ?_, ?_, nofun⟩
  · rcases l.resizeFocused_eq nav delta area with hsame | ⟨path, ratio, hset⟩
    · rwa [hsame]
    · rw [hset]
      exact h.setRatioAt path ratio
  · show TileLayout.paneIds _ = _
    rcases l.resizeFocused_eq nav delta area with hsame | ⟨path, ratio, hset⟩
    · rw [hsame]
    · rw [hset]
      exact Node.paneIds_setRatioAt _ _ _

theorem resizePane_lawful (h : l.WellFormed) (paneId : PaneId) (nav : NavDirection) (delta : F32)
    (area : Rect) : (resizePane paneId nav delta area).Lawful l := by
  obtain ⟨hl', hids, -, -, hrefused⟩ := TileLayout.resizePane_eq h paneId nav delta area
  exact ⟨_, .flag (l.resizePane paneId nav delta area).2, rfl, hl', hids, hrefused⟩

theorem lawful (h : l.WellFormed) {op : LayoutOp} (hfresh : op.Fresh l) : op.Lawful l := by
  cases op with
  | splitPane target direction ratio newId => exact splitPane_lawful h target direction ratio hfresh
  | insertPaneNear target moved direction ratio focus =>
    exact insertPaneNear_lawful h target moved direction ratio focus
  | closeFocused => exact closeFocused_lawful h
  | closePane id => exact closePane_lawful h id
  | focusPane id => exact focusPane_lawful h id
  | swapPanes first second => exact swapPanes_lawful h first second
  | setRatioAt path ratio => exact setRatioAt_lawful h path ratio
  | resizeFocused nav delta area => exact resizeFocused_lawful h nav delta area
  | resizePane paneId nav delta area => exact resizePane_lawful h paneId nav delta area

end LayoutOp

/-! ## Runs -/

/-- The condition on a run : every split allocates an id that is not in the layout it splits. -/
def FreshAt (s : Option TileLayout) (op : LayoutOp) : Prop :=
  ∀ l, s = some l → op.Fresh l

/-- In every run from a new layout no call panics, every layout reached is well formed, and the
next call, whichever it is, has its exact effect. -/
theorem layout_runs (rootId : PaneId) (ops : List LayoutOp)
    (hfresh : StepRun.Along LayoutOp.step FreshAt (some (TileLayout.new rootId)) ops) :
    ∃ l, StepRun.run LayoutOp.step (some (TileLayout.new rootId)) ops = some l ∧ l.WellFormed ∧
      ∀ op : LayoutOp, op.Fresh l → op.Lawful l := by
  have hreached : ∃ l, StepRun.run LayoutOp.step (some (TileLayout.new rootId)) ops = some l ∧
      l.WellFormed := by
    refine StepRun.run_induction (I := fun _ s => ∃ l, s = some l ∧ l.WellFormed)
      ⟨_, rfl, TileLayout.new_wellFormed rootId⟩ ?_ ops hfresh
    rintro _ _ op ⟨l, rfl, hl⟩ hop
    obtain ⟨l', reply, happly, hl', -⟩ := LayoutOp.lawful hl (hop l rfl)
    exact ⟨l', by simp [LayoutOp.step, happly], hl'⟩
  obtain ⟨l, hrun, hl⟩ := hreached
  exact ⟨l, hrun, hl, fun op hop => LayoutOp.lawful hl hop⟩

/-- Two splits, a focus move and a close. -/
theorem layout_runs_four :
    ∃ l, StepRun.run LayoutOp.step (some (TileLayout.new ⟨1⟩))
        [.splitPane ⟨1⟩ .horizontal halfRatio ⟨2⟩, .splitPane ⟨1⟩ .vertical .nan ⟨3⟩,
          .focusPane ⟨3⟩, .closeFocused] = some l ∧ l.WellFormed ∧
      ∀ op : LayoutOp, op.Fresh l → op.Lawful l := by
  refine layout_runs ⟨1⟩ _ ?_
  refine ⟨?_, ?_, ?_, ?_, trivial⟩ <;> rintro l hl
  · cases hl
    show (⟨2⟩ : PaneId) ∉ [⟨1⟩]
    decide
  · cases hl
    show (⟨3⟩ : PaneId) ∉ [⟨1⟩, ⟨2⟩]
    decide
  · trivial
  · trivial

end Zynk
