import Mathlib.Data.Prod.Lex
import Zynk.Layout.Tiling

/-!
# Directional focus

`find_in_direction` of `layout.rs` : of the panes that lie beyond an edge of the pane in focus and
share a row or a column with it, the nearest one; of these the one that shares the most.

Where the panes tile an area, the cell right behind the edge is in a pane, unless the edge is the
border, and that pane begins at the edge (`exists_abutting`). So the nearest pane begins there too.
-/

namespace Zynk

/-! ## Looking for a pane -/

/-- `saturating_add`. -/
def saturatingAdd (a b : UInt16) : ℕ :=
  min (a.toNat + b.toNat) 65535

/-- The operations saturate. -/
def rangeOverlapAmount (aStart aLen bStart bLen : UInt16) : ℕ :=
  min (saturatingAdd aStart aLen) (saturatingAdd bStart bLen) - max aStart.toNat bStart.toNat

/-- `start.saturating_mul(2).saturating_add(len)`. -/
def doubledCenter (start len : UInt16) : ℕ :=
  min (min (start.toNat * 2) 65535 + len.toNat) 65535

def rangeCenterDistance (aStart aLen bStart bLen : UInt16) : ℕ :=
  ((doubledCenter aStart aLen : ℤ) - doubledCenter bStart bLen).natAbs

/-- The filter of `find_in_direction`. -/
def liesBeyond (fr : Rect) (direction : NavDirection) (r : Rect) : Bool :=
  match direction with
  | .left => r.x + r.width ≤ fr.x && TileLayout.rangesOverlap r.y r.height fr.y fr.height
  | .right => fr.x + fr.width ≤ r.x && TileLayout.rangesOverlap r.y r.height fr.y fr.height
  | .up => r.y + r.height ≤ fr.y && TileLayout.rangesOverlap r.x r.width fr.x fr.width
  | .down => fr.y + fr.height ≤ r.y && TileLayout.rangesOverlap r.x r.width fr.x fr.width

def edgeDistance (fr : Rect) (direction : NavDirection) (r : Rect) : ℕ :=
  match direction with
  | .left => fr.x.toNat - (r.x + r.width).toNat
  | .right => r.x.toNat - (fr.x + fr.width).toNat
  | .up => fr.y.toNat - (r.y + r.height).toNat
  | .down => r.y.toNat - (fr.y + fr.height).toNat

def overlapAmount (fr : Rect) (direction : NavDirection) (r : Rect) : ℕ :=
  match direction with
  | .left | .right => rangeOverlapAmount r.y r.height fr.y fr.height
  | .up | .down => rangeOverlapAmount r.x r.width fr.x fr.width

def centerDistance (fr : Rect) (direction : NavDirection) (r : Rect) : ℕ :=
  match direction with
  | .left | .right => rangeCenterDistance r.y r.height fr.y fr.height
  | .up | .down => rangeCenterDistance r.x r.width fr.x fr.width

/-- Compared from left to right, the overlap the other way round. -/
def directionalKey (fr : Rect) (direction : NavDirection) (entry : PaneInfo × ℕ) :
    ℕ ×ₗ ℕᵒᵈ ×ₗ ℕ ×ₗ ℕ :=
  let r := entry.1.rect
  toLex (edgeDistance fr direction r, toLex (OrderDual.toDual (overlapAmount fr direction r),
    toLex (centerDistance fr direction r, entry.2)))

def findInDirection (focused : PaneInfo) (direction : NavDirection) (panes : List PaneInfo) :
    Option PaneId :=
  let others := panes.zipIdx.filter fun (p, _) => p.id ≠ focused.id
  let beyond := others.filter fun (p, _) => liesBeyond focused.rect direction p.rect
  (beyond.argmin (directionalKey focused.rect direction)).map (·.1.id)

namespace Rect

/-! ## Edges -/

/-- Where the edge of that side is. -/
def edge (r : Rect) : NavDirection → ℕ
  | .left => r.x.toNat
  | .right => r.x.toNat + r.width.toNat
  | .up => r.y.toNat
  | .down => r.y.toNat + r.height.toNat

/-- From where to where the edge goes. -/
def span (r : Rect) : NavDirection → ℕ × ℕ
  | .left | .right => (r.y.toNat, r.y.toNat + r.height.toNat)
  | .up | .down => (r.x.toNat, r.x.toNat + r.width.toNat)

/-- How much of the edge is opposite `r'`. -/
def sharedSpan (r : Rect) (direction : NavDirection) (r' : Rect) : ℕ :=
  min (r.span direction).2 (r'.span direction).2 - max (r.span direction).1 (r'.span direction).1

/-- `r'` begins where `r` ends on that side. -/
def Faces (r : Rect) (direction : NavDirection) (r' : Rect) : Prop :=
  r'.edge (TileLayout.oppositeDirection direction) = r.edge direction

def Nonempty (r : Rect) : Prop :=
  0 < r.width.toNat ∧ 0 < r.height.toNat

variable {fr r area : Rect} {direction : NavDirection}

theorem toNat_add_eq {start len : UInt16} (h : start.toNat + len.toNat ≤ 65535) :
    (start + len).toNat = start.toNat + len.toNat := by
  rw [UInt16.toNat_add]
  omega

theorem overlapAmount_eq (hfr : fr.Fits) (hr : r.Fits) :
    overlapAmount fr direction r = fr.sharedSpan direction r := by
  simp only [Fits] at hfr hr
  cases direction <;>
    simp only [overlapAmount, rangeOverlapAmount, saturatingAdd, sharedSpan, span] <;> omega

theorem rangesOverlap_iff {aStart aLen bStart bLen : UInt16}
    (ha : aStart.toNat + aLen.toNat ≤ 65535) (hb : bStart.toNat + bLen.toNat ≤ 65535) :
    TileLayout.rangesOverlap aStart aLen bStart bLen = true ↔
      aStart.toNat < bStart.toNat + bLen.toNat ∧ bStart.toNat < aStart.toNat + aLen.toNat := by
  rw [TileLayout.rangesOverlap, Bool.and_eq_true, decide_eq_true_eq, decide_eq_true_eq,
    UInt16.lt_iff_toNat_lt, UInt16.lt_iff_toNat_lt, toNat_add_eq ha, toNat_add_eq hb]

/-- A pane that faces the edge, and shares some of it, is one that is looked for. -/
theorem liesBeyond_of_faces (hfr : fr.Fits) (hr : r.Fits) (hfaces : fr.Faces direction r)
    (hshared : 0 < fr.sharedSpan direction r) : liesBeyond fr direction r = true := by
  obtain ⟨hfrx, hfry⟩ := hfr
  obtain ⟨hrx, hry⟩ := hr
  cases direction <;>
    simp only [Faces, edge, TileLayout.oppositeDirection, sharedSpan, span] at hfaces hshared <;>
    simp only [liesBeyond, Bool.and_eq_true, decide_eq_true_eq, UInt16.le_iff_toNat_le,
      rangesOverlap_iff hrx hfrx, rangesOverlap_iff hry hfry, toNat_add_eq hrx, toNat_add_eq hry,
      toNat_add_eq hfrx, toNat_add_eq hfry] <;>
    omega

theorem edgeDistance_of_faces (hfr : fr.Fits) (hr : r.Fits) (hfaces : fr.Faces direction r) :
    edgeDistance fr direction r = 0 := by
  obtain ⟨hfrx, hfry⟩ := hfr
  obtain ⟨hrx, hry⟩ := hr
  cases direction <;>
    simp only [Faces, edge, TileLayout.oppositeDirection] at hfaces <;>
    simp only [edgeDistance, toNat_add_eq hrx, toNat_add_eq hry, toNat_add_eq hfrx,
      toNat_add_eq hfry] <;>
    omega

theorem not_faces_self (hr : r.Nonempty) : ¬ r.Faces direction r := by
  simp only [Nonempty] at hr
  cases direction <;> simp only [Faces, edge, TileLayout.oppositeDirection] <;> omega

theorem faces_of_edgeDistance (hfr : fr.Fits) (hr : r.Fits) (hr' : r.Nonempty) (hfr' : fr.Nonempty)
    (hbeyond : liesBeyond fr direction r = true) (hzero : edgeDistance fr direction r = 0) :
    fr.Faces direction r ∧ 0 < fr.sharedSpan direction r := by
  obtain ⟨hfrx, hfry⟩ := hfr
  obtain ⟨hrx, hry⟩ := hr
  obtain ⟨hrw, hrh⟩ := hr'
  obtain ⟨hfrw, hfrh⟩ := hfr'
  cases direction <;>
    simp only [liesBeyond, Bool.and_eq_true, decide_eq_true_eq, UInt16.le_iff_toNat_le,
      rangesOverlap_iff hrx hfrx, rangesOverlap_iff hry hfry, toNat_add_eq hrx, toNat_add_eq hry,
      toNat_add_eq hfrx, toNat_add_eq hfry] at hbeyond <;>
    simp only [edgeDistance, toNat_add_eq hrx, toNat_add_eq hry, toNat_add_eq hfrx,
      toNat_add_eq hfry] at hzero <;>
    simp only [Faces, edge, TileLayout.oppositeDirection, sharedSpan, span] <;>
    omega

/-- Nothing lies beyond the border. -/
theorem not_liesBeyond_border (hfr : fr.Fits) (hr : r.Fits) (hr' : r.Nonempty)
    (hwithin : r.Within area) (hborder : fr.edge direction = area.edge direction) :
    liesBeyond fr direction r = false := by
  obtain ⟨hfrx, hfry⟩ := hfr
  obtain ⟨hrx, hry⟩ := hr
  obtain ⟨hrw, hrh⟩ := hr'
  rw [← Bool.not_eq_true]
  cases direction <;>
    simp only [edge] at hborder <;>
    simp only [Within] at hwithin <;>
    simp only [liesBeyond, Bool.and_eq_true, decide_eq_true_eq, UInt16.le_iff_toNat_le,
      rangesOverlap_iff hrx hfrx, rangesOverlap_iff hry hfry, toNat_add_eq hrx, toNat_add_eq hry,
      toNat_add_eq hfrx, toNat_add_eq hfry] <;>
    omega

/-- Of two cells of the area, one in the rectangle and one not, the other one is in a rectangle that
does not have the first one. -/
theorem exists_covers {rects : List Rect} (htiles : Tiles rects area) (hfr : fr ∈ rects)
    {x y x' y' : ℕ} (hin : fr.Covers x' y') (hout : ¬ fr.Covers x y) (harea : area.Covers x y) :
    ∃ r ∈ rects, r.Covers x y ∧ ¬ r.Covers x' y' := by
  obtain ⟨r, hr, hcovers⟩ := htiles.cover x y harea
  have hne : r ≠ fr := by
    rintro rfl
    exact hout hcovers
  have hsymm : Std.Symm fun r r' : Rect => ∀ x y, ¬ (r.Covers x y ∧ r'.Covers x y) :=
    ⟨fun r r' h x y hboth => h x y hboth.symm⟩
  exact ⟨r, hr, hcovers, fun hcovers' => htiles.disjoint.forall hr hfr hne x' y' ⟨hcovers', hin⟩⟩

/-- The cell behind the corner of an edge that is not on the border is in a pane, and the pane
begins at the edge. -/
theorem exists_abutting {rects : List Rect} (htiles : Tiles rects area) (hfr : fr ∈ rects)
    (hfr' : fr.Nonempty) (hborder : fr.edge direction ≠ area.edge direction) :
    ∃ r ∈ rects, fr.Faces direction r ∧ 0 < fr.sharedSpan direction r := by
  have hwithin := htiles.within fr hfr
  simp only [Nonempty, Within] at hfr' hwithin
  suffices hcells : ∃ x y x' y', fr.Covers x' y' ∧ ¬ fr.Covers x y ∧ area.Covers x y ∧
      ∀ r : Rect, r.Covers x y → ¬ r.Covers x' y' →
        fr.Faces direction r ∧ 0 < fr.sharedSpan direction r by
    obtain ⟨x, y, x', y', hin, hout, harea, hfaces⟩ := hcells
    obtain ⟨r, hr, hcovers, hnot⟩ := exists_covers htiles hfr hin hout harea
    exact ⟨r, hr, hfaces r hcovers hnot⟩
  cases direction with
  | left =>
    refine ⟨fr.x.toNat - 1, fr.y.toNat, fr.x.toNat, fr.y.toNat, ?_⟩
    simp only [edge, Covers, Faces, sharedSpan, span, TileLayout.oppositeDirection] at *
    refine ⟨by omega, by omega, by omega, fun r => by omega⟩
  | right =>
    refine ⟨fr.x.toNat + fr.width.toNat, fr.y.toNat, fr.x.toNat + fr.width.toNat - 1, fr.y.toNat,
      ?_⟩
    simp only [edge, Covers, Faces, sharedSpan, span, TileLayout.oppositeDirection] at *
    refine ⟨by omega, by omega, by omega, fun r => by omega⟩
  | up =>
    refine ⟨fr.x.toNat, fr.y.toNat - 1, fr.x.toNat, fr.y.toNat, ?_⟩
    simp only [edge, Covers, Faces, sharedSpan, span, TileLayout.oppositeDirection] at *
    refine ⟨by omega, by omega, by omega, fun r => by omega⟩
  | down =>
    refine ⟨fr.x.toNat, fr.y.toNat + fr.height.toNat, fr.x.toNat, fr.y.toNat + fr.height.toNat - 1,
      ?_⟩
    simp only [edge, Covers, Faces, sharedSpan, span, TileLayout.oppositeDirection] at *
    refine ⟨by omega, by omega, by omega, fun r => by omega⟩

end Rect

/-! ## The pane that is found -/

section

variable {focused : PaneInfo} {direction : NavDirection} {panes : List PaneInfo}

/-- A pane that is looked for. -/
def Candidate (focused : PaneInfo) (direction : NavDirection) (panes : List PaneInfo)
    (p : PaneInfo) : Prop :=
  p ∈ panes ∧ p.id ≠ focused.id ∧ liesBeyond focused.rect direction p.rect = true

theorem exists_mem_zipIdx {p : PaneInfo} (hp : p ∈ panes) : ∃ i, (p, i) ∈ panes.zipIdx := by
  obtain ⟨i, hi⟩ := List.mem_iff_getElem?.1 hp
  exact ⟨i, List.mk_mem_zipIdx_iff_getElem?.2 hi⟩

theorem mem_beyond {entry : PaneInfo × ℕ} :
    entry ∈ (panes.zipIdx.filter fun (p, _) => p.id ≠ focused.id).filter
        (fun (p, _) => liesBeyond focused.rect direction p.rect) ↔
      entry ∈ panes.zipIdx ∧ entry.1.id ≠ focused.id ∧
        liesBeyond focused.rect direction entry.1.rect = true := by
  simp only [List.mem_filter, decide_eq_true_eq, and_assoc]

theorem findInDirection_eq_none :
    findInDirection focused direction panes = none ↔
      ∀ p, ¬ Candidate focused direction panes p := by
  simp only [findInDirection, Option.map_eq_none_iff, List.argmin_eq_none,
    List.eq_nil_iff_forall_not_mem, mem_beyond]
  constructor
  · rintro h p ⟨hp, hcandidate⟩
    obtain ⟨i, hi⟩ := exists_mem_zipIdx hp
    exact h (p, i) ⟨hi, hcandidate⟩
  · rintro h ⟨p, i⟩ ⟨hentry, hcandidate⟩
    exact h p ⟨List.fst_mem_of_mem_zipIdx hentry, hcandidate⟩

/-- The pane that is found is nearest, and of the nearest ones it shares the most. -/
theorem findInDirection_eq_some {id : PaneId}
    (h : findInDirection focused direction panes = some id) :
    ∃ p, Candidate focused direction panes p ∧ p.id = id ∧
      ∀ q, Candidate focused direction panes q →
        edgeDistance focused.rect direction p.rect ≤ edgeDistance focused.rect direction q.rect ∧
          (edgeDistance focused.rect direction q.rect = edgeDistance focused.rect direction p.rect →
            overlapAmount focused.rect direction q.rect ≤
              overlapAmount focused.rect direction p.rect) := by
  obtain ⟨⟨p, i⟩, hmin, rfl⟩ := Option.map_eq_some_iff.1 h
  obtain ⟨hentry, hcandidate⟩ := mem_beyond.1 (List.argmin_mem hmin)
  refine ⟨p, ⟨List.fst_mem_of_mem_zipIdx hentry, hcandidate⟩, rfl, fun q ⟨hq, hcandidate'⟩ => ?_⟩
  obtain ⟨j, hj⟩ := exists_mem_zipIdx hq
  have hle := List.le_of_mem_argmin (mem_beyond.2 ⟨hj, hcandidate'⟩) hmin
  rcases Prod.Lex.toLex_le_toLex.1 hle with hlt | ⟨hsame, hrest⟩
  · exact ⟨hlt.le, fun heq => absurd heq hlt.ne'⟩
  · refine ⟨hsame.le, fun _ => ?_⟩
    rcases Prod.Lex.toLex_le_toLex.1 hrest with hlt | ⟨hsame', -⟩
    · exact (OrderDual.toDual_lt_toDual.1 hlt).le
    · exact (OrderDual.toDual_inj.1 hsame').ge

end

/-- Of panes that tile an area, none is found exactly if the edge is on the border, and else one
that begins at the edge and shares some of it, and no other that begins there shares more. -/
theorem directional_complete {panes : List PaneInfo} {area : Rect} (harea : area.Fits)
    (hids : (panes.map (·.id)).Nodup) (hnonempty : ∀ p ∈ panes, p.rect.Nonempty)
    (htiles : Rect.Tiles (panes.map (·.rect)) area) {focused : PaneInfo}
    (hfocused : focused ∈ panes) (direction : NavDirection) :
    (findInDirection focused direction panes = none ↔
        focused.rect.edge direction = area.edge direction) ∧
      ∀ id, findInDirection focused direction panes = some id →
        ∃ p ∈ panes, p.id = id ∧ focused.rect.Faces direction p.rect ∧
          0 < focused.rect.sharedSpan direction p.rect ∧
          ∀ q ∈ panes, focused.rect.Faces direction q.rect →
            focused.rect.sharedSpan direction q.rect ≤
              focused.rect.sharedSpan direction p.rect := by
  have hfits {p : PaneInfo} (hp : p ∈ panes) : p.rect.Fits :=
    harea.within (htiles.within _ (List.mem_map_of_mem hp))
  -- A pane that faces the edge and shares some of it is not the one in focus.
  have hcandidate {p : PaneInfo} (hp : p ∈ panes) (hfaces : focused.rect.Faces direction p.rect)
      (hshared : 0 < focused.rect.sharedSpan direction p.rect) :
      Candidate focused direction panes p := by
    refine ⟨hp, fun hid => ?_, Rect.liesBeyond_of_faces (hfits hfocused) (hfits hp) hfaces hshared⟩
    obtain rfl := List.inj_on_of_nodup_map hids hp hfocused hid
    exact Rect.not_faces_self (hnonempty p hp) hfaces
  have habut (hborder : focused.rect.edge direction ≠ area.edge direction) :
      ∃ p, Candidate focused direction panes p ∧
        edgeDistance focused.rect direction p.rect = 0 := by
    obtain ⟨r, hr, hfaces, hshared⟩ := Rect.exists_abutting htiles
      (List.mem_map_of_mem hfocused) (hnonempty focused hfocused) hborder
    obtain ⟨p, hp, rfl⟩ := List.mem_map.1 hr
    exact ⟨p, hcandidate hp hfaces hshared,
      Rect.edgeDistance_of_faces (hfits hfocused) (hfits hp) hfaces⟩
  have hnone (hborder : focused.rect.edge direction = area.edge direction) (p : PaneInfo) :
      ¬ Candidate focused direction panes p := by
    rintro ⟨hp, -, hbeyond⟩
    rw [Rect.not_liesBeyond_border (hfits hfocused) (hfits hp) (hnonempty p hp)
      (htiles.within _ (List.mem_map_of_mem hp)) hborder] at hbeyond
    cases hbeyond
  refine ⟨?_, fun id hfound => ?_⟩
  · rw [findInDirection_eq_none]
    constructor
    · intro h
      by_contra hborder
      obtain ⟨p, hp, -⟩ := habut hborder
      exact h p hp
    · exact hnone
  · obtain ⟨p, hp, hid, hmin⟩ := findInDirection_eq_some hfound
    have hborder : focused.rect.edge direction ≠ area.edge direction := fun h => hnone h p hp
    obtain ⟨q, hq, hzero⟩ := habut hborder
    have hdistance : edgeDistance focused.rect direction p.rect = 0 :=
      Nat.le_zero.1 (hzero ▸ (hmin q hq).1)
    obtain ⟨hfaces, hshared⟩ := Rect.faces_of_edgeDistance (hfits hfocused) (hfits hp.1)
      (hnonempty p hp.1) (hnonempty focused hfocused) hp.2.2 hdistance
    refine ⟨p, hp.1, hid, hfaces, hshared, fun q hq hqfaces => ?_⟩
    by_cases hqshared : 0 < focused.rect.sharedSpan direction q.rect
    · have hle := (hmin q (hcandidate hq hqfaces hqshared)).2
        (by rw [hdistance, Rect.edgeDistance_of_faces (hfits hfocused) (hfits hq) hqfaces])
      rwa [Rect.overlapAmount_eq (hfits hfocused) (hfits hq),
        Rect.overlapAmount_eq (hfits hfocused) (hfits hp.1)] at hle
    · omega

def leftHalf : PaneInfo where
  id := ⟨1⟩
  rect := ⟨0, 0, 5, 10⟩
  isFocused := true

def rightHalf : PaneInfo where
  id := ⟨2⟩
  rect := ⟨5, 0, 5, 10⟩
  isFocused := false

theorem directional_complete_halves :
    (findInDirection leftHalf .right [leftHalf, rightHalf] = none ↔
        leftHalf.rect.edge .right = (⟨0, 0, 10, 10⟩ : Rect).edge .right) ∧
      ∀ id, findInDirection leftHalf .right [leftHalf, rightHalf] = some id →
        ∃ p ∈ [leftHalf, rightHalf], p.id = id ∧ leftHalf.rect.Faces .right p.rect ∧
          0 < leftHalf.rect.sharedSpan .right p.rect ∧
          ∀ q ∈ [leftHalf, rightHalf], leftHalf.rect.Faces .right q.rect →
            leftHalf.rect.sharedSpan .right q.rect ≤ leftHalf.rect.sharedSpan .right p.rect := by
  refine @directional_complete _ ⟨0, 0, 10, 10⟩ ⟨by decide, by decide⟩ (by decide) ?_ ?_ _
    List.mem_cons_self .right
  · simp [leftHalf, rightHalf, Rect.Nonempty]
  · refine ⟨by simp [leftHalf, rightHalf, Rect.Within], ?_, fun x y hxy => ?_⟩
    · simp only [leftHalf, rightHalf, List.map_cons, List.map_nil, List.pairwise_pair, Rect.Covers]
      intro x y hboth
      simp at hboth
      omega
    · simp [leftHalf, rightHalf, Rect.Covers] at hxy ⊢
      omega

example : findInDirection leftHalf .right [leftHalf, rightHalf] = some ⟨2⟩ := by decide

end Zynk
