import Zynk.Layout.Invariant

/-!
# Borders and their splits

A border that `splits` lists has the path of a split node, and every split node has one border
(`exists_mem_collectSplits`, `nodup_paths_collectSplits`). The path leads `get_ratio_at` and
`set_ratio_at` to that node (`Addresses`), and setting the ratio there sets no other (`SetsRatio`).

A resize sets the ratio of one border at most, to one between the bounds, and leaves everything else
as it was (`Resized`). Where no ratio is an infinity or a NaN, `resize_pane` reports whether it
changed one (`resizePane_snd_iff`).
-/

namespace Zynk

namespace Node

/-! ## The node at a path -/

/-- The node that a path leads to. -/
def descend : Node → List Bool → Option Node
  | node, [] => some node
  | pane _, _ :: _ => none
  | split _ _ _ second, true :: path => second.descend path
  | split _ _ first _, false :: path => first.descend path

/-- The tree without its ratios : shape, directions and panes. -/
def eraseRatios : Node → Node
  | pane id => pane id
  | split direction _ first second =>
    split direction halfRatio first.eraseRatios second.eraseRatios

/-- `node'` is `node` with the ratio of the split at `path` set to `r`. -/
structure SetsRatio (r : F32) (path : List Bool) (node node' : Node) : Prop where
  erased : node'.eraseRatios = node.eraseRatios
  set : node'.getRatioAt path = some r
  others : ∀ path', path' ≠ path → node'.getRatioAt path' = node.getRatioAt path'

/-- The path leads to a split. -/
def IsSplitAt (node : Node) (path : List Bool) : Prop :=
  ∃ direction ratio first second, node.descend path = some (split direction ratio first second)

variable {node : Node} {path : List Bool}

theorem getRatioAt_of_descend {first second : Node} {direction : Direction} {ratio : F32}
    (h : node.descend path = some (split direction ratio first second)) :
    node.getRatioAt path = some ratio := by
  fun_induction descend node path with
  | case1 node =>
    cases h
    rfl
  | case2 => cases h
  | case3 _ _ _ _ _ ih => exact ih h
  | case4 _ _ _ _ _ ih => exact ih h

theorem isSplitAt_iff : node.IsSplitAt path ↔ (node.getRatioAt path).isSome = true := by
  constructor
  · rintro ⟨direction, ratio, first, second, h⟩
    rw [getRatioAt_of_descend h]
    rfl
  · intro h
    fun_induction getRatioAt node path with
    | case1 => cases h
    | case2 direction ratio first second => exact ⟨direction, ratio, first, second, rfl⟩
    | case3 _ _ _ _ _ ih => exact ih h
    | case4 _ _ _ _ _ ih => exact ih h

/-! ## Setting a ratio -/

theorem setRatioAt_snd (r : F32) (node : Node) (path : List Bool) :
    (node.setRatioAt r path).2 = (node.getRatioAt path).isSome := by
  fun_induction setRatioAt r node path with
  | case1 => rfl
  | case2 => rfl
  | case3 _ _ _ _ _ _ _ h ih =>
    rw [h] at ih
    exact ih
  | case4 _ _ _ _ _ _ _ h ih =>
    rw [h] at ih
    exact ih

theorem eraseRatios_setRatioAt (r : F32) (node : Node) (path : List Bool) :
    (node.setRatioAt r path).1.eraseRatios = node.eraseRatios := by
  fun_induction setRatioAt r node path with
  | case1 => rfl
  | case2 => rfl
  | case3 direction _ first _ _ _ _ h ih =>
    rw [h] at ih
    exact congrArg (split direction halfRatio first.eraseRatios) ih
  | case4 direction _ _ second _ _ _ h ih =>
    rw [h] at ih
    exact congrArg (split direction halfRatio · second.eraseRatios) ih

theorem getRatioAt_setRatioAt_ne (r : F32) (node : Node) {path' : List Bool} (hne : path' ≠ path) :
    (node.setRatioAt r path).1.getRatioAt path' = node.getRatioAt path' := by
  fun_induction setRatioAt r node path generalizing path' with
  | case1 => rfl
  | case2 =>
    rcases path' with _ | ⟨_ | _, path'⟩
    · exact absurd rfl hne
    · rfl
    · rfl
  | case3 _ _ _ _ _ _ _ h ih =>
    rw [h] at ih
    rcases path' with _ | ⟨_ | _, path'⟩
    · rfl
    · rfl
    · exact ih fun heq ↦ hne (congrArg _ heq)
  | case4 _ _ _ _ _ _ _ h ih =>
    rw [h] at ih
    rcases path' with _ | ⟨_ | _, path'⟩
    · rfl
    · exact ih fun heq ↦ hne (congrArg _ heq)
    · rfl

theorem getRatioAt_setRatioAt_self (r : F32) (node : Node) (path : List Bool) :
    (node.setRatioAt r path).1.getRatioAt path = (node.getRatioAt path).map fun _ ↦ r := by
  fun_induction setRatioAt r node path with
  | case1 => rfl
  | case2 => rfl
  | case3 _ _ _ _ _ _ _ h ih =>
    rw [h] at ih
    exact ih
  | case4 _ _ _ _ _ _ _ h ih =>
    rw [h] at ih
    exact ih

theorem AllRatios.getRatioAt {P : F32 → Prop} (h : node.AllRatios P) {ratio : F32}
    (hratio : node.getRatioAt path = some ratio) : P ratio := by
  fun_induction Node.getRatioAt node path with
  | case1 => cases hratio
  | case2 =>
    cases hratio
    exact h.1
  | case3 _ _ _ _ _ ih => exact ih h.2.2 hratio
  | case4 _ _ _ _ _ ih => exact ih h.2.1 hratio

/-- Setting the ratio that is there sets nothing. -/
theorem setRatioAt_of_getRatioAt {r : F32} (h : node.getRatioAt path = some r) :
    (node.setRatioAt r path).1 = node := by
  fun_induction setRatioAt r node path with
  | case1 => rfl
  | case2 =>
    cases h
    rfl
  | case3 direction ratio first second path second' found heq ih =>
    rw [heq] at ih
    exact congrArg (split direction ratio first) (ih h)
  | case4 direction ratio first second path first' found heq ih =>
    rw [heq] at ih
    exact congrArg (split direction ratio · second) (ih h)

/-- The split at the path keeps its direction and its children. -/
theorem descend_setRatioAt (r : F32) {first second : Node} {direction : Direction} {ratio : F32}
    (h : node.descend path = some (split direction ratio first second)) :
    (node.setRatioAt r path).1.descend path = some (split direction r first second) := by
  fun_induction descend node path with
  | case1 node =>
    cases h
    rfl
  | case2 => cases h
  | case3 _ _ _ _ _ ih => exact ih h
  | case4 _ _ _ _ _ ih => exact ih h

theorem setRatioAt_setsRatio (r : F32) (h : node.IsSplitAt path) :
    SetsRatio r path node (node.setRatioAt r path).1 := by
  refine ⟨eraseRatios_setRatioAt r node path, ?_,
    fun path' hne ↦ getRatioAt_setRatioAt_ne r node hne⟩
  obtain ⟨ratio, hratio⟩ := Option.isSome_iff_exists.1 (isSplitAt_iff.1 h)
  rw [getRatioAt_setRatioAt_self, hratio, Option.map_some]

/-! ## The borders of a tree -/

/-- The border is the one of the split at its path, which getting and setting a ratio find. -/
structure Addresses (node : Node) (border : SplitBorder) : Prop where
  split : ∃ first second,
    node.descend border.path = some (.split border.direction border.ratio first second) ∧
      ∀ r, (node.setRatioAt r border.path).1.descend border.path =
        some (.split border.direction r first second)
  get : node.getRatioAt border.path = some border.ratio
  set : ∀ r, (node.setRatioAt r border.path).2 = true ∧
    SetsRatio r border.path node (node.setRatioAt r border.path).1

theorem Addresses.of_descend {first second : Node} {border : SplitBorder}
    (h : node.descend border.path = some (.split border.direction border.ratio first second)) :
    node.Addresses border := by
  have hsplit : node.IsSplitAt border.path := ⟨_, _, _, _, h⟩
  refine ⟨⟨first, second, h, fun r ↦ descend_setRatioAt r h⟩, getRatioAt_of_descend h, fun r ↦ ?_⟩
  exact ⟨(setRatioAt_snd r node border.path).trans (isSplitAt_iff.1 hsplit),
    setRatioAt_setsRatio r hsplit⟩

/-- The borders of a subtree have the path of the subtree and a path in it. -/
theorem mem_collectSplits {area : Rect} {lead : List Bool} {border : SplitBorder}
    (h : border ∈ node.collectSplits area lead) : ∃ path first second, border.path = lead ++ path ∧
      node.descend path = some (.split border.direction border.ratio first second) := by
  induction node generalizing area lead with
  | pane id => cases h
  | split direction ratio first second ih₁ ih₂ =>
    simp only [collectSplits, List.mem_cons, List.mem_append] at h
    rcases h with rfl | h | h
    · exact ⟨[], first, second, (List.append_nil lead).symm, rfl⟩
    · obtain ⟨path, first', second', hpath, hdescend⟩ := ih₁ h
      exact ⟨false :: path, first', second', by rw [hpath, List.append_assoc]; rfl, hdescend⟩
    · obtain ⟨path, first', second', hpath, hdescend⟩ := ih₂ h
      exact ⟨true :: path, first', second', by rw [hpath, List.append_assoc]; rfl, hdescend⟩

/-- Every split has a border. -/
theorem exists_mem_collectSplits (h : node.IsSplitAt path) (area : Rect) (lead : List Bool) :
    ∃ border ∈ node.collectSplits area lead, border.path = lead ++ path := by
  obtain ⟨direction, ratio, first, second, h⟩ := h
  fun_induction descend node path generalizing area lead with
  | case1 node =>
    cases h
    exact ⟨_, List.mem_cons_self, (List.append_nil lead).symm⟩
  | case2 => cases h
  | case3 _ _ _ _ path ih =>
    obtain ⟨border, hborder, hpath⟩ := ih (splitRect area _ _).2 (lead ++ [true]) h
    refine ⟨border, List.mem_cons_of_mem _ (List.mem_append_right _ hborder), ?_⟩
    rw [hpath, List.append_assoc]
    rfl
  | case4 _ _ _ _ path ih =>
    obtain ⟨border, hborder, hpath⟩ := ih (splitRect area _ _).1 (lead ++ [false]) h
    refine ⟨border, List.mem_cons_of_mem _ (List.mem_append_left _ hborder), ?_⟩
    rw [hpath, List.append_assoc]
    rfl

/-- No split has two. -/
theorem nodup_paths_collectSplits (node : Node) (area : Rect) (lead : List Bool) :
    ((node.collectSplits area lead).map (·.path)).Nodup := by
  induction node generalizing area lead with
  | pane id => exact List.nodup_nil
  | split direction ratio first second ih₁ ih₂ =>
    simp only [collectSplits, List.map_cons, List.map_append, List.nodup_cons, List.mem_append,
      List.mem_map, not_or]
    have hbelow {child : Node} {rect : Rect} {bit : Bool} {path : List Bool}
        (h : ∃ border ∈ child.collectSplits rect (lead ++ [bit]), border.path = path) :
        ∃ rest, path = lead ++ bit :: rest := by
      obtain ⟨border, hborder, rfl⟩ := h
      obtain ⟨rest, _, _, hpath, -⟩ := mem_collectSplits hborder
      exact ⟨rest, by rw [hpath, List.append_assoc]; rfl⟩
    refine ⟨⟨fun h ↦ ?_, fun h ↦ ?_⟩, List.nodup_append.2 ⟨ih₁ _ _, ih₂ _ _, ?_⟩⟩
    · obtain ⟨rest, hpath⟩ := hbelow h
      simp at hpath
    · obtain ⟨rest, hpath⟩ := hbelow h
      simp at hpath
    · rintro path hfirst path' hsecond rfl
      obtain ⟨rest, hpath⟩ := hbelow (List.mem_map.1 hfirst)
      obtain ⟨rest', hpath'⟩ := hbelow (List.mem_map.1 hsecond)
      simp [hpath] at hpath'

end Node

/-! ## Ratios between the bounds -/

/-- A number from a tenth to nine tenths. -/
def InRatioBounds (r : F32) : Prop :=
  ∃ n mag, r = .finite n mag ∧ 1 / 10 ≤ F32.signed n mag ∧ F32.signed n mag ≤ 9 / 10

theorem InRatioBounds.regular {r : F32} (h : InRatioBounds r) : r.Regular := by
  obtain ⟨n, mag, rfl, hlow, -⟩ := h
  have hmag : (0 : ℚ) ≤ mag := mag.2
  rcases n with _ | _
  · have hle : (1 / 10 : ℚ) ≤ mag := by simpa [F32.signed] using hlow
    have hpos : (0 : ℚ) < mag := by linarith
    exact ⟨rfl, by exact_mod_cast hpos⟩
  · simp only [F32.signed, if_true] at hlow
    linarith

theorem add_ne_nan {x y : F32} (hx : x.isFinite = true) (hy : y.isFinite = true) :
    x.add y ≠ .nan := by
  rcases x with _ | n | ⟨n, mag⟩
  · cases hx
  · cases hx
  · rcases y with _ | n' | ⟨n', mag'⟩
    · cases hy
    · cases hy
    · simp only [F32.add, F32.rounded]
      split_ifs <;> simp

theorem isFinite_neg (x : F32) : x.neg.isFinite = x.isFinite := by
  cases x <;> rfl

theorem clampRatio_inRatioBounds {r : F32} (h : r ≠ .nan) : InRatioBounds (clampRatio r) := by
  have hmin : InRatioBounds minRatio :=
    ⟨_, _, rfl, by norm_num [F32.signed], by norm_num [F32.signed]⟩
  have hmax : InRatioBounds maxRatio :=
    ⟨_, _, rfl, by norm_num [F32.signed], by norm_num [F32.signed]⟩
  have hminmax : maxRatio.lt minRatio = false := by
    norm_num [maxRatio, minRatio, F32.lt, F32.signed]
  simp only [clampRatio, F32.clamp]
  by_cases hlow : r.lt minRatio = true
  · rw [if_pos hlow, if_neg (by rw [hminmax]; exact Bool.false_ne_true)]
    exact hmin
  · rw [if_neg hlow]
    by_cases hhigh : maxRatio.lt r = true
    · rw [if_pos hhigh]
      exact hmax
    · rw [if_neg hhigh]
      rcases r with _ | n | ⟨n, mag⟩
      · exact absurd rfl h
      · cases n
        · exact absurd rfl hhigh
        · exact absurd rfl hlow
      · have hle : F32.signed false (13421773 / 134217728) ≤ F32.signed n mag := by
          simpa [F32.lt, minRatio] using hlow
        have hge : F32.signed n mag ≤ F32.signed false (15099494 / 16777216) := by
          simpa [F32.lt, maxRatio] using hhigh
        exact ⟨n, mag, rfl, le_trans (by norm_num [F32.signed]) hle,
          le_trans hge (by norm_num [F32.signed])⟩

namespace TileLayout

/-! ## Resizing -/

/-- What a resize may do : set one ratio, to one between the bounds. -/
structure Resized (l l' : TileLayout) : Prop where
  shape : l'.root.eraseRatios = l.root.eraseRatios
  paneIds : l'.paneIds = l.paneIds
  focus : l'.focus = l.focus
  prevFocus : l'.prevFocus = l.prevFocus
  one : ∃ path, ∀ path', path' ≠ path → l'.root.getRatioAt path' = l.root.getRatioAt path'
  bounds : ∀ path r, l'.root.getRatioAt path = some r → l.root.getRatioAt path ≠ some r →
    InRatioBounds r

theorem Resized.refl (l : TileLayout) : Resized l l :=
  ⟨rfl, rfl, rfl, rfl, ⟨[], fun _ _ ↦ rfl⟩, fun _ _ h h' ↦ absurd h h'⟩

theorem setRatioAt_resized (l : TileLayout) (path : List Bool) {ratio : F32} (h : ratio ≠ .nan) :
    Resized l (l.setRatioAt path ratio).1 where
  shape := Node.eraseRatios_setRatioAt _ _ _
  paneIds := Node.paneIds_setRatioAt _ _ _
  focus := rfl
  prevFocus := rfl
  one := ⟨path, fun _ hne ↦ Node.getRatioAt_setRatioAt_ne _ _ hne⟩
  bounds path' r hset hchanged := by
    by_cases heq : path' = path
    · rw [heq, setRatioAt, Node.getRatioAt_setRatioAt_self] at hset
      obtain ⟨-, -, rfl⟩ := Option.map_eq_some_iff.1 hset
      exact clampRatio_inRatioBounds h
    · exact absurd ((Node.getRatioAt_setRatioAt_ne _ _ heq).symm.trans hset) hchanged

variable {l : TileLayout} {delta : F32}

/-- A resize sets the ratio of one border, to a number. -/
theorem resizeFocused_cases (h : l.root.AllRatios (·.isFinite = true)) (nav : NavDirection)
    (hdelta : delta.isFinite = true) (area : Rect) : l.resizeFocused nav delta area = l ∨
      ∃ path ratio, ratio ≠ .nan ∧
        l.resizeFocused nav delta area = (l.setRatioAt path ratio).1 := by
  unfold resizeFocused
  split
  · exact Or.inl rfl
  · rename_i border _
    refine Or.inr ⟨border.path, _, add_ne_nan ?_ ?_, rfl⟩
    · cases hratio : l.root.getRatioAt border.path with
      | none => rfl
      | some ratio => exact h.getRatioAt hratio
    · split
      · exact hdelta
      · rw [isFinite_neg, hdelta]

theorem resizeFocused_resized (h : l.root.AllRatios (·.isFinite = true)) (nav : NavDirection)
    (hdelta : delta.isFinite = true) (area : Rect) :
    Resized l (l.resizeFocused nav delta area) := by
  rcases resizeFocused_cases h nav hdelta area with hsame | ⟨path, ratio, hratio, hset⟩
  · rw [hsame]
    exact .refl l
  · rw [hset]
    exact setRatioAt_resized l path hratio

/-- The pane that is resized has the focus only for the search. -/
theorem resizePane_cases_of_finite (h : l.root.AllRatios (·.isFinite = true)) (paneId : PaneId)
    (nav : NavDirection) (hdelta : delta.isFinite = true) (area : Rect) :
    l.resizePane paneId nav delta area = (l, false) ∨
      l.resizePane paneId nav delta area =
        (l, !ratiosEq l.root.splitRatios l.root.splitRatios) ∨
      ∃ path ratio, ratio ≠ .nan ∧ l.resizePane paneId nav delta area =
        ((l.setRatioAt path ratio).1,
          !ratiosEq (l.setRatioAt path ratio).1.root.splitRatios l.root.splitRatios) := by
  unfold resizePane
  split
  · rcases resizeFocused_cases (l := { l with focus := paneId }) h nav hdelta area with
      hsame | ⟨path, ratio, hratio, hset⟩
    · simp only [hsame]
      exact Or.inr (Or.inl trivial)
    · refine Or.inr (Or.inr ⟨path, ratio, hratio, ?_⟩)
      simp only [hset]
      rfl
  · exact Or.inl rfl

theorem resizePane_resized (h : l.root.AllRatios (·.isFinite = true)) (paneId : PaneId)
    (nav : NavDirection) (hdelta : delta.isFinite = true) (area : Rect) :
    Resized l (l.resizePane paneId nav delta area).1 := by
  rcases resizePane_cases_of_finite h paneId nav hdelta area with
    heq | heq | ⟨path, ratio, hratio, heq⟩
  · rw [heq]
    exact .refl l
  · rw [heq]
    exact .refl l
  · rw [heq]
    exact setRatioAt_resized l path hratio

/-! ## What a resize reports -/

theorem ratiosEq_append {a a' : List (List Bool × F32)} (h : a.length = a'.length)
    (b b' : List (List Bool × F32)) :
    ratiosEq (a ++ b) (a' ++ b') = (ratiosEq a a' && ratiosEq b b') := by
  induction a generalizing a' with
  | nil =>
    obtain rfl := List.length_eq_zero_iff.1 h.symm
    rfl
  | cons entry a ih =>
    rcases a' with _ | ⟨entry', a'⟩
    · cases h
    · simp only [List.cons_append, ratiosEq, ih (Nat.succ.inj h), Bool.and_assoc]

theorem ratiosEq_refl {node : Node} (h : node.AllRatios (·.isFinite = true)) (lead : List Bool) :
    ratiosEq (node.splitRatiosFrom lead) (node.splitRatiosFrom lead) = true := by
  induction node generalizing lead with
  | pane id => rfl
  | split direction ratio first second ih₁ ih₂ =>
    obtain ⟨hratio, hfirst, hsecond⟩ := h
    have heq : ratio.eq ratio = true := by
      rcases ratio with _ | n | ⟨n, mag⟩
      · cases hratio
      · cases hratio
      · simp [F32.eq]
    simp only [Node.splitRatiosFrom, ratiosEq, ratiosEq_append rfl, ih₁ hfirst, ih₂ hsecond, heq,
      BEq.rfl, Bool.and_self]

theorem length_splitRatiosFrom_setRatioAt (r : F32) (node : Node) (path lead : List Bool) :
    ((node.setRatioAt r path).1.splitRatiosFrom lead).length =
      (node.splitRatiosFrom lead).length := by
  fun_induction Node.setRatioAt r node path generalizing lead with
  | case1 => rfl
  | case2 => rfl
  | case3 _ _ _ _ _ _ _ h ih =>
    rw [h] at ih
    simp only [Node.splitRatiosFrom, List.length_cons, List.length_append, ih]
  | case4 _ _ _ _ _ _ _ h ih =>
    rw [h] at ih
    simp only [Node.splitRatiosFrom, List.length_cons, List.length_append, ih]

/-- Equal lists of ratios : the one that was set compares equal to the one before. -/
theorem eq_of_ratiosEq_setRatioAt {r ratio : F32} {node : Node} {path lead : List Bool}
    (h : ratiosEq ((node.setRatioAt r path).1.splitRatiosFrom lead) (node.splitRatiosFrom lead) =
      true) (hratio : node.getRatioAt path = some ratio) : r.eq ratio = true := by
  fun_induction Node.setRatioAt r node path generalizing lead with
  | case1 => cases hratio
  | case2 =>
    cases hratio
    simp only [Node.splitRatiosFrom, ratiosEq, Bool.and_eq_true] at h
    exact h.1.2
  | case3 direction old first second path second' found heq ih =>
    rw [heq] at ih
    simp only [Node.splitRatiosFrom, ratiosEq, ratiosEq_append rfl, Bool.and_eq_true] at h
    exact ih h.2.2 hratio
  | case4 direction old first second path first' found heq ih =>
    have hlength := length_splitRatiosFrom_setRatioAt r first path (lead ++ [false])
    rw [heq] at ih hlength
    simp only [Node.splitRatiosFrom, ratiosEq, ratiosEq_append hlength, Bool.and_eq_true] at h
    exact ih h.2.1 hratio

/-- Setting a ratio to a number between the bounds is seen exactly where it changes the ratio. -/
theorem ratiosEq_setRatioAt_iff {node : Node} (h : node.AllRatios (·.isFinite = true))
    {r : F32} (hr : InRatioBounds r) (path : List Bool) :
    ratiosEq (node.setRatioAt r path).1.splitRatios node.splitRatios = true ↔
      ∀ path', (node.setRatioAt r path).1.getRatioAt path' = node.getRatioAt path' := by
  have hself (hgot : node.getRatioAt path = none ∨ node.getRatioAt path = some r) :
      (node.setRatioAt r path).1 = node := by
    rcases hgot with hnone | hsome
    · refine Node.setRatioAt_eq_self ?_
      rw [Node.setRatioAt_snd, hnone]
      rfl
    · exact Node.setRatioAt_of_getRatioAt hsome
  constructor
  · intro heq path'
    cases hratio : node.getRatioAt path with
    | none => rw [hself (Or.inl hratio)]
    | some ratio =>
      have hsame : r = ratio := hr.regular.eq_of_eq (eq_of_ratiosEq_setRatioAt heq hratio)
      rw [hself (Or.inr (by rw [hratio, hsame]))]
  · intro hsame
    rw [hself, Node.splitRatios, ratiosEq_refl h]
    have hat := hsame path
    rw [Node.getRatioAt_setRatioAt_self] at hat
    cases hratio : node.getRatioAt path with
    | none => exact Or.inl rfl
    | some ratio =>
      rw [hratio, Option.map_some] at hat
      exact Or.inr hat.symm

/-- `resize_pane` reports whether it changed a ratio. -/
theorem resizePane_snd_iff (h : l.root.AllRatios (·.isFinite = true)) (paneId : PaneId)
    (nav : NavDirection) (hdelta : delta.isFinite = true) (area : Rect) :
    (l.resizePane paneId nav delta area).2 = true ↔
      ∃ path, (l.resizePane paneId nav delta area).1.root.getRatioAt path ≠
        l.root.getRatioAt path := by
  rcases resizePane_cases_of_finite h paneId nav hdelta area with
    heq | heq | ⟨path, ratio, hratio, heq⟩
  · simp [heq]
  · simp [heq, Node.splitRatios, ratiosEq_refl h]
  · have hiff := ratiosEq_setRatioAt_iff h (clampRatio_inRatioBounds hratio) path
    rw [heq]
    simp only [Bool.not_eq_true', ← Bool.not_eq_true, ne_eq, ← not_forall]
    exact not_congr hiff

end TileLayout

/-! ## Borders and resizes -/

/-- Each border is of one split and each split has one border; a resize sets one ratio at most, and
`resize_pane` reports whether it did. -/
theorem borders_address_splits (l : TileLayout) (area : Rect) :
    (((l.splits area).map (·.path)).Nodup ∧
      (∀ path, path ∈ (l.splits area).map (·.path) ↔ l.root.IsSplitAt path) ∧
      ∀ border ∈ l.splits area, l.root.Addresses border) ∧
    (l.root.AllRatios (·.isFinite = true) → ∀ nav delta, delta.isFinite = true →
      TileLayout.Resized l (l.resizeFocused nav delta area) ∧
      ∀ paneId, TileLayout.Resized l (l.resizePane paneId nav delta area).1 ∧
        ((l.resizePane paneId nav delta area).2 = true ↔
          ∃ path, (l.resizePane paneId nav delta area).1.root.getRatioAt path ≠
            l.root.getRatioAt path)) := by
  refine ⟨⟨Node.nodup_paths_collectSplits _ _ _, fun path ↦ ?_, fun border hborder ↦ ?_⟩,
    fun h nav delta hdelta ↦ ⟨TileLayout.resizeFocused_resized h nav hdelta area, fun paneId ↦
      ⟨TileLayout.resizePane_resized h paneId nav hdelta area,
        TileLayout.resizePane_snd_iff h paneId nav hdelta area⟩⟩⟩
  · rw [List.mem_map]
    constructor
    · rintro ⟨border, hborder, rfl⟩
      obtain ⟨path, first, second, hpath, hdescend⟩ := Node.mem_collectSplits hborder
      rw [List.nil_append] at hpath
      exact ⟨_, _, first, second, hpath ▸ hdescend⟩
    · exact fun hsplit ↦ Node.exists_mem_collectSplits hsplit area []
  · obtain ⟨path, first, second, hpath, hdescend⟩ := Node.mem_collectSplits hborder
    rw [List.nil_append] at hpath
    exact .of_descend (hpath ▸ hdescend)

def leftAndRight : TileLayout :=
  .fromSaved (.split .horizontal halfRatio (.pane ⟨1⟩) (.pane ⟨2⟩)) ⟨1⟩

theorem borders_address_splits_halves :
    TileLayout.Resized leftAndRight
      (leftAndRight.resizeFocused .right (.finite false (1 / 20)) ⟨0, 0, 80, 24⟩) :=
  ((borders_address_splits leftAndRight ⟨0, 0, 80, 24⟩).2 ⟨rfl, trivial, trivial⟩ .right _ rfl).1

end Zynk
