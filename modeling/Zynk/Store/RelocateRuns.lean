import Mathlib.Data.Fintype.Basic
import Zynk.Store.RelocateAlone

/-!
# Concurrent relocations

Any number of relocations of one path take their calls in any order. `Shared` is the file system,
with the slot that each run has made.

A run that succeeds may leave a member behind : its rescan finds the member absent because another
run has it in its slot, and that run moves it back afterwards (`split_behind_success`). In runs
where no rescan looks for a member that another run has in its slot, the members stay together
(`relocations_together`).

The proof is by rely and guarantee. `Custody` is the invariant of the shared state : each member is
at the source or in the slot of one run. A run relies on the others to keep it, and to leave its own
slot alone (`Relies`).
-/

set_option linter.unusedSectionVars false

open StepRun FilePath

namespace Zynk.Cutover

/-! ## The system -/

variable {ι : Type} [DecidableEq ι]

structure Shared (ι : Type) where
  fs : FileSystem
  /-- The slot that a run has made, and has not removed. -/
  slots : ι → Option FilePath

/-- The slots after a call of run `i`. -/
def ownedAfter (i : ι) (slots : ι → Option FilePath) : (op : FsOp) → op.Res → ι → Option FilePath
  | .mkdir slot, .ok () => Function.update slots i (some slot)
  | .rmdir _, .ok () => Function.update slots i none
  | _, _ => slots

def actShared (i : ι) (e : FsEvent) (σ : Shared ι) (op : FsOp) : op.Res × Shared ι :=
  ((act e σ.fs op).1, ⟨(act e σ.fs op).2, ownedAfter i σ.slots op (act e σ.fs op).1⟩)

/-- The last name of the path. -/
def mainName (path : FilePath) : String :=
  (fileName path).getD ""

/-- A rescan of a member (an inspection by a run that has its slot) does not come while the member
is in the slot of another run. -/
def RescanSound (path : FilePath) (i : ι) (σ : Shared ι) (op : FsOp) : Prop :=
  ∀ s ∈ bundleMembers, op = .entry (sidecar path s) → σ.slots i ≠ none →
    ∀ j, j ≠ i → ∀ slot, σ.slots j = some slot →
      σ.fs.lookup (inSlot slot (mainName path) s) = none

def RelocationAllowed (path : FilePath) (i : ι) (e : FsEvent) (σ : Shared ι) (op : FsOp) : Prop :=
  FaultAllowed e op ∧ RescanSound path i σ op

instance [Fintype ι] (path : FilePath) (i : ι) (e : FsEvent) (σ : Shared ι) (op : FsOp) :
    Decidable (RelocationAllowed path i e σ op) :=
  inferInstanceAs (Decidable (FaultAllowed e op ∧
    ∀ s ∈ bundleMembers, op = .entry (sidecar path s) → σ.slots i ≠ none →
      ∀ j, j ≠ i → ∀ slot, slot ∈ σ.slots j → σ.fs.lookup (inSlot slot (mainName path) s) = none))

/-- All runs are at their start. -/
def relocations (ι : Type) (path : FilePath) (fs : FileSystem) :
    Shared ι × (ι → FsScript (Except RelocateError RelocateOutcome)) :=
  (⟨fs, fun _ => none⟩, fun _ => relocateBundleWith path)

/-- A success has all members in its slot, and with no success each member is at the source or in
the slot of a run that lists it. -/
def BundleTogether (path : FilePath) (fs fs' : FileSystem)
    (results : ι → Except RelocateError RelocateOutcome) : Prop :=
  (∀ i outcome, results i = .ok outcome → ∀ s ∈ bundleMembers, ∀ e,
    fs.lookup (sidecar path s) = some e →
      fs'.lookup (inSlot outcome.movedTo (mainName path) s) = some e ∧
        fs'.lookup (sidecar path s) = none) ∧
  ((∀ i outcome, results i ≠ .ok outcome) → ∀ s ∈ bundleMembers, ∀ e,
    fs.lookup (sidecar path s) = some e →
      fs'.lookup (sidecar path s) = some e ∨
        ∃ i failure slot notRestored, results i = .error (.failed failure slot notRestored) ∧
          sidecar path s ∈ notRestored.map (·.1) ∧
            fs'.lookup (inSlot slot (mainName path) s) = some e)

/-! ## Custody -/

/-- Each member is at the source, or in the slot of the run `place` says. -/
structure Custody (path : FilePath) (fs₀ : FileSystem) (σ : Shared ι) (place : String → Option ι) :
    Prop where
  slots : ∀ i slot, σ.slots i = some slot → IsSlot path slot ∧ σ.fs.lookup slot ≠ none
  distinct : ∀ i j slot, σ.slots i = some slot → σ.slots j = some slot → i = j
  owned : ∀ s i, place s = some i → σ.slots i ≠ none
  source : ∀ s ∈ bundleMembers, σ.fs.lookup (sidecar path s) =
    if place s = none then fs₀.lookup (sidecar path s) else none
  inSlots : ∀ s ∈ bundleMembers, ∀ i slot, σ.slots i = some slot →
    σ.fs.lookup (inSlot slot (mainName path) s) =
      if place s = some i then fs₀.lookup (sidecar path s) else none

def Kept (path : FilePath) (fs₀ : FileSystem) (σ : Shared ι) : Prop :=
  ∃ place, Custody path fs₀ σ place

/-- What run `i` relies on. -/
def Relies (path : FilePath) (fs₀ : FileSystem) (i : ι) (σ σ' : Shared ι) : Prop :=
  Kept path fs₀ σ → Kept path fs₀ σ' ∧ σ'.slots i = σ.slots i ∧
    ∀ slot, σ.slots i = some slot → ∀ s ∈ bundleMembers,
      σ'.fs.lookup (inSlot slot (mainName path) s) = σ.fs.lookup (inSlot slot (mainName path) s)

def runContract (path : FilePath) (fs₀ : FileSystem) (i : ι) :
    Contract FsOp FsOp.Res FsEvent (Shared ι) where
  act := actShared i
  allowed := RelocationAllowed path i
  guar σ σ' := ∀ j, j ≠ i → Relies path fs₀ j σ σ'
  rely := Relies path fs₀ i

section

variable {path slot : FilePath} {fs₀ fs' : FileSystem} {i : ι} {σ σ' : Shared ι}
  {place : String → Option ι}

theorem relies_refl (path : FilePath) (fs₀ : FileSystem) (i : ι) (σ : Shared ι) :
    Relies path fs₀ i σ σ :=
  fun h => ⟨h, rfl, fun _ _ _ _ => rfl⟩

theorem Relies.trans {σ'' : Shared ι} (h : Relies path fs₀ i σ σ') (h' : Relies path fs₀ i σ' σ'') :
    Relies path fs₀ i σ σ'' := by
  intro hkept
  obtain ⟨hkept', hslots, hlookup⟩ := h hkept
  obtain ⟨hkept'', hslots', hlookup'⟩ := h' hkept'
  refine ⟨hkept'', hslots'.trans hslots, fun slot hslot s hs => ?_⟩
  rw [hlookup' slot (hslots.trans hslot) s hs, hlookup slot hslot s hs]

/-- The members in the slot of run `i` are those with `K`. -/
structure Holds (path : FilePath) (fs₀ : FileSystem) (i : ι) (slot : FilePath) (K : String → Prop)
    (σ : Shared ι) : Prop where
  kept : Kept path fs₀ σ
  owns : σ.slots i = some slot
  members : ∀ s ∈ bundleMembers, (σ.fs.lookup (inSlot slot (mainName path) s) ≠ none ↔ K s)

/-- Run `i` has no slot. -/
def Idle (path : FilePath) (fs₀ : FileSystem) (i : ι) (σ : Shared ι) : Prop :=
  Kept path fs₀ σ ∧ σ.slots i = none

variable {K : String → Prop}

theorem Holds.relies (h : Holds path fs₀ i slot K σ) (hrelies : Relies path fs₀ i σ σ') :
    Holds path fs₀ i slot K σ' := by
  obtain ⟨hkept, hslots, hlookup⟩ := hrelies h.kept
  refine ⟨hkept, hslots.trans h.owns, fun s hs => ?_⟩
  rw [hlookup slot h.owns s hs]
  exact h.members s hs

theorem Idle.relies (h : Idle path fs₀ i σ) (hrelies : Relies path fs₀ i σ σ') :
    Idle path fs₀ i σ' := by
  obtain ⟨hkept, hslots, -⟩ := hrelies h.1
  exact ⟨hkept, hslots.trans h.2⟩

theorem Holds.isSlot (h : Holds path fs₀ i slot K σ) : IsSlot path slot := by
  obtain ⟨place, hcustody⟩ := h.kept
  exact (hcustody.slots i slot h.owns).1

/-! ### Making and removing a slot -/

theorem Custody.mkdir {identity : FileIdentity} (h : Custody path fs₀ σ place)
    (hidle : σ.slots i = none) (hslot : IsSlot path slot)
    (hmkdir : σ.fs.mkdir slot identity = .ok fs') :
    Custody path fs₀ ⟨fs', Function.update σ.slots i (some slot)⟩ place := by
  obtain ⟨hfree, -, hlookup⟩ := FileSystem.mkdir_ok hmkdir
  have hother : ∀ {j : ι} {slot' : FilePath}, j ≠ i → σ.slots j = some slot' → slot' ≠ slot := by
    rintro j slot' - hj rfl
    exact (h.slots j slot' hj).2 hfree
  refine ⟨fun j slot' hj => ?_, fun j k slot' hj hk => ?_, fun s j hj => ?_, fun s hs => ?_,
    fun s hs j slot' hj => ?_⟩
  · simp only at hj ⊢
    rw [hlookup]
    by_cases hji : j = i
    · subst hji
      rw [Function.update_self, Option.some.injEq] at hj
      subst hj
      rw [if_pos rfl]
      exact ⟨hslot, by simp⟩
    · rw [Function.update_of_ne hji] at hj
      rw [if_neg (hother hji hj)]
      exact h.slots j slot' hj
  · simp only at hj hk
    by_cases hji : j = i
    · by_cases hki : k = i
      · rw [hji, hki]
      · rw [hji, Function.update_self, Option.some.injEq] at hj
        rw [Function.update_of_ne hki] at hk
        exact absurd hj.symm (hother hki hk)
    · rw [Function.update_of_ne hji] at hj
      by_cases hki : k = i
      · rw [hki, Function.update_self, Option.some.injEq] at hk
        exact absurd hk.symm (hother hji hj)
      · rw [Function.update_of_ne hki] at hk
        exact h.distinct j k slot' hj hk
  · simp only
    by_cases hji : j = i
    · rw [hji, Function.update_self]
      simp
    · rw [Function.update_of_ne hji]
      exact h.owned s j hj
  · simp only
    rw [hlookup, if_neg (member_ne_slot hs hslot)]
    exact h.source s hs
  · simp only at hj ⊢
    have hne : inSlot slot' (mainName path) s ≠ slot := by
      have hslot' : IsSlot path slot' := by
        by_cases hji : j = i
        · rw [hji, Function.update_self, Option.some.injEq] at hj
          rwa [← hj]
        · rw [Function.update_of_ne hji] at hj
          exact (h.slots j slot' hj).1
      exact inSlot_ne_slot hslot' hslot
    rw [hlookup, if_neg hne]
    by_cases hji : j = i
    · subst hji
      rw [Function.update_self, Option.some.injEq] at hj
      subst hj
      rw [if_neg fun hplace => h.owned s j hplace hidle]
      exact FileSystem.lookup_append_of_none hslot.ne_nil hfree _
    · rw [Function.update_of_ne hji] at hj
      exact h.inSlots s hs j slot' hj

theorem Custody.rmdir (h : Custody path fs₀ σ place) (hslot : σ.slots i = some slot)
    (hrmdir : σ.fs.rmdir slot = .ok fs') :
    Custody path fs₀ ⟨fs', Function.update σ.slots i none⟩
      fun s => if place s = some i then none else place s := by
  obtain ⟨-, hempty, hlookup⟩ := FileSystem.rmdir_ok hrmdir
  have hisSlot := (h.slots i slot hslot).1
  have hother : ∀ {j : ι} {slot' : FilePath}, Function.update σ.slots i none j = some slot' →
      j ≠ i ∧ σ.slots j = some slot' := by
    intro j slot' hj
    by_cases hji : j = i
    · rw [hji, Function.update_self] at hj
      cases hj
    · rw [Function.update_of_ne hji] at hj
      exact ⟨hji, hj⟩
  refine ⟨fun j slot' hj => ?_, fun j k slot' hj hk => ?_, fun s j hj => ?_, fun s hs => ?_,
    fun s hs j slot' hj => ?_⟩
  · obtain ⟨hji, hj⟩ := hother hj
    have hne : slot' ≠ slot := by
      rintro rfl
      exact hji (h.distinct j i slot' hj hslot)
    simp only
    rw [hlookup, if_neg hne]
    exact h.slots j slot' hj
  · exact h.distinct j k slot' (hother hj).2 (hother hk).2
  · split at hj
    · cases hj
    · rename_i hne
      have hji : j ≠ i := by
        rintro rfl
        exact hne hj
      simp only
      rw [Function.update_of_ne hji]
      exact h.owned s j hj
  · simp only
    rw [hlookup, if_neg (member_ne_slot hs hisSlot), h.source s hs]
    by_cases hplace : place s = some i
    · have hnone := h.inSlots s hs i slot hslot
      rw [inSlot, hempty, if_pos hplace] at hnone
      simp [hplace, ← hnone]
    · simp [hplace]
  · obtain ⟨hji, hj⟩ := hother hj
    have hne : inSlot slot' (mainName path) s ≠ slot :=
      inSlot_ne_slot (h.slots j slot' hj).1 hisSlot
    simp only
    rw [hlookup, if_neg hne, h.inSlots s hs j slot' hj]
    by_cases hplace : place s = some i
    · simp [hplace, Ne.symm hji]
    · simp [hplace]

/-! ### Moving a member -/

/-- The place of a member after it has been moved out or back by run `i`. -/
def movedPlace (i : ι) (place : String → Option ι) (s : String) : String → Option ι :=
  Function.update place s (if place s = none then some i else none)

theorem Custody.exchange {s : String} (h : Custody path fs₀ σ place) (hslot : σ.slots i = some slot)
    (hs : s ∈ bundleMembers) (hplace : place s = none ∨ place s = some i)
    (hlookup : ∀ p, fs'.lookup p =
      σ.fs.lookup (swapped (sidecar path s) (inSlot slot (mainName path) s) p)) :
    Custody path fs₀ ⟨fs', σ.slots⟩ (movedPlace i place s) ∧
      ∀ j slot' t, σ.slots j = some slot' → t ∈ bundleMembers → (j ≠ i ∨ t ≠ s) →
        fs'.lookup (inSlot slot' (mainName path) t) =
          σ.fs.lookup (inSlot slot' (mainName path) t) := by
  have hisSlot := (h.slots i slot hslot).1
  have hapart : Apart (sidecar path s) (inSlot slot (mainName path) s) := apart_inSlot hs hisSlot
  have hsame : ∀ j slot' t, σ.slots j = some slot' → t ∈ bundleMembers → (j ≠ i ∨ t ≠ s) →
      fs'.lookup (inSlot slot' (mainName path) t) =
        σ.fs.lookup (inSlot slot' (mainName path) t) := by
    intro j slot' t hj _ hne
    have hisSlot' := (h.slots j slot' hj).1
    have hnames : inSlot slot (mainName path) s ≠ inSlot slot' (mainName path) t := by
      intro heq
      have hslots : slot = slot' := (List.append_inj' heq rfl).1
      subst hslots
      rcases hne with hne | hne
      · exact hne (h.distinct j i slot hj hslot)
      · exact hne (inSlot_injective heq).symm
    rw [hlookup, swapped_other (apart_inSlot hs hisSlot').1
      (inSlot_apart hisSlot hisSlot' hnames).1]
  refine ⟨⟨fun j slot' hj => ?_, h.distinct, fun t j hj => ?_, fun t ht => ?_,
    fun t ht j slot' hj => ?_⟩, hsame⟩
  · obtain ⟨hisSlot', hexists⟩ := h.slots j slot' hj
    refine ⟨hisSlot', ?_⟩
    simp only
    rwa [hlookup, swapped_other (apart_slot hs hisSlot').1 (inSlot_not_above hisSlot hisSlot')]
  · by_cases hts : t = s
    · subst hts
      simp only [movedPlace, Function.update_self] at hj
      split at hj
      · cases hj
        simp [hslot]
      · cases hj
    · rw [movedPlace, Function.update_of_ne hts] at hj
      exact h.owned t j hj
  · simp only
    by_cases hts : t = s
    · subst hts
      rw [hlookup, swapped_self_left, h.inSlots t ht i slot hslot, movedPlace,
        Function.update_self]
      rcases hplace with hplace | hplace <;> simp [hplace]
    · rw [hlookup, swapped_other (apart_members (Ne.symm hts)).1 (apart_inSlot ht hisSlot).2,
        movedPlace, Function.update_of_ne hts]
      exact h.source t ht
  · simp only
    by_cases hboth : j ≠ i ∨ t ≠ s
    · rw [hsame j slot' t hj ht hboth, h.inSlots t ht j slot' hj]
      by_cases hts : t = s
      · subst hts
        have hji : j ≠ i := hboth.resolve_right fun hne => hne rfl
        rw [movedPlace, Function.update_self]
        rcases hplace with hplace | hplace <;> simp [hplace, Ne.symm hji]
      · rw [movedPlace, Function.update_of_ne hts]
    · rw [not_or, not_not, not_not] at hboth
      obtain ⟨rfl, rfl⟩ := hboth
      rw [hslot, Option.some.injEq] at hj
      subst hj
      rw [hlookup, swapped_self_right hapart, h.source t ht, movedPlace, Function.update_self]
      rcases hplace with hplace | hplace <;> simp [hplace]

/-! ### The calls of a run -/

/-- A change that keeps the custody and the slots of the others is what they rely on. -/
theorem relies_of_kept (hkept : Kept path fs₀ σ') (hslots : ∀ j, j ≠ i → σ'.slots j = σ.slots j)
    (hlookup : ∀ j slot, j ≠ i → σ.slots j = some slot → ∀ s ∈ bundleMembers,
      σ'.fs.lookup (inSlot slot (mainName path) s) = σ.fs.lookup (inSlot slot (mainName path) s)) :
    ∀ j, j ≠ i → Relies path fs₀ j σ σ' :=
  fun j hj _ => ⟨hkept, hslots j hj, fun slot hslot => hlookup j slot hj hslot⟩

theorem Holds.exchange {K' : String → Prop} {s : String} (h : Holds path fs₀ i slot K σ)
    (hs : s ∈ bundleMembers) (hwhere : σ.fs.lookup (sidecar path s) ≠ none ∨
      σ.fs.lookup (inSlot slot (mainName path) s) ≠ none) (hK : K' s ↔ ¬ K s)
    (hother : ∀ t, t ≠ s → (K' t ↔ K t)) (hlookup : ∀ p, fs'.lookup p =
      σ.fs.lookup (swapped (sidecar path s) (inSlot slot (mainName path) s) p)) :
    (∀ j, j ≠ i → Relies path fs₀ j σ ⟨fs', σ.slots⟩) ∧
      Holds path fs₀ i slot K' ⟨fs', σ.slots⟩ := by
  obtain ⟨place, hcustody⟩ := h.kept
  have hsource := hcustody.source s hs
  have htarget := hcustody.inSlots s hs i slot h.owns
  have hplace : place s = none ∨ place s = some i := by
    by_contra hnot
    rw [not_or] at hnot
    rw [if_neg hnot.1] at hsource
    rw [if_neg hnot.2] at htarget
    exact hwhere.elim (fun hne => hne hsource) fun hne => hne htarget
  obtain ⟨hcustody', hsame⟩ := hcustody.exchange h.owns hs hplace hlookup
  refine ⟨relies_of_kept ⟨_, hcustody'⟩ (fun _ _ => rfl)
    fun j slot' hj hslot' t ht => hsame j slot' t hslot' ht (Or.inl hj), ⟨_, hcustody'⟩, h.owns,
    fun t ht => ?_⟩
  by_cases hts : t = s
  · subst hts
    rw [hK, ← h.members t ht, not_not]
    simp only
    rw [hlookup, swapped_self_right (apart_inSlot ht h.isSlot)]
    rw [hsource, htarget] at hwhere ⊢
    rcases hplace with hplace | hplace <;> simpa [hplace] using hwhere
  · rw [hother t hts, ← h.members t ht]
    simp only
    rw [hsame i slot t h.owns ht (Or.inr hts)]

theorem Idle.mkdir {identity : FileIdentity} (h : Idle path fs₀ i σ) (hslot : IsSlot path slot)
    (hmkdir : σ.fs.mkdir slot identity = .ok fs') :
    (∀ j, j ≠ i → Relies path fs₀ j σ ⟨fs', Function.update σ.slots i (some slot)⟩) ∧
      Holds path fs₀ i slot (fun _ => False) ⟨fs', Function.update σ.slots i (some slot)⟩ := by
  obtain ⟨⟨place, hcustody⟩, hidle⟩ := h
  have hcustody' := hcustody.mkdir hidle hslot hmkdir
  obtain ⟨hfree, -, hlookup⟩ := FileSystem.mkdir_ok hmkdir
  refine ⟨relies_of_kept ⟨_, hcustody'⟩ (fun j hj => Function.update_of_ne hj _ _)
    fun j slot' hj hslot' t ht => ?_, ⟨_, hcustody'⟩, Function.update_self _ _ _, fun t ht => ?_⟩
  · simp only
    rw [hlookup, if_neg (inSlot_ne_slot (hcustody.slots j slot' hslot').1 hslot)]
  · simp only
    rw [hlookup, if_neg (inSlot_ne_slot hslot hslot), inSlot,
      FileSystem.lookup_append_of_none hslot.ne_nil hfree]
    simp

theorem Holds.rmdir (h : Holds path fs₀ i slot K σ) (hrmdir : σ.fs.rmdir slot = .ok fs') :
    (∀ j, j ≠ i → Relies path fs₀ j σ ⟨fs', Function.update σ.slots i none⟩) ∧
      Idle path fs₀ i ⟨fs', Function.update σ.slots i none⟩ := by
  obtain ⟨place, hcustody⟩ := h.kept
  have hcustody' := hcustody.rmdir h.owns hrmdir
  obtain ⟨-, -, hlookup⟩ := FileSystem.rmdir_ok hrmdir
  refine ⟨relies_of_kept ⟨_, hcustody'⟩ (fun j hj => Function.update_of_ne hj _ _)
    fun j slot' hj hslot' t ht => ?_, ⟨_, hcustody'⟩, Function.update_self _ _ _⟩
  simp only
  rw [hlookup, if_neg (inSlot_ne_slot (hcustody.slots j slot' hslot').1 h.isSlot)]

end

/-! ## The script of a run -/

section

variable {path slot : FilePath} {fs₀ : FileSystem} {i : ι} {σ : Shared ι} {α : Type}

theorem actShared_inspection {op : FsOp} (h : Inspection op) (e : FsEvent) :
    (actShared i e σ op).2 = σ := by
  cases h <;> rfl

theorem run_inspects {A : Shared ι → Prop}
    (hA : ∀ σ σ', A σ → Relies path fs₀ i σ σ' → A σ') {post : α → Shared ι → Prop}
    {script : FsScript α} {Q : α → Prop} (hscript : script.Performs Inspection Q) (hσ : A σ)
    (h : ∀ r σ', A σ' → Q r → post r σ') : (runContract path fs₀ i).Meets post script σ := by
  induction script generalizing σ with
  | done r => exact h r σ hσ hscript
  | call op next ih =>
    intro e _
    have hact : ((runContract path fs₀ i).act e σ op).2 = σ := actShared_inspection hscript.1 e
    rw [hact]
    exact ⟨fun j _ => relies_refl path fs₀ j σ,
      fun σ' hσ' => ih _ (hscript.2 _) (hA σ σ' hσ hσ')⟩

theorem run_readIdentity {A : Shared ι → Prop}
    (hA : ∀ σ σ', A σ → Relies path fs₀ i σ σ' → A σ') {post : α → Shared ι → Prop} {p : FilePath}
    {next : Option FileIdentity → FsScript α} (hσ : A σ)
    (h : ∀ identity σ', A σ' → (runContract path fs₀ i).Meets post (next identity) σ') :
    (runContract path fs₀ i).Meets post (readIdentity p >>= next) σ := by
  intro e _
  have hact : ((runContract path fs₀ i).act e σ (.identity p)).2 = σ := rfl
  rw [hact]
  exact ⟨fun j _ => relies_refl path fs₀ j σ, fun σ' hσ' => h _ σ' (hA σ σ' hσ hσ')⟩

/-- The members `done` have been moved. -/
def Listed (path slot : FilePath) (done : List String) (moved : List Moved) : Prop :=
  List.Forall₂ (fun s m => m.src = sidecar path s ∧ m.dst = inSlot slot (mainName path) s) done
    moved

theorem run_moveNoReplace {post : Except String Unit → Shared ι → Prop} {src dst : FilePath}
    {A : Shared ι → Prop} (hA : ∀ σ σ', A σ → Relies path fs₀ i σ σ' → A σ') (hσ : A σ)
    (herror : ∀ text σ', A σ' → post (.error text) σ')
    (hguar : ∀ fs', σ.fs.rename src dst = .ok fs' →
      ∀ j, j ≠ i → Relies path fs₀ j σ ⟨fs', σ.slots⟩)
    (hok : ∀ fs' σ', σ.fs.rename src dst = .ok fs' →
      Relies path fs₀ i ⟨fs', σ.slots⟩ σ' → post (.ok ()) σ') :
    (runContract path fs₀ i).Meets post (moveNoReplace src dst) σ := by
  refine Contract.meets_bind.2 fun e _ => ?_
  have hact : (runContract path fs₀ i).act e σ (.rename src dst) =
      ((changed e.fault σ.fs (σ.fs.rename src dst)).1,
        ⟨(changed e.fault σ.fs (σ.fs.rename src dst)).2, σ.slots⟩) := rfl
  rw [hact]
  rcases changed_cases e.fault σ.fs (σ.fs.rename src dst) with ⟨err, heq, -⟩ | ⟨fs', hrename, heq⟩
  · rw [heq]
    exact ⟨fun j _ => relies_refl path fs₀ j σ, fun σ' hσ' => herror _ σ' (hA σ σ' hσ hσ')⟩
  · rw [heq]
    exact ⟨hguar fs' hrename, fun σ' hσ' => hok fs' σ' hrename hσ'⟩

theorem run_moveMembers {post : List Moved × Option String → Shared ι → Prop}
    (rest done : List String) (hmembers : ∀ s ∈ done ++ rest, s ∈ bundleMembers)
    (hnodup : (done ++ rest).Nodup) (moved : List Moved) (hmoved : Listed path slot done moved)
    (hσ : Holds path fs₀ i slot (· ∈ done) σ)
    (h : ∀ (done' : List String) moved' failure σ', done' <+: done ++ rest →
      Listed path slot done' moved' → Holds path fs₀ i slot (· ∈ done') σ' →
        post (moved', failure) σ') :
    (runContract path fs₀ i).Meets post
      (moveMembers moved (rest.map (plannedMove path slot (mainName path)))) σ := by
  induction rest generalizing done moved σ with
  | nil =>
    rw [List.append_nil] at h
    exact h done moved none σ (List.prefix_refl _) hmoved hσ
  | cons s rest ih =>
    have hs : s ∈ bundleMembers := hmembers s (by simp)
    have hnot : s ∉ done := fun hmem =>
      (List.nodup_append.1 hnodup).2.2 s hmem s List.mem_cons_self rfl
    have hstop : ∀ (text : String) σ', Holds path fs₀ i slot (· ∈ done) σ' →
        post (moved, some text) σ' := fun text σ' hσ' =>
      h done moved _ σ' (List.prefix_append _ _) hmoved hσ'
    refine run_readIdentity (fun _ _ => Holds.relies) hσ fun identity σ hσ => ?_
    rcases identity with _ | before
    · exact hstop _ σ hσ
    · have hexchange : ∀ fs',
          σ.fs.rename (sidecar path s) (inSlot slot (mainName path) s) = .ok fs' →
          (∀ j, j ≠ i → Relies path fs₀ j σ ⟨fs', σ.slots⟩) ∧
            Holds path fs₀ i slot (· ∈ done ++ [s]) ⟨fs', σ.slots⟩ := fun fs' hrename => by
        obtain ⟨hsome, -, -, hlookup⟩ := FileSystem.rename_ok hrename
        exact hσ.exchange hs (Or.inl hsome) (by simp [hnot]) (fun t ht => by simp [ht]) hlookup
      refine Contract.meets_bind.2 (run_moveNoReplace (fun _ _ => Holds.relies) hσ
        (fun text σ' hσ' => hstop _ σ' hσ') (fun fs' hrename => (hexchange fs' hrename).1)
        fun fs' σ' hrename hσ' => ?_)
      refine ih (done ++ [s]) (by simpa using hmembers) (by simpa using hnodup) _
        (List.rel_append hmoved (.cons ⟨rfl, rfl⟩ .nil)) ((hexchange fs' hrename).2.relies hσ') ?_
      intro done' moved' failure σ'' habove
      rw [← List.append_cons] at habove
      exact h done' moved' failure σ'' habove

theorem lookup_eq_none_of_read {e : FsEvent} {fs : FileSystem} {p : FilePath}
    (hallowed : FaultAllowed e (.entry p))
    (h : entryPresent (symlinkMetadata e.fault fs p) = .ok false) : fs.lookup p = none := by
  unfold symlinkMetadata at h
  rcases hfault : e.fault with _ | err
  · rcases hlookup : fs.lookup p with _ | entry
    · rfl
    · rw [hfault, hlookup] at h
      cases h
  · have hkind : err.kind ≠ .notFound := hallowed err hfault
    rw [hfault] at h
    simp only [entryPresent, if_neg hkind] at h
    cases h

/-- A rescan that finds nothing means that all members are in the slot of the run. -/
theorem run_rescanSource {K : String → Prop} {post : Option String → Shared ι → Prop}
    (suffixes : List String) (hsuffixes : ∀ s ∈ suffixes, s ∈ bundleMembers)
    (hσ : Holds path fs₀ i slot K σ)
    (h : ∀ r σ', Holds path fs₀ i slot K σ' →
      (r = none → ∀ s ∈ suffixes, fs₀.lookup (sidecar path s) ≠ none → K s) → post r σ') :
    (runContract path fs₀ i).Meets post (rescanSource path suffixes) σ := by
  induction suffixes generalizing σ with
  | nil => exact h none σ hσ (by simp)
  | cons s suffixes ih =>
    have hs := hsuffixes s List.mem_cons_self
    refine Contract.meets_bind.2 (Contract.meets_bind.2 ?_)
    intro e hallowed
    have hact : (runContract path fs₀ i).act e σ (.entry (sidecar path s)) =
        (entryPresent (symlinkMetadata e.fault σ.fs (sidecar path s)), σ) := rfl
    rw [hact]
    refine ⟨fun j _ => relies_refl path fs₀ j σ, fun σ' hσ' => ?_⟩
    rcases hread : entryPresent (symlinkMetadata e.fault σ.fs (sidecar path s)) with err | (_ | _)
    · exact h _ σ' (hσ.relies hσ') (by rintro ⟨⟩)
    · have hfirst : fs₀.lookup (sidecar path s) ≠ none → K s := by
        intro hsome
        have hgone := lookup_eq_none_of_read hallowed.1 hread
        obtain ⟨place, hcustody⟩ := hσ.kept
        have hsource := hcustody.source s hs
        rw [hgone] at hsource
        rcases hplace : place s with _ | j
        · rw [if_pos hplace] at hsource
          exact absurd hsource.symm hsome
        · obtain ⟨slot', hslot'⟩ := Option.ne_none_iff_exists'.1 (hcustody.owned s j hplace)
          have hin := hcustody.inSlots s hs j slot' hslot'
          rw [if_pos hplace] at hin
          have hji : j = i := by
            by_contra hji
            have hnone := hallowed.2 s hs rfl (by rw [hσ.owns]; simp) j hji slot' hslot'
            rw [hin] at hnone
            exact hsome hnone
          subst hji
          rw [hσ.owns, Option.some.injEq] at hslot'
          subst hslot'
          rw [← hσ.members s hs, hin]
          exact hsome
      refine ih (fun t ht => hsuffixes t (List.mem_cons_of_mem _ ht)) (hσ.relies hσ')
        fun r σ'' hσ'' hr => h r σ'' hσ'' fun hnone t ht => ?_
      rcases List.mem_cons.1 ht with rfl | ht
      · exact hfirst
      · exact hr hnone t ht
    · exact h _ σ' (hσ.relies hσ') (by rintro ⟨⟩)

theorem run_rollBack (displaced : List FilePath) {post : List (FilePath × String) → Shared ι → Prop}
    (rest kept : List String) (hmembers : ∀ s ∈ rest ++ kept, s ∈ bundleMembers)
    (hnodup : (rest ++ kept).Nodup) (moved : List Moved) (hmoved : Listed path slot rest moved)
    (notRestored : List (FilePath × String))
    (hnotRestored : notRestored.map (·.1) = kept.map (sidecar path))
    (hσ : Holds path fs₀ i slot (· ∈ rest ++ kept) σ)
    (h : ∀ (kept' : List String) notRestored' σ',
      notRestored'.map (·.1) = kept'.map (sidecar path) →
      Holds path fs₀ i slot (· ∈ kept') σ' → post notRestored' σ') :
    (runContract path fs₀ i).Meets post (rollBack displaced notRestored moved) σ := by
  induction rest generalizing kept moved notRestored σ with
  | nil =>
    cases hmoved
    exact h kept notRestored σ hnotRestored hσ
  | cons s rest ih =>
    have hs : s ∈ bundleMembers := hmembers s (by simp)
    rcases hmoved with _ | ⟨⟨hsrc, hdst⟩, hmoved⟩
    rename_i m moved
    -- A member that is not moved back is kept.
    have hkeep : ∀ (text : String) σ', Holds path fs₀ i slot (· ∈ (s :: rest) ++ kept) σ' →
        (runContract path fs₀ i).Meets post
          (rollBack displaced (notRestored ++ [(m.src, text)]) moved) σ' := by
      intro text σ' hσ'
      refine ih (kept ++ [s]) (fun t ht => hmembers t (by simp at ht ⊢; tauto)) ?_ moved hmoved _
        (by simp [hnotRestored, hsrc])
        ⟨hσ'.kept, hσ'.owns, fun t ht => (hσ'.members t ht).trans (by simp; tauto)⟩
      rw [← List.append_assoc]
      exact (List.perm_append_singleton s (rest ++ kept)).symm.nodup hnodup
    unfold rollBack
    split
    · exact hkeep _ σ hσ
    · have hexchange : ∀ fs', σ.fs.rename m.dst m.src = .ok fs' →
          (∀ j, j ≠ i → Relies path fs₀ j σ ⟨fs', σ.slots⟩) ∧
            Holds path fs₀ i slot (· ∈ rest ++ kept) ⟨fs', σ.slots⟩ := fun fs' hrename => by
        rw [hsrc, hdst] at hrename
        obtain ⟨hsome, -, -, hlookup⟩ := FileSystem.rename_ok hrename
        have hnot : s ∉ rest ++ kept := (List.nodup_cons.1 hnodup).1
        refine hσ.exchange hs (Or.inr hsome) (by simpa using hnot) (fun t ht => by simp [ht])
          fun p => ?_
        rw [hlookup, swapped_comm (apart_inSlot hs hσ.isSlot)]
      refine Contract.meets_bind.2 (run_moveNoReplace (fun _ _ => Holds.relies) hσ
        (fun text σ' hσ' => hkeep text σ' hσ') (fun fs' hrename => (hexchange fs' hrename).1)
        fun fs' σ' hrename hσ' => ?_)
      exact ih kept (fun t ht => hmembers t (List.mem_cons_of_mem _ ht))
        (List.nodup_cons.1 hnodup).2 moved hmoved notRestored hnotRestored
        ((hexchange fs' hrename).2.relies hσ')

/-! ## What a run leaves -/

/-- What is so of the state once run `i` has returned. -/
def RunPost (path : FilePath) (fs₀ : FileSystem) (i : ι) :
    Except RelocateError RelocateOutcome → Shared ι → Prop
  | .ok outcome, σ =>
    Holds path fs₀ i outcome.movedTo (fun s => fs₀.lookup (sidecar path s) ≠ none) σ
  | .error err, σ =>
    Idle path fs₀ i σ ∨ ∃ failure slot notRestored, err = .failed failure slot notRestored ∧
      Holds path fs₀ i slot (fun s => sidecar path s ∈ notRestored.map (·.1)) σ

theorem run_undoRelocation (displaced : List FilePath) (done : List String)
    (hmembers : ∀ s ∈ done, s ∈ bundleMembers) (hnodup : done.Nodup) (moved : List Moved)
    (hmoved : Listed path slot done moved) (hσ : Holds path fs₀ i slot (· ∈ done) σ)
    (failure : String) :
    (runContract path fs₀ i).Meets (RunPost path fs₀ i)
      (undoRelocation slot moved displaced failure) σ := by
  refine Contract.meets_bind.2 (run_rollBack displaced done.reverse [] (by simpa using hmembers)
    (by simpa using hnodup) _ (List.rel_reverse hmoved) [] rfl
    ⟨hσ.kept, hσ.owns, fun s hs => (hσ.members s hs).trans (by simp)⟩
    fun kept notRestored σ' hlisted hσ' => ?_)
  have hmem : ∀ s, s ∈ kept ↔ sidecar path s ∈ notRestored.map (·.1) := fun s => by
    rw [hlisted, List.mem_map]
    exact ⟨fun hs => ⟨s, hs, rfl⟩, fun ⟨t, ht, heq⟩ => pushSuffix_injective heq ▸ ht⟩
  have hfailed : ∀ σ', Holds path fs₀ i slot (· ∈ kept) σ' →
      RunPost path fs₀ i (.error (.failed failure slot notRestored)) σ' := fun σ' hσ' =>
    Or.inr ⟨failure, slot, notRestored, rfl, hσ'.kept, hσ'.owns, fun s hs =>
      (hσ'.members s hs).trans (hmem s)⟩
  split
  · refine Contract.meets_bind.2 fun e _ => ?_
    have hact : (runContract path fs₀ i).act e σ' (.rmdir slot) =
        ((changed e.fault σ'.fs (σ'.fs.rmdir slot)).1,
          ⟨(changed e.fault σ'.fs (σ'.fs.rmdir slot)).2,
            ownedAfter i σ'.slots (.rmdir slot) (changed e.fault σ'.fs (σ'.fs.rmdir slot)).1⟩) :=
      rfl
    rw [hact]
    rcases changed_cases e.fault σ'.fs (σ'.fs.rmdir slot) with ⟨err, heq, -⟩ | ⟨fs', hrmdir, heq⟩
    · rw [heq]
      exact ⟨fun j _ => relies_refl path fs₀ j σ',
        fun σ'' hσ'' => hfailed σ'' (hσ'.relies hσ'')⟩
    · rw [heq]
      obtain ⟨hguar, hidle⟩ := hσ'.rmdir hrmdir
      exact ⟨hguar, fun σ'' hσ'' => Or.inl (hidle.relies hσ'')⟩
  · exact hfailed σ' hσ'

theorem run_relocateInto (members : List String) (hmembers : ∀ s ∈ members, s ∈ bundleMembers)
    (hnodup : members.Nodup) (hσ : Holds path fs₀ i slot (fun _ => False) σ) :
    (runContract path fs₀ i).Meets (RunPost path fs₀ i)
      (relocateInto path slot (members.map (plannedMove path slot (mainName path)))) σ := by
  refine Contract.meets_bind.2 (run_moveMembers members [] hmembers hnodup [] .nil
    ⟨hσ.kept, hσ.owns, fun s hs => (hσ.members s hs).trans (by simp)⟩
    fun done moved failure σ' habove hmoved hσ' => ?_)
  rw [List.nil_append] at habove
  refine Contract.meets_bind.2 (Contract.meets_bind.2 (run_inspects
    (fun _ _ => Holds.relies) (performs_displacedMembers (Q := fun _ => True) moved []
      fun _ => trivial) hσ' fun displaced σ' hσ' _ => ?_))
  have hend : ∀ found σ', Holds path fs₀ i slot (· ∈ done) σ' →
      (found = none → ∀ s ∈ bundleMembers, fs₀.lookup (sidecar path s) ≠ none → s ∈ done) →
      (runContract path fs₀ i).Meets (RunPost path fs₀ i)
        ((withCustody displaced found).elim
          (pure (.ok ⟨path, slot,
            (members.map (plannedMove path slot (mainName path))).map (·.suffix)⟩))
          (undoRelocation slot moved displaced)) σ' := by
    intro found σ' hσ' hfound
    cases hcustody : withCustody displaced found with
    | some failure =>
      exact run_undoRelocation displaced done (fun s hs => hmembers s (habove.subset hs))
        (hnodup.sublist habove.sublist) moved hmoved hσ' failure
    | none =>
      have hall := hfound (eq_none_of_withCustody hcustody)
      refine ⟨hσ'.kept, hσ'.owns, fun s hs => ⟨fun hin => ?_, fun hsome =>
        (hσ'.members s hs).2 (hall s hs hsome)⟩⟩
      obtain ⟨place, hcustody⟩ := hσ'.kept
      rw [hcustody.inSlots s hs i slot hσ'.owns] at hin
      split at hin
      · exact hin
      · exact absurd rfl hin
  have hrescan : ∀ found σ', Holds path fs₀ i slot (· ∈ done) σ' →
      (runContract path fs₀ i).Meets (fun found σ' => (runContract path fs₀ i).Meets
        (RunPost path fs₀ i) ((withCustody displaced found).elim
          (pure (.ok ⟨path, slot,
            (members.map (plannedMove path slot (mainName path))).map (·.suffix)⟩))
          (undoRelocation slot moved displaced)) σ')
        (checkUnlessFailed (rescanSource path (bundleSuffixes ++ [""])) found) σ' := by
    intro found σ' hσ'
    rcases found with _ | text
    · exact run_rescanSource bundleMembers (fun s hs => hs) hσ' hend
    · exact hend _ σ' hσ' (by rintro ⟨⟩)
  refine Contract.meets_bind.2 (run_inspects (fun _ _ => Holds.relies)
    (performs_checkUnlessFailed (performs_verifySlot moved fun _ => trivial) failure) hσ'
    fun found σ' hσ' _ => ?_)
  refine Contract.meets_bind.2 (Contract.Meets.mono (fun found σ' hend => ?_)
    (hrescan found σ' hσ'))
  cases hcustody : withCustody displaced found with
  | none =>
    rw [hcustody] at hend
    exact hend
  | some failure =>
    rw [hcustody] at hend
    exact hend

theorem run_relocateBundleWith (path : FilePath) (fs₀ : FileSystem) (i : ι)
    (hσ : Idle path fs₀ i σ) :
    (runContract path fs₀ i).Meets (RunPost path fs₀ i) (relocateBundleWith path) σ := by
  have hrefused : ∀ (text : String) σ', Idle path fs₀ i σ' →
      RunPost path fs₀ i (.error (.refused text)) σ' := fun text σ' hσ' => Or.inl hσ'
  refine Contract.meets_bind.2 (run_inspects (fun _ _ => Idle.relies)
    (performs_nextBackupFrom 0 maxBackupSlots) hσ fun r σ' hσ' hslot => ?_)
  rcases r with err | slot
  · exact hrefused _ σ' hσ'
  · cases hname : fileName path with
    | none => exact hrefused _ σ' hσ'
    | some name =>
      obtain rfl : mainName path = name := by rw [mainName, hname, Option.getD_some]
      refine Contract.meets_bind.2 (run_inspects (fun _ _ => Idle.relies)
        (performs_planBundle hname) hσ' fun r σ' hσ' hplan => ?_)
      rcases r with err | plan
      · exact hrefused _ σ' hσ'
      · change (runContract path fs₀ i).Meets _ (if _ then _ else _) σ'
        split
        · exact hrefused _ σ' hσ'
        · obtain ⟨members, hsub, rfl⟩ := hplan plan rfl
          refine Contract.meets_bind.2 fun e _ => ?_
          have hact : (runContract path fs₀ i).act e σ' (.mkdir slot) =
              ((changed e.fault σ'.fs (σ'.fs.mkdir slot e.identity)).1,
                ⟨(changed e.fault σ'.fs (σ'.fs.mkdir slot e.identity)).2,
                  ownedAfter i σ'.slots (.mkdir slot)
                    (changed e.fault σ'.fs (σ'.fs.mkdir slot e.identity)).1⟩) := rfl
          rw [hact]
          rcases changed_cases e.fault σ'.fs (σ'.fs.mkdir slot e.identity) with
            ⟨err, heq, -⟩ | ⟨fs', hmkdir, heq⟩
          · rw [heq]
            exact ⟨fun j _ => relies_refl path fs₀ j σ',
              fun σ'' hσ'' => hrefused _ σ'' (hσ'.relies hσ'')⟩
          · rw [heq]
            obtain ⟨hguar, hholds⟩ := hσ'.mkdir (hslot slot rfl) hmkdir
            exact ⟨hguar, fun σ'' hσ'' => run_relocateInto members (fun s hs => hsub.subset hs)
              ((by decide : bundleMembers.Nodup).sublist hsub) (hholds.relies hσ'')⟩

end

/-! ## All runs -/

section

variable {path : FilePath} {fs : FileSystem}

theorem kept_start (path : FilePath) (fs : FileSystem) :
    Kept path fs (relocations ι path fs).1 := by
  refine ⟨fun _ => none, ?_, ?_, ?_, fun s _ => ?_, ?_⟩
  · rintro i slot ⟨⟩
  · rintro i j slot ⟨⟩
  · rintro s i ⟨⟩
  · rfl
  · rintro s - i slot ⟨⟩

/-- Where no rescan comes while a member is in the slot of another run, the members of the bundle
stay together, whatever fails. -/
theorem relocations_together (path : FilePath) (fs : FileSystem) (es : List (ι × FsEvent))
    (results : ι → Except RelocateError RelocateOutcome)
    (hes : Along (Contract.parallelStep actShared)
      (Contract.ParallelAllowed (RelocationAllowed path)) (relocations ι path fs) es)
    (hdone : ∀ i, (run (Contract.parallelStep actShared) (relocations ι path fs) es).2 i =
      .done (results i)) :
    BundleTogether path fs
      (run (Contract.parallelStep actShared) (relocations ι path fs) es).1.fs results := by
  set σ := (run (Contract.parallelStep actShared) (relocations ι path fs) es).1 with hσ
  have hpost : ∀ i, RunPost path fs i (results i) σ := by
    intro i
    have hmeets := Contract.meets_parallel (P := runContract path fs)
      (relies_refl path fs) (fun _ _ _ _ => Relies.trans)
      (fun i j hij σ σ' hguar => hguar j (Ne.symm hij))
      (fun i σ' hσ' => run_relocateBundleWith path fs i
        (Idle.relies ⟨kept_start path fs, rfl⟩ hσ')) es hes i
    have hscript : (run (Contract.parallelStep fun i => (runContract path fs i).act)
        (relocations ι path fs) es).2 i = .done (results i) := hdone i
    change (runContract path fs i).Meets (RunPost path fs i)
      ((run (Contract.parallelStep fun i => (runContract path fs i).act)
        (relocations ι path fs) es).2 i) σ at hmeets
    rw [hscript] at hmeets
    exact hmeets
  have hkept : Kept path fs σ := by
    rcases isEmpty_or_nonempty ι with hempty | ⟨⟨i⟩⟩
    · rcases es with _ | ⟨e, es⟩
      · exact kept_start path fs
      · exact (hempty.false e.1).elim
    · have hi := hpost i
      cases hresult : results i with
      | ok outcome =>
        rw [hresult] at hi
        exact Holds.kept hi
      | error err =>
        rw [hresult] at hi
        rcases hi with hidle | ⟨_, _, _, -, hholds⟩
        · exact hidle.1
        · exact hholds.kept
  obtain ⟨place, hcustody⟩ := hkept
  refine ⟨fun i outcome hok s hs e he => ?_, fun hnone s hs e he => ?_⟩
  · have hi := hpost i
    rw [hok] at hi
    have hin : σ.fs.lookup (inSlot outcome.movedTo (mainName path) s) ≠ none :=
      (hi.members s hs).2 (by rw [he]; simp)
    have hinSlots := hcustody.inSlots s hs i _ hi.owns
    have hplace : place s = some i := by
      by_contra hne
      rw [if_neg hne] at hinSlots
      exact hin hinSlots
    rw [hinSlots, if_pos hplace, he, hcustody.source s hs, hplace]
    exact ⟨rfl, if_neg (by simp)⟩
  · rcases hplace : place s with _ | i
    · refine Or.inl ?_
      rw [hcustody.source s hs, if_pos hplace, he]
    · obtain ⟨slot, hslot⟩ := Option.ne_none_iff_exists'.1 (hcustody.owned s i hplace)
      have hin := hcustody.inSlots s hs i slot hslot
      rw [if_pos hplace, he] at hin
      have hi := hpost i
      cases hresult : results i with
      | ok outcome => exact absurd hresult (hnone i outcome)
      | error err =>
        rw [hresult] at hi
        rcases hi with hidle | ⟨failure, slot', notRestored, rfl, hholds⟩
        · rw [hidle.2] at hslot
          cases hslot
        · have hsame := hholds.owns
          rw [hslot, Option.some.injEq] at hsame
          subst hsame
          exact Or.inr ⟨i, failure, slot, notRestored, hresult,
            (hholds.members s hs).1 (by rw [hin]; simp), hin⟩

end

/-- A call that does not fail. -/
def okCall : FsEvent :=
  {}

/-- Two relocations, one after the other. -/
def oneAfterTheOther : List (Fin 2 × FsEvent) :=
  List.replicate 20 (0, okCall) ++ List.replicate 20 (1, okCall)

theorem relocations_together_one_after_the_other :
    ∃ results, (∀ i, (run (Contract.parallelStep actShared)
        (relocations (Fin 2) ["data", "zynk.db"] bundleWithWal) oneAfterTheOther).2 i =
          .done (results i)) ∧
      BundleTogether ["data", "zynk.db"] bundleWithWal (run (Contract.parallelStep actShared)
        (relocations (Fin 2) ["data", "zynk.db"] bundleWithWal) oneAfterTheOther).1.fs results := by
  have hended : ∀ i, ((run (Contract.parallelStep actShared)
      (relocations (Fin 2) ["data", "zynk.db"] bundleWithWal) oneAfterTheOther).2
        i).result?.isSome = true := by decide +kernel
  obtain ⟨results, hdone⟩ := Script.exists_done hended
  exact ⟨results, hdone, relocations_together _ _ oneAfterTheOther results (by decide +kernel)
    hdone⟩

/-- The first relocation moves the write-ahead log, then the second one makes all its calls, and
then the first one goes on. -/
def splittingRun : List (Fin 2 × FsEvent) :=
  List.replicate 8 (0, okCall) ++ List.replicate 15 (1, okCall) ++ List.replicate 4 (0, okCall)

/-- The second relocation succeeds with the main file alone : its rescan does not see the log, which
the first one moves back when it does not find the main file. -/
theorem split_behind_success :
    ∃ results, (∀ i, (run (Contract.parallelStep actShared)
        (relocations (Fin 2) ["data", "zynk.db"] bundleWithWal) splittingRun).2 i =
          .done (results i)) ∧
      (∀ e ∈ splittingRun, e.2.fault = none) ∧
      ¬ BundleTogether ["data", "zynk.db"] bundleWithWal (run (Contract.parallelStep actShared)
        (relocations (Fin 2) ["data", "zynk.db"] bundleWithWal) splittingRun).1.fs results := by
  have hended : ∀ i, ((run (Contract.parallelStep actShared)
      (relocations (Fin 2) ["data", "zynk.db"] bundleWithWal) splittingRun).2 i).result?.isSome =
        true := by decide +kernel
  have hok : (((run (Contract.parallelStep actShared)
      (relocations (Fin 2) ["data", "zynk.db"] bundleWithWal) splittingRun).2 1).result?.map
        fun r => r.toOption.isSome) = some true := by decide +kernel
  have hlog : (run (Contract.parallelStep actShared)
      (relocations (Fin 2) ["data", "zynk.db"] bundleWithWal) splittingRun).1.fs.lookup
        (sidecar ["data", "zynk.db"] "-wal") ≠ none := by decide +kernel
  have hlogBefore : bundleWithWal.lookup (sidecar ["data", "zynk.db"] "-wal") =
      some ⟨(1, 3), false⟩ := by decide +kernel
  obtain ⟨results, hdone⟩ := Script.exists_done hended
  refine ⟨results, hdone, by decide, fun h => ?_⟩
  rw [hdone 1] at hok
  cases hresult : results 1 with
  | error err =>
    rw [hresult] at hok
    cases hok
  | ok outcome => exact hlog (h.1 1 outcome hresult "-wal" (by decide) _ hlogBefore).2

end Zynk.Cutover
