import Zynk.Store.Relocate

/-!
# The names and calls of a relocation

The members of a bundle, the slot and the members in the slot all have different names, and none of
these names is under another, but for those in the slot.

The calls of a relocation are few (`Call`) : besides inspections it makes the slot, renames a member
into it or back, and removes it.
-/

namespace Zynk.Cutover

open Script FilePath

/-- All members : the sidecars and the main file. -/
def bundleMembers : List String :=
  bundleSuffixes ++ [""]

/-- The name of a backup slot. -/
def IsSlot (path slot : FilePath) : Prop :=
  ∃ n, slot = backupCandidate path n

section

variable {path slot : FilePath} {name s s' : String}

theorem length_pushSuffix (path : FilePath) (s : String) :
    (pushSuffix path s).length = path.dropLast.length + 1 := by
  rw [pushSuffix, List.length_append, List.length_singleton]

theorem dropLast_pushSuffix (path : FilePath) (s : String) :
    (pushSuffix path s).dropLast = path.dropLast := by
  rw [pushSuffix, List.dropLast_concat]

theorem pushSuffix_ne_nil (path : FilePath) (s : String) : pushSuffix path s ≠ [] :=
  List.append_ne_nil_of_right_ne_nil _ (List.cons_ne_nil _ _)

theorem pushSuffix_injective (h : pushSuffix path s = pushSuffix path s') : s = s' := by
  have hlast : path.getLastD "" ++ s = path.getLastD "" ++ s' := by
    simpa [pushSuffix] using h
  have hchars := congrArg String.toList hlast
  rw [String.toList_append, String.toList_append] at hchars
  exact String.toList_injective (List.append_cancel_left hchars)

theorem IsSlot.ne_nil (h : IsSlot path slot) : slot ≠ [] := by
  obtain ⟨n, rfl⟩ := h
  exact pushSuffix_ne_nil _ _

theorem sidecar_empty (hname : fileName path = some name) : sidecar path "" = path := by
  have hne : path ≠ [] := by
    rintro rfl
    cases hname
  rw [sidecar, pushSuffix, String.append_empty, List.getLastD_eq_getLast?,
    List.getLast?_eq_some_getLast hne, Option.getD_some, List.dropLast_append_getLast]

/-- A member is not named as a slot. -/
theorem member_ne_slot (hs : s ∈ bundleMembers) (hslot : IsSlot path slot) :
    sidecar path s ≠ slot := by
  obtain ⟨n, rfl⟩ := hslot
  intro heq
  have hfirst : s.toList.head? = some '.' := by
    rw [pushSuffix_injective heq]
    change ("." ++ backupSuffix ++ "-" ++ n).toList.head? = _
    simp [String.toList_append]
  simp only [bundleMembers, bundleSuffixes, List.cons_append, List.nil_append, List.mem_cons,
    List.not_mem_nil, or_false] at hs
  rcases hs with rfl | rfl | rfl | rfl <;> exact absurd hfirst (by decide)

theorem apart_members (hne : s ≠ s') : Apart (sidecar path s) (sidecar path s') :=
  apart_of_length_eq (by rw [sidecar, sidecar, length_pushSuffix, length_pushSuffix])
    fun heq => hne (pushSuffix_injective heq)

theorem apart_slot (hs : s ∈ bundleMembers) (hslot : IsSlot path slot) :
    Apart (sidecar path s) slot := by
  refine apart_of_length_eq ?_ (member_ne_slot hs hslot)
  obtain ⟨n, rfl⟩ := hslot
  rw [sidecar, backupCandidate, length_pushSuffix, length_pushSuffix]

/-- The name of a member in a slot. -/
def inSlot (slot : FilePath) (name s : String) : FilePath :=
  slot ++ [name ++ s]

theorem inSlot_injective (h : inSlot slot name s = inSlot slot name s') : s = s' := by
  have hchars : name ++ s = name ++ s' := by simpa [inSlot] using h
  have htext := congrArg String.toList hchars
  rw [String.toList_append, String.toList_append] at htext
  exact String.toList_injective (List.append_cancel_left htext)

theorem apart_inSlot (hs : s ∈ bundleMembers) (hslot : IsSlot path slot) :
    Apart (sidecar path s) (inSlot slot name s') :=
  (apart_slot hs hslot).append

theorem apart_inSlots (hne : s ≠ s') : Apart (inSlot slot name s) (inSlot slot name s') :=
  apart_of_length_eq (by simp [inSlot]) fun heq => hne (inSlot_injective heq)

theorem inSlot_not_above {slot' : FilePath} (hslot : IsSlot path slot)
    (hslot' : IsSlot path slot') : ¬ inSlot slot name s <+: slot' := by
  obtain ⟨n, rfl⟩ := hslot
  obtain ⟨n', rfl⟩ := hslot'
  intro habove
  have hlength := habove.length_le
  rw [inSlot, List.length_append, backupCandidate, backupCandidate, length_pushSuffix,
    length_pushSuffix, List.length_singleton] at hlength
  omega

theorem inSlot_ne_slot {slot' : FilePath} (hslot : IsSlot path slot) (hslot' : IsSlot path slot') :
    inSlot slot name s ≠ slot' := by
  rintro rfl
  exact inSlot_not_above hslot hslot' (List.prefix_refl _)

theorem inSlot_apart {slot' : FilePath} {name' : String} (hslot : IsSlot path slot)
    (hslot' : IsSlot path slot') (hne : inSlot slot name s ≠ inSlot slot' name' s') :
    Apart (inSlot slot name s) (inSlot slot' name' s') := by
  refine apart_of_length_eq ?_ hne
  obtain ⟨n, rfl⟩ := hslot
  obtain ⟨n', rfl⟩ := hslot'
  rw [inSlot, inSlot, List.length_append, List.length_append, backupCandidate, backupCandidate,
    length_pushSuffix, length_pushSuffix, List.length_singleton, List.length_singleton]

end

/-! ## Calls -/

/-- The calls that change nothing. -/
inductive Inspection : FsOp → Prop
  | entry (p : FilePath) : Inspection (.entry p)
  | identity (p : FilePath) : Inspection (.identity p)
  | list (p : FilePath) : Inspection (.list p)
  | newPrefixedId (pre : String) : Inspection (.newPrefixedId pre)

theorem Inspection.act_snd {op : FsOp} (h : Inspection op) (e : FsEvent) (fs : FileSystem) :
    (act e fs op).2 = fs := by
  cases h <;> rfl

/-- The system calls of a relocation of `path`. -/
inductive Call (path : FilePath) : FsOp → Prop
  | inspect {op : FsOp} (h : Inspection op) : Call path op
  | mkdir {slot : FilePath} (hslot : IsSlot path slot) : Call path (.mkdir slot)
  | rmdir {slot : FilePath} (hslot : IsSlot path slot) : Call path (.rmdir slot)
  | moveOut {slot : FilePath} {name s : String} (hslot : IsSlot path slot)
    (hs : s ∈ bundleMembers) : Call path (.rename (sidecar path s) (inSlot slot name s))
  | moveBack {slot : FilePath} {name s : String} (hslot : IsSlot path slot)
    (hs : s ∈ bundleMembers) : Call path (.rename (inSlot slot name s) (sidecar path s))

/-! ### Scripts that inspect -/

section

variable {path slot : FilePath} {name : String}

theorem performs_present (p : FilePath) {Q : Except String Bool → Prop} (hQ : ∀ r, Q r) :
    (present p).Performs Inspection Q := by
  refine ⟨.entry p, fun r => ?_⟩
  cases r <;> exact hQ _

theorem performs_nextBackupFrom (n left : ℕ) :
    (nextBackupFrom path n left).Performs Inspection fun r =>
      ∀ slot, r = .ok slot → IsSlot path slot := by
  induction left generalizing n with
  | zero =>
    refine ⟨.newPrefixedId "n", fun id slot hslot => ?_⟩
    cases hslot
    exact ⟨id, rfl⟩
  | succ left ih =>
    refine performs_bind.2 (performs_present _ fun r => ?_)
    rcases r with err | (_ | _)
    · rintro slot ⟨⟩
    · rintro slot hslot
      cases hslot
      exact ⟨toString n, rfl⟩
    · exact ih (n + 1)

theorem performs_displacedMembers (moved : List Moved) (displaced : List FilePath)
    {Q : List FilePath → Prop} (hQ : ∀ r, Q r) :
    (displacedMembers displaced moved).Performs Inspection Q := by
  induction moved generalizing displaced with
  | nil => exact hQ _
  | cons m moved ih => exact performs_bind.2 ⟨.identity m.dst, fun _ => ih _⟩

theorem performs_unexpectedSlotEntry (moved : List Moved)
    {Q : Except IoError (Option FilePath) → Prop} (hQ : ∀ r, Q r) :
    (unexpectedSlotEntry slot moved).Performs Inspection Q := by
  refine performs_bind.2 ⟨.list slot, fun r => ?_⟩
  cases r <;> exact hQ _

theorem performs_verifySlot (moved : List Moved) {Q : Option String → Prop} (hQ : ∀ r, Q r) :
    (verifySlot slot moved).Performs Inspection Q := by
  refine performs_bind.2 (performs_unexpectedSlotEntry moved fun r => ?_)
  rcases r with err | (_ | unexpected) <;> exact hQ _

theorem performs_rescanSource (suffixes : List String) {Q : Option String → Prop} (hQ : ∀ r, Q r) :
    (rescanSource path suffixes).Performs Inspection Q := by
  induction suffixes with
  | nil => exact hQ _
  | cons s suffixes ih =>
    refine performs_bind.2 (performs_present _ fun r => ?_)
    rcases r with err | (_ | _)
    · exact hQ _
    · exact ih
    · exact hQ _

/-- A failure is not forgotten. -/
theorem performs_checkUnlessFailed {check : FsScript (Option String)}
    (hcheck : check.Performs Inspection fun _ => True) (failure : Option String) :
    (checkUnlessFailed check failure).Performs Inspection fun found =>
      found = none → failure = none := by
  cases failure with
  | none => exact hcheck.mono (fun _ h => h) fun _ _ _ => rfl
  | some text => exact id

theorem eq_none_of_withCustody {displaced : List FilePath} {failure : Option String}
    (h : withCustody displaced failure = none) : failure = none := by
  unfold withCustody at h
  split at h
  · exact h
  · split at h <;> cases h

/-- What is checked after the moves. -/
theorem performs_checks (moved : List Moved) (failure : Option String) {displaced : List FilePath}
    {Q : List FilePath × Option String → Prop}
    (hQ : ∀ found, (found = none → failure = none) → Q (displaced, found)) :
    Script.Performs Inspection Q (do
      let failure ← checkUnlessFailed (verifySlot slot moved) failure
      let failure ← checkUnlessFailed (rescanSource path (bundleSuffixes ++ [""])) failure
      return (displaced, withCustody displaced failure)) := by
  refine performs_bind.2 ((performs_checkUnlessFailed (performs_verifySlot moved fun _ => trivial)
    failure).mono (fun _ h => h) fun found hfound => ?_)
  refine performs_bind.2 ((performs_checkUnlessFailed (performs_rescanSource _ fun _ => trivial)
    found).mono (fun _ h => h) fun found' hfound' => ?_)
  exact hQ _ fun hnone => hfound (hfound' (eq_none_of_withCustody hnone))

theorem performs_verifyRelocation (moved : List Moved) (failure : Option String)
    {Q : List FilePath × Option String → Prop} (hQ : ∀ r, Q r) :
    (verifyRelocation path slot moved failure).Performs Inspection Q :=
  performs_bind.2 (performs_displacedMembers moved [] fun _ =>
    performs_checks moved failure fun _ _ => hQ _)

/-- The move of a member into the slot. -/
def plannedMove (path slot : FilePath) (name s : String) : PlannedMove :=
  ⟨sidecar path s, inSlot slot name s, s⟩

theorem performs_planSidecars (suffixes : List String) (plan : List PlannedMove) :
    (planSidecars path slot name plan suffixes).Performs Inspection fun r =>
      ∀ plan', r = .ok plan' → ∃ members : List String, members.Sublist suffixes ∧
        plan' = plan ++ members.map (plannedMove path slot name) := by
  induction suffixes generalizing plan with
  | nil =>
    rintro plan' ⟨⟩
    exact ⟨[], List.Sublist.refl _, by simp⟩
  | cons s suffixes ih =>
    refine performs_bind.2 (performs_present _ fun r => ?_)
    rcases r with err | (_ | _)
    · rintro plan' ⟨⟩
    · refine (ih plan).mono (fun _ h => h) fun r hr plan' hplan' => ?_
      obtain ⟨members, hsub, heq⟩ := hr plan' hplan'
      exact ⟨members, hsub.cons _, heq⟩
    · refine (ih _).mono (fun _ h => h) fun r hr plan' hplan' => ?_
      obtain ⟨members, hsub, heq⟩ := hr plan' hplan'
      refine ⟨s :: members, hsub.cons_cons _, ?_⟩
      rw [heq, List.append_assoc, List.map_cons, plannedMove]
      rfl

theorem performs_planBundle (hname : fileName path = some name) :
    (planBundle path slot name).Performs Inspection fun r =>
      ∀ plan, r = .ok plan → ∃ members : List String, members.Sublist bundleMembers ∧
        plan = members.map (plannedMove path slot name) := by
  refine performs_bind.2 ((performs_planSidecars bundleSuffixes []).mono (fun _ h => h)
    fun r hr => ?_)
  rcases r with err | plan
  · rintro plan ⟨⟩
  · obtain ⟨members, hsub, rfl⟩ := hr plan rfl
    refine performs_bind.2 (performs_present _ fun r => ?_)
    rcases r with err | (_ | _)
    · rintro plan ⟨⟩
    · rintro plan ⟨⟩
      exact ⟨members, hsub.trans (List.sublist_append_left _ _), rfl⟩
    · rintro plan ⟨⟩
      refine ⟨members ++ [""], hsub.append (List.Sublist.refl _), ?_⟩
      rw [List.map_append, List.map_singleton, plannedMove, sidecar_empty hname]
      rfl

/-! ### Scripts that change -/

theorem performs_moveNoReplace {src dst : FilePath} (h : Call path (.rename src dst))
    {Q : Except String Unit → Prop} (hQ : ∀ r, Q r) :
    (moveNoReplace src dst).Performs (Call path) Q := by
  refine ⟨h, fun r => ?_⟩
  cases r <;> exact hQ _

/-- A member has been moved into the slot. -/
def Moved.IsMoveOut (path slot : FilePath) (m : Moved) : Prop :=
  ∃ name, ∃ s ∈ bundleMembers, m.src = sidecar path s ∧ m.dst = inSlot slot name s

theorem performs_moveMembers (hslot : IsSlot path slot) (members : List String)
    (hmembers : ∀ s ∈ members, s ∈ bundleMembers) (moved : List Moved)
    (hmoved : ∀ m ∈ moved, m.IsMoveOut path slot) :
    (moveMembers moved (members.map (plannedMove path slot name))).Performs (Call path) fun r =>
      ∀ m ∈ r.1, m.IsMoveOut path slot := by
  induction members generalizing moved with
  | nil => exact hmoved
  | cons s members ih =>
    have hs : s ∈ bundleMembers := hmembers s List.mem_cons_self
    refine performs_bind.2 ⟨.inspect (.identity _), fun identity => ?_⟩
    rcases identity with _ | before
    · exact hmoved
    · refine performs_bind.2 (performs_moveNoReplace (.moveOut hslot hs) fun r => ?_)
      rcases r with err | _
      · exact hmoved
      · refine ih (fun t ht => hmembers t (List.mem_cons_of_mem _ ht)) _ fun m hm => ?_
        rcases List.mem_append.1 hm with hm | hm
        · exact hmoved m hm
        · cases List.mem_singleton.1 hm
          exact ⟨name, s, hs, rfl, rfl⟩

theorem performs_rollBack (hslot : IsSlot path slot) (displaced : List FilePath)
    (moved : List Moved) (hmoved : ∀ m ∈ moved, m.IsMoveOut path slot)
    (notRestored : List (FilePath × String)) {Q : List (FilePath × String) → Prop} (hQ : ∀ r, Q r) :
    (rollBack displaced notRestored moved).Performs (Call path) Q := by
  induction moved generalizing notRestored with
  | nil => exact hQ _
  | cons m moved ih =>
    have hrest : ∀ m' ∈ moved, m'.IsMoveOut path slot :=
      fun m' hm' => hmoved m' (List.mem_cons_of_mem _ hm')
    obtain ⟨name, s, hs, hsrc, hdst⟩ := hmoved m List.mem_cons_self
    have hcall : Call path (.rename m.dst m.src) := by
      rw [hsrc, hdst]
      exact .moveBack hslot hs
    unfold rollBack
    split
    · exact ih hrest _
    · refine performs_bind.2 (performs_moveNoReplace hcall fun r => ?_)
      cases r <;> exact ih hrest _

theorem performs_undoRelocation (hslot : IsSlot path slot) (moved : List Moved)
    (hmoved : ∀ m ∈ moved, m.IsMoveOut path slot) (displaced : List FilePath) (failure : String)
    {Q : Except RelocateError RelocateOutcome → Prop} (hQ : ∀ r, Q r) :
    (undoRelocation slot moved displaced failure).Performs (Call path) Q := by
  refine performs_bind.2 (performs_rollBack hslot displaced _
    (fun m hm => hmoved m (List.mem_reverse.1 hm)) [] fun notRestored => ?_)
  split
  · exact performs_bind.2 ⟨.rmdir hslot, fun _ => hQ _⟩
  · exact hQ _

theorem performs_relocatePlan (hslot : IsSlot path slot) (members : List String)
    (hmembers : ∀ s ∈ members, s ∈ bundleMembers)
    {Q : Except RelocateError RelocateOutcome → Prop} (hQ : ∀ r, Q r) :
    (relocatePlan path slot (members.map (plannedMove path slot name))).Performs (Call path) Q := by
  refine performs_bind.2 ⟨.mkdir hslot, fun r => ?_⟩
  rcases r with err | _
  · exact hQ _
  · refine performs_bind.2 ((performs_moveMembers hslot members hmembers [] (by simp)).mono
      (fun _ h => h) fun r hmoved => ?_)
    obtain ⟨moved, failure⟩ := r
    refine performs_bind.2 ((performs_verifyRelocation (Q := fun _ => True) moved failure
      fun _ => trivial).mono (fun _ => .inspect) fun r _ => ?_)
    obtain ⟨displaced, failure⟩ := r
    rcases failure with _ | failure
    · exact hQ _
    · exact performs_undoRelocation hslot moved hmoved displaced failure hQ

/-- All a relocation does are calls of `Call`. -/
theorem performs_relocateBundleWith (path : FilePath) :
    (relocateBundleWith path).Performs (Call path) fun _ => True := by
  refine performs_bind.2 ((performs_nextBackupFrom 0 maxBackupSlots).mono
    (fun _ => .inspect) fun r hslot => ?_)
  rcases r with err | slot
  · trivial
  · cases hname : fileName path with
    | none => trivial
    | some name =>
      refine performs_bind.2 ((performs_planBundle hname).mono (fun _ => .inspect)
        fun r hplan => ?_)
      rcases r with err | plan
      · trivial
      · change Script.Performs _ _ (if plan.isEmpty then _ else _)
        split
        · trivial
        · obtain ⟨members, hsub, rfl⟩ := hplan plan rfl
          exact performs_relocatePlan (hslot slot rfl) members (fun s hs => hsub.subset hs)
            fun _ => trivial

end

end Zynk.Cutover
