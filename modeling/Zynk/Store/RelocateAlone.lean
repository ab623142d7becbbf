import Zynk.Store.RelocateCalls

/-!
# Relocation is all or nothing

With no other writer, a relocation that succeeds leaves the whole bundle in a slot that is new, and
one that fails leaves every name as it was; where a move back failed, or the identity of a member
that has moved could not be read, the members it lists are in the slot and all others are at the
source (`relocation_accounted`). The state of a run carries the calls that have failed.

`Placed` is the file system in between : which members are in the slot. A move and a move back both
exchange two names (`Placed.exchange`), so one lemma is for both.

Whatever other writers do between the calls of a relocation, no call of it removes an entry, but for
an empty directory at the name of a slot, or puts one over another (`Preserves`).
-/

set_option linter.unusedSectionVars false

open StepRun FilePath

namespace Zynk.Cutover

/-! ## Among other writers -/

/-- After a call the entry at `p` is at `f p`. -/
structure Preserves (path : FilePath) (fs fs' : FileSystem) (f : FilePath → FilePath) : Prop where
  injective : Function.Injective f
  /-- An entry is moved to a name that is free. -/
  free : ∀ p, f p = p ∨ fs.lookup p = none ∨ fs.lookup (f p) = none
  /-- Only members are moved. -/
  members : ∀ p, f p = p ∨ ∃ slot name, ∃ s ∈ bundleMembers, IsSlot path slot ∧
    (sidecar path s <+: p ∨ inSlot slot name s <+: p)
  /-- Only an empty directory at the name of a slot can be gone. -/
  kept : ∀ p e, fs.lookup p = some e → fs'.lookup (f p) = some e ∨
    IsSlot path p ∧ e.isDir = true ∧ ∀ name, fs.lookup (p ++ [name]) = none

/-- A relocation among writers of which nothing is known. -/
def amongOthers (path : FilePath) : Contract FsOp FsOp.Res FsEvent FileSystem where
  act := act
  allowed _ _ _ := True
  guar fs fs' := ∃ f, Preserves path fs fs' f
  rely _ _ := True

section

variable {path : FilePath} {fs fs' : FileSystem}

theorem preserves_refl (path : FilePath) (fs : FileSystem) : Preserves path fs fs id where
  injective := Function.injective_id
  free _ := Or.inl rfl
  members _ := Or.inl rfl
  kept _ _ h := Or.inl h

theorem preserves_mkdir {p : FilePath} {identity : FileIdentity}
    (h : fs.mkdir p identity = .ok fs') :
    Preserves path fs fs' id where
  injective := Function.injective_id
  free _ := Or.inl rfl
  members _ := Or.inl rfl
  kept q e he := by
    obtain ⟨hfree, -, hlookup⟩ := FileSystem.mkdir_ok h
    refine Or.inl ?_
    rw [id, hlookup, if_neg, he]
    rintro rfl
    rw [hfree] at he
    cases he

theorem preserves_rmdir {p : FilePath} (hp : IsSlot path p) (h : fs.rmdir p = .ok fs') :
    Preserves path fs fs' id where
  injective := Function.injective_id
  free _ := Or.inl rfl
  members _ := Or.inl rfl
  kept q e he := by
    obtain ⟨⟨e', he', hisDir⟩, hempty, hlookup⟩ := FileSystem.rmdir_ok h
    by_cases hq : q = p
    · subst hq
      rw [he'] at he
      cases he
      exact Or.inr ⟨hp, hisDir, hempty⟩
    · refine Or.inl ?_
      rw [id, hlookup, if_neg hq, he]

theorem preserves_rename {src dst : FilePath} (h : fs.rename src dst = .ok fs')
    (hmembers : ∃ slot name, ∃ s ∈ bundleMembers, IsSlot path slot ∧
      (src = sidecar path s ∧ dst = inSlot slot name s ∨
        src = inSlot slot name s ∧ dst = sidecar path s)) :
    Preserves path fs fs' (swapped src dst) := by
  obtain ⟨-, hfree, hapart, hlookup⟩ := FileSystem.rename_ok h
  have hdst : dst ≠ [] := by
    rintro rfl
    exact hapart.2 List.nil_prefix
  refine ⟨swapped_injective hapart, fun p => ?_, fun p => ?_, fun p e he => Or.inl ?_⟩
  · rcases swapped_cases src dst p with ⟨rest, rfl⟩ | ⟨rest, rfl⟩ | ⟨hsrc, hother⟩
    · rw [swapped_left]
      exact Or.inr (Or.inr (FileSystem.lookup_append_of_none hdst hfree rest))
    · exact Or.inr (Or.inl (FileSystem.lookup_append_of_none hdst hfree rest))
    · exact Or.inl (swapped_other hsrc hother)
  · by_cases hp : src <+: p ∨ dst <+: p
    · obtain ⟨slot, name, s, hs, hslot, ⟨rfl, rfl⟩ | ⟨rfl, rfl⟩⟩ := hmembers
      · exact Or.inr ⟨slot, name, s, hs, hslot, hp⟩
      · exact Or.inr ⟨slot, name, s, hs, hslot, hp.symm⟩
    · rw [not_or] at hp
      exact Or.inl (swapped_other hp.1 hp.2)
  · rw [hlookup, swapped_swapped hapart, he]

theorem changed_cases (fault : Option IoError) (fs : FileSystem)
    (change : Except IoError FileSystem) :
    (∃ err, changed fault fs change = (.error err, fs) ∧
        (fault = none → change = .error err)) ∨
      ∃ fs', change = .ok fs' ∧ changed fault fs change = (.ok (), fs') := by
  rcases fault with _ | err
  · rcases change with err | fs'
    · exact Or.inl ⟨err, rfl, fun _ => rfl⟩
    · exact Or.inr ⟨fs', rfl, rfl⟩
  · exact Or.inl ⟨err, rfl, fun h => by cases h⟩

theorem changed_preserves {fault : Option IoError} {change : Except IoError FileSystem}
    (h : ∀ fs', change = .ok fs' → ∃ f, Preserves path fs fs' f) :
    ∃ f, Preserves path fs (changed fault fs change).2 f := by
  rcases changed_cases fault fs change with ⟨err, herr, -⟩ | ⟨fs', hchange, hok⟩
  · rw [herr]
    exact ⟨id, preserves_refl path fs⟩
  · rw [hok]
    exact h fs' hchange

theorem call_preserves {op : FsOp} (hop : Call path op) (e : FsEvent) (fs : FileSystem) :
    ∃ f, Preserves path fs (act e fs op).2 f := by
  cases hop with
  | inspect h =>
    rw [h.act_snd]
    exact ⟨id, preserves_refl path fs⟩
  | mkdir hslot => exact changed_preserves fun fs' h => ⟨id, preserves_mkdir h⟩
  | rmdir hslot => exact changed_preserves fun fs' h => ⟨id, preserves_rmdir hslot h⟩
  | moveOut hslot hs =>
    exact changed_preserves fun fs' h =>
      ⟨_, preserves_rename h ⟨_, _, _, hs, hslot, Or.inl ⟨rfl, rfl⟩⟩⟩
  | moveBack hslot hs =>
    exact changed_preserves fun fs' h =>
      ⟨_, preserves_rename h ⟨_, _, _, hs, hslot, Or.inr ⟨rfl, rfl⟩⟩⟩

/-- Whatever others do, every call of a relocation preserves every entry. -/
theorem relocation_preserves (path : FilePath) (fs : FileSystem)
    (es : List (FsEvent ⊕ FileSystem)) :
    Along (amongOthers path).stepAmong (amongOthers path).StepGuarantees
      (fs, relocateBundleWith path) es := by
  refine Contract.Meets.among (C := amongOthers path) (fun _ => trivial) (fun _ _ _ _ _ => trivial)
    (fun fs => ⟨id, preserves_refl path fs⟩)
    (fun fs' _ => Contract.meets_of_performs (fun op hop e fs _ => call_preserves hop e fs)
      (performs_relocateBundleWith path) fs') es ?_
  refine along_of_forall es ?_
  rintro ⟨fs, script⟩ (e | fs') -
  · cases script <;> trivial
  · trivial

end

/-! ## Which members are in the slot -/

/-- The members with `K` are in the slot, with what is under them, and all else is as in `fs`. -/
structure Placed (path slot : FilePath) (name : String) (K : String → Prop) (fs fs' : FileSystem) :
    Prop where
  slotDir : ∃ identity, fs'.lookup slot = some ⟨identity, true⟩
  moved : ∀ s ∈ bundleMembers, K s → ∀ rest,
    fs'.lookup (inSlot slot name s ++ rest) = fs.lookup (sidecar path s ++ rest) ∧
      fs'.lookup (sidecar path s ++ rest) = none
  left : ∀ s ∈ bundleMembers, ¬ K s → ∀ rest,
    fs'.lookup (sidecar path s ++ rest) = fs.lookup (sidecar path s ++ rest) ∧
      fs'.lookup (inSlot slot name s ++ rest) = none
  elsewhere : ∀ p, p ≠ slot →
    (∀ s ∈ bundleMembers, ¬ sidecar path s <+: p ∧ ¬ inSlot slot name s <+: p) →
      fs'.lookup p = fs.lookup p

section

variable {path slot : FilePath} {name s : String} {K K' : String → Prop} {fs fs' fs'' : FileSystem}

theorem Placed.congr (h : Placed path slot name K fs fs')
    (hK : ∀ s ∈ bundleMembers, (K' s ↔ K s)) : Placed path slot name K' fs fs' where
  slotDir := h.slotDir
  moved s hs hmoved := h.moved s hs ((hK s hs).1 hmoved)
  left s hs hleft := h.left s hs fun hmoved => hleft ((hK s hs).2 hmoved)
  elsewhere := h.elsewhere

/-- The slot has been made. -/
theorem placed_mkdir {identity : FileIdentity} (hslot : IsSlot path slot)
    (h : fs.mkdir slot identity = .ok fs') : Placed path slot name (fun _ => False) fs fs' := by
  obtain ⟨hfree, -, hlookup⟩ := FileSystem.mkdir_ok h
  refine ⟨⟨identity, by rw [hlookup, if_pos rfl]⟩, fun _ _ hs => hs.elim, fun s hs _ rest => ?_,
    fun p hp _ => by rw [hlookup, if_neg hp]⟩
  constructor
  · rw [hlookup, if_neg]
    intro heq
    exact (apart_slot hs hslot).1 (heq ▸ List.prefix_append _ _)
  · have hne : inSlot slot name s ++ rest ≠ slot := by
      intro heq
      have habove : inSlot slot name s <+: slot := ⟨rest, heq⟩
      exact inSlot_not_above hslot hslot habove
    rw [hlookup, if_neg hne, inSlot, List.append_assoc]
    exact FileSystem.lookup_append_of_none hslot.ne_nil hfree _

/-- The two names of a member are exchanged. -/
theorem Placed.exchange (h : Placed path slot name K fs fs') (hslot : IsSlot path slot)
    (hs : s ∈ bundleMembers) (hK : K' s ↔ ¬ K s) (hother : ∀ t, t ≠ s → (K' t ↔ K t))
    (hlookup : ∀ p, fs''.lookup p =
      fs'.lookup (swapped (sidecar path s) (inSlot slot name s) p)) :
    Placed path slot name K' fs fs'' := by
  have hapart : Apart (sidecar path s) (inSlot slot name s) := apart_inSlot hs hslot
  have hsource : ∀ rest, fs''.lookup (sidecar path s ++ rest) =
      fs'.lookup (inSlot slot name s ++ rest) := fun rest => by rw [hlookup, swapped_left]
  have htarget : ∀ rest, fs''.lookup (inSlot slot name s ++ rest) =
      fs'.lookup (sidecar path s ++ rest) := fun rest => by rw [hlookup, swapped_right hapart]
  have hsame : ∀ p, ¬ sidecar path s <+: p → ¬ inSlot slot name s <+: p →
      fs''.lookup p = fs'.lookup p := fun p hp hp' => by rw [hlookup, swapped_other hp hp']
  have hsourceOf : ∀ t ∈ bundleMembers, t ≠ s → ∀ rest,
      fs''.lookup (sidecar path t ++ rest) = fs'.lookup (sidecar path t ++ rest) :=
    fun t ht hne rest => hsame _ (apart_members hne).not_prefix_append
      (apart_inSlot ht hslot).not_prefix_append
  have htargetOf : ∀ t ∈ bundleMembers, t ≠ s → ∀ rest,
      fs''.lookup (inSlot slot name t ++ rest) = fs'.lookup (inSlot slot name t ++ rest) :=
    fun t _ hne rest => hsame _ (apart_inSlot hs hslot).symm.not_prefix_append
      (apart_inSlots hne).not_prefix_append
  refine ⟨?_, fun t ht htK rest => ?_, fun t ht htK rest => ?_, fun p hp hp' => ?_⟩
  · rw [hsame slot (apart_slot hs hslot).1 (inSlot_not_above hslot hslot)]
    exact h.slotDir
  · by_cases hne : t = s
    · subst hne
      rw [hsource, htarget]
      exact h.left t ht (hK.1 htK) rest
    · rw [hsourceOf t ht hne, htargetOf t ht hne]
      exact h.moved t ht ((hother t hne).1 htK) rest
  · by_cases hne : t = s
    · subst hne
      rw [hsource, htarget]
      exact h.moved t ht (by_contra fun hnot => htK (hK.2 hnot)) rest
    · rw [hsourceOf t ht hne, htargetOf t ht hne]
      exact h.left t ht (fun hin => htK ((hother t hne).2 hin)) rest
  · rw [hsame p (hp' s hs).1 (hp' s hs).2]
    exact h.elsewhere p hp hp'

/-- With no member in the slot, all else is as before. -/
theorem Placed.lookup_eq (h : Placed path slot name K fs fs')
    (hnone : ∀ s ∈ bundleMembers, ¬ K s) (hslot : IsSlot path slot)
    (hfree : fs.lookup slot = none) {p : FilePath} (hp : p ≠ slot) :
    fs'.lookup p = fs.lookup p := by
  by_cases hall : ∀ s ∈ bundleMembers, ¬ sidecar path s <+: p ∧ ¬ inSlot slot name s <+: p
  · exact h.elsewhere p hp hall
  · simp only [not_forall, not_and_or, not_not] at hall
    obtain ⟨s, hs, ⟨rest, rfl⟩ | ⟨rest, rfl⟩⟩ := hall
    · exact (h.left s hs (hnone s hs) rest).1
    · rw [(h.left s hs (hnone s hs) rest).2, inSlot, List.append_assoc,
        FileSystem.lookup_append_of_none hslot.ne_nil hfree]

/-- Nothing but members is in the slot. -/
theorem Placed.lookup_in_slot (h : Placed path slot name K fs fs') (hslot : IsSlot path slot)
    (hfree : fs.lookup slot = none) {x : String} (hx : ∀ s ∈ bundleMembers, x ≠ name ++ s) :
    fs'.lookup (slot ++ [x]) = none := by
  have hnone : fs.lookup (slot ++ [x]) = none :=
    FileSystem.lookup_append_of_none hslot.ne_nil hfree [x]
  rw [← hnone]
  refine h.elsewhere _ (fun heq => ?_) fun s hs => ⟨?_, fun habove => hx s hs ?_⟩
  · exact absurd (congrArg List.length heq) (by simp)
  · exact (apart_slot hs hslot).symm.not_prefix_append
  · have heq := habove.eq_of_length (by simp [inSlot])
    simpa [inSlot] using heq.symm

end

/-! ## With no other writer -/

/-- A relocation with no other writer. The state has the calls that have failed. -/
def alone : Contract FsOp FsOp.Res FsEvent (FileSystem × List FsOp) where
  act e s op :=
    ((act e s.1 op).1, (act e s.1 op).2, s.2 ++ if e.fault.isSome then [op] else [])
  allowed e _ op := FaultAllowed e op
  guar _ _ := True
  rely s s' := s = s'

section

variable {path slot : FilePath} {name : String} {fs fs' : FileSystem} {failed : List FsOp}
  {α : Type}

theorem alone_call {post : α → FileSystem × List FsOp → Prop} {op : FsOp}
    {next : op.Res → FsScript α} :
    alone.Meets post (.call op next) (fs, failed) ↔ ∀ e, FaultAllowed e op →
      alone.Meets post (next (act e fs op).1)
        ((act e fs op).2, failed ++ if e.fault.isSome then [op] else []) :=
  forall₂_congr fun e he => by
    constructor
    · exact fun h => h.2 _ rfl
    · rintro h
      refine ⟨trivial, ?_⟩
      rintro _ rfl
      exact h

theorem alone_present {post : Except String Bool → FileSystem × List FsOp → Prop} (p : FilePath)
    (h : ∀ r failed', failed ⊆ failed' → (∀ here, r = .ok here → here = (fs.lookup p).isSome) →
      post r (fs, failed')) : alone.Meets post (present p) (fs, failed) := by
  refine alone_call.2 fun e he => ?_
  rcases hfault : e.fault with _ | err
  · rcases hlookup : fs.lookup p with _ | entry
    · simp only [act, hfault, hlookup, symlinkMetadata, entryPresent, IoError.noEntry, if_pos]
      exact h _ _ (List.subset_append_left _ _) fun here hhere => by cases hhere; simp [hlookup]
    · simp only [act, hfault, hlookup, symlinkMetadata, entryPresent]
      exact h _ _ (List.subset_append_left _ _) fun here hhere => by cases hhere; simp [hlookup]
  · have hkind : err.kind ≠ .notFound := he err hfault
    simp only [act, hfault, symlinkMetadata, entryPresent, if_neg hkind]
    exact h _ _ (List.subset_append_left _ _) fun here hhere => by cases hhere

theorem alone_inspects {post : α → FileSystem × List FsOp → Prop} {script : FsScript α}
    {Q : α → Prop} (hscript : script.Performs Inspection Q)
    (h : ∀ r failed', failed ⊆ failed' → Q r → post r (fs, failed')) :
    alone.Meets post script (fs, failed) := by
  induction script generalizing failed with
  | done r => exact h r failed (List.Subset.refl _) hscript
  | call op next ih =>
    refine alone_call.2 fun e _ => ?_
    rw [hscript.1.act_snd]
    exact ih _ (hscript.2 _) fun r failed' hfailed =>
      h r failed' (List.Subset.trans (List.subset_append_left _ _) hfailed)

/-- The members that there are. -/
def hasMember (fs : FileSystem) (path : FilePath) (s : String) : Bool :=
  (fs.lookup (sidecar path s)).isSome

theorem alone_planSidecars
    {post : Except String (List PlannedMove) → FileSystem × List FsOp → Prop}
    (suffixes : List String) (plan : List PlannedMove)
    (h : ∀ r failed', (∀ plan', r = .ok plan' →
      plan' = plan ++ (suffixes.filter (hasMember fs path)).map (plannedMove path slot name)) →
        post r (fs, failed')) :
    alone.Meets post (planSidecars path slot name plan suffixes) (fs, failed) := by
  induction suffixes generalizing plan failed with
  | nil => exact h _ _ fun plan' hplan => by cases hplan; simp
  | cons s suffixes ih =>
    refine Contract.meets_bind.2 (alone_present _ fun r failed' _ hr => ?_)
    rcases r with err | (_ | _)
    · exact h _ _ (by rintro plan' ⟨⟩)
    · have hs : hasMember fs path s = false := (hr false rfl).symm
      refine ih plan fun r failed' hplan => h r failed' fun plan' hplan' => ?_
      rw [List.filter_cons_of_neg (by rw [hs]; exact Bool.false_ne_true)]
      exact hplan plan' hplan'
    · have hs : hasMember fs path s = true := (hr true rfl).symm
      refine ih _ fun r failed' hplan => h r failed' fun plan' hplan' => ?_
      rw [List.filter_cons_of_pos hs, List.map_cons, List.append_cons]
      exact hplan plan' hplan'

theorem alone_planBundle
    {post : Except String (List PlannedMove) → FileSystem × List FsOp → Prop}
    (hname : fileName path = some name)
    (h : ∀ r failed', (∀ plan, r = .ok plan →
      plan = (bundleMembers.filter (hasMember fs path)).map (plannedMove path slot name)) →
        post r (fs, failed')) :
    alone.Meets post (planBundle path slot name) (fs, failed) := by
  refine Contract.meets_bind.2 (alone_planSidecars _ _ fun r failed' hr => ?_)
  rcases r with err | plan
  · exact h _ _ (by rintro plan ⟨⟩)
  · have hmain : hasMember fs path "" = (fs.lookup path).isSome := by
      rw [hasMember, sidecar_empty hname]
    obtain rfl := hr plan rfl
    refine Contract.meets_bind.2 (alone_present _ fun r failed' _ hr => ?_)
    rcases r with err | (_ | _)
    · exact h _ _ (by rintro plan ⟨⟩)
    · refine h _ _ fun plan hplan => ?_
      cases hplan
      rw [bundleMembers, List.filter_append, List.filter_cons_of_neg]
      · simp
      · rw [hmain, ← hr false rfl]
        exact Bool.false_ne_true
    · refine h _ _ fun plan hplan => ?_
      cases hplan
      rw [bundleMembers, List.filter_append, List.filter_cons_of_pos]
      · simp [plannedMove, sidecar_empty hname, inSlot]
      · rw [hmain, ← hr true rfl]

/-- The members `done` have been moved, each with the identity that was read before. -/
def Recorded (path slot : FilePath) (name : String) (fs : FileSystem) (done : List String)
    (moved : List Moved) : Prop :=
  List.Forall₂ (fun s m => m.src = sidecar path s ∧ m.dst = inSlot slot name s ∧
    ∃ e, fs.lookup (sidecar path s) = some e ∧ e.identity = m.before) done moved

/-- A change that is not made has failed by itself, or its call is among those that have failed. -/
theorem alone_changed (e : FsEvent) (op : FsOp) (fs : FileSystem) (failed : List FsOp)
    (change : Except IoError FileSystem) :
    (∃ err, changed e.fault fs change = (.error err, fs) ∧
        (op ∉ failed ++ (if e.fault.isSome then [op] else []) → change = .error err)) ∨
      ∃ fs', change = .ok fs' ∧ changed e.fault fs change = (.ok (), fs') := by
  rcases changed_cases e.fault fs change with ⟨err, herr, hfault⟩ | hok
  · refine Or.inl ⟨err, herr, fun hnot => hfault ?_⟩
    rcases hcase : e.fault with _ | err'
    · rfl
    · rw [hcase] at hnot
      simp at hnot
  · exact Or.inr hok

theorem alone_moveNoReplace {post : Except String Unit → FileSystem × List FsOp → Prop}
    {src dst : FilePath}
    (herror : ∀ text err failed', failed ⊆ failed' →
      (FsOp.rename src dst ∉ failed' → fs.rename src dst = .error err) →
        post (.error text) (fs, failed'))
    (hok : ∀ fs' failed', failed ⊆ failed' → fs.rename src dst = .ok fs' →
      post (.ok ()) (fs', failed')) :
    alone.Meets post (moveNoReplace src dst) (fs, failed) := by
  refine Contract.meets_bind.2 (alone_call.2 fun e _ => ?_)
  have hsub := List.subset_append_left failed
    (if e.fault.isSome then [FsOp.rename src dst] else [])
  simp only [act]
  rcases alone_changed e (.rename src dst) fs failed (fs.rename src dst) with
    ⟨err, heq, herr⟩ | ⟨fs', hrename, heq⟩
  · rw [heq]
    exact herror _ err _ hsub herr
  · rw [heq]
    exact hok fs' _ hsub hrename

theorem alone_identity {post : α → FileSystem × List FsOp → Prop} {p : FilePath}
    {next : Option FileIdentity → FsScript α}
    (h : ∀ identity failed', failed ⊆ failed' →
      (FsOp.identity p ∉ failed' → identity = (fs.lookup p).map (·.identity)) →
      (∀ i, identity = some i → (fs.lookup p).map (·.identity) = some i) →
        alone.Meets post (next identity) (fs, failed')) :
    alone.Meets post (readIdentity p >>= next) (fs, failed) := by
  refine alone_call.2 fun e _ => ?_
  have hread := entryIdentity_symlinkMetadata e.fault fs p
  change alone.Meets post (next (entryIdentity (symlinkMetadata e.fault fs p))) (fs, _)
  rw [hread]
  refine h _ _ (List.subset_append_left _ _) (fun hnot => if_neg fun hfault => hnot ?_)
    fun i hi => ?_
  · rw [if_pos hfault]
    simp
  · split at hi
    · cases hi
    · exact hi

theorem alone_moveMembers {fs₀ : FileSystem} (hslot : IsSlot path slot)
    {post : List Moved × Option String → FileSystem × List FsOp → Prop} (rest done : List String)
    (hmembers : ∀ s ∈ done ++ rest, s ∈ bundleMembers) (hnodup : (done ++ rest).Nodup)
    (moved : List Moved) (hmoved : Recorded path slot name fs₀ done moved)
    (hplaced : Placed path slot name (· ∈ done) fs₀ fs)
    (h : ∀ done' moved' failure fs' failed', failed ⊆ failed' → done' <+: done ++ rest →
      Recorded path slot name fs₀ done' moved' → Placed path slot name (· ∈ done') fs₀ fs' →
      (failure = none → done' = done ++ rest) → post (moved', failure) (fs', failed')) :
    alone.Meets post (moveMembers moved (rest.map (plannedMove path slot name))) (fs, failed) := by
  induction rest generalizing done moved fs failed with
  | nil =>
    rw [List.append_nil] at h
    exact h done moved none fs failed (List.Subset.refl _) (List.prefix_refl _) hmoved hplaced
      fun _ => rfl
  | cons s rest ih =>
    have hs : s ∈ bundleMembers := hmembers s (by simp)
    have hnot : s ∉ done := fun hmem =>
      (List.nodup_append.1 hnodup).2.2 s hmem s List.mem_cons_self rfl
    have hstop : ∀ failed', failed ⊆ failed' → ∀ text : String,
        post (moved, some text) (fs, failed') := fun failed' hfailed text =>
      h done moved _ fs failed' hfailed (List.prefix_append _ _) hmoved hplaced (by rintro ⟨⟩)
    refine alone_identity fun identity failed' hfailed _ hread => ?_
    rcases identity with _ | before
    · exact hstop failed' hfailed _
    · refine Contract.meets_bind.2 (alone_moveNoReplace ?_ ?_)
      · exact fun text err failed'' hfailed' _ => hstop failed''
          (List.Subset.trans hfailed hfailed') _
      · intro fs' failed'' hfailed' hrename
        obtain ⟨-, -, -, hlookup⟩ := FileSystem.rename_ok hrename
        have hsource : ∃ e, fs₀.lookup (sidecar path s) = some e ∧ e.identity = before := by
          have hleft := (hplaced.left s hs hnot []).1
          rw [List.append_nil] at hleft
          rw [← hleft]
          exact Option.map_eq_some_iff.1 (hread before rfl)
        have hplaced' : Placed path slot name (· ∈ done ++ [s]) fs₀ fs' :=
          hplaced.exchange hslot hs (by simp [hnot]) (fun t ht => by simp [ht]) hlookup
        refine ih (done ++ [s]) (by simpa using hmembers) (by simpa using hnodup) _
          (List.rel_append hmoved (.cons ⟨rfl, rfl, hsource⟩ .nil)) hplaced' ?_
        intro done' moved' failure fs' failed''' hfailed'' habove
        rw [← List.append_cons] at habove ⊢
        exact h done' moved' failure fs' failed'''
          (List.Subset.trans (List.Subset.trans hfailed hfailed') hfailed'') habove

theorem alone_displacedMembers {post : List FilePath → FileSystem × List FsOp → Prop}
    (moved : List Moved)
    (hmoved : ∀ m ∈ moved, (fs.lookup m.dst).map (·.identity) = some m.before)
    (displaced : List FilePath) (hdisplaced : ∀ p ∈ displaced, FsOp.identity p ∈ failed)
    (h : ∀ displaced' failed', failed ⊆ failed' →
      (∀ p ∈ displaced', FsOp.identity p ∈ failed') → post displaced' (fs, failed')) :
    alone.Meets post (displacedMembers displaced moved) (fs, failed) := by
  induction moved generalizing displaced failed with
  | nil => exact h displaced failed (List.Subset.refl _) hdisplaced
  | cons m moved ih =>
    refine alone_identity fun identity failed' hfailed hread _ => ?_
    refine ih (fun m' hm' => hmoved m' (List.mem_cons_of_mem _ hm')) _ (fun p hp => ?_)
      fun displaced' failed'' hfailed' => h displaced' failed''
        (List.Subset.trans hfailed hfailed')
    split at hp
    · exact hfailed (hdisplaced p hp)
    · rename_i hne
      rcases List.mem_append.1 hp with hp | hp
      · exact hfailed (hdisplaced p hp)
      · cases List.mem_singleton.1 hp
        by_contra hnot
        exact hne ((hread hnot).trans (hmoved m List.mem_cons_self))

end

/-! ## What a relocation leaves -/

/-- The whole bundle is in a new slot. -/
structure Relocated (path : FilePath) (name : String) (fs fs' : FileSystem)
    (outcome : RelocateOutcome) : Prop where
  fileName : fileName path = some name
  movedFrom : outcome.movedFrom = path
  slot : IsSlot path outcome.movedTo
  fresh : fs.lookup outcome.movedTo = none
  members : ∀ s, s ∈ outcome.members ↔ s ∈ bundleMembers ∧ fs.lookup (sidecar path s) ≠ none
  placed : Placed path outcome.movedTo name (· ∈ outcome.members) fs fs'
  /-- The slot holds nothing else. -/
  only : ∀ x, fs'.lookup (outcome.movedTo ++ [x]) ≠ none → ∃ s ∈ outcome.members, x = name ++ s
  source : ∀ s ∈ bundleMembers, fs'.lookup (sidecar path s) = none

/-- All is as before, but for an empty slot. -/
def Restored (path : FilePath) (fs fs' : FileSystem) : Prop :=
  (∀ p, fs'.lookup p = fs.lookup p) ∨
    ∃ slot, IsSlot path slot ∧ fs.lookup slot = none ∧
      (∃ identity, fs'.lookup slot = some ⟨identity, true⟩) ∧
        (∀ x, fs'.lookup (slot ++ [x]) = none) ∧ ∀ p, p ≠ slot → fs'.lookup p = fs.lookup p

/-- The members that are listed are in the slot, and for each a call has failed. -/
structure Stranded (path slot : FilePath) (name : String) (fs fs' : FileSystem) (failed : List FsOp)
    (listed : List FilePath) : Prop where
  isSlot : IsSlot path slot
  fresh : fs.lookup slot = none
  placed : Placed path slot name (fun s => sidecar path s ∈ listed) fs fs'
  only : ∀ x, fs'.lookup (slot ++ [x]) ≠ none →
    ∃ s ∈ bundleMembers, sidecar path s ∈ listed ∧ x = name ++ s
  failed : ∀ p ∈ listed, ∃ s ∈ bundleMembers, p = sidecar path s ∧ fs.lookup p ≠ none ∧
    (FsOp.identity (inSlot slot name s) ∈ failed ∨ FsOp.rename (inSlot slot name s) p ∈ failed)

/-- What a result says about the file systems before and after. -/
def Accounted (path : FilePath) (fs fs' : FileSystem) (failed : List FsOp) :
    Except RelocateError RelocateOutcome → Prop
  | .ok outcome => ∃ name, Relocated path name fs fs' outcome
  | .error err => Restored path fs fs' ∧ err.listed = [] ∨
      ∃ failure slot name notRestored, err = .failed failure slot notRestored ∧
        Stranded path slot name fs fs' failed err.listed

section

variable {path slot : FilePath} {name : String} {fs fs₀ : FileSystem} {failed : List FsOp}

/-- A member that has moved can be moved back. -/
theorem Placed.rename_back {K : String → Prop} {s : String}
    (h : Placed path slot name K fs₀ fs) (hslot : IsSlot path slot) (hs : s ∈ bundleMembers)
    (hK : K s) (hsome : fs₀.lookup (sidecar path s) ≠ none) :
    ∃ fs', fs.rename (inSlot slot name s) (sidecar path s) = .ok fs' := by
  have hmoved := h.moved s hs hK []
  rw [List.append_nil, List.append_nil] at hmoved
  refine FileSystem.rename_eq_ok (by rw [hmoved.1]; exact hsome) ?_ hmoved.2
    (apart_inSlot hs hslot).symm
  have hparent : fs₀.isDirectory path.dropLast = true := FileSystem.isDirectory_of_child hsome
  rw [sidecar, dropLast_pushSuffix]
  -- The directory of the bundle is above all names that have changed.
  have hlength : ∀ t ∈ bundleMembers, ¬ sidecar path t <+: path.dropLast ∧
      ¬ inSlot slot name t <+: path.dropLast := fun t ht => by
    have hmember : ∀ rest, ¬ (sidecar path t ++ rest) <+: path.dropLast := fun rest habove => by
      have hle := habove.length_le
      rw [List.length_append, sidecar, length_pushSuffix] at hle
      omega
    refine ⟨by simpa using hmember [], fun habove => ?_⟩
    obtain ⟨n, rfl⟩ := hslot
    have hle := habove.length_le
    rw [inSlot, backupCandidate, List.length_append, length_pushSuffix] at hle
    omega
  have hne : path.dropLast ≠ slot := by
    obtain ⟨n, rfl⟩ := hslot
    intro heq
    have := congrArg List.length heq
    rw [backupCandidate, length_pushSuffix] at this
    omega
  rw [FileSystem.isDirectory, h.elsewhere _ hne hlength]
  exact hparent

theorem alone_rollBack (hslot : IsSlot path slot) (displaced : List FilePath)
    (hdisplaced : ∀ p ∈ displaced, FsOp.identity p ∈ failed)
    {post : List (FilePath × String) → FileSystem × List FsOp → Prop} (rest kept : List String)
    (hmembers : ∀ s ∈ rest ++ kept, s ∈ bundleMembers ∧ fs₀.lookup (sidecar path s) ≠ none)
    (hnodup : (rest ++ kept).Nodup) (moved : List Moved)
    (hmoved : Recorded path slot name fs₀ rest moved) (notRestored : List (FilePath × String))
    (hnotRestored : notRestored.map (·.1) = kept.map (sidecar path))
    (hfailed : ∀ s ∈ kept, FsOp.identity (inSlot slot name s) ∈ failed ∨
      FsOp.rename (inSlot slot name s) (sidecar path s) ∈ failed)
    (hplaced : Placed path slot name (· ∈ rest ++ kept) fs₀ fs)
    (h : ∀ (kept' : List String) notRestored' fs' failed', failed ⊆ failed' →
      (∀ s ∈ kept', s ∈ bundleMembers ∧ fs₀.lookup (sidecar path s) ≠ none) →
      notRestored'.map (·.1) = kept'.map (sidecar path) →
      (∀ s ∈ kept', FsOp.identity (inSlot slot name s) ∈ failed' ∨
        FsOp.rename (inSlot slot name s) (sidecar path s) ∈ failed') →
      Placed path slot name (· ∈ kept') fs₀ fs' → post notRestored' (fs', failed')) :
    alone.Meets post (rollBack displaced notRestored moved) (fs, failed) := by
  induction rest generalizing kept moved notRestored fs failed with
  | nil =>
    cases hmoved
    exact h kept notRestored fs failed (List.Subset.refl _) hmembers hnotRestored hfailed hplaced
  | cons s rest ih =>
    obtain ⟨hs, hsome⟩ := hmembers s (by simp)
    rcases hmoved with _ | ⟨⟨hsrc, hdst, -⟩, hmoved⟩
    rename_i m moved
    -- A member that is not moved back is kept.
    have hkeep : ∀ text failed', failed ⊆ failed' →
        (FsOp.identity (inSlot slot name s) ∈ failed' ∨
          FsOp.rename (inSlot slot name s) (sidecar path s) ∈ failed') →
        alone.Meets post (rollBack displaced (notRestored ++ [(m.src, text)]) moved)
          (fs, failed') := by
      intro text failed' hsub hcall
      refine ih (fun p hp => hsub (hdisplaced p hp)) (kept ++ [s])
        (fun t ht => hmembers t (by simp at ht ⊢; tauto)) ?_ moved hmoved _
        (by simp [hnotRestored, hsrc]) ?_ (hplaced.congr fun t _ => by simp; tauto)
        fun kept' notRestored' fs' failed'' hsub' => h kept' notRestored' fs' failed''
          (List.Subset.trans hsub hsub')
      · rw [← List.append_assoc]
        exact (List.perm_append_singleton s (rest ++ kept)).symm.nodup hnodup
      · intro t ht
        rcases List.mem_append.1 ht with ht | ht
        · exact (hfailed t ht).imp (fun hmem => hsub hmem) fun hmem => hsub hmem
        · cases List.mem_singleton.1 ht
          exact hcall
    unfold rollBack
    split
    · rename_i hmem
      rw [hdst] at hmem
      exact hkeep _ failed (List.Subset.refl _) (Or.inl (hdisplaced _ hmem))
    · rw [hdst, hsrc]
      refine Contract.meets_bind.2 (alone_moveNoReplace ?_ ?_)
      · intro text err failed' hsub herr
        have hcall : FsOp.rename (inSlot slot name s) (sidecar path s) ∈ failed' := by
          by_contra hnot
          obtain ⟨fs', hok⟩ := hplaced.rename_back hslot hs (by simp) hsome
          rw [hok] at herr
          cases herr hnot
        have hkept := hkeep text failed' hsub (Or.inr hcall)
        rwa [hsrc] at hkept
      · intro fs' failed' hsub hrename
        obtain ⟨-, -, -, hlookup⟩ := FileSystem.rename_ok hrename
        have hnot : s ∉ rest ++ kept := (List.nodup_cons.1 hnodup).1
        refine ih (fun p hp => hsub (hdisplaced p hp)) kept
          (fun t ht => hmembers t (List.mem_cons_of_mem _ ht)) (List.nodup_cons.1 hnodup).2 moved
          hmoved notRestored hnotRestored
          (fun t ht => (hfailed t ht).imp (fun hmem => hsub hmem) fun hmem => hsub hmem)
          (hplaced.exchange hslot hs (by simpa using hnot) (fun t ht => by simp [ht]) fun p => ?_)
          fun kept' notRestored' fs' failed'' hsub' => h kept' notRestored' fs' failed''
            (List.Subset.trans hsub hsub')
        rw [hlookup, swapped_comm (apart_inSlot hs hslot)]

/-- A relocation that is taken back accounts for every member. -/
theorem alone_undoRelocation (hslot : IsSlot path slot) (hfree : fs₀.lookup slot = none)
    (displaced : List FilePath) (hdisplaced : ∀ p ∈ displaced, FsOp.identity p ∈ failed)
    (done : List String)
    (hmembers : ∀ s ∈ done, s ∈ bundleMembers ∧ fs₀.lookup (sidecar path s) ≠ none)
    (hnodup : done.Nodup) (moved : List Moved) (hmoved : Recorded path slot name fs₀ done moved)
    (hplaced : Placed path slot name (· ∈ done) fs₀ fs) (failure : String) :
    alone.Meets (fun r s => Accounted path fs₀ s.1 s.2 r)
      (undoRelocation slot moved displaced failure) (fs, failed) := by
  refine Contract.meets_bind.2 (alone_rollBack hslot displaced hdisplaced done.reverse []
    (by simpa using hmembers) (by simpa using hnodup) _ (List.rel_reverse hmoved) [] rfl (by simp)
    (hplaced.congr fun s _ => by simp) fun kept notRestored fs' failed' _ hkept hlisted hcalls
      hplaced' => ?_)
  rcases notRestored with _ | ⟨m, notRestored⟩
  · obtain rfl : kept = [] := by simpa using hlisted.symm
    have hrestored : ∀ p, p ≠ slot → fs'.lookup p = fs₀.lookup p := fun p hp =>
      hplaced'.lookup_eq (by simp) hslot hfree hp
    have hempty : Restored path fs₀ fs' := by
      refine Or.inr ⟨slot, hslot, hfree, hplaced'.slotDir, fun x => ?_, hrestored⟩
      rw [hrestored _ fun heq => absurd (congrArg List.length heq) (by simp)]
      exact FileSystem.lookup_append_of_none hslot.ne_nil hfree [x]
    refine Contract.meets_bind.2 (alone_call.2 fun e _ => ?_)
    simp only [act]
    rcases changed_cases e.fault fs' (fs'.rmdir slot) with ⟨err, heq, -⟩ | ⟨fs'', hrmdir, heq⟩
    · rw [heq]
      exact Or.inl ⟨hempty, rfl⟩
    · rw [heq]
      obtain ⟨-, -, hlookup⟩ := FileSystem.rmdir_ok hrmdir
      refine Or.inl ⟨Or.inl fun p => ?_, rfl⟩
      rw [hlookup]
      split
      · rename_i hp
        rw [hp, hfree]
      · rename_i hp
        exact hrestored p hp
  · refine Or.inr ⟨failure, slot, name, m :: notRestored, rfl, ?_⟩
    change Stranded path slot name fs₀ fs' failed' ((m :: notRestored).map (·.1))
    rw [hlisted]
    have hmem : ∀ s, sidecar path s ∈ kept.map (sidecar path) ↔ s ∈ kept := fun s => by
      rw [List.mem_map]
      exact ⟨fun ⟨t, ht, heq⟩ => pushSuffix_injective heq ▸ ht, fun hs => ⟨s, hs, rfl⟩⟩
    have hplaced'' := hplaced'.congr fun s _ => hmem s
    refine ⟨hslot, hfree, hplaced'', fun x hx => ?_, fun p hp => ?_⟩
    · by_contra hnot
      refine hx ?_
      by_cases hname : ∀ s ∈ bundleMembers, x ≠ name ++ s
      · exact hplaced'.lookup_in_slot hslot hfree hname
      · simp only [not_forall, not_not] at hname
        obtain ⟨s, hs, rfl⟩ := hname
        have hleft := (hplaced''.left s hs (fun hlisted => hnot ⟨s, hs, hlisted, rfl⟩) []).2
        rwa [List.append_nil] at hleft
    · obtain ⟨s, hs, rfl⟩ := List.mem_map.1 hp
      exact ⟨s, (hkept s hs).1, rfl, (hkept s hs).2, hcalls s hs⟩

theorem mem_filter_hasMember {s : String} :
    s ∈ bundleMembers.filter (hasMember fs₀ path) ↔
      s ∈ bundleMembers ∧ fs₀.lookup (sidecar path s) ≠ none := by
  rw [List.mem_filter, hasMember, Option.isSome_iff_ne_none]

theorem Recorded.exists_of_mem {done : List String} {moved : List Moved} {m : Moved}
    (h : Recorded path slot name fs₀ done moved) (hm : m ∈ moved) :
    ∃ s ∈ done, m.dst = inSlot slot name s ∧
      ∃ e, fs₀.lookup (sidecar path s) = some e ∧ e.identity = m.before := by
  induction h with
  | nil => exact absurd hm List.not_mem_nil
  | @cons s m' done moved hfirst _ ih =>
    rcases List.mem_cons.1 hm with rfl | hm
    · exact ⟨s, List.mem_cons_self, hfirst.2⟩
    · obtain ⟨t, ht, hdst⟩ := ih hm
      exact ⟨t, List.mem_cons_of_mem _ ht, hdst⟩

section

variable {members : List String}
  (hmembers : ∀ s, s ∈ members ↔ s ∈ bundleMembers ∧ fs₀.lookup (sidecar path s) ≠ none)

include hmembers

/-- With all members moved the relocation is complete. -/
theorem relocated_of_placed (hname : fileName path = some name) (hslot : IsSlot path slot)
    (hfree : fs₀.lookup slot = none) (hplaced : Placed path slot name (· ∈ members) fs₀ fs) :
    Relocated path name fs₀ fs ⟨path, slot, members⟩ := by
  refine ⟨hname, rfl, hslot, hfree, hmembers, hplaced, fun x hx => ?_, fun s hs => ?_⟩
  · by_contra hnot
    refine hx ?_
    by_cases hother : ∀ s ∈ bundleMembers, x ≠ name ++ s
    · exact hplaced.lookup_in_slot hslot hfree hother
    · simp only [not_forall, not_not] at hother
      obtain ⟨s, hs, rfl⟩ := hother
      have hleft := (hplaced.left s hs (fun hmem => hnot ⟨s, hmem, rfl⟩) []).2
      rwa [List.append_nil] at hleft
  · by_cases hmem : s ∈ members
    · have hmovedOut := (hplaced.moved s hs hmem []).2
      rwa [List.append_nil] at hmovedOut
    · have hleft := (hplaced.left s hs hmem []).1
      rw [List.append_nil] at hleft
      rw [hleft]
      by_contra hsome
      exact hmem ((hmembers s).2 ⟨hs, hsome⟩)

theorem alone_relocateInto (hnodup : members.Nodup) (hname : fileName path = some name)
    (hslot : IsSlot path slot) (hfree : fs₀.lookup slot = none)
    (hplaced : Placed path slot name (fun _ => False) fs₀ fs) :
    alone.Meets (fun r s => Accounted path fs₀ s.1 s.2 r)
      (relocateInto path slot (members.map (plannedMove path slot name))) (fs, failed) := by
  refine Contract.meets_bind.2 (alone_moveMembers hslot members []
    (fun s hs => ((hmembers s).1 hs).1) hnodup [] .nil (hplaced.congr (by simp))
    fun done moved failure fs' failed' _ habove hmoved hplaced' hall => ?_)
  rw [List.nil_append] at habove hall
  have hbefore : ∀ m ∈ moved, (fs'.lookup m.dst).map (·.identity) = some m.before := by
    intro m hm
    obtain ⟨s, hs, hdst, e, he, hidentity⟩ := hmoved.exists_of_mem hm
    have hin := (hplaced'.moved s ((hmembers s).1 (habove.subset hs)).1 hs []).1
    rw [List.append_nil, List.append_nil] at hin
    rw [hdst, hin, he, Option.map_some, hidentity]
  refine Contract.meets_bind.2 (Contract.meets_bind.2 (alone_displacedMembers moved hbefore []
    (by simp) fun displaced failed'' _ hdisplaced => ?_))
  refine alone_inspects (performs_checks moved failure
    (Q := fun r => r.1 = displaced ∧ (r.2 = none → failure = none)) fun found hfound =>
      ⟨rfl, hfound⟩) ?_
  rintro ⟨displaced, found⟩ failed₃ hsub ⟨rfl, hfound⟩
  cases found with
  | some failure =>
    exact alone_undoRelocation hslot hfree displaced (fun p hp => hsub (hdisplaced p hp)) done
      (fun s hs => (hmembers s).1 (habove.subset hs)) (hnodup.sublist habove.sublist) moved hmoved
      hplaced' failure
  | none =>
    obtain rfl := hall (hfound rfl)
    have hsuffixes : (done.map (plannedMove path slot name)).map (·.suffix) = done := by
      rw [List.map_map]
      exact List.map_id _
    change Accounted path fs₀ fs' failed₃ (.ok ⟨path, slot, _⟩)
    rw [hsuffixes]
    exact ⟨name, relocated_of_placed hmembers hname hslot hfree hplaced'⟩

end

theorem alone_relocateBundleWith (path : FilePath) (fs : FileSystem) (failed : List FsOp) :
    alone.Meets (fun r s => Accounted path fs s.1 s.2 r) (relocateBundleWith path)
      (fs, failed) := by
  have hsame : ∀ (text : String) (failed' : List FsOp),
      Accounted path fs fs failed' (.error (.refused text)) := fun text failed' =>
    Or.inl ⟨Or.inl fun _ => rfl, rfl⟩
  refine Contract.meets_bind.2 (alone_inspects (performs_nextBackupFrom 0 maxBackupSlots)
    fun r failed' _ hslot => ?_)
  rcases r with err | slot
  · exact hsame _ _
  · cases hname : fileName path with
    | none => exact hsame _ _
    | some name =>
      refine Contract.meets_bind.2 (alone_planBundle hname fun r failed'' hplan => ?_)
      rcases r with err | plan
      · exact hsame _ _
      · obtain rfl := hplan plan rfl
        change alone.Meets _ (if _ then _ else _) _
        split
        · exact hsame _ _
        · refine Contract.meets_bind.2 (alone_call.2 fun e _ => ?_)
          simp only [act]
          rcases changed_cases e.fault fs (fs.mkdir slot e.identity) with
            ⟨err, heq, -⟩ | ⟨fs', hmkdir, heq⟩
          · rw [heq]
            exact hsame _ _
          · rw [heq]
            exact alone_relocateInto (fun s => mem_filter_hasMember)
              (List.Nodup.filter _ (by decide)) hname (hslot slot rfl)
              (FileSystem.mkdir_ok hmkdir).1 (placed_mkdir (hslot slot rfl) hmkdir)

end

/-- A relocation ends whatever fails, and with no other writer its result accounts for every member.
Among other writers, whatever they do, each of its calls preserves every entry. -/
theorem relocation_accounted (path : FilePath) (fs : FileSystem) :
    (∀ events : ℕ → FsEvent,
      (∀ n, Along alone.step alone.StepAllowed ((fs, []), relocateBundleWith path)
        ((List.range n).map events)) →
      ∃ n result fs' failed,
        run alone.step ((fs, []), relocateBundleWith path) ((List.range n).map events) =
          ((fs', failed), .done result) ∧ Accounted path fs fs' failed result) ∧
    ∀ es : List (FsEvent ⊕ FileSystem),
      Along (amongOthers path).stepAmong (amongOthers path).StepGuarantees
        (fs, relocateBundleWith path) es := by
  refine ⟨fun events hevents => ?_, relocation_preserves path fs⟩
  obtain ⟨n, result, ⟨fs', failed⟩, hrun, hpost⟩ :=
    (alone_relocateBundleWith path fs []).returns (fun _ => rfl) events hevents
  exact ⟨n, result, fs', failed, hrun, hpost⟩

/-- A database with a write-ahead log. -/
def bundleWithWal : FileSystem :=
  FileSystem.ofEntries [(["data"], ⟨(1, 1), true⟩), (["data", "zynk.db"], ⟨(1, 2), false⟩),
    (["data", "zynk.db-wal"], ⟨(1, 3), false⟩)]

theorem relocation_accounted_wal :
    ∃ n result fs' failed,
      run alone.step ((bundleWithWal, []), relocateBundleWith ["data", "zynk.db"])
          ((List.range n).map fun _ => {}) = ((fs', failed), .done result) ∧
        Accounted ["data", "zynk.db"] bundleWithWal fs' failed result :=
  (relocation_accounted ["data", "zynk.db"] bundleWithWal).1 (fun _ => {}) fun n =>
    along_of_forall _ fun ⟨fs, script⟩ e he => by
      obtain ⟨-, -, rfl⟩ := List.mem_map.1 he
      rcases script with _ | ⟨op, next⟩
      · trivial
      · exact faultAllowed_of_none rfl op

end Zynk.Cutover
