import Zynk.Lib.Assoc

/-!
# File systems

A file system maps names to entries. An entry is known by its identity, and it is a directory or
not. A name is in a directory, so what does not exist has nothing under it (`lookup_below`).

The operations are atomic : `mkdir`, `rename`, which never replaces an entry, and `rmdir`, which
removes an empty directory only. A directory that is renamed takes along what is under it. As
nothing is under a name that does not exist, this exchanges what is under the two names
(`FilePath.swapped`), and a second exchange takes it back.

Each operation has one lemma for its success (`mkdir_ok`, `rename_ok`, `rmdir_ok`), which gives
every lookup after it.
-/

abbrev FilePath := List String

namespace FilePath

variable {a b p q : FilePath}

/-- Exchange what is under `a` with what is under `b`. -/
def swapped (a b p : FilePath) : FilePath :=
  if a <+: p then b ++ p.drop a.length
  else if b <+: p then a ++ p.drop b.length
  else p

/-- Neither is under the other. -/
def Apart (a b : FilePath) : Prop :=
  ¬ a <+: b ∧ ¬ b <+: a

theorem Apart.symm (h : Apart a b) : Apart b a :=
  ⟨h.2, h.1⟩

theorem apart_of_length_eq (h : a.length = b.length) (hne : a ≠ b) : Apart a b :=
  ⟨fun habove => hne (habove.eq_of_length h),
    fun habove => hne (habove.eq_of_length h.symm).symm⟩

/-- What is under one of two that are apart is not under the other. -/
theorem Apart.not_prefix_append (h : Apart a b) : ¬ b <+: a ++ p := by
  intro habove
  rcases List.prefix_or_prefix_of_prefix habove (List.prefix_append a p) with hba | hab
  · exact h.2 hba
  · exact h.1 hab

theorem Apart.append (h : Apart a b) : Apart a (b ++ p) :=
  ⟨h.symm.not_prefix_append, fun habove => h.2 ((List.prefix_append b p).trans habove)⟩

theorem swapped_left (p : FilePath) : swapped a b (a ++ p) = b ++ p := by
  rw [swapped, if_pos (List.prefix_append a p), List.drop_left]

theorem swapped_right (h : Apart a b) (p : FilePath) : swapped a b (b ++ p) = a ++ p := by
  rw [swapped, if_neg h.symm.not_prefix_append, if_pos (List.prefix_append b p), List.drop_left]

theorem swapped_self_left (a b : FilePath) : swapped a b a = b := by
  have h := swapped_left (a := a) (b := b) []
  rwa [List.append_nil, List.append_nil] at h

theorem swapped_self_right (h : Apart a b) : swapped a b b = a := by
  have h' := swapped_right h []
  rwa [List.append_nil, List.append_nil] at h'

theorem swapped_other (ha : ¬ a <+: p) (hb : ¬ b <+: p) : swapped a b p = p := by
  rw [swapped, if_neg ha, if_neg hb]

/-- A path is under the first, under the second, or is not moved. -/
theorem swapped_cases (a b p : FilePath) :
    (∃ rest, p = a ++ rest) ∨ (∃ rest, p = b ++ rest) ∨ ¬ a <+: p ∧ ¬ b <+: p := by
  by_cases ha : a <+: p
  · obtain ⟨rest, rfl⟩ := ha
    exact Or.inl ⟨rest, rfl⟩
  · by_cases hb : b <+: p
    · obtain ⟨rest, rfl⟩ := hb
      exact Or.inr (Or.inl ⟨rest, rfl⟩)
    · exact Or.inr (Or.inr ⟨ha, hb⟩)

theorem swapped_comm (h : Apart a b) (p : FilePath) : swapped b a p = swapped a b p := by
  rcases swapped_cases a b p with ⟨rest, rfl⟩ | ⟨rest, rfl⟩ | ⟨ha, hb⟩
  · rw [swapped_left, swapped_right h.symm]
  · rw [swapped_right h, swapped_left]
  · rw [swapped_other ha hb, swapped_other hb ha]

theorem swapped_swapped (h : Apart a b) (p : FilePath) : swapped a b (swapped a b p) = p := by
  rcases swapped_cases a b p with ⟨rest, rfl⟩ | ⟨rest, rfl⟩ | ⟨ha, hb⟩
  · rw [swapped_left, swapped_right h]
  · rw [swapped_right h, swapped_left]
  · rw [swapped_other ha hb, swapped_other ha hb]

theorem swapped_injective (h : Apart a b) : Function.Injective (swapped a b) :=
  Function.Involutive.injective (swapped_swapped h)

end FilePath

open FilePath

/-- The device and the inode of an entry. -/
abbrev FileIdentity := ℕ × ℕ

structure FileEntry where
  identity : FileIdentity
  isDir : Bool
deriving DecidableEq

structure FileSystem where
  entries : Assoc FilePath FileEntry
  /-- A name is in a directory. -/
  closed : ∀ (dir : FilePath) (name : String), entries.lookup (dir ++ [name]) ≠ none →
    dir = [] ∨ ∃ e, entries.lookup dir = some e ∧ e.isDir = true

inductive ErrorKind
  | notFound
  | alreadyExists
  | notADirectory
  | directoryNotEmpty
  | invalidInput
  | unsupported
  | other
deriving DecidableEq

structure IoError where
  kind : ErrorKind
  rawOsError : Option ℕ
  text : String

namespace IoError

def noEntry : IoError :=
  ⟨.notFound, some 2, "No such file or directory (os error 2)"⟩

def fileExists : IoError :=
  ⟨.alreadyExists, some 17, "File exists (os error 17)"⟩

def notADirectory : IoError :=
  ⟨.notADirectory, some 20, "Not a directory (os error 20)"⟩

def invalidArgument : IoError :=
  ⟨.invalidInput, some 22, "Invalid argument (os error 22)"⟩

def notEmpty : IoError :=
  ⟨.directoryNotEmpty, some 39, "Directory not empty (os error 39)"⟩

end IoError

namespace FileSystem

variable {fs fs' : FileSystem} {a b dir p q : FilePath} {name : String} {e : FileEntry}

def lookup (fs : FileSystem) (p : FilePath) : Option FileEntry :=
  fs.entries.lookup p

/-- Names can be in it. The empty path is where all paths start. -/
def isDirectory (fs : FileSystem) (p : FilePath) : Bool :=
  p.isEmpty || (fs.lookup p).any (·.isDir)

/-- The names in a directory. -/
def children (fs : FileSystem) (dir : FilePath) : List FilePath :=
  fs.entries.keys.filter fun p => !p.isEmpty && p.dropLast == dir

theorem isDirectory_iff :
    fs.isDirectory p = true ↔ p = [] ∨ ∃ e, fs.lookup p = some e ∧ e.isDir = true := by
  simp [isDirectory, Option.any_eq_true]

theorem mem_children : p ∈ fs.children dir ↔ ∃ name, p = dir ++ [name] ∧ fs.lookup p ≠ none := by
  rw [children, List.mem_filter]
  rw [show p ∈ fs.entries.keys ↔ fs.lookup p ≠ none from
    (AList.lookup_isSome (s := fs.entries) (a := p)).symm.trans Option.isSome_iff_ne_none]
  constructor
  · rintro ⟨hsome, hp⟩
    simp only [Bool.and_eq_true, Bool.not_eq_true', List.isEmpty_eq_false_iff, beq_iff_eq] at hp
    obtain ⟨hne, rfl⟩ := hp
    exact ⟨p.getLast hne, (List.dropLast_append_getLast hne).symm, hsome⟩
  · rintro ⟨name, rfl, hsome⟩
    exact ⟨hsome, by simp⟩

theorem isDirectory_of_child (h : fs.lookup (dir ++ [name]) ≠ none) :
    fs.isDirectory dir = true :=
  isDirectory_iff.2 (fs.closed dir name h)

/-- What does not exist, or is no directory, has nothing under it. -/
theorem lookup_below (hdir : fs.isDirectory dir = false) :
    ∀ rest : FilePath, rest ≠ [] → fs.lookup (dir ++ rest) = none := by
  intro rest
  induction rest using List.reverseRecOn with
  | nil => exact fun h => absurd rfl h
  | append_singleton rest name ih =>
    intro _
    by_contra hsome
    rw [← List.append_assoc] at hsome
    have hparent := isDirectory_of_child hsome
    rcases rest with _ | ⟨x, rest⟩
    · rw [List.append_nil, hdir] at hparent
      exact Bool.false_ne_true hparent
    · rcases isDirectory_iff.1 hparent with hnil | ⟨e, he, -⟩
      · exact List.cons_ne_nil _ _ (List.append_eq_nil_iff.1 hnil).2
      · rw [ih (List.cons_ne_nil _ _)] at he
        cases he

theorem lookup_append_of_none (hne : p ≠ []) (hnone : fs.lookup p = none) (rest : FilePath) :
    fs.lookup (p ++ rest) = none := by
  rcases rest with _ | ⟨x, rest⟩
  · rwa [List.append_nil]
  · refine lookup_below ?_ _ (List.cons_ne_nil _ _)
    rw [← Bool.not_eq_true, isDirectory_iff]
    rintro (hnil | ⟨e, he, -⟩)
    · exact hne hnil
    · rw [hnone] at he
      cases he

/-! ## Operations -/

/-- A name cannot be made in what is no directory. -/
def parentError (fs : FileSystem) (p : FilePath) : IoError :=
  if (fs.lookup p.dropLast).isSome then .notADirectory else .noEntry

theorem closed_insert (hparent : fs.isDirectory p.dropLast = true) (hfree : fs.lookup p = none)
    (dir : FilePath) (name : String)
    (h : (fs.entries.insert p e).lookup (dir ++ [name]) ≠ none) :
    dir = [] ∨ ∃ e', (fs.entries.insert p e).lookup dir = some e' ∧ e'.isDir = true := by
  have hold : fs.isDirectory dir = true ∧ (dir = p → p = []) := by
    by_cases hp : dir ++ [name] = p
    · subst hp
      rw [List.dropLast_concat] at hparent
      exact ⟨hparent, fun heq => absurd (congrArg List.length heq) (by simp)⟩
    · rw [AList.lookup_insert_ne hp] at h
      have hdir : fs.isDirectory dir = true := isDirectory_of_child h
      refine ⟨hdir, ?_⟩
      rintro rfl
      by_contra hne
      have hnone : fs.lookup (dir ++ [name]) = none := lookup_append_of_none hne hfree [name]
      exact h hnone
  rcases isDirectory_iff.1 hold.1 with hnil | ⟨e', he', hisDir⟩
  · exact Or.inl hnil
  · by_cases hp : dir = p
    · exact Or.inl (hp.trans (hold.2 hp))
    · exact Or.inr ⟨e', by rwa [AList.lookup_insert_ne hp], hisDir⟩

/-- Make an entry. -/
def create (fs : FileSystem) (p : FilePath) (e : FileEntry) : Except IoError FileSystem :=
  if hparent : fs.isDirectory p.dropLast = true then
    if hfree : fs.lookup p = none then
      .ok ⟨fs.entries.insert p e, closed_insert hparent hfree⟩
    else .error .fileExists
  else .error (fs.parentError p)

def mkdir (fs : FileSystem) (p : FilePath) (identity : FileIdentity) : Except IoError FileSystem :=
  fs.create p ⟨identity, true⟩

def empty : FileSystem where
  entries := ∅
  closed _ _ h := absurd (AList.lookup_empty _) h

/-- The entries, made in their order. -/
def ofEntries (l : List (FilePath × FileEntry)) : FileSystem :=
  l.foldl (fun fs x => (fs.create x.1 x.2).toOption.getD fs) empty

theorem mkdir_ok {identity : FileIdentity} (h : fs.mkdir p identity = .ok fs') :
    fs.lookup p = none ∧ fs.isDirectory p.dropLast = true ∧
      ∀ q, fs'.lookup q = if q = p then some ⟨identity, true⟩ else fs.lookup q := by
  unfold mkdir create at h
  split at h
  · rename_i hparent
    split at h
    · rename_i hfree
      cases h
      refine ⟨hfree, hparent, fun q => ?_⟩
      split
      · rename_i hq
        subst hq
        exact AList.lookup_insert _
      · rename_i hq
        exact AList.lookup_insert_ne hq
    · cases h
  · cases h

theorem closed_erase (hempty : fs.children p = []) (dir : FilePath) (name : String)
    (h : (fs.entries.erase p).lookup (dir ++ [name]) ≠ none) :
    dir = [] ∨ ∃ e, (fs.entries.erase p).lookup dir = some e ∧ e.isDir = true := by
  by_cases hp : dir ++ [name] = p
  · rw [hp, AList.lookup_erase] at h
    exact absurd rfl h
  · rw [AList.lookup_erase_ne hp] at h
    rcases fs.closed dir name h with hnil | ⟨e, he, hisDir⟩
    · exact Or.inl hnil
    · refine Or.inr ⟨e, ?_, hisDir⟩
      rwa [AList.lookup_erase_ne]
      rintro rfl
      exact List.not_mem_nil (hempty ▸ mem_children.2 ⟨name, rfl, h⟩)

/-- Remove a directory that is empty. -/
def rmdir (fs : FileSystem) (p : FilePath) : Except IoError FileSystem :=
  match fs.lookup p with
  | none => .error .noEntry
  | some e =>
    if e.isDir then
      if hempty : fs.children p = [] then .ok ⟨fs.entries.erase p, closed_erase hempty⟩
      else .error .notEmpty
    else .error .notADirectory

theorem rmdir_ok (h : fs.rmdir p = .ok fs') :
    (∃ e, fs.lookup p = some e ∧ e.isDir = true) ∧ (∀ name, fs.lookup (p ++ [name]) = none) ∧
      ∀ q, fs'.lookup q = if q = p then none else fs.lookup q := by
  unfold rmdir at h
  split at h
  · cases h
  · rename_i e he
    split at h
    · rename_i hisDir
      split at h
      · rename_i hempty
        cases h
        refine ⟨⟨e, he, hisDir⟩, fun name => ?_, fun q => ?_⟩
        · by_contra hsome
          exact List.not_mem_nil (hempty ▸ mem_children.2 ⟨name, rfl, hsome⟩)
        · split
          · rename_i hq
            subst hq
            exact AList.lookup_erase q fs.entries
          · rename_i hq
            exact AList.lookup_erase_ne hq
      · cases h
    · cases h

theorem lookup_swapped (hab : Apart a b) (p : FilePath) :
    (fs.entries.mapKeys (swapped a b) (swapped_injective hab)).lookup p =
      fs.lookup (swapped a b p) := by
  conv_lhs => rw [← swapped_swapped hab p]
  exact Assoc.lookup_mapKeys _ _ _ _

theorem closed_swapped (hab : Apart a b) (hparent : fs.isDirectory b.dropLast = true)
    (hfree : fs.lookup b = none) (dir : FilePath) (name : String)
    (h : (fs.entries.mapKeys (swapped a b) (swapped_injective hab)).lookup (dir ++ [name]) ≠ none) :
    dir = [] ∨ ∃ e, (fs.entries.mapKeys (swapped a b) (swapped_injective hab)).lookup dir = some e ∧
      e.isDir = true := by
  have hb : b ≠ [] := by
    rintro rfl
    exact hab.2 List.nil_prefix
  rw [lookup_swapped hab] at h
  rw [lookup_swapped hab]
  rcases swapped_cases a b (dir ++ [name]) with ⟨rest, hrest⟩ | ⟨rest, hrest⟩ | ⟨hna, hnb⟩
  · rw [hrest, swapped_left] at h
    exact absurd (lookup_append_of_none hb hfree rest) h
  · rcases List.eq_nil_or_concat rest with rfl | ⟨rest, x, rfl⟩
    · -- The new name is in the directory of the target, which is not moved.
      have hdir : b.dropLast = dir := by
        rw [← List.append_nil b, ← hrest, List.dropLast_concat]
      rw [hdir] at hparent
      have hnot : ¬ a <+: dir ∧ ¬ b <+: dir := by
        refine ⟨fun habove => hab.1 (habove.trans ?_), fun habove => ?_⟩
        · rw [← List.append_nil b, ← hrest]
          exact List.prefix_append dir [name]
        · have hlength := habove.length_le
          have hsum := congrArg List.length hrest
          simp only [List.length_append, List.length_singleton, List.length_nil] at hsum
          omega
      rw [swapped_other hnot.1 hnot.2]
      exact isDirectory_iff.1 hparent
    · rw [List.concat_eq_append, ← List.append_assoc] at hrest
      obtain ⟨rfl, hname⟩ := List.append_inj' hrest rfl
      rw [List.append_assoc, hname, swapped_right hab, ← List.append_assoc] at h
      rw [swapped_right hab]
      rcases fs.closed _ _ h with hnil | hdir
      · exact absurd (List.append_eq_nil_iff.1 hnil).1
          (fun ha => hab.1 (ha ▸ List.nil_prefix))
      · exact Or.inr hdir
  · rw [swapped_other hna hnb] at h
    have hnot : ¬ a <+: dir ∧ ¬ b <+: dir :=
      ⟨fun habove => hna (habove.trans (List.prefix_append dir [name])),
        fun habove => hnb (habove.trans (List.prefix_append dir [name]))⟩
    rw [swapped_other hnot.1 hnot.2]
    exact fs.closed dir name h

instance (a b : FilePath) : Decidable (Apart a b) :=
  inferInstanceAs (Decidable (¬ a <+: b ∧ ¬ b <+: a))

/-- Rename an entry, with what is under it, to a name that is free. -/
def rename (fs : FileSystem) (a b : FilePath) : Except IoError FileSystem :=
  if (fs.lookup a).isNone then .error .noEntry
  else if hparent : fs.isDirectory b.dropLast = true then
    if hfree : fs.lookup b = none then
      if hab : Apart a b then
        .ok ⟨fs.entries.mapKeys (swapped a b) (swapped_injective hab),
          closed_swapped hab hparent hfree⟩
      else .error .invalidArgument
    else .error .fileExists
  else .error (fs.parentError b)

theorem rename_ok (h : fs.rename a b = .ok fs') :
    fs.lookup a ≠ none ∧ fs.lookup b = none ∧ Apart a b ∧
      ∀ q, fs'.lookup q = fs.lookup (swapped a b q) := by
  unfold rename at h
  split at h
  · cases h
  · rename_i hsome
    split at h
    · split at h
      · rename_i hfree
        split at h
        · rename_i hab
          cases h
          exact ⟨by simpa [Option.isNone_iff_eq_none] using hsome, hfree, hab,
            lookup_swapped hab⟩
        · cases h
      · cases h
    · cases h

theorem rename_eq_ok (hsome : fs.lookup a ≠ none) (hparent : fs.isDirectory b.dropLast = true)
    (hfree : fs.lookup b = none) (hab : Apart a b) : ∃ fs', fs.rename a b = .ok fs' := by
  rw [rename, if_neg (by simpa [Option.isNone_iff_eq_none] using hsome), dif_pos hparent,
    dif_pos hfree, dif_pos hab]
  exact ⟨_, rfl⟩

end FileSystem
