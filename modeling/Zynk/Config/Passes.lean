import Zynk.Config.Registered

/-!
# Both passes

What is returned of navigate mode apart, the bindings of all fields together, are the candidates
that come first (`Accepted`). A field is read in the pass of its source, before anything is
appended to it, so that nothing that is kept is lost and the pass for the defaults only adds
(`pass_accepted`, `validation_accepted`).
-/

namespace Zynk.Config

open Text

/-! ## What is returned -/

namespace Keybinds

/-- The bindings of a field. Those of navigate mode are for another mode. -/
def boundOf (keybinds : Keybinds) : KeyField → List BoundKey
  | .navigate _ => []
  | .action field => (keybinds.action field).bindings.map .action
  | .indexed field => (keybinds.indexed field).map .indexed

/-- The bindings of all fields and of the custom commands. -/
def bound (keybinds : Keybinds) : List BoundKey :=
  keyFields.flatMap keybinds.boundOf ++
    keybinds.customCommands.flatMap fun command => command.bindings.bindings.map .action

end Keybinds

theorem mem_keyFields (field : KeyField) : field ∈ keyFields := by
  rcases field with field | field | field <;> cases field <;> decide

theorem keyFields_nodup : keyFields.Nodup := by
  decide

/-! ## Between two steps -/

/-- What has been seen of the candidates is returned as far as it comes first, and its triggers are
taken. -/
structure Accepted (prefixCombo : KeyCombo) (seen : List BoundKey) (v : Validation) :
    Prop where
  holds : v.registry.Holds prefixCombo
    (takenBy (allowed prefixCombo) {.direct (normalizeKeyCombo prefixCombo)} seen)
  bound : v.keybinds.bound.Perm
    (keptOf (allowed prefixCombo) {.direct (normalizeKeyCombo prefixCombo)} seen)

variable {prefixCombo : KeyCombo} {seen : List BoundKey} {v : Validation}

theorem Accepted.read {β : Type} {bindingsOf : β → List BoundKey} {candidates : List BoundKey}
    (h : Accepted prefixCombo seen v)
    (read : Registration → Registration × List β) (store : Keybinds → List β → Keybinds)
    (hread : ∀ (r : Registration) (taken : Finset BindingTrigger),
      r.registry.Holds prefixCombo taken →
      Reads bindingsOf prefixCombo (allowed prefixCombo) taken candidates (read r))
    (hstore : ∀ kept, (store v.keybinds kept).bound.Perm
      (v.keybinds.bound ++ kept.flatMap bindingsOf)) :
    Accepted prefixCombo (seen ++ candidates) (v.withRegistry read store) := by
  have hreads := hread { registry := v.registry, diagnostics := v.diagnostics } _ h.holds
  refine ⟨?_, ?_⟩
  · rw [takenBy, servedKeys_append]
    exact hreads.holds
  · rw [keptOf, firstCome_append]
    refine (hstore _).trans ?_
    rw [hreads.kept]
    exact h.bound.append_right _

/-- One field gains bindings. -/
theorem bound_perm_of_field {keybinds keybinds' : Keybinds} (field : KeyField)
    {new : List BoundKey} (hnew : keybinds'.boundOf field = keybinds.boundOf field ++ new)
    (hrest : ∀ other ≠ field, keybinds'.boundOf other = keybinds.boundOf other)
    (hcommands : keybinds'.customCommands = keybinds.customCommands) :
    keybinds'.bound.Perm (keybinds.bound ++ new) := by
  have hfields := List.flatMap_perm_append keyFields_nodup (mem_keyFields field) hnew hrest
  rw [Keybinds.bound, Keybinds.bound, hcommands]
  refine (hfields.append_right _).trans ?_
  rw [List.append_assoc, List.append_assoc]
  exact List.perm_append_comm.append_left _

/-- The candidates are read, and the fields that are touched have more bindings, or as many. -/
structure GrowsTo (prefixCombo : KeyCombo) (seen candidates : List BoundKey)
    (touched : Set KeyField) (v v' : Validation) : Prop where
  accepted : Accepted prefixCombo seen v → Accepted prefixCombo (seen ++ candidates) v'
  added : ∀ field, ∃ added, v'.keybinds.boundOf field = v.keybinds.boundOf field ++ added
  rest : ∀ field ∉ touched, v'.keybinds.boundOf field = v.keybinds.boundOf field

namespace GrowsTo

variable {v' v'' : Validation} {candidates candidates' : List BoundKey}
  {touched touched' : Set KeyField}

theorem refl (touched : Set KeyField) (v : Validation) :
    GrowsTo prefixCombo seen [] touched v v where
  accepted h := by rwa [List.append_nil]
  added _ := ⟨[], (List.append_nil _).symm⟩
  rest _ _ := rfl

theorem trans (h : GrowsTo prefixCombo seen candidates touched v v')
    (h' : GrowsTo prefixCombo (seen ++ candidates) candidates' touched' v' v'') :
    GrowsTo prefixCombo seen (candidates ++ candidates') (touched ∪ touched') v v'' where
  accepted hseen := by
    rw [← List.append_assoc]
    exact h'.accepted (h.accepted hseen)
  added field := by
    obtain ⟨first, hfirst⟩ := h.added field
    obtain ⟨second, hsecond⟩ := h'.added field
    exact ⟨first ++ second, by rw [hsecond, hfirst, List.append_assoc]⟩
  rest field hfield := by
    rw [Set.mem_union, not_or] at hfield
    rw [h'.rest field hfield.2, h.rest field hfield.1]

theorem mono (h : GrowsTo prefixCombo seen candidates touched v v') (hsub : touched ⊆ touched') :
    GrowsTo prefixCombo seen candidates touched' v v' :=
  ⟨h.accepted, h.added, fun field hfield => h.rest field fun hmem => hfield (hsub hmem)⟩

/-- One field is touched. -/
theorem of_field {field : KeyField} {added : List BoundKey}
    (accepted : Accepted prefixCombo seen v → Accepted prefixCombo (seen ++ candidates) v')
    (own : v'.keybinds.boundOf field = v.keybinds.boundOf field ++ added)
    (rest : ∀ other ≠ field, v'.keybinds.boundOf other = v.keybinds.boundOf other) :
    GrowsTo prefixCombo seen candidates {field} v v' where
  accepted := accepted
  added other := by
    by_cases hother : other = field
    · exact ⟨added, hother ▸ own⟩
    · exact ⟨[], by rw [rest other hother, List.append_nil]⟩
  rest := rest

end GrowsTo

section

variable (keys : KeysConfig) (source : BindingSource)

theorem applyNavigate_grows (field : NavigateField) :
    GrowsTo prefixCombo seen [] ∅ v (v.applyNavigate keys source field) := by
  have hbound : ∀ other, (v.applyNavigate keys source field).keybinds.boundOf other =
      v.keybinds.boundOf other := by
    unfold Validation.applyNavigate
    split_ifs
    · exact fun other => by cases other <;> rfl
    · exact fun _ => rfl
  refine ⟨fun h => ?_, fun other => ⟨[], by rw [hbound, List.append_nil]⟩,
    fun other _ => hbound other⟩
  rw [List.append_nil]
  unfold Validation.applyNavigate
  split_ifs
  · exact ⟨h.holds, h.bound⟩
  · exact h

variable {keybinds : Keybinds}

theorem boundOf_updateAction (field : ActionField) (new : ActionKeybinds) (other : KeyField)
    (hother : other ≠ .action field) :
    ({ keybinds with action := Function.update keybinds.action field new } : Keybinds).boundOf
      other = keybinds.boundOf other := by
  rcases other with other | other | other
  · rfl
  · have hne : other ≠ field := fun heq => hother (heq ▸ rfl)
    simp only [Keybinds.boundOf, Function.update_of_ne hne]
  · rfl

theorem boundOf_updateIndexed (field : IndexedField) (new : List IndexedKeybind) (other : KeyField)
    (hother : other ≠ .indexed field) :
    ({ keybinds with indexed := Function.update keybinds.indexed field new } : Keybinds).boundOf
      other = keybinds.boundOf other := by
  rcases other with other | other | other
  · rfl
  · rfl
  · have hne : other ≠ field := fun heq => hother (heq ▸ rfl)
    simp only [Keybinds.boundOf, Function.update_of_ne hne]

theorem boundOf_action_self (field : ActionField) (new : ActionKeybinds) :
    ({ keybinds with action := Function.update keybinds.action field new } : Keybinds).boundOf
      (.action field) = new.bindings.map .action := by
  simp only [Keybinds.boundOf, Function.update_self]

theorem boundOf_indexed_self (field : IndexedField) (new : List IndexedKeybind) :
    ({ keybinds with indexed := Function.update keybinds.indexed field new } : Keybinds).boundOf
      (.indexed field) = new.map .indexed := by
  simp only [Keybinds.boundOf, Function.update_self]

/-- The fields among `fields` that are read in the pass. -/
def readIn (fields : List KeyField) : Set KeyField :=
  {field | field ∈ fields ∧ keys.Eligible source field}

theorem applyAction_grows {field : ActionField}
    (hempty : keys.Eligible source (.action field) → v.keybinds.boundOf (.action field) = []) :
    GrowsTo prefixCombo seen
      (if keys.Eligible source (.action field) then keys.fieldCandidates (.action field) else [])
      (readIn keys source [.action field]) v (v.applyAction keys source field) := by
  unfold Validation.applyAction
  by_cases heligible : keys.Eligible source (.action field)
  · rw [if_pos (show keys.fieldSource field.name = source from heligible), if_pos heligible]
    have hown : ∀ new : ActionKeybinds, ({ v.keybinds with
        action := Function.update v.keybinds.action field new } : Keybinds).boundOf
          (.action field) = v.keybinds.boundOf (.action field) ++ new.bindings.map .action :=
      fun new => by rw [hempty heligible, boundOf_action_self, List.nil_append]
    refine GrowsTo.mono (.of_field (fun h => ?_) (hown _) (boundOf_updateAction field _))
      (Set.singleton_subset_iff.2 ⟨List.mem_singleton_self _, heligible⟩)
    refine h.read (fun r =>
      ((parseActionBindings ("keys." ++ field.name) (keys.action field) r source).1,
        (parseActionBindings ("keys." ++ field.name) (keys.action field) r source).2.bindings))
      (fun k bindings => { k with action := Function.update k.action field { bindings } })
      (fun r taken h => parseActionBindings_reads _ _ source h) fun bindings => ?_
    rw [← List.map_eq_flatMap]
    exact bound_perm_of_field (.action field) (hown _) (boundOf_updateAction field _) rfl
  · rw [if_neg (show ¬ keys.fieldSource field.name = source from heligible), if_neg heligible]
    exact .refl _ v

theorem applyIndexed_grows {field : IndexedField}
    (hempty : keys.Eligible source (.indexed field) → v.keybinds.boundOf (.indexed field) = []) :
    GrowsTo prefixCombo seen
      (if keys.Eligible source (.indexed field) then keys.fieldCandidates (.indexed field) else [])
      (readIn keys source [.indexed field]) v (v.applyIndexed keys source field) := by
  by_cases heligible : keys.Eligible source (.indexed field)
  · rw [Validation.applyIndexed, if_pos heligible.1, if_neg heligible.2, if_pos heligible]
    have hown : ∀ new : List IndexedKeybind, ({ v.keybinds with
        indexed := Function.update v.keybinds.indexed field new } : Keybinds).boundOf
          (.indexed field) = v.keybinds.boundOf (.indexed field) ++ new.map .indexed :=
      fun new => by rw [hempty heligible, boundOf_indexed_self, List.nil_append]
    refine GrowsTo.mono (.of_field (fun h => ?_) (hown _) (boundOf_updateIndexed field _))
      (Set.singleton_subset_iff.2 ⟨List.mem_singleton_self _, heligible⟩)
    refine h.read _ _ (fun r taken h => parseIndexedBindings_reads _ _ source h)
      fun bindings => ?_
    rw [← List.map_eq_flatMap]
    exact bound_perm_of_field (.indexed field) (hown _) (boundOf_updateIndexed field _) rfl
  · have hsame : v.applyIndexed keys source field = v := by
      unfold Validation.applyIndexed
      split_ifs with hsource hlegacy
      · rfl
      · exact absurd ⟨hsource, hlegacy⟩ heligible
      · rfl
    rw [hsame, if_neg heligible]
    exact .refl _ v

theorem applyField_grows {field : KeyField}
    (hempty : keys.Eligible source field → v.keybinds.boundOf field = []) :
    GrowsTo prefixCombo seen
      (if keys.Eligible source field then keys.fieldCandidates field else [])
      (readIn keys source [field]) v (Validation.applyField keys source v field) := by
  rcases field with field | field | field
  · have hnone : (if keys.Eligible source (.navigate field) then
        keys.fieldCandidates (.navigate field) else []) = [] := ite_self _
    rw [hnone]
    exact (applyNavigate_grows keys source field).mono (Set.empty_subset _)
  · exact applyAction_grows keys source hempty
  · exact applyIndexed_grows keys source hempty

/-- All fields of the pass. -/
theorem applyFields_grows {fields : List KeyField} (hnodup : fields.Nodup)
    (hempty : ∀ field ∈ fields, keys.Eligible source field → v.keybinds.boundOf field = []) :
    GrowsTo prefixCombo seen
      ((fields.filter (keys.Eligible source ·)).flatMap keys.fieldCandidates)
      (readIn keys source fields) v (fields.foldl (Validation.applyField keys source) v) := by
  induction fields generalizing v seen with
  | nil => exact .refl _ v
  | cons field fields ih =>
    rw [List.nodup_cons] at hnodup
    have hfirst : GrowsTo prefixCombo seen _ _ v (Validation.applyField keys source v field) :=
      applyField_grows keys source (hempty field List.mem_cons_self)
    have hrest := @ih
      (seen ++ if keys.Eligible source field then keys.fieldCandidates field else [])
      (Validation.applyField keys source v field) hnodup.2 fun other hother heligible => by
        rw [hfirst.rest other fun hmem => hnodup.1 (List.mem_singleton.1 hmem.1 ▸ hother)]
        exact hempty other (List.mem_cons_of_mem field hother) heligible
    have hboth := hfirst.trans hrest
    have hcandidates : ((field :: fields).filter (keys.Eligible source ·)).flatMap
        keys.fieldCandidates =
          (if keys.Eligible source field then keys.fieldCandidates field else []) ++
            (fields.filter (keys.Eligible source ·)).flatMap keys.fieldCandidates := by
      by_cases heligible : keys.Eligible source field <;> simp [heligible]
    rw [hcandidates, List.foldl_cons]
    refine hboth.mono fun other hother => ?_
    rcases hother with ⟨hother, heligible⟩ | ⟨hother, heligible⟩
    · exact ⟨List.mem_singleton.1 hother ▸ List.mem_cons_self, heligible⟩
    · exact ⟨List.mem_cons_of_mem _ hother, heligible⟩

theorem boundOf_indexed_append (field : IndexedField) (new : List IndexedKeybind) : ({ keybinds with
      indexed := Function.update keybinds.indexed field (keybinds.indexed field ++ new) } :
        Keybinds).boundOf (.indexed field) =
      keybinds.boundOf (.indexed field) ++ new.map .indexed := by
  rw [boundOf_indexed_self, List.map_append]
  rfl

/-- The fields among `fields` with an entry in the legacy section. -/
def legacyIn (fields : List IndexedField) : Set KeyField :=
  {field | ∃ f ∈ fields, field = .indexed f ∧ ¬ (trim (keys.legacyIndexed f).toList).isEmpty}

theorem legacyIndexedBindings_of_blank {label : String} (h : (trim label.toList).isEmpty)
    (field : String) (r : Registration) (source : BindingSource) :
    legacyIndexedBindings field label r source = (r, []) :=
  if_pos h

theorem appendLegacy_grows (field : IndexedField) :
    GrowsTo prefixCombo seen (legacyCandidates (keys.legacyIndexed field))
      (legacyIn keys [field]) v (v.appendLegacyIndexedBindings keys source field) := by
  have hgrows : GrowsTo prefixCombo seen (legacyCandidates (keys.legacyIndexed field))
      {.indexed field} v (v.appendLegacyIndexedBindings keys source field) := by
    refine .of_field (fun h => ?_) (boundOf_indexed_append field _) (boundOf_updateIndexed field _)
    refine h.read _ _ (fun r taken h => legacyIndexedBindings_reads _ _ source h)
      fun bindings => ?_
    rw [← List.map_eq_flatMap]
    exact bound_perm_of_field (.indexed field) (boundOf_indexed_append field bindings)
      (boundOf_updateIndexed field _) rfl
  refine ⟨hgrows.accepted, hgrows.added, fun other hother => ?_⟩
  by_cases heq : other = .indexed field
  · subst heq
    have hblank : (trim (keys.legacyIndexed field).toList).isEmpty := by
      by_contra hnot
      exact hother ⟨field, List.mem_singleton_self field, rfl, hnot⟩
    simp only [Validation.appendLegacyIndexedBindings, Validation.withRegistry,
      legacyIndexedBindings_of_blank hblank]
    exact (boundOf_indexed_append field []).trans (List.append_nil _)
  · exact hgrows.rest other heq

theorem appendLegacies_grows (fields : List IndexedField) :
    GrowsTo prefixCombo seen
      (fields.flatMap fun field => legacyCandidates (keys.legacyIndexed field))
      (legacyIn keys fields) v
      (fields.foldl (Validation.appendLegacyIndexedBindings keys source) v) := by
  induction fields generalizing v seen with
  | nil => exact .refl _ v
  | cons field fields ih =>
    refine ((appendLegacy_grows keys source field).trans ih).mono fun other hother => ?_
    rcases hother with ⟨f, hf, hother⟩ | ⟨f, hf, hother⟩
    · exact ⟨f, List.mem_singleton.1 hf ▸ List.mem_cons_self, hother⟩
    · exact ⟨f, List.mem_cons_of_mem _ hf, hother⟩

theorem boundOf_withCommands (keybinds : Keybinds) (commands : List CustomCommandKeybind)
    (field : KeyField) :
    ({ keybinds with customCommands := commands } : Keybinds).boundOf field =
      keybinds.boundOf field := by
  cases field <;> rfl

theorem appendCommands_grows :
    GrowsTo prefixCombo seen (keys.command.flatMap commandCandidates) ∅ v
      (v.appendCustomCommandBindings keys) := by
  refine ⟨fun h => ?_, fun field => ⟨[], ?_⟩, fun field _ => boundOf_withCommands ..⟩
  · have hcandidates : keys.command.flatMap commandCandidates =
        keys.command.zipIdx.flatMap fun entry => commandCandidates entry.1 := by
      conv_lhs => rw [← List.zipIdx_map_fst 0 keys.command, List.flatMap_map]
    rw [hcandidates]
    refine h.read _ _ (fun r taken h => readAll_reads (fun _ _ entry h =>
      customCommandBinding_reads h entry) keys.command.zipIdx h) fun commands => ?_
    simp only [Keybinds.bound, List.flatMap_append, List.append_assoc]
    exact List.Perm.refl _
  · rw [List.append_nil]
    exact boundOf_withCommands ..

/-- A pass reads the candidates of its source. -/
theorem pass_grows
    (hempty : ∀ field, keys.Eligible source field → v.keybinds.boundOf field = []) :
    GrowsTo prefixCombo seen (keys.candidates source)
      (readIn keys source keyFields ∪
        {field | source = keys.fieldSource "indexed" ∧ field ∈ legacyIn keys legacyFields})
      v (v.pass keys source) := by
  have hfields := @applyFields_grows prefixCombo seen v keys source keyFields keyFields_nodup
    fun field _ heligible => hempty field heligible
  unfold Validation.pass KeysConfig.candidates
  dsimp only
  generalize keyFields.foldl (Validation.applyField keys source) v = v₁ at hfields ⊢
  have hlegacy : ∀ seen, GrowsTo prefixCombo seen
      (if source = keys.fieldSource "indexed" then
        legacyFields.flatMap fun field => legacyCandidates (keys.legacyIndexed field) else [])
      {field | source = keys.fieldSource "indexed" ∧ field ∈ legacyIn keys legacyFields} v₁
      (if source = keys.fieldSource "indexed" then
        legacyFields.foldl (Validation.appendLegacyIndexedBindings keys source) v₁ else v₁) := by
    intro seen
    split_ifs with hsource
    · exact (appendLegacies_grows keys source legacyFields).mono fun field hfield =>
        ⟨hsource, hfield⟩
    · exact .refl _ v₁
  have hboth := hfields.trans (hlegacy _)
  generalize (if source = keys.fieldSource "indexed" then
    legacyFields.foldl (Validation.appendLegacyIndexedBindings keys source) v₁ else v₁) = v₂
    at hboth ⊢
  have hcommands : ∀ seen, GrowsTo prefixCombo seen
      (if source = .user then keys.command.flatMap commandCandidates else []) ∅ v₂
      (if source = .user then v₂.appendCustomCommandBindings keys else v₂) := by
    intro seen
    split_ifs
    · exact appendCommands_grows keys
    · exact .refl _ v₂
  exact (hboth.trans (hcommands _)).mono fun field hfield => hfield.elim id False.elim

end

/-! ## Both passes -/

variable (keys : KeysConfig)

theorem initialValidation_accepted :
    Accepted keys.prefixCombo [] keys.initialValidation := by
  refine ⟨⟨rfl, fun binding => ?_⟩, ?_⟩
  · have hdirect : keys.initialValidation.registry.direct =
        AList.insert (normalizeKeyCombo keys.prefixCombo)
          ⟨"keys.prefix", keys.fieldSource "prefix"⟩ ∅ := rfl
    have hprefixed : keys.initialValidation.registry.prefixed = ∅ := rfl
    rw [takenBy, servedKeys_nil, Finset.mem_singleton]
    rcases htrigger : binding.trigger with combo | combo <;>
      simp only [BindingRegistry.conflict, htrigger, hdirect, hprefixed,
        BindingTrigger.normalized, AList.lookup_isSome]
    · rw [AList.mem_insert, or_iff_left (AList.notMem_empty _), BindingTrigger.direct.injEq]
    · exact iff_of_false (AList.notMem_empty _) (by simp)
  · exact List.Perm.refl []

/-- After the pass for the user. -/
theorem userValidation_accepted :
    Accepted keys.prefixCombo (keys.candidates .user) keys.userValidation :=
  (pass_grows keys .user fun field _ => by cases field <;> rfl).accepted
    (initialValidation_accepted keys)

/-- What the pass for the defaults reads has nothing before it. -/
theorem boundOf_userValidation {field : KeyField} (h : keys.Eligible .default field) :
    keys.userValidation.keybinds.boundOf field = [] := by
  have hgrows := @pass_grows keys.prefixCombo [] keys.initialValidation keys .user
    fun field _ => by cases field <;> rfl
  refine (hgrows.rest field ?_).trans (by cases field <;> rfl)
  have hsource : ∀ {name : String}, keys.fieldSource name = .default →
      keys.fieldSource name ≠ .user := fun h => by rw [h]; decide
  rintro (⟨-, huser⟩ | ⟨-, f, -, rfl, hlegacy⟩)
  · rcases field with field | field | field
    · exact hsource h huser
    · exact hsource h huser
    · exact hsource h.1 huser.1
  · exact h.2 ⟨rfl, hlegacy⟩

theorem validation_grows : GrowsTo keys.prefixCombo (keys.candidates .user)
    (keys.candidates .default) Set.univ keys.userValidation keys.validation :=
  (pass_grows keys .default fun _ h => boundOf_userValidation keys h).mono (Set.subset_univ _)

/-- The pass for the defaults reads no custom commands. -/
theorem customCommands_validation :
    keys.keybinds.customCommands = keys.userValidation.keybinds.customCommands := by
  have hfield : ∀ (v : Validation) (field : KeyField),
      (Validation.applyField keys .default v field).keybinds.customCommands =
        v.keybinds.customCommands := by
    intro v field
    rcases field with field | field | field
    · simp only [Validation.applyField, Validation.applyNavigate]
      split_ifs <;> rfl
    · simp only [Validation.applyField, Validation.applyAction]
      split_ifs <;> rfl
    · simp only [Validation.applyField, Validation.applyIndexed]
      split_ifs <;> rfl
  have hfields : ∀ v : Validation,
      (keyFields.foldl (Validation.applyField keys .default) v).keybinds.customCommands =
        v.keybinds.customCommands := fun v =>
    @List.foldlRecOn _ _ (fun v' : Validation =>
      v'.keybinds.customCommands = v.keybinds.customCommands) _ _ _ rfl
        fun v' h field _ => (hfield v' field).trans h
  have hlegacy : ∀ v : Validation, (legacyFields.foldl
      (Validation.appendLegacyIndexedBindings keys .default) v).keybinds.customCommands =
        v.keybinds.customCommands := fun v =>
    @List.foldlRecOn _ _ (fun v' : Validation =>
      v'.keybinds.customCommands = v.keybinds.customCommands) _ _ _ rfl fun _ h _ _ => h
  have hpass : ∀ v : Validation,
      (v.pass keys .default).keybinds.customCommands = v.keybinds.customCommands := by
    intro v
    unfold Validation.pass
    dsimp only
    rw [if_neg (by decide)]
    split_ifs
    · exact (hlegacy _).trans (hfields v)
    · exact hfields v
  exact hpass keys.userValidation

theorem validation_accepted : Accepted keys.prefixCombo
    (keys.candidates .user ++ keys.candidates .default) keys.validation :=
  (validation_grows keys).accepted (userValidation_accepted keys)

end Zynk.Config
