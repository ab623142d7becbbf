import Zynk.Config.Passes

/-!
# Navigate mode

The bindings of navigate mode have a registry of their own, with the prefix key and the keys of
the mode in it from the start. Of the candidates of each pass it keeps those that come first too
(`pass_navigates`), so that none is the prefix key and a default gives way to the user
(`KeysConfig.of_mem_navigateBound`, `KeysConfig.navigate_precedence`).
-/

namespace Zynk.Config

open Text

/-- The bindings of a navigate field. -/
def Keybinds.navigateBound (keybinds : Keybinds) (field : NavigateField) : List BoundKey :=
  (keybinds.navigate field).bindings.map .action

namespace KeysConfig

/-- What a field resolves to for navigate mode, in the pass of its source. -/
def navigateFieldCandidates (keys : KeysConfig) (source : BindingSource) :
    KeyField → List BoundKey
  | .navigate field =>
    if keys.fieldSource field.name = source then
      (keys.navigate field).values.flatMap actionCandidates
    else []
  | .action _ => []
  | .indexed _ => []

def navigateCandidates (keys : KeysConfig) (source : BindingSource) : List BoundKey :=
  keyFields.flatMap (keys.navigateFieldCandidates source)

end KeysConfig

/-! ## One pass -/

section

variable {prefixCombo : KeyCombo} {taken : Finset BindingTrigger} {v : Validation}
  (keys : KeysConfig) (source : BindingSource)

/-- The fields are read for navigate mode : their candidates that come first are kept, and the
other fields stay as they are. -/
structure NavigatesTo (prefixCombo : KeyCombo) (taken : Finset BindingTrigger)
    (fields : List KeyField) (v v' : Validation) : Prop where
  holds : v'.navigateRegistry.Holds prefixCombo
    (takenBy navigateAllowed taken (fields.flatMap (keys.navigateFieldCandidates source)))
  own : ∀ field, .navigate field ∈ fields → keys.fieldSource field.name = source →
    v'.keybinds.navigateBound field ⊆
      keptOf navigateAllowed taken (fields.flatMap (keys.navigateFieldCandidates source))
  rest : ∀ field, ¬ (.navigate field ∈ fields ∧ keys.fieldSource field.name = source) →
    v'.keybinds.navigateBound field = v.keybinds.navigateBound field

variable {keys source}

theorem NavigatesTo.of_same {field : KeyField} {v' : Validation}
    (h : v.navigateRegistry.Holds prefixCombo taken)
    (hfield : ∀ own, field = .navigate own → keys.fieldSource own.name ≠ source)
    (hregistry : v'.navigateRegistry = v.navigateRegistry)
    (hnavigate : v'.keybinds.navigate = v.keybinds.navigate) :
    NavigatesTo keys source prefixCombo taken [field] v v' := by
  have hnone : keys.navigateFieldCandidates source field = [] := by
    rcases field with own | own | own
    · exact if_neg (hfield own rfl)
    · rfl
    · rfl
  refine ⟨?_, fun own hown hsource => ?_, fun own _ => ?_⟩
  · rw [List.flatMap_singleton, hnone, takenBy, servedKeys_nil, hregistry]
    exact h
  · exact absurd hsource (hfield own (List.mem_singleton.1 hown).symm)
  · rw [Keybinds.navigateBound, hnavigate]
    rfl

theorem applyNavigate_navigates (field : NavigateField)
    (h : v.navigateRegistry.Holds prefixCombo taken) :
    NavigatesTo keys source prefixCombo taken [.navigate field] v
      (v.applyNavigate keys source field) := by
  unfold Validation.applyNavigate
  split_ifs with hsource
  · have hreads := @parseNavigateBindings_reads prefixCombo taken ("keys." ++ field.name)
      (keys.navigate field) source
      { registry := v.navigateRegistry, diagnostics := v.diagnostics } h
    have hkept := hreads.kept
    rw [← List.map_eq_flatMap] at hkept
    have hcandidates : [KeyField.navigate field].flatMap (keys.navigateFieldCandidates source) =
        (keys.navigate field).values.flatMap actionCandidates := by
      rw [List.flatMap_singleton]
      exact if_pos hsource
    refine ⟨?_, fun own hown _ => ?_, fun own hown => ?_⟩
    · rw [hcandidates]
      exact hreads.holds
    · cases List.mem_singleton.1 hown
      rw [hcandidates, ← hkept]
      simp only [Keybinds.navigateBound, Function.update_self]
      exact List.Subset.refl _
    · have hne : own ≠ field := by
        rintro rfl
        exact hown ⟨List.mem_singleton_self _, hsource⟩
      simp only [Keybinds.navigateBound, Function.update_of_ne hne]
  · exact .of_same h (fun own heq => by cases heq; exact hsource) rfl rfl

theorem applyField_navigates (field : KeyField) (h : v.navigateRegistry.Holds prefixCombo taken) :
    NavigatesTo keys source prefixCombo taken [field] v
      (Validation.applyField keys source v field) := by
  rcases field with field | field | field
  · exact applyNavigate_navigates field h
  · refine .of_same h (fun _ heq => KeyField.noConfusion heq) ?_ ?_ <;>
      simp only [Validation.applyField, Validation.applyAction] <;> split_ifs <;> rfl
  · refine .of_same h (fun _ heq => KeyField.noConfusion heq) ?_ ?_ <;>
      simp only [Validation.applyField, Validation.applyIndexed] <;> split_ifs <;> rfl

theorem applyFields_navigates {fields : List KeyField} (hnodup : fields.Nodup)
    (h : v.navigateRegistry.Holds prefixCombo taken) :
    NavigatesTo keys source prefixCombo taken fields v
      (fields.foldl (Validation.applyField keys source) v) := by
  induction fields generalizing v taken with
  | nil =>
    exact ⟨by rwa [List.flatMap_nil, takenBy, servedKeys_nil],
      fun _ hmem => absurd hmem List.not_mem_nil, fun _ _ => rfl⟩
  | cons field fields ih =>
    rw [List.nodup_cons] at hnodup
    have hfirst := @applyField_navigates _ _ _ keys source field h
    have hrest := ih hnodup.2 hfirst.holds
    rw [List.flatMap_singleton] at hrest
    have hkept : keptOf navigateAllowed taken
        ((field :: fields).flatMap (keys.navigateFieldCandidates source)) = _ :=
      firstCome_append _ _
    rw [List.foldl_cons]
    refine ⟨?_, fun own hown hsource => ?_, fun own hown => ?_⟩
    · rw [List.flatMap_cons, takenBy, servedKeys_append]
      exact hrest.holds
    · rw [hkept]
      rcases List.mem_cons.1 hown with rfl | hown
      · rw [hrest.rest own fun hmem => hnodup.1 hmem.1]
        have hkeep := hfirst.own own (List.mem_singleton_self _) hsource
        rw [List.flatMap_singleton] at hkeep
        exact List.Subset.trans hkeep (List.subset_append_left _ _)
      · exact List.Subset.trans (hrest.own own hown hsource) (List.subset_append_right _ _)
    · rw [hrest.rest own fun hmem => hown ⟨List.mem_cons_of_mem _ hmem.1, hmem.2⟩,
        hfirst.rest own fun hmem => hown ⟨List.mem_singleton.1 hmem.1 ▸ List.mem_cons_self, hmem.2⟩]

theorem appendLegacies_navigate (fields : List IndexedField) (v : Validation) :
    (fields.foldl (Validation.appendLegacyIndexedBindings keys source) v).navigateRegistry =
        v.navigateRegistry ∧
      (fields.foldl (Validation.appendLegacyIndexedBindings keys source) v).keybinds.navigate =
        v.keybinds.navigate := by
  induction fields generalizing v with
  | nil => exact ⟨rfl, rfl⟩
  | cons field fields ih =>
    rw [List.foldl_cons]
    obtain ⟨hregistry, hnavigate⟩ := ih (v.appendLegacyIndexedBindings keys source field)
    exact ⟨hregistry.trans rfl, hnavigate.trans rfl⟩

/-- What is read after the fields is not for navigate mode. -/
theorem pass_navigates (h : v.navigateRegistry.Holds prefixCombo taken) :
    NavigatesTo keys source prefixCombo taken keyFields v (v.pass keys source) := by
  have hfields := @applyFields_navigates _ _ _ keys source _ keyFields_nodup h
  unfold Validation.pass
  dsimp only
  generalize keyFields.foldl (Validation.applyField keys source) v = v₁ at hfields ⊢
  have hsame : ∀ v', v'.navigateRegistry = v₁.navigateRegistry →
      v'.keybinds.navigate = v₁.keybinds.navigate →
      NavigatesTo keys source prefixCombo taken keyFields v v' := by
    intro v' hregistry hnavigate
    have hbound : v'.keybinds.navigateBound = v₁.keybinds.navigateBound := by
      unfold Keybinds.navigateBound
      rw [hnavigate]
    exact ⟨hregistry ▸ hfields.holds, hbound ▸ hfields.own, hbound ▸ hfields.rest⟩
  obtain ⟨hregistry, hnavigate⟩ := @appendLegacies_navigate keys source legacyFields v₁
  split_ifs
  · exact hsame _ hregistry hnavigate
  · exact hsame _ rfl rfl
  · exact hsame _ hregistry hnavigate
  · exact hsame _ rfl rfl

end

/-! ## Both passes -/

theorem BindingRegistry.Holds.reserve {prefixCombo : KeyCombo} {registry : BindingRegistry}
    {taken : Finset BindingTrigger} (h : registry.Holds prefixCombo taken) (combo : KeyCombo)
    (field : String) (source : BindingSource) :
    (registry.reserveDirect combo field source).Holds prefixCombo
      (insert (.direct (normalizeKeyCombo combo)) taken) := by
  unfold BindingRegistry.reserveDirect
  split_ifs with hmem
  · have hconflict : .direct (normalizeKeyCombo combo) ∈ taken :=
      (h.conflict ⟨.direct combo, ""⟩).1 (AList.lookup_isSome.2 hmem)
    rwa [Finset.insert_eq_self.2 hconflict]
  · exact h.register ⟨.direct combo, ""⟩ field source

theorem reserveNavigateRuntimeKeys_holds {prefixCombo : KeyCombo} {registry : BindingRegistry}
    {taken : Finset BindingTrigger} (h : registry.Holds prefixCombo taken) :
    ∃ reserved, taken ⊆ reserved ∧ (reserveNavigateRuntimeKeys registry).Holds prefixCombo
      reserved := by
  have hcombos : ∀ (combos : List KeyCombo) (registry : BindingRegistry)
      (taken : Finset BindingTrigger), registry.Holds prefixCombo taken →
      ∃ reserved, taken ⊆ reserved ∧ (combos.foldl (fun registry combo =>
        registry.reserveDirect combo "navigate reserved keys" .default) registry).Holds
          prefixCombo reserved := by
    intro combos
    induction combos with
    | nil => exact fun _ taken h => ⟨taken, Finset.Subset.refl taken, h⟩
    | cons combo combos ih =>
      intro registry taken h
      obtain ⟨reserved, hsub, hholds⟩ := ih _ _ (h.reserve combo "navigate reserved keys" .default)
      exact ⟨reserved, (Finset.subset_insert _ _).trans hsub, hholds⟩
  exact hcombos _ registry taken h

/-- What is allowed depends on the normalized combo only. -/
theorem navigateAllowed_congr {trigger trigger' : BindingTrigger}
    (h : trigger.normalized = trigger'.normalized) :
    navigateAllowed trigger = navigateAllowed trigger' := by
  rcases trigger with combo | combo <;> rcases trigger' with combo' | combo'
  · have hcombo : normalizeKeyCombo combo = normalizeKeyCombo combo' := BindingTrigger.direct.inj h
    simp only [navigateAllowed, BindingTrigger.isDirect, BindingTrigger.combo, hcombo]
  · cases h
  · cases h
  · rfl

namespace KeysConfig

variable {keys : KeysConfig}

theorem navigateRegistry_initial (keys : KeysConfig) : keys.initialValidation.navigateRegistry =
    reserveNavigateRuntimeKeys keys.initialValidation.registry := by
  simp only [initialValidation]

theorem initialValidation_navigates : ∃ reserved : Finset BindingTrigger,
    .direct (normalizeKeyCombo keys.prefixCombo) ∈ reserved ∧
      keys.initialValidation.navigateRegistry.Holds keys.prefixCombo reserved := by
  have hinitial := (initialValidation_accepted keys).holds
  rw [takenBy, servedKeys_nil] at hinitial
  obtain ⟨reserved, hsub, hholds⟩ := reserveNavigateRuntimeKeys_holds hinitial
  exact ⟨reserved, hsub (Finset.mem_singleton_self _), navigateRegistry_initial keys ▸ hholds⟩

/-- What both passes keep for navigate mode. -/
theorem validation_navigates : ∃ reserved : Finset BindingTrigger,
    .direct (normalizeKeyCombo keys.prefixCombo) ∈ reserved ∧
      NavigatesTo keys .user keys.prefixCombo reserved keyFields keys.initialValidation
        keys.userValidation ∧
      NavigatesTo keys .default keys.prefixCombo
        (takenBy navigateAllowed reserved (keys.navigateCandidates .user)) keyFields
        keys.userValidation keys.validation := by
  obtain ⟨reserved, hstarts, hinitial⟩ := @initialValidation_navigates keys
  have huser := @pass_navigates _ _ _ keys .user hinitial
  exact ⟨reserved, hstarts, huser, pass_navigates huser.holds⟩

/-- A navigate binding that is returned is direct and is not the prefix key. -/
theorem of_mem_navigateBound {field : NavigateField} {bound : BoundKey}
    (h : bound ∈ keys.keybinds.navigateBound field) : navigateAllowed bound.trigger ∧
      bound.trigger.normalized ≠ .direct (normalizeKeyCombo keys.prefixCombo) := by
  obtain ⟨reserved, hstarts, huser, hdefault⟩ := @validation_navigates keys
  have hreserved : ∀ {taken : Finset BindingTrigger} {candidates : List BoundKey},
      .direct (normalizeKeyCombo keys.prefixCombo) ∈ taken →
      bound ∈ keptOf navigateAllowed taken candidates → navigateAllowed bound.trigger ∧
        bound.trigger.normalized ≠ .direct (normalizeKeyCombo keys.prefixCombo) := by
    intro taken candidates htaken hmem
    obtain ⟨-, hallowed, hnot⟩ := of_mem_firstCome hmem
    exact ⟨hallowed, fun heq => hnot (heq ▸ htaken)⟩
  by_cases hsource : keys.fieldSource field.name = .default
  · exact hreserved (subset_servedKeys _ _ _ _ hstarts)
      (hdefault.own field (mem_keyFields _) hsource h)
  · have hrest := hdefault.rest field fun hmem => hsource hmem.2
    have hother : keys.fieldSource field.name = .user := by
      cases hcases : keys.fieldSource field.name with
      | default => exact absurd hcases hsource
      | user => rfl
    exact hreserved hstarts (huser.own field (mem_keyFields _) hother (hrest ▸ h))

/-- A default is returned only if no navigate field of the user resolves to its combo. -/
theorem navigate_precedence {field : NavigateField}
    (hsource : keys.fieldSource field.name = .default) {bound : BoundKey}
    (h : bound ∈ keys.keybinds.navigateBound field) {first : BoundKey}
    (hfirst : first ∈ keys.navigateCandidates .user) :
    first.trigger.normalized ≠ bound.trigger.normalized := by
  obtain ⟨reserved, -, -, hdefault⟩ := @validation_navigates keys
  obtain ⟨-, hallowed, hnot⟩ :=
    of_mem_firstCome (hdefault.own field (mem_keyFields _) hsource h)
  intro heq
  rw [← navigateAllowed_congr heq] at hallowed
  rw [← heq] at hnot
  exact hnot (mem_servedKeys_of_allowed hfirst hallowed)

end KeysConfig

end Zynk.Config
