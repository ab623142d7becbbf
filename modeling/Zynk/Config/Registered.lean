import Zynk.Config.KeyMatch
import Zynk.Config.Keybinds
import Zynk.Lib.FirstCome

/-!
# What the registry lets through

A configuration resolves to candidates (`KeysConfig.candidates`), and its passes keep of them, in
order, the ones that are allowed and whose trigger no earlier one has : the registry serves whoever
comes first (`firstCome`). `Reads` says so of one step, `Accepted` of the state between two steps,
and `validation_accepted` of both passes.
-/

namespace Zynk.Config

open Text

/-! ## Candidates -/

/-- Bindings are the same when they are after this. -/
def BindingTrigger.normalized : BindingTrigger → BindingTrigger
  | .direct combo => .direct (normalizeKeyCombo combo)
  | .prefixed combo => .prefixed (normalizeKeyCombo combo)

/-- What the value of an action field is read as. -/
def actionCandidates (raw : String) : List BoundKey :=
  match parseBindingString (trim raw.toList) with
  | some (.single binding) => [.action binding]
  | _ => []

/-- Of the bindings those of a number key, as indexed ones. -/
def numberBindings (bindings : List ResolvedBinding) : List BoundKey :=
  (bindings.filter fun binding => isNumberCombo binding.trigger.combo).map fun binding =>
    .indexed binding.toIndexed

def indexedCandidates (raw : String) : List BoundKey :=
  match parseBindingString (trim raw.toList) with
  | some (.single binding) => numberBindings [binding]
  | some (.range bindings) => numberBindings bindings
  | none => []

def legacyCandidates (label : String) : List BoundKey :=
  if (trim label.toList).isEmpty then []
  else
    match parseModifierCombo label.toList with
    | none => []
    | some modifiers =>
      (legacyBindings label modifiers).map fun binding => .indexed binding.toIndexed

def commandCandidates (command : CommandKeybindConfig) : List BoundKey :=
  if (trim command.command.toList).isEmpty then []
  else command.key.values.flatMap actionCandidates

namespace KeysConfig

/-- The field is read in the pass. -/
def Eligible (keys : KeysConfig) (source : BindingSource) : KeyField → Prop
  | .navigate field => keys.fieldSource field.name = source
  | .action field => keys.fieldSource field.name = source
  | .indexed field => keys.fieldSource field.name = source ∧
      ¬ (source = .default ∧ ¬ (trim (keys.legacyIndexed field).toList).isEmpty)

instance (keys : KeysConfig) (source : BindingSource) (field : KeyField) :
    Decidable (keys.Eligible source field) := by
  unfold Eligible
  split <;> infer_instance

/-- What a field of actions resolves to. -/
def fieldCandidates (keys : KeysConfig) : KeyField → List BoundKey
  | .navigate _ => []
  | .action field => (keys.action field).values.flatMap actionCandidates
  | .indexed field => (keys.indexed field).values.flatMap indexedCandidates

/-- What the fields of one source resolve to, the legacy section and the custom commands with
them. -/
def candidates (keys : KeysConfig) (source : BindingSource) : List BoundKey :=
  (keyFields.filter (keys.Eligible source ·)).flatMap keys.fieldCandidates ++
    (if source = keys.fieldSource "indexed" then
      legacyFields.flatMap fun field => legacyCandidates (keys.legacyIndexed field) else []) ++
    (if source = .user then keys.command.flatMap commandCandidates else [])

end KeysConfig

/-- The binding is not the prefix key behind the prefix key, and does not intercept typing. -/
def allowed (prefixCombo : KeyCombo) (trigger : BindingTrigger) : Bool :=
  !(trigger.isPrefixed && normalizeKeyCombo trigger.combo == normalizeKeyCombo prefixCombo) &&
    !(trigger.isDirect && isUnmodifiedPrintable trigger.combo)

/-- The same in navigate mode, where keys do not type. -/
def navigateAllowed (trigger : BindingTrigger) : Bool :=
  trigger.isDirect && (normalizeKeyCombo trigger.combo).1 != .esc

/-- Of the candidates those that are kept. -/
abbrev keptOf (rule : BindingTrigger → Bool) (taken : Finset BindingTrigger)
    (candidates : List BoundKey) : List BoundKey :=
  firstCome (·.trigger.normalized) (fun bound => rule bound.trigger) taken candidates

/-- The triggers that are taken then. -/
abbrev takenBy (rule : BindingTrigger → Bool) (taken : Finset BindingTrigger)
    (candidates : List BoundKey) : Finset BindingTrigger :=
  servedKeys (·.trigger.normalized) (fun bound => rule bound.trigger) taken
    candidates

section

variable {rule : BindingTrigger → Bool} {taken : Finset BindingTrigger} {bound : BoundKey}

theorem keptOf_served
    (h : rule bound.trigger ∧ bound.trigger.normalized ∉ taken) :
    keptOf rule taken [bound] = [bound] :=
  if_pos h

theorem takenBy_served
    (h : rule bound.trigger ∧ bound.trigger.normalized ∉ taken) :
    takenBy rule taken [bound] = insert bound.trigger.normalized taken :=
  (@servedKeys_cons_of_served _ _ _ (·.trigger.normalized)
    (fun bound => rule bound.trigger) taken bound h []).trans servedKeys_nil

theorem keptOf_not
    (h : ¬ (rule bound.trigger ∧ bound.trigger.normalized ∉ taken)) :
    keptOf rule taken [bound] = [] :=
  if_neg h

theorem takenBy_not
    (h : ¬ (rule bound.trigger ∧ bound.trigger.normalized ∉ taken)) :
    takenBy rule taken [bound] = taken :=
  (@servedKeys_cons_of_not _ _ _ (·.trigger.normalized)
    (fun bound => rule bound.trigger) taken bound h []).trans servedKeys_nil

end

/-! ## The registry -/

/-- The triggers that are taken are those with a conflict. -/
structure BindingRegistry.Holds (prefixCombo : KeyCombo) (registry : BindingRegistry)
    (taken : Finset BindingTrigger) : Prop where
  prefixCombo : registry.prefixCombo = normalizeKeyCombo prefixCombo
  conflict : ∀ binding : ResolvedBinding,
    (registry.conflict binding).isSome ↔ binding.trigger.normalized ∈ taken

section

variable {prefixCombo : KeyCombo} {registry : BindingRegistry} {taken : Finset BindingTrigger}

theorem rejectBinding_eq_none_iff (h : registry.Holds prefixCombo taken) (field : String)
    (binding : ResolvedBinding) (source : BindingSource) :
    rejectBinding field binding registry source = none ↔
      allowed prefixCombo binding.trigger ∧ binding.trigger.normalized ∉ taken := by
  rw [← h.conflict, Bool.not_eq_true, Option.isSome_eq_false_iff, Option.isNone_iff_eq_none]
  unfold rejectBinding allowed
  rw [BindingRegistry.prefixRhsIsReserved, h.prefixCombo]
  split
  · rename_i hstarts
    refine iff_of_false (by split_ifs <;> simp) fun hnone => ?_
    rw [hstarts] at hnone
    simp at hnone
  · rename_i hstarts
    rw [Bool.not_eq_true] at hstarts
    rw [hstarts]
    split
    · rename_i first hfirst
      simp [hfirst]
    · rename_i hnone
      split_ifs with htyping
      · simp [htyping]
      · rw [Bool.not_eq_true] at htyping
        simp [htyping, hnone]

theorem rejectNavigateBinding_eq_none_iff (h : registry.Holds prefixCombo taken) (field : String)
    (binding : ResolvedBinding) (source : BindingSource) :
    rejectNavigateBinding field binding registry source = none ↔
      navigateAllowed binding.trigger ∧ binding.trigger.normalized ∉ taken := by
  rw [← h.conflict, Bool.not_eq_true, Option.isSome_eq_false_iff, Option.isNone_iff_eq_none]
  unfold rejectNavigateBinding navigateAllowed
  rcases binding.trigger with combo | combo
  · by_cases hesc : (normalizeKeyCombo combo).1 == .esc <;>
      simp [BindingTrigger.isPrefixed, BindingTrigger.isDirect, BindingTrigger.combo, hesc, bne]
  · simp [BindingTrigger.isPrefixed, BindingTrigger.isDirect]

theorem BindingRegistry.Holds.register (h : registry.Holds prefixCombo taken)
    (binding : ResolvedBinding) (field : String) (source : BindingSource) :
    (registry.register binding field source).Holds prefixCombo
      (insert binding.trigger.normalized taken) := by
  rcases hb : binding.trigger with combo | combo
  · refine ⟨by simp only [BindingRegistry.register, hb, h.prefixCombo], fun other => ?_⟩
    have hother := h.conflict other
    rcases ho : other.trigger with combo' | combo' <;>
      simp only [BindingRegistry.conflict, ho, BindingRegistry.register, hb,
        BindingTrigger.normalized, Finset.mem_insert] at hother ⊢
    · rw [← hother, AList.lookup_isSome, AList.lookup_isSome, AList.mem_insert,
        BindingTrigger.direct.injEq]
    · rw [← hother]
      simp
  · refine ⟨by simp only [BindingRegistry.register, hb, h.prefixCombo], fun other => ?_⟩
    have hother := h.conflict other
    rcases ho : other.trigger with combo' | combo' <;>
      simp only [BindingRegistry.conflict, ho, BindingRegistry.register, hb,
        BindingTrigger.normalized, Finset.mem_insert] at hother ⊢
    · rw [← hother]
      simp
    · rw [← hother, AList.lookup_isSome, AList.lookup_isSome, AList.mem_insert,
        BindingTrigger.prefixed.injEq]

/-! ## Reading -/

/-- Of the candidates those that come first are kept, as the bindings of what is read. -/
structure Reads {β : Type} (bindingsOf : β → List BoundKey) (prefixCombo : KeyCombo)
    (rule : BindingTrigger → Bool) (taken : Finset BindingTrigger) (candidates : List BoundKey)
    (result : Registration × List β) : Prop where
  kept : result.2.flatMap bindingsOf = keptOf rule taken candidates
  holds : result.1.registry.Holds prefixCombo (takenBy rule taken candidates)

variable {β : Type} {bindingsOf : β → List BoundKey} {rule : BindingTrigger → Bool}

theorem reads_nothing {r : Registration} (h : r.registry.Holds prefixCombo taken) :
    Reads bindingsOf prefixCombo rule taken [] (r, []) :=
  ⟨rfl, by rwa [takenBy, servedKeys_nil]⟩

theorem reads_report {r : Registration} (h : r.registry.Holds prefixCombo taken)
    (diagnostics : List KeybindDiagnostic) :
    Reads bindingsOf prefixCombo rule taken [] (r.report diagnostics, []) :=
  reads_nothing h

theorem keep_reads {wrap : ResolvedBinding → BoundKey}
    (hwrap : ∀ binding, (wrap binding).trigger = binding.trigger) {r : Registration}
    (h : r.registry.Holds prefixCombo taken) (field : String) (source : BindingSource)
    (binding : ResolvedBinding) {rejected : Option (List KeybindDiagnostic)}
    (hiff : rejected = none ↔ rule binding.trigger ∧ binding.trigger.normalized ∉ taken) :
    Reads (fun binding => [wrap binding]) prefixCombo rule taken [wrap binding]
      (r.keep rejected field source binding) := by
  rw [← hwrap] at hiff
  rcases rejected with _ | diagnostics
  · have hserved := hiff.1 rfl
    refine ⟨(keptOf_served hserved).symm, ?_⟩
    rw [takenBy_served hserved, hwrap]
    exact h.register binding field source
  · have hnot : ¬ (rule (wrap binding).trigger ∧ (wrap binding).trigger.normalized ∉ taken) := by
      rw [← hiff]
      exact Option.some_ne_none _
    refine ⟨(keptOf_not hnot).symm, ?_⟩
    rw [takenBy_not hnot]
    exact h

/-- A binding that the registry of the direct and prefixed bindings is asked for. -/
theorem keep_reads_allowed {wrap : ResolvedBinding → BoundKey}
    (hwrap : ∀ binding, (wrap binding).trigger = binding.trigger) {r : Registration}
    (h : r.registry.Holds prefixCombo taken) (field : String) (source : BindingSource)
    (binding : ResolvedBinding) :
    Reads (fun binding => [wrap binding]) prefixCombo (allowed prefixCombo) taken [wrap binding]
      (r.keep (rejectBinding field binding r.registry source) field source binding) :=
  keep_reads hwrap h field source binding (rejectBinding_eq_none_iff h field binding source)

theorem readAll_reads {α : Type} {step : Registration → α → Registration × List β}
    {candidates : α → List BoundKey}
    (hstep : ∀ (r : Registration) (taken : Finset BindingTrigger) (a : α),
      r.registry.Holds prefixCombo taken →
      Reads bindingsOf prefixCombo rule taken (candidates a) (step r a))
    (l : List α) {r : Registration} (h : r.registry.Holds prefixCombo taken) :
    Reads bindingsOf prefixCombo rule taken (l.flatMap candidates) (readAll step r l) := by
  induction l generalizing r taken with
  | nil => exact reads_nothing h
  | cons a l ih =>
    have hfirst := hstep r taken a h
    have hrest := ih hfirst.holds
    refine ⟨?_, ?_⟩
    · rw [List.flatMap_cons, keptOf, firstCome_append, readAll, List.flatMap_append, hfirst.kept,
        hrest.kept]
    · rw [List.flatMap_cons, takenBy, servedKeys_append]
      exact hrest.holds

theorem parseBindingString_nil : parseBindingString [] = none :=
  rfl

theorem parseValue_reads
    {reject : String → ResolvedBinding → BindingRegistry → BindingSource →
      Option (List KeybindDiagnostic)} (field : String) (source : BindingSource)
    (hreject : ∀ (registry : BindingRegistry) (taken : Finset BindingTrigger)
      (binding : ResolvedBinding), registry.Holds prefixCombo taken →
      (reject field binding registry source = none ↔
        rule binding.trigger ∧ binding.trigger.normalized ∉ taken))
    {r : Registration} (h : r.registry.Holds prefixCombo taken) (raw : String) :
    Reads (fun binding => [.action binding]) prefixCombo rule taken (actionCandidates raw)
      (parseValue reject field source r raw) := by
  by_cases hempty : (trim raw.toList).isEmpty
  · simp only [parseValue, actionCandidates, hempty, if_true]
    rw [List.isEmpty_iff.1 hempty, parseBindingString_nil]
    exact reads_nothing h
  rcases hparse : parseBindingString (trim raw.toList) with _ | (binding | bindings) <;>
    simp only [parseValue, actionCandidates, hempty, if_false, hparse, Bool.false_eq_true]
  · exact reads_report h _
  · exact keep_reads (fun _ => rfl) h field source binding (hreject _ _ binding h)
  · exact reads_report h _

theorem parseActionBindings_reads (field : String) (config : BindingConfig) (source : BindingSource)
    {r : Registration} (h : r.registry.Holds prefixCombo taken) :
    Reads (fun binding => [.action binding]) prefixCombo (allowed prefixCombo) taken
      (config.values.flatMap actionCandidates)
      ((parseActionBindings field config r source).1,
        (parseActionBindings field config r source).2.bindings) :=
  readAll_reads (fun _ _ raw h => parseValue_reads field source
    (fun _ _ binding h => rejectBinding_eq_none_iff h field binding source) h raw) config.values h

theorem parseNavigateBindings_reads (field : String) (config : BindingConfig)
    (source : BindingSource) {r : Registration} (h : r.registry.Holds prefixCombo taken) :
    Reads (fun binding => [.action binding]) prefixCombo navigateAllowed taken
      (config.values.flatMap actionCandidates)
      ((parseNavigateBindings field config r source).1,
        (parseNavigateBindings field config r source).2.bindings) :=
  readAll_reads (fun _ _ raw h => parseValue_reads field source
    (fun _ _ binding h => rejectNavigateBinding_eq_none_iff h field binding source) h raw)
    config.values h

theorem pushIndexedBinding_reads (field : String) (source : BindingSource) {r : Registration}
    (h : r.registry.Holds prefixCombo taken) (binding : ResolvedBinding) :
    Reads (fun binding => [.indexed binding.toIndexed]) prefixCombo (allowed prefixCombo) taken
      (numberBindings [binding]) (pushIndexedBinding field source r binding) := by
  unfold pushIndexedBinding numberBindings
  split
  · rename_i hnumber
    simp only [List.filter_cons, hnumber, if_true, List.filter_nil]
    exact keep_reads_allowed (fun _ => rfl) h field source binding
  · rename_i hnumber
    simp only [List.filter_cons, hnumber, if_false, List.filter_nil, Bool.false_eq_true]
    exact reads_report h _

theorem parseIndexedValue_reads (field : String) (source : BindingSource) {r : Registration}
    (h : r.registry.Holds prefixCombo taken) (raw : String) :
    Reads (fun binding => [.indexed binding.toIndexed]) prefixCombo (allowed prefixCombo) taken
      (indexedCandidates raw) (parseIndexedValue field source r raw) := by
  by_cases hempty : (trim raw.toList).isEmpty
  · simp only [parseIndexedValue, indexedCandidates, hempty, if_true]
    rw [List.isEmpty_iff.1 hempty, parseBindingString_nil]
    exact reads_nothing h
  rcases hparse : parseBindingString (trim raw.toList) with _ | (binding | bindings) <;>
    simp only [parseIndexedValue, indexedCandidates, hempty, if_false, hparse, Bool.false_eq_true]
  · exact reads_report h _
  · exact pushIndexedBinding_reads field source h binding
  · have heach : numberBindings bindings =
        bindings.flatMap fun binding => numberBindings [binding] := by
      simp only [numberBindings]
      rw [← List.map_flatMap, ← List.filter_flatMap, List.flatMap_singleton']
    rw [heach]
    exact readAll_reads (fun _ _ binding h => pushIndexedBinding_reads field source h binding)
      bindings h

theorem Reads.toIndexed {candidates : List BoundKey} {r : Registration}
    {bindings : List ResolvedBinding}
    (h : Reads (fun binding => [.indexed binding.toIndexed]) prefixCombo (allowed prefixCombo) taken
      candidates (r, bindings)) :
    Reads (fun binding => [.indexed binding]) prefixCombo (allowed prefixCombo) taken candidates
      (r, bindings.map (·.toIndexed)) where
  kept := by
    rw [← h.kept, List.flatMap_map]
  holds := h.holds

theorem parseIndexedBindings_reads (field : String) (config : BindingConfig)
    (source : BindingSource) {r : Registration} (h : r.registry.Holds prefixCombo taken) :
    Reads (fun binding => [.indexed binding]) prefixCombo (allowed prefixCombo) taken
      (config.values.flatMap indexedCandidates) (parseIndexedBindings field config r source) :=
  (readAll_reads (fun _ _ raw h => parseIndexedValue_reads field source h raw)
    config.values h).toIndexed

theorem legacyIndexedBindings_reads (field label : String) (source : BindingSource)
    {r : Registration} (h : r.registry.Holds prefixCombo taken) :
    Reads (fun binding => [.indexed binding]) prefixCombo (allowed prefixCombo) taken
      (legacyCandidates label) (legacyIndexedBindings field label r source) := by
  unfold legacyIndexedBindings legacyCandidates
  split
  · exact reads_nothing h
  rcases parseModifierCombo label.toList with _ | modifiers
  · exact reads_report h _
  have hread := readAll_reads (fun _ _ binding h => @keep_reads_allowed _ _
    (fun binding => .indexed binding.toIndexed) (fun _ => rfl) _ h field source binding)
    (legacyBindings label modifiers) h
  rw [← List.map_eq_flatMap] at hread
  exact hread.toIndexed

theorem customCommandBinding_reads {r : Registration} (h : r.registry.Holds prefixCombo taken)
    (entry : CommandKeybindConfig × ℕ) :
    Reads (fun command => command.bindings.bindings.map .action) prefixCombo
      (allowed prefixCombo) taken (commandCandidates entry.1) (customCommandBinding r entry) := by
  unfold customCommandBinding commandCandidates
  obtain ⟨command, index⟩ := entry
  dsimp only
  split
  · exact reads_report h _
  have hread := parseActionBindings_reads ("keys.command[" ++ toString index ++ "]" ++ ".key")
    command.key .user h
  generalize parseActionBindings ("keys.command[" ++ toString index ++ "]" ++ ".key")
    command.key r .user = result at hread ⊢
  obtain ⟨r', bindings⟩ := result
  have hkept := hread.kept
  rw [← List.map_eq_flatMap] at hkept
  dsimp only at hkept ⊢
  split
  · rename_i hempty
    rw [List.isEmpty_iff.1 hempty] at hkept
    exact ⟨hkept, hread.holds⟩
  · refine ⟨by rw [List.flatMap_singleton, hkept], ?_⟩
    split
    · exact hread.holds
    · exact hread.holds

end

end Zynk.Config
