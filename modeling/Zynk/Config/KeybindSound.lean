import Zynk.Config.NavigateSound

/-!
# Presses and their bindings

What the registry promises of the keybinds that are returned. A press has at most one binding of
each kind exactly if no two combos that the configuration resolves to clash, since the registry
tells apart only combos that are equal (`unambiguous_iff`). Outside navigate mode typing is not
intercepted, the prefix key is left alone, and a default gives way to the user
(`typing_and_precedence`).
-/

namespace Zynk.Config

open Text

/-! ## Candidates are well formed -/

theorem isUpper_of_numberKey {c : Char} (h : c ∈ numberKeys) : c.isUpper = false := by
  have hall : numberKeys.all (fun c => !c.isUpper) = true := by decide
  simpa using List.all_eq_true.1 hall c h

theorem resolve_combo (prefixed : Bool) (combo : KeyCombo) :
    (resolve prefixed combo).trigger.combo = combo := by
  cases prefixed <;> rfl

theorem parseBindingString_normal {raw : Text} {parsed : ParsedBinding}
    (h : parseBindingString raw = some parsed) :
    match parsed with
    | .single binding => Normal binding.trigger.combo
    | .range bindings => ∀ binding ∈ bindings, Normal binding.trigger.combo := by
  unfold parseBindingString at h
  dsimp only at h
  split at h
  · cases h
    dsimp only
    intro binding hbinding
    obtain ⟨number, hnumber, rfl⟩ := List.mem_map.1 hbinding
    rw [resolve_combo]
    exact normal_char (isUpper_of_numberKey hnumber) _
  · obtain ⟨combo, hcombo, rfl⟩ := Option.map_eq_some_iff.1 h
    dsimp only
    rw [resolve_combo]
    exact parseKeyCombo_normal hcombo

theorem wellFormed_action {binding : ResolvedBinding} (h : Normal binding.trigger.combo) :
    (BoundKey.action binding).WellFormed :=
  ⟨h, fun _ heq => BoundKey.noConfusion heq⟩

theorem wellFormed_indexed {binding : ResolvedBinding} (h : Normal binding.trigger.combo)
    (hnumber : isNumberCombo binding.trigger.combo = true) :
    (BoundKey.indexed binding.toIndexed).WellFormed := by
  refine ⟨h, fun indexed heq => ?_⟩
  cases heq
  rcases hcombo : binding.trigger.combo with ⟨code, m⟩
  rw [hcombo] at hnumber
  unfold isNumberCombo at hnumber
  split at hnumber
  · rename_i number m' heq
    cases heq
    exact ⟨number, m, hcombo, hnumber⟩
  · cases hnumber

variable {bound : BoundKey}

theorem wellFormed_of_mem_actionCandidates {raw : String} (h : bound ∈ actionCandidates raw) :
    bound.WellFormed := by
  unfold actionCandidates at h
  split at h
  · rename_i binding hparse
    obtain rfl := List.mem_singleton.1 h
    exact wellFormed_action (parseBindingString_normal hparse)
  · cases h

theorem wellFormed_of_mem_numberBindings {bindings : List ResolvedBinding}
    (hnormal : ∀ binding ∈ bindings, Normal binding.trigger.combo)
    (h : bound ∈ numberBindings bindings) : bound.WellFormed := by
  obtain ⟨binding, hbinding, rfl⟩ := List.mem_map.1 h
  obtain ⟨hmem, hnumber⟩ := List.mem_filter.1 hbinding
  exact wellFormed_indexed (hnormal binding hmem) hnumber

theorem wellFormed_of_mem_indexedCandidates {raw : String} (h : bound ∈ indexedCandidates raw) :
    bound.WellFormed := by
  unfold indexedCandidates at h
  split at h
  · rename_i binding hparse
    refine wellFormed_of_mem_numberBindings (fun other hother => ?_) h
    rw [List.mem_singleton.1 hother]
    exact parseBindingString_normal hparse
  · rename_i bindings hparse
    exact wellFormed_of_mem_numberBindings (parseBindingString_normal hparse) h
  · cases h

theorem wellFormed_of_mem_legacyCandidates {label : String} (h : bound ∈ legacyCandidates label) :
    bound.WellFormed := by
  unfold legacyCandidates at h
  split at h
  · cases h
  split at h
  · cases h
  obtain ⟨binding, hbinding, rfl⟩ := List.mem_map.1 h
  obtain ⟨number, hnumber, rfl⟩ := List.mem_map.1 hbinding
  exact wellFormed_indexed (normal_char (isUpper_of_numberKey hnumber) _)
    (List.contains_iff_mem.2 hnumber)

theorem KeysConfig.wellFormed_of_mem_candidates {keys : KeysConfig} {source : BindingSource}
    (h : bound ∈ keys.candidates source) : bound.WellFormed := by
  unfold candidates at h
  rcases List.mem_append.1 h with h | h
  · rcases List.mem_append.1 h with h | h
    · obtain ⟨field, -, h⟩ := List.mem_flatMap.1 h
      rcases field with field | field | field
      · cases h
      · obtain ⟨raw, -, h⟩ := List.mem_flatMap.1 h
        exact wellFormed_of_mem_actionCandidates h
      · obtain ⟨raw, -, h⟩ := List.mem_flatMap.1 h
        exact wellFormed_of_mem_indexedCandidates h
    · split_ifs at h
      · obtain ⟨field, -, h⟩ := List.mem_flatMap.1 h
        exact wellFormed_of_mem_legacyCandidates h
      · cases h
  · split_ifs at h
    · obtain ⟨command, -, h⟩ := List.mem_flatMap.1 h
      unfold commandCandidates at h
      split_ifs at h
      · cases h
      · obtain ⟨raw, -, h⟩ := List.mem_flatMap.1 h
        exact wellFormed_of_mem_actionCandidates h
    · cases h

theorem BoundKey.WellFormed.normalized (h : bound.WellFormed) :
    bound.trigger.normalized = bound.trigger := by
  have hnormal := h.1.normalized
  rcases htrigger : bound.trigger with combo | combo <;> rw [htrigger] at hnormal
  · exact congrArg BindingTrigger.direct hnormal
  · exact congrArg BindingTrigger.prefixed hnormal

/-! ## What is returned -/

namespace KeysConfig

variable (keys : KeysConfig)

/-- What all fields resolve to. -/
def allCandidates : List BoundKey :=
  keys.candidates .user ++ keys.candidates .default

/-- The triggers the configuration resolves to, but for the prefix key and what would intercept
typing. -/
def bindable : List BindingTrigger :=
  (keys.allCandidates.map (·.trigger)).filter fun trigger =>
    allowed keys.prefixCombo trigger &&
      trigger != .direct (normalizeKeyCombo keys.prefixCombo)

variable {keys}

theorem wellFormed_of_mem_allCandidates {bound : BoundKey} (h : bound ∈ keys.allCandidates) :
    bound.WellFormed :=
  (List.mem_append.1 h).elim wellFormed_of_mem_candidates wellFormed_of_mem_candidates

/-- A binding that is returned is a candidate, is allowed and is not the prefix key. -/
theorem of_mem_bound {bound : BoundKey} (h : bound ∈ keys.keybinds.bound) :
    bound ∈ keys.allCandidates ∧ allowed keys.prefixCombo bound.trigger ∧
      bound.trigger ≠ .direct (normalizeKeyCombo keys.prefixCombo) := by
  obtain ⟨hmem, hallowed, hnot⟩ :=
    of_mem_firstCome ((validation_accepted keys).bound.mem_iff.1 h)
  rw [(wellFormed_of_mem_allCandidates hmem).normalized, Finset.mem_singleton] at hnot
  exact ⟨hmem, hallowed, hnot⟩

theorem wellFormed_of_mem_bound {bound : BoundKey} (h : bound ∈ keys.keybinds.bound) :
    bound.WellFormed :=
  wellFormed_of_mem_allCandidates (of_mem_bound h).1

theorem nodup_bound : (keys.keybinds.bound.map (·.trigger)).Nodup := by
  have hsame : keys.keybinds.bound.map (·.trigger) =
      keys.keybinds.bound.map (·.trigger.normalized) :=
    List.map_congr_left fun bound hbound => (wellFormed_of_mem_bound hbound).normalized.symm
  rw [hsame]
  exact ((validation_accepted keys).bound.map _).nodup_iff.2 (nodup_map_firstCome _ _ _ _)

theorem mem_bindable {trigger : BindingTrigger} :
    trigger ∈ keys.bindable ↔ ∃ bound ∈ keys.keybinds.bound, bound.trigger = trigger := by
  simp only [bindable, List.mem_filter, List.mem_map, Bool.and_eq_true, bne_iff_ne]
  constructor
  · rintro ⟨⟨bound, hbound, rfl⟩, hallowed, hnot⟩
    have hserved := @mem_servedKeys_of_allowed _ _ _ (·.trigger.normalized)
      (fun bound => allowed keys.prefixCombo bound.trigger)
      {.direct (normalizeKeyCombo keys.prefixCombo)} _ bound hbound hallowed
    have hnormal := (wellFormed_of_mem_allCandidates hbound).normalized
    rcases mem_servedKeys.1 hserved with hmem | ⟨first, hfirst, heq⟩
    · rw [hnormal] at hmem
      exact absurd (Finset.mem_singleton.1 hmem) hnot
    · have hreturned := (validation_accepted keys).bound.mem_iff.2 hfirst
      refine ⟨first, hreturned, ?_⟩
      rwa [hnormal, (wellFormed_of_mem_bound hreturned).normalized] at heq
  · rintro ⟨bound, hbound, rfl⟩
    obtain ⟨hmem, hallowed, hnot⟩ := of_mem_bound hbound
    exact ⟨⟨bound, hmem, rfl⟩, hallowed, hnot⟩

end KeysConfig

/-! ## Presses -/

/-- The bindings of a kind, direct or behind the prefix key, that a key matches. -/
def Keybinds.pressed (keybinds : Keybinds) (key : TerminalKey) (direct : Bool) : List BoundKey :=
  keybinds.bound.filter fun bound => bound.trigger.isDirect == direct && bound.hit key

/-- Every key matches at most one binding of a kind. -/
def Keybinds.Unambiguous (keybinds : Keybinds) : Prop :=
  ∀ key direct, (keybinds.pressed key direct).length ≤ 1

theorem length_le_one_of_forall_eq {α : Type} {l : List α} (hnodup : l.Nodup)
    (h : ∀ a ∈ l, ∀ b ∈ l, a = b) : l.length ≤ 1 := by
  rcases l with _ | ⟨a, _ | ⟨b, l⟩⟩
  · exact Nat.zero_le 1
  · exact le_refl 1
  · have heq := h a List.mem_cons_self b (List.mem_cons_of_mem a List.mem_cons_self)
    rw [heq] at hnodup
    exact absurd List.mem_cons_self (List.nodup_cons.1 hnodup).1

theorem eq_of_length_le_one {α : Type} {l : List α} (hlength : l.length ≤ 1) {a b : α}
    (ha : a ∈ l) (hb : b ∈ l) : a = b := by
  rcases l with _ | ⟨c, _ | ⟨d, l⟩⟩
  · cases ha
  · rw [List.mem_singleton.1 ha, List.mem_singleton.1 hb]
  · simp at hlength

theorem Clashes.ne {c c' : KeyCombo} (h : Clashes c c') : c ≠ c' := by
  have hshadow : ∀ {c c' : KeyCombo}, Shadows c c' → c ≠ c' := by
    rintro c c' ⟨-, hshift, hm⟩ rfl
    rw [hm] at hshift
    cases hshift
  rcases h with ⟨hne, -⟩ | h | h
  · exact hne
  · exact hshadow h
  · exact (hshadow h).symm

theorem BindingTrigger.eq_of_combo_eq {t t' : BindingTrigger} (hkind : t.isDirect = t'.isDirect)
    (hcombo : t.combo = t'.combo) : t = t' := by
  rcases t with combo | combo <;> rcases t' with combo' | combo'
  · exact congrArg BindingTrigger.direct hcombo
  · cases hkind
  · cases hkind
  · exact congrArg BindingTrigger.prefixed hcombo

/-- Every key matches at most one direct binding and at most one behind the prefix key exactly if
no two combos of a kind that the configuration resolves to clash. -/
theorem unambiguous_iff (keys : KeysConfig) : keys.keybinds.Unambiguous ↔
    ∀ t ∈ keys.bindable, ∀ t' ∈ keys.bindable, t.isDirect = t'.isDirect →
      ¬ Clashes t.combo t'.combo := by
  constructor
  · intro h t ht t' ht' hkind hclash
    obtain ⟨bound, hbound, rfl⟩ := KeysConfig.mem_bindable.1 ht
    obtain ⟨bound', hbound', rfl⟩ := KeysConfig.mem_bindable.1 ht'
    obtain ⟨key, hhit, hhit'⟩ := (BoundKey.exists_hit_iff
      (KeysConfig.wellFormed_of_mem_bound hbound) (KeysConfig.wellFormed_of_mem_bound hbound')
      hclash.ne).2 hclash
    have heq : bound = bound' := eq_of_length_le_one (h key bound.trigger.isDirect)
      (List.mem_filter.2 ⟨hbound, by rw [hhit, BEq.rfl]; rfl⟩)
      (List.mem_filter.2 ⟨hbound', by rw [hhit', hkind, BEq.rfl]; rfl⟩)
    exact hclash.ne (heq ▸ rfl)
  · intro h key direct
    have hsublist : (keys.keybinds.pressed key direct).Sublist keys.keybinds.bound :=
      List.filter_sublist
    have hnodup := KeysConfig.nodup_bound.sublist (hsublist.map (·.trigger))
    have hlength := length_le_one_of_forall_eq hnodup ?_
    · rwa [List.length_map] at hlength
    intro t ht t' ht'
    obtain ⟨bound, hbound, rfl⟩ := List.mem_map.1 ht
    obtain ⟨bound', hbound', rfl⟩ := List.mem_map.1 ht'
    obtain ⟨hmem, hpressed⟩ := List.mem_filter.1 hbound
    obtain ⟨hmem', hpressed'⟩ := List.mem_filter.1 hbound'
    simp only [Bool.and_eq_true, beq_iff_eq] at hpressed hpressed'
    have hkind := hpressed.1.trans hpressed'.1.symm
    by_contra hne
    refine h _ (KeysConfig.mem_bindable.2 ⟨bound, hmem, rfl⟩) _
      (KeysConfig.mem_bindable.2 ⟨bound', hmem', rfl⟩) hkind ?_
    exact (BoundKey.exists_hit_iff (KeysConfig.wellFormed_of_mem_bound hmem)
      (KeysConfig.wellFormed_of_mem_bound hmem')
      fun hcombo => hne (BindingTrigger.eq_of_combo_eq hkind hcombo)).1
        ⟨key, hpressed.2, hpressed'.2⟩

/-- Control with `?`, and Control with Shift and the key that `?` is on. -/
def questionAndSlash : KeysConfig where
  prefixKey := "ctrl+b"
  navigate _ := .empty
  action
    | .help => .one "ctrl+?"
    | .settings => .one "ctrl+shift+/"
    | _ => .empty
  indexed _ := .empty
  legacyIndexed _ := ""
  command := []
  userFields := ["help", "settings"]

/-- Both are registered, and the key matches both. -/
theorem questionAndSlash_ambiguous : ¬ questionAndSlash.keybinds.Unambiguous := by
  intro h
  have hpressed := h ((TerminalKey.new (.char '/') { control := true, shift := true
    }).withShiftedCodepoint '?'.toNat) true
  exact absurd hpressed (by decide +kernel)

/-! ## Typing -/

theorem not_isControl_of_isAlpha {c : Char} (h : c.isAlpha = true) : isControl c = false := by
  have hcases : 65 ≤ c.toNat ∧ c.toNat ≤ 90 ∨ 97 ≤ c.toNat ∧ c.toNat ≤ 122 := by
    rcases Bool.or_eq_true _ _ |>.mp h with h | h
    · delta Char.isUpper at h
      exact Or.inl (of_decide_eq_true h)
    · delta Char.isLower at h
      rw [Bool.and_eq_true, decide_eq_true_eq, decide_eq_true_eq] at h
      exact Or.inr h
  simp only [isControl, Bool.or_eq_false_iff, Bool.and_eq_false_iff, decide_eq_false_iff_not]
  omega

theorem not_isControl_of_symbol {x y : Char} (h : shiftedNumberSymbol x = some y) :
    isControl y = false := by
  obtain ⟨e, he, rfl⟩ := Option.map_eq_some_iff.1 h
  have hall : shiftedNumberSymbols.all (fun e => !isControl e.1) = true := by decide
  simpa using List.all_eq_true.1 hall e (List.mem_of_find?_eq_some he)

/-- The modifiers of a key that types its character. -/
def Typed (m : KeyModifiers) : Prop :=
  m = {} ∨ m = { shift := true }

/-- A key that types a character hits plain characters only. -/
theorem isUnmodifiedPrintable_of_hits {c : Char} {m : KeyModifiers} {shifted : Option Char}
    {combo : KeyCombo} (hc : isControl c = false) (hm : Typed m)
    (hshifted : ∀ s, shifted = some s → isControl s = false)
    (h : Hits shifted (.char c, m) combo) : isUnmodifiedPrintable combo = true := by
  have hplain : ∀ {y : Char} {m' : KeyModifiers}, isControl y = false → m'.withoutShift = {} →
      isUnmodifiedPrintable (.char y, m') = true := by
    intro y m' hy hm'
    simp [isUnmodifiedPrintable, hy, hm']
  have hwithout : m.withoutShift = {} := by
    rcases hm with rfl | rfl <;> rfl
  cases h with
  | same key =>
    cases key with
    | exact => exact hplain hc hwithout
    | shiftedChar _ char _ => exact hplain (hshifted _ char) hwithout
    | foldedLetter _ letters _ => exact hplain (not_isControl_of_isAlpha letters.2) hwithout
  | unshifted _ char =>
    refine hplain ?_ (by rw [hwithout]; rfl)
    rcases char with char | ⟨-, code⟩
    · exact hshifted _ char
    · cases code
      exact hc
  | shifted code _ char =>
    refine hplain ?_ (by rcases hm with rfl | rfl <;> rfl)
    rcases char with ⟨hupper, rfl⟩ | hsymbol
    · exact (toLower_of_isUpper hupper).2
    · exact not_isControl_of_symbol hsymbol

/-- A key that types its character : alone or with Shift, and no control character with it. -/
structure TypesCharacter (key : TerminalKey) : Prop where
  char : ∃ c, key.code = .char c ∧ isControl c = false
  modifiers : Typed key.modifiers
  shifted : ∀ s, key.shiftedCodepoint.bind charFromU32 = some s → isControl s = false

theorem not_hit_of_types {keys : KeysConfig} (h : bound ∈ keys.keybinds.bound)
    (hdirect : bound.trigger.isDirect = true) {key : TerminalKey} (hkey : TypesCharacter key) :
    bound.hit key = false := by
  obtain ⟨-, hallowed, -⟩ := KeysConfig.of_mem_bound h
  obtain ⟨c, hcode, hc⟩ := hkey.char
  by_contra hhit
  rw [Bool.not_eq_false] at hhit
  have hhits := BoundKey.hits_of_hit (KeysConfig.wellFormed_of_mem_bound h) hhit
  rw [hcode, normalizeKeyCombo_char] at hhits
  have hprintable := isUnmodifiedPrintable_of_hits hc hkey.modifiers hkey.shifted hhits
  simp [allowed, hdirect, hprintable] at hallowed

/-! ## The prefix key -/

namespace KeysConfig

variable {keys : KeysConfig}

theorem normalized_ne_prefixCombo {bound : BoundKey} (h : bound ∈ keys.keybinds.bound) :
    normalizeKeyCombo bound.trigger.combo ≠ normalizeKeyCombo keys.prefixCombo := by
  obtain ⟨-, hallowed, hnot⟩ := of_mem_bound h
  have hnormal := (wellFormed_of_mem_bound h).1.normalized
  intro heq
  rcases htrigger : bound.trigger with combo | combo <;> rw [htrigger] at hallowed hnot hnormal heq
  · exact hnot (congrArg BindingTrigger.direct (hnormal.symm.trans heq))
  · simp [allowed, BindingTrigger.isPrefixed, heq] at hallowed

theorem navigate_ne_prefixCombo {field : NavigateField} {bound : BoundKey}
    (h : bound ∈ keys.keybinds.navigateBound field) : bound.trigger.isDirect = true ∧
      normalizeKeyCombo bound.trigger.combo ≠ normalizeKeyCombo keys.prefixCombo := by
  obtain ⟨hallowed, hnot⟩ := of_mem_navigateBound h
  have hdirect : bound.trigger.isDirect = true := (Bool.and_eq_true_iff.1 hallowed).1
  refine ⟨hdirect, fun heq => ?_⟩
  rcases htrigger : bound.trigger with combo | combo <;> rw [htrigger] at hnot hdirect heq
  · exact hnot (congrArg BindingTrigger.direct heq)
  · cases hdirect

/-! ## Defaults -/

variable (keys)

/-- What the pass for the defaults adds is what comes first of its candidates. -/
theorem exists_added : ∃ added : KeyField → List BoundKey,
    (∀ field, keys.keybinds.boundOf field =
      keys.userValidation.keybinds.boundOf field ++ added field) ∧
    (keyFields.flatMap added).Perm (keptOf (allowed keys.prefixCombo)
      (takenBy (allowed keys.prefixCombo) {.direct (normalizeKeyCombo keys.prefixCombo)}
        (keys.candidates .user)) (keys.candidates .default)) := by
  choose added hadded using (validation_grows keys).added
  refine ⟨added, hadded, ?_⟩
  have hbound : keys.keybinds.bound.Perm
      (keys.userValidation.keybinds.bound ++ keyFields.flatMap added) := by
    rw [Keybinds.bound, Keybinds.bound, customCommands_validation, List.append_assoc]
    have hfields : keyFields.flatMap keys.keybinds.boundOf =
        keyFields.flatMap fun field =>
          keys.userValidation.keybinds.boundOf field ++ added field :=
      List.flatMap_congr fun field _ => hadded field
    rw [hfields]
    refine ((List.flatMap_append_perm _ _ _).symm.append_right _).trans ?_
    rw [List.append_assoc]
    exact List.perm_append_comm.append_left _
  have hkept := (validation_accepted keys).bound
  rw [keptOf, firstCome_append] at hkept
  have huser := (userValidation_accepted keys).bound
  exact (List.perm_append_left_iff _).1
    ((hbound.symm.trans hkept).trans (huser.symm.append_right _))

theorem precedence (field : KeyField) : ∃ added,
    keys.keybinds.boundOf field = keys.userValidation.keybinds.boundOf field ++ added ∧
      ∀ bound ∈ added, ∀ first ∈ keys.candidates .user,
        first.trigger.normalized ≠ bound.trigger.normalized := by
  obtain ⟨added, hadded, hperm⟩ := keys.exists_added
  refine ⟨added field, hadded field, fun bound hbound first hfirst heq => ?_⟩
  obtain ⟨hmem, hallowed, hnot⟩ := of_mem_firstCome
    (hperm.mem_iff.1 (List.mem_flatMap.2 ⟨field, mem_keyFields field, hbound⟩))
  have htrigger : first.trigger = bound.trigger := by
    rwa [(wellFormed_of_mem_candidates hfirst).normalized,
      (wellFormed_of_mem_candidates hmem).normalized] at heq
  rw [← htrigger] at hallowed
  rw [← heq] at hnot
  exact hnot (mem_servedKeys_of_allowed hfirst hallowed)

/-- No key that types hits a direct binding, the navigate bindings apart. -/
def LeavesTyping : Prop :=
  ∀ bound ∈ keys.keybinds.bound, bound.trigger.isDirect = true →
    ∀ key : TerminalKey, TypesCharacter key → bound.hit key = false

/-- No binding has the combo of the prefix key, and no navigate binding is behind it. -/
structure LeavesPrefix : Prop where
  bound : ∀ bound ∈ keys.keybinds.bound,
    normalizeKeyCombo bound.trigger.combo ≠ normalizeKeyCombo keys.prefixCombo
  navigate : ∀ field, ∀ bound ∈ keys.keybinds.navigateBound field,
    bound.trigger.isDirect = true ∧
      normalizeKeyCombo bound.trigger.combo ≠ normalizeKeyCombo keys.prefixCombo

/-- What is not from the user is returned only with a trigger that nothing of the user resolves
to, navigate mode on its own. -/
structure DefaultsGiveWay : Prop where
  commands : keys.keybinds.customCommands = keys.userValidation.keybinds.customCommands
  fields : ∀ field, ∃ added,
    keys.keybinds.boundOf field = keys.userValidation.keybinds.boundOf field ++ added ∧
      ∀ bound ∈ added, ∀ first ∈ keys.candidates .user,
        first.trigger.normalized ≠ bound.trigger.normalized
  navigate : ∀ field : NavigateField, keys.fieldSource field.name = .default →
    ∀ bound ∈ keys.keybinds.navigateBound field, ∀ first ∈ keys.navigateCandidates .user,
      first.trigger.normalized ≠ bound.trigger.normalized

end KeysConfig

/-- Typing is left alone and so is the prefix key, and the defaults give way to the user. -/
theorem typing_and_precedence (keys : KeysConfig) :
    keys.LeavesTyping ∧ keys.LeavesPrefix ∧ keys.DefaultsGiveWay := by
  refine ⟨fun bound hbound hdirect key hkey => not_hit_of_types hbound hdirect hkey, ⟨?_, ?_⟩, ?_⟩
  · exact fun bound hbound => KeysConfig.normalized_ne_prefixCombo hbound
  · exact fun field bound hbound => KeysConfig.navigate_ne_prefixCombo hbound
  · exact ⟨customCommands_validation keys, keys.precedence,
      fun field hsource bound hbound first hfirst =>
        KeysConfig.navigate_precedence hsource hbound hfirst⟩

/-- A letter for navigate mode, and a control character for an action. -/
def letterAndControl : KeysConfig where
  prefixKey := "ctrl+b"
  navigate
    | .paneLeft => .one "h"
    | _ => .empty
  action
    | .help => .one "\x01"
    | _ => .empty
  indexed _ := .empty
  legacyIndexed _ := ""
  command := []
  userFields := ["help"]

/-- The letter hits the one when it is typed, and the other is hit with its codepoint as the
shifted one. -/
theorem letterAndControl_intercepts :
    (∃ bound ∈ letterAndControl.keybinds.navigateBound .paneLeft,
      bound.trigger.isDirect = true ∧ bound.hit (TerminalKey.new (.char 'h') {}) = true) ∧
    ∃ bound ∈ letterAndControl.keybinds.bound, bound.trigger.isDirect = true ∧
      bound.hit ((TerminalKey.new (.char 'a') {}).withShiftedCodepoint 1) = true := by
  decide +kernel

end Zynk.Config
