import Zynk.Config.KeyCombo

/-!
# Combos that share a key

Bindings that are registered have different combos, in the form `Normal`. Some key matches two of
them exactly if they clash (`exists_hit_iff`) : they have the same modifiers and are characters
that are not both letters, where a shifted codepoint reaches both; or one of them is a character
and the other has the same modifiers and Shift. `Hits` are the ways a key matches a combo.
-/

namespace Zynk.Config

open Text

/-! ## Normal combos -/

/-- What a combo is read as : a letter has its Shift among the modifiers. -/
structure Normal (combo : KeyCombo) : Prop where
  normalized : normalizeKeyCombo combo = combo
  not_upper : ∀ c, combo.1 = .char c → c.isUpper = false

theorem normalizeKeyCombo_normalizeKeyCombo (combo : KeyCombo) :
    normalizeKeyCombo (normalizeKeyCombo combo) = normalizeKeyCombo combo := by
  obtain ⟨code, m⟩ := combo
  rcases code with _ | _ | _ | _ | _ | _ | _ | _ | _ | _ | _ | _ <;> try rfl
  simp only [normalizeKeyCombo]
  split_ifs with h
  · rfl
  · simp only [if_neg h]

@[simp] theorem normalizeKeyCombo_char (c : Char) (m : KeyModifiers) :
    normalizeKeyCombo (.char c, m) = (.char c, m) :=
  rfl

variable {c x : Char}

theorem normal_char (h : c.isUpper = false) (m : KeyModifiers) : Normal (.char c, m) :=
  ⟨rfl, fun c' hc => by cases hc; exact h⟩

variable {combo : KeyCombo} {m : KeyModifiers}

theorem normalizeKeyCombo_of_char (h : normalizeKeyCombo combo = (.char c, m)) :
    combo = (.char c, m) := by
  obtain ⟨code, m'⟩ := combo
  rcases code with _ | _ | _ | _ | _ | _ | _ | _ | _ | _ | _ | _ <;> try exact h
  · simp only [normalizeKeyCombo] at h
    split_ifs at h <;> cases h
  · cases h

/-! ### What is read is normal -/

theorem toLower_of_not_isUpper (h : c.isUpper = false) : c.toLower = c := by
  unfold Char.toLower
  rw [dif_neg]
  delta Char.isUpper at h
  simpa using h

/-- The lower case of a capital is a letter like any other. -/
theorem toLower_of_isUpper (h : c.isUpper = true) :
    c.toLower.isUpper = false ∧ isControl c.toLower = false := by
  have hall : ∀ n ∈ List.range' 65 26, (Char.ofNat n).toLower.isUpper = false ∧
      isControl (Char.ofNat n).toLower = false := by decide
  delta Char.isUpper at h
  rw [decide_eq_true_eq] at h
  have hmem : c.toNat ∈ List.range' 65 26 := by
    have hlow : 65 ≤ c.toNat := h.1
    have hhigh : c.toNat ≤ 90 := h.2
    rw [List.mem_range'_1]
    omega
  have hc := hall c.toNat hmem
  rwa [Char.ofNat_toNat] at hc

theorem not_isUpper_toLower (c : Char) : c.toLower.isUpper = false := by
  by_cases h : c.isUpper = true
  · exact (toLower_of_isUpper h).1
  · rw [Bool.not_eq_true] at h
    rwa [toLower_of_not_isUpper h]

theorem keyNames_not_upper : keyNames.all (fun e => match e.2 with
    | .char c => !c.isUpper
    | _ => true) = true := by
  decide

theorem parseKey_not_upper {keyStr : Text} {modifiers : KeyModifiers}
    (h : parseKey keyStr modifiers = some combo) (hc : combo.1 = .char c) : c.isUpper = false := by
  unfold parseKey at h
  dsimp only at h
  split at h
  · cases h
    cases hc
  split at h
  · rename_i code hlookup
    cases h
    have hmem : (String.ofList (toLowercase keyStr), code) ∈ keyNames := by
      obtain ⟨before, behind, heq, -⟩ := List.lookup_eq_some_iff.1 hlookup
      exact heq ▸ List.mem_append_right _ List.mem_cons_self
    have hall := List.all_eq_true.1 keyNames_not_upper _ hmem
    dsimp only at hall hc
    rw [hc] at hall
    simpa using hall
  split at h
  · split_ifs at h with hupper
    · cases h
      cases hc
      exact not_isUpper_toLower _
    · cases h
      cases hc
      simpa using hupper
  split at h
  · obtain ⟨n, -, rfl⟩ := Option.map_eq_some_iff.1 h
    cases hc
  · cases h

theorem parseKeyCombo_normal {s : Text} (h : parseKeyCombo s = some combo) : Normal combo := by
  unfold parseKeyCombo at h
  split at h
  · cases h
  obtain ⟨parsed, hparsed, rfl⟩ := Option.map_eq_some_iff.1 h
  refine ⟨normalizeKeyCombo_normalizeKeyCombo parsed, fun c hc => ?_⟩
  have heq := normalizeKeyCombo_of_char (Prod.ext hc rfl : normalizeKeyCombo parsed = (_, _))
  exact parseKey_not_upper hparsed (heq ▸ rfl)

/-! ## How a key matches -/

/-- A key matches the code of a combo with its modifiers. -/
inductive SameKey (shifted : Option Char) (actual : KeyCode) : KeyCode → Prop where
  | exact : SameKey shifted actual actual
  | shiftedChar {x y : Char} (code : actual = .char x) (char : shifted = some y)
      (not_letters : ¬ (x.isAlpha ∧ y.isAlpha)) : SameKey shifted actual (.char y)
  | foldedLetter {x y : Char} (code : actual = .char x) (letters : x.isAlpha ∧ y.isAlpha)
      (lower : x.toLower = y.toLower) : SameKey shifted actual (.char y)

/-- A key, by its code, its modifiers and its shifted character, matches a combo. -/
inductive Hits (shifted : Option Char) (actual : KeyCombo) : KeyCombo → Prop where
  | same {code : KeyCode} (key : SameKey shifted actual.1 code) :
      Hits shifted actual (code, actual.2)
  | unshifted {y : Char} (shift : actual.2.shift = true)
      (char : shifted = some y ∨ shifted = none ∧ actual.1 = .char y) :
      Hits shifted actual (.char y, actual.2.withoutShift)
  | shifted {x y : Char} (code : actual.1 = .char x) (shift : actual.2.shift = false)
      (char : x.isUpper ∧ x.toLower = y ∨ shiftedNumberSymbol x = some y) :
      Hits shifted actual (.char y, actual.2.withShift)

theorem sameKey_of_keyCodesMatch {actual expected : KeyCode} {m' : KeyModifiers}
    {shifted : Option ℕ} (h : keyCodesMatch actual m expected m' shifted = true) :
    SameKey (shifted.bind charFromU32) actual expected := by
  unfold keyCodesMatch at h
  split at h
  · rename_i x y
    split_ifs at h with hletters
    · simp only [Bool.or_eq_true, Bool.and_eq_true, beq_iff_eq] at h hletters
      rcases h with rfl | ⟨-, hlower⟩
      · exact .exact
      · exact .foldedLetter rfl hletters hlower
    · simp only [Bool.or_eq_true, beq_iff_eq] at h
      rcases h with rfl | h
      · exact .exact
      unfold shiftedCharMatchesExpected at h
      dsimp only at h
      split at h
      · rename_i z hz
        refine .shiftedChar rfl ?_ (by simpa using hletters)
        rw [hz, eq_of_beq h]
      · simp only [Bool.and_eq_true, beq_iff_eq] at h
        rw [h.1]
        exact .exact
  · rw [eq_of_beq h]
    exact .exact

theorem hits_of_matchesCombo {key : TerminalKey} (hnormal : Normal combo)
    (h : terminalKeyMatchesCombo key combo = true) :
    Hits (key.shiftedCodepoint.bind charFromU32) (normalizeKeyCombo (key.code, key.modifiers))
      combo := by
  obtain ⟨expected, m⟩ := combo
  rw [terminalKeyMatchesCombo, keyPartsMatchCombo, hnormal.normalized] at h
  generalize normalizeKeyCombo (key.code, key.modifiers) = pressed at h ⊢
  obtain ⟨actual, actualModifiers⟩ := pressed
  dsimp only at h
  split_ifs at h with hsame
  · simp only [Bool.and_eq_true, beq_iff_eq] at hsame
    obtain ⟨rfl, hcodes⟩ := hsame
    exact .same (sameKey_of_keyCodesMatch hcodes)
  simp only [Bool.or_eq_true, Bool.and_eq_true, beq_iff_eq] at h
  rcases h with ⟨⟨hshift, rfl⟩, hchar⟩ | hcapital
  · unfold shiftedCharMatchesExpected at hchar
    split at hchar
    · split at hchar
      · rename_i z hz
        rw [hz, eq_of_beq hchar]
        exact .unshifted hshift (Or.inl rfl)
      · rename_i hnone
        simp only [Bool.and_eq_true, beq_iff_eq] at hchar
        exact .unshifted hshift (Or.inr ⟨hnone, hchar.1⟩)
    · cases hchar
  · unfold legacyShiftedAsciiLetterMatches at hcapital
    split_ifs at hcapital with hshift
    split at hcapital
    · simp only [Bool.and_eq_true, beq_iff_eq] at hcapital
      obtain ⟨⟨⟨hupper, -⟩, hlower⟩, rfl⟩ := hcapital
      exact .shifted rfl (by simpa using hshift) (Or.inl ⟨hupper, hlower⟩)
    · cases hcapital

/-! ## Bindings as they are returned -/

/-- A binding that is returned, of an action or a custom command, or indexed. -/
inductive BoundKey where
  | action (binding : ResolvedBinding)
  | indexed (binding : IndexedKeybind)

namespace BoundKey

def trigger : BoundKey → BindingTrigger
  | action binding => binding.trigger
  | indexed binding => binding.trigger

/-- `matches_terminal_key`, or an index from `matched_index`. -/
def hit (key : TerminalKey) : BoundKey → Bool
  | action binding => binding.matchesTerminalKey key
  | indexed binding => (binding.matchedIndex key).isSome

/-- The combo is normal, and that of an indexed binding is a number key. -/
def WellFormed (bound : BoundKey) : Prop :=
  Normal bound.trigger.combo ∧ ∀ binding, bound = indexed binding →
    ∃ number m, binding.trigger.combo = (.char number, m) ∧ isKeyNumber number

theorem hits_of_hit {bound : BoundKey} (h : bound.WellFormed) {key : TerminalKey}
    (hhit : bound.hit key = true) :
    Hits (key.shiftedCodepoint.bind charFromU32) (normalizeKeyCombo (key.code, key.modifiers))
      bound.trigger.combo := by
  rcases bound with binding | binding
  · exact hits_of_matchesCombo h.1 hhit
  obtain ⟨number, m, hcombo, hnumber⟩ := h.2 binding rfl
  have hnormal : Normal (.char number, m) := hcombo ▸ h.1
  simp only [hit, IndexedKeybind.matchedIndex, hcombo, normalizeKeyCombo_char, hnumber,
    if_true] at hhit
  rw [show (indexed binding).trigger.combo = (.char number, m) from hcombo]
  split_ifs at hhit with hmatches
  · rw [Bool.or_eq_true] at hmatches
    rcases hmatches with hmatches | hlegacy
    · exact hits_of_matchesCombo hnormal hmatches
    split at hlegacy
    · rename_i x hcode
      simp only [indexedShiftedNumberMatches, normalizeKeyCombo_char, Bool.and_eq_true,
        beq_iff_eq] at hlegacy
      obtain ⟨hsymbol, ⟨-, hshift⟩, hmodifiers⟩ := hlegacy
      rw [hcode, hmodifiers, normalizeKeyCombo_char]
      have hm : m = m.withoutShift.withShift := by
        obtain ⟨shift⟩ := m
        cases hshift
        rfl
      conv_rhs => rw [hm]
      exact .shifted rfl rfl (Or.inr hsymbol)
    · cases hlegacy
  · cases hhit

theorem hit_of_matchesCombo {bound : BoundKey} (h : bound.WellFormed) {key : TerminalKey}
    (hmatches : terminalKeyMatchesCombo key bound.trigger.combo = true) : bound.hit key = true := by
  rcases bound with binding | binding
  · exact hmatches
  obtain ⟨number, m, hcombo, hnumber⟩ := h.2 binding rfl
  have hmatches' : terminalKeyMatchesCombo key binding.trigger.combo = true := hmatches
  rw [hcombo] at hmatches'
  simp only [hit, IndexedKeybind.matchedIndex, hcombo, normalizeKeyCombo_char, hnumber, hmatches',
    Bool.true_or, if_true, Option.isSome_some]

end BoundKey

/-! ## Clashes -/

/-- The first is a character, and the second has its modifiers and Shift. -/
def Shadows (c c' : KeyCombo) : Prop :=
  (∃ x, c.1 = .char x) ∧ c.2.shift = false ∧ c'.2 = c.2.withShift

/-- Some key matches both combos. -/
def Clashes (c c' : KeyCombo) : Prop :=
  (c ≠ c' ∧ c.2 = c'.2 ∧ ∃ x y, c.1 = .char x ∧ c'.1 = .char y ∧ ¬ (x.isAlpha ∧ y.isAlpha)) ∨
    Shadows c c' ∨ Shadows c' c

theorem withShift_withoutShift (h : m.shift = true) : m.withoutShift.withShift = m := by
  obtain ⟨shift⟩ := m
  cases h
  rfl

/-- Two codes that a key matches with the same modifiers. -/
theorem SameKey.clash {shifted : Option Char} {actual e e' : KeyCode} (h : SameKey shifted actual e)
    (h' : SameKey shifted actual e') (hne : e ≠ e') (hnormal : Normal (e, m))
    (hnormal' : Normal (e', m)) :
    ∃ x y, e = .char x ∧ e' = .char y ∧ ¬ (x.isAlpha ∧ y.isAlpha) := by
  have hfold : ∀ {x y : Char}, Normal (.char x, m) → Normal (.char y, m) →
      x.toLower = y.toLower → x = y := by
    intro x y hx hy hlower
    rwa [toLower_of_not_isUpper (hx.not_upper x rfl),
      toLower_of_not_isUpper (hy.not_upper y rfl)] at hlower
  cases h with
  | exact =>
    cases h' with
    | exact => exact absurd rfl hne
    | shiftedChar code char not_letters => exact ⟨_, _, code, rfl, not_letters⟩
    | foldedLetter code letters lower =>
      subst code
      exact absurd (congrArg KeyCode.char (hfold hnormal hnormal' lower)) hne
  | shiftedChar code char not_letters =>
    cases h' with
    | exact => exact ⟨_, _, rfl, code, fun h => not_letters h.symm⟩
    | shiftedChar code' char' _ =>
      cases char.symm.trans char'
      exact absurd rfl hne
    | foldedLetter code' letters lower =>
      cases code.symm.trans code'
      exact ⟨_, _, rfl, rfl, fun h => not_letters ⟨letters.1, h.1⟩⟩
  | foldedLetter code letters lower =>
    cases h' with
    | exact =>
      subst code
      exact absurd (congrArg KeyCode.char (hfold hnormal' hnormal lower).symm) hne
    | shiftedChar code' char not_letters =>
      cases code.symm.trans code'
      exact ⟨_, _, rfl, rfl, fun h => not_letters ⟨letters.1, h.2⟩⟩
    | foldedLetter code' letters' lower' =>
      cases code.symm.trans code'
      exact absurd (congrArg KeyCode.char (hfold hnormal hnormal' (lower.symm.trans lower'))) hne

theorem SameKey.shadows {shifted : Option Char} {actual : KeyCombo} {code : KeyCode}
    (h : SameKey shifted actual.1 code) (hx : actual.1 = .char x) (hshift : actual.2.shift = false)
    (y : Char) : Shadows (code, actual.2) (.char y, actual.2.withShift) := by
  refine ⟨?_, hshift, rfl⟩
  cases h with
  | exact => exact ⟨x, hx⟩
  | shiftedChar => exact ⟨_, rfl⟩
  | foldedLetter => exact ⟨_, rfl⟩

theorem not_isUpper_of_symbol {y : Char} (h : shiftedNumberSymbol x = some y) :
    x.isUpper = false := by
  obtain ⟨e, he, -⟩ := Option.map_eq_some_iff.1 h
  have hall : shiftedNumberSymbols.all (fun e => !e.2.isUpper) = true := by decide
  have hupper := List.all_eq_true.1 hall e (List.mem_of_find?_eq_some he)
  have heq : (e.2 == x) = true := @List.find?_some _ (fun e : Char × Char => e.2 == x) _ _ he
  rw [← eq_of_beq heq]
  simpa using hupper

theorem clashes_of_hits {shifted : Option Char} {actual c c' : KeyCombo}
    (h : Hits shifted actual c) (h' : Hits shifted actual c') (hnormal : Normal c)
    (hnormal' : Normal c') (hne : c ≠ c') : Clashes c c' := by
  have hsymbols : ∀ {x y z : Char}, (x.isUpper ∧ x.toLower = y ∨ shiftedNumberSymbol x = some y) →
      (x.isUpper ∧ x.toLower = z ∨ shiftedNumberSymbol x = some z) → y = z := by
    have hnot : ∀ {x y : Char}, x.isUpper → shiftedNumberSymbol x ≠ some y :=
      fun hx heq => by rw [not_isUpper_of_symbol heq] at hx; cases hx
    rintro x y z (⟨hx, rfl⟩ | hy) (⟨hx', rfl⟩ | hz)
    · rfl
    · exact absurd hz (hnot hx)
    · exact absurd hy (hnot hx')
    · exact Option.some.inj (hy.symm.trans hz)
  cases h with
  | same key =>
    cases h' with
    | same key' =>
      obtain ⟨x, y, hx, hy, hletters⟩ :=
        key.clash key' (fun heq => hne (heq ▸ rfl)) hnormal hnormal'
      exact Or.inl ⟨hne, rfl, x, y, hx, hy, hletters⟩
    | unshifted shift char =>
      exact Or.inr (Or.inr ⟨⟨_, rfl⟩, rfl, (withShift_withoutShift shift).symm⟩)
    | shifted code shift char => exact Or.inr (Or.inl (key.shadows code shift _))
  | unshifted shift char =>
    cases h' with
    | same key => exact Or.inr (Or.inl ⟨⟨_, rfl⟩, rfl, (withShift_withoutShift shift).symm⟩)
    | unshifted shift' char' =>
      refine absurd ?_ hne
      rcases char with rfl | ⟨rfl, hy⟩
      · rcases char' with heq | ⟨heq, -⟩
        · cases heq
          rfl
        · cases heq
      · rcases char' with heq | ⟨-, hy'⟩
        · cases heq
        · cases hy.symm.trans hy'
          rfl
    | shifted code shift' => rw [shift] at shift'; cases shift'
  | shifted code shift char =>
    cases h' with
    | same key => exact Or.inr (Or.inr (key.shadows code shift _))
    | unshifted shift' char' => rw [shift] at shift'; cases shift'
    | shifted code' shift' char' =>
      cases code.symm.trans code'
      exact absurd (by rw [hsymbols char char']) hne

/-! ## A key for both -/

theorem charFromU32_toNat (c : Char) : charFromU32 c.toNat = some c := by
  rw [charFromU32, Char.ofNat_toNat]
  exact if_pos c.valid

/-- The key of a combo matches it, whatever its shifted codepoint is. -/
theorem matchesCombo_self {code : KeyCode} (h : Normal (code, m)) (shifted : Option ℕ) :
    keyPartsMatchCombo code m shifted (code, m) = true := by
  have hcodes : keyCodesMatch code m code m shifted = true := by
    unfold keyCodesMatch
    split
    · split_ifs <;> simp
    · simp
  simp only [keyPartsMatchCombo, h.normalized, hcodes, BEq.rfl, Bool.and_true, if_true]

theorem matchesCombo_shiftedChar {y : Char} (hletters : ¬ (x.isAlpha ∧ y.isAlpha))
    (m : KeyModifiers) : keyPartsMatchCombo (.char x) m (some y.toNat) (.char y, m) = true := by
  have hcodes : keyCodesMatch (.char x) m (.char y) m (some y.toNat) = true := by
    simp only [keyCodesMatch, shiftedCharMatchesExpected, Option.bind_some, charFromU32_toNat]
    rw [if_neg (by simpa using hletters)]
    simp
  simp only [keyPartsMatchCombo, normalizeKeyCombo_char, hcodes, BEq.rfl, Bool.and_true, if_true]

theorem matchesCombo_unshifted {code : KeyCode} (h : Normal (code, m.withShift))
    (hshift : m.shift = false) :
    keyPartsMatchCombo code m.withShift (some x.toNat) (.char x, m) = true := by
  have hchar : shiftedCharMatchesExpected code (some x.toNat) (.char x) = true := by
    simp only [shiftedCharMatchesExpected, Option.bind_some, charFromU32_toNat, BEq.rfl]
  have hm : m.withShift.withoutShift = m := by
    obtain ⟨shift⟩ := m
    cases hshift
    rfl
  simp only [keyPartsMatchCombo, h.normalized, normalizeKeyCombo_char, hchar, hm]
  simp [KeyModifiers.withShift]

theorem exists_matches_of_clashes {c c' : KeyCombo} (hnormal : Normal c) (hnormal' : Normal c')
    (h : Clashes c c') : ∃ key : TerminalKey,
      terminalKeyMatchesCombo key c = true ∧ terminalKeyMatchesCombo key c' = true := by
  have hshadow : ∀ {c c' : KeyCombo}, Normal c' → Shadows c c' → ∃ key : TerminalKey,
      terminalKeyMatchesCombo key c = true ∧ terminalKeyMatchesCombo key c' = true := by
    rintro ⟨_, m⟩ ⟨code, _⟩ hnormal' ⟨⟨x, rfl⟩, hshift, rfl⟩
    exact ⟨(TerminalKey.new code m.withShift).withShiftedCodepoint x.toNat,
      matchesCombo_unshifted hnormal' hshift, matchesCombo_self hnormal' _⟩
  rcases h with ⟨-, hm, x, y, hx, hy, hletters⟩ | h | h
  · obtain ⟨_, m⟩ := c
    obtain ⟨_, m'⟩ := c'
    cases hx
    cases hy
    cases hm
    exact ⟨(TerminalKey.new (.char x) m).withShiftedCodepoint y.toNat,
      matchesCombo_self hnormal _, matchesCombo_shiftedChar hletters m⟩
  · exact hshadow hnormal' h
  · obtain ⟨key, hkey', hkey⟩ := hshadow hnormal h
    exact ⟨key, hkey, hkey'⟩

/-- Some key hits two bindings with different combos exactly if these clash. -/
theorem BoundKey.exists_hit_iff {bound bound' : BoundKey} (h : bound.WellFormed)
    (h' : bound'.WellFormed) (hne : bound.trigger.combo ≠ bound'.trigger.combo) :
    (∃ key : TerminalKey, bound.hit key = true ∧ bound'.hit key = true) ↔
      Clashes bound.trigger.combo bound'.trigger.combo := by
  constructor
  · rintro ⟨key, hhit, hhit'⟩
    exact clashes_of_hits (hits_of_hit h hhit) (hits_of_hit h' hhit') h.1 h'.1 hne
  · intro hclash
    obtain ⟨key, hkey, hkey'⟩ := exists_matches_of_clashes h.1 h'.1 hclash
    exact ⟨key, hit_of_matchesCombo h hkey, hit_of_matchesCombo h' hkey'⟩

end Zynk.Config
