import Zynk.Input.Encode

/-!
# Keys there and back

What `encode_terminal_key` sends for a key under the kitty protocol, with all keys and event types
reported, is read by `parse_terminal_key_sequence`. A key that has a code point in the protocol is
sent as `CSI u` and comes back with its code, modifiers and kind (`readBack_csiU`). The function
keys are sent in their legacy form, which has room for Shift, Alt and Control only and for no kind
(`readBack_f`).
-/

namespace Zynk

open Text

/-! ## Fields -/

variable {n flags : ℕ}

theorem parseU8_decimal (h : n ≤ 255) : parseU8 (decimal n) = some n := by
  rw [parseU8, parseUnsigned_decimal, if_pos h]

theorem parseKittyCodepoint_decimal (n : ℕ) :
    parseKittyCodepoint (decimal n) = if n.isValidChar then some n else none := by
  have hdigits : (decimal n).all Char.isDigit = true :=
    List.all_eq_true.2 fun c hc => isDigit_of_mem_decimal hc
  have hmax (hn : n.isValidChar) : n ≤ 4294967295 := by
    rcases hn with h | h <;> omega
  simp only [parseKittyCodepoint, hdigits, parseU32, parseUnsigned_decimal, charFromU32]
  by_cases hn : n.isValidChar
  · simp [hmax hn, hn]
  · by_cases hle : n ≤ 4294967295 <;> simp [hle, hn]

theorem parseKittyAssociatedText_decimal {ch : Char} (h : isControl ch = false) :
    parseKittyAssociatedText (decimal ch.toNat) = some [ch] := by
  have hvalid : ch.toNat.isValidChar := ch.valid
  have hmax : ch.toNat ≤ 4294967295 := by
    rcases hvalid with h | h <;> omega
  rw [parseKittyAssociatedText, splitOn_of_not_mem (not_mem_decimal (by decide) _)]
  simp [parseU32, parseUnsigned_decimal, hmax, charFromU32, hvalid, h]

theorem splitOn_optionalField {sep : Char} (hsep : sep.isDigit = false) {a : Text} (ha : sep ∉ a)
    (value : Option ℕ) :
    splitOn sep (a ++ optionalField sep value) = a :: (value.map decimal).toList := by
  rcases value with _ | n
  · simp [optionalField, splitOn_of_not_mem ha]
  · rw [optionalField, splitOn_append_cons ha, splitOn_of_not_mem (not_mem_decimal hsep n)]
    rfl

variable {c : Char}

theorem not_mem_optionalField {sep : Char} (hc : c.isDigit = false) (hne : c ≠ sep)
    (value : Option ℕ) : c ∉ optionalField sep value := by
  rcases value with _ | n
  · simp [optionalField]
  · simp [optionalField, hne, not_mem_decimal hc n]

theorem splitModifierAndEvent_decimal (modifier event : ℕ) :
    splitModifierAndEvent (decimal modifier ++ optionalField ':' (some event)) =
      (decimal modifier, some (decimal event)) := by
  simp [splitModifierAndEvent, optionalField, splitOnce_append_cons
    (not_mem_decimal (by decide : ':'.isDigit = false) modifier), decimal_ne_nil]

/-- What stands between the introducer and the final letter. -/
def csiUBody (codepoint : ℕ) (shifted : Option ℕ) (modifier : ℕ) (event text : Option ℕ) : Text :=
  decimal codepoint ++ optionalField ':' shifted ++
    ';' :: (decimal modifier ++ optionalField ':' event ++ optionalField ';' text)

theorem csiU_eq (codepoint : ℕ) (shifted : Option ℕ) (modifier : ℕ) (event text : Option ℕ) :
    csiU codepoint shifted modifier event text =
      "\x1b[".toList ++ (csiUBody codepoint shifted modifier event text ++ "u".toList) := by
  delta csiU csiUBody
  simp

theorem splitOn_csiUBody (codepoint : ℕ) (shifted : Option ℕ) (modifier : ℕ)
    (event text : Option ℕ) :
    splitOn ';' (csiUBody codepoint shifted modifier event text) =
      (decimal codepoint ++ optionalField ':' shifted) ::
        (decimal modifier ++ optionalField ':' event) :: (text.map decimal).toList := by
  have hnot (n : ℕ) (value : Option ℕ) : ';' ∉ decimal n ++ optionalField ':' value := by
    simp [not_mem_decimal (by decide : ';'.isDigit = false) n,
      not_mem_optionalField (by decide : ';'.isDigit = false) (by decide : ';' ≠ ':') value]
  rw [csiUBody, splitOn_append_cons (hnot codepoint shifted),
    splitOn_optionalField (by decide) (hnot modifier event)]

/-! ## A `CSI u` sequence is read -/

section

variable (key : TerminalKey) (kind : KeyEventKind) (codepoint : ℕ) (words : Option Text)

@[simp] theorem withKind_code : (key.withKind kind).code = key.code := by
  unfold TerminalKey.withKind
  split <;> rfl

@[simp] theorem withKind_kind : (key.withKind kind).kind = kind := by
  unfold TerminalKey.withKind
  split <;> rfl

@[simp] theorem withKind_modifiers : (key.withKind kind).modifiers = key.modifiers := by
  unfold TerminalKey.withKind
  split <;> rfl

@[simp] theorem withKind_shiftedCodepoint :
    (key.withKind kind).shiftedCodepoint = key.shiftedCodepoint := by
  unfold TerminalKey.withKind
  split <;> rfl

@[simp] theorem withShiftedCodepoint_code : (key.withShiftedCodepoint codepoint).code = key.code :=
  rfl

@[simp] theorem withShiftedCodepoint_kind : (key.withShiftedCodepoint codepoint).kind = key.kind :=
  rfl

@[simp] theorem withShiftedCodepoint_modifiers :
    (key.withShiftedCodepoint codepoint).modifiers = key.modifiers :=
  rfl

@[simp] theorem withShiftedCodepoint_shiftedCodepoint :
    (key.withShiftedCodepoint codepoint).shiftedCodepoint = some codepoint :=
  rfl

@[simp] theorem withGeneratedText_code : (key.withGeneratedText words).code = key.code :=
  rfl

@[simp] theorem withGeneratedText_kind : (key.withGeneratedText words).kind = key.kind :=
  rfl

@[simp] theorem withGeneratedText_modifiers :
    (key.withGeneratedText words).modifiers = key.modifiers :=
  rfl

@[simp] theorem withGeneratedText_shiftedCodepoint :
    (key.withGeneratedText words).shiftedCodepoint = key.shiftedCodepoint :=
  rfl

end

def KeyCode.isChar : KeyCode → Bool
  | .char _ => true
  | _ => false

/-- The modifiers a sequence is read with : a shifted code point of its own adds Shift. -/
def withReportedShift (mods : KeyModifiers) (code : KeyCode) (codepoint : ℕ)
    (shifted : Option ℕ) : KeyModifiers :=
  { mods with shift := mods.shift || (code.isChar && shifted.any (· != codepoint)) }

/-- What the kitty grammar makes of a `CSI u` sequence. -/
theorem parseKittyKeySequence_csiU {codepoint modifier event : ℕ} {shifted text : Option ℕ}
    {code : KeyCode} {kind : KeyEventKind} (hcodepoint : codepoint.isValidChar)
    (hmodifier : modifier + 1 ≤ 255) (hcode : kittyCodepointToKeycode codepoint = some code)
    (hkind : parseKittyEventType (some (decimal event)) = some kind)
    (htext : ∀ t ∈ text, (parseKittyAssociatedText (decimal t)).isSome) :
    ((∃ s ∈ shifted, ¬ s.isValidChar) →
      parseKittyKeySequence (csiU codepoint shifted (modifier + 1) (some event) text) = none) ∧
    ((∀ s ∈ shifted, s.isValidChar) → ∃ key,
      parseKittyKeySequence (csiU codepoint shifted (modifier + 1) (some event) text) = some key ∧
        key.code = code ∧ key.kind = kind ∧ key.shiftedCodepoint = shifted ∧
        key.modifiers = withReportedShift (keyModifiersFromU8 modifier) code codepoint shifted) := by
  have hkey := splitOn_optionalField (by decide : ':'.isDigit = false)
    (not_mem_decimal (by decide : ':'.isDigit = false) codepoint) shifted
  have hmod : parseModifier (decimal (modifier + 1)) = some modifier := by
    simp [parseModifier, parseU8_decimal hmodifier]
  have hnil : decimal (modifier + 1) ++ optionalField ':' (some event) ≠ [] := by
    simp [decimal_ne_nil]
  unfold parseKittyKeySequence
  rw [csiU_eq, stripPrefix_append]
  simp only [stripSuffix_append, splitOn_csiUBody, Option.bind_eq_bind, Option.bind_some,
    List.getElem?_cons_zero, List.getElem?_cons_succ, hkey]
  rw [Option.filter_some_pos (by simpa using hnil)]
  simp only [Option.getD_some, splitModifierAndEvent_decimal, hmod, Option.bind_some,
    parseKittyCodepoint_decimal, if_pos hcodepoint, hcode, hkind]
  have hfield (s : ℕ) : (some (decimal s)).filter (fun f => !f.isEmpty) = some (decimal s) :=
    Option.filter_some_pos (by simp [decimal_ne_nil])
  have hfinal (s : ℕ) :
      (if code.isChar = true ∧ ¬ s = codepoint then
          { keyModifiersFromU8 modifier with shift := true }
        else keyModifiersFromU8 modifier) =
        withReportedShift (keyModifiersFromU8 modifier) code codepoint (some s) := by
    split
    · rename_i hshift
      simp [withReportedShift, hshift.1, hshift.2]
    · rename_i hshift
      have hnone : (code.isChar && s != codepoint) = false := by simpa using hshift
      simp [withReportedShift, hnone]
  rcases text with _ | t
  · rcases shifted with _ | s
    · simp [withReportedShift, TerminalKey.new]
    · refine ⟨fun ⟨s', hs', hinvalid⟩ => ?_, fun hvalid => ?_⟩
      · obtain rfl : s = s' := by simpa using hs'
        simp [hfield, parseKittyCodepoint_decimal, hinvalid]
      · have hs : s.isValidChar := hvalid s rfl
        simp [hfield, parseKittyCodepoint_decimal, hs, charFromU32, TerminalKey.new]
        exact hfinal s
  · obtain ⟨words, hwords⟩ := Option.isSome_iff_exists.1 (htext t rfl)
    rcases shifted with _ | s
    · simp [hwords, withReportedShift, TerminalKey.new]
    · refine ⟨fun ⟨s', hs', hinvalid⟩ => ?_, fun hvalid => ?_⟩
      · obtain rfl : s = s' := by simpa using hs'
        simp [hfield, hwords, parseKittyCodepoint_decimal, hinvalid]
      · have hs : s.isValidChar := hvalid s rfl
        simp [hfield, hwords, parseKittyCodepoint_decimal, hs, charFromU32, TerminalKey.new]
        exact hfinal s

section

variable (codepoint : ℕ) (shifted : Option ℕ) (modifier : ℕ) (event text : Option ℕ)

theorem getLast?_csiU : (csiU codepoint shifted modifier event text).getLast? = some 'u' := by
  rw [csiU_eq, ← List.append_assoc, List.getLast?_append]
  rfl

/-- A text at the end of the sequence ends in its final letter. -/
theorem getLast?_of_suffix_csiU {s : Text} (h : s <:+ csiU codepoint shifted modifier event text)
    {c : Char} (hc : s.getLast? = some c) : c = 'u' := by
  obtain ⟨t, ht⟩ := h
  have hlast := congrArg List.getLast? ht
  rw [List.getLast?_append, hc, getLast?_csiU] at hlast
  simpa using hlast

theorem stripSuffix_csiU {s : Text} (h : s <:+ csiU codepoint shifted modifier event text) :
    stripSuffix "~" s = none := by
  rw [stripSuffix, if_neg]
  rw [List.isSuffixOf_iff_suffix]
  rintro ⟨t, rfl⟩
  have := getLast?_of_suffix_csiU _ _ _ _ _ h (c := '~') (by simp)
  simp at this

theorem stripPrefix_suffix {lead : String} {s rest : Text} (h : stripPrefix lead s = some rest) :
    rest <:+ s := by
  rw [stripPrefix] at h
  split at h
  · obtain rfl := Option.some_inj.1 h
    exact List.drop_suffix _ _
  · simp at h

/-- No other grammar reads the sequence. -/
theorem parseModifyOtherKeysSequence_csiU :
    parseModifyOtherKeysSequence (csiU codepoint shifted modifier event text) = none := by
  unfold parseModifyOtherKeysSequence
  rcases hstrip : stripPrefix "\x1b[27;" (csiU codepoint shifted modifier event text) with _ | rest
  · rfl
  · simp [stripSuffix_csiU _ _ _ _ _ (stripPrefix_suffix hstrip)]

theorem lookup_legacySpecialSequences :
    legacySpecialSequences.lookup
      (String.ofList (csiU codepoint shifted modifier event text)) = none := by
  rw [List.lookup_eq_none_iff]
  intro entry hentry
  have hall : ∀ e ∈ legacySpecialSequences,
      e.1.toList.getLast? ≠ some 'u' ∨ e.1.toList[1]? ≠ some '[' := by decide
  refine bne_iff_ne.2 fun heq => ?_
  have hlist : entry.1.toList = csiU codepoint shifted modifier event text := by
    rw [← heq, String.toList_ofList]
  rcases hall entry hentry with hlast | hsecond
  · exact hlast (hlist ▸ getLast?_csiU _ _ _ _ _)
  · exact hsecond (by simp [hlist, csiU_eq])

theorem parseXtermModifiedSpecialSequence_csiU :
    parseXtermModifiedSpecialSequence (csiU codepoint shifted modifier event text) = none := by
  unfold parseXtermModifiedSpecialSequence
  rcases hbody : stripPrefix "\x1b[" (csiU codepoint shifted modifier event text) with _ | body
  · rfl
  have hsuffix := stripPrefix_suffix hbody
  have htilde : parseXtermTildeSequence body = none := by
    simp [parseXtermTildeSequence, stripSuffix_csiU _ _ _ _ _ hsuffix]
  simp only [Option.bind_eq_bind, Option.bind_some, htilde]
  split
  · rename_i rest hrest
    rcases hlast : rest.getLast? with _ | suffixChar
    · rfl
    obtain rfl := getLast?_of_suffix_csiU _ _ _ _ _ ((stripPrefix_suffix hrest).trans hsuffix) hlast
    simp [parseXtermLetterSequence, hlast, xtermLetterKey]
  · rfl

theorem parseLegacyKeySequence_csiU :
    parseLegacyKeySequence (csiU codepoint shifted modifier event text) = none := by
  have hspecial : parseLegacySpecialSequence (csiU codepoint shifted modifier event text) = none := by
    rw [parseLegacySpecialSequence, lookup_legacySpecialSequences]
    exact parseXtermModifiedSpecialSequence_csiU _ _ _ _ _
  rw [parseLegacyKeySequence.eq_def, hspecial, csiU_eq]
  rcases hrest : csiUBody codepoint shifted modifier event text ++ "u".toList with _ | ⟨c, rest⟩
  · simp at hrest
  · rfl

end

/-! ## The code points of the keys -/

/-- A character that is no control character and no private-use code point of the protocol. -/
def Char.Plain (c : Char) : Prop :=
  isControl c = false ∧ ¬ (57344 ≤ c.toNat ∧ c.toNat ≤ 63743)

theorem lookup_kittyFunctionalKeys (h : ¬ (57358 ≤ n ∧ n ≤ 57454)) :
    kittyFunctionalKeys.lookup n = none := by
  rw [List.lookup_eq_none_iff]
  intro entry hentry
  have hrange : ∀ e ∈ kittyFunctionalKeys, 57358 ≤ e.1 ∧ e.1 ≤ 57454 := by decide
  exact bne_iff_ne.2 fun heq => h (heq ▸ hrange entry hentry)

theorem kittyCodepointToKeycode_plain (h : Char.Plain c) :
    kittyCodepointToKeycode c.toNat = some (.char c) := by
  obtain ⟨hcontrol, hrange⟩ := h
  simp only [isControl, Bool.or_eq_false_iff, Bool.and_eq_false_iff, decide_eq_false_iff_not] at hcontrol
  have hvalid : c.toNat.isValidChar := c.valid
  unfold kittyCodepointToKeycode
  rw [if_neg (by omega), if_neg (by omega), if_neg (by omega), if_neg (by omega),
    if_neg (by omega), lookup_kittyFunctionalKeys (by omega)]
  have hfunctional : isKittyFunctionalCodepoint c.toNat = false := by
    simp only [isKittyFunctionalCodepoint, Bool.and_eq_false_iff, decide_eq_false_iff_not]
    omega
  simp [hfunctional, charFromU32, hvalid]

theorem plain_toLower (h : c.isUpper = true) :
    Char.Plain c.toLower ∧ c.toLower.toLower = c.toLower := by
  have hall : ∀ n < 91, 65 ≤ n →
      (isControl (Char.ofNat n).toLower = false ∧
        ¬ (57344 ≤ (Char.ofNat n).toLower.toNat ∧ (Char.ofNat n).toLower.toNat ≤ 63743)) ∧
        (Char.ofNat n).toLower.toLower = (Char.ofNat n).toLower := by decide
  have hrange : 65 ≤ c.toNat ∧ c.toNat ≤ 90 := by
    have hletter : decide (c.val ≥ 'A'.val ∧ c.val ≤ 'Z'.val) = true := h
    simpa [UInt32.le_iff_toNat_le] using hletter
  have := hall c.toNat (by omega) hrange.1
  rwa [Char.ofNat_toNat] at this

theorem keyModifiersFromU8_kittyModifier (mods : KeyModifiers) :
    ∃ modifier, kittyModifier mods = modifier + 1 ∧ modifier + 1 ≤ 255 ∧
      keyModifiersFromU8 modifier = mods := by
  refine ⟨kittyModifier mods - 1, ?_⟩
  revert mods
  rintro ⟨_ | _, _ | _, _ | _, _ | _, _ | _, _ | _⟩ <;> decide

/-! ## What is sent is read -/

/-- The keys with a code of their own : the characters that are no control characters and not among
the private-use code points of the protocol, the named keys, and the function keys to F12. -/
def KeyCode.Sent : KeyCode → Prop
  | .char c => Char.Plain c
  | .enter | .tab | .backspace | .esc | .up | .down | .left | .right | .home | .«end» => True
  | .pageUp | .pageDown | .insert | .delete => True
  | .f n => 1 ≤ n ∧ n ≤ 12
  | _ => False

/-- The program reads what it is sent. -/
def readBack (key : TerminalKey) (flags : ℕ) : Option TerminalKey :=
  (decodeUtf8 (encodeTerminalKey key (.kitty flags))).bind parseTerminalKeySequence

/-- The same code, but for the case of a letter under Shift. -/
def SameCode (mods : KeyModifiers) (code code' : KeyCode) : Prop :=
  code' = code ∨ mods.shift = true ∧
    ∃ c c', code = .char c ∧ code' = .char c' ∧ c'.toLower = c.toLower

/-- The shifted code point that is reported : none for a key that is no character. -/
def reportedShift (key : TerminalKey) (flags : ℕ) : Option ℕ :=
  if key.code.isChar then alternateShiftedCodepoint key flags else none

/-- A shifted code point is reported that is not the character's own. -/
def reportsOtherCharacter (key : TerminalKey) (flags : ℕ) : Bool :=
  match key.code with
  | .char c => (alternateShiftedCodepoint key flags).any (· != c.toNat)
  | _ => false

/-- The code point a character is reported as, and the code it is read as. -/
theorem csiUCodepoints_char {key : TerminalKey} (flags : ℕ) (hcode : key.code = .char c)
    (h : Char.Plain c) : csiUCodepoints key flags =
        some ((canonicalKittyChar c key.modifiers).toNat, reportedShift key flags) ∧
      kittyCodepointToKeycode (canonicalKittyChar c key.modifiers).toNat =
        some (.char (canonicalKittyChar c key.modifiers)) ∧
      SameCode key.modifiers key.code (.char (canonicalKittyChar c key.modifiers)) := by
  refine ⟨?_, ?_, ?_⟩
  · simp [csiUCodepoints, reportedShift, hcode, KeyCode.isChar]
  · refine kittyCodepointToKeycode_plain ?_
    unfold canonicalKittyChar
    split
    · rename_i hupper
      exact (plain_toLower (by simp at hupper; exact hupper.2)).1
    · exact h
  · unfold canonicalKittyChar
    split
    · rename_i hupper
      obtain ⟨hshift, hupper⟩ : key.modifiers.shift = true ∧ c.isUpper = true := by simpa using hupper
      exact .inr ⟨hshift, c, c.toLower, hcode, rfl, (plain_toLower hupper).2⟩
    · exact .inl hcode.symm

theorem csiUCodepoints_named {key : TerminalKey} (flags : ℕ) (h : key.code.Sent)
    (hf : ∀ n, key.code ≠ .f n) (hchar : key.code.isChar = false) :
    ∃ codepoint, csiUCodepoints key flags = some (codepoint, none) ∧ codepoint.isValidChar ∧
      kittyCodepointToKeycode codepoint = some key.code := by
  rw [csiUCodepoints.eq_def]
  cases hcode : key.code with
  | char c => simp [hcode, KeyCode.isChar] at hchar
  | f n => exact absurd hcode (hf n)
  | backTab | capsLock | scrollLock | numLock | printScreen | pause | menu | keypadBegin
  | media | modifier => exact False.elim (hcode ▸ h :)
  | _ => exact ⟨_, rfl, by decide, by decide⟩

theorem kittyEventSuffix_eq {key : TerminalKey} (h : reportEventTypes flags = true) :
    ∃ event, kittyEventSuffix key flags = some event ∧
      parseKittyEventType (some (decimal event)) = some key.kind := by
  unfold kittyEventSuffix
  rw [h, Bool.not_true, if_neg Bool.false_ne_true]
  rcases key.kind
  · exact ⟨1, rfl, by decide⟩
  · exact ⟨2, rfl, by decide⟩
  · exact ⟨3, rfl, by decide⟩

/-- The text of a key is no control character. -/
theorem textCodepointForKey_read {key : TerminalKey} {t : ℕ} (h : t ∈ textCodepointForKey key) :
    (parseKittyAssociatedText (decimal t)).isSome := by
  obtain ⟨ch, -, hch⟩ := Option.bind_eq_some_iff.1 h
  rcases hcontrol : isControl ch with _ | _
  · rw [hcontrol, if_neg Bool.false_ne_true] at hch
    rw [← Option.some_inj.1 hch, parseKittyAssociatedText_decimal hcontrol]
    rfl
  · simp [hcontrol] at hch

/-- A key with a code point is sent as `CSI u`. -/
theorem encodeTerminalKey_csiU {key : TerminalKey} {codepoint : ℕ} {shifted : Option ℕ}
    (hgenerated : key.generatedText = none) (hall : reportAllKeys flags = true)
    (hevents : reportEventTypes flags = true)
    (hcodepoint : csiUCodepoints key flags = some (codepoint, shifted)) :
    encodeTerminalKey key (.kitty flags) =
      encodeUtf8 (csiU codepoint shifted (kittyModifier key.modifiers) (kittyEventSuffix key flags)
        (if reportAssociatedText flags then textCodepointForKey key else none)) := by
  have hcsi : tryEncodeCsiU key flags =
      some (encodeUtf8 (csiU codepoint shifted (kittyModifier key.modifiers)
        (kittyEventSuffix key flags)
        (if reportAssociatedText flags then textCodepointForKey key else none))) := by
    simp [tryEncodeCsiU, hall, hcodepoint]
  simp [encodeTerminalKey, hgenerated, KeyboardProtocol.reportsAllKeys,
    KeyboardProtocol.reportsEventTypes, KeyboardProtocol.encodeCsiU, hall, hevents, hcsi]

/-- What a key with a code point comes back as. -/
theorem readBack_csiU {key : TerminalKey} {codepoint : ℕ} {shifted : Option ℕ} {code : KeyCode}
    (hgenerated : key.generatedText = none) (hall : reportAllKeys flags = true)
    (hevents : reportEventTypes flags = true)
    (hcodepoint : csiUCodepoints key flags = some (codepoint, shifted))
    (hvalid : codepoint.isValidChar) (hcode : kittyCodepointToKeycode codepoint = some code) :
    ((∃ s ∈ shifted, ¬ s.isValidChar) → readBack key flags = none) ∧
    ((∀ s ∈ shifted, s.isValidChar) → ∃ key', readBack key flags = some key' ∧
      key'.code = code ∧ key'.kind = key.kind ∧ key'.shiftedCodepoint = shifted ∧
      key'.modifiers = withReportedShift key.modifiers code codepoint shifted) := by
  obtain ⟨event, hevent, hkind⟩ : ∃ event, kittyEventSuffix key flags = some event ∧ _ :=
    kittyEventSuffix_eq hevents
  obtain ⟨modifier, hmodifier, hle, hmods⟩ := keyModifiersFromU8_kittyModifier key.modifiers
  have hread : readBack key flags = parseTerminalKeySequence
      (csiU codepoint shifted (modifier + 1) (some event)
        (if reportAssociatedText flags then textCodepointForKey key else none)) := by
    rw [readBack, encodeTerminalKey_csiU hgenerated hall hevents hcodepoint,
      decodeUtf8_encodeUtf8, hevent, hmodifier]
    rfl
  have htext : ∀ t ∈ (if reportAssociatedText flags then textCodepointForKey key else none),
      (parseKittyAssociatedText (decimal t)).isSome := by
    split
    · exact fun t ht => textCodepointForKey_read ht
    · simp
  obtain ⟨hnone, hsome⟩ := parseKittyKeySequence_csiU hvalid hle hcode hkind htext
  rw [hread, parseTerminalKeySequence, parseModifyOtherKeysSequence_csiU,
    parseLegacyKeySequence_csiU, Option.or_none, Option.or_none, ← hmods]
  exact ⟨hnone, hsome⟩

/-! ## Function keys -/

/-- The legacy form of a function key. -/
theorem encodeLegacy_f {key : TerminalKey} (hcode : key.code = .f n) (hn : 1 ≤ n ∧ n ≤ 12) :
    encodeLegacy key = (encodeModifiedSpecial (.f n)
      { shift := key.modifiers.shift, alt := key.modifiers.alt,
        control := key.modifiers.control }).getD (encodeFKey n) := by
  have hsame : encodeModifiedSpecial (.f n) key.modifiers = encodeModifiedSpecial (.f n)
      { shift := key.modifiers.shift, alt := key.modifiers.alt,
        control := key.modifiers.control } := rfl
  rw [← hsame]
  by_cases hplain : xtermModifier key.modifiers ≤ 1
  · have hnone : encodeModifiedSpecial (.f n) key.modifiers = none := by
      simp [encodeModifiedSpecial, hplain]
    have halt : key.modifiers.alt = false := by
      rcases halt : key.modifiers.alt
      · rfl
      · simp only [xtermModifier, halt, Bool.toNat_true] at hplain
        omega
    simp [encodeLegacy, hcode, hnone, halt, encodeLegacyInner]
  · have hne : key.modifiers ≠ {} := by
      rintro h
      simp [h, xtermModifier] at hplain
    obtain ⟨bytes, hbytes⟩ : ∃ bytes, encodeModifiedSpecial (.f n) key.modifiers = some bytes := by
      have hcases : n = 1 ∨ n = 2 ∨ n = 3 ∨ n = 4 ∨ n = 5 ∨ n = 6 ∨ n = 7 ∨ n = 8 ∨ n = 9 ∨
          n = 10 ∨ n = 11 ∨ n = 12 := by omega
      rcases hcases with rfl | rfl | rfl | rfl | rfl | rfl | rfl | rfl | rfl | rfl | rfl | rfl <;>
        exact ⟨_, if_neg hplain⟩
    simp [encodeLegacy, hcode, hne, hbytes]

theorem readLegacy_f : ∀ n < 13, 1 ≤ n → ∀ shift alt control,
    (decodeUtf8 ((encodeModifiedSpecial (.f n) { shift, alt, control }).getD (encodeFKey n))).bind
      parseTerminalKeySequence = some (.new (.f n) { shift, alt, control }) := by
  decide +kernel

/-- What a function key comes back as : nothing of a release, and of the rest a press with the
modifiers that the legacy form has. -/
theorem readBack_f {key : TerminalKey} (hcode : key.code = .f n) (hn : 1 ≤ n ∧ n ≤ 12)
    (hgenerated : key.generatedText = none) (hall : reportAllKeys flags = true)
    (hevents : reportEventTypes flags = true) : (key.kind = .release →
      encodeTerminalKey key (.kitty flags) = [] ∧ readBack key flags = none) ∧
    (key.kind ≠ .release → readBack key flags = some (.new (.f n)
      { shift := key.modifiers.shift, alt := key.modifiers.alt,
        control := key.modifiers.control })) := by
  have hcsi : tryEncodeCsiU key flags = none := by
    simp [tryEncodeCsiU, csiUCodepoints, hcode]
  have htext : encodeTextInput key = none := by
    simp [encodeTextInput, textCharForKey, hcode]
  constructor
  · intro hkind
    have hempty : encodeTerminalKey key (.kitty flags) = [] := by
      simp [encodeTerminalKey, hkind, KeyboardProtocol.reportsEventTypes,
        KeyboardProtocol.reportsAllKeys, KeyboardProtocol.encodeCsiU, hall, hevents, hcsi, htext]
    refine ⟨hempty, ?_⟩
    rw [readBack, hempty]
    decide
  · intro hkind
    have hlegacy : encodeTerminalKey key (.kitty flags) = encodeLegacy key := by
      simp [encodeTerminalKey, hkind, hgenerated, KeyboardProtocol.reportsEventTypes,
        KeyboardProtocol.reportsAllKeys, KeyboardProtocol.encodeCsiU, hall, hcsi, htext]
    rw [readBack, hlegacy, encodeLegacy_f hcode hn]
    exact readLegacy_f n (by omega) hn.1 _ _ _

/-! ## The round trip -/

/-- The modifiers a character comes back with. -/
theorem withReportedShift_char {key : TerminalKey} (hcode : key.code = .char c) :
    withReportedShift key.modifiers (.char (canonicalKittyChar c key.modifiers))
        (canonicalKittyChar c key.modifiers).toNat (reportedShift key flags) =
      { key.modifiers with
        shift := key.modifiers.shift || reportsOtherCharacter key flags } := by
  rcases hshift : key.modifiers.shift with _ | _
  · have hc : canonicalKittyChar c key.modifiers = c := by simp [canonicalKittyChar, hshift]
    simp [withReportedShift, hc, hshift, reportsOtherCharacter, reportedShift, hcode,
      KeyCode.isChar]
  · simp [withReportedShift, hshift]

/-- The round trip that is asked of a key. -/
def RoundTrips (key : TerminalKey) (flags : ℕ) : Prop :=
  ∃ key', readBack key flags = some key' ∧ SameCode key.modifiers key.code key'.code ∧
    key'.modifiers = key.modifiers ∧ key'.kind = key.kind ∧
    (reportAlternateKeys flags = true → key'.shiftedCodepoint = key.shiftedCodepoint)

/-- A capital sent with Shift and no shifted code point comes back with one, and a character that
reports another one as its shifted form comes back with Shift. -/
theorem not_roundTrips :
    ¬ RoundTrips (.new (.char 'A') { shift := true }) 31 ∧
    ¬ RoundTrips ((TerminalKey.new (.char 'a') {}).withShiftedCodepoint 65) 31 := by
  constructor
  · rintro ⟨key', hkey, -, -, -, hshifted⟩
    have hread : (readBack (.new (.char 'A') { shift := true }) 31).bind (·.shiftedCodepoint) =
        some 65 := by decide
    rw [hkey, Option.bind_some, hshifted (by decide)] at hread
    simp [TerminalKey.new] at hread
  · rintro ⟨key', hkey, -, hmods, -⟩
    have hread : (readBack ((TerminalKey.new (.char 'a') {}).withShiftedCodepoint 65) 31).map
        (·.modifiers.shift) = some true := by decide
    rw [hkey, Option.map_some, hmods] at hread
    simp [TerminalKey.new] at hread

/-- With all keys and event types reported a key that is no function key comes back with the same
code, kind and modifiers, and with the shifted code point that was reported; where that is not the
character's own the key has Shift, and where it is no character nothing comes back. A function key
that is pressed with no modifiers but Shift, Alt and Control comes back the same. -/
theorem key_round_trip (key : TerminalKey) (flags : ℕ) (hcode : key.code.Sent)
    (hgenerated : key.generatedText = none) (hall : reportAllKeys flags = true)
    (hevents : reportEventTypes flags = true) :
    ((∀ n, key.code ≠ .f n) →
      ((∃ s ∈ reportedShift key flags, ¬ s.isValidChar) → readBack key flags = none) ∧
      ((∀ s ∈ reportedShift key flags, s.isValidChar) → ∃ key', readBack key flags = some key' ∧
        SameCode key.modifiers key.code key'.code ∧
        key'.modifiers = { key.modifiers with
          shift := key.modifiers.shift || reportsOtherCharacter key flags } ∧
        key'.kind = key.kind ∧ key'.shiftedCodepoint = reportedShift key flags)) ∧
    (∀ n, key.code = .f n → key.kind = .press → key.modifiers.super = false →
      key.modifiers.hyper = false → key.modifiers.metaKey = false →
      readBack key flags = some (.new (.f n) key.modifiers)) := by
  refine ⟨fun hf => ?_, fun n hn hpress hsuper hhyper hmeta => ?_⟩
  · rcases hchar : key.code.isChar with _ | _
    · obtain ⟨codepoint, hcodepoint, hvalid, hread⟩ := csiUCodepoints_named flags hcode hf hchar
      have hnone : reportedShift key flags = none := by simp [reportedShift, hchar]
      have hother : reportsOtherCharacter key flags = false := by
        unfold reportsOtherCharacter
        split
        · simp [KeyCode.isChar, *] at hchar
        · rfl
      obtain ⟨-, hsome⟩ := readBack_csiU hgenerated hall hevents hcodepoint hvalid hread
      obtain ⟨key', hkey, hcode', hkind, hshifted, hmods⟩ := hsome (by simp)
      rw [hnone]
      refine ⟨by simp, fun _ => ⟨key', hkey, .inl hcode', ?_, hkind, hshifted⟩⟩
      simpa [withReportedShift, hother] using hmods
    · obtain ⟨c, hc⟩ : ∃ c, key.code = .char c := by
        unfold KeyCode.isChar at hchar
        split at hchar
        · exact ⟨_, ‹_›⟩
        · simp at hchar
      have hplain : Char.Plain c := by
        rw [hc] at hcode
        exact hcode
      obtain ⟨hcodepoint, hread, hsame⟩ := csiUCodepoints_char flags hc hplain
      obtain ⟨hnone, hsome⟩ := readBack_csiU hgenerated hall hevents hcodepoint
        (canonicalKittyChar c key.modifiers).valid hread
      refine ⟨hnone, fun hvalid => ?_⟩
      obtain ⟨key', hkey, hcode', hkind, hshifted, hmods⟩ := hsome hvalid
      exact ⟨key', hkey, hcode' ▸ hsame, hmods.trans (withReportedShift_char hc), hkind, hshifted⟩
  · have hrange : 1 ≤ n ∧ n ≤ 12 := by
      rw [hn] at hcode
      exact hcode
    have hmods : key.modifiers =
        { shift := key.modifiers.shift, alt := key.modifiers.alt,
          control := key.modifiers.control } := by
      rcases hm : key.modifiers with ⟨shift, control, alt, super, hyper, metaKey⟩
      simp_all
    rw [(readBack_f hn hrange hgenerated hall hevents).2 (by simp [hpress]), ← hmods]

theorem key_round_trip_capital :
    ∃ key', readBack (.new (.char 'A') { shift := true }) 31 = some key' ∧
      SameCode { shift := true } (.char 'A') key'.code ∧ key'.modifiers = { shift := true } ∧
      key'.kind = .press ∧ key'.shiftedCodepoint = some 65 :=
  ((key_round_trip (.new (.char 'A') { shift := true }) 31 ⟨by decide, by decide⟩ rfl rfl rfl).1
    (by simp [TerminalKey.new])).2 (by decide)

end Zynk
