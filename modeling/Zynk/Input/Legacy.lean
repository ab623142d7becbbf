import Zynk.Input.Encode

/-!
# What a legacy key sends

A character key is sent as the UTF-8 of its character, after an escape with Alt
(`encodeLegacy_char`). With Ctrl it is sent as one byte, and a character outside ASCII is cut to its
low byte. `legacy_own_text` says that this is the only case where a key does not send its own text;
`sends_carriage_return` is such a key.
-/

namespace Zynk

open Text

/-! ## Characters -/

/-- The character that Ctrl takes a character for; a letter is taken for its uppercase. -/
def controlAlias (c : Char) : Char :=
  match c with
  | '@' | '2' => ' '
  | '3' => '['
  | '4' => '\\'
  | '5' => ']'
  | '6' => '^'
  | '/' | '7' | '-' => '_'
  | c => c.toUpper

/-- Two characters differ in ASCII case only, or are aliases with Ctrl. -/
def SameKey (c d : Char) : Prop :=
  controlAlias c = controlAlias d

/-- Shift is held, and no other modifier but perhaps Alt. -/
def TerminalKey.shiftsText (key : TerminalKey) : Bool :=
  { key.modifiers with alt := false } = ({ shift := true } : KeyModifiers)

/-- The character a key stands for : with Shift the one that was reported for it. -/
def ownChar (key : TerminalKey) (ch : Char) : Char :=
  if key.shiftsText then (key.shiftedCodepoint.bind charFromU32).getD ch else ch

/-- The character that is sent without Ctrl. -/
def typedChar (key : TerminalKey) (ch : Char) : Char :=
  if key.shiftsText then (shiftedTextChar key ch).getD ch else ch

theorem typedChar_cases (key : TerminalKey) (ch : Char) :
    typedChar key ch = ownChar key ch ∨ typedChar key ch = (ownChar key ch).toUpper := by
  unfold typedChar ownChar shiftedTextChar
  split
  · cases key.shiftedCodepoint.bind charFromU32 with
    | some shifted => exact Or.inl rfl
    | none =>
      simp only [Option.getD_none]
      split_ifs
      · exact Or.inl rfl
      · exact Or.inr rfl
      · exact Or.inl rfl
      · exact Or.inl rfl
  · exact Or.inl rfl

theorem toUpper_of_le {c : Char} (hc : 128 ≤ c.toNat) : c.toUpper = c := by
  have hc' : 128 ≤ c.val.toNat := hc
  delta Char.toUpper
  rw [dif_neg]
  rintro ⟨-, h⟩
  have hle : c.val.toNat ≤ 122 := UInt32.le_iff_toNat_le.1 h
  omega

theorem controlAlias_toUpper (c : Char) : controlAlias c.toUpper = controlAlias c := by
  by_cases hc : c.toNat < 128
  · have hall : ∀ n < 128, controlAlias (Char.ofNat n).toUpper = controlAlias (Char.ofNat n) := by
      decide +kernel
    have hone := hall c.toNat hc
    rwa [Char.ofNat_toNat] at hone
  · rw [toUpper_of_le (by omega)]

theorem controlAlias_typedChar (key : TerminalKey) (ch : Char) :
    controlAlias (typedChar key ch) = controlAlias (ownChar key ch) := by
  rcases typedChar_cases key ch with h | h
  · rw [h]
  · rw [h, controlAlias_toUpper]

/-! ## Control bytes -/

/-- The character that a byte stands for, as far as Ctrl tells them apart. -/
def controlAliasOfByte (b : UInt8) : Char :=
  if b.toNat = 0 then ' '
  else if b.toNat < 32 then Char.ofNat (b.toNat + 64)
  else Char.ofNat b.toNat

theorem encodeControlChar_ascii {c : Char} (hc : c.toNat < 128) :
    ∃ b, b.toNat < 128 ∧ encodeControlChar c = [b] ∧
      (32 ≤ c.toNat → controlAliasOfByte b = controlAlias c) := by
  have hall : ∀ n < 128, ((encodeControlChar (Char.ofNat n)).headD 0).toNat < 128 ∧
      encodeControlChar (Char.ofNat n) = [(encodeControlChar (Char.ofNat n)).headD 0] ∧
      (32 ≤ n → controlAliasOfByte ((encodeControlChar (Char.ofNat n)).headD 0) =
        controlAlias (Char.ofNat n)) := by
    decide +kernel
  have hone := hall c.toNat hc
  rw [Char.ofNat_toNat] at hone
  exact ⟨_, hone⟩

/-- A character outside ASCII is cut to its low byte. -/
theorem encodeControlChar_cut {c : Char} (hc : 128 ≤ c.toNat) :
    encodeControlChar c = [UInt8.ofNat c.toNat] := by
  have hupper : c.isUpper = false := by
    delta Char.isUpper
    rw [decide_eq_false_iff_not]
    rintro ⟨-, h⟩
    have hle : c.val.toNat ≤ 90 := UInt32.le_iff_toNat_le.1 h
    have hval : c.val.toNat = c.toNat := rfl
    omega
  have hmem {s : Text} (hs : s.all (fun d ↦ d.toNat < 128) = true) : s.contains c = false := by
    rw [Bool.eq_false_iff]
    intro h
    have hlt := of_decide_eq_true (List.all_eq_true.1 hs c (List.contains_iff_mem.1 h))
    omega
  simp only [encodeControlChar, toUpper_of_le hc, hupper]
  rw [hmem (by decide), hmem (by decide), hmem (by decide), hmem (by decide), hmem (by decide),
    hmem (by decide)]
  rfl

/-! ## The encoding -/

/-- What a character key is sent as. -/
theorem encodeLegacy_char {key : TerminalKey} {ch : Char} (h : key.code = .char ch) :
    encodeLegacy key = (if key.modifiers.alt then [27] else []) ++
      if key.modifiers.control then encodeControlChar ch else encodeUtf8 [typedChar key ch] := by
  have hspecial (mods : KeyModifiers) : encodeModifiedSpecial (.char ch) mods = none := by
    simp [encodeModifiedSpecial]
  have hinner {key' : TerminalKey} (h' : key'.code = .char ch) : encodeLegacyInner key' =
      if key'.modifiers.control then encodeControlChar ch
      else encodeUtf8 [if key'.modifiers = { shift := true } then (shiftedTextChar key' ch).getD ch
        else ch] := by
    simp only [encodeLegacyInner, h']
    split_ifs <;> rfl
  have hnone : (if key.modifiers = {} then none else encodeModifiedSpecial key.code key.modifiers) =
      none := by
    rw [h, hspecial, ite_self]
  simp only [encodeLegacy, hnone, typedChar, TerminalKey.shiftsText, decide_eq_true_eq]
  cases halt : key.modifiers.alt with
  | true =>
    simp only [if_true, List.singleton_append]
    rw [@hinner { key with modifiers := { key.modifiers with alt := false } } h]
    rfl
  | false =>
    have hsame : { key.modifiers with alt := false } = key.modifiers := by
      rw [← halt]
    simp only [Bool.false_eq_true, if_false, List.nil_append, hsame]
    exact hinner h

/-! ## A key's own text -/

/-- The bytes of a character key are UTF-8, and those of a character outside ASCII with Ctrl are not
the ones of an ASCII key and no control byte. -/
structure SendsOwnText (key : TerminalKey) (ch : Char) : Prop where
  utf8 : (decodeUtf8 (encodeLegacy key)).isSome = true
  ascii : key.modifiers.control = true → 128 ≤ ch.toNat → ∀ other a, other.code = .char a →
    a.toNat < 128 → encodeLegacy other ≠ encodeLegacy key
  control : key.modifiers.control = true → 128 ≤ ch.toNat → ∀ b : UInt8,
    b.toNat < 32 ∨ b.toNat = 127 → encodeLegacy key ≠ [b]

/-- Behind an escape or not, the same bytes are valid. -/
theorem decodeUtf8_escaped (alt : Bool) (x : Bytes) :
    (decodeUtf8 ((if alt then [27] else []) ++ x)).isSome = (decodeUtf8 x).isSome := by
  cases alt with
  | true =>
    rw [if_pos rfl, List.singleton_append, decodeUtf8.eq_def]
    simp only [show sequenceLen 27 = some 1 from rfl, Option.isSome_map]
  | false => rfl

theorem decodeUtf8_byte (b : UInt8) : (decodeUtf8 [b]).isSome = decide (b.toNat < 128) := by
  have hall : ∀ n < 256, (decodeUtf8 [UInt8.ofNat n]).isSome = decide (n < 128) := by
    decide +kernel
  have hone := hall b.toNat b.toNat_lt
  rwa [UInt8.ofNat_toNat] at hone

/-- A key sends its own text unless Ctrl is held and its character is outside ASCII. -/
theorem sendsOwnText_iff {key : TerminalKey} {ch : Char} (h : key.code = .char ch) :
    SendsOwnText key ch ↔ (key.modifiers.control = true → ch.toNat < 128) := by
  constructor
  · intro hown hcontrol
    by_contra hch
    have hcut : encodeLegacy key =
        (if key.modifiers.alt then [27] else []) ++ [UInt8.ofNat ch.toNat] := by
      rw [encodeLegacy_char h, if_pos hcontrol, encodeControlChar_cut (by omega)]
    have hvalid := hown.utf8
    rw [hcut, decodeUtf8_escaped, decodeUtf8_byte, decide_eq_true_eq] at hvalid
    -- What is left is the byte of an ASCII character, and so are the bytes of its key.
    generalize UInt8.ofNat ch.toNat = b at hcut hvalid
    have hnat : (Char.ofNat b.toNat).toNat = b.toNat := by
      rw [Char.ofNat, dif_pos (show b.toNat.isValidChar from Or.inl (by omega))]
      rfl
    have hbytes : encodeUtf8 [Char.ofNat b.toNat] = [b] := by
      rw [encodeUtf8_cons (by omega), hnat, UInt8.ofNat_toNat]
      rfl
    refine hown.ascii hcontrol (by omega)
      (.new (.char (Char.ofNat b.toNat)) { alt := key.modifiers.alt }) _ rfl (by omega) ?_
    rw [encodeLegacy_char rfl, hcut, ← hbytes]
    rfl
  · intro hascii
    refine ⟨?_, fun hcontrol hch => absurd (hascii hcontrol) (by omega),
      fun hcontrol hch => absurd (hascii hcontrol) (by omega)⟩
    rw [encodeLegacy_char h, decodeUtf8_escaped]
    split
    · rename_i hcontrol
      obtain ⟨b, hb, hbytes, -⟩ := encodeControlChar_ascii (hascii hcontrol)
      rw [hbytes, decodeUtf8_byte, decide_eq_true_eq]
      exact hb
    · rw [decodeUtf8_encodeUtf8]
      rfl

/-! ## Two keys -/

theorem encodeUtf8_injective {s t : Text} (h : encodeUtf8 s = encodeUtf8 t) : s = t := by
  have hdecode := congrArg decodeUtf8 h
  rw [decodeUtf8_encodeUtf8, decodeUtf8_encodeUtf8] at hdecode
  exact Option.some.inj hdecode

theorem ownChar_of_control {key : TerminalKey} (h : key.modifiers.control = true) (ch : Char) :
    ownChar key ch = ch := by
  have hshift : key.shiftsText = false := by
    rw [TerminalKey.shiftsText, decide_eq_false_iff_not]
    intro hmods
    have hcontrol := congrArg KeyModifiers.control hmods
    simp only [h] at hcontrol
    cases hcontrol
  rw [ownChar, hshift, if_neg Bool.false_ne_true]

/-- Under the same modifiers only keys of the same character are sent alike, where Ctrl is not held
or the characters are of ASCII and no control characters. -/
theorem sameKey_of_encodeLegacy_eq {key key' : TerminalKey} {c d : Char} (hc : key.code = .char c)
    (hd : key'.code = .char d) (hmods : key.modifiers = key'.modifiers)
    (hascii : key.modifiers.control = true →
      (32 ≤ c.toNat ∧ c.toNat < 128) ∧ (32 ≤ d.toNat ∧ d.toNat < 128))
    (h : encodeLegacy key = encodeLegacy key') : SameKey (ownChar key c) (ownChar key' d) := by
  rw [encodeLegacy_char hc, encodeLegacy_char hd, ← hmods] at h
  have hbytes := List.append_cancel_left h
  cases hcontrol : key.modifiers.control with
  | true =>
    obtain ⟨⟨hc32, hc128⟩, hd32, hd128⟩ := hascii hcontrol
    obtain ⟨b, -, hb, hcalias⟩ := encodeControlChar_ascii hc128
    obtain ⟨b', -, hb', hdalias⟩ := encodeControlChar_ascii hd128
    rw [hcontrol, if_pos rfl, if_pos rfl, hb, hb'] at hbytes
    obtain rfl : b = b' := (List.cons.inj hbytes).1
    rw [ownChar_of_control hcontrol, ownChar_of_control (hmods ▸ hcontrol), SameKey,
      ← hcalias hc32, hdalias hd32]
  | false =>
    rw [hcontrol, if_neg Bool.false_ne_true, if_neg Bool.false_ne_true] at hbytes
    have htyped := (List.cons.inj (encodeUtf8_injective hbytes)).1
    rw [SameKey, ← controlAlias_typedChar, htyped, controlAlias_typedChar]

/-- Under the modifiers no two keys of different characters are sent alike. -/
def KeepsApart (mods : KeyModifiers) : Prop :=
  ∀ (key key' : TerminalKey) (c d : Char), key.code = .char c → key'.code = .char d →
    key.modifiers = mods → key'.modifiers = mods → encodeLegacy key = encodeLegacy key' →
    SameKey (ownChar key c) (ownChar key' d)

theorem keepsApart_iff (mods : KeyModifiers) : KeepsApart mods ↔ mods.control = false := by
  constructor
  · intro hapart
    rw [Bool.eq_false_iff]
    intro hcontrol
    -- The low byte of `ā` is the control byte of `a`.
    have hsame : encodeLegacy (.new (.char 'a') mods) = encodeLegacy (.new (.char 'ā') mods) := by
      rw [encodeLegacy_char rfl, encodeLegacy_char rfl]
      show _ ++ (if mods.control then _ else _) = _ ++ (if mods.control then _ else _)
      rw [if_pos hcontrol, if_pos hcontrol]
      rfl
    have hkey := hapart _ _ _ _ rfl rfl rfl rfl hsame
    rw [ownChar_of_control hcontrol, ownChar_of_control hcontrol] at hkey
    revert hkey
    unfold SameKey
    decide
  · rintro hcontrol key key' c d hc hd rfl hmods h
    refine sameKey_of_encodeLegacy_eq hc hd hmods.symm (fun htrue => ?_) h
    rw [hcontrol] at htrue
    cases htrue

/-- A character key sends its own text unless Ctrl is held and its character is outside ASCII. The
keys of two characters are kept apart under all modifiers without Ctrl, and with Ctrl where the
characters are of ASCII and no control characters. -/
theorem legacy_own_text (key key' : TerminalKey) (c d : Char) (mods : KeyModifiers) :
    (key.code = .char c →
      (SendsOwnText key c ↔ (key.modifiers.control = true → c.toNat < 128))) ∧
    (KeepsApart mods ↔ mods.control = false) ∧
    (key.code = .char c → key'.code = .char d → key.modifiers = key'.modifiers →
      (key.modifiers.control = true →
        (32 ≤ c.toNat ∧ c.toNat < 128) ∧ (32 ≤ d.toNat ∧ d.toNat < 128)) →
      encodeLegacy key = encodeLegacy key' → SameKey (ownChar key c) (ownChar key' d)) :=
  ⟨sendsOwnText_iff, keepsApart_iff mods, sameKey_of_encodeLegacy_eq⟩

/-- `Ctrl+č` is a carriage return. -/
theorem sends_carriage_return :
    encodeLegacy (.new (.char 'č') { control := true }) = [13] ∧
      encodeLegacy (.new (.char 'č') { control := true }) = encodeLegacy (.new .enter {}) ∧
      ¬ SendsOwnText (.new (.char 'č') { control := true }) 'č' := by
  refine ⟨by decide, by decide, fun hown => ?_⟩
  exact hown.control rfl (by decide) 13 (by decide) (by decide)

/-- `Ctrl+c` and `Ctrl+C` send their own text. -/
theorem legacy_own_text_c :
    SendsOwnText (.new (.char 'c') { control := true }) 'c' ∧
      SameKey (ownChar (.new (.char 'c') { control := true }) 'c')
        (ownChar (.new (.char 'C') { control := true }) 'C') :=
  ⟨((legacy_own_text (.new (.char 'c') { control := true }) (.new (.char 'C') { control := true })
      'c' 'C' { control := true }).1 rfl).2 (by decide),
    (legacy_own_text (.new (.char 'c') { control := true }) (.new (.char 'C') { control := true })
      'c' 'C' { control := true }).2.2 rfl rfl rfl (by decide) (by decide)⟩

end Zynk
