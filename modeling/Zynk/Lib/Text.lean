import Mathlib.Algebra.GroupWithZero.Nat
import Mathlib.Data.List.Basic

/-!
# Bytes and text

The parts of the standard library of byte slices and strings that parsers are written
with : UTF-8 validation and decoding, splitting, stripping, decimal numbers, and searching
a byte string. A text is the list of its characters.

The searches only look at what is there : what they find in a byte string they find in
every extension of it (`findSubsequence_append`, `findIdx?_append_of_some`).
-/

/-- A byte string. -/
abbrev Bytes := List UInt8

/-- A text, as the list of its characters. -/
abbrev Text := List Char

namespace Text

/-- The bytes of an ASCII literal. -/
def ascii (s : String) : Bytes :=
  s.toList.map fun c => UInt8.ofNat c.toNat

/-! ## UTF-8 -/

/-- A continuation byte. -/
def isContinuation (b : UInt8) : Bool :=
  0x80 ≤ b.toNat && b.toNat ≤ 0xBF

/-- The second byte a three-byte sequence admits after its first : no overlong form, no
surrogate. -/
def secondOfThree (first second : UInt8) : Bool :=
  if first.toNat == 0xE0 then 0xA0 ≤ second.toNat && second.toNat ≤ 0xBF
  else if first.toNat == 0xED then 0x80 ≤ second.toNat && second.toNat ≤ 0x9F
  else isContinuation second

/-- The second byte a four-byte sequence admits after its first : no overlong form,
nothing above U+10FFFF. -/
def secondOfFour (first second : UInt8) : Bool :=
  if first.toNat == 0xF0 then 0x90 ≤ second.toNat && second.toNat ≤ 0xBF
  else if first.toNat == 0xF4 then 0x80 ≤ second.toNat && second.toNat ≤ 0x8F
  else isContinuation second

/-- The length of the sequence a valid first byte starts. -/
def sequenceLen (first : UInt8) : Option ℕ :=
  let n := first.toNat
  if n < 0x80 then some 1
  else if 0xC2 ≤ n && n ≤ 0xDF then some 2
  else if 0xE0 ≤ n && n ≤ 0xEF then some 3
  else if 0xF0 ≤ n && n ≤ 0xF4 then some 4
  else none

/-- `str::from_utf8` : the characters of a valid byte string. -/
def decodeUtf8 : Bytes → Option Text
  | [] => some []
  | a :: s =>
    match sequenceLen a with
    | some 1 => (decodeUtf8 s).map (Char.ofNat a.toNat :: ·)
    | some 2 =>
      match s with
      | b :: s =>
        if isContinuation b then
          (decodeUtf8 s).map (Char.ofNat (a.toNat % 32 * 64 + b.toNat % 64) :: ·)
        else none
      | _ => none
    | some 3 =>
      match s with
      | b :: c :: s =>
        if secondOfThree a b && isContinuation c then
          (decodeUtf8 s).map
            (Char.ofNat ((a.toNat % 16 * 64 + b.toNat % 64) * 64 + c.toNat % 64) :: ·)
        else none
      | _ => none
    | some 4 =>
      match s with
      | b :: c :: d :: s =>
        if secondOfFour a b && isContinuation c && isContinuation d then
          (decodeUtf8 s).map (Char.ofNat
            (((a.toNat % 8 * 64 + b.toNat % 64) * 64 + c.toNat % 64) * 64 + d.toNat % 64) :: ·)
        else none
      | _ => none
    | _ => none

example : decodeUtf8 [0x80] = none := by
  unfold decodeUtf8
  rfl

/-- The byte string is the beginning of one character and ends before its last byte :
`from_utf8` fails at offset 0 with no error length. -/
def isIncompleteChar : Bytes → Bool
  | [] => false
  | a :: s =>
    match sequenceLen a, s with
    | some 2, [] => true
    | some 3, [] => true
    | some 3, [b] => secondOfThree a b
    | some 4, [] => true
    | some 4, [b] => secondOfFour a b
    | some 4, [b, c] => secondOfFour a b && isContinuation c
    | _, _ => false

/-! ## Text -/

/-- `str::strip_prefix`. -/
def stripPrefix (lead : String) (s : Text) : Option Text :=
  if lead.toList.isPrefixOf s then some (s.drop lead.toList.length) else none

/-- `str::strip_suffix`. -/
def stripSuffix (tail : String) (s : Text) : Option Text :=
  if tail.toList.isSuffixOf s then some (s.take (s.length - tail.toList.length)) else none

/-- `split` at every occurrence of a separator : always at least one part. -/
def splitOn {α : Type} [BEq α] (sep : α) : List α → List (List α)
  | [] => [[]]
  | c :: s =>
    match splitOn sep s with
    | part :: parts => if c == sep then [] :: part :: parts else (c :: part) :: parts
    | [] => [[]]

/-- `str::split_once`. -/
def splitOnce (sep : Char) : Text → Option (Text × Text)
  | [] => none
  | c :: s => if c == sep then some ([], s) else (splitOnce sep s).map fun p => (c :: p.1, p.2)

/-- `parse` of an unsigned integer type with the given maximum : an optional `+`, then at
least one decimal digit. -/
def parseUnsigned (maximum : ℕ) (s : Text) : Option ℕ :=
  let digits := if s.head? == some '+' then s.tail else s
  if digits.isEmpty || !digits.all Char.isDigit then none
  else
    let n := digits.foldl (fun n c => n * 10 + (c.toNat - '0'.toNat)) 0
    if n ≤ maximum then some n else none

def parseU8 : Text → Option ℕ := parseUnsigned 255

def parseU16 : Text → Option ℕ := parseUnsigned 65535

def parseU32 : Text → Option ℕ := parseUnsigned 4294967295

/-- The two parts of a text at a byte offset, nothing when the offset is inside a character
or past the end (slicing there panics). -/
def splitAtByte : ℕ → Text → Option (Text × Text)
  | 0, s => some ([], s)
  | _, [] => none
  | n, c :: s =>
    if c.utf8Size ≤ n then (splitAtByte (n - c.utf8Size) s).map fun p => (c :: p.1, p.2) else none

/-- `str::len` : the number of bytes. -/
def byteLen (s : Text) : ℕ :=
  (s.map Char.utf8Size).sum

/-- `char::from_u32`. -/
def charFromU32 (n : ℕ) : Option Char :=
  if n.isValidChar then some (Char.ofNat n) else none

/-- `char::is_control`. -/
def isControl (c : Char) : Bool :=
  c.toNat < 0x20 || (0x7F ≤ c.toNat && c.toNat < 0xA0)

/-- An unsigned number as `format!` writes it. -/
def decimal (n : ℕ) : Text :=
  Nat.toDigits 10 n

/-- The bytes of a text. -/
def encodeUtf8 (s : Text) : Bytes :=
  s.flatMap String.utf8EncodeChar

/-- `char::is_whitespace` : the Unicode `White_Space` property. -/
def isWhitespace (c : Char) : Bool :=
  let n := c.toNat
  (9 ≤ n && n ≤ 13) || n == 32 || n == 0x85 || n == 0xA0 || n == 0x1680 ||
    (0x2000 ≤ n && n ≤ 0x200A) || n == 0x2028 || n == 0x2029 || n == 0x202F || n == 0x205F ||
    n == 0x3000

variable {α : Type}

/-- What stands before the first separator and what stands after it are determined. -/
theorem append_cons_inj {a a' b b' : List α} {sep : α} (ha : sep ∉ a) (ha' : sep ∉ a')
    (h : a ++ sep :: b = a' ++ sep :: b') : a = a' ∧ b = b' := by
  induction a generalizing a' with
  | nil =>
    rcases a' with _ | ⟨c, a'⟩
    · exact ⟨rfl, by simpa using h⟩
    · simp only [List.nil_append, List.cons_append, List.cons.injEq] at h
      simp [h.1] at ha'
  | cons c a ih =>
    rcases a' with _ | ⟨c', a'⟩
    · simp only [List.nil_append, List.cons_append, List.cons.injEq] at h
      simp [h.1] at ha
    · simp only [List.cons_append, List.cons.injEq] at h
      rw [List.mem_cons, not_or] at ha ha'
      obtain ⟨rfl, rfl⟩ := ih ha.2 ha'.2 h.2
      exact ⟨by rw [h.1], rfl⟩

/-! ## Searching bytes -/

/-- The offset of the first occurrence of a byte string. -/
def findSubsequence (needle : Bytes) : Bytes → Option ℕ
  | [] => if needle.isEmpty then some 0 else none
  | b :: s =>
    if needle.isPrefixOf (b :: s) then some 0 else (findSubsequence needle s).map (· + 1)

variable {s : Bytes}

theorem isPrefixOf_append {l : Bytes} (h : l.isPrefixOf s = true) (t : Bytes) :
    l.isPrefixOf (s ++ t) = true :=
  List.isPrefixOf_iff_prefix.2 ((List.isPrefixOf_iff_prefix.1 h).trans (List.prefix_append _ _))

/-- On a byte string at least as long as the prefix, more bytes do not matter. -/
theorem isPrefixOf_append_of_le {l : Bytes} (h : l.length ≤ s.length) (t : Bytes) :
    l.isPrefixOf (s ++ t) = l.isPrefixOf s := by
  rw [Bool.eq_iff_iff, List.isPrefixOf_iff_prefix, List.isPrefixOf_iff_prefix]
  exact ⟨fun hp => List.prefix_of_prefix_length_le hp (List.prefix_append _ _) h,
    fun hp => hp.trans (List.prefix_append _ _)⟩

variable {i : ℕ}

/-- What is found lies within the byte string. -/
theorem findSubsequence_le {needle : Bytes} (h : findSubsequence needle s = some i) :
    i + needle.length ≤ s.length := by
  induction s generalizing i with
  | nil =>
    rw [findSubsequence] at h
    split at h
    · cases h
      simp_all
    · cases h
  | cons b s ih =>
    rw [findSubsequence] at h
    split at h
    · rename_i hp
      cases h
      simpa using (List.isPrefixOf_iff_prefix.1 hp).length_le
    · obtain ⟨j, hj, rfl⟩ := Option.map_eq_some_iff.1 h
      have := ih hj
      simp only [List.length_cons]
      omega

/-- What is found stays found, at the same offset, when bytes are appended. -/
theorem findSubsequence_append {needle : Bytes} (h : findSubsequence needle s = some i)
    (t : Bytes) : findSubsequence needle (s ++ t) = some i := by
  induction s generalizing i with
  | nil =>
    rw [findSubsequence] at h
    split at h
    · rename_i hempty
      cases h
      rw [List.isEmpty_iff] at hempty
      cases t <;> simp [findSubsequence, hempty]
    · cases h
  | cons b s ih =>
    rw [findSubsequence] at h
    rw [List.cons_append, findSubsequence]
    split at h
    · rename_i hp
      cases h
      rw [← List.cons_append, isPrefixOf_append hp t, if_pos rfl]
    · rename_i hp
      obtain ⟨j, hj, rfl⟩ := Option.map_eq_some_iff.1 h
      have hlen := findSubsequence_le hj
      have hle : needle.length ≤ (b :: s).length := by
        simp only [List.length_cons]
        omega
      rw [← List.cons_append, isPrefixOf_append_of_le hle, if_neg hp, ih hj, Option.map_some]

theorem findIdx?_append_of_some {p : UInt8 → Bool} (h : s.findIdx? p = some i) (t : Bytes) :
    (s ++ t).findIdx? p = some i := by
  rw [List.findIdx?_append, h, Option.some_or]

/-- What is found only in the extension ends after the byte string. -/
theorem length_lt_of_findSubsequence_append {needle t : Bytes}
    (hnone : findSubsequence needle s = none) (h : findSubsequence needle (s ++ t) = some i) :
    s.length < i + needle.length := by
  induction s generalizing i with
  | nil =>
    rw [findSubsequence] at hnone
    split at hnone
    · cases hnone
    · rename_i hne
      rw [List.isEmpty_iff] at hne
      have hpos := List.length_pos_of_ne_nil hne
      simp only [List.length_nil]
      omega
  | cons b s ih =>
    rw [List.cons_append, findSubsequence] at h
    rw [findSubsequence] at hnone
    split at hnone
    · cases hnone
    · rename_i hp
      split at h
      · rename_i hpt
        cases h
        by_contra hge
        rw [← List.cons_append, isPrefixOf_append_of_le (by omega)] at hpt
        exact hp hpt
      · obtain ⟨j, hj, rfl⟩ := Option.map_eq_some_iff.1 h
        have hlt := ih (Option.map_eq_none_iff.1 hnone) hj
        simp only [List.length_cons]
        omega

theorem length_le_of_findIdx?_append {p : UInt8 → Bool} {t : Bytes} (hnone : s.findIdx? p = none)
    (h : (s ++ t).findIdx? p = some i) : s.length ≤ i := by
  rw [List.findIdx?_append, hnone, Option.none_or] at h
  obtain ⟨j, -, rfl⟩ := Option.map_eq_some_iff.1 h
  omega

/-! ## Fields and numbers -/

theorem splitOn_of_not_mem [BEq α] [LawfulBEq α] {sep : α} {s : List α} (h : sep ∉ s) :
    splitOn sep s = [s] := by
  induction s with
  | nil => rfl
  | cons c s ih =>
    rw [List.mem_cons, not_or] at h
    rw [splitOn, ih h.2]
    simp [Ne.symm h.1]

theorem splitOn_append_cons [BEq α] [LawfulBEq α] {sep : α} {a : List α} (h : sep ∉ a)
    (b : List α) : splitOn sep (a ++ sep :: b) = a :: splitOn sep b := by
  induction a with
  | nil =>
    rcases hb : splitOn sep b with _ | ⟨part, parts⟩
    · rcases b with _ | ⟨c, b⟩
      · simp [splitOn] at hb
      · rw [splitOn] at hb
        split at hb
        · split at hb <;> simp at hb
        · simp at hb
    · simp [splitOn, hb]
  | cons c a ih =>
    rw [List.mem_cons, not_or] at h
    rw [List.cons_append, splitOn, ih h.2]
    simp [Ne.symm h.1]

theorem splitOn_ne_nil [BEq α] (sep : α) (s : List α) : splitOn sep s ≠ [] := by
  cases s with
  | nil => simp [splitOn]
  | cons c s =>
    rw [splitOn]
    split
    · split <;> simp
    · simp

/-- The first part is what stands before the first separator. -/
theorem splitOn_eq_cons [BEq α] [LawfulBEq α] {sep : α} {s a : List α} {parts : List (List α)}
    (h : splitOn sep s = a :: parts) :
    sep ∉ a ∧ (parts = [] ∧ s = a ∨ ∃ b, s = a ++ sep :: b ∧ splitOn sep b = parts) := by
  by_cases hmem : sep ∈ s
  · obtain ⟨a', b, rfl, ha'⟩ := List.eq_append_cons_of_mem hmem
    rw [splitOn_append_cons ha'] at h
    cases h
    exact ⟨ha', Or.inr ⟨b, rfl, rfl⟩⟩
  · rw [splitOn_of_not_mem hmem] at h
    cases h
    exact ⟨hmem, Or.inl ⟨rfl, rfl⟩⟩

theorem splitOnce_append_cons {sep : Char} {a : Text} (h : sep ∉ a) (b : Text) :
    splitOnce sep (a ++ sep :: b) = some (a, b) := by
  induction a with
  | nil => simp [splitOnce]
  | cons c a ih =>
    rw [List.mem_cons, not_or] at h
    simp [splitOnce, ih h.2, Ne.symm h.1]

theorem stripPrefix_append (lead : String) (s : Text) :
    stripPrefix lead (lead.toList ++ s) = some s := by
  have h : lead.toList.isPrefixOf (lead.toList ++ s) = true :=
    List.isPrefixOf_iff_prefix.2 (List.prefix_append _ _)
  rw [stripPrefix, if_pos h, List.drop_left]

theorem eq_append_of_stripPrefix {lead : String} {s t : Text} (h : stripPrefix lead s = some t) :
    s = lead.toList ++ t := by
  rw [stripPrefix] at h
  split at h
  · rename_i hlead
    cases h
    exact (List.prefix_iff_eq_append.1 (List.isPrefixOf_iff_prefix.1 hlead)).symm
  · cases h

theorem stripSuffix_append (tail : String) (s : Text) :
    stripSuffix tail (s ++ tail.toList) = some s := by
  have h : tail.toList.isSuffixOf (s ++ tail.toList) = true :=
    List.isSuffixOf_iff_suffix.2 (List.suffix_append _ _)
  rw [stripSuffix, if_pos h, List.length_append, Nat.add_sub_cancel, List.take_left]

variable {c : Char}

theorem toNat_of_isDigit (h : c.isDigit = true) : 48 ≤ c.toNat ∧ c.toNat ≤ 57 := by
  simp only [Char.isDigit, Bool.and_eq_true, decide_eq_true_eq] at h
  exact ⟨UInt32.le_iff_toNat_le.1 h.1, UInt32.le_iff_toNat_le.1 h.2⟩

theorem isDigit_of_mem_decimal {n : ℕ} (h : c ∈ decimal n) : c.isDigit = true :=
  Nat.isDigit_of_mem_toDigits (by decide) (by decide) h

theorem not_mem_decimal (h : c.isDigit = false) (n : ℕ) : c ∉ decimal n := by
  intro hc
  simp [isDigit_of_mem_decimal hc] at h

theorem decimal_ne_nil (n : ℕ) : decimal n ≠ [] :=
  Nat.toDigits_ne_nil

/-- A number that fits is read back. -/
theorem parseUnsigned_decimal (maximum n : ℕ) :
    parseUnsigned maximum (decimal n) = if n ≤ maximum then some n else none := by
  have hhead : (decimal n).head? ≠ some '+' := by
    intro hplus
    exact not_mem_decimal (by decide) n (List.mem_of_mem_head? hplus)
  have hdigits : (decimal n).all Char.isDigit = true :=
    List.all_eq_true.2 fun c hc => isDigit_of_mem_decimal hc
  have hvalue : (decimal n).foldl (fun n c => n * 10 + (c.toNat - '0'.toNat)) 0 = n := by
    have := Nat.ofDigitChars_ten_toDigits (n := n)
    rw [Nat.ofDigitChars_eq_foldl] at this
    simp only [Nat.mul_comm 10] at this
    exact this
  have hempty : (decimal n).isEmpty = false := by simp [decimal_ne_nil]
  have hplus : ((decimal n).head? == some '+') = false := by simpa using hhead
  rw [parseUnsigned, hplus, if_neg Bool.false_ne_true, hempty, hdigits, hvalue]
  rfl

/-- What is parsed as a number are digits, perhaps after a plus. -/
theorem of_parseUnsigned {maximum n : ℕ} {s : Text} (h : parseUnsigned maximum s = some n) :
    ∀ c ∈ s, c = '+' ∨ c.isDigit = true := by
  obtain ⟨digits, hdigits⟩ : ∃ digits, (if s.head? == some '+' then s.tail else s) = digits :=
    ⟨_, rfl⟩
  simp only [parseUnsigned, hdigits] at h
  have hall : digits.all Char.isDigit = true := by
    by_contra hnot
    rw [Bool.not_eq_true] at hnot
    rw [hnot, Bool.not_false, Bool.or_true, if_pos rfl] at h
    cases h
  intro c hc
  split at hdigits
  · rename_i hplus
    obtain ⟨t, rfl⟩ := List.head?_eq_some_iff.1 (beq_iff_eq.1 hplus)
    rcases List.mem_cons.1 hc with rfl | hc
    · exact Or.inl rfl
    · rw [← hdigits, List.tail_cons] at hall
      exact Or.inr (List.all_eq_true.1 hall c hc)
  · rw [← hdigits] at hall
    exact Or.inr (List.all_eq_true.1 hall c hc)

/-- An ASCII character is one byte. -/
theorem encodeUtf8_cons (hc : c.toNat < 128) (s : Text) :
    encodeUtf8 (c :: s) = UInt8.ofNat c.toNat :: encodeUtf8 s := by
  have hone : String.utf8EncodeChar c = [UInt8.ofNat c.toNat] :=
    String.utf8EncodeChar_eq_singleton (Char.utf8Size_eq_one_iff.2 (by
      have : c.val.toNat < 128 := hc
      exact UInt32.le_iff_toNat_le.2 (by simpa using Nat.le_of_lt_succ this)))
  rw [encodeUtf8, List.flatMap_cons, hone]
  rfl

theorem encodeUtf8_append (s t : Text) : encodeUtf8 (s ++ t) = encodeUtf8 s ++ encodeUtf8 t :=
  List.flatMap_append

/-- An ASCII text has a byte for each character. -/
theorem encodeUtf8_eq_map {s : Text} (h : ∀ c ∈ s, c.toNat < 128) :
    encodeUtf8 s = s.map fun c => UInt8.ofNat c.toNat := by
  induction s with
  | nil => rfl
  | cons c s ih =>
    rw [encodeUtf8_cons (h c List.mem_cons_self), ih fun d hd => h d (List.mem_cons_of_mem c hd),
      List.map_cons]

theorem toNat_ofNat_of_lt {n : ℕ} (h : n < 256) : (UInt8.ofNat n).toNat = n := by
  rw [UInt8.toNat_ofNat']
  exact Nat.mod_eq_of_lt h

/-- A character in front is read back from its bytes. -/
theorem decodeUtf8_utf8EncodeChar_append (c : Char) (s : Bytes) :
    decodeUtf8 (String.utf8EncodeChar c ++ s) = (decodeUtf8 s).map (c :: ·) := by
  have hvalid : c.toNat < 0xD800 ∨ (0xDFFF < c.toNat ∧ c.toNat < 0x110000) := c.valid
  have hchar {n : ℕ} (hn : n = c.toNat) : Char.ofNat n = c := by
    rw [hn, Char.ofNat_toNat]
  have htail (n : ℕ) : (UInt8.ofNat (n % 64 + 128)).toNat = n % 64 + 128 :=
    toNat_ofNat_of_lt (by omega)
  have hcontinuation (n : ℕ) : isContinuation (UInt8.ofNat (n % 64 + 128)) = true := by
    simp only [isContinuation, htail, Bool.and_eq_true, decide_eq_true_eq]
    omega
  have hv : c.val.toNat = c.toNat := rfl
  simp only [String.utf8EncodeChar, hv]
  split_ifs with h₁ h₂ h₃
  · have hfirst := toNat_ofNat_of_lt (n := c.toNat) (by omega)
    have hlen : sequenceLen (UInt8.ofNat c.toNat) = some 1 := by
      rw [sequenceLen, hfirst, if_pos (by omega)]
    rw [List.singleton_append, decodeUtf8.eq_def]
    simp only [hlen, hfirst, Char.ofNat_toNat]
  · have hfirst := toNat_ofNat_of_lt (n := c.toNat / 64 % 32 + 192) (by omega)
    have hlen : sequenceLen (UInt8.ofNat (c.toNat / 64 % 32 + 192)) = some 2 := by
      simp only [sequenceLen, hfirst, Bool.and_eq_true, decide_eq_true_eq]
      rw [if_neg (by omega), if_pos (by omega)]
    simp only [List.cons_append, List.nil_append]
    rw [decodeUtf8.eq_def]
    simp only [hlen, hfirst, hcontinuation, htail, if_true]
    rw [hchar (by omega)]
  · have hfirst := toNat_ofNat_of_lt (n := c.toNat / 4096 % 16 + 224) (by omega)
    have hlen : sequenceLen (UInt8.ofNat (c.toNat / 4096 % 16 + 224)) = some 3 := by
      simp only [sequenceLen, hfirst, Bool.and_eq_true, decide_eq_true_eq]
      rw [if_neg (by omega), if_neg (by omega), if_pos (by omega)]
    have hsecond : secondOfThree (UInt8.ofNat (c.toNat / 4096 % 16 + 224))
        (UInt8.ofNat (c.toNat / 64 % 64 + 128)) = true := by
      simp only [secondOfThree, hfirst, htail, isContinuation]
      split_ifs <;> simp_all <;> omega
    simp only [List.cons_append, List.nil_append]
    rw [decodeUtf8.eq_def]
    simp only [hlen, hfirst, hsecond, hcontinuation, htail, Bool.and_self, if_true]
    rw [hchar (by omega)]
  · have hfirst := toNat_ofNat_of_lt (n := c.toNat / 262144 % 8 + 240) (by omega)
    have hlen : sequenceLen (UInt8.ofNat (c.toNat / 262144 % 8 + 240)) = some 4 := by
      simp only [sequenceLen, hfirst, Bool.and_eq_true, decide_eq_true_eq]
      rw [if_neg (by omega), if_neg (by omega), if_neg (by omega), if_pos (by omega)]
    have hsecond : secondOfFour (UInt8.ofNat (c.toNat / 262144 % 8 + 240))
        (UInt8.ofNat (c.toNat / 4096 % 64 + 128)) = true := by
      simp only [secondOfFour, hfirst, htail, isContinuation]
      split_ifs <;> simp_all <;> omega
    simp only [List.cons_append, List.nil_append]
    rw [decodeUtf8.eq_def]
    simp only [hlen, hfirst, hsecond, hcontinuation, htail, Bool.and_self, if_true]
    rw [hchar (by omega)]

/-- A text is read back from its bytes. -/
theorem decodeUtf8_encodeUtf8 (s : Text) : decodeUtf8 (encodeUtf8 s) = some s := by
  induction s with
  | nil => rfl
  | cons c s ih =>
    rw [encodeUtf8, List.flatMap_cons, decodeUtf8_utf8EncodeChar_append, ← encodeUtf8, ih]
    rfl

end Text
