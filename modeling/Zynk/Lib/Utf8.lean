import Zynk.Lib.Text

/-!
# UTF-8 in pieces

`checkUtf8` is `str::from_utf8` with what its error says : whether the byte string only ends inside
a character, and which bytes of that character are there. So a byte string that comes in two pieces
can be checked piece by piece (`checkUtf8_append_of_valid` and its siblings).
-/

namespace Text

/-- What `str::from_utf8` says of a byte string. -/
inductive Utf8Check where
  | valid
  /-- It ends inside a character, of which `tail` is there : `error_len` is `None`. -/
  | incomplete (tail : Bytes)
  | invalid
  deriving DecidableEq, Repr

def checkUtf8 : Bytes → Utf8Check
  | [] => .valid
  | a :: s =>
    match sequenceLen a with
    | some 1 => checkUtf8 s
    | some 2 =>
      match s with
      | b :: s => if isContinuation b then checkUtf8 s else .invalid
      | [] => .incomplete [a]
    | some 3 =>
      match s with
      | b :: c :: s => if secondOfThree a b && isContinuation c then checkUtf8 s else .invalid
      | [b] => if secondOfThree a b then .incomplete [a, b] else .invalid
      | [] => .incomplete [a]
    | some 4 =>
      match s with
      | b :: c :: d :: s =>
        if secondOfFour a b && isContinuation c && isContinuation d then checkUtf8 s else .invalid
      | [b, c] => if secondOfFour a b && isContinuation c then .incomplete [a, b, c] else .invalid
      | [b] => if secondOfFour a b then .incomplete [a, b] else .invalid
      | [] => .incomplete [a]
    | _ => .invalid

example : checkUtf8 [0x80] = .invalid := by
  unfold checkUtf8
  rfl

theorem checkUtf8_nil : checkUtf8 [] = .valid :=
  rfl

theorem decodeUtf8_nil : decodeUtf8 [] = some [] :=
  rfl

variable {a : UInt8}

theorem checkUtf8_of_one (h : sequenceLen a = some 1) (s : Bytes) :
    checkUtf8 (a :: s) = checkUtf8 s := by
  rw [checkUtf8.eq_def]
  simp only [h]

theorem checkUtf8_of_none (h₁ : sequenceLen a ≠ some 1) (h₂ : sequenceLen a ≠ some 2)
    (h₃ : sequenceLen a ≠ some 3) (h₄ : sequenceLen a ≠ some 4) (s : Bytes) :
    checkUtf8 (a :: s) = .invalid := by
  rw [checkUtf8.eq_def]
  split <;> simp_all

variable {s : Bytes}

theorem decodeUtf8_of_one (h : sequenceLen a = some 1) (hs : decodeUtf8 s = none) :
    decodeUtf8 (a :: s) = none := by
  rw [decodeUtf8.eq_def]
  simp only [h, hs, Option.map_none]

/-- A byte string is read character by character, until it ends or one is not whole. -/
theorem checkUtf8_induction {motive : Bytes → Utf8Check → Prop} (nil : motive [] .valid)
    (char : ∀ x s, (∀ t, checkUtf8 (x ++ t) = checkUtf8 t) →
      (decodeUtf8 (x ++ s)).isSome = (decodeUtf8 s).isSome → motive s (checkUtf8 s) →
        motive (x ++ s) (checkUtf8 s))
    (incomplete : ∀ x, (∃ a u n, x = a :: u ∧ sequenceLen a = some n ∧ x.length < n ∧ n ≤ 4) →
      decodeUtf8 x = none → motive x (.incomplete x))
    (invalid : ∀ s, (∀ t, checkUtf8 (s ++ t) = .invalid) → decodeUtf8 s = none →
      motive s .invalid) (s : Bytes) : motive s (checkUtf8 s) := by
  fun_induction checkUtf8 s with
  | case1 => exact nil
  | case2 a s h ih =>
    refine char [a] s (fun t ↦ checkUtf8_of_one h t) ?_ ih
    rw [List.singleton_append, decodeUtf8.eq_def]
    simp [h]
  | case3 a h b s hb ih =>
    exact char [a, b] s (fun t ↦ by simp [checkUtf8, h, hb]) (by simp [decodeUtf8, h, hb]) ih
  | case6 a h b c s hb ih =>
    exact char [a, b, c] s (fun t ↦ by simp [checkUtf8, h, hb]) (by simp [decodeUtf8, h, hb]) ih
  | case11 a h b c d s hb ih =>
    exact char [a, b, c, d] s (fun t ↦ by simp [checkUtf8, h, hb]) (by simp [decodeUtf8, h, hb]) ih
  | case5 _ h | case8 _ h _ hb | case10 _ h | case13 _ h _ _ hb | case15 _ h _ hb | case17 _ h =>
    exact incomplete _ ⟨_, _, _, rfl, h, by simp, by omega⟩ (by simp [decodeUtf8, h])
  | case9 a h b hb =>
    -- What is wrong with it does not depend on the bytes that are missing.
    refine invalid _ (fun t ↦ ?_) (by simp [decodeUtf8, h])
    cases t <;> simp [checkUtf8, h, hb]
  | case16 a h b hb =>
    refine invalid _ (fun t ↦ ?_) (by simp [decodeUtf8, h])
    rcases t with _ | ⟨x, _ | ⟨y, t⟩⟩ <;> simp [checkUtf8, h, hb]
  | case14 a h b c hb =>
    refine invalid _ (fun t ↦ ?_) (by simp [decodeUtf8, h])
    cases t <;> simp [checkUtf8, h, hb]
  | case18 a s h₁ h₂ h₃ h₄ =>
    refine invalid _ (fun t ↦ checkUtf8_of_none h₁ h₂ h₃ h₄ _) ?_
    rw [decodeUtf8.eq_def]
    split <;> simp_all
  | case4 a h b s hb =>
    exact invalid _ (fun t ↦ by simp [checkUtf8, h, hb]) (by simp [decodeUtf8, h, hb])
  | case7 a h b c s hb =>
    exact invalid _ (fun t ↦ by simp [checkUtf8, h, hb]) (by simp [decodeUtf8, h, hb])
  | case12 a h b c d s hb =>
    exact invalid _ (fun t ↦ by simp [checkUtf8, h, hb]) (by simp [decodeUtf8, h, hb])

theorem checkUtf8_eq_valid_iff (s : Bytes) :
    checkUtf8 s = .valid ↔ (decodeUtf8 s).isSome = true := by
  induction s using checkUtf8_induction with
  | nil => simp [decodeUtf8]
  | char x s _ hdecode ih => rw [ih, hdecode]
  | incomplete x _ hdecode => simp [hdecode]
  | invalid s _ hdecode => simp [hdecode]

/-- Behind a valid piece the check starts again. -/
theorem checkUtf8_append_of_valid (h : checkUtf8 s = .valid) (t : Bytes) :
    checkUtf8 (s ++ t) = checkUtf8 t := by
  induction s using checkUtf8_induction with
  | nil => rfl
  | char x s hcheck _ ih => rw [List.append_assoc, hcheck, ih h]
  | incomplete => cases h
  | invalid => cases h

/-- What is wrong stays wrong. -/
theorem checkUtf8_append_of_invalid (h : checkUtf8 s = .invalid) (t : Bytes) :
    checkUtf8 (s ++ t) = .invalid := by
  induction s using checkUtf8_induction with
  | nil => cases h
  | char x s hcheck _ ih => rw [List.append_assoc, hcheck, ih h]
  | incomplete => cases h
  | invalid s hcheck => exact hcheck t

/-- Behind a piece that ends inside a character the check goes on from that character. -/
theorem checkUtf8_append_of_incomplete {tail : Bytes} (h : checkUtf8 s = .incomplete tail)
    (t : Bytes) : checkUtf8 (s ++ t) = checkUtf8 (tail ++ t) := by
  induction s using checkUtf8_induction with
  | nil => cases h
  | char x s hcheck _ ih => rw [List.append_assoc, hcheck, ih h]
  | incomplete => cases h; rfl
  | invalid => cases h

/-- The bytes that are there of a character are fewer than it has. -/
theorem incomplete_tail {tail : Bytes} (h : checkUtf8 s = .incomplete tail) :
    ∃ a u n, tail = a :: u ∧ sequenceLen a = some n ∧ tail.length < n ∧ n ≤ 4 := by
  induction s using checkUtf8_induction with
  | nil => cases h
  | char x s _ _ ih => exact ih h
  | incomplete x hbeginning => cases h; exact hbeginning
  | invalid => cases h

/-- A first byte announces four bytes at most. -/
theorem sequenceLen_le {n : ℕ} (h : sequenceLen a = some n) : 1 ≤ n ∧ n ≤ 4 := by
  simp only [sequenceLen] at h
  grind

/-- As many bytes as the first one announces are not the beginning of a character. -/
theorem checkUtf8_ne_incomplete {u : Bytes} {n : ℕ} (hn : sequenceLen a = some n)
    (hlen : (a :: u).length = n) (tail : Bytes) : checkUtf8 (a :: u) ≠ .incomplete tail := by
  have hle := sequenceLen_le hn
  subst hlen
  rcases u with _ | ⟨b, _ | ⟨c, _ | ⟨d, _ | ⟨e, u⟩⟩⟩⟩
  · rw [checkUtf8.eq_def]
    simp only [hn, List.length_cons, List.length_nil]
    simp [checkUtf8_nil]
  · rw [checkUtf8.eq_def]
    simp only [hn, List.length_cons, List.length_nil, checkUtf8_nil]
    split <;> simp
  · rw [checkUtf8.eq_def]
    simp only [hn, List.length_cons, List.length_nil, checkUtf8_nil]
    split <;> simp
  · rw [checkUtf8.eq_def]
    simp only [hn, List.length_cons, List.length_nil, checkUtf8_nil]
    split <;> simp
  · simp only [List.length_cons] at hle
    omega

/-- Fewer bytes than the first one announces are not valid. -/
theorem checkUtf8_ne_valid {u : Bytes} {n : ℕ} (hn : sequenceLen a = some n)
    (hlen : (a :: u).length < n) : checkUtf8 (a :: u) ≠ .valid := by
  have hle := sequenceLen_le hn
  obtain rfl | rfl | rfl | rfl : n = 1 ∨ n = 2 ∨ n = 3 ∨ n = 4 := by omega
  all_goals
    rcases u with _ | ⟨b, _ | ⟨c, _ | ⟨d, u⟩⟩⟩ <;>
      simp only [List.length_cons, List.length_nil] at hlen <;>
      first
      | omega
      | rw [checkUtf8.eq_def]
        simp only [hn]
        grind

/-! ## Bytes that begin no character -/

/-- Nothing that can follow makes the bytes begin with a character. -/
def BeginsNoCharacter (x : Bytes) : Prop :=
  ∀ t p, p ≠ [] → p <+: x ++ t → decodeUtf8 p = none

namespace BeginsNoCharacter

variable {x : Bytes}

theorem append (h : BeginsNoCharacter x) (t : Bytes) : BeginsNoCharacter (x ++ t) := by
  intro t' p hp hfront
  rw [List.append_assoc] at hfront
  exact h (t ++ t') p hp hfront

theorem decodeUtf8_eq_none (h : BeginsNoCharacter x) {p : Bytes} (hp : p ≠ []) (hfront : p <+: x) :
    decodeUtf8 p = none :=
  h [] p hp (by rwa [List.append_nil])

/-- The first byte is none of an ASCII character. -/
theorem first (h : BeginsNoCharacter x) : ∃ b rest, x = b :: rest ∧ 128 ≤ b.toNat := by
  have hascii {b : UInt8} (hb : b.toNat < 128) : decodeUtf8 [b] ≠ none := by
    have hone : sequenceLen b = some 1 := by
      simp [sequenceLen, hb]
    rw [decodeUtf8.eq_def]
    simp [hone, decodeUtf8_nil]
  cases x with
  | nil => exact absurd (h [0x41] [0x41] (by simp) (List.prefix_refl _)) (hascii (by decide))
  | cons b rest =>
    refine ⟨b, rest, rfl, ?_⟩
    by_contra hb
    exact hascii (by omega) (h.decodeUtf8_eq_none (by simp) ⟨rest, rfl⟩)

end BeginsNoCharacter

theorem exists_secondOfThree (a : UInt8) : ∃ b, secondOfThree a b = true := by
  by_cases hlow : a.toNat = 0xE0
  · exact ⟨0xA0, by simp [secondOfThree, hlow]⟩
  · exact ⟨0x80, by simp [secondOfThree, hlow, isContinuation]⟩

theorem exists_secondOfFour (a : UInt8) : ∃ b, secondOfFour a b = true := by
  by_cases hlow : a.toNat = 0xF0
  · exact ⟨0x90, by simp [secondOfFour, hlow]⟩
  · exact ⟨0x80, by simp [secondOfFour, hlow, isContinuation]⟩

theorem sequenceLen_cases (a : UInt8) :
    sequenceLen a = none ∨ sequenceLen a = some 1 ∨ sequenceLen a = some 2 ∨
      sequenceLen a = some 3 ∨ sequenceLen a = some 4 := by
  cases h : sequenceLen a with
  | none => exact Or.inl rfl
  | some n =>
    have hle := sequenceLen_le h
    simp only [Option.some.injEq, reduceCtorEq, false_or]
    omega

/-- The beginning of a character can be completed. -/
theorem exists_complete {x : Bytes} (h : isIncompleteChar x = true) :
    x ≠ [] ∧ ∃ t, decodeUtf8 (x ++ t) ≠ none := by
  have hlast : isContinuation 0x80 = true := by decide
  cases x with
  | nil => cases h
  | cons a s =>
    refine ⟨List.cons_ne_nil a s, ?_⟩
    unfold isIncompleteChar at h
    dsimp only at h
    rcases sequenceLen_cases a with hlen | hlen | hlen | hlen | hlen <;> rw [hlen] at h
    · cases h
    · cases h
    · rcases s with _ | ⟨b, s⟩
      · exact ⟨[0x80], by simp [decodeUtf8.eq_def, hlen, hlast]⟩
      · cases h
    · rcases s with _ | ⟨b, _ | ⟨c, s⟩⟩
      · obtain ⟨b, hb⟩ := exists_secondOfThree a
        exact ⟨[b, 0x80], by simp [decodeUtf8.eq_def, hlen, hlast, hb]⟩
      · have hb : secondOfThree a b = true := h
        exact ⟨[0x80], by simp [decodeUtf8.eq_def, hlen, hlast, hb]⟩
      · cases h
    · rcases s with _ | ⟨b, _ | ⟨c, _ | ⟨d, s⟩⟩⟩
      · obtain ⟨b, hb⟩ := exists_secondOfFour a
        exact ⟨[b, 0x80, 0x80], by simp [decodeUtf8.eq_def, hlen, hlast, hb]⟩
      · have hb : secondOfFour a b = true := h
        exact ⟨[0x80, 0x80], by simp [decodeUtf8.eq_def, hlen, hlast, hb]⟩
      · obtain ⟨hb, hc⟩ := Bool.and_eq_true_iff.1 h
        exact ⟨[0x80], by simp [decodeUtf8.eq_def, hlen, hlast, hb, hc]⟩
      · cases h

theorem BeginsNoCharacter.isIncompleteChar_eq_false {x : Bytes} (h : BeginsNoCharacter x) :
    isIncompleteChar x = false := by
  rw [Bool.eq_false_iff]
  intro hincomplete
  obtain ⟨hne, t, ht⟩ := exists_complete hincomplete
  exact ht (h t (x ++ t) (by simp [hne]) (List.prefix_refl _))

/-- An ASCII byte does not complete what is not valid. -/
theorem decodeUtf8_append_ascii (h : decodeUtf8 s = none) {b : UInt8} (hb : b.toNat < 128)
    (t : Bytes) : decodeUtf8 (s ++ b :: t) = none := by
  have hcontinuation : isContinuation b = false := by
    simp only [isContinuation, Bool.and_eq_false_iff, decide_eq_false_iff_not]
    omega
  have hthree (a : UInt8) : secondOfThree a b = false := by
    simp only [secondOfThree, hcontinuation]
    split_ifs <;> simp <;> omega
  have hfour (a : UInt8) : secondOfFour a b = false := by
    simp only [secondOfFour, hcontinuation]
    split_ifs <;> simp <;> omega
  suffices hinvalid : checkUtf8 (s ++ b :: t) = .invalid by
    rw [Option.eq_none_iff_forall_ne_some]
    intro text htext
    have hvalid := (checkUtf8_eq_valid_iff (s ++ b :: t)).2 (by rw [htext]; rfl)
    rw [hinvalid] at hvalid
    cases hvalid
  cases hs : checkUtf8 s with
  | valid =>
    have hsome := (checkUtf8_eq_valid_iff s).1 hs
    rw [h] at hsome
    cases hsome
  | invalid => exact checkUtf8_append_of_invalid hs _
  | incomplete tail =>
    rw [checkUtf8_append_of_incomplete hs]
    obtain ⟨a, u, n, rfl, hn, hlen, hle⟩ := incomplete_tail hs
    obtain rfl | rfl | rfl | rfl : n = 1 ∨ n = 2 ∨ n = 3 ∨ n = 4 := by
      have := sequenceLen_le hn
      omega
    · simp at hlen
    · obtain rfl : u = [] := List.length_eq_zero_iff.1 (by
        simp only [List.length_cons] at hlen
        omega)
      simp [checkUtf8.eq_def, hn, hcontinuation]
    · rcases u with _ | ⟨c, _ | ⟨d, u⟩⟩
      · cases t <;> simp [checkUtf8.eq_def, hn, hthree]
      · simp [checkUtf8.eq_def, hn, hcontinuation]
      · simp only [List.length_cons] at hlen
        omega
    · rcases u with _ | ⟨c, _ | ⟨d, _ | ⟨e, u⟩⟩⟩
      · rcases t with _ | ⟨x, _ | ⟨y, t⟩⟩ <;> simp [checkUtf8.eq_def, hn, hfour]
      · cases t <;> simp [checkUtf8.eq_def, hn, hcontinuation]
      · simp [checkUtf8.eq_def, hn, hcontinuation]
      · simp only [List.length_cons] at hlen
        omega

/-! ## Bytes of characters -/

theorem le_of_mem_utf8EncodeChar {c : Char} (hc : 128 ≤ c.toNat) {b : UInt8}
    (hb : b ∈ String.utf8EncodeChar c) : 128 ≤ b.toNat := by
  have hv : c.val.toNat = c.toNat := rfl
  simp only [String.utf8EncodeChar, hv] at hb
  split_ifs at hb with h₁ h₂ h₃
  · omega
  · simp only [List.mem_cons, List.not_mem_nil, or_false] at hb
    rcases hb with rfl | rfl
    all_goals rw [toNat_ofNat_of_lt (by omega)]; omega
  · simp only [List.mem_cons, List.not_mem_nil, or_false] at hb
    rcases hb with rfl | rfl | rfl
    all_goals rw [toNat_ofNat_of_lt (by omega)]; omega
  · simp only [List.mem_cons, List.not_mem_nil, or_false] at hb
    rcases hb with rfl | rfl | rfl | rfl
    all_goals rw [toNat_ofNat_of_lt (by omega)]; omega

/-- A byte below 128 is a character of its own. -/
theorem mem_of_mem_encodeUtf8 {s : Text} {b : UInt8} (hb : b ∈ encodeUtf8 s)
    (hlt : b.toNat < 128) : ∃ c ∈ s, c.toNat = b.toNat := by
  rw [encodeUtf8, List.mem_flatMap] at hb
  obtain ⟨c, hc, hb⟩ := hb
  refine ⟨c, hc, ?_⟩
  by_cases hascii : c.toNat < 128
  · have hone := encodeUtf8_cons hascii []
    rw [encodeUtf8, List.flatMap_cons, List.flatMap_nil, List.append_nil] at hone
    rw [hone] at hb
    rw [List.mem_singleton.mp hb, toNat_ofNat_of_lt (by omega)]
  · have := le_of_mem_utf8EncodeChar (by omega) hb
    omega

end Text
