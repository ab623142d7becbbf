import Mathlib.Data.List.GetD
import Zynk.Lib.Text
import Zynk.Workspace.Model

/-!
# Public numbers

`encode_public_number` writes a number in bijective base 32, and `decode_public_number` reads it
back with checked arithmetic. What is accepted is exactly what is written
(`decodePublicNumber_eq_some_iff`). Workspace ids are such numbers from a counter.
`reserve_workspace_ids` moves the counter behind the ids of a restored session, unless one of them
is the largest number there is (`freshIds_iff`).
-/

namespace Zynk

open Text

/-! ## Numbers -/

/-- `checked_mul` and `checked_add` of a `usize`. -/
def checkedUsize (n : ℕ) : Option ℕ :=
  if n < 2 ^ 64 then some n else none

def decodeDigit (decoded : ℕ) (ch : Char) : Option ℕ := do
  let digit ← publicIdAlphabet.findIdx? (· == ch)
  let shifted ← checkedUsize (decoded * publicIdAlphabet.length)
  checkedUsize (shifted + (digit + 1))

def decodePublicNumber (value : Text) : Option ℕ :=
  value.foldlM decodeDigit 0

theorem findIdx_publicIdAlphabet {c : Char} {d : ℕ} :
    publicIdAlphabet.findIdx? (· == c) = some d ↔
      d < 32 ∧ publicIdAlphabet.getD d '0' = c := by
  have hall : ∀ d < 32, publicIdAlphabet.findIdx? (· == publicIdAlphabet.getD d '0') = some d := by
    decide
  constructor
  · intro h
    obtain ⟨hlt, heq, -⟩ := List.findIdx?_eq_some_iff_getElem.1 h
    refine ⟨hlt, ?_⟩
    rw [List.getD_eq_getElem _ _ hlt]
    exact beq_iff_eq.1 heq
  · rintro ⟨hlt, rfl⟩
    exact hall d hlt

variable {n counter : ℕ}

theorem decodeDigit_eq_some_iff {decoded : ℕ} {ch : Char} : decodeDigit decoded ch = some n ↔
      ∃ d < 32, publicIdAlphabet.getD d '0' = ch ∧ n = decoded * 32 + d + 1 ∧ n < 2 ^ 64 := by
  have hlength : publicIdAlphabet.length = 32 := rfl
  simp only [decodeDigit, checkedUsize, hlength, Option.bind_eq_bind, Option.bind_eq_some_iff,
    findIdx_publicIdAlphabet, Option.ite_none_right_eq_some, Option.some.injEq]
  constructor
  · rintro ⟨d, ⟨hd, hch⟩, shifted, ⟨-, rfl⟩, hlt, rfl⟩
    exact ⟨d, hd, hch, by omega, hlt⟩
  · rintro ⟨d, hd, hch, rfl, hlt⟩
    exact ⟨d, ⟨hd, hch⟩, _, ⟨by omega, rfl⟩, by omega, by omega⟩

theorem encodeDigits_eq_append_iff {s : Text} {c : Char} : encodeDigits n = s ++ [c] ↔
      ∃ m d, d < 32 ∧ n = m * 32 + d + 1 ∧ encodeDigits m = s ∧
        publicIdAlphabet.getD d '0' = c := by
  constructor
  · intro h
    rcases n with _ | k
    · rw [encodeDigits] at h
      simp at h
    · rw [encodeDigits] at h
      obtain ⟨hs, hc⟩ := List.append_inj' h rfl
      exact ⟨k / 32, k % 32, Nat.mod_lt k (by decide), by omega, hs, by simpa using hc⟩
  · rintro ⟨m, d, hd, rfl, rfl, rfl⟩
    have hdiv : (m * 32 + d) / 32 = m := by omega
    have hmod : (m * 32 + d) % 32 = d := by omega
    rw [encodeDigits, hdiv, hmod]

theorem encodeDigits_eq_nil_iff : encodeDigits n = [] ↔ n = 0 := by
  rcases n with _ | n
  · simp [encodeDigits]
  · simp [encodeDigits]

/-- What is read as a number is what the number is written as. -/
theorem decodePublicNumber_eq_some_iff {s : Text} :
    decodePublicNumber s = some n ↔ encodeDigits n = s ∧ n < 2 ^ 64 := by
  induction s using List.reverseRecOn generalizing n with
  | nil =>
    rw [encodeDigits_eq_nil_iff, decodePublicNumber, List.foldlM_nil]
    constructor
    · intro h
      cases h
      exact ⟨rfl, by decide⟩
    · rintro ⟨rfl, -⟩
      rfl
  | append_singleton s c ih =>
    rw [decodePublicNumber, List.foldlM_append, ← decodePublicNumber, encodeDigits_eq_append_iff]
    simp only [List.foldlM_cons, List.foldlM_nil, bind_pure, Option.bind_eq_bind,
      Option.bind_eq_some_iff, ih, decodeDigit_eq_some_iff]
    constructor
    · rintro ⟨m, ⟨hs, -⟩, d, hd, hc, rfl, hlt⟩
      exact ⟨⟨m, d, hd, rfl, hs, hc⟩, hlt⟩
    · rintro ⟨⟨m, d, hd, rfl, hs, hc⟩, hlt⟩
      exact ⟨m, ⟨hs, by omega⟩, d, hd, hc, rfl, hlt⟩

theorem toList_encodePublicNumber (h : 0 < n) : (encodePublicNumber n).toList = encodeDigits n := by
  rw [encodePublicNumber, if_neg h.ne', String.toList_ofList]

theorem decode_encodePublicNumber (hpos : 0 < n) (h : n < 2 ^ 64) :
    decodePublicNumber (encodePublicNumber n).toList = some n := by
  rw [toList_encodePublicNumber hpos]
  exact decodePublicNumber_eq_some_iff.2 ⟨rfl, h⟩

theorem encode_decodePublicNumber {s : String} (hne : s ≠ "")
    (h : decodePublicNumber s.toList = some n) : encodePublicNumber n = s := by
  obtain ⟨hdigits, -⟩ := decodePublicNumber_eq_some_iff.1 h
  have hpos : 0 < n := by
    refine Nat.pos_of_ne_zero fun hzero ↦ hne ?_
    rw [hzero, encodeDigits] at hdigits
    exact String.toList_eq_nil_iff.1 hdigits.symm
  rw [← String.toList_inj, toList_encodePublicNumber hpos, hdigits]

/-- The digits are digits and capital letters. -/
theorem mem_encodeDigits {c : Char} (h : c ∈ encodeDigits n) : c ∈ publicIdAlphabet := by
  induction n using Nat.strongRecOn with
  | _ n ih =>
    rcases n with _ | n
    · simp [encodeDigits] at h
    · rw [encodeDigits, List.mem_append, List.mem_singleton] at h
      rcases h with h | rfl
      · exact ih (n / 32) (by omega) h
      · have hlt : n % 32 < publicIdAlphabet.length := Nat.mod_lt n (by decide)
        rw [List.getD_eq_getElem _ _ hlt]
        exact List.getElem_mem hlt

/-! ## Workspace ids -/

def publicWorkspaceNumber (id : String) : Option ℕ :=
  (stripPrefix "w" id.toList).bind decodePublicNumber

/-- The id and the counter behind it, an atomic `u64` that wraps. -/
def generateWorkspaceId (counter : ℕ) : String × ℕ :=
  (workspaceIdForNumber counter, (counter + 1) % 2 ^ 64)

def generateWorkspaceIds (counter : ℕ) : ℕ → List String
  | 0 => []
  | calls + 1 =>
    (generateWorkspaceId counter).1 :: generateWorkspaceIds (generateWorkspaceId counter).2 calls

/-- The counter behind the ids of the workspaces. -/
def reserveWorkspaceIds (ids : List String) (current : ℕ) : ℕ :=
  match (ids.filterMap publicWorkspaceNumber).max?.bind fun max ↦ checkedUsize (max + 1) with
  | none => current
  | some next => if current < next then next else current

theorem publicWorkspaceNumber_workspaceIdForNumber (hpos : 0 < n) (h : n < 2 ^ 64) :
    publicWorkspaceNumber (workspaceIdForNumber n) = some n := by
  rw [publicWorkspaceNumber, workspaceIdForNumber, String.toList_append, stripPrefix_append,
    Option.bind_some, decode_encodePublicNumber hpos h]

variable {id : String}

theorem workspaceIdForNumber_publicWorkspaceNumber (hpos : 0 < n)
    (h : publicWorkspaceNumber id = some n) : workspaceIdForNumber n = id := by
  obtain ⟨s, hs, hdecode⟩ := Option.bind_eq_some_iff.1 h
  rw [← String.toList_inj, workspaceIdForNumber, String.toList_append,
    toList_encodePublicNumber hpos, (decodePublicNumber_eq_some_iff.1 hdecode).1,
    eq_append_of_stripPrefix hs]

theorem publicWorkspaceNumber_lt (h : publicWorkspaceNumber id = some n) : n < 2 ^ 64 := by
  obtain ⟨s, -, hdecode⟩ := Option.bind_eq_some_iff.1 h
  exact (decodePublicNumber_eq_some_iff.1 hdecode).2

/-- Before the counter wraps, the ids are those of the numbers from the counter on. -/
theorem mem_generateWorkspaceIds {calls : ℕ} (h : counter + calls ≤ 2 ^ 64) :
    id ∈ generateWorkspaceIds counter calls ↔
      ∃ n, counter ≤ n ∧ n < counter + calls ∧ workspaceIdForNumber n = id := by
  induction calls generalizing counter with
  | zero =>
    rw [generateWorkspaceIds]
    simp only [List.not_mem_nil, false_iff]
    rintro ⟨n, hle, hlt, -⟩
    omega
  | succ calls ih =>
    rw [generateWorkspaceIds, List.mem_cons]
    rcases Nat.eq_zero_or_pos calls with rfl | hcalls
    · rw [generateWorkspaceIds]
      simp only [List.not_mem_nil, or_false, generateWorkspaceId]
      constructor
      · rintro rfl
        exact ⟨counter, le_rfl, by omega, rfl⟩
      · rintro ⟨n, hle, hlt, rfl⟩
        rw [show n = counter by omega]
    · have hnext : (generateWorkspaceId counter).2 = counter + 1 := Nat.mod_eq_of_lt (by omega)
      rw [hnext, ih (by omega)]
      constructor
      · rintro (rfl | ⟨n, hle, hlt, rfl⟩)
        · exact ⟨counter, le_rfl, by omega, rfl⟩
        · exact ⟨n, by omega, by omega, rfl⟩
      · rintro ⟨n, hle, hlt, rfl⟩
        rcases hle.eq_or_lt with rfl | hle
        · exact .inl rfl
        · exact .inr ⟨n, hle, by omega, rfl⟩

theorem nodup_generateWorkspaceIds {calls : ℕ} (hpos : 0 < counter) (h : counter + calls ≤ 2 ^ 64) :
    (generateWorkspaceIds counter calls).Nodup := by
  induction calls generalizing counter with
  | zero => exact List.nodup_nil
  | succ calls ih =>
    rw [generateWorkspaceIds, List.nodup_cons]
    rcases Nat.eq_zero_or_pos calls with rfl | hcalls
    · exact ⟨List.not_mem_nil, List.nodup_nil⟩
    · have hnext : (generateWorkspaceId counter).2 = counter + 1 := Nat.mod_eq_of_lt (by omega)
      rw [hnext]
      refine ⟨fun hmem ↦ ?_, ih (by omega) (by omega)⟩
      obtain ⟨n, hle, hlt, hid⟩ := (mem_generateWorkspaceIds (by omega)).1 hmem
      have hnumber := congrArg publicWorkspaceNumber hid
      rw [generateWorkspaceId, publicWorkspaceNumber_workspaceIdForNumber (by omega) (by omega),
        publicWorkspaceNumber_workspaceIdForNumber hpos (by omega), Option.some_inj] at hnumber
      omega

/-! ## Reserved ids -/

/-- The ids that are generated after a reservation are new : no two are the same, and none was
restored or generated before. -/
structure FreshIds (restored : List String) (counter calls : ℕ) : Prop where
  distinct : (generateWorkspaceIds (reserveWorkspaceIds restored counter) calls).Nodup
  notRestored : ∀ id ∈ restored,
    id ∉ generateWorkspaceIds (reserveWorkspaceIds restored counter) calls
  notEarlier : ∀ n, 0 < n → n < counter →
    workspaceIdForNumber n ∉ generateWorkspaceIds (reserveWorkspaceIds restored counter) calls

theorem le_reserveWorkspaceIds (ids : List String) (counter : ℕ) :
    counter ≤ reserveWorkspaceIds ids counter := by
  unfold reserveWorkspaceIds
  split
  · exact le_rfl
  · split_ifs <;> omega

theorem reserveWorkspaceIds_eq {ids : List String} {max : ℕ}
    (hmax : (ids.filterMap publicWorkspaceNumber).max? = some max) :
    reserveWorkspaceIds ids counter =
      if max + 1 < 2 ^ 64 ∧ counter < max + 1 then max + 1 else counter := by
  rw [reserveWorkspaceIds, hmax, Option.bind_some, checkedUsize]
  split_ifs <;> grind

theorem lt_reserveWorkspaceIds {ids : List String} (counter : ℕ)
    (hlast : ∀ id ∈ ids, publicWorkspaceNumber id ≠ some (2 ^ 64 - 1)) (hid : id ∈ ids)
    (h : publicWorkspaceNumber id = some n) : n < reserveWorkspaceIds ids counter := by
  have hmem : n ∈ ids.filterMap publicWorkspaceNumber := List.mem_filterMap.2 ⟨id, hid, h⟩
  obtain ⟨max, hmax⟩ := Option.isSome_iff_exists.1 (List.isSome_max?_of_mem hmem)
  obtain ⟨hmaxmem, hle⟩ := List.max?_eq_some_iff.1 hmax
  obtain ⟨id', hid', hnumber⟩ := List.mem_filterMap.1 hmaxmem
  have hlt := publicWorkspaceNumber_lt hnumber
  have hne : max ≠ 2 ^ 64 - 1 := fun heq ↦ hlast id' hid' (heq ▸ hnumber)
  have hnle := hle n hmem
  rw [reserveWorkspaceIds_eq hmax]
  split_ifs <;> omega

theorem freshIds_of_reserved {restored : List String} {calls : ℕ}
    (hlast : ∀ id ∈ restored, publicWorkspaceNumber id ≠ some (2 ^ 64 - 1)) (hpos : 0 < counter)
    (h : reserveWorkspaceIds restored counter + calls ≤ 2 ^ 64) :
    FreshIds restored counter calls := by
  have hle := le_reserveWorkspaceIds restored counter
  refine ⟨nodup_generateWorkspaceIds (by omega) h, fun id hid hmem ↦ ?_, fun n hn hlt hmem ↦ ?_⟩
  · obtain ⟨n, hnext, hlt, rfl⟩ := (mem_generateWorkspaceIds h).1 hmem
    have hnumber := publicWorkspaceNumber_workspaceIdForNumber (by omega : 0 < n) (by omega)
    have hreserved := lt_reserveWorkspaceIds counter hlast hid hnumber
    omega
  · obtain ⟨m, hnext, hlt', hid⟩ := (mem_generateWorkspaceIds h).1 hmem
    have hnumber := congrArg publicWorkspaceNumber hid
    rw [publicWorkspaceNumber_workspaceIdForNumber (by omega) (by omega),
      publicWorkspaceNumber_workspaceIdForNumber hn (by omega), Option.some_inj] at hnumber
    omega

/-- Where the largest number there is was restored, nothing is reserved. -/
theorem reserveWorkspaceIds_of_last {restored : List String} (hid : id ∈ restored)
    (h : publicWorkspaceNumber id = some (2 ^ 64 - 1)) (counter : ℕ) :
    reserveWorkspaceIds restored counter = counter := by
  have hmem : 2 ^ 64 - 1 ∈ restored.filterMap publicWorkspaceNumber :=
    List.mem_filterMap.2 ⟨id, hid, h⟩
  obtain ⟨max, hmax⟩ := Option.isSome_iff_exists.1 (List.isSome_max?_of_mem hmem)
  have hle := (List.max?_eq_some_iff.1 hmax).2 _ hmem
  rw [reserveWorkspaceIds_eq hmax, if_neg (by omega)]

theorem freshIds_iff {restored : List String} :
    (∀ counter calls, 0 < counter → reserveWorkspaceIds restored counter + calls ≤ 2 ^ 64 →
      FreshIds restored counter calls) ↔
    ∀ id ∈ restored, publicWorkspaceNumber id ≠ some (2 ^ 64 - 1) := by
  constructor
  · intro h id hid hnumber
    have hreserve := reserveWorkspaceIds_of_last hid hnumber 1
    have hfresh := h 1 (2 ^ 64 - 1) (by decide) (by rw [hreserve]; decide)
    refine hfresh.notRestored id hid ?_
    rw [hreserve]
    refine (mem_generateWorkspaceIds (by decide)).2 ⟨2 ^ 64 - 1, by decide, by decide, ?_⟩
    exact workspaceIdForNumber_publicWorkspaceNumber (by decide) hnumber
  · exact fun hlast counter calls ↦ freshIds_of_reserved hlast

end Zynk
