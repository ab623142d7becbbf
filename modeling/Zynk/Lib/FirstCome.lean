import Mathlib.Data.Finset.Union

/-!
# First come, first served

Things with a key come one after the other, and one is served when it is allowed and no thing
with its key was served before. Everything that is allowed has its key served in the end
(`mem_servedKeys_of_allowed`), no key is served twice (`nodup_map_firstCome`), and what comes in
two parts is served in two parts (`firstCome_append`).
-/

section FirstCome

variable {α κ : Type} [DecidableEq κ]

/-- What is served of the list, with the keys `taken` served before. -/
def firstCome (key : α → κ) (allowed : α → Bool) (taken : Finset κ) : List α → List α
  | [] => []
  | a :: l =>
    if allowed a ∧ key a ∉ taken then a :: firstCome key allowed (insert (key a) taken) l
    else firstCome key allowed taken l

/-- The keys that are served afterwards. -/
def servedKeys (key : α → κ) (allowed : α → Bool) (taken : Finset κ) (l : List α) : Finset κ :=
  taken ∪ ((firstCome key allowed taken l).map key).toFinset

variable {key : α → κ} {allowed : α → Bool} {taken : Finset κ} {l : List α} {a : α}

theorem firstCome_cons_of_served (h : allowed a ∧ key a ∉ taken) (l : List α) :
    firstCome key allowed taken (a :: l) = a :: firstCome key allowed (insert (key a) taken) l :=
  if_pos h

theorem firstCome_cons_of_not (h : ¬ (allowed a ∧ key a ∉ taken)) (l : List α) :
    firstCome key allowed taken (a :: l) = firstCome key allowed taken l :=
  if_neg h

@[simp] theorem servedKeys_nil : servedKeys key allowed taken [] = taken := by
  simp [servedKeys, firstCome]

theorem servedKeys_cons_of_served (h : allowed a ∧ key a ∉ taken) (l : List α) :
    servedKeys key allowed taken (a :: l) = servedKeys key allowed (insert (key a) taken) l := by
  rw [servedKeys, servedKeys, firstCome_cons_of_served h, List.map_cons, List.toFinset_cons,
    Finset.union_insert, Finset.insert_union]

theorem servedKeys_cons_of_not (h : ¬ (allowed a ∧ key a ∉ taken)) (l : List α) :
    servedKeys key allowed taken (a :: l) = servedKeys key allowed taken l := by
  rw [servedKeys, servedKeys, firstCome_cons_of_not h]

theorem servedKeys_append (l l' : List α) : servedKeys key allowed taken (l ++ l') =
    servedKeys key allowed (servedKeys key allowed taken l) l' := by
  induction l generalizing taken with
  | nil => rw [servedKeys_nil, List.nil_append]
  | cons a l ih =>
    rw [List.cons_append]
    by_cases h : allowed a ∧ key a ∉ taken
    · rw [servedKeys_cons_of_served h, servedKeys_cons_of_served h, ih]
    · rw [servedKeys_cons_of_not h, servedKeys_cons_of_not h, ih]

theorem firstCome_append (l l' : List α) : firstCome key allowed taken (l ++ l') =
    firstCome key allowed taken l ++
      firstCome key allowed (servedKeys key allowed taken l) l' := by
  induction l generalizing taken with
  | nil => rw [servedKeys_nil, List.nil_append, firstCome, List.nil_append]
  | cons a l ih =>
    rw [List.cons_append]
    by_cases h : allowed a ∧ key a ∉ taken
    · rw [firstCome_cons_of_served h, firstCome_cons_of_served h, servedKeys_cons_of_served h, ih,
        List.cons_append]
    · rw [firstCome_cons_of_not h, firstCome_cons_of_not h, servedKeys_cons_of_not h, ih]

theorem firstCome_sublist (key : α → κ) (allowed : α → Bool) (taken : Finset κ) (l : List α) :
    (firstCome key allowed taken l).Sublist l := by
  induction l generalizing taken with
  | nil => exact List.Sublist.slnil
  | cons a l ih =>
    by_cases h : allowed a ∧ key a ∉ taken
    · rw [firstCome_cons_of_served h]
      exact (ih _).cons_cons a
    · rw [firstCome_cons_of_not h]
      exact (ih _).cons a

theorem of_mem_firstCome (h : a ∈ firstCome key allowed taken l) :
    a ∈ l ∧ allowed a ∧ key a ∉ taken := by
  refine ⟨(firstCome_sublist _ _ _ _).mem h, ?_⟩
  induction l generalizing taken with
  | nil => cases h
  | cons b l ih =>
    by_cases hb : allowed b ∧ key b ∉ taken
    · rw [firstCome_cons_of_served hb] at h
      rcases List.mem_cons.1 h with rfl | h
      · exact hb
      · obtain ⟨hallowed, hnot⟩ := ih h
        exact ⟨hallowed, fun hmem => hnot (Finset.mem_insert_of_mem hmem)⟩
    · rw [firstCome_cons_of_not hb] at h
      exact ih h

theorem nodup_map_firstCome (key : α → κ) (allowed : α → Bool) (taken : Finset κ) (l : List α) :
    ((firstCome key allowed taken l).map key).Nodup := by
  induction l generalizing taken with
  | nil => exact List.nodup_nil
  | cons a l ih =>
    by_cases h : allowed a ∧ key a ∉ taken
    · rw [firstCome_cons_of_served h, List.map_cons, List.nodup_cons]
      refine ⟨fun hmem => ?_, ih _⟩
      obtain ⟨b, hb, heq⟩ := List.mem_map.1 hmem
      exact (of_mem_firstCome hb).2.2 (heq ▸ Finset.mem_insert_self _ _)
    · rw [firstCome_cons_of_not h]
      exact ih _

theorem subset_servedKeys (key : α → κ) (allowed : α → Bool) (taken : Finset κ) (l : List α) :
    taken ⊆ servedKeys key allowed taken l :=
  Finset.subset_union_left

theorem mem_servedKeys_of_allowed (h : a ∈ l) (hallowed : allowed a) :
    key a ∈ servedKeys key allowed taken l := by
  obtain ⟨before, behind, rfl⟩ := List.append_of_mem h
  rw [servedKeys_append]
  generalize servedKeys key allowed taken before = taken
  by_cases hserved : allowed a ∧ key a ∉ taken
  · rw [servedKeys_cons_of_served hserved]
    exact subset_servedKeys _ _ _ _ (Finset.mem_insert_self _ _)
  · rw [servedKeys_cons_of_not hserved]
    refine subset_servedKeys _ _ _ _ ?_
    by_contra hnot
    exact hserved ⟨hallowed, hnot⟩

theorem mem_servedKeys {k : κ} : k ∈ servedKeys key allowed taken l ↔
    k ∈ taken ∨ ∃ a ∈ firstCome key allowed taken l, key a = k := by
  rw [servedKeys, Finset.mem_union, List.mem_toFinset, List.mem_map]

end FirstCome

/-! ## Parts of a list -/

/-- What one part of a list of parts gains comes last. -/
theorem List.flatMap_perm_append {α β : Type} {parts : List α} {f g : α → List β} {a : α}
    {new : List β} (hnodup : parts.Nodup) (ha : a ∈ parts) (hnew : g a = f a ++ new)
    (hrest : ∀ b ≠ a, g b = f b) : (parts.flatMap g).Perm (parts.flatMap f ++ new) := by
  obtain ⟨before, behind, rfl⟩ := List.append_of_mem ha
  have hsame : ∀ l : List α, a ∉ l → l.flatMap g = l.flatMap f := fun l hl =>
    List.flatMap_congr fun b hb => hrest b fun heq => hl (heq ▸ hb)
  obtain ⟨hbefore, hbehind⟩ : a ∉ before ∧ a ∉ behind := by
    rw [List.nodup_middle, List.nodup_cons, List.mem_append, not_or] at hnodup
    exact hnodup.1
  rw [List.flatMap_append, List.flatMap_append, List.flatMap_cons, List.flatMap_cons, hnew,
    hsame before hbefore, hsame behind hbehind]
  simp only [List.append_assoc]
  exact (List.perm_append_comm.append_left _).append_left _
