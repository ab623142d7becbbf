import Zynk.Retrieval.Fusion

/-!
# A fused ranking is the sum of its lists

`IsFusion` says what a fusion is for : each id of the lists once, with the sum of what its lists
give to its first rank, in descending order of scores and then in the order of ids. There is only
one such list (`IsFusion.unique`), so neither the order of the hash map nor that of the lists
matters (`rrfFuse_isFusion`, `rrfFuse_perm`). `IsHybrid` says what a hybrid result is : the hits
of the first ids of the fusion, with their ranks in both lists.
-/

namespace Zynk.Retrieval

open List

/-! ## Scores -/

/-- What the lists that contain an id give to its first rank. -/
def fusedScore (lists : List (ℚ≥0 × List String)) (k : ℚ≥0) (id : String) : ℚ≥0 :=
  ((lists.filter fun l => id ∈ l.2).map fun l => l.1 / (k + (l.2.idxOf id + 1 : ℕ))).sum

/-- What the fold of a list has done after some of its ids. -/
theorem foldl_contribute (weight k : ℚ≥0) (scores : Assoc String ℚ≥0) (ids : List String) :
    (ids.zipIdx.foldl (contribute weight k) (scores, ∅)).2 = ids.toFinset ∧
      ∀ id, (ids.zipIdx.foldl (contribute weight k) (scores, ∅)).1.lookup id =
        if id ∈ ids then
          some ((scores.lookup id).getD 0 + weight / (k + (ids.idxOf id + 1 : ℕ)))
        else scores.lookup id := by
  induction ids using List.reverseRecOn with
  | nil => simp
  | append_singleton ids x ih =>
    obtain ⟨hseen, hlookup⟩ := ih
    rw [zipIdx_append, foldl_append]
    generalize ids.zipIdx.foldl (contribute weight k) (scores, ∅) = acc at hseen hlookup ⊢
    simp only [zipIdx_singleton, foldl_cons, foldl_nil, contribute, hseen, mem_toFinset]
    by_cases hx : x ∈ ids
    · -- A later rank of an id that has one.
      rw [if_pos hx]
      refine ⟨by simp [hseen, hx], fun id => ?_⟩
      rw [hlookup]
      by_cases hid : id ∈ ids
      · rw [if_pos hid, if_pos (mem_append_left _ hid), idxOf_append_of_mem hid]
      · have hne : id ≠ x := fun heq => hid (heq ▸ hx)
        rw [if_neg hid, if_neg (by simp [hid, hne])]
    · rw [if_neg hx]
      refine ⟨by ext; simp, fun id => ?_⟩
      by_cases hid : id = x
      · subst hid
        rw [AList.lookup_insert, hlookup, if_neg hx, if_pos (by simp),
          idxOf_append_of_notMem hx]
        simp
      · rw [AList.lookup_insert_ne hid, hlookup]
        by_cases hmem : id ∈ ids
        · rw [if_pos hmem, if_pos (mem_append_left _ hmem), idxOf_append_of_mem hmem]
        · rw [if_neg hmem, if_neg (by simp [hmem, hid])]

theorem lookup_addList (k : ℚ≥0) (scores : Assoc String ℚ≥0) (l : ℚ≥0 × List String)
    (id : String) :
    (addList k scores l).lookup id =
      if id ∈ l.2 then some ((scores.lookup id).getD 0 + l.1 / (k + (l.2.idxOf id + 1 : ℕ)))
      else scores.lookup id :=
  (foldl_contribute l.1 k scores l.2).2 id

theorem lookup_fusionScores (lists : List (ℚ≥0 × List String)) (k : ℚ≥0) (id : String) :
    (fusionScores lists k).lookup id =
      if ∃ l ∈ lists, id ∈ l.2 then some (fusedScore lists k id) else none := by
  induction lists using List.reverseRecOn with
  | nil => simp [fusionScores]
  | append_singleton lists l ih =>
    have hscores : fusionScores (lists ++ [l]) k = addList k (fusionScores lists k) l := by
      simp [fusionScores]
    have hsum : fusedScore (lists ++ [l]) k id = fusedScore lists k id +
        if id ∈ l.2 then l.1 / (k + (l.2.idxOf id + 1 : ℕ)) else 0 := by
      by_cases hid : id ∈ l.2 <;> simp [fusedScore, filter_append, hid]
    -- Without a list that contains it the sum is empty.
    have hnone : (¬ ∃ l ∈ lists, id ∈ l.2) → fusedScore lists k id = 0 := by
      intro hnot
      have hfilter : (lists.filter fun l => id ∈ l.2) = [] := by
        rw [filter_eq_nil_iff]
        intro l hl hid
        exact hnot ⟨l, hl, of_decide_eq_true hid⟩
      rw [fusedScore, hfilter]
      rfl
    rw [hscores, lookup_addList, ih, hsum]
    by_cases hid : id ∈ l.2
    · have hlast : ∃ l' ∈ lists ++ [l], id ∈ l'.2 := ⟨l, by simp, hid⟩
      rw [if_pos hid, if_pos hid, if_pos hlast]
      by_cases hex : ∃ l ∈ lists, id ∈ l.2
      · rw [if_pos hex, Option.getD_some]
      · rw [if_neg hex, Option.getD_none, hnone hex]
    · rw [if_neg hid, if_neg hid, add_zero]
      refine if_congr ?_ rfl rfl
      simp [hid, or_and_right, exists_or]

variable {lists : List (ℚ≥0 × List String)}

theorem fusedScore_perm {lists' : List (ℚ≥0 × List String)} (h : lists ~ lists') (k : ℚ≥0)
    (id : String) : fusedScore lists k id = fusedScore lists' k id :=
  ((h.filter _).map _).sum_eq

/-! ## The fused list -/

/-- The fusion of lists. -/
structure IsFusion (lists : List (ℚ≥0 × List String)) (k : ℚ≥0)
    (fused : List (String × ℚ≥0)) : Prop where
  nodup : (fused.map (·.1)).Nodup
  mem_iff : ∀ id, id ∈ fused.map (·.1) ↔ ∃ l ∈ lists, id ∈ l.2
  score : ∀ e ∈ fused, e.2 = fusedScore lists k e.1
  sorted : fused.Pairwise fun a b => b.2 < a.2 ∨ a.2 = b.2 ∧ a.1 < b.1

theorem fusionKey_injective : Function.Injective fusionKey := by
  rintro ⟨id, score⟩ ⟨id', score'⟩ h
  have h := Prod.ext_iff.1 (toLex.injective h)
  exact Prod.ext h.2 (OrderDual.toDual.injective h.1)

theorem fusionKey_lt {a b : String × ℚ≥0} :
    fusionKey a < fusionKey b ↔ b.2 < a.2 ∨ a.2 = b.2 ∧ a.1 < b.1 := by
  simp [fusionKey, Prod.Lex.toLex_lt_toLex]

theorem sortFused_eq_of_perm {collected collected' : List (String × ℚ≥0)}
    (h : collected ~ collected') : sortFused collected = sortFused collected' :=
  sortByKey_eq_of_perm h fun _ _ _ _ heq => fusionKey_injective heq

/-- What the hash map gives, in some order. -/
theorem mem_collected {scores : Assoc String ℚ≥0} {e : String × ℚ≥0} :
    e ∈ scores.entries.map (fun e => (e.1, e.2)) ↔ scores.lookup e.1 = some e.2 := by
  rw [← Option.mem_def, AList.mem_lookup_iff, mem_map]
  constructor
  · rintro ⟨entry, hentry, rfl⟩
    exact hentry
  · exact fun h => ⟨_, h, rfl⟩

theorem rrfFuse_isFusion (lists : List (ℚ≥0 × List String)) (k : ℚ≥0) :
    IsFusion lists k (rrfFuse lists k) := by
  have hmem (e : String × ℚ≥0) : e ∈ rrfFuse lists k ↔
      (∃ l ∈ lists, e.1 ∈ l.2) ∧ e.2 = fusedScore lists k e.1 := by
    rw [rrfFuse, sortFused, mem_sortByKey, mem_collected, lookup_fusionScores]
    split_ifs with hex <;> simp [hex, eq_comm]
  have hnodup : ((rrfFuse lists k).map (·.1)).Nodup := by
    have hperm := (perm_sortByKey fusionKey
      ((fusionScores lists k).entries.map fun e => (e.1, e.2))).map (·.1)
    refine hperm.nodup_iff.2 ?_
    rw [map_map]
    exact (fusionScores lists k).keys_nodup
  refine ⟨hnodup, fun id => ?_, fun e he => ((hmem e).1 he).2, ?_⟩
  · rw [mem_map]
    constructor
    · rintro ⟨e, he, rfl⟩
      exact ((hmem e).1 he).1
    · exact fun hex => ⟨(id, fusedScore lists k id), (hmem _).2 ⟨hex, rfl⟩, rfl⟩
  · -- The keys are distinct, so the sort is strict.
    have hsorted := pairwise_sortByKey fusionKey
      ((fusionScores lists k).entries.map fun e => (e.1, e.2))
    refine (hsorted.and (pairwise_map.1 hnodup)).imp fun ⟨hle, hne⟩ => fusionKey_lt.1 ?_
    exact lt_of_le_of_ne hle fun heq => hne (congrArg _ (fusionKey_injective heq))

variable {fused : List (String × ℚ≥0)}

/-- There is one fusion of lists. -/
theorem IsFusion.unique {k : ℚ≥0} {fused' : List (String × ℚ≥0)} (h : IsFusion lists k fused)
    (h' : IsFusion lists k fused') : fused = fused' := by
  have hmem {fused : List (String × ℚ≥0)} (h : IsFusion lists k fused) (e : String × ℚ≥0) :
      e ∈ fused ↔ (∃ l ∈ lists, e.1 ∈ l.2) ∧ e.2 = fusedScore lists k e.1 := by
    refine ⟨fun he => ⟨(h.mem_iff _).1 (mem_map_of_mem he), h.score e he⟩, ?_⟩
    rintro ⟨hex, hscore⟩
    obtain ⟨e', he', hid⟩ := mem_map.1 ((h.mem_iff _).2 hex)
    obtain rfl : e' = e := Prod.ext hid (by rw [h.score e' he', hscore, hid])
    exact he'
  have hperm : fused ~ fused' :=
    (perm_ext_iff_of_nodup h.nodup.of_map h'.nodup.of_map).2 fun e =>
      (hmem h e).trans (hmem h' e).symm
  have hsorted := h.sorted.imp fusionKey_lt.2
  have hsorted' := h'.sorted.imp fusionKey_lt.2
  exact hperm.eq_of_pairwise (fun a b _ _ hab hba => absurd hab hba.not_gt) hsorted hsorted'

theorem IsFusion.of_perm {lists' : List (ℚ≥0 × List String)} {k : ℚ≥0} (h : IsFusion lists k fused)
    (hperm : lists ~ lists') : IsFusion lists' k fused where
  nodup := h.nodup
  mem_iff id := (h.mem_iff id).trans <| by simp only [hperm.mem_iff]
  score e he := (h.score e he).trans (fusedScore_perm hperm k e.1)
  sorted := h.sorted

theorem rrfFuse_perm {lists' : List (ℚ≥0 × List String)} (hperm : lists ~ lists') (k : ℚ≥0) :
    rrfFuse lists k = rrfFuse lists' k :=
  ((rrfFuse_isFusion lists k).of_perm hperm).unique (rrfFuse_isFusion lists' k)

/-! ## Hybrid results -/

/-- The rank of an id among hits. -/
def rankIn (hits : List QueryHit) (id : String) : Option ℤ :=
  if id ∈ idsOf hits then some ((idsOf hits).idxOf id + 1) else none

/-- The hit of an id, the lexical one where there is one. -/
def IsEntry (bm25Hits vecHits : List QueryHit) (id : String) (hit : QueryHit) : Prop :=
  hit.messageId = id ∧ (hit ∈ bm25Hits ∨ hit ∈ vecHits ∧ id ∉ idsOf bm25Hits)

/-- A hit of the lists, put in its place in the fusion. -/
def IsRanked (bm25Hits vecHits : List QueryHit) (e : String × ℚ≥0) (hit : QueryHit) : Prop :=
  ∃ entry, IsEntry bm25Hits vecHits e.1 entry ∧
    hit = { entry with
      matchedModes := (if e.1 ∈ idsOf bm25Hits then ["bm25"] else []) ++
        if e.1 ∈ idsOf vecHits then ["vector"] else []
      bm25Rank := rankIn bm25Hits e.1
      vectorRank := rankIn vecHits e.1
      score := (e.2 : ℚ) }

theorem isSome_rankIn (hits : List QueryHit) (id : String) :
    (rankIn hits id).isSome = decide (id ∈ idsOf hits) := by
  rw [rankIn]
  split_ifs with h <;> simp [h]

theorem lookup_positions {ids : List String} (hnodup : ids.Nodup) (id : String) :
    (positions ids).lookup id = if id ∈ ids then some ((ids.idxOf id : ℤ) + 1) else none := by
  have hkeys : (ids.zipIdx.map fun e => (e.1, (e.2 : ℤ) + 1)).map (·.1) = ids := by
    rw [map_map]
    exact zipIdx_map_fst 0 ids
  by_cases hid : id ∈ ids
  · rw [if_pos hid, positions, Assoc.lookup_ofList_of_nodup (by rwa [hkeys]), mem_map]
    refine ⟨(id, ids.idxOf id), ?_, rfl⟩
    rw [mem_zipIdx_iff_getElem?]
    exact getElem?_idxOf hid
  · rw [if_neg hid, positions, Assoc.lookup_ofList_eq_none, hkeys]
    exact hid

theorem lookup_positions_idsOf {hits : List QueryHit} (hnodup : (idsOf hits).Nodup)
    (id : String) : (positions (idsOf hits)).lookup id = rankIn hits id :=
  lookup_positions hnodup id

variable {id : String}

/-- The vector hits, the first one of an id. -/
theorem lookup_foldl_keepFirst {hits : List QueryHit} {hit : QueryHit}
    (h : (hits.foldl keepFirst ∅).lookup id = some hit) : hit ∈ hits ∧ hit.messageId = id := by
  induction hits using List.reverseRecOn with
  | nil => simp at h
  | append_singleton hits last ih =>
    rw [foldl_append, foldl_cons, foldl_nil, keepFirst] at h
    split_ifs at h
    · exact ⟨mem_append_left _ (ih h).1, (ih h).2⟩
    · by_cases hid : id = last.messageId
      · subst hid
        rw [AList.lookup_insert, Option.some.injEq] at h
        exact h ▸ ⟨by simp, rfl⟩
      · rw [AList.lookup_insert_ne hid] at h
        exact ⟨mem_append_left _ (ih h).1, (ih h).2⟩

theorem mem_foldl_keepFirst {hits : List QueryHit} :
    id ∈ hits.foldl keepFirst ∅ ↔ id ∈ idsOf hits := by
  induction hits using List.reverseRecOn with
  | nil => simp [idsOf]
  | append_singleton hits last ih =>
    have hids : idsOf (hits ++ [last]) = idsOf hits ++ [last.messageId] := by simp [idsOf]
    rw [foldl_append, foldl_cons, foldl_nil, keepFirst, hids, mem_append, mem_singleton, ← ih]
    split_ifs with hlast
    · refine ⟨Or.inl, ?_⟩
      rintro (hmem | rfl)
      · exact hmem
      · exact hlast
    · rw [AList.mem_insert, or_comm]

variable {bm25Hits vecHits : List QueryHit}

theorem lookup_provenanceOf {hit : QueryHit}
    (h : (provenanceOf bm25Hits vecHits).lookup id = some hit) :
    IsEntry bm25Hits vecHits id hit := by
  induction bm25Hits using List.reverseRecOn with
  | nil =>
    obtain ⟨hmem, hid⟩ := lookup_foldl_keepFirst h
    exact ⟨hid, Or.inr ⟨hmem, by simp [idsOf]⟩⟩
  | append_singleton hits last ih =>
    have hids : idsOf (hits ++ [last]) = idsOf hits ++ [last.messageId] := by simp [idsOf]
    have hfold : provenanceOf (hits ++ [last]) vecHits =
        (provenanceOf hits vecHits).insert last.messageId last := by
      simp [provenanceOf]
    rw [hfold] at h
    by_cases hid : id = last.messageId
    · subst hid
      rw [AList.lookup_insert, Option.some.injEq] at h
      exact h ▸ ⟨rfl, Or.inl (by simp)⟩
    · rw [AList.lookup_insert_ne hid] at h
      obtain ⟨hhit, hentry⟩ := ih h
      refine ⟨hhit, hentry.imp (mem_append_left _) fun ⟨hmem, hnot⟩ => ⟨hmem, ?_⟩⟩
      rw [hids]
      simp [hnot, hid]

theorem mem_provenanceOf :
    id ∈ provenanceOf bm25Hits vecHits ↔ id ∈ idsOf bm25Hits ∨ id ∈ idsOf vecHits := by
  induction bm25Hits using List.reverseRecOn with
  | nil =>
    rw [idsOf, map_nil, or_iff_right not_mem_nil]
    exact mem_foldl_keepFirst
  | append_singleton hits last ih =>
    have hids : idsOf (hits ++ [last]) = idsOf hits ++ [last.messageId] := by simp [idsOf]
    have hfold : provenanceOf (hits ++ [last]) vecHits =
        (provenanceOf hits vecHits).insert last.messageId last := by
      simp [provenanceOf]
    rw [hfold, AList.mem_insert, ih, hids, mem_append, mem_singleton]
    tauto

/-- The loop over fused ids that are distinct and have a hit. -/
theorem foldl_pushHit (bm25Pos vecPos : Assoc String ℤ) {provenance : Assoc String QueryHit}
    (results : List QueryHit) (hnodup : (fused.map (·.1)).Nodup)
    (hmem : ∀ e ∈ fused, e.1 ∈ provenance) :
    ∃ hits, (fused.foldl (pushHit bm25Pos vecPos) (provenance, results)).2 = results ++ hits ∧
      Forall₂ (fun e hit => ∃ entry, provenance.lookup e.1 = some entry ∧
        hit = entry.ranked (bm25Pos.lookup e.1) (vecPos.lookup e.1) (e.2 : ℚ)) fused hits := by
  induction fused generalizing provenance results with
  | nil => exact ⟨[], by simp, Forall₂.nil⟩
  | cons e fused ih =>
    obtain ⟨hnot, hnodup⟩ := nodup_cons.1 hnodup
    obtain ⟨entry, hentry⟩ := Option.isSome_iff_exists.1
      (AList.lookup_isSome.2 (hmem e mem_cons_self))
    have hne : ∀ e' ∈ fused, e'.1 ≠ e.1 := fun e' he' heq => hnot (mem_map.2 ⟨e', he', heq⟩)
    have hmem' : ∀ e' ∈ fused, e'.1 ∈ provenance.erase e.1 := fun e' he' =>
      AList.mem_erase.2 ⟨hne e' he', hmem e' (mem_cons_of_mem _ he')⟩
    obtain ⟨hits, heq, hhits⟩ := ih (results ++
      [entry.ranked (bm25Pos.lookup e.1) (vecPos.lookup e.1) (e.2 : ℚ)]) hnodup hmem'
    refine ⟨_ :: hits, ?_, Forall₂.cons ⟨entry, hentry, rfl⟩ ?_⟩
    · rw [foldl_cons, pushHit, hentry]
      simpa using heq
    · refine (forall₂_iff_zip.2 ⟨hhits.length_eq, fun {e' hit} hzip => ?_⟩)
      obtain ⟨entry', hentry', hhit⟩ := (forall₂_iff_zip.1 hhits).2 hzip
      rw [AList.lookup_erase_ne (hne e' (of_mem_zip hzip).1)] at hentry'
      exact ⟨entry', hentry', hhit⟩

/-- The hits of the first ids of the fusion, each in its place. -/
structure IsHybrid (bm25Hits vecHits : List QueryHit) (limit : ℕ) (results : List QueryHit) :
    Prop where
  ranked : Forall₂ (IsRanked bm25Hits vecHits)
    ((rrfFuse [(1, idsOf bm25Hits), (1, idsOf vecHits)] rrfK).take limit) results
  nodup : (idsOf results).Nodup

theorem IsRanked.messageId_eq {e : String × ℚ≥0} {hit : QueryHit}
    (h : IsRanked bm25Hits vecHits e hit) : hit.messageId = e.1 := by
  obtain ⟨entry, hentry, rfl⟩ := h
  exact hentry.1

theorem idsOf_eq_of_ranked {results : List QueryHit}
    (h : Forall₂ (IsRanked bm25Hits vecHits) fused results) : idsOf results = fused.map (·.1) := by
  induction h with
  | nil => rfl
  | cons hhit _ ih =>
    rw [idsOf, map_cons, map_cons, hhit.messageId_eq]
    exact congrArg _ ih

theorem fuseResults_of_hybrid {vec : VectorOutcome} (filters : QueryFilters)
    (hbm25 : (idsOf bm25Hits).Nodup) (hvec : (idsOf vec.hits).Nodup)
    (hfunctional : vec.functional = true) (hhits : vec.hits ≠ []) :
    (fuseResults bm25Hits vec filters).2.1 = "rrf" ∧
      IsHybrid bm25Hits vec.hits filters.effectiveLimit (fuseResults bm25Hits vec filters).1 := by
  have hfusion := rrfFuse_isFusion [(1, idsOf bm25Hits), (1, idsOf vec.hits)] rrfK
  have hcond : (!vec.functional || vec.hits.isEmpty) = false := by simp [hfunctional, hhits]
  simp only [fuseResults, hcond, Bool.false_eq_true, if_false, true_and]
  have hnodup : (((rrfFuse [(1, idsOf bm25Hits), (1, idsOf vec.hits)] rrfK).take
      filters.effectiveLimit).map (·.1)).Nodup :=
    hfusion.nodup.sublist ((take_sublist _ _).map _)
  have hmem : ∀ e ∈ (rrfFuse [(1, idsOf bm25Hits), (1, idsOf vec.hits)] rrfK).take
      filters.effectiveLimit, e.1 ∈ provenanceOf bm25Hits vec.hits := by
    intro e he
    rw [mem_provenanceOf]
    simpa using (hfusion.mem_iff e.1).1 (mem_map_of_mem (mem_of_mem_take he))
  obtain ⟨hits, heq, hhits⟩ := foldl_pushHit (positions (idsOf bm25Hits))
    (positions (idsOf vec.hits)) [] hnodup hmem
  rw [nil_append] at heq
  rw [heq]
  have hranked : Forall₂ (IsRanked bm25Hits vec.hits)
      ((rrfFuse [(1, idsOf bm25Hits), (1, idsOf vec.hits)] rrfK).take filters.effectiveLimit)
      hits := by
    refine hhits.imp fun e hit => ?_
    rintro ⟨entry, hentry, rfl⟩
    refine ⟨entry, lookup_provenanceOf hentry, ?_⟩
    rw [lookup_positions_idsOf hbm25, lookup_positions_idsOf hvec, QueryHit.ranked,
      matchedModesOf, isSome_rankIn, isSome_rankIn]
    simp only [decide_eq_true_eq]
  exact ⟨hranked, idsOf_eq_of_ranked hranked ▸ hnodup⟩

theorem fuseResults_of_degraded (bm25Hits : List QueryHit) {vec : VectorOutcome}
    (filters : QueryFilters) (h : vec.functional = false ∨ vec.hits = []) :
    (fuseResults bm25Hits vec filters).1 = bm25Hits.take filters.effectiveLimit ∧
      (fuseResults bm25Hits vec filters).2.1 = "bm25" := by
  have hcond : (!vec.functional || vec.hits.isEmpty) = true := by
    simpa using h
  simp [fuseResults, hcond]

/-! ## Hybrid ranking -/

/-- The ranking is the fusion of its lists, whatever the order of the lists and of the hash map,
and the hits of a query are in the order of that ranking. -/
theorem hybridRanking :
    (∀ lists k, IsFusion lists k (rrfFuse lists k)) ∧
    (∀ lists k collected,
      collected ~ (fusionScores lists k).entries.map (fun e => (e.1, e.2)) →
        sortFused collected = rrfFuse lists k) ∧
    (∀ lists lists' k, lists ~ lists' → rrfFuse lists k = rrfFuse lists' k) ∧
    ∀ bm25Hits vec filters, (idsOf bm25Hits).Nodup → (idsOf vec.hits).Nodup →
      (vec.functional = true ∧ vec.hits ≠ [] →
        (fuseResults bm25Hits vec filters).2.1 = "rrf" ∧
          IsHybrid bm25Hits vec.hits filters.effectiveLimit
            (fuseResults bm25Hits vec filters).1) ∧
      (vec.functional = false ∨ vec.hits = [] →
        (fuseResults bm25Hits vec filters).1 = bm25Hits.take filters.effectiveLimit ∧
          (fuseResults bm25Hits vec filters).2.1 = "bm25") := by
  refine ⟨rrfFuse_isFusion, fun lists k collected h => sortFused_eq_of_perm h,
    fun lists lists' k h => rrfFuse_perm h k, fun bm25Hits vec filters hbm25 hvec => ⟨?_, ?_⟩⟩
  · rintro ⟨hfunctional, hhits⟩
    exact fuseResults_of_hybrid filters hbm25 hvec hfunctional hhits
  · exact fuseResults_of_degraded bm25Hits filters

/-- A hit with nothing but an id. -/
def hitOf (id : String) : QueryHit where
  messageId := id
  conversationId := ""
  conversationSeq := 0
  messageType := none
  sender := ""
  recipient := ""
  workspaceId := ""
  tabId := ""
  branch := none
  cwd := none
  createdAt := ""
  traceId := none
  score := 0
  matchedModes := []
  bm25Rank := none
  vectorRank := none
  snippet := none
  deliveryStatus := none

theorem hybridRanking_two :
    (fuseResults [hitOf "a", hitOf "b"] ⟨[hitOf "b", hitOf "c"], true, 0, none⟩ ⟨2⟩).2.1 = "rrf" ∧
      IsHybrid [hitOf "a", hitOf "b"] [hitOf "b", hitOf "c"] 2
        (fuseResults [hitOf "a", hitOf "b"] ⟨[hitOf "b", hitOf "c"], true, 0, none⟩ ⟨2⟩).1 :=
  (hybridRanking.2.2.2 _ _ _ (by decide) (by decide)).1 ⟨rfl, by simp⟩

end Zynk.Retrieval
