import Mathlib.Algebra.Order.Ring.Rat
import Mathlib.Data.NNRat.BigOperators
import Mathlib.Data.Prod.Lex
import Mathlib.Data.String.Basic
import Zynk.Lib.Assoc
import Zynk.Lib.Sort

/-!
# Reciprocal rank fusion

A query is answered from two ranked lists, the lexical one and that of the vector index.
`rrfFuse` joins ranked lists of ids into one : a list gives `weight / (k + rank)` to the first
rank of each of its ids, the contributions are added up in a hash map, and the entries are sorted
by score, the highest first, and by id where scores are equal. `fuseResults` puts the hits back in
the place of their ids. Scores are exact rationals here.
-/

namespace Zynk.Retrieval

/-! ## Fusion -/

/-- `RRF_K`. -/
def rrfK : ℚ≥0 :=
  60

/-- The scores so far, and the ids that the list at hand has contributed to. -/
abbrev Scoring :=
  Assoc String ℚ≥0 × Finset String

/-- One entry of a list. Only the first rank of an id counts. -/
def contribute (weight k : ℚ≥0) (acc : Scoring) (e : String × ℕ) : Scoring :=
  if e.1 ∈ acc.2 then acc
  else
    (acc.1.insert e.1 ((acc.1.lookup e.1).getD 0 + weight / (k + (e.2 + 1 : ℕ))), insert e.1 acc.2)

def addList (k : ℚ≥0) (scores : Assoc String ℚ≥0) (l : ℚ≥0 × List String) : Assoc String ℚ≥0 :=
  (l.2.zipIdx.foldl (contribute l.1 k) (scores, ∅)).1

def fusionScores (lists : List (ℚ≥0 × List String)) (k : ℚ≥0) : Assoc String ℚ≥0 :=
  lists.foldl (addList k) ∅

/-- Scores descend, ids ascend. -/
def fusionKey (e : String × ℚ≥0) : ℚ≥0ᵒᵈ ×ₗ String :=
  toLex (OrderDual.toDual e.2, e.1)

/-- The sort of what the hash map gives, in the order in which it gives it. -/
def sortFused (collected : List (String × ℚ≥0)) : List (String × ℚ≥0) :=
  collected.sortByKey fusionKey

def rrfFuse (lists : List (ℚ≥0 × List String)) (k : ℚ≥0) : List (String × ℚ≥0) :=
  sortFused ((fusionScores lists k).entries.map fun e => (e.1, e.2))

/-! ## Hits -/

structure QueryHit where
  messageId : String
  conversationId : String
  conversationSeq : ℤ
  messageType : Option String
  sender : String
  recipient : String
  workspaceId : String
  tabId : String
  branch : Option String
  cwd : Option String
  createdAt : String
  traceId : Option String
  score : ℚ
  matchedModes : List String
  bm25Rank : Option ℤ
  vectorRank : Option ℤ
  snippet : Option String
  deliveryStatus : Option String
deriving DecidableEq

structure VectorOutcome where
  hits : List QueryHit
  functional : Bool
  pendingJobs : ℤ
  modelId : Option String

/-- The health of the vector index, as it is reported. -/
structure VectorIndex where
  ready : Bool
  pendingJobs : ℤ
  modelId : Option String
deriving DecidableEq

structure QueryFilters where
  limit : ℕ

def maxLimit : ℕ :=
  200

def QueryFilters.effectiveLimit (filters : QueryFilters) : ℕ :=
  min (max filters.limit 1) maxLimit

/-- The ids of hits, the best one first. -/
def idsOf (hits : List QueryHit) : List String :=
  hits.map (·.messageId)

/-- `bm25_pos`, `vec_pos` : positions from 1. -/
def positions (ids : List String) : Assoc String ℤ :=
  Assoc.ofList (ids.zipIdx.map fun e => (e.1, (e.2 : ℤ) + 1))

/-- `entry(id).or_insert(hit)`. -/
def keepFirst (provenance : Assoc String QueryHit) (hit : QueryHit) : Assoc String QueryHit :=
  if hit.messageId ∈ provenance then provenance else provenance.insert hit.messageId hit

/-- The hit of each id. The lexical one wins, it has the snippet. -/
def provenanceOf (bm25Hits vecHits : List QueryHit) : Assoc String QueryHit :=
  bm25Hits.foldl (fun provenance hit => provenance.insert hit.messageId hit)
    (vecHits.foldl keepFirst ∅)

def matchedModesOf (inBm25 inVec : Option ℤ) : List String :=
  (if inBm25.isSome then ["bm25"] else []) ++ if inVec.isSome then ["vector"] else []

/-- A hit with its ranks in the two lists and its score. -/
def QueryHit.ranked (hit : QueryHit) (inBm25 inVec : Option ℤ) (score : ℚ) : QueryHit :=
  { hit with
    matchedModes := matchedModesOf inBm25 inVec
    bm25Rank := inBm25
    vectorRank := inVec
    score := score }

/-- One turn of the loop over the fused ids : the hit leaves the map. -/
def pushHit (bm25Pos vecPos : Assoc String ℤ) (acc : Assoc String QueryHit × List QueryHit)
    (e : String × ℚ≥0) : Assoc String QueryHit × List QueryHit :=
  match acc.1.lookup e.1 with
  | none => acc
  | some hit =>
    (acc.1.erase e.1,
      acc.2 ++ [hit.ranked (bm25Pos.lookup e.1) (vecPos.lookup e.1) (e.2 : ℚ)])

def fuseResults (bm25Hits : List QueryHit) (vec : VectorOutcome) (filters : QueryFilters) :
    List QueryHit × String × VectorIndex :=
  let limit := filters.effectiveLimit
  let vectorIndex : VectorIndex :=
    { ready := vec.functional && vec.pendingJobs == 0
      pendingJobs := vec.pendingJobs
      modelId := vec.modelId }
  if !vec.functional || vec.hits.isEmpty then (bm25Hits.take limit, "bm25", vectorIndex)
  else
    let fused := rrfFuse [(1, idsOf bm25Hits), (1, idsOf vec.hits)] rrfK
    let results := (fused.take limit).foldl
      (pushHit (positions (idsOf bm25Hits)) (positions (idsOf vec.hits)))
      (provenanceOf bm25Hits vec.hits, [])
    (results.2, "rrf", vectorIndex)

end Zynk.Retrieval
