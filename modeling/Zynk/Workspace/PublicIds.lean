import Zynk.Workspace.PublicNumbers

/-!
# Public ids

`app/ids.rs` makes the public ids of tabs and panes out of the id of the workspace and a number
within it, and reads ids in this and in older forms. An id that was made is read as what it was
made for (`parsePaneId_publicPaneId`, `parseTabId_publicTabId`), as long as no alias has taken it.
-/

namespace Zynk

open Text

/-! ## Reading from the right -/

/-- `rsplit_once` at a separator with at least one character. -/
def rsplitOnce (sep : Text) : Text → Option (Text × Text)
  | [] => none
  | c :: s =>
    match rsplitOnce sep s with
    | some (left, right) => some (c :: left, right)
    | none => if sep.isPrefixOf (c :: s) then some ([], (c :: s).drop sep.length) else none

theorem rsplitOnce_of_not_mem {c : Char} {cs s : Text} (h : c ∉ s) :
    rsplitOnce (c :: cs) s = none := by
  induction s with
  | nil => rfl
  | cons d s ih =>
    rw [List.mem_cons, not_or] at h
    rw [rsplitOnce, ih h.2]
    refine if_neg fun hlead ↦ h.1 ?_
    rw [List.isPrefixOf_iff_prefix, List.cons_prefix_cons] at hlead
    exact hlead.1

/-- The last separator is the one that nothing behind it can start. -/
theorem rsplitOnce_append {c : Char} {cs b : Text} (h : c ∉ cs ++ b) (a : Text) :
    rsplitOnce (c :: cs) (a ++ c :: (cs ++ b)) = some (a, b) := by
  induction a with
  | nil =>
    have hlead : (c :: cs).isPrefixOf (c :: (cs ++ b)) = true := by
      rw [List.isPrefixOf_iff_prefix]
      exact List.prefix_append (c :: cs) b
    rw [List.nil_append, rsplitOnce, rsplitOnce_of_not_mem h]
    simp only [hlead, if_true, List.length_cons, List.drop_succ_cons, List.drop_left]
  | cons d a ih => rw [List.cons_append, rsplitOnce, ih]

theorem stripPrefix_of_ne {lead : String} {c d : Char} {cs s : Text} (hlead : lead.toList = c :: cs)
    (h : c ≠ d) : stripPrefix lead (d :: s) = none := by
  rw [stripPrefix, hlead]
  refine if_neg fun hstart ↦ h ?_
  rw [List.isPrefixOf_iff_prefix, List.cons_prefix_cons] at hstart
  exact hstart.1

/-! ## State -/

/-- What `ids.rs` reads of the state. -/
structure AppIds where
  workspaces : List Workspace
  paneIdAliases : Assoc ℕ PaneId
  publicPaneIdAliases : Assoc String PaneId

namespace AppIds

def hasPane (ws : Workspace) (paneId : PaneId) : Bool :=
  ws.tabs.any fun tab ↦ (tab.panes.lookup paneId).isSome

/-- The workspace with the pane. -/
def findPane (app : AppIds) (paneId : PaneId) : Option ℕ :=
  app.workspaces.findIdx? (hasPane · paneId)

def publicTabId (app : AppIds) (wsIdx tabIdx : ℕ) : Option String := do
  let ws ← app.workspaces[wsIdx]?
  let tab ← ws.tabs[tabIdx]?
  return publicTabIdForNumber ws.id tab.number

def publicPaneId (app : AppIds) (wsIdx : ℕ) (paneId : PaneId) : Option String := do
  let ws ← app.workspaces[wsIdx]?
  let paneNumber ← ws.publicPaneNumbers.lookup paneId
  return publicPaneIdForNumber ws.id paneNumber

/-- `parse::<usize>` and `checked_sub(1)`. -/
def parseIndex (s : Text) : Option ℕ := do
  let n ← parseUnsigned (2 ^ 64 - 1) s
  if 1 ≤ n then some (n - 1) else none

def parseWorkspaceId (app : AppIds) (id : Text) : Option ℕ :=
  (app.workspaces.findIdx? fun ws ↦ ws.id.toList == id).orElse fun _ ↦
    ((stripPrefix "w_" id).bind parseIndex).orElse fun _ ↦ parseIndex id

def parseTabId (app : AppIds) (id : String) : Option (ℕ × ℕ) :=
  match stripPrefix "t_" id.toList with
  | some rest => do
    let (wsRaw, tabRaw) ← rsplitOnce ['_'] rest
    let wsIdx ← app.parseWorkspaceId wsRaw
    let tabIdx ← parseIndex tabRaw
    let _ ← (← app.workspaces[wsIdx]?).tabs[tabIdx]?
    return (wsIdx, tabIdx)
  | none => do
    let (wsRaw, tabRaw) ← rsplitOnce [':'] id.toList
    let wsIdx ← app.parseWorkspaceId wsRaw
    let tabIdx ← (match stripPrefix "t" tabRaw with
      | some encoded => do
        let tabNumber ← decodePublicNumber encoded
        (← app.workspaces[wsIdx]?).tabs.findIdx? (·.number == tabNumber)
      | none => parseIndex tabRaw)
    let _ ← (← app.workspaces[wsIdx]?).tabs[tabIdx]?
    return (wsIdx, tabIdx)

def resolveRawPaneId (app : AppIds) (raw : ℕ) : Option PaneId :=
  match app.paneIdAliases.lookup raw with
  | some aliased => (app.findPane aliased).map fun _ ↦ aliased
  | none => (app.findPane ⟨raw⟩).map fun _ ↦ ⟨raw⟩

/-- The pane with the number, in the order of the map. -/
def paneWithNumber (ws : Workspace) (paneNumber : ℕ) : Option PaneId :=
  ws.publicPaneNumbers.entries.findSome? fun e ↦ if e.2 = paneNumber then some e.1 else none

def parsePaneId (app : AppIds) (id : String) : Option (ℕ × PaneId) :=
  match app.publicPaneIdAliases.lookup id with
  | some aliased => (app.findPane aliased).map fun wsIdx ↦ (wsIdx, aliased)
  | none =>
    match stripPrefix "p_" id.toList with
    | some rest =>
      match rsplitOnce ['_'] rest with
      | some (wsRaw, paneRaw) => do
        let wsIdx ← app.parseWorkspaceId wsRaw
        let paneId ← app.resolveRawPaneId (← parseU32 paneRaw)
        if hasPane (← app.workspaces[wsIdx]?) paneId then some (wsIdx, paneId) else none
      | none => do
        let paneId ← app.resolveRawPaneId (← parseU32 rest)
        (app.findPane paneId).map fun wsIdx ↦ (wsIdx, paneId)
    | none =>
      match rsplitOnce [':', 'p'] id.toList with
      | some (wsRaw, paneNumberRaw) => do
        let wsIdx ← app.parseWorkspaceId wsRaw
        let paneNumber ← decodePublicNumber paneNumberRaw
        let paneId ← paneWithNumber (← app.workspaces[wsIdx]?) paneNumber
        return (wsIdx, paneId)
      | none => do
        let (wsRaw, paneNumberRaw) ← rsplitOnce ['-'] id.toList
        let wsIdx ← app.parseWorkspaceId wsRaw
        let paneNumber ← parseUnsigned (2 ^ 64 - 1) paneNumberRaw
        let paneId ← paneWithNumber (← app.workspaces[wsIdx]?) paneNumber
        return (wsIdx, paneId)

/-! ## Ids that are read back -/

/-- Ids of workspaces are distinct and were generated, and so are the numbers of the panes and of
the tabs of each workspace positive, of 64 bits and distinct. -/
structure WellNumbered (app : AppIds) : Prop where
  ids_nodup : (app.workspaces.map (·.id)).Nodup
  ids_generated : ∀ ws ∈ app.workspaces, ∃ n, 0 < n ∧ ws.id = workspaceIdForNumber n
  pane_numbers : ∀ ws ∈ app.workspaces, ∀ paneId n, ws.publicPaneNumbers.lookup paneId = some n →
    0 < n ∧ n < 2 ^ 64
  panes_distinct : ∀ ws ∈ app.workspaces, ∀ paneId paneId' n,
    ws.publicPaneNumbers.lookup paneId = some n → ws.publicPaneNumbers.lookup paneId' = some n →
      paneId = paneId'
  tab_numbers : ∀ ws ∈ app.workspaces, ∀ tab ∈ ws.tabs, 0 < tab.number ∧ tab.number < 2 ^ 64
  tabs_distinct : ∀ ws ∈ app.workspaces, (ws.tabs.map (·.number)).Nodup

/-- Where an entry of a list is the only one with its key, it is found. -/
theorem findIdx_of_nodup {α β : Type} [BEq β] [LawfulBEq β] {l : List α} {key : α → β} {i : ℕ}
    {a : α} (hnodup : (l.map key).Nodup) (h : l[i]? = some a) :
    l.findIdx? (key · == key a) = some i := by
  obtain ⟨hlt, rfl⟩ := List.getElem?_eq_some_iff.1 h
  refine List.findIdx?_eq_some_iff_getElem.2 ⟨hlt, beq_self_eq_true _, fun j hj ↦ ?_⟩
  rw [beq_iff_eq]
  intro heq
  have hlength : j < (l.map key).length := by
    rw [List.length_map]
    exact hj.trans hlt
  have hsame : (l.map key)[j]? = (l.map key)[i]? := by
    rw [List.getElem?_map, List.getElem?_map, List.getElem?_eq_getElem hlt,
      List.getElem?_eq_getElem (hj.trans hlt), Option.map_some, Option.map_some, heq]
  exact hj.ne ((List.getElem?_inj hlength hnodup).1 hsame)

variable {app : AppIds}

theorem parseWorkspaceId_id (h : app.WellNumbered) {wsIdx : ℕ} {ws : Workspace}
    (hws : app.workspaces[wsIdx]? = some ws) : app.parseWorkspaceId ws.id.toList = some wsIdx := by
  have hnodup : (app.workspaces.map (·.id.toList)).Nodup := by
    have hmap := h.ids_nodup.map fun _ _ ↦ String.toList_injective
    rwa [List.map_map] at hmap
  rw [parseWorkspaceId, findIdx_of_nodup hnodup hws]
  rfl

theorem paneWithNumber_lookup {ws : Workspace} {paneId : PaneId} {n : ℕ}
    (hlookup : ws.publicPaneNumbers.lookup paneId = some n)
    (hdistinct : ∀ paneId', ws.publicPaneNumbers.lookup paneId' = some n → paneId' = paneId) :
    paneWithNumber ws n = some paneId := by
  have hmem := AList.mem_lookup_iff.1 hlookup
  rcases hfound : paneWithNumber ws n with _ | paneId'
  · have hnone := List.findSome?_eq_none_iff.1 hfound _ hmem
    simp at hnone
  · obtain ⟨e, he, hsome⟩ := List.exists_of_findSome?_eq_some hfound
    rw [Option.ite_none_right_eq_some, Option.some_inj] at hsome
    obtain ⟨rfl, rfl⟩ := hsome
    rw [hdistinct e.1 (AList.mem_lookup_iff.2 he)]

theorem not_mem_encodePublicNumber {c : Char} {n : ℕ} (hc : c ∉ publicIdAlphabet) (hpos : 0 < n) :
    c ∉ (encodePublicNumber n).toList := by
  rw [toList_encodePublicNumber hpos]
  exact fun hmem ↦ hc (mem_encodeDigits hmem)

theorem parsePaneId_publicPaneId (h : app.WellNumbered) {wsIdx : ℕ} {paneId : PaneId} {id : String}
    (hid : app.publicPaneId wsIdx paneId = some id)
    (halias : app.publicPaneIdAliases.lookup id = none) :
    app.parsePaneId id = some (wsIdx, paneId) := by
  simp only [publicPaneId, Option.bind_eq_bind, Option.bind_eq_some_iff, Option.pure_def,
    Option.some_inj] at hid
  obtain ⟨ws, hws, n, hlookup, rfl⟩ := hid
  have hmem := List.mem_of_getElem? hws
  obtain ⟨k, hk, hwsid⟩ := h.ids_generated ws hmem
  obtain ⟨hpos, hlt⟩ := h.pane_numbers ws hmem paneId n hlookup
  have htext : (publicPaneIdForNumber ws.id n).toList =
      ws.id.toList ++ ':' :: (['p'] ++ (encodePublicNumber n).toList) := by
    rw [publicPaneIdForNumber, String.toList_append, String.toList_append, List.append_assoc]
    rfl
  have hhead : ws.id.toList = 'w' :: (encodePublicNumber k).toList := by
    rw [hwsid, workspaceIdForNumber, String.toList_append]
    rfl
  have hold : stripPrefix "p_" (publicPaneIdForNumber ws.id n).toList = none := by
    rw [htext, hhead]
    exact stripPrefix_of_ne rfl (by decide)
  have hsplit : rsplitOnce [':', 'p'] (publicPaneIdForNumber ws.id n).toList =
      some (ws.id.toList, (encodePublicNumber n).toList) := by
    rw [htext]
    refine rsplitOnce_append ?_ _
    rw [List.mem_append, not_or]
    exact ⟨by decide, not_mem_encodePublicNumber (by decide) hpos⟩
  rw [parsePaneId, halias, hold]
  simp only [hsplit, parseWorkspaceId_id h hws, decode_encodePublicNumber hpos hlt, hws,
    paneWithNumber_lookup hlookup fun paneId' h' ↦ h.panes_distinct ws hmem _ _ _ h' hlookup,
    Option.bind_eq_bind, Option.bind_some, Option.pure_def]

theorem parseTabId_publicTabId (h : app.WellNumbered) {wsIdx tabIdx : ℕ} {id : String}
    (hid : app.publicTabId wsIdx tabIdx = some id) :
    app.parseTabId id = some (wsIdx, tabIdx) := by
  simp only [publicTabId, Option.bind_eq_bind, Option.bind_eq_some_iff, Option.pure_def,
    Option.some_inj] at hid
  obtain ⟨ws, hws, tab, htab, rfl⟩ := hid
  have hmem := List.mem_of_getElem? hws
  obtain ⟨k, hk, hwsid⟩ := h.ids_generated ws hmem
  obtain ⟨hpos, hlt⟩ := h.tab_numbers ws hmem tab (List.mem_of_getElem? htab)
  have htext : (publicTabIdForNumber ws.id tab.number).toList =
      ws.id.toList ++ ':' :: ([] ++ 't' :: (encodePublicNumber tab.number).toList) := by
    rw [publicTabIdForNumber, String.toList_append, String.toList_append, List.append_assoc]
    rfl
  have hhead : ws.id.toList = 'w' :: (encodePublicNumber k).toList := by
    rw [hwsid, workspaceIdForNumber, String.toList_append]
    rfl
  have hold : stripPrefix "t_" (publicTabIdForNumber ws.id tab.number).toList = none := by
    rw [htext, hhead]
    exact stripPrefix_of_ne rfl (by decide)
  have hsplit : rsplitOnce [':'] (publicTabIdForNumber ws.id tab.number).toList =
      some (ws.id.toList, 't' :: (encodePublicNumber tab.number).toList) := by
    rw [htext]
    refine rsplitOnce_append ?_ _
    rw [List.nil_append, List.mem_cons, not_or]
    exact ⟨by decide, not_mem_encodePublicNumber (by decide) hpos⟩
  have hstrip : stripPrefix "t" ('t' :: (encodePublicNumber tab.number).toList) =
      some (encodePublicNumber tab.number).toList := stripPrefix_append "t" _
  rw [parseTabId, hold]
  simp only [hsplit, hstrip, parseWorkspaceId_id h hws, decode_encodePublicNumber hpos hlt, hws,
    findIdx_of_nodup (h.tabs_distinct ws hmem) htab, htab, Option.bind_eq_bind, Option.bind_some,
    Option.pure_def]

end AppIds

/-- Numbers, panes and tabs are read back from what they are written as. Ids that are generated
after a restore are new exactly if none of the restored ids has the largest number there is, behind
which nothing can be reserved. -/
theorem publicIds_iff (restored : List String) :
    ((∀ n, 0 < n → n < 2 ^ 64 → decodePublicNumber (encodePublicNumber n).toList = some n) ∧
      (∀ s n, s ≠ "" → decodePublicNumber s.toList = some n → encodePublicNumber n = s) ∧
      (∀ app : AppIds, app.WellNumbered →
        (∀ wsIdx paneId id, app.publicPaneId wsIdx paneId = some id →
          app.publicPaneIdAliases.lookup id = none →
            app.parsePaneId id = some (wsIdx, paneId)) ∧
        ∀ wsIdx tabIdx id, app.publicTabId wsIdx tabIdx = some id →
          app.parseTabId id = some (wsIdx, tabIdx)) ∧
      ∀ counter calls, 0 < counter → reserveWorkspaceIds restored counter + calls ≤ 2 ^ 64 →
        FreshIds restored counter calls) ↔
    ∀ id ∈ restored, publicWorkspaceNumber id ≠ some (2 ^ 64 - 1) := by
  rw [← freshIds_iff]
  refine ⟨fun h ↦ h.2.2.2, fun h ↦ ⟨fun n ↦ decode_encodePublicNumber,
    fun s n ↦ encode_decodePublicNumber, fun app happ ↦ ⟨?_, ?_⟩, h⟩⟩
  · exact fun wsIdx paneId id ↦ AppIds.parsePaneId_publicPaneId happ
  · exact fun wsIdx tabIdx id ↦ AppIds.parseTabId_publicTabId happ

/-- The largest number is restored next to the first one : the first one is given out again. -/
theorem publicIds_of_last :
    reserveWorkspaceIds ["wFZZZZZZZZZZZZ", "w1"] 1 + 1 ≤ 2 ^ 64 ∧
      ¬ FreshIds ["wFZZZZZZZZZZZZ", "w1"] 1 1 := by
  have hreserve : reserveWorkspaceIds ["wFZZZZZZZZZZZZ", "w1"] 1 = 1 :=
    reserveWorkspaceIds_of_last List.mem_cons_self (by decide) 1
  rw [hreserve]
  refine ⟨by decide, fun h ↦ h.notRestored "w1" (by decide) ?_⟩
  rw [hreserve]
  exact (mem_generateWorkspaceIds (by decide)).2 ⟨1, le_rfl, by decide,
    workspaceIdForNumber_publicWorkspaceNumber (by decide) (by decide)⟩

end Zynk
