import Mathlib.Algebra.Order.BigOperators.Group.List
import Mathlib.Algebra.Order.Group.Nat
import Zynk.Lib.Lines
import Zynk.Store.Persistence

/-!
# Message headers

`zynk/header.rs` draws a box in front of a message to an agent, with a line for each field. The
fields are written as they are, cut to the width of the box. A line break in one of them is cut away
with the rest or it is shown, and there it breaks the box (`ShowsBreak`). The header is a closed box
with one line for each field exactly if no break is shown (`renderHeader_closedBox_iff`).

The columns of a character are a parameter, since they come from a table of Unicode. Those of a text
are their sum.
-/

namespace Zynk

open Text

/-! ## Columns -/

section

variable (width : Char → ℕ)

def displayWidth (s : Text) : ℕ :=
  (s.map width).sum

/-- The loops that push characters as long as they fit. -/
def takeColumns (budget used : ℕ) : Text → Text
  | [] => []
  | c :: s =>
    if budget < used + width c then [] else c :: takeColumns budget (used + width c) s

def truncateMiddle (s : Text) (max : ℕ) : Text :=
  if displayWidth width s ≤ max then s
  else if max ≤ 1 then ['…']
  else
    let budget := max - 1
    let rightBudget := budget / 2
    let leftBudget := budget - rightBudget
    let left := takeColumns width leftBudget 0 s
    let right := (takeColumns width rightBudget 0 s.reverse).reverse
    left ++ ['…'] ++ right

def truncateTail (s : Text) (max : ℕ) : Text :=
  if displayWidth width s ≤ max then s
  else if max ≤ 1 then ['…']
  else takeColumns width (max - 1) 0 s ++ ['…']

/-! ## Fields -/

inductive Ellipsis where
  | middle
  | tail
  | none
  deriving DecidableEq, Repr

structure Field where
  text : Text
  ellipsis : Ellipsis
  deriving DecidableEq, Repr

def Field.fit (field : Field) (inner : ℕ) : Text :=
  if displayWidth width field.text ≤ inner then field.text
  else
    match field.ellipsis with
    | .middle => truncateMiddle width field.text inner
    | .tail | .none => truncateTail width field.text inner

end

/-- `strip_prefix` with a text. -/
def stripText (lead s : Text) : Option Text :=
  if lead.isPrefixOf s then some (s.drop lead.length) else none

def normalizeDisplayHome (home : Text) : Option Text :=
  if home.head? ≠ some '/' then none
  else
    let trimmed := (home.reverse.dropWhile (· == '/')).reverse
    if trimmed.isEmpty then none else some trimmed

def compactHome (path : Text) (home : Option Text) : Text :=
  match home.bind normalizeDisplayHome with
  | none => path
  | some home =>
    if path = home then ['~']
    else
      match (stripText home path).bind (stripText ['/']) with
      | some rel => ['~', '/'] ++ rel
      | none => path

def cwdDisplay (cwd : Option String) (home : Option Text) : Text :=
  match cwd with
  | some path => compactHome path.toList home
  | none => ['-']

/-- What the header reads of a `PersistedSend`, whose sequence number has a sign. -/
structure HeaderRecord where
  messageId : Text
  conversationId : Text
  conversationSeq : ℤ
  traceId : Option Text
  deriving DecidableEq, Repr

structure HeaderOptions where
  verbose : Bool
  maxWidth : ℕ
  deriving DecidableEq, Repr

def orDash (value : Option String) : Text :=
  (value.getD "-").toList

def decimalInt (n : ℤ) : Text :=
  if n < 0 then '-' :: decimal n.natAbs else decimal n.toNat

def partyField (label : String) (party : Party) (home : Option Text) : Field where
  text := label.toList ++ orDash party.agent ++ [' '] ++ orDash party.pane ++
    "  cwd: ".toList ++ cwdDisplay party.cwd home
  ellipsis := .middle

def headerFields (sender receiver : Party) (record : HeaderRecord) (messageType : Option Text)
    (options : HeaderOptions) (home : Option Text) : List Field :=
  [partyField "from: " sender home, partyField "to:   " receiver home] ++
  (match messageType with
    | some t => [⟨"type: ".toList ++ t, .tail⟩]
    | none => []) ++
  [⟨"id:   ".toList ++ record.messageId, .tail⟩,
    ⟨"conv: ".toList ++ record.conversationId ++ ['#'] ++ decimalInt record.conversationSeq,
      .tail⟩] ++
  (match record.traceId with
    | some trace => [⟨"trace: ".toList ++ trace, .tail⟩]
    | none => []) ++
  (if options.verbose then
    [⟨"reply: zynk reply ".toList ++ orDash sender.pane ++ " -- \"<your response>\"".toList, .none⟩,
      ⟨"note: header is for agent awareness; not receipt proof".toList, .none⟩]
  else [])

/-! ## The box -/

/-- The title with its corner. -/
def titleStart : Text :=
  "╭─ Zynk message ".toList

section

variable (width : Char → ℕ)

/-- The columns of the box between its borders. -/
def innerWidth (fields : List Field) (maxWidth : ℕ) : ℕ :=
  let titleConsumed := displayWidth width titleStart - 1
  let budget := max (maxWidth - 4) 1
  let widest := ((fields.map fun field ↦ displayWidth width field.text).max?).getD 0
  let titleFloor := titleConsumed + 1 - 2
  let lower := max titleFloor 1
  min (max widest lower) (max budget lower)

def fieldLine (inner : ℕ) (field : Field) : Text :=
  let content := field.fit width inner
  let pad := inner - displayWidth width content
  ['│', ' '] ++ content ++ List.replicate pad ' ' ++ [' ', '│']

def renderLines (fields : List Field) (maxWidth : ℕ) : List Text :=
  let inner := innerWidth width fields maxWidth
  let totalDashes := inner + 2
  let titleDashes := totalDashes - (displayWidth width titleStart - 1)
  [titleStart ++ List.replicate titleDashes '─' ++ ['╮']] ++
    fields.map (fieldLine width inner) ++
    [['╰'] ++ List.replicate totalDashes '─' ++ ['╯']]

def renderHeader (sender receiver : Party) (record : HeaderRecord) (messageType : Option Text)
    (options : HeaderOptions) (home : Option Text) : Text :=
  ['\n'].intercalate (renderLines width
    (headerFields sender receiver record messageType options home) options.maxWidth)

end

/-! ## Lines -/

theorem length_splitOn (sep : Char) (s : Text) : (splitOn sep s).length = s.count sep + 1 := by
  induction s with
  | nil => rfl
  | cons c s ih =>
    obtain ⟨part, parts, hparts⟩ := List.exists_cons_of_ne_nil (splitOn_ne_nil sep s)
    rw [hparts, List.length_cons] at ih
    rw [splitOn, hparts, List.count_cons]
    dsimp only
    split_ifs with hsep
    · rw [List.length_cons, List.length_cons]
      omega
    · rw [List.length_cons]
      omega

theorem count_intercalate (sep : Char) (line : Text) (lines : List Text) :
    ([sep].intercalate (line :: lines)).count sep =
      ((line :: lines).map (List.count sep)).sum + lines.length := by
  induction lines generalizing line with
  | nil => simp [List.intercalate_singleton]
  | cons next lines ih =>
    have hjoin : [sep].intercalate (line :: next :: lines) =
        line ++ sep :: [sep].intercalate (next :: lines) := by
      simp [List.intercalate]
    rw [hjoin, List.count_append, List.count_cons_self, ih]
    simp only [List.map_cons, List.sum_cons, List.length_cons]
    omega

/-! ## Columns of texts -/

/-- The printable characters of ASCII and what the box is drawn with. -/
def isPlain (c : Char) : Bool :=
  decide (32 ≤ c.toNat) && decide (c.toNat ≤ 126) ||
    ['…', '╭', '─', '╮', '│', '╰', '╯'].contains c

/-- These characters take one column. -/
def PlainColumns (width : Char → ℕ) : Prop :=
  ∀ c, isPlain c = true → width c = 1

section

variable {width : Char → ℕ}

theorem displayWidth_append (s t : Text) :
    displayWidth width (s ++ t) = displayWidth width s + displayWidth width t := by
  rw [displayWidth, List.map_append, List.sum_append]
  rfl

theorem displayWidth_cons (c : Char) (s : Text) :
    displayWidth width (c :: s) = width c + displayWidth width s :=
  List.sum_cons

theorem displayWidth_reverse (s : Text) : displayWidth width s.reverse = displayWidth width s := by
  rw [displayWidth, List.map_reverse, List.sum_reverse]
  rfl

theorem displayWidth_plain (hwidth : PlainColumns width) {s : Text} (h : s.all isPlain = true) :
    displayWidth width s = s.length := by
  induction s with
  | nil => rfl
  | cons c s ih =>
    rw [List.all_cons, Bool.and_eq_true] at h
    rw [displayWidth_cons, hwidth c h.1, ih h.2, List.length_cons, Nat.add_comm]

variable {budget : ℕ}

theorem takeColumns_le (width : Char → ℕ) {used : ℕ} (h : used ≤ budget) (s : Text) :
    used + displayWidth width (takeColumns width budget used s) ≤ budget := by
  induction s generalizing used with
  | nil => exact h
  | cons c s ih =>
    rw [takeColumns]
    split_ifs with hfull
    · exact h
    · have hrest := ih (Nat.not_lt.1 hfull)
      rw [displayWidth_cons]
      omega

/-- What fits in front is taken as a whole. -/
theorem takeColumns_append {used : ℕ} {lead : Text} (h : used + displayWidth width lead ≤ budget)
    (s : Text) : takeColumns width budget used (lead ++ s) =
      lead ++ takeColumns width budget (used + displayWidth width lead) s := by
  induction lead generalizing used with
  | nil => rfl
  | cons c lead ih =>
    rw [displayWidth_cons] at h
    rw [List.cons_append, takeColumns, if_neg (by omega), ih (by omega), displayWidth_cons,
      Nat.add_assoc, List.cons_append]

/-- A character is taken with all that stands in front of it. -/
theorem mem_takeColumns {used : ℕ} {s : Text} {c : Char} : c ∈ takeColumns width budget used s ↔
      ∃ k, s[k]? = some c ∧ used + displayWidth width (s.take (k + 1)) ≤ budget := by
  induction s generalizing used with
  | nil =>
    simp [takeColumns]
  | cons d s ih =>
    rw [takeColumns]
    split_ifs with hfull
    · refine iff_of_false List.not_mem_nil ?_
      rintro ⟨k, -, hle⟩
      rw [List.take_succ_cons, displayWidth_cons] at hle
      omega
    · rw [List.mem_cons, ih]
      constructor
      · rintro (rfl | ⟨k, hk, hle⟩)
        · refine ⟨0, rfl, ?_⟩
          rw [List.take_succ_cons, displayWidth_cons]
          exact Nat.not_lt.1 hfull
        · refine ⟨k + 1, hk, ?_⟩
          rw [List.take_succ_cons, displayWidth_cons]
          omega
      · rintro ⟨k, hk, hle⟩
        rw [List.take_succ_cons, displayWidth_cons] at hle
        rcases k with _ | k
        · exact .inl (Option.some_inj.1 hk).symm
        · exact .inr ⟨k, hk, by omega⟩

/-- From the other end a character is taken with all that stands behind it. -/
theorem mem_takeColumns_reverse {s : Text} {c : Char} :
    c ∈ (takeColumns width budget 0 s.reverse).reverse ↔
      ∃ k, s[k]? = some c ∧ displayWidth width (s.drop k) ≤ budget := by
  have htake : ∀ k < s.length, displayWidth width (s.reverse.take (k + 1)) =
      displayWidth width (s.drop (s.length - 1 - k)) := by
    intro k hk
    rw [List.take_reverse, displayWidth_reverse, Nat.sub_sub, Nat.add_comm 1 k]
  rw [List.mem_reverse, mem_takeColumns]
  simp only [Nat.zero_add]
  constructor
  · rintro ⟨k, hk, hle⟩
    have hlt : k < s.length := by
      obtain ⟨hlt, -⟩ := List.getElem?_eq_some_iff.1 hk
      rwa [List.length_reverse] at hlt
    rw [List.getElem?_reverse hlt] at hk
    rw [htake k hlt] at hle
    exact ⟨s.length - 1 - k, hk, hle⟩
  · rintro ⟨k, hk, hle⟩
    obtain ⟨hlt, -⟩ := List.getElem?_eq_some_iff.1 hk
    have hback : s.length - 1 - (s.length - 1 - k) = k := by omega
    refine ⟨s.length - 1 - k, ?_, ?_⟩
    · rw [List.getElem?_reverse (by omega), hback, hk]
    · rw [htake _ (by omega), hback]
      exact hle

/-! ## Fields in the box -/

namespace Field

/-- The columns that are kept in front of the ellipsis. -/
def headBudget (field : Field) (inner : ℕ) : ℕ :=
  match field.ellipsis with
  | .middle => inner - 1 - (inner - 1) / 2
  | .tail | .none => inner - 1

/-- A line break stands where the field is not cut away : all of it fits, or what is in front of
the break does, or what is behind it fits behind the ellipsis. -/
def ShowsBreak (width : Char → ℕ) (inner : ℕ) (field : Field) : Prop :=
  ∃ k, field.text[k]? = some '\n' ∧
    (displayWidth width field.text ≤ inner ∨
      displayWidth width (field.text.take (k + 1)) ≤ field.headBudget inner ∨
      field.ellipsis = .middle ∧ displayWidth width (field.text.drop k) ≤ (inner - 1) / 2)

variable {inner : ℕ} {field : Field}

theorem fit_of_lt (hinner : 2 ≤ inner) (h : inner < displayWidth width field.text) :
    field.fit width inner = takeColumns width (field.headBudget inner) 0 field.text ++ '…' ::
      if field.ellipsis = .middle then
        (takeColumns width ((inner - 1) / 2) 0 field.text.reverse).reverse
      else [] := by
  have hlong : ¬ displayWidth width field.text ≤ inner := Nat.not_le.2 h
  have hcolumn : ¬ inner ≤ 1 := by omega
  rw [fit, if_neg hlong, headBudget]
  rcases field.ellipsis
  · rw [truncateMiddle, if_neg hlong, if_neg hcolumn, if_pos rfl]
    simp only [List.append_assoc, List.singleton_append]
  · rw [truncateTail, if_neg hlong, if_neg hcolumn, if_neg nofun]
  · rw [truncateTail, if_neg hlong, if_neg hcolumn, if_neg nofun]

theorem displayWidth_fit (hwidth : PlainColumns width) (hinner : 2 ≤ inner) :
    displayWidth width (field.fit width inner) ≤ inner := by
  by_cases h : displayWidth width field.text ≤ inner
  · rwa [fit, if_pos h]
  · have hhead := takeColumns_le width (Nat.zero_le (field.headBudget inner)) field.text
    have htail := takeColumns_le width (Nat.zero_le ((inner - 1) / 2)) field.text.reverse
    have hellipsis : width '…' = 1 := hwidth _ (by decide)
    rw [fit_of_lt hinner (Nat.not_le.1 h), displayWidth_append, displayWidth_cons, hellipsis]
    split_ifs with hmiddle
    · rw [displayWidth_reverse]
      rw [headBudget, hmiddle] at hhead
      dsimp only at hhead
      rw [headBudget, hmiddle]
      dsimp only
      omega
    · have hbudget : field.headBudget inner ≤ inner - 1 := by
        unfold headBudget
        split <;> omega
      have hnil : displayWidth width [] = 0 := rfl
      rw [hnil]
      omega

/-- A label that fits stays in front. -/
theorem fit_label (hinner : 14 ≤ inner) {label : Text} (hlabel : displayWidth width label ≤ 7)
    (h : label <+: field.text) : label <+: field.fit width inner := by
  by_cases hfits : displayWidth width field.text ≤ inner
  · rwa [fit, if_pos hfits]
  · have hbudget : 7 ≤ field.headBudget inner := by
      unfold headBudget
      split <;> omega
    obtain ⟨rest, hrest⟩ := h
    rw [fit_of_lt (by omega) (Nat.not_le.1 hfits)]
    refine List.IsPrefix.trans ?_ (List.prefix_append _ _)
    rw [← hrest, takeColumns_append (by omega)]
    exact List.prefix_append _ _

theorem mem_fit_iff (hinner : 2 ≤ inner) :
    '\n' ∈ field.fit width inner ↔ field.ShowsBreak width inner := by
  by_cases h : displayWidth width field.text ≤ inner
  · rw [fit, if_pos h, List.mem_iff_getElem?]
    simp only [ShowsBreak, h, true_or, and_true]
  · rw [fit_of_lt hinner (Nat.not_le.1 h), List.mem_append, List.mem_cons, mem_takeColumns]
    have hne : ('\n' : Char) ≠ '…' := by decide
    have htail : '\n' ∈ (if field.ellipsis = .middle then
          (takeColumns width ((inner - 1) / 2) 0 field.text.reverse).reverse else []) ↔
        field.ellipsis = .middle ∧
          ∃ k, field.text[k]? = some '\n' ∧
            displayWidth width (field.text.drop k) ≤ (inner - 1) / 2 := by
      rw [← mem_takeColumns_reverse]
      split_ifs with hmiddle <;> simp [hmiddle]
    rw [htail]
    simp only [ShowsBreak, hne, h, false_or, Nat.zero_add]
    constructor
    · rintro (⟨k, hk, hle⟩ | ⟨hmiddle, k, hk, hle⟩)
      · exact ⟨k, hk, .inl hle⟩
      · exact ⟨k, hk, .inr ⟨hmiddle, hle⟩⟩
    · rintro ⟨k, hk, hle | ⟨hmiddle, hle⟩⟩
      · exact .inl ⟨k, hk, hle⟩
      · exact .inr ⟨hmiddle, k, hk, hle⟩

end Field

/-! ## The closed box -/

/-- The columns of the title, a dash and the corner. -/
def titleMinimum (width : Char → ℕ) : ℕ :=
  displayWidth width (titleStart ++ ['─', '╮'])

/-- The labels of the lines. -/
def fieldLabels (record : HeaderRecord) (messageType : Option Text) (options : HeaderOptions) :
    List Text :=
  ["from: ".toList, "to:   ".toList] ++
  (if messageType.isSome then ["type: ".toList] else []) ++ ["id:   ".toList, "conv: ".toList] ++
  (if record.traceId.isSome then ["trace: ".toList] else []) ++
  (if options.verbose then ["reply: ".toList, "note: ".toList] else [])

/-- A title, a line for each label and a closing line, all of the same columns. -/
def ClosedBox (width : Char → ℕ) (labels : List Text) (columns : ℕ) (header : Text) : Prop :=
  ∃ titleDashes dashes rows,
    splitOn '\n' header = (titleStart ++ List.replicate titleDashes '─' ++ ['╮']) ::
      (rows ++ [['╰'] ++ List.replicate dashes '─' ++ ['╯']]) ∧
    List.Forall₂ (fun label row ↦ ['│', ' '] ++ label <+: row) labels rows ∧
    ∀ line ∈ splitOn '\n' header, displayWidth width line = columns

/-- The field begins with the label, which is short and plain. -/
def Labels (label : Text) (field : Field) : Prop :=
  label <+: field.text ∧ label.length ≤ 7 ∧ label.all isPlain = true

theorem headerFields_labels (sender receiver : Party) (record : HeaderRecord)
    (messageType : Option Text) (options : HeaderOptions) (home : Option Text) :
    List.Forall₂ Labels (fieldLabels record messageType options)
      (headerFields sender receiver record messageType options home) := by
  have hparty (label : String) (party : Party)
      (hlabel : label.toList.length ≤ 7 ∧ label.toList.all isPlain = true) :
      Labels label.toList (partyField label party home) := by
    refine ⟨?_, hlabel⟩
    simp only [partyField, List.append_assoc]
    exact List.prefix_append _ _
  refine List.rel_append (List.rel_append (List.rel_append (List.rel_append ?_ ?_) ?_) ?_) ?_
  · exact .cons (hparty "from: " sender (by decide)) (.cons (hparty "to:   " receiver (by decide))
      .nil)
  · rcases messageType with _ | t
    · exact .nil
    · exact .cons ⟨List.prefix_append _ _, by decide⟩ .nil
  · refine .cons ⟨List.prefix_append _ _, by decide⟩ (.cons ⟨?_, by decide⟩ .nil)
    simp only [List.append_assoc]
    exact List.prefix_append _ _
  · rcases record.traceId with _ | trace
    · exact .nil
    · exact .cons ⟨List.prefix_append _ _, by decide⟩ .nil
  · rcases options.verbose with _ | _
    · exact .nil
    · have hnote : "note: ".toList <+:
          "note: header is for agent awareness; not receipt proof".toList :=
        ⟨"header is for agent awareness; not receipt proof".toList, rfl⟩
      have hreply : "reply: ".toList <+: "reply: zynk reply ".toList := ⟨"zynk reply ".toList, rfl⟩
      refine .cons ⟨?_, by decide⟩ (.cons ⟨hnote, by decide⟩ .nil)
      simp only [List.append_assoc]
      exact hreply.trans (List.prefix_append _ _)

theorem displayWidth_titleStart (hwidth : PlainColumns width) :
    displayWidth width titleStart = 16 :=
  displayWidth_plain hwidth (by decide)

theorem innerWidth_bounds (hwidth : PlainColumns width) (fields : List Field) (maxWidth : ℕ) :
    14 ≤ innerWidth width fields maxWidth ∧
      innerWidth width fields maxWidth + 4 ≤ max maxWidth (titleMinimum width) := by
  have htitle := displayWidth_titleStart hwidth
  have hminimum : titleMinimum width = 18 := displayWidth_plain hwidth (by decide)
  rw [innerWidth, htitle, hminimum]
  omega

theorem displayWidth_fieldLine (hwidth : PlainColumns width) {inner : ℕ} (hinner : 2 ≤ inner)
    (field : Field) : displayWidth width (fieldLine width inner field) = inner + 4 := by
  have hfit := field.displayWidth_fit hwidth hinner
  have hpad : ∀ n, displayWidth width (List.replicate n ' ') = n := fun n ↦ by
    rw [displayWidth_plain hwidth, List.length_replicate]
    exact List.all_eq_true.2 fun c hc ↦ (List.eq_of_mem_replicate hc) ▸ rfl
  have hleft : displayWidth width ['│', ' '] = 2 := displayWidth_plain hwidth (by decide)
  have hright : displayWidth width [' ', '│'] = 2 := displayWidth_plain hwidth (by decide)
  rw [fieldLine, displayWidth_append, displayWidth_append, displayWidth_append, hpad, hleft, hright]
  omega

theorem fieldLine_label (hwidth : PlainColumns width) {inner : ℕ} (hinner : 14 ≤ inner)
    {label : Text} {field : Field} (h : Labels label field) :
    ['│', ' '] ++ label <+: fieldLine width inner field := by
  have hlabel : displayWidth width label ≤ 7 := by
    rw [displayWidth_plain hwidth h.2.2]
    exact h.2.1
  obtain ⟨rest, hrest⟩ := field.fit_label hinner hlabel h.1
  rw [fieldLine, ← hrest]
  simp only [List.append_assoc]
  exact (List.prefix_append_right_inj _).2 (List.prefix_append _ _)

theorem mem_fieldLine_iff (inner : ℕ) (field : Field) :
    '\n' ∈ fieldLine width inner field ↔ '\n' ∈ field.fit width inner := by
  simp [fieldLine]

section

variable {fields : List Field} {labels : List Text} {maxWidth : ℕ}

theorem renderLines_eq (width : Char → ℕ) (fields : List Field) (maxWidth : ℕ) :
    ∃ titleDashes dashes, renderLines width fields maxWidth =
      (titleStart ++ List.replicate titleDashes '─' ++ ['╮']) ::
        (fields.map (fieldLine width (innerWidth width fields maxWidth)) ++
          [['╰'] ++ List.replicate dashes '─' ++ ['╯']]) :=
  ⟨_, _, rfl⟩

theorem displayWidth_renderLines (hwidth : PlainColumns width) :
    ∀ line ∈ renderLines width fields maxWidth,
      displayWidth width line = innerWidth width fields maxWidth + 4 := by
  obtain ⟨hinner, -⟩ := innerWidth_bounds hwidth fields maxWidth
  have htitle := displayWidth_titleStart hwidth
  have hdashes : ∀ n, displayWidth width (List.replicate n '─') = n := fun n ↦ by
    rw [displayWidth_plain hwidth, List.length_replicate]
    exact List.all_eq_true.2 fun c hc ↦ (List.eq_of_mem_replicate hc) ▸ rfl
  have hcorner (c : Char) (hc : isPlain c = true) : displayWidth width [c] = 1 := by
    rw [displayWidth_cons, hwidth c hc]
    rfl
  intro line hline
  rw [renderLines, List.mem_append, List.mem_append, List.mem_singleton, List.mem_singleton,
    List.mem_map] at hline
  rcases hline with (rfl | ⟨field, -, rfl⟩) | rfl
  · rw [displayWidth_append, displayWidth_append, hdashes, htitle, hcorner _ rfl]
    omega
  · exact displayWidth_fieldLine hwidth (by omega) field
  · rw [displayWidth_append, displayWidth_append, hdashes, hcorner _ rfl,
      hcorner _ rfl]
    omega

/-- The box of these fields. -/
theorem closedBox_iff (hwidth : PlainColumns width) (hlabels : List.Forall₂ Labels labels fields) :
    (∃ columns ≤ max maxWidth (titleMinimum width),
      ClosedBox width labels columns (['\n'].intercalate (renderLines width fields maxWidth))) ↔
      ∀ field ∈ fields, ¬ field.ShowsBreak width (innerWidth width fields maxWidth) := by
  obtain ⟨hinner, hmax⟩ := innerWidth_bounds hwidth fields maxWidth
  have hbreak (field : Field) :
      '\n' ∈ fieldLine width (innerWidth width fields maxWidth) field ↔
        field.ShowsBreak width (innerWidth width fields maxWidth) := by
    rw [mem_fieldLine_iff, Field.mem_fit_iff (by omega)]
  obtain ⟨titleDashes, dashes, hlines⟩ := renderLines_eq width fields maxWidth
  constructor
  · rintro ⟨columns, -, titleDashes', dashes', rows, hsplit, hrows, -⟩ field hfield hshows
    -- There is one line more than there are breaks, and a break behind each line but the last.
    have hlength := length_splitOn '\n' (['\n'].intercalate (renderLines width fields maxWidth))
    rw [hsplit, hlines, count_intercalate] at hlength
    have hcount : 0 < (fieldLine width (innerWidth width fields maxWidth) field).count '\n' :=
      List.count_pos_iff.2 ((hbreak field).2 hshows)
    have hsum : (fieldLine width (innerWidth width fields maxWidth) field).count '\n' ≤
        ((fields.map (fieldLine width (innerWidth width fields maxWidth))).map
          (List.count '\n')).sum :=
      List.single_le_sum (fun _ _ ↦ Nat.zero_le _) _
        (List.mem_map_of_mem (List.mem_map_of_mem hfield))
    have hsame := hlabels.length_eq.symm.trans hrows.length_eq
    simp only [List.length_cons, List.length_append, List.length_nil, List.map_cons,
      List.map_append, List.map_nil, List.sum_cons, List.sum_append, List.sum_nil, List.length_map]
      at hlength
    omega
  · intro h
    have hsplit : splitOn '\n' (['\n'].intercalate (renderLines width fields maxWidth)) =
        renderLines width fields maxWidth := by
      rw [hlines]
      refine splitOn_intercalate fun line hline ↦ ?_
      rw [List.mem_cons, List.mem_append, List.mem_singleton, List.mem_map] at hline
      rcases hline with rfl | ⟨field, hfield, rfl⟩ | rfl
      · simp only [List.mem_append, List.mem_replicate, not_or]
        exact ⟨⟨by decide, fun hdash ↦ absurd hdash.2 (by decide)⟩, by decide⟩
      · rw [hbreak]
        exact h field hfield
      · simp only [List.mem_append, List.mem_replicate, not_or]
        exact ⟨⟨by decide, fun hdash ↦ absurd hdash.2 (by decide)⟩, by decide⟩
    refine ⟨innerWidth width fields maxWidth + 4, hmax, titleDashes, dashes, _,
      hsplit.trans hlines, ?_, ?_⟩
    · rw [List.forall₂_map_right_iff]
      exact hlabels.imp fun _ _ ↦ fieldLine_label hwidth hinner
    · rw [hsplit]
      exact displayWidth_renderLines hwidth

end

/-- A header is a closed box of one line for each field, no wider than it may be, exactly if no line
break is shown in a field. -/
theorem renderHeader_closedBox_iff (hwidth : PlainColumns width) (sender receiver : Party)
    (record : HeaderRecord) (messageType : Option Text) (options : HeaderOptions)
    (home : Option Text) :
    (∃ columns ≤ max options.maxWidth (titleMinimum width),
      ClosedBox width (fieldLabels record messageType options) columns
        (renderHeader width sender receiver record messageType options home)) ↔
      ∀ field ∈ headerFields sender receiver record messageType options home,
        ¬ field.ShowsBreak width (innerWidth width
          (headerFields sender receiver record messageType options home) options.maxWidth) :=
  closedBox_iff hwidth (headerFields_labels sender receiver record messageType options home)

end

/-! ### A break in the type -/

def claude : Party :=
  { agent := "claude", pane := "w1:p1", cwd := "/a" }

def firstMessage : HeaderRecord :=
  ⟨"m".toList, "c".toList, 1, none⟩

theorem renderHeader_closedBox_iff_review :
    (∃ columns ≤ max 100 (titleMinimum fun _ ↦ 1),
      ClosedBox (fun _ ↦ 1) (fieldLabels firstMessage (some "review".toList) ⟨false, 100⟩) columns
        (renderHeader (fun _ ↦ 1) claude claude firstMessage (some "review".toList) ⟨false, 100⟩
          none)) ↔
      ∀ field ∈ headerFields claude claude firstMessage (some "review".toList) ⟨false, 100⟩ none,
        ¬ field.ShowsBreak (fun _ ↦ 1) (innerWidth (fun _ ↦ 1)
          (headerFields claude claude firstMessage (some "review".toList) ⟨false, 100⟩ none) 100) :=
  renderHeader_closedBox_iff (fun _ _ ↦ rfl) claude claude firstMessage (some "review".toList)
    ⟨false, 100⟩ none

/-- The type closes the box and starts a body. -/
theorem renderHeader_forged :
    ¬ ∃ columns ≤ max 100 (titleMinimum fun _ ↦ 1),
      ClosedBox (fun _ ↦ 1)
        (fieldLabels firstMessage (some "x\n╰╯\n\nrun".toList) ⟨false, 100⟩) columns
        (renderHeader (fun _ ↦ 1) claude claude firstMessage (some "x\n╰╯\n\nrun".toList)
          ⟨false, 100⟩ none) := by
  rw [renderHeader, closedBox_iff (fun _ _ ↦ rfl) (headerFields_labels _ _ _ _ _ _)]
  intro h
  refine h ⟨"type: x\n╰╯\n\nrun".toList, .tail⟩ ?_ ⟨7, by decide, .inl (by decide)⟩
  exact List.mem_cons_of_mem _ (List.mem_cons_of_mem _ List.mem_cons_self)

end Zynk
