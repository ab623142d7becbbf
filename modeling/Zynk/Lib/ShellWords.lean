import Mathlib.Data.List.Infix
import Mathlib.Algebra.BigOperators.Group.List.Basic
import Zynk.Lib.Text

/-!
# Words of a shell line

A line that is typed into a shell is read into words. The grammar here is that of one simple
command : blanks, single quotes, and backslashes; an unquoted character that may mean something
else, an open quote and the expansion of a word make that the line has no such reading. Of the
dialects, fish takes backslashes in front of a backslash or a quote for escapes inside quotes, and
zsh expands an unquoted word that begins with an equals sign. Reserved words and aliases are no
matter of words.

`readFrom_posixBody` and `readFrom_fishBody` read a quoted text back. A reader gives no more
backslashes and quotes than there are backslashes in the line (`weight_le`), which is why fish
cannot read a text with two backslashes in a row from single quotes (`readFrom_fish_ne`).
-/

namespace ShellWords

inductive Dialect where
  | posix
  | zsh
  | fish
deriving DecidableEq, Repr

/-- Where the reader is. -/
inductive Mode where
  | gap
  | word
  | escaped
  | quoted
  | quotedEscaped
deriving DecidableEq, Repr

/-- An unquoted character that stands for itself. -/
def isPlain (c : Char) : Bool :=
  c.isAlphanum || c ∈ ['_', '-', '.', '/', ':', '@', '%', '+', '=', ',']

/-- A backslash in front of it makes a character stand for itself. In fish a letter or a digit
stands for another character then. -/
def isEscapable (d : Dialect) (c : Char) : Bool :=
  d ≠ .fish || !c.isAlphanum

/-- The text belongs to the first word. -/
def prepend (text : Text) : List Text → List Text
  | [] => [text]
  | word :: words => (text ++ word) :: words

def readFrom (d : Dialect) : Mode → Text → Option (List Text)
  | .gap, [] => some []
  | .word, [] => some [[]]
  | .escaped, [] => none
  | .quoted, [] => none
  | .quotedEscaped, [] => none
  | .gap, c :: s =>
    if c = ' ' then readFrom d .gap s
    else if c = '\'' then readFrom d .quoted s
    else if c = '\\' then readFrom d .escaped s
    else if isPlain c = true ∧ ¬ (d = .zsh ∧ c = '=') then (readFrom d .word s).map (prepend [c])
    else none
  | .word, c :: s =>
    if c = ' ' then (readFrom d .gap s).map ([] :: ·)
    else if c = '\'' then readFrom d .quoted s
    else if c = '\\' then readFrom d .escaped s
    else if isPlain c then (readFrom d .word s).map (prepend [c])
    else none
  | .escaped, c :: s =>
    if isEscapable d c then (readFrom d .word s).map (prepend [c]) else none
  | .quoted, c :: s =>
    if c = '\'' then readFrom d .word s
    else if d = .fish ∧ c = '\\' then readFrom d .quotedEscaped s
    else (readFrom d .quoted s).map (prepend [c])
  | .quotedEscaped, c :: s =>
    if c = '\\' ∨ c = '\'' then (readFrom d .quoted s).map (prepend [c])
    else (readFrom d .quoted s).map (prepend ['\\', c])

example (d : Dialect) : readFrom d .quoted [] = none := by
  unfold readFrom
  rfl

/-- The words of one simple command. A first word with an equals sign would be an assignment. -/
def readCommand (d : Dialect) (line : Text) : Option (List Text) :=
  match readFrom d .gap line with
  | some (first :: words) => if '=' ∈ first then none else some (first :: words)
  | _ => none

/-! ## Pieces of words -/

theorem prepend_prepend (a b : Text) (words : List Text) :
    prepend a (prepend b words) = prepend (a ++ b) words := by
  cases words with
  | nil => rfl
  | cons word words => rw [prepend, prepend, prepend, List.append_assoc]

theorem map_prepend_prepend (a b : Text) (words : Option (List Text)) :
    (words.map (prepend b)).map (prepend a) = words.map (prepend (a ++ b)) := by
  rw [Option.map_map]
  refine congrArg (Option.map · words) ?_
  funext words
  exact prepend_prepend a b words

theorem prepend_ne_nil (a : Text) (words : List Text) : prepend a words ≠ [] := by
  cases words <;> exact List.cons_ne_nil _ _

variable {d : Dialect}

/-- Inside a word the reader gives a word. -/
theorem readFrom_ne_nil {mode : Mode} (hmode : mode ≠ .gap) (s : Text) :
    readFrom d mode s ≠ some [] := by
  have hprepend {words : Option (List Text)} {a : Text} : words.map (prepend a) ≠ some [] := by
    rw [ne_eq, Option.map_eq_some_iff]
    rintro ⟨l, -, h⟩
    exact prepend_ne_nil a l h
  induction s generalizing mode with
  | nil => cases mode <;> simp_all [readFrom]
  | cons c s ih =>
    cases mode with
    | gap => exact absurd rfl hmode
    | word =>
      rw [readFrom]
      split_ifs
      · rw [ne_eq, Option.map_eq_some_iff]
        rintro ⟨l, -, h⟩
        exact List.cons_ne_nil _ _ h
      · exact ih (by decide)
      · exact ih (by decide)
      · exact hprepend
      · exact (Option.some_ne_none _).symm
    | escaped =>
      rw [readFrom]
      split_ifs
      · exact hprepend
      · exact (Option.some_ne_none _).symm
    | quoted =>
      rw [readFrom]
      split_ifs
      · exact ih (by decide)
      · exact ih (by decide)
      · exact hprepend
    | quotedEscaped =>
      rw [readFrom]
      split_ifs
      · exact hprepend
      · exact hprepend

/-- What a word goes on with, when its first characters are known. -/
theorem eq_some_of_map_prepend {d : Dialect} {mode : Mode} (hmode : mode ≠ .gap) {s a word : Text}
    {words : List Text} (h : (readFrom d mode s).map (prepend a) = some ((a ++ word) :: words)) :
    readFrom d mode s = some (word :: words) := by
  rw [Option.map_eq_some_iff] at h
  obtain ⟨l, hl, heq⟩ := h
  cases l with
  | nil => exact absurd hl (readFrom_ne_nil hmode s)
  | cons word' words' =>
    obtain ⟨hword, rfl⟩ := List.cons.inj heq
    rw [hl, List.append_cancel_left hword]

variable {c : Char}

theorem head_eq_of_map_prepend {l : Option (List Text)} {c' : Char} {a word : Text}
    {words : List Text} (h : l.map (prepend (c :: a)) = some ((c' :: word) :: words)) : c = c' := by
  obtain ⟨l, -, heq⟩ := Option.map_eq_some_iff.1 h
  cases l with
  | nil => exact (List.cons.inj (List.cons.inj heq).1).1
  | cons _ _ => exact (List.cons.inj (List.cons.inj heq).1).1

/-! ## Plain words and quoted texts -/

theorem readFrom_plain {d : Dialect} {word : Text} (h : ∀ c ∈ word, isPlain c = true) (s : Text) :
    readFrom d .word (word ++ s) = (readFrom d .word s).map (prepend word) := by
  induction word with
  | nil =>
    have hid : prepend [] = fun words => if words = [] then [[]] else words := by
      funext words
      cases words <;> rfl
    rcases hread : readFrom d .word s with _ | words
    · rw [List.nil_append, hread]
      rfl
    · have hne : words ≠ [] := fun hnil => readFrom_ne_nil (by decide) s (hnil ▸ hread)
      rw [List.nil_append, hread, hid, Option.map_some, if_neg hne]
  | cons c word ih =>
    have hc := h c List.mem_cons_self
    have hspace : c ≠ ' ' := by rintro rfl; exact absurd hc (by decide)
    have hquote : c ≠ '\'' := by rintro rfl; exact absurd hc (by decide)
    have hslash : c ≠ '\\' := by rintro rfl; exact absurd hc (by decide)
    rw [List.cons_append, readFrom, if_neg hspace, if_neg hquote, if_neg hslash, if_pos hc,
      ih fun c' hc' => h c' (List.mem_cons_of_mem c hc'), map_prepend_prepend]
    rfl

/-- A word of plain characters. -/
theorem readFrom_gap_plain {word : Text} (h : ∀ c' ∈ c :: word, isPlain c' = true)
    (hzsh : ¬ (d = .zsh ∧ c = '=')) (s : Text) :
    readFrom d .gap (c :: word ++ s) = (readFrom d .word s).map (prepend (c :: word)) := by
  have hc := h c List.mem_cons_self
  have hspace : c ≠ ' ' := by rintro rfl; exact absurd hc (by decide)
  have hquote : c ≠ '\'' := by rintro rfl; exact absurd hc (by decide)
  have hslash : c ≠ '\\' := by rintro rfl; exact absurd hc (by decide)
  rw [List.cons_append, readFrom, if_neg hspace, if_neg hquote, if_neg hslash, if_pos ⟨hc, hzsh⟩,
    readFrom_plain fun c' hc' => h c' (List.mem_cons_of_mem c hc'), map_prepend_prepend]
  rfl

/-- Between single quotes, with each quote outside of them behind a backslash. -/
def posixBody (text : Text) : Text :=
  text.flatMap fun c => if c = '\'' then ['\'', '\\', '\'', '\''] else [c]

/-- Between single quotes, with a backslash in front of each backslash and each quote. -/
def fishBody (text : Text) : Text :=
  text.flatMap fun c => if c = '\\' ∨ c = '\'' then ['\\', c] else [c]

theorem readFrom_quote (d : Dialect) (s : Text) :
    readFrom d .quoted (['\'', '\\', '\'', '\''] ++ s) =
      (readFrom d .quoted s).map (prepend ['\'']) := by
  have hescapable : isEscapable d '\'' = true := by cases d <;> decide
  simp [readFrom, hescapable]

theorem readFrom_close (d : Dialect) (s : Text) :
    readFrom d .quoted ('\'' :: s) = (readFrom d .word s).map (prepend []) := by
  have h := @readFrom_plain d [] (by simp) s
  rw [List.nil_append] at h
  rw [readFrom, if_pos rfl, ← h]

theorem readFrom_posixBody (hd : d ≠ .fish) (text s : Text) :
    readFrom d .quoted (posixBody text ++ '\'' :: s) =
      (readFrom d .word s).map (prepend text) := by
  induction text with
  | nil => exact readFrom_close d s
  | cons c text ih =>
    rw [posixBody, List.flatMap_cons, List.append_assoc, ← posixBody]
    by_cases hc : c = '\''
    · subst hc
      rw [if_pos rfl, readFrom_quote, ih, map_prepend_prepend]
      rfl
    · rw [if_neg hc, List.singleton_append, readFrom, if_neg hc, if_neg fun h => hd h.1, ih,
        map_prepend_prepend]
      rfl

theorem readFrom_fishBody (text s : Text) :
    readFrom .fish .quoted (fishBody text ++ '\'' :: s) =
      (readFrom .fish .word s).map (prepend text) := by
  induction text with
  | nil => exact readFrom_close .fish s
  | cons c text ih =>
    rw [fishBody, List.flatMap_cons, List.append_assoc, ← fishBody]
    by_cases hc : c = '\\' ∨ c = '\''
    · rw [if_pos hc, List.cons_append, List.singleton_append, readFrom, if_neg (by decide),
        if_pos ⟨rfl, rfl⟩, readFrom, if_pos hc, ih, map_prepend_prepend]
      rfl
    · rw [not_or] at hc
      rw [if_neg (by simp [hc]), List.singleton_append, readFrom, if_neg hc.2,
        if_neg fun h => hc.1 h.2, ih, map_prepend_prepend]
      rfl

/-! ## Backslashes in fish -/

def isMark (c : Char) : Bool :=
  c = '\\' || c = '\''

/-- The backslashes and quotes of a text. -/
def marks (text : Text) : ℕ :=
  text.countP isMark

def weight (words : List Text) : ℕ :=
  (words.map marks).sum

theorem weight_prepend (a : Text) (words : List Text) :
    weight (prepend a words) = marks a + weight words := by
  cases words with
  | nil => simp [prepend, weight]
  | cons word words => simp [prepend, weight, marks, Nat.add_assoc]

/-- The backslash that the reader has read and not used. -/
def Mode.credit : Mode → ℕ
  | .escaped => 1
  | .quotedEscaped => 1
  | _ => 0

theorem marks_singleton_le (c : Char) : marks [c] ≤ 1 :=
  List.countP_le_length

theorem marks_singleton_of_ne (hslash : c ≠ '\\') (hquote : c ≠ '\'') : marks [c] = 0 := by
  simp [marks, isMark, hslash, hquote]

theorem count_cons (c : Char) (s : Text) :
    (c :: s).count '\\' = s.count '\\' + if c = '\\' then 1 else 0 := by
  rw [List.count_cons]
  by_cases hc : c = '\\' <;> simp [hc]

/-- What is read has no more backslashes and quotes than the line has backslashes. -/
theorem weight_le {mode : Mode} {s : Text} {words : List Text}
    (h : readFrom d mode s = some words) : weight words ≤ s.count '\\' + mode.credit := by
  have hprepend {mode : Mode} {s a : Text} {words : List Text}
      (ih : ∀ {words}, readFrom d mode s = some words →
        weight words ≤ s.count '\\' + mode.credit)
      (h : (readFrom d mode s).map (prepend a) = some words) :
      weight words ≤ marks a + (s.count '\\' + mode.credit) := by
    obtain ⟨l, hl, rfl⟩ := Option.map_eq_some_iff.1 h
    rw [weight_prepend]
    exact Nat.add_le_add_left (ih hl) _
  induction s generalizing mode words with
  | nil =>
    cases mode with
    | gap =>
      obtain rfl := Option.some.inj h
      exact Nat.zero_le _
    | word =>
      obtain rfl := Option.some.inj h
      exact Nat.zero_le _
    | _ => cases h
  | cons c s ih =>
    have hcount := count_cons c s
    have hone := marks_singleton_le c
    cases mode with
    | gap =>
      rw [readFrom] at h
      split_ifs at h with hspace hquote hslash hplain
      · have := ih h
        simp only [Mode.credit] at this ⊢
        omega
      · have := ih h
        simp only [Mode.credit] at this ⊢
        omega
      · have := ih h
        rw [if_pos hslash] at hcount
        simp only [Mode.credit] at this ⊢
        omega
      · have := hprepend ih h
        rw [marks_singleton_of_ne hslash hquote] at this
        simp only [Mode.credit] at this ⊢
        omega
    | word =>
      rw [readFrom] at h
      split_ifs at h with hspace hquote hslash hplain
      · obtain ⟨l, hl, rfl⟩ := Option.map_eq_some_iff.1 h
        have := ih hl
        have hnil : weight ([] :: l) = weight l := by simp [weight, marks]
        simp only [Mode.credit] at this ⊢
        omega
      · have := ih h
        simp only [Mode.credit] at this ⊢
        omega
      · have := ih h
        rw [if_pos hslash] at hcount
        simp only [Mode.credit] at this ⊢
        omega
      · have := hprepend ih h
        rw [marks_singleton_of_ne hslash hquote] at this
        simp only [Mode.credit] at this ⊢
        omega
    | escaped =>
      rw [readFrom] at h
      split_ifs at h
      have := hprepend ih h
      simp only [Mode.credit] at this ⊢
      omega
    | quoted =>
      rw [readFrom] at h
      split_ifs at h with hquote hslash
      · have := ih h
        simp only [Mode.credit] at this ⊢
        omega
      · have := ih h
        rw [if_pos hslash.2] at hcount
        simp only [Mode.credit] at this ⊢
        omega
      · have := hprepend ih h
        by_cases hc : c = '\\'
        · rw [if_pos hc] at hcount
          simp only [Mode.credit] at this ⊢
          omega
        · rw [marks_singleton_of_ne hc hquote] at this
          simp only [Mode.credit] at this ⊢
          omega
    | quotedEscaped =>
      rw [readFrom] at h
      split_ifs at h with hc
      · have := hprepend ih h
        simp only [Mode.credit] at this ⊢
        omega
      · have := hprepend ih h
        rw [not_or] at hc
        have htwo : marks ['\\', c] = 1 := by
          simp [marks, isMark, hc.1, hc.2]
        simp only [Mode.credit] at this ⊢
        omega

/-- In fish a backslash of the text stands in front of a backslash, a quote or the closing one. -/
def Mangled (text : Text) : Prop :=
  ['\\', '\\'] <:+: text ∨ ['\\', '\''] <:+: text ∨ ['\\'] <:+ text

instance (text : Text) : Decidable (Mangled text) := by
  unfold Mangled
  infer_instance

theorem mangled_cons {text : Text} : Mangled (c :: text) ↔
      c = '\\' ∧ (text = [] ∨ text.head? = some '\\' ∨ text.head? = some '\'') ∨
        Mangled text := by
  unfold Mangled
  rw [List.infix_cons_iff, List.infix_cons_iff, List.suffix_cons_iff]
  have htwo (e : Char) : ['\\', e] <+: c :: text ↔ c = '\\' ∧ text.head? = some e := by
    rw [List.cons_prefix_cons, eq_comm]
    refine and_congr_right fun _ => ?_
    rcases text with _ | ⟨d, text⟩
    · simp
    · simp [List.cons_prefix_cons, eq_comm]
  have hlast : ['\\'] = c :: text ↔ c = '\\' ∧ text = [] := by
    rw [List.cons_eq_cons, eq_comm, @eq_comm _ []]
  rw [htwo, htwo, hlast]
  tauto

theorem posixBody_cons (c : Char) (text : Text) :
    posixBody (c :: text) =
      (if c = '\'' then ['\'', '\\', '\'', '\''] else [c]) ++ posixBody text :=
  List.flatMap_cons

/-- A character that fish takes for itself, in quotes. -/
theorem readFrom_fish_other (hslash : c ≠ '\\') (hquote : c ≠ '\'') (s : Text) :
    readFrom .fish .quoted (c :: s) = (readFrom .fish .quoted s).map (prepend [c]) := by
  rw [readFrom, if_neg hquote, if_neg fun h => hslash h.2]

/-- A backslash that stands for itself, in quotes. -/
theorem readFrom_fish_backslash (hslash : c ≠ '\\') (hquote : c ≠ '\'') (s : Text) :
    readFrom .fish .quoted ('\\' :: c :: s) =
      (readFrom .fish .quoted s).map (prepend ['\\', c]) := by
  rw [readFrom, if_neg (by decide), if_pos ⟨rfl, rfl⟩, readFrom, if_neg (by simp [hslash, hquote])]

/-- A backslash that is lost. -/
theorem readFrom_fish_escape (hc : c = '\\' ∨ c = '\'') (s : Text) :
    readFrom .fish .quoted ('\\' :: c :: s) =
      (readFrom .fish .quoted s).map (prepend [c]) := by
  rw [readFrom, if_neg (by decide), if_pos ⟨rfl, rfl⟩, readFrom, if_pos hc]

theorem readFrom_fish_posixBody {text : Text} (h : ¬ Mangled text) (s : Text) :
    readFrom .fish .quoted (posixBody text ++ '\'' :: s) =
      (readFrom .fish .word s).map (prepend text) := by
  induction hn : text.length using Nat.strongRecOn generalizing text with
  | ind n ih =>
    rcases text with _ | ⟨c, text⟩
    · exact readFrom_close .fish s
    · rw [mangled_cons, not_or] at h
      have hrest := ih text.length (by rw [← hn]; exact Nat.lt_succ_self _) h.2 rfl
      by_cases hquote : c = '\''
      · subst hquote
        rw [posixBody_cons, if_pos rfl, List.append_assoc, readFrom_quote, hrest,
          map_prepend_prepend]
        rfl
      by_cases hslash : c = '\\'
      · subst hslash
        rcases text with _ | ⟨d, text⟩
        · simp at h
        · have hd : d ≠ '\\' ∧ d ≠ '\'' := by simpa using h.1
          have hlen : text.length < n := by
            rw [← hn]
            simp only [List.length_cons]
            omega
          have hrest' := ih text.length hlen (fun hm => h.2 (mangled_cons.2 (Or.inr hm))) rfl
          rw [posixBody_cons, if_neg (by decide), posixBody_cons, if_neg hd.2,
            List.singleton_append, List.singleton_append, List.cons_append, List.cons_append,
            readFrom_fish_backslash hd.1 hd.2, hrest', map_prepend_prepend]
          rfl
      · rw [posixBody_cons, if_neg hquote, List.singleton_append, List.cons_append,
          readFrom_fish_other hslash hquote, hrest, map_prepend_prepend]
        rfl

theorem count_posixBody (text : Text) : (posixBody text).count '\\' = marks text := by
  induction text with
  | nil => rfl
  | cons c text ih =>
    rw [posixBody_cons, List.count_append, ih]
    have hmarks : marks (c :: text) = marks [c] + marks text := @List.countP_append _ _ [c] text
    rw [hmarks]
    by_cases hquote : c = '\''
    · subst hquote
      rfl
    · rw [if_neg hquote]
      by_cases hslash : c = '\\'
      · subst hslash
        rfl
      · rw [marks_singleton_of_ne hslash hquote, List.count_eq_zero_of_not_mem]
        simpa using Ne.symm hslash

/-- Such a text is not read back, when the rest of the line can give no more than its words. -/
theorem readFrom_fish_ne {text : Text} (h : Mangled text) {s : Text} {words : List Text}
    (hs : s.count '\\' ≤ weight words) :
    readFrom .fish .quoted (posixBody text ++ '\'' :: s) ≠ some (text :: words) := by
  induction hn : text.length using Nat.strongRecOn generalizing text with
  | ind n ih =>
    rcases text with _ | ⟨c, text⟩
    · exact absurd h (by decide)
    · intro hread
      have hlen : text.length < n := by
        rw [← hn]
        exact Nat.lt_succ_self _
      have hrest (hm : Mangled text) := ih text.length hlen hm rfl
      by_cases hquote : c = '\''
      · subst hquote
        rw [posixBody_cons, if_pos rfl, List.append_assoc, readFrom_quote] at hread
        have hm : Mangled text := (mangled_cons.1 h).resolve_left (by simp)
        exact hrest hm (@eq_some_of_map_prepend _ _ (by decide) _ ['\''] _ _ hread)
      by_cases hslash : c = '\\'
      · subst hslash
        rcases text with _ | ⟨d, text⟩
        · -- The closing quote is taken into the word.
          have hline : posixBody ['\\'] ++ '\'' :: s = '\\' :: '\'' :: s := rfl
          rw [hline, readFrom_fish_escape (Or.inr rfl)] at hread
          exact absurd (head_eq_of_map_prepend hread) (by decide)
        by_cases hd : d = '\''
        · subst hd
          have hline : posixBody ('\\' :: '\'' :: text) ++ '\'' :: s =
              '\\' :: '\'' :: (['\\', '\'', '\''] ++ posixBody text ++ '\'' :: s) := rfl
          rw [hline, readFrom_fish_escape (Or.inr rfl)] at hread
          exact absurd (head_eq_of_map_prepend hread) (by decide)
        by_cases hd' : d = '\\'
        · -- One of two backslashes is lost, and the rest of the line cannot make up for it.
          subst hd'
          have hline : posixBody ('\\' :: '\\' :: text) ++ '\'' :: s =
              '\\' :: '\\' :: (posixBody text ++ '\'' :: s) := rfl
          rw [hline, readFrom_fish_escape (Or.inl rfl)] at hread
          have hinner : readFrom .fish .quoted (posixBody text ++ '\'' :: s) =
              some (('\\' :: text) :: words) :=
            @eq_some_of_map_prepend _ _ (by decide) _ ['\\'] _ _ hread
          have hweight := weight_le hinner
          have hmarks : weight (('\\' :: text) :: words) = marks text + 1 + weight words := by
            simp [weight, marks, isMark]
          rw [hmarks, List.count_append, count_posixBody, count_cons, if_neg (by decide)] at hweight
          simp only [Mode.credit] at hweight
          omega
        · have hm : Mangled text := by
            have hcons := (mangled_cons.1 h).resolve_left (by simp [hd, hd'])
            exact (mangled_cons.1 hcons).resolve_left fun hc => hd' hc.1
          have hline : posixBody ('\\' :: d :: text) ++ '\'' :: s =
              '\\' :: d :: (posixBody text ++ '\'' :: s) := by
            rw [posixBody_cons, posixBody_cons, if_neg (by decide), if_neg hd]
            rfl
          rw [hline, readFrom_fish_backslash hd' hd] at hread
          exact ih text.length (Nat.lt_trans (Nat.lt_succ_self _) hlen) hm rfl
            (@eq_some_of_map_prepend _ _ (by decide) _ ['\\', d] _ _ hread)
      · rw [posixBody_cons, if_neg hquote, List.singleton_append, List.cons_append,
          readFrom_fish_other hslash hquote] at hread
        have hm : Mangled text := (mangled_cons.1 h).resolve_left fun hc => hslash hc.1
        exact hrest hm (@eq_some_of_map_prepend _ _ (by decide) _ [c] _ _ hread)

end ShellWords
