import Zynk.Lib.Text

/-!
# Lines

The lines of a text (`lines`). Parts without the separator, joined with it, are split into the same
parts (`splitOn_intercalate`).
-/

namespace Text

/-- A carriage return in front of a line feed is part of the line break. -/
def stripCr (line : Text) : Text :=
  (stripSuffix "\r" line).getD line

/-- Of the parts between line feeds all but the last end in one. -/
def linesOf : List Text → List Text
  | [] => []
  | [last] => if last.isEmpty then [] else [last]
  | part :: next :: parts => stripCr part :: linesOf (next :: parts)

/-- `str::lines`. -/
def lines (s : Text) : List Text :=
  linesOf (splitOn '\n' s)

theorem intercalate_cons_cons {α : Type} {sep : α} (line next : List α) (l : List (List α)) :
    [sep].intercalate (line :: next :: l) = line ++ sep :: [sep].intercalate (next :: l) := by
  simp [List.intercalate]

theorem splitOn_intercalate {α : Type} [BEq α] [LawfulBEq α] {sep : α} {line : List α}
    {lines : List (List α)} (h : ∀ l ∈ line :: lines, sep ∉ l) :
    splitOn sep ([sep].intercalate (line :: lines)) = line :: lines := by
  induction lines generalizing line with
  | nil =>
    rw [List.intercalate_singleton]
    exact splitOn_of_not_mem (h line List.mem_cons_self)
  | cons next lines ih =>
    rw [intercalate_cons_cons, splitOn_append_cons (h line List.mem_cons_self),
      ih fun l hl => h l (List.mem_cons_of_mem line hl)]

end Text
