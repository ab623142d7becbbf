import Zynk.Platform.ShellCommand

/-!
# A typed command is its argv

A line is read back word by word (`readFrom_join`), when each argument is. The function that knows
the shell loses an argument to zsh only, one that begins with an equals sign and is left unquoted;
the one that quotes for a POSIX shell also loses one to fish, when a backslash stands in front of
another backslash, a quote or the end. With no such argument both lines are the argv, and with one
the typed line is not (`typed_iff`).
-/

namespace Zynk.Platform

open Text ShellWords

def dialectOf (shellName : Text) : Dialect :=
  if normalizedShellName shellName = "fish".toList then .fish
  else if normalizedShellName shellName = "zsh".toList then .zsh
  else .posix

/-- The piece of a line is one word, in front of whatever follows. -/
def Reads (d : Dialect) (piece arg : Text) : Prop :=
  ∀ s, readFrom d .gap (piece ++ s) = (readFrom d .word s).map (prepend arg)

/-! ## One argument -/

theorem isPlain_of_isUnquoted {c : Char} (h : isUnquoted c = true) : isPlain c = true := by
  rw [isUnquoted, Bool.or_eq_true] at h
  rw [isPlain, Bool.or_eq_true]
  refine h.imp_right fun hmem => ?_
  simp only [decide_eq_true_eq] at hmem ⊢
  revert hmem
  simp only [List.mem_cons]
  tauto

theorem isUnquoted_of_isInteractiveUnquoted {c : Char} (h : isInteractiveUnquoted c = true) :
    isUnquoted c = true := by
  rw [isInteractiveUnquoted, Bool.or_eq_true] at h
  rw [isUnquoted, Bool.or_eq_true]
  refine h.imp_right fun hmem => ?_
  simp only [decide_eq_true_eq] at hmem ⊢
  revert hmem
  simp only [List.mem_cons]
  tauto

variable {d : Dialect} {arg : Text}

theorem reads_unquoted (hne : arg ≠ []) (hall : ∀ c ∈ arg, isUnquoted c = true)
    (hzsh : ¬ (d = .zsh ∧ arg.head? = some '=')) : Reads d arg arg := by
  obtain ⟨c, word, rfl⟩ := List.exists_cons_of_ne_nil hne
  refine readFrom_gap_plain (fun c' hc' => isPlain_of_isUnquoted (hall c' hc')) ?_
  rintro ⟨rfl, rfl⟩
  exact hzsh ⟨rfl, rfl⟩

theorem readFrom_gap_quote (d : Dialect) (s : Text) :
    readFrom d .gap ('\'' :: s) = readFrom d .quoted s := by
  rw [readFrom, if_neg (by decide), if_pos rfl]

theorem reads_quoted {d : Dialect} {body arg : Text}
    (h : ∀ s, readFrom d .quoted (body ++ '\'' :: s) = (readFrom d .word s).map (prepend arg)) :
    Reads d ('\'' :: body ++ ['\'']) arg := by
  intro s
  rw [List.append_assoc, List.cons_append, readFrom_gap_quote, List.singleton_append]
  exact h s

theorem replaceChar_posix (arg : Text) :
    replaceChar '\'' ['\'', '\\', '\'', '\''] arg = posixBody arg :=
  rfl

theorem replaceChar_fish (arg : Text) :
    replaceChar '\'' ['\\', '\''] (replaceChar '\\' ['\\', '\\'] arg) = fishBody arg := by
  induction arg with
  | nil => rfl
  | cons c arg ih =>
    have hbody : fishBody (c :: arg) =
        (if c = '\\' ∨ c = '\'' then ['\\', c] else [c]) ++ fishBody arg := List.flatMap_cons
    rw [replaceChar, replaceChar] at ih ⊢
    rw [List.flatMap_cons, List.flatMap_append, ih, hbody]
    by_cases hslash : c = '\\'
    · subst hslash
      rfl
    · by_cases hquote : c = '\''
      · subst hquote
        rfl
      · simp [hslash, hquote]

/-- What an argument must not be in a dialect, when it is quoted for a POSIX shell. -/
def KeepsWord : Dialect → Text → Prop
  | .posix, _ => True
  | .zsh, arg => ¬ (arg.head? = some '=' ∧ arg.all isUnquoted = true)
  | .fish, arg => ¬ Mangled arg

theorem reads_shellQuote (h : KeepsWord d arg) : Reads d (shellQuote arg) arg := by
  unfold shellQuote
  split_ifs with hempty hall
  · rw [List.isEmpty_iff] at hempty
    subst hempty
    exact @reads_quoted d [] [] fun s => readFrom_close d s
  · refine reads_unquoted (by simpa using hempty) (List.all_eq_true.1 hall) ?_
    rintro ⟨rfl, heq⟩
    exact h ⟨heq, hall⟩
  · rw [replaceChar_posix]
    refine reads_quoted fun s => ?_
    by_cases hd : d = .fish
    · subst hd
      exact readFrom_fish_posixBody h s
    · exact readFrom_posixBody hd arg s

theorem reads_interactiveQuote (h : d = .zsh → KeepsWord .zsh arg) :
    Reads d (interactiveQuote (d = .fish) arg) arg := by
  unfold interactiveQuote
  split_ifs with hall hfish
  · simp only [Bool.and_eq_true, Bool.not_eq_true', List.isEmpty_eq_false_iff] at hall
    have hunquoted : ∀ c ∈ arg, isUnquoted c = true := fun c hc =>
      isUnquoted_of_isInteractiveUnquoted (List.all_eq_true.1 hall.2 c hc)
    refine reads_unquoted hall.1 hunquoted ?_
    rintro ⟨hd, heq⟩
    exact h hd ⟨heq, List.all_eq_true.2 hunquoted⟩
  · rw [replaceChar_fish]
    simp only [decide_eq_true_eq] at hfish
    subst hfish
    exact reads_quoted fun s => readFrom_fishBody arg s
  · rw [replaceChar_posix]
    simp only [decide_eq_true_eq] at hfish
    exact reads_quoted fun s => readFrom_posixBody hfish arg s

/-! ## The whole line -/

theorem join_cons (piece next : Text) (pieces : List Text) :
    [' '].intercalate (piece :: next :: pieces) =
      piece ++ ' ' :: [' '].intercalate (next :: pieces) := by
  simp [List.intercalate]

theorem readFrom_blank (d : Dialect) (s : Text) :
    readFrom d .word (' ' :: s) = (readFrom d .gap s).map ([] :: ·) := by
  rw [readFrom, if_pos rfl]

variable {args : List Text}

theorem readFrom_join {quote : Text → Text} {first : Text}
    (h : ∀ arg ∈ first :: args, Reads d (quote arg) arg) :
    readFrom d .gap ([' '].intercalate ((first :: args).map quote)) = some (first :: args) := by
  induction args generalizing first with
  | nil =>
    have hfirst := h first List.mem_cons_self []
    rw [List.append_nil] at hfirst
    rw [List.map_singleton, List.intercalate_singleton, hfirst, readFrom]
    simp [prepend]
  | cons next args ih =>
    have hrest := ih fun arg harg => h arg (List.mem_cons_of_mem first harg)
    rw [List.map_cons, List.map_cons, join_cons, h first List.mem_cons_self, readFrom_blank,
      ← List.map_cons, hrest]
    simp [prepend]

theorem count_shellQuote_le (arg : Text) : (shellQuote arg).count '\\' ≤ marks arg := by
  unfold shellQuote
  split_ifs with hempty hall
  · exact Nat.zero_le _
  · rw [List.count_eq_zero_of_not_mem]
    · exact Nat.zero_le _
    · intro hmem
      exact absurd (List.all_eq_true.1 hall _ hmem) (by decide)
  · rw [replaceChar_posix, List.count_append, List.count_cons, count_posixBody]
    simp

theorem count_join_le (first : Text) (args : List Text) :
    ([' '].intercalate ((first :: args).map shellQuote)).count '\\' ≤ weight (first :: args) := by
  induction args generalizing first with
  | nil =>
    rw [List.map_singleton, List.intercalate_singleton]
    simpa [weight] using count_shellQuote_le first
  | cons next args ih =>
    have hfirst := count_shellQuote_le first
    have hrest := ih next
    have hweight : weight (first :: next :: args) = marks first + weight (next :: args) := by
      simp [weight]
    rw [List.map_cons, List.map_cons, join_cons, List.count_append, count_cons,
      if_neg (by decide), ← List.map_cons, hweight]
    omega

/-- An argument that is not kept is not read back, whatever follows. -/
theorem readFrom_shellQuote_ne (h : ¬ KeepsWord d arg) {s : Text} {words : List Text}
    (hs : s.count '\\' ≤ weight words) :
    readFrom d .gap (shellQuote arg ++ s) ≠ some (arg :: words) := by
  cases d with
  | posix => exact absurd trivial h
  | zsh =>
    rw [KeepsWord, not_not] at h
    obtain ⟨heq, hall⟩ := h
    obtain ⟨word, rfl⟩ := List.head?_eq_some_iff.1 heq
    have hquote : shellQuote ('=' :: word) = '=' :: word := by
      rw [shellQuote, if_neg (by simp), if_pos hall]
    rw [hquote, List.cons_append, readFrom, if_neg (by decide), if_neg (by decide),
      if_neg (by decide), if_neg (by simp)]
    exact (Option.some_ne_none _).symm
  | fish =>
    rw [KeepsWord, not_not] at h
    have hmem : '\\' ∈ arg := by
      rcases h with h | h | h
      · exact h.subset (by simp)
      · exact h.subset (by simp)
      · exact h.subset (by simp)
    have hquote : shellQuote arg = '\'' :: posixBody arg ++ ['\''] := by
      rw [shellQuote, if_neg, if_neg, replaceChar_posix]
      · intro hall
        exact absurd (List.all_eq_true.1 hall _ hmem) (by decide)
      · intro hempty
        rw [List.isEmpty_iff.1 hempty] at hmem
        exact absurd hmem List.not_mem_nil
    rw [hquote, List.append_assoc, List.cons_append, readFrom_gap_quote, List.singleton_append]
    exact readFrom_fish_ne h hs

/-- A line that is read back keeps each argument. -/
theorem keepsWord_of_readFrom {first : Text}
    (h : readFrom d .gap ([' '].intercalate ((first :: args).map shellQuote)) =
      some (first :: args)) : ∀ arg ∈ first :: args, KeepsWord d arg := by
  induction args generalizing first with
  | nil =>
    intro arg harg
    rw [List.mem_singleton.1 harg]
    by_contra hnot
    rw [List.map_singleton, List.intercalate_singleton, ← List.append_nil (shellQuote first)] at h
    exact readFrom_shellQuote_ne hnot (Nat.zero_le _) h
  | cons next args ih =>
    rw [List.map_cons, List.map_cons, join_cons, ← List.map_cons] at h
    have hcount := count_join_le next args
    have hfirst : KeepsWord d first := by
      by_contra hnot
      refine readFrom_shellQuote_ne hnot ?_ h
      rw [count_cons, if_neg (by decide)]
      exact hcount
    have hreads := reads_shellQuote hfirst
    rw [hreads] at h
    have hrest := @eq_some_of_map_prepend d .word (by decide) _ first [] (next :: args) (by
      rwa [List.append_nil])
    rw [readFrom_blank, Option.map_eq_some_iff] at hrest
    obtain ⟨words, hwords, heq⟩ := hrest
    rw [(List.cons.inj heq).2] at hwords
    intro arg harg
    rcases List.mem_cons.1 harg with rfl | harg
    · exact hfirst
    · exact ih hwords arg harg

/-! ## Both functions -/

/-- A program name or path of letters, digits and a few marks. -/
def IsPlainName (program : Text) : Prop :=
  program ≠ [] ∧ ∀ c ∈ program, c.isAlphanum = true ∨ c ∈ ['_', '-', '.', '/']

theorem not_mem_of_isPlainName {program : Text} (h : IsPlainName program) : '=' ∉ program := by
  intro hmem
  exact absurd (h.2 '=' hmem) (by decide)

theorem readCommand_eq_some {line program : Text} (hprogram : '=' ∉ program) :
    readCommand d line = some (program :: args) ↔
      readFrom d .gap line = some (program :: args) := by
  rw [readCommand]
  rcases readFrom d .gap line with _ | _ | ⟨first, words⟩
  · simp
  · simp
  · simp only
    split_ifs with heq
    · refine iff_of_false (by simp) fun h => hprogram ?_
      rw [← (List.cons.inj (Option.some.inj h)).1]
      exact heq
    · exact Iff.rfl

theorem shellCommandFromArgv_eq (program : Text) (args : List Text) :
    shellCommandFromArgv (program :: args) =
      some ([' '].intercalate ((program :: args).map shellQuote)) := by
  rw [shellCommandFromArgv]
  refine congrArg _ ?_
  rw [List.map_cons]
  generalize shellQuote program = command
  induction args generalizing command with
  | nil => exact (List.intercalate_singleton).symm
  | cons arg args ih =>
    rw [List.foldl_cons, ih, List.map_cons, join_cons]
    rcases args with _ | ⟨next, args⟩
    · simp
    · rw [List.map_cons, join_cons, join_cons]
      simp

/-- With a name of a shell and words without control characters there is a line. -/
theorem interactiveShellCommand_eq {shell program : Text}
    (hshell : isPaneShellProcessName shell = true) (hprogram : program ≠ [])
    (hcontrol : ∀ arg ∈ program :: args, ∀ c ∈ arg, isControl c = false) :
    interactiveShellCommand (program :: args) shell =
      some ([' '].intercalate ((program :: args).map
        (interactiveQuote (dialectOf shell = .fish)))) := by
  have hany : (program :: args).any (·.any isControl) = false := by
    rw [List.any_eq_false]
    intro arg harg
    rw [Bool.not_eq_true, List.any_eq_false]
    intro c hc
    rw [hcontrol arg harg c hc]
    exact Bool.false_ne_true
  have hfish : decide (normalizedShellName shell = "fish".toList) =
      decide (dialectOf shell = .fish) := by
    rw [dialectOf]
    split_ifs with h h'
    · exact decide_eq_true h
    · exact decide_eq_false h
    · exact decide_eq_false h
  have hempty : program.isEmpty = false := by simpa using hprogram
  rw [interactiveShellCommand, hempty, hany, hshell, Bool.not_true, Bool.or_self, Bool.or_self,
    if_neg Bool.false_ne_true, hfish]

/-- Both lines are the argv exactly when no argument is one that the shell does not keep. -/
theorem typed_iff {shell program : Text} {args : List Text}
    (hshell : isPaneShellProcessName shell = true) (hprogram : IsPlainName program)
    (hcontrol : ∀ arg ∈ program :: args, ∀ c ∈ arg, isControl c = false) :
    ((∃ line, interactiveShellCommand (program :: args) shell = some line ∧
        readCommand (dialectOf shell) line = some (program :: args)) ∧
      ∃ line, shellCommandFromArgv (program :: args) = some line ∧
        agentResumeInput (program :: args) = some (line ++ ['\r']) ∧
        readCommand (dialectOf shell) line = some (program :: args)) ↔
      ∀ arg ∈ program :: args, KeepsWord (dialectOf shell) arg := by
  have hassign := not_mem_of_isPlainName hprogram
  constructor
  · rintro ⟨-, line, hline, -, hread⟩
    rw [shellCommandFromArgv_eq, Option.some.injEq] at hline
    rw [readCommand_eq_some hassign, ← hline] at hread
    exact keepsWord_of_readFrom hread
  · intro hkeeps
    constructor
    · refine ⟨_, interactiveShellCommand_eq hshell hprogram.1 hcontrol, ?_⟩
      rw [readCommand_eq_some hassign]
      refine readFrom_join fun arg harg => reads_interactiveQuote fun hd => ?_
      rw [← hd]
      exact hkeeps arg harg
    · refine ⟨_, shellCommandFromArgv_eq program args, ?_, ?_⟩
      · rw [agentResumeInput, shellCommandFromArgv_eq, Option.map_some]
      · rw [readCommand_eq_some hassign]
        exact readFrom_join fun arg harg => reads_shellQuote (hkeeps arg harg)

theorem typed_iff_model :
    ((∃ line, interactiveShellCommand ["claude".toList, "it's".toList] "/bin/fish".toList =
          some line ∧
        readCommand (dialectOf "/bin/fish".toList) line =
          some ["claude".toList, "it's".toList]) ∧
      ∃ line, shellCommandFromArgv ["claude".toList, "it's".toList] = some line ∧
        agentResumeInput ["claude".toList, "it's".toList] = some (line ++ ['\r']) ∧
        readCommand (dialectOf "/bin/fish".toList) line =
          some ["claude".toList, "it's".toList]) ↔
      ∀ arg ∈ ["claude".toList, "it's".toList], KeepsWord (dialectOf "/bin/fish".toList) arg :=
  typed_iff (by decide) (by simp [IsPlainName]) (by simp; decide)

/-- Fish takes two backslashes for one, and zsh looks for the program `ls`. -/
theorem not_typed :
    isPaneShellProcessName "fish".toList = true ∧ isPaneShellProcessName "zsh".toList = true ∧
      (shellCommandFromArgv ["claude".toList, "a\\\\b".toList]).bind
        (readCommand (dialectOf "fish".toList)) = some ["claude".toList, "a\\b".toList] ∧
      (shellCommandFromArgv ["claude".toList, "=ls".toList]).bind
        (readCommand (dialectOf "zsh".toList)) = none ∧
      (interactiveShellCommand ["claude".toList, "=ls".toList] "zsh".toList).bind
        (readCommand (dialectOf "zsh".toList)) = none := by
  decide

end Zynk.Platform
