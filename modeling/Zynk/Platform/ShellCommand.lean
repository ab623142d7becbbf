import Zynk.Lib.ShellWords

/-!
# Commands for a shell

An argv is typed into the shell of a pane as one line. There are two functions that write the
line : `interactiveShellCommand` knows the shell and quotes for fish in its own way, and
`shellCommandFromArgv`, which starts an agent that is resumed, quotes for a POSIX shell, whatever
shell is configured.
-/

namespace Zynk.Platform

open Text

/-! ## Shells -/

/-- `trim_end_matches(".exe")`, at most as often as the fuel has it. -/
def trimExe : ℕ → Text → Text
  | 0, s => s
  | n + 1, s =>
    match stripSuffix ".exe" s with
    | some s => trimExe n s
    | none => s

def normalizedShellName (name : Text) : Text :=
  let base := (name.reverse.takeWhile fun c => c ≠ '/' ∧ c ≠ '\\').reverse
  let lower := (base.dropWhile (· = '-')).map Char.toLower
  trimExe lower.length lower

def shellNames : List String :=
  ["sh", "bash", "dash", "zsh", "ksh", "mksh", "fish"]

def isPaneShellProcessName (name : Text) : Bool :=
  shellNames.any fun shell => normalizedShellName name = shell.toList

/-! ## Quoting -/

/-- The bytes that `interactive_shell_command` leaves unquoted. -/
def isInteractiveUnquoted (c : Char) : Bool :=
  c.isAlphanum || c ∈ ['_', '-', '.', '/', ':', '+', '=']

/-- The bytes that `shell_quote` leaves unquoted. -/
def isUnquoted (c : Char) : Bool :=
  c.isAlphanum || c ∈ ['_', '-', '.', '/', ':', '@', '%', '+', '=']

/-- `str::replace` of a character. -/
def replaceChar (c : Char) (by_ : Text) (s : Text) : Text :=
  s.flatMap fun d => if d = c then by_ else [d]

def interactiveQuote (fish : Bool) (arg : Text) : Text :=
  if !arg.isEmpty && arg.all isInteractiveUnquoted then arg
  else
    let quoted :=
      if fish then replaceChar '\'' ['\\', '\''] (replaceChar '\\' ['\\', '\\'] arg)
      else replaceChar '\'' ['\'', '\\', '\'', '\''] arg
    '\'' :: quoted ++ ['\'']

def interactiveShellCommand (argv : List Text) (shellName : Text) : Option Text :=
  match argv with
  | [] => none
  | first :: _ =>
    if first.isEmpty || argv.any (·.any isControl) || !isPaneShellProcessName shellName then none
    else
      let fish : Bool := normalizedShellName shellName = "fish".toList
      some ([' '].intercalate (argv.map (interactiveQuote fish)))

def shellQuote (value : Text) : Text :=
  if value.isEmpty then ['\'', '\'']
  else if value.all isUnquoted then value
  else '\'' :: replaceChar '\'' ['\'', '\\', '\'', '\''] value ++ ['\'']

def shellCommandFromArgv (argv : List Text) : Option Text :=
  match argv with
  | [] => none
  | first :: parts =>
    some (parts.foldl (fun command part => command ++ [' '] ++ shellQuote part) (shellQuote first))

/-- What `start_pending_agent_resume` sends to the shell : the command, and a carriage return. -/
def agentResumeInput (argv : List Text) : Option Text :=
  (shellCommandFromArgv argv).map (· ++ ['\r'])

end Zynk.Platform
