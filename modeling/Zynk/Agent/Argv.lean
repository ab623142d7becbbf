import Zynk.Agent.Resume

/-!
# Resume command lines

How `agent_resume.rs` rewrites the command line an agent was started with into one that
resumes a session : a scan over the tokens keeps the flags of an allow-list, drops the old
session selectors and gives up on everything else, in which case the canonical command line
is used (`plan`). `persistedResumeArgv` is what a snapshot stores of it.

A loop of the source that walks an index over the tokens is a recursion over the list of
tokens left, with the same accumulators.
-/

namespace Zynk

/-! ## Tokens and session references -/

/-- `starts_with('-')`. -/
def startsWithDash (tok : String) : Bool :=
  tok.toList.head? == some '-'

def maxSessionIdLen : ℕ := 512

def maxSessionPathLen : ℕ := 4096

def maxArgvTokens : ℕ := 256

/-- Not empty, at most `maximum` bytes long and without control characters. -/
def validText (maximum : ℕ) (value : String) : Bool :=
  !value.toList.isEmpty && Text.byteLen value.toList ≤ maximum && !value.toList.any Text.isControl

def validSessionId (value : String) : Bool :=
  validText maxSessionIdLen value

/-- `Path::is_absolute`. -/
def isAbsolute (path : String) : Bool :=
  path.toList.head? == some '/'

def validSessionPath (value : String) : Bool :=
  validText maxSessionPathLen value && isAbsolute value

def validArgvToken (tok : String) : Bool :=
  validText maxSessionPathLen tok

def validArgv (argv : List String) : Bool :=
  !argv.isEmpty && argv.length ≤ maxArgvTokens && argv.all validArgvToken

/-- `AgentSessionRef::id` and `AgentSessionRef::path` : a reference with a value that is valid
for its kind. -/
def AgentSessionRef.make (kind : AgentSessionRefKind) (value : String) : Option AgentSessionRef :=
  match kind with
  | .id => if validSessionId value then some ⟨.id, value⟩ else none
  | .path => if validSessionPath value then some ⟨.path, value⟩ else none

def sessionRefFromSnapshot (source agent : String) (kind : AgentSessionRefKind) (value : String) :
    Option PersistedAgentSession :=
  if !isOfficialAgentSource source agent then none
  else
    let sessionRef :=
      match kind with
      | .path => if agent = "pi" ∨ agent = "omp" then AgentSessionRef.make .path value else none
      | .id => AgentSessionRef.make .id value
    sessionRef.map fun sessionRef => { source, agent, sessionRef }

/-- `Path::file_name` : the last component, unless it is `..`. Empty components and `.` are not
components. -/
def fileName (path : String) : Option String :=
  let components := (Text.splitOn '/' path.toList).filter fun part => part != [] && part != ['.']
  (components.getLast?.filter (· != ['.', '.'])).map String.ofList

def argv0MatchesAgent (argv0 agent : String) : Bool :=
  fileName argv0 == some agent

/-! ## Allow-lists -/

structure AgentRewriteSpec where
  /-- Selectors without a value, stripped. -/
  boolSelectors : List String
  /-- Selectors with a value, stripped with it. -/
  valueSelectors : List String
  /-- The selector to inject. -/
  canonicalSelector : String
  /-- Flags to keep. -/
  boolAllow : List String
  /-- Flags to keep with their value. -/
  valueAllow : List String

def claudeSpec : AgentRewriteSpec where
  boolSelectors := ["--continue", "-c"]
  valueSelectors := ["--resume", "-r", "--session-id"]
  canonicalSelector := "--resume"
  boolAllow := ["--dangerously-skip-permissions", "--allow-dangerously-skip-permissions",
    "--fork-session", "--safe-mode"]
  valueAllow := ["--model", "--fallback-model", "--permission-mode", "--agent", "--effort"]

def piSpec : AgentRewriteSpec where
  boolSelectors := ["--continue", "-c", "--resume", "-r"]
  valueSelectors := ["--session", "--session-id"]
  canonicalSelector := "--session"
  boolAllow := ["--no-tools", "-nt", "--no-builtin-tools", "-nbt", "--approve", "-a",
    "--no-approve", "-na", "--offline", "--no-extensions", "-ne", "--no-skills", "-ns",
    "--no-context-files", "-nc"]
  valueAllow := ["--provider", "--model", "--thinking", "--tools", "-t", "--exclude-tools", "-xt",
    "--models", "--mode"]

def codexBoolAllow : List String :=
  ["--no-daemon", "--dangerously-bypass-approvals-and-sandbox", "--dangerously-bypass-hook-trust",
    "--oss", "--search", "--yolo"]

def codexValueAllow : List String :=
  ["-m", "--model", "-s", "--sandbox", "-a", "--ask-for-approval", "-C", "--cd", "--add-dir", "-p",
    "--profile", "--local-provider", "--enable", "--disable", "--remote"]

def codexSelectorDrop : List String :=
  ["--last", "--all", "--include-non-interactive"]

/-- The `--flag=value` form of a flag of `names`. -/
def flagEqFormIn (tok : String) (names : List String) : Bool :=
  "--".toList.isPrefixOf tok.toList && tok.toList.contains '=' &&
    names.contains (String.ofList (tok.toList.takeWhile (· != '=')))

/-! ## The scans -/

/-- The loop of `rewrite_flag_selector_agent` : the flags kept and where among them the first
selector stood. -/
def scanFlags (spec : AgentRewriteSpec) :
    List String → List String → Option ℕ → Option (List String × Option ℕ)
  | [], kept, selectorPos => some (kept, selectorPos)
  | tok :: rest, kept, selectorPos =>
    if tok = "--" then none
    else if spec.boolSelectors.contains tok then
      scanFlags spec rest kept (selectorPos.or (some kept.length))
    else if spec.valueSelectors.contains tok then
      match rest with
      | [] => scanFlags spec [] kept (selectorPos.or (some kept.length))
      | next :: rest =>
        -- A value that is there belongs to the selector.
        if startsWithDash next then
          scanFlags spec (next :: rest) kept (selectorPos.or (some kept.length))
        else scanFlags spec rest kept (selectorPos.or (some kept.length))
    else if flagEqFormIn tok spec.valueSelectors then
      scanFlags spec rest kept (selectorPos.or (some kept.length))
    else if spec.boolAllow.contains tok then scanFlags spec rest (kept ++ [tok]) selectorPos
    else if spec.valueAllow.contains tok then
      match rest with
      | [] => none
      | value :: rest =>
        if startsWithDash value then none
        else scanFlags spec rest (kept ++ [tok, value]) selectorPos
    else if flagEqFormIn tok spec.valueAllow then scanFlags spec rest (kept ++ [tok]) selectorPos
    else none

def rewriteFlagSelectorAgent (argv0 : String) (rest : List String) (spec : AgentRewriteSpec)
    (value : String) : Option (List String) :=
  (scanFlags spec rest [] none).map fun (kept, selectorPos) =>
    let at' := selectorPos.getD kept.length
    argv0 :: (kept.take at' ++ [spec.canonicalSelector, value] ++ kept.drop at')

/-- The loop of `rewrite_codex`. -/
def scanCodex : List String → List String → Bool → Option (List String)
  | [], kept, _ => some kept
  | tok :: rest, kept, subcommandSeen =>
    if tok = "--" then none
    else if tok = "--no-daemon" then scanCodex rest kept subcommandSeen
    else if codexSelectorDrop.contains tok then scanCodex rest kept subcommandSeen
    else if tok = "resume" ∧ subcommandSeen = false then
      match rest with
      | [] => scanCodex [] kept true
      | next :: rest =>
        -- A value that is there is the old session.
        if startsWithDash next then scanCodex (next :: rest) kept true
        else scanCodex rest kept true
    else if codexBoolAllow.contains tok then scanCodex rest (kept ++ [tok]) subcommandSeen
    else if codexValueAllow.contains tok then
      match rest with
      | [] => none
      | value :: rest =>
        if startsWithDash value then none
        else scanCodex rest (kept ++ [tok, value]) subcommandSeen
    else if flagEqFormIn tok codexValueAllow then scanCodex rest (kept ++ [tok]) subcommandSeen
    else none

def rewriteCodex (argv0 : String) (rest : List String) (value : String) : Option (List String) :=
  (scanCodex rest [] false).map fun kept => [argv0, "--no-daemon", "resume", value] ++ kept

def rewritePreservingFlags (agent : String) (originalArgv : List String)
    (sessionRef : AgentSessionRef) : Option (List String) :=
  match originalArgv with
  | [] => none
  | argv0 :: rest =>
    if !validArgv (argv0 :: rest) || !argv0MatchesAgent argv0 agent then none
    else
      match agent with
      | "claude" => rewriteFlagSelectorAgent argv0 rest claudeSpec sessionRef.value
      | "pi" => rewriteFlagSelectorAgent argv0 rest piSpec sessionRef.value
      | "codex" => rewriteCodex argv0 rest sessionRef.value
      | _ => none

/-- `plan` : the command line that resumes the session, with the flags of the original one when
it could be rewritten. -/
def plan (source agent : String) (sessionRef : AgentSessionRef)
    (originalArgv : Option (List String)) : Option AgentResumePlan :=
  if !isOfficialAgentSource source agent then none
  else
    (canonicalResumeArgv source agent sessionRef).map fun canonical =>
      { agent
        argv := (originalArgv.bind fun orig => rewritePreservingFlags agent orig sessionRef).getD
          canonical
        dedupeKey := dedupeKey source agent sessionRef }

/-! ## What a snapshot stores -/

inductive ResumeArgvObservation where
  | flagged (dedupeKey : String) (argv : List String)
  | observedCanonical (dedupeKey : String)
  deriving DecidableEq, Repr

def ResumeArgvObservation.key : ResumeArgvObservation → String
  | flagged key _ => key
  | observedCanonical key => key

/-- The closure `sanitized` : a command line that keeps more than the canonical one has. -/
def sanitizedArgv (source agent : String) (sessionRef : AgentSessionRef) (canonical : List String)
    (argv : Option (List String)) (normalizeArgv0 : Bool) : Option (List String) :=
  (argv.bind fun candidate => plan source agent sessionRef (some candidate)).bind fun planned =>
    if planned.argv.length ≤ canonical.length then none
    else some (if normalizeArgv0 then agent :: planned.argv.tail else planned.argv)

/-- The agents whose foreground command line is the one they were started with. -/
def faithfulForeground : String → Option Bool
  | "claude" | "codex" => some true
  | "pi" => some false
  | _ => none

/-- The command line to store, and the observation to keep for the next time. -/
def persistedResumeArgvWithObservation (source agent : String) (sessionRef : AgentSessionRef)
    (foregroundArgv existingLaunchArgv : Option (List String))
    (observation : Option ResumeArgvObservation) :
    Option (List String) × Option ResumeArgvObservation :=
  match faithfulForeground agent with
  | none => (none, none)
  | some faithful =>
    match canonicalResumeArgv source agent sessionRef with
    | none => (none, observation)
    | some canonical =>
      let key := dedupeKey source agent sessionRef
      let observation := observation.filter (·.key == key)
      match sanitizedArgv source agent sessionRef canonical foregroundArgv true,
        sanitizedArgv source agent sessionRef canonical existingLaunchArgv false with
      | some argv, _ => (some argv, some (.flagged key argv))
      | none, tierA =>
        if faithful && foregroundArgv.isSome then (none, some (.observedCanonical key))
        else
          match faithful, observation, tierA with
          | true, some (.flagged key' argv), _ => (some argv, some (.flagged key' argv))
          | true, some (.observedCanonical key'), _ => (none, some (.observedCanonical key'))
          | _, _, some argv => (some argv, some (.flagged key argv))
          | false, some (.flagged _ argv), none => (some argv, some (.flagged key argv))
          | _, _, none => (none, none)

def persistedResumeArgv (source agent : String) (sessionRef : AgentSessionRef)
    (foregroundArgv existingLaunchArgv : Option (List String)) : Option (List String) :=
  (persistedResumeArgvWithObservation source agent sessionRef foregroundArgv existingLaunchArgv
    none).1

end Zynk
