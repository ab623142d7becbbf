import Zynk.Lib.Text

/-!
# Agent sessions

The session references of `agent_resume.rs` and the canonical resume plan : what `plan`
returns when no original command line is given.
-/

namespace Zynk

inductive AgentSessionRefKind where
  | id
  | path
  deriving DecidableEq, Repr

structure AgentSessionRef where
  kind : AgentSessionRefKind
  value : String
  deriving DecidableEq, Repr

structure PersistedAgentSession where
  source : String
  agent : String
  sessionRef : AgentSessionRef
  deriving DecidableEq, Repr

structure AgentResumePlan where
  agent : String
  argv : List String
  dedupeKey : String
  deriving DecidableEq, Repr

def isOfficialAgentSource (source agent : String) : Bool :=
  [("zynk:claude", "claude"), ("zynk:codex", "codex"), ("zynk:copilot", "copilot"),
    ("zynk:devin", "devin"), ("zynk:droid", "droid"), ("zynk:kimi", "kimi"), ("zynk:omp", "omp"),
    ("zynk:mastracode", "mastracode"), ("zynk:pi", "pi"), ("zynk:hermes", "hermes"),
    ("zynk:opencode", "opencode"), ("zynk:qodercli", "qodercli"), ("zynk:qwen", "qwen"),
    ("zynk:kilo", "kilo"), ("zynk:cursor", "cursor"), ("zynk:antigravity_cli", "agy"),
    ("zynk:grok", "grok")].contains (source, agent)

/-- The command that resumes a session. -/
def canonicalResumeArgv (source agent : String) (sessionRef : AgentSessionRef) :
    Option (List String) :=
  let value := sessionRef.value
  match source, agent, sessionRef.kind with
  | "zynk:claude", "claude", .id => some ["claude", "--resume", value]
  | "zynk:codex", "codex", .id => some ["codex", "--no-daemon", "resume", value]
  | "zynk:copilot", "copilot", .id => some ["copilot", "--resume=" ++ value]
  | "zynk:devin", "devin", .id => some ["devin", "--resume", value]
  | "zynk:droid", "droid", .id => some ["droid", "--resume", value]
  | "zynk:kimi", "kimi", .id => some ["kimi", "--session", value]
  | "zynk:mastracode", "mastracode", .id => some ["mastracode", "--thread", value]
  | "zynk:pi", "pi", _ => some ["pi", "--session", value]
  | "zynk:omp", "omp", _ => some ["omp", "--resume=" ++ value]
  | "zynk:hermes", "hermes", .id => some ["hermes", "--resume", value]
  | "zynk:opencode", "opencode", .id => some ["opencode", "--session", value]
  | "zynk:qodercli", "qodercli", .id => some ["qodercli", "--resume", value]
  | "zynk:qwen", "qwen", .id => some ["qwen", "--resume", value]
  | "zynk:kilo", "kilo", .id => some ["kilo", "--session", value]
  | "zynk:cursor", "cursor", .id => some ["cursor-agent", "--resume", value]
  | "zynk:antigravity_cli", "agy", .id => some ["agy", "--conversation", value]
  | "zynk:grok", "grok", .id => some ["grok", "--resume", value]
  | _, _, _ => none

/-- `dedupe_key` : the parts, separated by NUL. -/
def dedupeKey (source agent : String) (sessionRef : AgentSessionRef) : String :=
  let kind := match sessionRef.kind with
    | .id => "Id"
    | .path => "Path"
  source ++ "\x00" ++ agent ++ "\x00" ++ kind ++ "\x00" ++ sessionRef.value

/-- `plan` without an original command line. -/
def canonicalPlan (source agent : String) (sessionRef : AgentSessionRef) :
    Option AgentResumePlan :=
  if !isOfficialAgentSource source agent then none
  else
    (canonicalResumeArgv source agent sessionRef).map fun argv =>
      { agent, argv, dedupeKey := dedupeKey source agent sessionRef }

/-! ## Keys -/

/-- The names of official integrations contain no NUL. -/
theorem not_mem_of_isOfficialAgentSource {source agent : String}
    (h : isOfficialAgentSource source agent = true) :
    '\x00' ∉ source.toList ∧ '\x00' ∉ agent.toList := by
  simp only [isOfficialAgentSource, List.contains_iff_mem, List.mem_cons, Prod.mk.injEq,
    List.not_mem_nil, or_false] at h
  rcases h with ⟨rfl, rfl⟩ | ⟨rfl, rfl⟩ | ⟨rfl, rfl⟩ | ⟨rfl, rfl⟩ | ⟨rfl, rfl⟩ | ⟨rfl, rfl⟩ |
    ⟨rfl, rfl⟩ | ⟨rfl, rfl⟩ | ⟨rfl, rfl⟩ | ⟨rfl, rfl⟩ | ⟨rfl, rfl⟩ | ⟨rfl, rfl⟩ | ⟨rfl, rfl⟩ |
    ⟨rfl, rfl⟩ | ⟨rfl, rfl⟩ | ⟨rfl, rfl⟩ | ⟨rfl, rfl⟩ <;> decide

/-- The key tells official sessions apart. -/
theorem dedupeKey_inj {source agent source' agent' : String} {sessionRef sessionRef' : AgentSessionRef}
    (h : isOfficialAgentSource source agent = true)
    (h' : isOfficialAgentSource source' agent' = true)
    (hkey : dedupeKey source agent sessionRef = dedupeKey source' agent' sessionRef') :
    source = source' ∧ agent = agent' ∧ sessionRef = sessionRef' := by
  obtain ⟨kind, value⟩ := sessionRef
  obtain ⟨kind', value'⟩ := sessionRef'
  obtain ⟨hsource, hagent⟩ := not_mem_of_isOfficialAgentSource h
  obtain ⟨hsource', hagent'⟩ := not_mem_of_isOfficialAgentSource h'
  have hlist := congrArg String.toList hkey
  have hnul : ("\x00" : String).toList = ['\x00'] := rfl
  simp only [dedupeKey, String.toList_append, hnul, List.append_assoc, List.cons_append,
    List.nil_append] at hlist
  obtain ⟨hs, hrest⟩ := Text.append_cons_inj hsource hsource' hlist
  obtain ⟨ha, hend⟩ := Text.append_cons_inj hagent hagent' hrest
  have hkinds : '\x00' ∉ ("Id" : String).toList ∧ '\x00' ∉ ("Path" : String).toList := by decide
  refine ⟨String.toList_inj.1 hs, String.toList_inj.1 ha, ?_⟩
  rcases kind with _ | _ <;> rcases kind' with _ | _
  · obtain ⟨-, hv⟩ := Text.append_cons_inj hkinds.1 hkinds.1 hend
    rw [String.toList_inj.1 hv]
  · obtain ⟨hk, -⟩ := Text.append_cons_inj hkinds.1 hkinds.2 hend
    exact absurd hk (by decide)
  · obtain ⟨hk, -⟩ := Text.append_cons_inj hkinds.2 hkinds.1 hend
    exact absurd hk (by decide)
  · obtain ⟨-, hv⟩ := Text.append_cons_inj hkinds.2 hkinds.2 hend
    rw [String.toList_inj.1 hv]

/-- A session that can be resumed is one of an official integration. -/
theorem official_of_canonicalResumeArgv {source agent : String} {sessionRef : AgentSessionRef}
    {canonical : List String}
    (h : canonicalResumeArgv source agent sessionRef = some canonical) :
    isOfficialAgentSource source agent = true := by
  unfold canonicalResumeArgv at h
  split at h
  all_goals first
    | decide
    | cases h

end Zynk
