import Zynk.Agent.Label
import Zynk.Terminal.Session

/-!
# The state of a terminal

`TerminalState` of `terminal/state.rs`, as far as hook ownership goes : the live owner
(`hookAuthority` or `hookIdentity`), the persisted session, the retirement records, the
fences, and the effective state. Labels, titles, metadata and the managed agent are left
out : nothing here reads them. An instant the source takes from `Instant::now()` is an
argument.
-/

namespace Zynk

structure HookAuthority where
  source : String
  agentLabel : String
  state : AgentState
  message : Option String
  reportedAt : ℤ
  sessionRef : Option AgentSessionRef
  /-- The capture of an observed exit that no running observation has answered yet. -/
  unconfirmedSince : Option ℤ
  deriving DecidableEq, Repr

structure HookIdentity where
  source : String
  agentLabel : String
  reportedAt : ℤ
  unconfirmedSince : Option ℤ
  deriving DecidableEq, Repr

/-- The owner a fence belongs to. No source : a fence of an older server, for its label
under any source. -/
structure HookOwner where
  source : Option String
  agentLabel : String
  deriving DecidableEq, Repr

namespace HookOwner

def new (source agentLabel : String) : HookOwner :=
  { source := some source, agentLabel }

/-- `matches`. -/
def fences (owner : HookOwner) (source agentLabel : String) : Bool :=
  owner.agentLabel == agentLabel && owner.source.all (· == source)

end HookOwner

structure TerminalState where
  detectedAgent : Option Agent := none
  fallbackState : AgentState := .unknown
  fallbackVisibleBlocker : Bool := false
  fallbackObservedAt : Option ℤ := none
  hookAuthority : Option HookAuthority := none
  hookIdentity : Option HookIdentity := none
  persistedAgentSession : Option PersistedAgentSession := none
  sessionOwnerEpoch : Option ℤ := none
  hookReportSequences : Assoc String ℕ := ∅
  unansweredHookExit : Option (HookOwner × ℤ) := none
  handoffConfirmation : Option (HookOwner × ℤ) := none
  suppressedHookReports : Assoc String SuppressedHookReport := ∅
  staleHookSessions : Assoc String (List StaleHookSession) := ∅
  metadataReportSequences : Assoc String ℕ := ∅
  metadataTokenSequenceSources : Assoc String Unit := ∅
  state : AgentState := .unknown

/-- A native probe of the foreground process. -/
structure ForegroundProcessObservation where
  agent : Option Agent
  observedAt : ℤ
  deriving DecidableEq, Repr

namespace TerminalState

/-- `TerminalState::new`. -/
def new : TerminalState := {}

/-! ## The owner and its session -/

/-- The live owner and the exit it has not answered : the authority, else the identity. -/
def installedHookOwner (s : TerminalState) : Option (String × String × Option ℤ) :=
  (s.hookAuthority.map fun authority =>
      (authority.source, authority.agentLabel, authority.unconfirmedSince)).or
    (s.hookIdentity.map fun identity =>
      (identity.source, identity.agentLabel, identity.unconfirmedSince))

/-- The owner that may anchor a receipt. -/
def confirmedHookOwner (s : TerminalState) : Option (String × String) :=
  s.installedHookOwner.bind fun (source, label, pendingExit) =>
    if pendingExit.isSome || (s.handoffConfirmation.any fun pending =>
        pending.1.fences source label) then none
    else some (source, label)

/-- The owner and the session that are persisted. -/
def currentSessionIdentityForPersistence (s : TerminalState) :
    Option (String × String × AgentSessionRef) :=
  (s.hookAuthority.bind fun authority =>
      authority.sessionRef.map fun ref => (authority.source, authority.agentLabel, ref)).or
    (s.persistedAgentSession.map fun session => (session.source, session.agent, session.sessionRef))

/-- The owner that is installed, or of the persisted session. -/
def currentSessionOwner (s : TerminalState) : Option (String × String) :=
  (s.hookAuthority.map fun owner => (owner.source, owner.agentLabel)).or
    ((s.hookIdentity.map fun owner => (owner.source, owner.agentLabel)).or
      (s.persistedAgentSession.map fun owner => (owner.source, owner.agent)))

def currentSessionOwnerConflicts (s : TerminalState) (source agentLabel : String) : Bool :=
  s.currentSessionOwner.any (· != (source, agentLabel))

/-- The session `source` and `agentLabel` own, in either representation. -/
def ownedSessionRef (s : TerminalState) (source agentLabel : String) : Option AgentSessionRef :=
  (s.hookAuthority.bind fun authority =>
      if authority.source = source ∧ authority.agentLabel = agentLabel then authority.sessionRef
      else none).or
    ((s.persistedAgentSession.filter fun session =>
      session.source = source ∧ session.agent = agentLabel).map (·.sessionRef))

def persistedAgentSessionMatches (s : TerminalState) (source agent : String) : Bool :=
  s.persistedAgentSession.any fun session => session.source = source ∧ session.agent = agent

def persistedSessionIsAnchoredByHookIdentity (s : TerminalState) : Bool :=
  s.hookIdentity.any fun identity =>
    s.persistedAgentSessionMatches identity.source identity.agentLabel

def effectiveAgentLabel (s : TerminalState) : Option String :=
  (s.hookAuthority.map (·.agentLabel)).or (s.detectedAgent.map agentLabel)

/-- The start reasons on which an owner may replace its session. -/
def sessionStartSourceAllowsSessionReplacement (source agentLabel : String)
    (sessionStartSource : Option String) : Bool :=
  [("zynk:claude", "claude", [some "clear", some "resume", some "compact"]),
    ("zynk:codex", "codex", [some "startup", some "clear", some "resume", some "compact"]),
    ("zynk:hermes", "hermes", [some "startup", some "new", some "resume"]),
    ("zynk:antigravity_cli", "agy", [none]), ("zynk:opencode", "opencode", [some "select"]),
    ("zynk:pi", "pi", [some "new", some "resume", some "fork"]),
    ("zynk:omp", "omp", [some "startup", some "new", some "resume", some "fork"]),
    ("zynk:qwen", "qwen", [some "startup", some "clear", some "resume", some "compact",
      some "branch"])].any fun row =>
    row.1 = source ∧ row.2.1 = agentLabel ∧ sessionStartSource ∈ row.2.2

/-- The start reasons on which an owner may take over from another. -/
def sessionStartAllowsDifferentOwner (source agentLabel : String) (reason : Option String) : Bool :=
  [("zynk:claude", "claude", [some "startup", some "clear", some "resume", some "compact"]),
    ("zynk:codex", "codex", [some "startup", some "clear", some "resume", some "compact"]),
    ("zynk:hermes", "hermes", [some "startup", some "new", some "resume"]),
    ("zynk:pi", "pi", [some "new", some "resume", some "fork"]),
    ("zynk:qwen", "qwen", [some "startup", some "clear", some "resume", some "compact",
      some "branch"]), ("zynk:opencode", "opencode", [some "select"])].any fun row =>
    row.1 = source ∧ row.2.1 = agentLabel ∧ reason ∈ row.2.2

/-- The session the owner has, when a report names another without a reason to replace it. -/
def conflictingSameOwnerSessionRef (s : TerminalState) (source agentLabel : String)
    (sessionRef : AgentSessionRef) (sessionStartSource : Option String) : Option AgentSessionRef :=
  s.currentSessionIdentityForPersistence.bind fun (currentSource, currentAgent, current) =>
    if currentSource = source ∧ currentAgent = agentLabel ∧ current.kind = .id ∧
        sessionRef.kind = .id ∧ current.value ≠ sessionRef.value ∧
        sessionStartSourceAllowsSessionReplacement source agentLabel sessionStartSource = false then
      some current
    else none

/-! ## Conflicts -/

/-- An agent was detected and the label names another. -/
def labelConflicts (agentLabel : String) (detectedAgent : Option Agent) : Bool :=
  detectedAgent.any fun detected => (parseAgentLabel agentLabel).any (· != detected)

def hookAuthorityConflictsWithDetectedAgent (s : TerminalState) (detectedAgent : Option Agent) :
    Bool :=
  s.hookAuthority.any fun authority => labelConflicts authority.agentLabel detectedAgent

def hookIdentityConflictsWithDetectedAgent (s : TerminalState) (detectedAgent : Option Agent) :
    Bool :=
  s.hookIdentity.any fun identity => labelConflicts identity.agentLabel detectedAgent

def knownAgentLabelConflictsWithDetectedAgent (s : TerminalState) (agentLabel : String) : Bool :=
  labelConflicts agentLabel s.detectedAgent

def hookAuthorityNotNewerThan (s : TerminalState) (observedAt : ℤ) : Bool :=
  s.hookAuthority.all fun authority => authority.reportedAt ≤ observedAt

def hookIdentityNotNewerThan (s : TerminalState) (observedAt : ℤ) : Bool :=
  s.hookIdentity.all fun identity => identity.reportedAt ≤ observedAt

/-! ## The effective state -/

def liveFullLifecycleHookAuthority (s : TerminalState) : Bool :=
  s.hookAuthority.any fun authority =>
    fullLifecycleHookAuthority authority.source authority.agentLabel

def fallbackNotOlderThanHook (s : TerminalState) : Bool :=
  s.hookAuthority.all fun authority =>
    s.fallbackObservedAt.any fun observedAt => authority.reportedAt ≤ observedAt

def visibleBlockerOverridesHook (s : TerminalState) : Bool :=
  if s.liveFullLifecycleHookAuthority then false
  else
    s.fallbackVisibleBlocker && s.fallbackNotOlderThanHook &&
      s.hookAuthority.any fun authority =>
        authority.state != .blocked && parseAgentLabel authority.agentLabel == s.detectedAgent

/-- The arbitration rule. -/
def effectiveState (s : TerminalState) : AgentState :=
  if s.visibleBlockerOverridesHook then .blocked
  else (s.hookAuthority.map (·.state)).getD s.fallbackState

/-- `recompute_effective_state`, but for what it announces : the cached state is written
only when the announcement changes, and is what it was otherwise. -/
def recomputeEffectiveState (s : TerminalState) : TerminalState :=
  { s with state := s.effectiveState }

end TerminalState

end Zynk
