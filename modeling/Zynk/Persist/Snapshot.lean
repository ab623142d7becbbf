import Zynk.Agent.Argv
import Zynk.Terminal.Ops
import Zynk.Workspace.Model

/-!
# Session snapshots

The snapshot types of `persist/snapshot.rs` and, of `capture`, what it records of a workspace :
its tabs, their trees and its public numbers. What `capture_tab` records of one pane (its working
directory, its agent session, what was retired on it) comes from its terminal and its processes
and is an argument.

`HookRetirementSnapshot` is how the retirement records of a terminal travel, every instant as an
age.
-/

namespace Zynk

/-! ## Retirement records -/

structure SuppressedHookReportSnapshot where
  source : String
  agentLabel : String
  sessionRef : Option AgentSessionRef
  reason : HookSuppressionReason
  observedAgeMs : ℕ
  lastLossAgeMs : Option ℕ

structure StaleHookSessionSnapshot where
  source : String
  agentLabel : String
  sessionRef : AgentSessionRef
  retiredAgeMs : ℕ
  lastLossAgeMs : Option ℕ
  evidenceAgeMs : Option ℕ

structure HookIdentitySnapshot where
  source : String
  agentLabel : String
  sessionRef : Option AgentSessionRef
  reportedAgeMs : ℕ
  unconfirmedAgeMs : Option ℕ

structure UnansweredExitSnapshot where
  source : Option String
  agentLabel : String
  ageMs : ℕ

structure HookRetirementSnapshot where
  sequences : List (String × ℕ) := []
  metadataSequences : List (String × ℕ) := []
  metadataTokenSequenceSources : List String := []
  suppressed : List SuppressedHookReportSnapshot := []
  stale : List StaleHookSessionSnapshot := []
  hookIdentity : Option HookIdentitySnapshot := none
  unansweredExit : Option UnansweredExitSnapshot := none

/-! ## Sessions -/

structure PaneAgentSessionSnapshot where
  source : String
  agent : String
  kind : AgentSessionRefKind
  value : String
  deriving DecidableEq, Repr

structure PaneSnapshot where
  cwd : String
  label : Option String := none
  agentName : Option String := none
  managedAgentKind : Option String := none
  agentSession : Option PaneAgentSessionSnapshot := none
  launchArgv : Option (List String) := none
  hookRetirement : Option HookRetirementSnapshot := none

/-- `DirectionSnapshot` has the directions of a layout. -/
inductive LayoutSnapshot where
  | pane (id : ℕ)
  | split (direction : Direction) (ratio : F32) (first second : LayoutSnapshot)

structure TabSnapshot where
  customName : Option String
  layout : LayoutSnapshot
  panes : Assoc ℕ PaneSnapshot
  zoomed : Bool
  focused : Option ℕ
  rootPane : Option ℕ

structure WorkspaceSnapshot where
  id : Option String
  customName : Option String
  identityCwd : String
  publicPaneNumbers : Assoc ℕ ℕ
  nextPublicPaneNumber : ℕ
  publicTabNumbers : List ℕ
  nextPublicTabNumber : ℕ
  tabs : List TabSnapshot
  activeTab : ℕ

/-- The part of a session that `restore` reads. -/
structure SessionSnapshot where
  workspaces : List WorkspaceSnapshot

structure PaneHistorySnapshot where
  ansi : String
  lines : ℕ

structure TabHistorySnapshot where
  panes : Assoc ℕ PaneHistorySnapshot

structure WorkspaceHistorySnapshot where
  tabs : List TabHistorySnapshot

structure SessionHistorySnapshot where
  workspaces : List WorkspaceHistorySnapshot

/-- `collect_snapshot_pane_ids`. -/
def LayoutSnapshot.paneIds : LayoutSnapshot → List ℕ
  | pane id => [id]
  | split _ _ first second => first.paneIds ++ second.paneIds

/-! ## Capture -/

def captureNode : Node → LayoutSnapshot
  | .pane id => .pane id.raw
  | .split direction ratio first second =>
    .split direction ratio (captureNode first) (captureNode second)

/-- `content` is what is recorded of a pane. -/
def captureTab (content : PaneId → PaneSnapshot) (tab : Tab) : TabSnapshot where
  customName := tab.customName
  layout := captureNode tab.layout.root
  panes := Assoc.ofList (tab.panes.keys.map fun id => (id.raw, content id))
  zoomed := tab.zoomed
  focused := some tab.layout.focus.raw
  rootPane := some tab.rootPane.raw

/-- `identityCwd` is where the workspace is found to be. -/
def captureWorkspace (content : PaneId → PaneSnapshot) (identityCwd : String) (ws : Workspace) :
    WorkspaceSnapshot where
  id := some ws.id
  customName := ws.customName
  identityCwd := identityCwd
  publicPaneNumbers := Assoc.ofList (ws.publicPaneNumbers.entries.map fun e => (e.1.raw, e.2))
  nextPublicPaneNumber := ws.nextPublicPaneNumber
  publicTabNumbers := ws.tabs.map (·.number)
  nextPublicTabNumber := ws.nextPublicTabNumber
  tabs := ws.tabs.map (captureTab content)
  activeTab := ws.activeTab

/-! ## Handing retirement records over -/

/-- An age the clock cannot reach back to (`oldest` is its first instant) gives `now`. -/
def instantFromAgeMs (oldest now : ℤ) (ageMs : ℕ) : ℤ :=
  if now - 1000000 * ageMs < oldest then now else now - 1000000 * ageMs

namespace TerminalState

/-- One suppressed owner, through the funnel of the live paths. -/
def restoreSuppressed (oldest now : ℤ) (s : TerminalState)
    (suppressed : SuppressedHookReportSnapshot) : TerminalState :=
  let s := s.suppressHookReportWithSessionRef suppressed.source suppressed.agentLabel
    suppressed.sessionRef suppressed.reason (instantFromAgeMs oldest now suppressed.observedAgeMs)
  suppressed.lastLossAgeMs.elim s fun ageMs =>
    { s with suppressedHookReports := s.suppressedHookReports.mapWithKey fun key report =>
        if key = suppressed.source then
          report.observeProcessLoss (instantFromAgeMs oldest now ageMs)
        else report }

def restoreStale (oldest now : ℤ) (s : TerminalState) (stale : StaleHookSessionSnapshot) :
    TerminalState :=
  s.rememberStaleHookSession stale.source stale.agentLabel stale.sessionRef
    (instantFromAgeMs oldest now stale.retiredAgeMs)
    (stale.evidenceAgeMs.map (instantFromAgeMs oldest now))
    (stale.lastLossAgeMs.map (instantFromAgeMs oldest now))

/-- The identity, and its session when the pane has none. -/
def restoreHookIdentity (oldest now : ℤ) (s : TerminalState) (identity : HookIdentitySnapshot) :
    TerminalState :=
  let filled : Option PersistedAgentSession := identity.sessionRef.map fun sessionRef =>
    { source := identity.source, agent := identity.agentLabel, sessionRef }
  { s with
    persistedAgentSession := s.persistedAgentSession.or filled
    hookIdentity := some
      { source := identity.source
        agentLabel := identity.agentLabel
        reportedAt := instantFromAgeMs oldest now identity.reportedAgeMs
        unconfirmedSince := identity.unconfirmedAgeMs.map (instantFromAgeMs oldest now) } }

def restoreHookRetirement (oldest : ℤ) (s : TerminalState) (snapshot : HookRetirementSnapshot)
    (now : ℤ) : TerminalState :=
  let s := s.advanceSessionOwnerEpoch now
  let s := { s with
    hookReportSequences := snapshot.sequences.foldl (fun m e => m.insert e.1 e.2)
      s.hookReportSequences
    metadataReportSequences := snapshot.metadataSequences.foldl (fun m e => m.insert e.1 e.2)
      s.metadataReportSequences
    metadataTokenSequenceSources := snapshot.metadataTokenSequenceSources.foldl
      (fun m source => m.insert source ()) s.metadataTokenSequenceSources }
  let s := snapshot.suppressed.foldl (restoreSuppressed oldest now) s
  let s := snapshot.stale.foldl (restoreStale oldest now) s
  let s := snapshot.hookIdentity.elim s (s.restoreHookIdentity oldest now)
  snapshot.unansweredExit.elim s fun unanswered =>
    { s with unansweredHookExit := some (⟨unanswered.source, unanswered.agentLabel⟩,
        instantFromAgeMs oldest now unanswered.ageMs) }

/-- The imported identity has to be seen running. -/
def requireImportedHookIdentityConfirmation (s : TerminalState) (importedAt : ℤ) : TerminalState :=
  let s := s.advanceSessionOwnerEpoch importedAt
  { s with handoffConfirmation := s.hookIdentity.map fun identity =>
      (HookOwner.new identity.source identity.agentLabel, importedAt) }

def setPersistedAgentSession (s : TerminalState) (session : PersistedAgentSession) (now : ℤ) :
    TerminalState :=
  { s with persistedAgentSession := some session }.advanceSessionOwnerEpoch now

def seedRestoredAgentPresentation (s : TerminalState) (agent : Agent) : TerminalState :=
  { s with
    detectedAgent := some agent
    fallbackState := .idle
    fallbackVisibleBlocker := false
    fallbackObservedAt := none
    state := .idle }

end TerminalState

end Zynk
