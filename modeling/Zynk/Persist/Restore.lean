import Zynk.Persist.Snapshot

/-!
# Restoring a session

`restore` and `restore_handoff` of `persist/restore.rs`. A snapshot's panes get new ids, and each
of them a terminal : a shell in its saved directory, the runtime a handoff brought along, or an
agent that is resumed later. Panes whose runtime does not start are dropped, tabs without panes
are dropped, and workspaces without tabs are dropped.

The loop over the panes of a tab is `restorePanes`, over what the beginning of its body looks up
(`PaneTask`); what it adds to the maps of the tab is read off the list of what it restored. Which
runtimes start, what the file system has and what the clock shows is in a `RestoreWorld`. Git
state, the worktree of a workspace and the texts for the log are left out.
-/

namespace Zynk

/-! ## The world -/

/-- What a restore finds outside. A pane id is spawned or imported once, so that its outcome is
a function of the id. -/
structure RestoreWorld where
  spawnOk : PaneId → Bool
  importOk : PaneId → Bool
  pathExists : String → Bool
  home : Option String
  currentDir : Option String
  /-- When the session of a pane is anchored, and when its retirement records are imported. -/
  anchoredAt : PaneId → ℤ
  importedAt : PaneId → ℤ
  oldestInstant : ℤ

/-- A restore in which everything starts. -/
def startingWorld : RestoreWorld where
  spawnOk _ := true
  importOk _ := true
  pathExists _ := true
  home := none
  currentDir := none
  anchoredAt _ := 0
  importedAt _ := 0
  oldestInstant := 0

structure RestoreMode where
  resumeAgents : Bool
  handoff : Bool

/-- The runtime of a pane that a handoff brought along. -/
structure ImportedHandoffRuntime where
  masterFd : ℕ

/-- The counter terminal ids come from, and what the panes so far have used up. -/
structure RestoreState where
  nextTerminalId : ℕ
  resumedSessions : List String
  importedPanes : Assoc ℕ ImportedHandoffRuntime
  failedImports : ℕ

/-- A terminal as it is restored : its hook state and what it was launched and labelled with. -/
structure Terminal where
  id : TerminalId
  cwd : String
  launchArgv : Option (List String) := none
  respawnShellOnExit : Bool := false
  pendingAgentResumePlan : Option AgentResumePlan := none
  manualLabel : Option String := none
  agentName : Option String := none
  /-- The kind of an active managed agent. -/
  managedAgent : Option Agent := none
  state : TerminalState := .new

/-- A runtime, with what it was started with. -/
inductive TerminalRuntime where
  | imported (paneId : PaneId) (runtime : ImportedHandoffRuntime)
  | spawned (paneId : PaneId) (cwd : String) (launchEnv : PaneLaunchEnv)
    (initialHistoryAnsi : Option String)

/-! ## Sessions of a snapshot -/

def persistedAgentSessionFromSnapshot (session : PaneAgentSessionSnapshot) :
    Option PersistedAgentSession :=
  sessionRefFromSnapshot session.source session.agent session.kind session.value

/-- `dedupe_key` of a session. -/
def PersistedAgentSession.key (session : PersistedAgentSession) : String :=
  dedupeKey session.source session.agent session.sessionRef

/-- The session a leaf carries. -/
def TabSnapshot.sessionOf (tab : TabSnapshot) (oldId : ℕ) : Option PersistedAgentSession :=
  ((tab.panes.lookup oldId).bind (·.agentSession)).bind persistedAgentSessionFromSnapshot

/-- The sessions the leaves of a snapshot carry. -/
def SessionSnapshot.leafSessions (snapshot : SessionSnapshot) : List PersistedAgentSession :=
  snapshot.workspaces.flatMap fun workspace => workspace.tabs.flatMap fun tab =>
    tab.layout.paneIds.filterMap tab.sessionOf

/-- The keys of `conflicting_snapshot_agent_sessions` : those that two leaves or more carry. -/
def conflictingSnapshotAgentSessions (snapshot : SessionSnapshot) : List String :=
  let keys := snapshot.leafSessions.map (·.key)
  keys.dedup.filter fun key => 1 < keys.count key

def restorePlanForSnapshot (session : PaneAgentSessionSnapshot) (resumeAgentsOnRestore : Bool)
    (originalArgv : Option (List String)) : Option AgentResumePlan :=
  if !resumeAgentsOnRestore then none
  else
    (persistedAgentSessionFromSnapshot session).bind fun persisted =>
      plan session.source session.agent persisted.sessionRef originalArgv

structure PaneRestoreStartup where
  restorePlan : Option AgentResumePlan
  initialHistoryAnsi : Option String
  duplicateAgentSession : Bool
  reservedAgentSession : Option String

/-- How a pane starts, and the sessions that are resumed so far. -/
def paneRestoreStartup (session : Option PaneAgentSessionSnapshot)
    (history : Option PaneHistorySnapshot) (enabled : Bool) (resumedSessions : List String)
    (conflictingSessions : List String) (originalArgv : Option (List String)) :
    PaneRestoreStartup × List String :=
  let restorePlan := session.bind fun session =>
    restorePlanForSnapshot session enabled originalArgv
  let initialHistoryAnsi := if restorePlan.isSome then none else history.map (·.ansi)
  let snapshotSessionKey := (session.bind persistedAgentSessionFromSnapshot).map (·.key)
  if snapshotSessionKey.any conflictingSessions.contains then
    ({ restorePlan := none, initialHistoryAnsi, duplicateAgentSession := true,
       reservedAgentSession := none }, resumedSessions)
  else
    match restorePlan with
    | none =>
      ({ restorePlan := none, initialHistoryAnsi, duplicateAgentSession := false,
         reservedAgentSession := none }, resumedSessions)
    | some plan =>
      if resumedSessions.contains plan.dedupeKey then
        ({ restorePlan := none, initialHistoryAnsi, duplicateAgentSession := true,
           reservedAgentSession := none }, resumedSessions)
      else
        -- Reserved before the pane starts, so that no later one resumes it too.
        ({ restorePlan := some plan, initialHistoryAnsi, duplicateAgentSession := false,
           reservedAgentSession := some plan.dedupeKey }, plan.dedupeKey :: resumedSessions)

def restoredTerminalAgentSession (session : Option PaneAgentSessionSnapshot)
    (duplicateAgentSession : Bool) : Option PersistedAgentSession :=
  if duplicateAgentSession then none else session.bind persistedAgentSessionFromSnapshot

/-! ## One pane -/

/-- What the loop of `restore_tab` looks up for a pane. `oldId` is the saved pane it comes from. -/
structure PaneTask where
  id : PaneId
  oldId : Option ℕ
  saved : Option PaneSnapshot
  history : Option PaneHistorySnapshot
  launchEnv : PaneLaunchEnv

def restoredCwd (world : RestoreWorld) (saved : Option PaneSnapshot) : String :=
  let savedCwd := (saved.map (·.cwd)).getD (world.currentDir.getD "/")
  if world.pathExists savedCwd then savedCwd
  else
    let home := world.home.getD "/"
    if world.pathExists home then home else "/"

/-- `set_manual_label` and `set_agent_name` trim, and an empty name is none. -/
def trimmedName (name : String) : Option String :=
  let name := trim name.toList
  if name.isEmpty then none else some (String.ofList name)

namespace Terminal

def setManualLabel (t : Terminal) (label : String) : Terminal :=
  { t with manualLabel := trimmedName label }

def setAgentName (t : Terminal) (name : String) : Terminal :=
  { t with agentName := trimmedName name }

def restoreManagedAgent (t : Terminal) (name : String) (kind : Agent) : Terminal :=
  { t.setAgentName name with managedAgent := some kind }

/-- `apply_handoff_hook_retirement`. -/
def applyHandoffHookRetirement (t : Terminal) (world : RestoreWorld) (handoff : Bool)
    (retirement : Option HookRetirementSnapshot) (paneId : PaneId) : Terminal :=
  if !handoff then t
  else
    retirement.elim t fun retirement =>
      let importedAt := world.importedAt paneId
      let state := t.state.restoreHookRetirement world.oldestInstant retirement importedAt
      { t with state := state.requireImportedHookIdentityConfirmation importedAt }

end Terminal

/-- What both ways of starting a pane do last. -/
def anchorTerminal (world : RestoreWorld) (mode : RestoreMode) (task : PaneTask)
    (startup : PaneRestoreStartup) (terminal : Terminal) : Terminal :=
  let terminal := (startup.restorePlan.bind fun plan => parseAgentLabel plan.agent).elim terminal
    fun agent => { terminal with state := terminal.state.seedRestoredAgentPresentation agent }
  let session := restoredTerminalAgentSession (task.saved.bind (·.agentSession))
    startup.duplicateAgentSession
  let terminal := session.elim terminal fun session =>
    { terminal with
      state := terminal.state.setPersistedAgentSession session (world.anchoredAt task.id) }
  terminal.applyHandoffHookRetirement world mode.handoff (task.saved.bind (·.hookRetirement)) task.id

/-- The kind of a managed agent, if the saved one is canonical. -/
def savedManagedAgent (saved : Option PaneSnapshot) : Option Agent :=
  (saved.bind (·.managedAgentKind)).bind fun kind => parseCanonicalAgentLabel kind.toList

/-- The terminal of a pane whose agent is resumed later. -/
def deferredTerminal (world : RestoreWorld) (mode : RestoreMode) (task : PaneTask)
    (startup : PaneRestoreStartup) (plan : AgentResumePlan) (terminalId : TerminalId) : Terminal :=
  let terminal : Terminal :=
    { id := terminalId
      cwd := restoredCwd world task.saved
      pendingAgentResumePlan := some plan
      launchArgv := task.saved.bind (·.launchArgv) }
  let terminal := (task.saved.bind (·.label)).elim terminal terminal.setManualLabel
  let terminal :=
    match task.saved.bind (·.agentName), savedManagedAgent task.saved with
    | some name, some kind => terminal.restoreManagedAgent name kind
    | some name, none => terminal.setAgentName name
    | none, _ => terminal
  anchorTerminal world mode task startup terminal

/-- The terminal of a pane whose runtime has started. -/
def startedTerminal (world : RestoreWorld) (mode : RestoreMode) (task : PaneTask)
    (startup : PaneRestoreStartup) (wasImported : Bool) (terminalId : TerminalId) : Terminal :=
  let launchArgv := if wasImported then task.saved.bind (·.launchArgv) else none
  let terminal : Terminal :=
    { id := terminalId
      cwd := restoredCwd world task.saved
      launchArgv := launchArgv
      respawnShellOnExit := launchArgv.isSome }
  let terminal := (task.saved.bind (·.label)).elim terminal terminal.setManualLabel
  let terminal :=
    match task.saved.bind (·.agentName), savedManagedAgent task.saved with
    | some name, some kind => if wasImported then terminal.restoreManagedAgent name kind else terminal
    | some name, none => terminal.setAgentName name
    | none, _ => terminal
  anchorTerminal world mode task startup terminal

structure RestoredPane where
  terminal : Terminal
  runtime : Option TerminalRuntime

/-- The body of the loop of `restore_tab`. -/
def restorePane (world : RestoreWorld) (mode : RestoreMode) (conflicting : List String)
    (task : PaneTask) (st : RestoreState) : Option RestoredPane × RestoreState :=
  let (startup, resumedSessions) := paneRestoreStartup (task.saved.bind (·.agentSession))
    task.history mode.resumeAgents st.resumedSessions conflicting (task.saved.bind (·.launchArgv))
  let st := { st with resumedSessions }
  let imported := task.oldId.bind st.importedPanes.lookup
  let st := task.oldId.elim st fun oldId => { st with importedPanes := st.importedPanes.erase oldId }
  let terminalId : TerminalId := ⟨st.nextTerminalId⟩
  let started := { st with nextTerminalId := st.nextTerminalId + 1 }
  match imported, startup.restorePlan with
  | none, some plan =>
    (some ⟨deferredTerminal world mode task startup plan terminalId, none⟩, started)
  | none, none =>
    if world.spawnOk task.id then
      let runtime := TerminalRuntime.spawned task.id (restoredCwd world task.saved) task.launchEnv
        startup.initialHistoryAnsi
      (some ⟨startedTerminal world mode task startup false terminalId, some runtime⟩, started)
    else
      -- Nothing was reserved without a plan.
      (none, st)
  | some runtime, _ =>
    if world.importOk task.id then
      (some ⟨startedTerminal world mode task startup true terminalId,
        some (.imported task.id runtime)⟩, started)
    else
      (none, { st with
        resumedSessions := startup.reservedAgentSession.elim st.resumedSessions st.resumedSessions.erase
        failedImports := st.failedImports + 1 })

/-- The loop of `restore_tab` : the panes that are restored. -/
def restorePanes (world : RestoreWorld) (mode : RestoreMode) (conflicting : List String) :
    List PaneTask → RestoreState → List (PaneTask × RestoredPane) × RestoreState
  | [], st => ([], st)
  | task :: tasks, st =>
    let (pane, st) := restorePane world mode conflicting task st
    let (panes, st) := restorePanes world mode conflicting tasks st
    (pane.elim panes fun pane => (task, pane) :: panes, st)

/-! ## One tab -/

/-- `remap_inner` : the tree with new ids, the pairs of old and new ids in its order, and the next
id. -/
def remapInner : LayoutSnapshot → ℕ → Node × List (ℕ × PaneId) × ℕ
  | .pane oldId, next => (.pane ⟨next⟩, [(oldId, ⟨next⟩)], next + 1)
  | .split direction ratio first second, next =>
    let (firstNode, firstIds, next) := remapInner first next
    let (secondNode, secondIds, next) := remapInner second next
    (.split direction ratio firstNode secondNode, firstIds ++ secondIds, next)

/-- `reverse_id_map`, of the ids that the map from old to new ids has. -/
def reverseIdMap (idMap : Assoc ℕ PaneId) : Assoc PaneId ℕ :=
  Assoc.ofList (idMap.entries.map fun e => (e.2, e.1))

def pruneRestoredNode (surviving : PaneId → Bool) : Node → Option Node
  | .pane id => if surviving id then some (.pane id) else none
  | .split direction ratio first second =>
    match pruneRestoredNode surviving first, pruneRestoredNode surviving second with
    | some first, some second => some (.split direction ratio first second)
    | some remaining, none => some remaining
    | none, some remaining => some remaining
    | none, none => none

def resolveRestoredPane (savedOldId : Option ℕ) (idMap : Assoc ℕ PaneId)
    (surviving : PaneId → Bool) (paneIds : List PaneId) : Option PaneId :=
  ((savedOldId.bind idMap.lookup).filter surviving).or paneIds.head?

/-- What the loop looks up for the pane `id`. -/
def paneTask (snap : TabSnapshot) (history : Option TabHistorySnapshot) (number : ℕ)
    (reverse : Assoc PaneId ℕ) (publicPaneIds : ℕ → Option String) (workspaceId : String)
    (id : PaneId) : PaneTask :=
  let oldId := reverse.lookup id
  { id, oldId
    saved := oldId.bind snap.panes.lookup
    history := oldId.bind fun oldId => history.bind (·.panes.lookup oldId)
    launchEnv := (oldId.bind publicPaneIds).elim {} fun paneId =>
      { identity := .managed workspaceId (publicTabIdForNumber workspaceId number) paneId } }

structure RestoredTab where
  tab : Tab
  panes : List (PaneTask × RestoredPane)
  reverse : Assoc PaneId ℕ

/-- The pane map of a tab. -/
def restoredPaneStates (restored : List (PaneTask × RestoredPane)) : Assoc PaneId PaneState :=
  Assoc.ofList (restored.map fun (task, pane) => (task.id, PaneState.new pane.terminal.id))

/-- `nextPaneId` is where the ids of the tab start. The counter after it is returned. -/
def restoreTab (world : RestoreWorld) (mode : RestoreMode) (conflicting : List String)
    (snap : TabSnapshot) (history : Option TabHistorySnapshot) (number : ℕ)
    (publicPaneIds : ℕ → Option String) (workspaceId : String) (nextPaneId : ℕ)
    (st : RestoreState) : Option RestoredTab × ℕ × RestoreState :=
  let (node, ids, nextPaneId) := remapInner snap.layout nextPaneId
  let idMap := Assoc.ofList ids
  let reverse := reverseIdMap idMap
  let tasks := node.paneIds.map (paneTask snap history number reverse publicPaneIds workspaceId)
  let (restored, st) := restorePanes world mode conflicting tasks st
  let panes := restoredPaneStates restored
  if restored.isEmpty then (none, nextPaneId, st)
  else
    let surviving id := (panes.lookup id).isSome
    match pruneRestoredNode surviving node with
    | none => (none, nextPaneId, st)
    | some node =>
      match resolveRestoredPane snap.focused idMap surviving node.paneIds,
        resolveRestoredPane snap.rootPane idMap surviving node.paneIds with
      | some focus, some rootPane =>
        let tab : Tab :=
          { customName := snap.customName, number, rootPane
            layout := .fromSaved node focus, panes, zoomed := snap.zoomed }
        (some { tab, panes := restored, reverse }, nextPaneId, st)
      | _, _ => (none, nextPaneId, st)

/-! ## One workspace -/

/-- `usize` addition of one, as a release build does it. -/
def usizeSucc (n : ℕ) : ℕ :=
  (n + 1) % 2 ^ 64

def checkedSucc (n : ℕ) : Option ℕ :=
  if n + 1 < 2 ^ 64 then some (n + 1) else none

/-- The counter a restored workspace goes on with : above all saved numbers and not below the
saved counter. -/
def nextNumber (numbers : List ℕ) (saved : ℕ) : ℕ :=
  max ((numbers.max?.bind checkedSucc).getD 1) saved

/-- Every leaf without a number gets the next one. -/
def migratedPublicPaneNumbers (numbers : Assoc ℕ ℕ) (next : ℕ) : List ℕ → Assoc ℕ ℕ × ℕ
  | [] => (numbers, next)
  | oldId :: oldIds =>
    if oldId ∈ numbers then migratedPublicPaneNumbers numbers next oldIds
    else migratedPublicPaneNumbers (numbers.insert oldId next) (usizeSucc next) oldIds

/-- The numbers of the panes of a restored tab. -/
def assignPaneNumbers (byOldId : Assoc ℕ ℕ) (reverse : Assoc PaneId ℕ) :
    List PaneId → Assoc PaneId ℕ → ℕ → Assoc PaneId ℕ × ℕ
  | [], numbers, next => (numbers, next)
  | id :: ids, numbers, next =>
    let (number, next) :=
      match byOldId.lookup ((reverse.lookup id).getD id.raw) with
      | some number => (number, next)
      | none => (next, usizeSucc next)
    assignPaneNumbers byOldId reverse ids (numbers.insert id number) (max next (usizeSucc number))

/-- A workspace while its tabs are restored. -/
structure WorkspaceParts where
  tabs : List Tab := []
  panes : List (PaneTask × RestoredPane) := []
  publicPaneNumbers : Assoc PaneId ℕ := ∅
  nextPublicPaneNumber : ℕ
  nextPublicTabNumber : ℕ

/-- A tab is added with its saved number, and its panes with theirs. -/
def WorkspaceParts.addTab (parts : WorkspaceParts) (publicTabNumbers : List ℕ)
    (byOldId : Assoc ℕ ℕ) (idx : ℕ) (restored : RestoredTab) : WorkspaceParts :=
  let tab := { restored.tab with number := publicTabNumbers[idx]?.getD restored.tab.number }
  let (numbers, next) := assignPaneNumbers byOldId restored.reverse tab.layout.paneIds
    parts.publicPaneNumbers parts.nextPublicPaneNumber
  { tabs := parts.tabs ++ [tab]
    panes := parts.panes ++ restored.panes
    publicPaneNumbers := numbers
    nextPublicPaneNumber := next
    nextPublicTabNumber := max parts.nextPublicTabNumber (usizeSucc tab.number) }

/-- The loop of `restore_workspace` from tab `idx` on. -/
def restoreTabs (world : RestoreWorld) (mode : RestoreMode) (conflicting : List String)
    (history : Option WorkspaceHistorySnapshot) (publicTabNumbers : List ℕ) (byOldId : Assoc ℕ ℕ)
    (workspaceId : String) :
    List TabSnapshot → ℕ → WorkspaceParts → ℕ → RestoreState → WorkspaceParts × ℕ × RestoreState
  | [], _, parts, nextPaneId, st => (parts, nextPaneId, st)
  | snap :: snaps, idx, parts, nextPaneId, st =>
    let publicPaneIds oldId := (byOldId.lookup oldId).map (publicPaneIdForNumber workspaceId)
    let (restored, nextPaneId, st) := restoreTab world mode conflicting snap
      (history.bind (·.tabs[idx]?)) (idx + 1) publicPaneIds workspaceId nextPaneId st
    let parts := restored.elim parts (parts.addTab publicTabNumbers byOldId idx)
    restoreTabs world mode conflicting history publicTabNumbers byOldId workspaceId snaps (idx + 1)
      parts nextPaneId st

structure RestoredWorkspace where
  workspace : Workspace
  panes : List (PaneTask × RestoredPane)

/-- The counters pane ids and workspace ids come from. -/
structure IdCounters where
  nextPaneId : ℕ
  nextWorkspaceId : ℕ

/-- The saved id, or the next one. -/
def restoredWorkspaceId (snap : WorkspaceSnapshot) (ids : IdCounters) : String × IdCounters :=
  match snap.id with
  | some id => (id, ids)
  | none => (workspaceIdForNumber ids.nextWorkspaceId,
      { ids with nextWorkspaceId := ids.nextWorkspaceId + 1 })

/-- The numbers of all leaves, and the next one. -/
def restoredPaneNumbers (snap : WorkspaceSnapshot) : Assoc ℕ ℕ × ℕ :=
  migratedPublicPaneNumbers snap.publicPaneNumbers
    (nextNumber (snap.publicPaneNumbers.entries.map (·.2)) snap.nextPublicPaneNumber)
    (snap.tabs.flatMap (·.layout.paneIds))

def restoreWorkspace (world : RestoreWorld) (mode : RestoreMode) (conflicting : List String)
    (snap : WorkspaceSnapshot) (history : Option WorkspaceHistorySnapshot) (ids : IdCounters)
    (st : RestoreState) : Option RestoredWorkspace × IdCounters × RestoreState :=
  let (workspaceId, ids) := restoredWorkspaceId snap ids
  let (byOldId, nextPublicPaneNumber) := restoredPaneNumbers snap
  let nextPublicTabNumber := nextNumber snap.publicTabNumbers snap.nextPublicTabNumber
  let (parts, nextPaneId, st) := restoreTabs world mode conflicting history snap.publicTabNumbers
    byOldId workspaceId snap.tabs 0 { nextPublicPaneNumber, nextPublicTabNumber } ids.nextPaneId st
  let ids := { ids with nextPaneId }
  if parts.tabs.isEmpty then (none, ids, st)
  else
    let workspace : Workspace :=
      { id := workspaceId
        customName := snap.customName
        identityCwd := snap.identityCwd
        publicPaneNumbers := parts.publicPaneNumbers
        nextPublicPaneNumber := parts.nextPublicPaneNumber
        nextPublicTabNumber := parts.nextPublicTabNumber
        tabs := parts.tabs
        activeTab := min snap.activeTab (parts.tabs.length - 1) }
    (some { workspace, panes := parts.panes }, ids, st)

/-! ## A session -/

/-- The loop of `restore_with_imports_and_failures` from workspace `idx` on. -/
def restoreWorkspaces (world : RestoreWorld) (mode : RestoreMode) (conflicting : List String)
    (history : Option SessionHistorySnapshot) :
    List WorkspaceSnapshot → ℕ → IdCounters → RestoreState → List RestoredWorkspace × RestoreState
  | [], _, _, st => ([], st)
  | snap :: snaps, idx, ids, st =>
    let (restored, ids, st) := restoreWorkspace world mode conflicting snap
      (history.bind (·.workspaces[idx]?)) ids st
    let (rest, st) := restoreWorkspaces world mode conflicting history snaps (idx + 1) ids st
    (restored.elim rest (· :: rest), st)

/-- A restored session : its workspaces, its terminals and the runtimes that were started. -/
structure RestoredSession where
  workspaces : List Workspace
  terminals : List Terminal
  runtimes : List (TerminalId × TerminalRuntime)

def RestoredSession.ofWorkspaces (restored : List RestoredWorkspace) : RestoredSession where
  workspaces := restored.map (·.workspace)
  terminals := restored.flatMap fun ws => ws.panes.map (·.2.terminal)
  runtimes := restored.flatMap fun ws => ws.panes.filterMap fun (_, pane) =>
    pane.runtime.map (pane.terminal.id, ·)

def restoreWithImports (world : RestoreWorld) (mode : RestoreMode) (snapshot : SessionSnapshot)
    (history : Option SessionHistorySnapshot) (imports : Assoc ℕ ImportedHandoffRuntime)
    (ids : IdCounters) (nextTerminalId : ℕ) : List RestoredWorkspace × RestoreState :=
  restoreWorkspaces world mode (conflictingSnapshotAgentSessions snapshot) history
    snapshot.workspaces 0 ids
    { nextTerminalId, resumedSessions := [], importedPanes := imports, failedImports := 0 }

/-- A cold restore. -/
def restore (world : RestoreWorld) (snapshot : SessionSnapshot)
    (history : Option SessionHistorySnapshot) (resumeAgentsOnRestore : Bool) (ids : IdCounters)
    (nextTerminalId : ℕ) : RestoredSession :=
  .ofWorkspaces (restoreWithImports world ⟨resumeAgentsOnRestore, false⟩ snapshot history ∅ ids
    nextTerminalId).1

inductive HandoffError where
  | failedImports (count : ℕ)
  | unconsumedImports (count : ℕ)

/-- A live handoff : every runtime that came along has to be restored. -/
def restoreHandoff (world : RestoreWorld) (snapshot : SessionSnapshot)
    (imports : Assoc ℕ ImportedHandoffRuntime) (ids : IdCounters) (nextTerminalId : ℕ) :
    Except HandoffError RestoredSession :=
  let (restored, st) := restoreWithImports world ⟨true, true⟩ snapshot none imports ids
    nextTerminalId
  if 0 < st.failedImports then .error (.failedImports st.failedImports)
  else if st.importedPanes.entries.isEmpty then .ok (.ofWorkspaces restored)
  else .error (.unconsumedImports st.importedPanes.entries.length)

/-- `handoff_pane_aliases` : the saved panes under their new ids. -/
def handoffPaneAliases (snapshot : SessionSnapshot) (workspaces : List Workspace) : Assoc ℕ PaneId :=
  let pairs := (snapshot.workspaces.zip workspaces).flatMap fun (wsSnap, workspace) =>
    (wsSnap.tabs.zip workspace.tabs).flatMap fun (tabSnap, tab) =>
      tabSnap.layout.paneIds.zip tab.layout.paneIds
  Assoc.ofList (pairs.filter fun (oldId, newId) => oldId ≠ newId.raw)

end Zynk
