import Zynk.Workspace.Model

/-!
# Tab and pane operations

The operations of `workspace.rs` and `workspace/tab.rs` that change which tabs and panes there
are, and the pane move of `app/api/panes.rs` that is made of them : it takes a pane out of one
workspace and puts it into a tab, a new tab or a new workspace.

Whether a runtime starts is decided outside, from the environment it is launched with. Pane,
terminal and workspace ids are drawn from counters that all workspaces share; no run is long
enough for one to wrap around. `none` is a panic.
-/

namespace Zynk

structure MovedPane where
  paneId : PaneId
  paneState : PaneState

/-! ## Tabs -/

namespace Tab

/-- `Tab::new`, with the ids it allocates. -/
def new (number : ℕ) (rootId : PaneId) (terminalId : TerminalId) : Tab where
  customName := none
  number := number
  rootPane := rootId
  layout := .new rootId
  panes := (∅ : Assoc PaneId PaneState).insert rootId (PaneState.new terminalId)
  zoomed := false

def fromExistingPane (number : ℕ) (customName : Option String) (moved : MovedPane) : Tab where
  customName := customName
  number := number
  rootPane := moved.paneId
  layout := .fromSaved (.pane moved.paneId) moved.paneId
  panes := (∅ : Assoc PaneId PaneState).insert moved.paneId moved.paneState
  zoomed := false

def promotedRootIfNeeded (tab : Tab) (closing : PaneId) : Option PaneId :=
  if tab.rootPane ≠ closing then none else tab.layout.paneIds.find? (· ≠ closing)

/-- The new pane, or none when the target is not there or the runtime does not start. -/
def splitPaneWithRuntime (tab : Tab) (target : PaneId) (focusNewPane : Bool)
    (direction : Direction) (ratio : Option F32) (spawned : Bool) (newId : PaneId)
    (terminalId : TerminalId) : Option (Tab × Option PaneId) :=
  match tab.layout.splitPane target direction (ratio.getD halfRatio) newId with
  | (_, none) => some (tab, none)
  | (layout, some newId) =>
    if spawned then
      let layout := if focusNewPane then layout.focusPane newId else layout
      some ({ tab with
        layout
        panes := tab.panes.insert newId (PaneState.new terminalId)
        zoomed := false }, some newId)
    else (layout.closePane newId).map fun closed => ({ tab with layout := closed.1 }, none)

def takePaneForMove (tab : Tab) (paneId : PaneId) : Option (Tab × Option MovedPane) :=
  match tab.panes.lookup paneId with
  | none => some (tab, none)
  | some paneState =>
    let taken (tab : Tab) : Tab × Option MovedPane :=
      ({ tab with panes := tab.panes.erase paneId, zoomed := false }, some { paneId, paneState })
    if 1 < tab.layout.paneCount then
      let nextRoot := tab.promotedRootIfNeeded paneId
      (tab.layout.closePane paneId).map fun closed =>
        taken { tab with layout := closed.1, rootPane := nextRoot.getD tab.rootPane }
    else some (taken tab)

/-- The flag is whether the pane was put in. -/
def insertExistingPane (tab : Tab) (targetPaneId : PaneId) (moved : MovedPane)
    (direction : Direction) (ratio : F32) (focus : Bool) : Tab × Bool :=
  match tab.layout.insertPaneNear targetPaneId moved.paneId direction ratio focus with
  | (_, false) => (tab, false)
  | (layout, true) =>
    ({ tab with
      layout
      panes := tab.panes.insert moved.paneId moved.paneState
      zoomed := false }, true)

/-- `detach_pane`, which is what `close_pane` and `remove_pane` of a tab are. -/
def detachPane (tab : Tab) (paneId : PaneId) : Option (Tab × Option (PaneId × TerminalId)) :=
  if tab.layout.paneCount ≤ 1 then some (tab, none)
  else
    let nextRoot := tab.promotedRootIfNeeded paneId
    (tab.layout.closePane paneId).map fun closed =>
      let tab := { tab with layout := closed.1 }
      match tab.panes.lookup paneId with
      | none => (tab, none)
      | some pane =>
        ({ tab with
          panes := tab.panes.erase paneId
          zoomed := false
          rootPane := nextRoot.getD tab.rootPane }, some (paneId, pane.attachedTerminalId))

end Tab

/-! ## Workspaces -/

structure TakenPane where
  moved : MovedPane
  removedTabIdx : Option ℕ
  workspaceEmpty : Bool

namespace Workspace

/-- A workspace of one tab with one pane, as `Workspace::new` and `Workspace::from_existing_pane`
build it. -/
def single (id : String) (customName : Option String) (identityCwd : String) (tab : Tab) :
    Workspace where
  id := id
  customName := customName
  identityCwd := identityCwd
  publicPaneNumbers := (∅ : Assoc PaneId ℕ).insert tab.rootPane 1
  nextPublicPaneNumber := 2
  nextPublicTabNumber := 2
  tabs := [tab]
  activeTab := 0

def new (id : String) (initialCwd : String) (rootId : PaneId) (terminalId : TerminalId) :
    Workspace :=
  single id none initialCwd (.new 1 rootId terminalId)

def fromExistingPane (id : String) (label tabLabel : Option String) (identityCwd : String)
    (moved : MovedPane) : Workspace :=
  single id label identityCwd (.fromExistingPane 1 tabLabel moved)

/-- `Workspace::active_tab`. -/
def activeTab? (ws : Workspace) : Option Tab :=
  ws.tabs[ws.activeTab]?

def findTabIndexForPane (ws : Workspace) (paneId : PaneId) : Option ℕ :=
  ws.tabs.findIdx? fun tab => decide (paneId ∈ tab.panes)

def registerNewPaneWithNumber (ws : Workspace) (paneId : PaneId) (number : ℕ) : Workspace :=
  { ws with
    publicPaneNumbers := ws.publicPaneNumbers.insert paneId number
    nextPublicPaneNumber := max ws.nextPublicPaneNumber (number + 1) }

def unregisterPane (ws : Workspace) (paneId : PaneId) : Workspace :=
  { ws with publicPaneNumbers := ws.publicPaneNumbers.erase paneId }

def unregisterMovedPane (ws : Workspace) (paneId : PaneId) : Workspace :=
  ws.unregisterPane paneId

def launchEnvForNewPane (ws : Workspace) (tabNumber paneNumber : ℕ)
    (extraEnv : List (String × String)) : PaneLaunchEnv where
  extra := extraEnv
  identity := .managed ws.id (publicTabIdForNumber ws.id tabNumber)
    (publicPaneIdForNumber ws.id paneNumber)

def adjustActiveTabAfterRemoval (ws : Workspace) (removedIdx : ℕ) : Workspace :=
  if ws.tabs.isEmpty then { ws with activeTab := 0 }
  else if ws.tabs.length ≤ ws.activeTab then { ws with activeTab := ws.tabs.length - 1 }
  else if removedIdx ≤ ws.activeTab ∧ 0 < ws.activeTab then
    { ws with activeTab := ws.activeTab - 1 }
  else ws

def switchTab (ws : Workspace) (idx : ℕ) : Workspace :=
  if idx < ws.tabs.length then
    { ws with
      activeTab := idx
      tabs := ws.tabs.modify idx fun tab =>
        { tab with panes := tab.panes.mapWithKey fun _ pane => { pane with seen := true } } }
  else ws

/-- The index of the new tab, or none when its runtime does not start : its number is used up all
the same. -/
def createTabWithRuntime (ws : Workspace) (extraEnv : List (String × String))
    (spawn : PaneLaunchEnv → Bool) (rootId : PaneId) (terminalId : TerminalId) :
    Option (Workspace × Option ℕ) :=
  let number := ws.nextPublicTabNumber
  let ws := { ws with nextPublicTabNumber := ws.nextPublicTabNumber + 1 }
  let paneNumber := ws.nextPublicPaneNumber
  let launchEnv := ws.launchEnvForNewPane number paneNumber extraEnv
  ws.activeTab?.map fun _ =>
    if spawn launchEnv then
      let tab := Tab.new number rootId terminalId
      let ws := ws.registerNewPaneWithNumber tab.rootPane paneNumber
      ({ ws with tabs := ws.tabs ++ [tab] }, some ws.tabs.length)
    else (ws, none)

def closeTab (ws : Workspace) (idx : ℕ) : Workspace × Bool :=
  if ws.tabs.length ≤ 1 then (ws, false)
  else
    match ws.tabs[idx]? with
    | none => (ws, false)
    | some tab =>
      let ws := { ws with tabs := ws.tabs.eraseIdx idx }
      let ws := tab.panes.keys.foldl unregisterPane ws
      if ws.tabs.length ≤ ws.activeTab then ({ ws with activeTab := ws.tabs.length - 1 }, true)
      else if idx ≤ ws.activeTab ∧ 0 < ws.activeTab then
        ({ ws with activeTab := ws.activeTab - 1 }, true)
      else (ws, true)

def moveTab (ws : Workspace) (sourceIdx insertIdx : ℕ) : Workspace × Bool :=
  match ws.tabs[sourceIdx]? with
  | none => (ws, false)
  | some tab =>
    if ws.tabs.length < insertIdx then (ws, false)
    else
      let targetIdx :=
        min (if sourceIdx < insertIdx then insertIdx - 1 else insertIdx) (ws.tabs.length - 1)
      if sourceIdx = targetIdx then (ws, false)
      else
        let activeRootPane := ws.activeTab?.map (·.rootPane)
        let tabs := (ws.tabs.eraseIdx sourceIdx).insertIdx targetIdx tab
        ({ ws with
          tabs
          activeTab := (activeRootPane.bind fun rootPane =>
            tabs.findIdx? fun tab => tab.rootPane == rootPane).getD targetIdx }, true)

/-- The new pane. There is none when the target is in no tab or the runtime does not start. -/
def splitPaneWithRuntime (ws : Workspace) (paneId : PaneId) (direction : Direction)
    (ratio : Option F32) (focusNewPane : Bool) (extraEnv : List (String × String))
    (spawn : PaneLaunchEnv → Bool) (newId : PaneId) (terminalId : TerminalId) :
    Option (Workspace × Option PaneId) :=
  match ws.findTabIndexForPane paneId with
  | none => some (ws, none)
  | some tabIdx =>
    ws.tabs[tabIdx]?.bind fun tab =>
      let paneNumber := ws.nextPublicPaneNumber
      let launchEnv := ws.launchEnvForNewPane tab.number paneNumber extraEnv
      (tab.splitPaneWithRuntime paneId focusNewPane direction ratio (spawn launchEnv) newId
        terminalId).map fun (tab, newPane) =>
          let ws := { ws with tabs := ws.tabs.set tabIdx tab }
          match newPane with
          | none => (ws, none)
          | some newPane => (ws.registerNewPaneWithNumber newPane paneNumber, some newPane)

/-- `close_pane` and `remove_pane`, which differ in nothing. The flag is whether the workspace
should close. -/
def removePane (ws : Workspace) (paneId : PaneId) : Option (Workspace × Bool) :=
  match ws.findTabIndexForPane paneId with
  | none => some (ws, false)
  | some tabIdx =>
    ws.tabs[tabIdx]?.bind fun tab =>
      if tab.layout.paneCount ≤ 1 then
        if ws.tabs.length ≤ 1 then some (ws, true)
        else
          let ws := { ws with tabs := ws.tabs.eraseIdx tabIdx }
          let ws := ws.unregisterPane paneId
          if ws.tabs.length ≤ ws.activeTab then
            some ({ ws with activeTab := ws.tabs.length - 1 }, false)
          else if tabIdx ≤ ws.activeTab ∧ 0 < ws.activeTab then
            some ({ ws with activeTab := ws.activeTab - 1 }, false)
          else some (ws, false)
      else
        (tab.detachPane paneId).map fun (tab, detached) =>
          let ws := { ws with tabs := ws.tabs.set tabIdx tab }
          match detached with
          | none => (ws, false)
          | some (removed, _) => (ws.unregisterPane removed, false)

def closePane (ws : Workspace) (paneId : PaneId) : Option (Workspace × Bool) :=
  ws.removePane paneId

/-- The pane keeps its number. -/
def takePaneForMove (ws : Workspace) (paneId : PaneId) : Option (Workspace × Option TakenPane) :=
  match ws.findTabIndexForPane paneId with
  | none => some (ws, none)
  | some tabIdx =>
    ws.tabs[tabIdx]?.bind fun tab =>
      if tab.layout.paneCount ≤ 1 then
        let ws := { ws with tabs := ws.tabs.eraseIdx tabIdx }
        (tab.takePaneForMove paneId).map fun (_, moved) =>
          match moved with
          | none => (ws, none)
          | some moved =>
            let ws := ws.adjustActiveTabAfterRemoval tabIdx
            (ws, some
              { moved, removedTabIdx := some tabIdx, workspaceEmpty := ws.tabs.isEmpty })
      else
        (tab.takePaneForMove paneId).map fun (tab, moved) =>
          ({ ws with tabs := ws.tabs.set tabIdx tab }, moved.map fun moved =>
            { moved, removedTabIdx := none, workspaceEmpty := false })

/-- A pane from another workspace gets the next number. -/
def registerIfNew (ws : Workspace) (paneId : PaneId) : Workspace :=
  if paneId ∈ ws.publicPaneNumbers then ws
  else ws.registerNewPaneWithNumber paneId ws.nextPublicPaneNumber

def insertMovedPaneIntoTab (ws : Workspace) (tabIdx : ℕ) (targetPaneId : PaneId)
    (moved : MovedPane) (direction : Direction) (ratio : F32) (focus : Bool) : Workspace × Bool :=
  match ws.tabs[tabIdx]? with
  | none => (ws, false)
  | some tab =>
    match tab.insertExistingPane targetPaneId moved direction ratio focus with
    | (_, false) => (ws, false)
    | (tab, true) => (({ ws with tabs := ws.tabs.set tabIdx tab }).registerIfNew moved.paneId, true)

/-- The index of the new tab is returned. -/
def createTabFromExistingPane (ws : Workspace) (moved : MovedPane) (label : Option String) :
    Workspace × ℕ :=
  let number := ws.nextPublicTabNumber
  let ws := { ws with nextPublicTabNumber := ws.nextPublicTabNumber + 1 }
  let tab := Tab.fromExistingPane number label moved
  let ws := ws.registerIfNew moved.paneId
  ({ ws with tabs := ws.tabs ++ [tab] }, ws.tabs.length)

end Workspace

/-! ## Pane moves -/

/-- The workspaces, and the counters ids are drawn from. -/
structure AppState where
  workspaces : List Workspace
  nextPaneId : ℕ
  nextTerminalId : ℕ
  nextWorkspaceId : ℕ

/-- Where a pane goes, by public ids : indices change when it is taken. The public id of a tab is
the pair of the workspace id and the number it is made of. -/
inductive ResolvedPaneMoveDestination where
  | existingTab (workspaceId : String) (tabNumber : ℕ) (targetPaneId : PaneId)
    (split : Direction) (ratio : F32) (crossWorkspace : Bool)
  | newTab (workspaceId : String) (label : Option String)
  | newWorkspace (label tabLabel : Option String)

/-- Whether the pane leaves the workspace with this id. -/
def ResolvedPaneMoveDestination.crossWorkspace (previousWorkspaceId : String) :
    ResolvedPaneMoveDestination → Bool
  | existingTab _ _ _ _ _ crossWorkspace => crossWorkspace
  | newTab workspaceId _ => workspaceId != previousWorkspaceId
  | newWorkspace _ _ => true

structure PaneMoveRecoveryContext where
  sourceWsIdx : ℕ
  previousWorkspaceId : String
  previousWorkspaceLabel : Option String
  previousTabLabel : Option String
  identityCwd : String

namespace AppState

def parseWorkspaceId (s : AppState) (id : String) : Option ℕ :=
  s.workspaces.findIdx? (·.id == id)

def parseTabId (s : AppState) (workspaceId : String) (tabNumber : ℕ) : Option (ℕ × ℕ) :=
  (s.parseWorkspaceId workspaceId).bind fun wsIdx =>
    s.workspaces[wsIdx]?.bind fun ws =>
      (ws.tabs.findIdx? (·.number == tabNumber)).map fun tabIdx => (wsIdx, tabIdx)

def setWorkspace (s : AppState) (wsIdx : ℕ) (ws : Workspace) : AppState :=
  { s with workspaces := s.workspaces.set wsIdx ws }

def recoverFailedPaneMove (s : AppState) (context : PaneMoveRecoveryContext)
    (moved : MovedPane) : AppState :=
  match s.parseWorkspaceId context.previousWorkspaceId with
  | some wsIdx =>
    { s with
      workspaces := s.workspaces.modify wsIdx fun ws =>
        (ws.createTabFromExistingPane moved context.previousTabLabel).1 }
  | none =>
    let ws := Workspace.fromExistingPane (workspaceIdForNumber s.nextWorkspaceId)
      context.previousWorkspaceLabel context.previousTabLabel context.identityCwd moved
    let ws := { ws with id := context.previousWorkspaceId }
    { s with
      workspaces := s.workspaces.insertIdx (min context.sourceWsIdx s.workspaces.length) ws
      nextWorkspaceId := s.nextWorkspaceId + 1 }

/-- The pane that was taken comes to its destination. The workspace and tab index of a tab that
is created for it are returned. -/
def placePane (s : AppState) (context : PaneMoveRecoveryContext) (moved : MovedPane)
    (identityCwd : String) (focus : Bool) :
    ResolvedPaneMoveDestination → AppState × Option (ℕ × ℕ)
  | .existingTab workspaceId tabNumber targetPaneId split ratio _ =>
    match s.parseTabId workspaceId tabNumber with
    | none => (s.recoverFailedPaneMove context moved, none)
    | some (wsIdx, tabIdx) =>
      match s.workspaces[wsIdx]?.map
        (·.insertMovedPaneIntoTab tabIdx targetPaneId moved split ratio focus) with
      | some (ws, true) => (s.setWorkspace wsIdx ws, none)
      | _ => (s.recoverFailedPaneMove context moved, none)
  | .newTab workspaceId label =>
    match s.parseWorkspaceId workspaceId with
    | none => (s.recoverFailedPaneMove context moved, none)
    | some wsIdx =>
      match s.workspaces[wsIdx]?.map (·.createTabFromExistingPane moved label) with
      | some (ws, tabIdx) => (s.setWorkspace wsIdx ws, some (wsIdx, tabIdx))
      | none => (s.recoverFailedPaneMove context moved, none)
  | .newWorkspace label tabLabel =>
    let ws := Workspace.fromExistingPane (workspaceIdForNumber s.nextWorkspaceId) label tabLabel
      identityCwd moved
    ({ s with
      workspaces := s.workspaces ++ [ws]
      nextWorkspaceId := s.nextWorkspaceId + 1 }, some (s.workspaces.length, 0))

/-- The second half of `handle_pane_move`, up to where the destination is switched to.
`identityCwd` is where the terminal of the pane is. -/
def movePane (s : AppState) (sourceWsIdx : ℕ) (sourcePaneId : PaneId) (identityCwd : String)
    (focus : Bool) (resolved : ResolvedPaneMoveDestination) :
    Option (AppState × Option (ℕ × ℕ)) :=
  match s.workspaces[sourceWsIdx]? with
  | none => some (s, none)
  | some source =>
    let context : PaneMoveRecoveryContext :=
      { sourceWsIdx
        previousWorkspaceId := source.id
        previousWorkspaceLabel := source.customName
        previousTabLabel := ((source.findTabIndexForPane sourcePaneId).bind
          (source.tabs[·]?)).bind (·.customName)
        identityCwd := source.identityCwd }
    (source.takePaneForMove sourcePaneId).map fun (source, taken) =>
      match taken with
      | none => (s.setWorkspace sourceWsIdx source, none)
      | some taken =>
        let crossWorkspace := resolved.crossWorkspace context.previousWorkspaceId
        let s :=
          if taken.workspaceEmpty && crossWorkspace then
            { s with workspaces := s.workspaces.eraseIdx sourceWsIdx }
          else if crossWorkspace then
            s.setWorkspace sourceWsIdx (source.unregisterMovedPane sourcePaneId)
          else s.setWorkspace sourceWsIdx source
        s.placePane context taken.moved identityCwd focus resolved

end AppState

/-! ## Runs -/

/-- One operation on the workspace at an index, or a pane move. Switching to the tab that a pane
was moved to is an operation of its own. -/
inductive WorkspaceOp where
  | createWorkspace (initialCwd : String) (spawn : PaneLaunchEnv → Bool)
  | createTab (wsIdx : ℕ) (extraEnv : List (String × String)) (spawn : PaneLaunchEnv → Bool)
  | closeTab (wsIdx idx : ℕ)
  | moveTab (wsIdx sourceIdx insertIdx : ℕ)
  | switchTab (wsIdx idx : ℕ)
  | splitPane (wsIdx : ℕ) (paneId : PaneId) (direction : Direction) (ratio : Option F32)
    (focusNewPane : Bool) (extraEnv : List (String × String)) (spawn : PaneLaunchEnv → Bool)
  | closePane (wsIdx : ℕ) (paneId : PaneId)
  | removePane (wsIdx : ℕ) (paneId : PaneId)
  | movePane (sourceWsIdx : ℕ) (sourcePaneId : PaneId) (identityCwd : String) (focus : Bool)
    (resolved : ResolvedPaneMoveDestination)

/-- A pane id and a terminal id are drawn. -/
def AppState.drawPane (s : AppState) : AppState :=
  { s with nextPaneId := s.nextPaneId + 1, nextTerminalId := s.nextTerminalId + 1 }

/-- `Workspace::new`, and the workspace comes last. -/
def AppState.createWorkspace (s : AppState) (initialCwd : String)
    (spawn : PaneLaunchEnv → Bool) : AppState × Option (ℕ × ℕ) :=
  let id := workspaceIdForNumber s.nextWorkspaceId
  let launchEnv : PaneLaunchEnv :=
    { identity := .managed id (publicTabIdForNumber id 1) (publicPaneIdForNumber id 1) }
  let drawn := { s.drawPane with nextWorkspaceId := s.nextWorkspaceId + 1 }
  if spawn launchEnv then
    let ws := Workspace.new id initialCwd ⟨s.nextPaneId⟩ ⟨s.nextTerminalId⟩
    ({ drawn with workspaces := s.workspaces ++ [ws] }, some (s.workspaces.length, 0))
  else (drawn, none)

/-- An operation of one workspace, which may create a tab. -/
def AppState.onWorkspace (s : AppState) (wsIdx : ℕ)
    (f : Workspace → Option (Workspace × Option ℕ)) : Option (AppState × Option (ℕ × ℕ)) :=
  match s.workspaces[wsIdx]? with
  | none => some (s, none)
  | some ws =>
    (f ws).map fun (ws, created) => (s.setWorkspace wsIdx ws, created.map fun idx => (wsIdx, idx))

/-- The state after an operation, and the workspace and tab index of the tab that it created. An
operation draws its ids whether or not it comes to use them. -/
def WorkspaceOp.apply (s : AppState) : WorkspaceOp → Option (AppState × Option (ℕ × ℕ))
  | createWorkspace initialCwd spawn => some (s.createWorkspace initialCwd spawn)
  | createTab wsIdx extraEnv spawn =>
    s.drawPane.onWorkspace wsIdx fun ws =>
      ws.createTabWithRuntime extraEnv spawn ⟨s.nextPaneId⟩ ⟨s.nextTerminalId⟩
  | closeTab wsIdx idx => s.onWorkspace wsIdx fun ws => some ((ws.closeTab idx).1, none)
  | moveTab wsIdx sourceIdx insertIdx =>
    s.onWorkspace wsIdx fun ws => some ((ws.moveTab sourceIdx insertIdx).1, none)
  | switchTab wsIdx idx => s.onWorkspace wsIdx fun ws => some (ws.switchTab idx, none)
  | splitPane wsIdx paneId direction ratio focusNewPane extraEnv spawn =>
    s.drawPane.onWorkspace wsIdx fun ws =>
      (ws.splitPaneWithRuntime paneId direction ratio focusNewPane extraEnv spawn ⟨s.nextPaneId⟩
        ⟨s.nextTerminalId⟩).map fun split => (split.1, none)
  | closePane wsIdx paneId =>
    s.onWorkspace wsIdx fun ws => (ws.closePane paneId).map fun closed => (closed.1, none)
  | removePane wsIdx paneId =>
    s.onWorkspace wsIdx fun ws => (ws.removePane paneId).map fun removed => (removed.1, none)
  | movePane sourceWsIdx sourcePaneId identityCwd focus resolved =>
    s.movePane sourceWsIdx sourcePaneId identityCwd focus resolved

/-- The workspaces or, after a panic, none. -/
def WorkspaceOp.step (s : Option AppState) (op : WorkspaceOp) : Option AppState :=
  s.bind fun s => (op.apply s).map (·.1)

end Zynk
