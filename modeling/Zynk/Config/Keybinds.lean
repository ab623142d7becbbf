import Zynk.Config.KeyCombo
import Zynk.Lib.Assoc

/-!
# Keybinds

The registry of `config/keybinds.rs` and `validated_keybinds`, which goes through the fields of
`[keys]` twice : first those the user configured, then the others with their defaults. A binding is
rejected when its combo is taken, when it would intercept typing, or when it is the prefix key
behind the prefix key. Bindings of navigate mode have a registry of their own.

The fields of `KeysConfig` and of `Keybinds` are functions of their names. A diagnostic is what
its text is put together from.
-/

namespace Zynk.Config

open Text

/-! ## Fields -/

inductive NavigateField where
  | workspaceUp | workspaceDown | paneLeft | paneDown | paneUp | paneRight
  deriving DecidableEq, Repr

def NavigateField.name : NavigateField → String
  | workspaceUp => "navigate_workspace_up"
  | workspaceDown => "navigate_workspace_down"
  | paneLeft => "navigate_pane_left"
  | paneDown => "navigate_pane_down"
  | paneUp => "navigate_pane_up"
  | paneRight => "navigate_pane_right"

inductive ActionField where
  | help | settings | newWorkspace | newWorktree | openWorktree | removeWorktree | renameWorkspace
  | closeWorkspace | workspacePicker | goto | detach | reloadConfig | openNotificationTarget
  | previousWorkspace | nextWorkspace | previousAgent | nextAgent | newTab | renameTab | previousTab
  | nextTab | moveTabPrevious | moveTabNext | closeTab | renamePane | editScrollback | copyMode
  | focusPaneLeft | focusPaneDown | focusPaneUp | focusPaneRight | swapPaneLeft | swapPaneDown
  | swapPaneUp | swapPaneRight | lastPane | cyclePaneNext | cyclePanePrevious | splitVertical
  | splitHorizontal | closePane | zoom | resizeMode | resizePaneLeft | resizePaneDown
  | resizePaneUp | resizePaneRight | toggleSidebar
  deriving DecidableEq, Repr

def ActionField.name : ActionField → String
  | help => "help"
  | settings => "settings"
  | newWorkspace => "new_workspace"
  | newWorktree => "new_worktree"
  | openWorktree => "open_worktree"
  | removeWorktree => "remove_worktree"
  | renameWorkspace => "rename_workspace"
  | closeWorkspace => "close_workspace"
  | workspacePicker => "workspace_picker"
  | goto => "goto"
  | detach => "detach"
  | reloadConfig => "reload_config"
  | openNotificationTarget => "open_notification_target"
  | previousWorkspace => "previous_workspace"
  | nextWorkspace => "next_workspace"
  | previousAgent => "previous_agent"
  | nextAgent => "next_agent"
  | newTab => "new_tab"
  | renameTab => "rename_tab"
  | previousTab => "previous_tab"
  | nextTab => "next_tab"
  | moveTabPrevious => "move_tab_previous"
  | moveTabNext => "move_tab_next"
  | closeTab => "close_tab"
  | renamePane => "rename_pane"
  | editScrollback => "edit_scrollback"
  | copyMode => "copy_mode"
  | focusPaneLeft => "focus_pane_left"
  | focusPaneDown => "focus_pane_down"
  | focusPaneUp => "focus_pane_up"
  | focusPaneRight => "focus_pane_right"
  | swapPaneLeft => "swap_pane_left"
  | swapPaneDown => "swap_pane_down"
  | swapPaneUp => "swap_pane_up"
  | swapPaneRight => "swap_pane_right"
  | lastPane => "last_pane"
  | cyclePaneNext => "cycle_pane_next"
  | cyclePanePrevious => "cycle_pane_previous"
  | splitVertical => "split_vertical"
  | splitHorizontal => "split_horizontal"
  | closePane => "close_pane"
  | zoom => "zoom"
  | resizeMode => "resize_mode"
  | resizePaneLeft => "resize_pane_left"
  | resizePaneDown => "resize_pane_down"
  | resizePaneUp => "resize_pane_up"
  | resizePaneRight => "resize_pane_right"
  | toggleSidebar => "toggle_sidebar"

inductive IndexedField where
  | focusAgent | switchTab | switchWorkspace
  deriving DecidableEq, Repr

namespace IndexedField

def name : IndexedField → String
  | focusAgent => "focus_agent"
  | switchTab => "switch_tab"
  | switchWorkspace => "switch_workspace"

/-- The name in the section `[keys.indexed]`. -/
def legacyName : IndexedField → String
  | focusAgent => "agents"
  | switchTab => "tabs"
  | switchWorkspace => "workspaces"

end IndexedField

inductive KeyField where
  | navigate (field : NavigateField)
  | action (field : ActionField)
  | indexed (field : IndexedField)
  deriving DecidableEq, Repr

/-- The fields in the order of a pass. -/
def keyFields : List KeyField :=
  [.navigate .workspaceUp, .navigate .workspaceDown, .navigate .paneLeft, .navigate .paneDown,
    .navigate .paneUp, .navigate .paneRight, .action .help, .action .settings,
    .action .newWorkspace, .action .newWorktree, .action .openWorktree, .action .removeWorktree,
    .action .renameWorkspace, .action .closeWorkspace, .action .workspacePicker, .action .goto,
    .action .detach, .action .reloadConfig, .action .openNotificationTarget,
    .action .previousWorkspace, .action .nextWorkspace, .action .previousAgent, .action .nextAgent,
    .indexed .focusAgent, .action .newTab, .action .renameTab, .action .previousTab,
    .action .nextTab, .action .moveTabPrevious, .action .moveTabNext, .indexed .switchTab,
    .indexed .switchWorkspace, .action .closeTab, .action .renamePane, .action .editScrollback,
    .action .copyMode, .action .focusPaneLeft, .action .focusPaneDown, .action .focusPaneUp,
    .action .focusPaneRight, .action .swapPaneLeft, .action .swapPaneDown, .action .swapPaneUp,
    .action .swapPaneRight, .action .lastPane, .action .cyclePaneNext, .action .cyclePanePrevious,
    .action .splitVertical, .action .splitHorizontal, .action .closePane, .action .zoom,
    .action .resizeMode, .action .resizePaneLeft, .action .resizePaneDown, .action .resizePaneUp,
    .action .resizePaneRight, .action .toggleSidebar]

/-- The fields of the section `[keys.indexed]`, in the order they are appended. -/
def legacyFields : List IndexedField :=
  [.switchTab, .switchWorkspace, .focusAgent]

/-! ## The configuration -/

inductive PopupSize where
  | cells (n : ℕ)
  | percent (n : ℕ)
  deriving DecidableEq, Repr

inductive CommandKeybindType where
  | shell
  | pane
  | popup
  | pluginAction
  deriving DecidableEq, Repr

structure CommandKeybindConfig where
  key : BindingConfig := .empty
  command : String := ""
  actionType : CommandKeybindType := .shell
  description : Option String := none
  width : Option PopupSize := none
  height : Option PopupSize := none

inductive BindingSource where
  | default
  | user
  deriving DecidableEq, Repr

/-- The section `[keys]`, and the names of the fields the user configured. -/
structure KeysConfig where
  prefixKey : String
  navigate : NavigateField → BindingConfig
  action : ActionField → BindingConfig
  indexed : IndexedField → BindingConfig
  legacyIndexed : IndexedField → String
  command : List CommandKeybindConfig
  userFields : List String

namespace KeysConfig

def keyFieldIsUserConfigured (keys : KeysConfig) (field : String) : Bool :=
  keys.userFields.contains field

def fieldSource (keys : KeysConfig) (field : String) : BindingSource :=
  if keys.keyFieldIsUserConfigured field then .user else .default

end KeysConfig

/-! ## Keybinds -/

structure ActionKeybinds where
  bindings : List ResolvedBinding := []

namespace ActionKeybinds

def labels (keybinds : ActionKeybinds) : List String :=
  keybinds.bindings.map (·.label)

def label (keybinds : ActionKeybinds) : Option String :=
  if keybinds.labels.isEmpty then none else some (" / ".intercalate keybinds.labels)

end ActionKeybinds

inductive CustomCommandAction where
  | shell
  | pane
  | popup
  | pluginAction
  deriving DecidableEq, Repr

structure CustomCommandKeybind where
  bindings : ActionKeybinds
  label : String
  command : String
  action : CustomCommandAction
  description : Option String
  width : Option PopupSize
  height : Option PopupSize

structure Keybinds where
  navigate : NavigateField → ActionKeybinds
  action : ActionField → ActionKeybinds
  indexed : IndexedField → List IndexedKeybind
  customCommands : List CustomCommandKeybind

/-- Before the first pass. -/
def Keybinds.empty : Keybinds where
  navigate _ := {}
  action _ := {}
  indexed _ := []
  customCommands := []

/-! ## Diagnostics -/

/-- What is said about a binding that is disabled. -/
inductive KeybindDiagnostic where
  | invalidPrefix (field raw : String)
  | invalid (field raw : String)
  | rangeForAction (field raw : String)
  | emptyCommand (field : String)
  | popupSizeIgnored (command : String)
  | indexedNotNumber (field label : String)
  | invalidIndexed (field label : String)
  | navigateWithPrefix (field label : String)
  | navigateEsc (field label : String)
  | kept (label first field : String)
  | reserved (field label : String)
  | interceptsTyping (field label suggestion : String)
  deriving DecidableEq, Repr

/-! ## The registry -/

structure RegisteredBinding where
  field : String
  source : BindingSource

structure BindingRegistry where
  prefixCombo : KeyCombo
  prefixSource : BindingSource
  direct : Assoc KeyCombo RegisteredBinding
  prefixed : Assoc KeyCombo RegisteredBinding

namespace BindingRegistry

def new (prefixCombo : KeyCombo) (prefixSource : BindingSource) : BindingRegistry where
  prefixCombo := normalizeKeyCombo prefixCombo
  prefixSource
  direct := ∅
  prefixed := ∅

/-- A combo that is taken stays with its first field. -/
def reserveDirect (registry : BindingRegistry) (combo : KeyCombo) (field : String)
    (source : BindingSource) : BindingRegistry :=
  if normalizeKeyCombo combo ∈ registry.direct then registry
  else { registry with
    direct := registry.direct.insert (normalizeKeyCombo combo) { field, source } }

def prefixRhsIsReserved (registry : BindingRegistry) (combo : KeyCombo) : Bool :=
  normalizeKeyCombo combo == registry.prefixCombo

def conflict (registry : BindingRegistry) (binding : ResolvedBinding) :
    Option RegisteredBinding :=
  match binding.trigger with
  | .direct combo => registry.direct.lookup (normalizeKeyCombo combo)
  | .prefixed combo => registry.prefixed.lookup (normalizeKeyCombo combo)

def register (registry : BindingRegistry) (binding : ResolvedBinding) (field : String)
    (source : BindingSource) : BindingRegistry :=
  match binding.trigger with
  | .direct combo => { registry with
      direct := registry.direct.insert (normalizeKeyCombo combo) { field, source } }
  | .prefixed combo => { registry with
      prefixed := registry.prefixed.insert (normalizeKeyCombo combo) { field, source } }

end BindingRegistry

def reserveNavigateRuntimeKeys (registry : BindingRegistry) : BindingRegistry :=
  let combos : List KeyCombo := [(.esc, {}), (.enter, {}), (.tab, {}), (.backTab, {}),
    (.tab, { shift := true }), (.left, {}), (.right, {})]
  (combos ++ numberKeys.map fun number => (KeyCode.char number, ({} : KeyModifiers))).foldl
    (fun registry combo => registry.reserveDirect combo "navigate reserved keys" .default) registry

/-- What is behind a conflict : nothing is said when a default gives way to the user. -/
def conflictDiagnostics (first : RegisteredBinding) (field label : String)
    (source : BindingSource) : List KeybindDiagnostic :=
  if source = .default ∧ first.source = .user then [] else [.kept label first.field field]

/-- Why a binding is rejected, if it is. -/
def rejectBinding (field : String) (binding : ResolvedBinding) (registry : BindingRegistry)
    (source : BindingSource) : Option (List KeybindDiagnostic) :=
  if binding.trigger.isPrefixed && registry.prefixRhsIsReserved binding.trigger.combo then
    if source = .default ∧ registry.prefixSource = .user then some []
    else some [.reserved field binding.label]
  else
    match registry.conflict binding with
    | some first => some (conflictDiagnostics first field binding.label source)
    | none =>
      if binding.trigger.isDirect && isUnmodifiedPrintable binding.trigger.combo then
        some [.interceptsTyping field binding.label ("prefix+" ++ binding.label)]
      else none

def rejectNavigateBinding (field : String) (binding : ResolvedBinding)
    (registry : BindingRegistry) (source : BindingSource) : Option (List KeybindDiagnostic) :=
  if binding.trigger.isPrefixed then some [.navigateWithPrefix field binding.label]
  else if (normalizeKeyCombo binding.trigger.combo).1 == .esc then
    some [.navigateEsc field binding.label]
  else
    (registry.conflict binding).map fun first =>
      conflictDiagnostics first field binding.label source

/-! ## Reading a field -/

/-- A registry with the diagnostics so far. -/
structure Registration where
  registry : BindingRegistry
  diagnostics : List KeybindDiagnostic

namespace Registration

def report (r : Registration) (diagnostics : List KeybindDiagnostic) : Registration :=
  { r with diagnostics := r.diagnostics ++ diagnostics }

/-- A binding that is not rejected is registered and kept. -/
def keep (r : Registration) (rejected : Option (List KeybindDiagnostic)) (field : String)
    (source : BindingSource) (binding : ResolvedBinding) : Registration × List ResolvedBinding :=
  match rejected with
  | some diagnostics => (r.report diagnostics, [])
  | none => ({ r with registry := r.registry.register binding field source }, [binding])

end Registration

/-- One after the other, with what each keeps. -/
def readAll {α β : Type} (step : Registration → α → Registration × List β) :
    Registration → List α → Registration × List β
  | r, [] => (r, [])
  | r, a :: l =>
    let (r, kept) := step r a
    let (r, rest) := readAll step r l
    (r, kept ++ rest)

/-- A value is one binding, kept if it is not rejected. -/
def parseValue
    (reject : String → ResolvedBinding → BindingRegistry → BindingSource →
      Option (List KeybindDiagnostic))
    (field : String) (source : BindingSource) (r : Registration) (raw : String) :
    Registration × List ResolvedBinding :=
  let raw := trim raw.toList
  if raw.isEmpty then (r, [])
  else
    match parseBindingString raw with
    | some (.single binding) => r.keep (reject field binding r.registry source) field source binding
    | some (.range _) => (r.report [.rangeForAction field (String.ofList raw)], [])
    | none => (r.report [.invalid field (String.ofList raw)], [])

def parseActionBindings (field : String) (config : BindingConfig) (r : Registration)
    (source : BindingSource) : Registration × ActionKeybinds :=
  let (r, bindings) := readAll (parseValue rejectBinding field source) r config.values
  (r, { bindings })

def parseNavigateBindings (field : String) (config : BindingConfig) (r : Registration)
    (source : BindingSource) : Registration × ActionKeybinds :=
  let (r, bindings) := readAll (parseValue rejectNavigateBinding field source) r config.values
  (r, { bindings })

def ResolvedBinding.toIndexed (binding : ResolvedBinding) : IndexedKeybind where
  trigger := binding.trigger
  label := binding.label

def isNumberCombo : KeyCombo → Bool
  | (.char number, _) => isKeyNumber number
  | _ => false

def pushIndexedBinding (field : String) (source : BindingSource) (r : Registration)
    (binding : ResolvedBinding) : Registration × List ResolvedBinding :=
  if isNumberCombo binding.trigger.combo then
    r.keep (rejectBinding field binding r.registry source) field source binding
  else (r.report [.indexedNotNumber field binding.label], [])

def parseIndexedValue (field : String) (source : BindingSource) (r : Registration)
    (raw : String) : Registration × List ResolvedBinding :=
  let raw := trim raw.toList
  if raw.isEmpty then (r, [])
  else
    match parseBindingString raw with
    | some (.single binding) => pushIndexedBinding field source r binding
    | some (.range bindings) => readAll (pushIndexedBinding field source) r bindings
    | none => (r.report [.invalid field (String.ofList raw)], [])

def parseIndexedBindings (field : String) (config : BindingConfig) (r : Registration)
    (source : BindingSource) : Registration × List IndexedKeybind :=
  let (r, bindings) := readAll (parseIndexedValue field source) r config.values
  (r, bindings.map (·.toIndexed))

/-- The bindings of a modifier combo with each of the number keys. -/
def legacyBindings (label : String) (modifiers : KeyModifiers) : List ResolvedBinding :=
  numberKeys.map fun number =>
    { trigger := .direct (.char number, modifiers)
      label := String.ofList (trim label.toList ++ ['+', number]) }

/-- What is appended to the bindings of an indexed field. -/
def legacyIndexedBindings (field label : String) (r : Registration) (source : BindingSource) :
    Registration × List IndexedKeybind :=
  if (trim label.toList).isEmpty then (r, [])
  else
    match parseModifierCombo label.toList with
    | none => (r.report [.invalidIndexed field label], [])
    | some modifiers =>
      let (r, bindings) := readAll (fun r binding =>
        r.keep (rejectBinding field binding r.registry source) field source binding) r
        (legacyBindings label modifiers)
      (r, bindings.map (·.toIndexed))

def CommandKeybindType.action : CommandKeybindType → CustomCommandAction
  | shell => .shell
  | pane => .pane
  | popup => .popup
  | pluginAction => .pluginAction

/-- The command with an index, unless it is empty or no key of it is kept. -/
def customCommandBinding (r : Registration) (entry : CommandKeybindConfig × ℕ) :
    Registration × List CustomCommandKeybind :=
  let (command, index) := entry
  let name := "keys.command[" ++ toString index ++ "]"
  if (trim command.command.toList).isEmpty then
    (r.report [.emptyCommand (name ++ ".command")], [])
  else
    let (r, bindings) := parseActionBindings (name ++ ".key") command.key r .user
    if bindings.bindings.isEmpty then (r, [])
    else
      let action := command.actionType.action
      let sized := action = .popup
      let r := if ¬ sized ∧ (command.width.isSome ∨ command.height.isSome) then
        r.report [.popupSizeIgnored name] else r
      (r, [{
        bindings
        label := bindings.label.getD "unset"
        command := command.command
        action
        description := command.description
        width := if sized then command.width else none
        height := if sized then command.height else none }])

/-! ## Both passes -/

structure Validation where
  keybinds : Keybinds
  registry : BindingRegistry
  navigateRegistry : BindingRegistry
  diagnostics : List KeybindDiagnostic

namespace Validation

/-- Something is read with the registry. -/
def withRegistry {α : Type} (v : Validation) (read : Registration → Registration × α)
    (store : Keybinds → α → Keybinds) : Validation :=
  let (r, a) := read { registry := v.registry, diagnostics := v.diagnostics }
  { v with keybinds := store v.keybinds a, registry := r.registry, diagnostics := r.diagnostics }

def applyNavigate (v : Validation) (keys : KeysConfig) (source : BindingSource)
    (field : NavigateField) : Validation :=
  if keys.fieldSource field.name = source then
    let (r, keybinds) := parseNavigateBindings ("keys." ++ field.name) (keys.navigate field)
      { registry := v.navigateRegistry, diagnostics := v.diagnostics } source
    { v with
      keybinds := { v.keybinds with navigate := Function.update v.keybinds.navigate field keybinds }
      navigateRegistry := r.registry
      diagnostics := r.diagnostics }
  else v

def applyAction (v : Validation) (keys : KeysConfig) (source : BindingSource)
    (field : ActionField) : Validation :=
  if keys.fieldSource field.name = source then
    v.withRegistry (parseActionBindings ("keys." ++ field.name) (keys.action field) · source)
      fun k keybinds => { k with action := Function.update k.action field keybinds }
  else v

/-- A legacy entry displaces the default. -/
def applyIndexed (v : Validation) (keys : KeysConfig) (source : BindingSource)
    (field : IndexedField) : Validation :=
  if keys.fieldSource field.name = source then
    if source = .default ∧ ¬ (trim (keys.legacyIndexed field).toList).isEmpty then v
    else
      v.withRegistry (parseIndexedBindings ("keys." ++ field.name) (keys.indexed field) · source)
        fun k bindings => { k with indexed := Function.update k.indexed field bindings }
  else v

def applyField (keys : KeysConfig) (source : BindingSource) (v : Validation) :
    KeyField → Validation
  | .navigate field => v.applyNavigate keys source field
  | .action field => v.applyAction keys source field
  | .indexed field => v.applyIndexed keys source field

def appendLegacyIndexedBindings (keys : KeysConfig) (source : BindingSource) (v : Validation)
    (field : IndexedField) : Validation :=
  v.withRegistry (legacyIndexedBindings ("keys.indexed." ++ field.legacyName)
      (keys.legacyIndexed field) · source)
    fun k bindings => { k with
      indexed := Function.update k.indexed field (k.indexed field ++ bindings) }

def appendCustomCommandBindings (v : Validation) (keys : KeysConfig) : Validation :=
  v.withRegistry (readAll customCommandBinding · keys.command.zipIdx)
    fun k commands => { k with customCommands := k.customCommands ++ commands }

/-- The fields of one source. -/
def pass (keys : KeysConfig) (v : Validation) (source : BindingSource) : Validation :=
  let v := keyFields.foldl (applyField keys source) v
  let v := if source = keys.fieldSource "indexed" then
    legacyFields.foldl (appendLegacyIndexedBindings keys source) v else v
  if source = .user then v.appendCustomCommandBindings keys else v

end Validation

namespace KeysConfig

def parseKeyComboWithDiagnostic (s field : String) (fallback : KeyCombo) :
    KeyCombo × Option KeybindDiagnostic :=
  match parseKeyCombo s.toList with
  | some binding => (binding, none)
  | none => (fallback, some (.invalidPrefix field s))

/-- The prefix combo, and what is said about it. -/
def parsedPrefix (keys : KeysConfig) : KeyCombo × Option KeybindDiagnostic :=
  parseKeyComboWithDiagnostic keys.prefixKey "keys.prefix" (.char 'b', { control := true })

def prefixCombo (keys : KeysConfig) : KeyCombo :=
  keys.parsedPrefix.1

/-- Before the first pass. -/
def initialValidation (keys : KeysConfig) : Validation :=
  let prefixCombo := keys.prefixCombo
  let source := keys.fieldSource "prefix"
  let registry := (BindingRegistry.new prefixCombo source).reserveDirect prefixCombo "keys.prefix"
    source
  { keybinds := .empty
    registry
    navigateRegistry := reserveNavigateRuntimeKeys registry
    diagnostics := [] }

/-- After the pass for what the user configured. -/
def userValidation (keys : KeysConfig) : Validation :=
  keys.initialValidation.pass keys .user

def validation (keys : KeysConfig) : Validation :=
  keys.userValidation.pass keys .default

def validatedKeybinds (keys : KeysConfig) :
    Option KeybindDiagnostic × KeyCombo × List KeybindDiagnostic × Keybinds :=
  (keys.parsedPrefix.2, keys.prefixCombo, keys.validation.diagnostics, keys.validation.keybinds)

/-- The keybinds in force. -/
def keybinds (keys : KeysConfig) : Keybinds :=
  keys.validatedKeybinds.2.2.2

end KeysConfig

end Zynk.Config
