import Zynk.Layout.Tile
import Zynk.Lib.Assoc

/-!
# Workspaces

`Workspace` and `Tab` of `workspace.rs` and `workspace/tab.rs` : a workspace is a list of tabs
with one of them active, a tab is a layout with a pane for every leaf. Tabs and panes have public
numbers within their workspace, which public ids are made of.

What is cached for the display (git state, labels, metadata tokens) and what only wakes the
renderer is left out : no operation here reads it.
-/

namespace Zynk

/-! ## Public ids -/

def publicIdAlphabet : List Char :=
  ['1', '2', '3', '4', '5', '6', '7', '8', '9', 'A', 'B', 'C', 'D', 'E', 'F', 'G', 'H', 'J', 'K',
    'M', 'N', 'P', 'Q', 'R', 'S', 'T', 'V', 'W', 'X', 'Y', 'Z', '0']

/-- The loop of `encode_public_number`, with the digits in the order they are read. -/
def encodeDigits : ℕ → List Char
  | 0 => []
  | n + 1 => encodeDigits (n / 32) ++ [publicIdAlphabet.getD (n % 32) '0']
  decreasing_by omega

def encodePublicNumber (value : ℕ) : String :=
  if value = 0 then "0" else String.ofList (encodeDigits value)

def publicPaneIdForNumber (workspaceId : String) (paneNumber : ℕ) : String :=
  workspaceId ++ ":p" ++ encodePublicNumber paneNumber

def publicTabIdForNumber (workspaceId : String) (tabNumber : ℕ) : String :=
  workspaceId ++ ":t" ++ encodePublicNumber tabNumber

/-- `generate_workspace_id`, with the value of its counter. -/
def workspaceIdForNumber (counter : ℕ) : String :=
  "w" ++ encodePublicNumber counter

/-- `decode_public_number` on digits. -/
def decodeDigits (digits : List Char) : ℕ :=
  digits.foldl (fun decoded digit => decoded * 32 + (publicIdAlphabet.idxOf digit + 1)) 0

theorem decodeDigits_encodeDigits (n : ℕ) : decodeDigits (encodeDigits n) = n := by
  have hdigit : ∀ d < 32, publicIdAlphabet.idxOf (publicIdAlphabet.getD d '0') = d := by decide
  induction n using Nat.strongRecOn with
  | _ n ih =>
    rcases n with _ | n
    · rw [encodeDigits]
      rfl
    · have hrec := ih (n / 32) (by omega)
      rw [encodeDigits, decodeDigits, List.foldl_append, ← decodeDigits, hrec]
      simp only [List.foldl_cons, List.foldl_nil, hdigit (n % 32) (Nat.mod_lt n (by decide))]
      omega

/-- Different numbers have different ids, except for the number `0`, which no pane or tab is
given, and `32`. -/
theorem encodePublicNumber_inj {m n : ℕ} :
    encodePublicNumber m = encodePublicNumber n ↔
      m = n ∨ (m = 0 ∧ n = 32) ∨ (m = 32 ∧ n = 0) := by
  have hdigits : encodeDigits 32 = ['0'] := by simp [encodeDigits, publicIdAlphabet]
  have hencode (k : ℕ) :
      encodePublicNumber k = String.ofList (encodeDigits (if k = 0 then 32 else k)) := by
    unfold encodePublicNumber
    split
    · rw [hdigits]
    · rfl
  have hinj {a b : ℕ} (h : encodeDigits a = encodeDigits b) : a = b := by
    rw [← decodeDigits_encodeDigits a, h, decodeDigits_encodeDigits]
  rw [hencode, hencode]
  constructor
  · intro h
    have hdigits := hinj (String.ofList_injective h)
    split_ifs at hdigits <;> omega
  · rintro (rfl | ⟨rfl, rfl⟩ | ⟨rfl, rfl⟩) <;> rfl

theorem publicTabIdForNumber_inj {workspaceId : String} {m n : ℕ} :
    publicTabIdForNumber workspaceId m = publicTabIdForNumber workspaceId n ↔
      encodePublicNumber m = encodePublicNumber n := by
  unfold publicTabIdForNumber
  constructor
  · intro h
    have hlist := congrArg String.toList h
    simp only [String.toList_append, List.append_cancel_left_eq] at hlist
    exact String.toList_injective hlist
  · intro h
    rw [h]

/-! ## Launch environments -/

inductive PaneLaunchIdentity where
  | inherit
  | managed (workspaceId tabId paneId : String)
  | omitPane
  deriving DecidableEq, Repr

structure PaneLaunchEnv where
  extra : List (String × String) := []
  identity : PaneLaunchIdentity := .inherit
  deriving DecidableEq, Repr

/-! ## Tabs and workspaces -/

/-- `TerminalId`, drawn from a counter. -/
structure TerminalId where
  raw : ℕ
  deriving DecidableEq, Repr

structure PaneState where
  attachedTerminalId : TerminalId
  seen : Bool
  rightClickPassthrough : Bool
  deriving DecidableEq, Repr

def PaneState.new (attachedTerminalId : TerminalId) : PaneState where
  attachedTerminalId := attachedTerminalId
  seen := true
  rightClickPassthrough := false

structure Tab where
  customName : Option String
  number : ℕ
  /-- Identity source for this tab's pane tree. -/
  rootPane : PaneId
  layout : TileLayout
  panes : Assoc PaneId PaneState
  zoomed : Bool

structure Workspace where
  id : String
  customName : Option String
  identityCwd : String
  /-- Closed pane numbers are not reused. -/
  publicPaneNumbers : Assoc PaneId ℕ
  nextPublicPaneNumber : ℕ
  nextPublicTabNumber : ℕ
  tabs : List Tab
  activeTab : ℕ

/-- The panes of all tabs, in the order of the tabs. -/
def Workspace.paneIds (ws : Workspace) : List PaneId :=
  ws.tabs.flatMap (·.layout.paneIds)

/-! ## Valid workspaces -/

/-- The panes of a tab are the leaves of its tree, and focus and root are among them. -/
structure Tab.Valid (tab : Tab) : Prop where
  nodup : tab.layout.paneIds.Nodup
  focus : tab.layout.focus ∈ tab.layout.paneIds
  panes : ∀ id, id ∈ tab.panes ↔ id ∈ tab.layout.paneIds
  rootPane : tab.rootPane ∈ tab.layout.paneIds

/-- There is an active tab, no pane is in two tabs, exactly the panes have public numbers, and
numbers are distinct and below the counter they come from. -/
structure Workspace.Valid (ws : Workspace) : Prop where
  activeTab : ws.activeTab < ws.tabs.length
  tabs : ∀ tab ∈ ws.tabs, tab.Valid
  disjoint : ws.paneIds.Nodup
  numbered : ∀ id, id ∈ ws.publicPaneNumbers ↔ id ∈ ws.paneIds
  numbers_inj : ∀ id id' n, ws.publicPaneNumbers.lookup id = some n →
    ws.publicPaneNumbers.lookup id' = some n → id = id'
  numbers_lt : ∀ id n, ws.publicPaneNumbers.lookup id = some n → n < ws.nextPublicPaneNumber
  tabNumbers_nodup : (ws.tabs.map (·.number)).Nodup
  tabNumbers_lt : ∀ tab ∈ ws.tabs, tab.number < ws.nextPublicTabNumber

end Zynk
