import Zynk.Lib.Text

/-!
# Agents and their labels

The agents of `detect/mod.rs`, the labels hooks name them by, and the two kinds of hook
owners that are retired : those with full lifecycle authority and those that report a
session identity only.
-/

namespace Zynk

open Text

/-- `AgentState` of `detect/mod.rs`. -/
inductive AgentState where
  | idle
  | working
  | blocked
  | unknown
  deriving DecidableEq, Repr

/-- The agents this build knows. -/
inductive Agent where
  | pi
  | claude
  | codex
  | gemini
  | cursor
  | devin
  | antigravity
  | cline
  | mastracode
  | openCode
  | githubCopilot
  | kimi
  | kiro
  | droid
  | amp
  | grok
  | hermes
  | kilo
  | qodercli
  | qwen
  | maki
  deriving DecidableEq, Repr

def agentLabel : Agent → String
  | .pi => "pi"
  | .claude => "claude"
  | .codex => "codex"
  | .gemini => "gemini"
  | .cursor => "cursor"
  | .devin => "devin"
  | .antigravity => "agy"
  | .cline => "cline"
  | .mastracode => "mastracode"
  | .openCode => "opencode"
  | .githubCopilot => "copilot"
  | .kimi => "kimi"
  | .kiro => "kiro"
  | .droid => "droid"
  | .amp => "amp"
  | .grok => "grok"
  | .hermes => "hermes"
  | .kilo => "kilo"
  | .qodercli => "qodercli"
  | .qwen => "qwen"
  | .maki => "maki"

/-! ## Labels -/

/-- The names of each agent, in the order of `lookup_agent`. -/
def agentNames : List (Agent × List String) :=
  [(.pi, ["pi"]), (.claude, ["claude", "claude-code"]), (.codex, ["codex"]),
    (.gemini, ["gemini"]), (.cursor, ["cursor", "cursor-agent"]),
    (.devin, ["devin", "devin-cli", "devin cli"]),
    (.antigravity, ["agy", "antigravity", "antigravity-cli"]), (.cline, ["cline"]),
    (.mastracode, ["mastracode", "mastra-code", "mastra code"]),
    (.openCode, ["opencode", "opencode2", "open-code"]),
    (.githubCopilot, ["copilot", "github-copilot", "ghcs"]),
    (.kimi, ["kimi", "kimi-code", "kimi code"]), (.kiro, ["kiro", "kiro-cli"]),
    (.droid, ["droid"]), (.amp, ["amp", "amp-local"]), (.grok, ["grok", "grok-build"]),
    (.hermes, ["hermes", "hermes-agent"]), (.kilo, ["kilo", "kilo-code", "kilo code"]),
    (.qodercli, ["qodercli", "qoderclicn", "qoder", "qodercn"]),
    (.qwen, ["qwen", "qwen-code", "qwen code"]), (.maki, ["maki"])]

def lookupAgent (name : Text) : Option Agent :=
  (agentNames.find? fun row => row.2.any fun known => known.toList = name).map Prod.fst

/-- A label that is exactly the canonical one. -/
def parseCanonicalAgentLabel (label : Text) : Option Agent :=
  (lookupAgent label).filter fun agent => (agentLabel agent).toList = label

/-- `str::trim`. -/
def trim (s : Text) : Text :=
  ((s.dropWhile isWhitespace).reverse.dropWhile isWhitespace).reverse

/-- `str::to_lowercase`, on the characters whose lower case has an ASCII letter (the Kelvin
sign and the dotted capital I among them). Every other character is left as it is : neither
it nor its lower case is in a name or a suffix. -/
def toLowercase (s : Text) : Text :=
  s.flatMap fun c =>
    if 'A' ≤ c && c ≤ 'Z' then [Char.ofNat (c.toNat + 32)]
    else if c.toNat = 0x212A then ['k']
    else if c.toNat = 0x130 then ['i', Char.ofNat 0x307]
    else [c]

/-- Trimmed, in lower case, without the first executable suffix that matches. -/
def normalizedAgentLookupName (name : Text) : Text :=
  let name := toLowercase (trim name)
  ([".exe", ".cmd", ".bat", ".ps1", ".js"].findSome? fun suffix => stripSuffix suffix name).getD name

def parseAgentLabel (label : String) : Option Agent :=
  let name := normalizedAgentLookupName label.toList
  (parseCanonicalAgentLabel name).or (lookupAgent name)

/-! ## Hook owners -/

def fullLifecycleHookAuthority (source agentLabel : String) : Bool :=
  [("zynk:pi", "pi"), ("zynk:omp", "omp"), ("zynk:mastracode", "mastracode"),
    ("zynk:opencode", "opencode"), ("zynk:kilo", "kilo"),
    ("zynk:kimi", "kimi")].contains (source, agentLabel)

def sessionIdentityOnlyIntegration (source agentLabel : String) : Bool :=
  [("zynk:hermes", "hermes"), ("zynk:qwen", "qwen"),
    ("zynk:antigravity_cli", "agy")].contains (source, agentLabel)

/-- The owners that a clear, a release or a process exit retires. -/
def hookReportRetirementApplies (source agentLabel : String) : Bool :=
  fullLifecycleHookAuthority source agentLabel || sessionIdentityOnlyIntegration source agentLabel

/-- A source reports for one owner that is retired. -/
theorem label_unique_of_retirementApplies {source label label' : String}
    (h : hookReportRetirementApplies source label = true)
    (h' : hookReportRetirementApplies source label' = true) : label = label' := by
  simp only [hookReportRetirementApplies, fullLifecycleHookAuthority,
    sessionIdentityOnlyIntegration, List.contains_eq_mem, List.mem_cons, Prod.mk.injEq,
    List.not_mem_nil, or_false, Bool.or_eq_true, decide_eq_true_eq] at h h'
  obtain (⟨rfl, rfl⟩ | ⟨rfl, rfl⟩ | ⟨rfl, rfl⟩ | ⟨rfl, rfl⟩ | ⟨rfl, rfl⟩ | ⟨rfl, rfl⟩) |
    (⟨rfl, rfl⟩ | ⟨rfl, rfl⟩ | ⟨rfl, rfl⟩) := h <;> simp_all

/-- Another owner that is retired has another source. -/
theorem source_ne_of_owner_ne {o : String × String} {source label : String}
    (happlies : hookReportRetirementApplies o.1 o.2 = true)
    (h : hookReportRetirementApplies source label = true) (hne : (source, label) ≠ o) :
    source ≠ o.1 := by
  rintro rfl
  exact hne (Prod.ext rfl (label_unique_of_retirementApplies h happlies))

end Zynk
