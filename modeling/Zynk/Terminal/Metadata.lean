import Mathlib.Data.Finmap
import Mathlib.Data.List.MinMax
import Zynk.Lib.Run
import Zynk.Lib.Sort
import Zynk.Terminal.Frame

/-!
# Metadata and presentation

What other programs say of the agent in a terminal (`terminal/metadata.rs`) : a title, a name and
labels for its states, each report under its own source, with guards on the agent and its owner,
and with a time to live. The presentation takes the newest value of each field. A change of it is
announced with the operation that made it, or by the expiry step that the pending flag of a
report asks for.

`PresentedTerminal` is a terminal with its metadata, which the operations of `TerminalState` neither
read nor write. The presentation of an operation is compared before and after it by
`recomputeEffectiveState`.
-/

namespace Zynk

/-- `Instant::checked_add`, of nanoseconds. The seconds of an instant have 64 bits. -/
def checkedAdd (instant : ℤ) (duration : ℕ) : Option ℤ :=
  if instant + duration < 2 ^ 63 * 10 ^ 9 then some (instant + duration) else none

structure AgentMetadata where
  source : String
  agentLabel : Option String
  appliesToSource : Option String
  title : Option String
  displayAgent : Option String
  stateLabels : Assoc String String
  reportedAt : ℤ
  titleReportedAt : Option ℤ
  displayAgentReportedAt : Option ℤ
  stateLabelReportedAt : Assoc String ℤ
  ttl : Option ℕ
  expiryEventPending : Bool

structure AgentMetadataReport where
  source : String
  agentLabel : Option String := none
  appliesToSource : Option String := none
  title : Option String := none
  displayAgent : Option String := none
  stateLabels : Assoc String String := ∅
  clearTitle : Bool := false
  clearDisplayAgent : Bool := false
  clearStateLabels : Bool := false
  ttl : Option ℕ := none
  seq : Option ℕ := none

structure EffectivePresentation where
  title : Option String
  displayAgent : Option String
  stateLabels : Finmap fun _ : String => String
  deriving DecidableEq

def EffectivePresentation.empty : EffectivePresentation :=
  { title := none, displayAgent := none, stateLabels := ∅ }

structure EffectiveStateChange where
  previousAgentLabel : Option String
  previousKnownAgent : Option Agent
  previousState : AgentState
  previousPresentation : EffectivePresentation
  agentLabel : Option String
  knownAgent : Option Agent
  state : AgentState
  presentation : EffectivePresentation
  deriving DecidableEq

/-! ## Reports -/

namespace AgentMetadataReport

def clears (report : AgentMetadataReport) : Bool :=
  report.clearTitle || report.clearDisplayAgent || report.clearStateLabels

def hasSetFields (report : AgentMetadataReport) : Bool :=
  report.title.isSome || report.displayAgent.isSome || !report.stateLabels.entries.isEmpty

/-- What a report that clears starts from when its source has no metadata. -/
def blank (report : AgentMetadataReport) (now : ℤ) : AgentMetadata where
  source := report.source
  agentLabel := report.agentLabel
  appliesToSource := report.appliesToSource
  title := none
  displayAgent := none
  stateLabels := ∅
  reportedAt := now
  titleReportedAt := none
  displayAgentReportedAt := none
  stateLabelReportedAt := ∅
  ttl := report.ttl
  expiryEventPending := false

/-- A report that clears nothing replaces the metadata of its source. -/
def replacement (report : AgentMetadataReport) (now : ℤ) : AgentMetadata where
  source := report.source
  agentLabel := report.agentLabel
  appliesToSource := report.appliesToSource
  title := report.title
  displayAgent := report.displayAgent
  stateLabels := report.stateLabels
  reportedAt := now
  titleReportedAt := report.title.map fun _ => now
  displayAgentReportedAt := report.displayAgent.map fun _ => now
  stateLabelReportedAt := Assoc.ofList (report.stateLabels.keys.map fun state => (state, now))
  ttl := report.ttl
  expiryEventPending := false

/-- A report that clears fields changes what its source has. Without new values and without a
time to live it leaves the old one. -/
def update (report : AgentMetadataReport) (now : ℤ) (metadata : AgentMetadata) : AgentMetadata :=
  let renews := report.hasSetFields || report.ttl.isSome
  { metadata with
    agentLabel := report.agentLabel.or metadata.agentLabel
    appliesToSource := report.appliesToSource.or metadata.appliesToSource
    title := report.title.or (if report.clearTitle then none else metadata.title)
    titleReportedAt :=
      (report.title.map fun _ => now).or
        (if report.clearTitle then none else metadata.titleReportedAt)
    displayAgent := report.displayAgent.or
      (if report.clearDisplayAgent then none else metadata.displayAgent)
    displayAgentReportedAt :=
      (report.displayAgent.map fun _ => now).or
        (if report.clearDisplayAgent then none else metadata.displayAgentReportedAt)
    stateLabels := report.stateLabels.entries.foldl (fun labels e => labels.insert e.1 e.2)
      (if report.clearStateLabels then ∅ else metadata.stateLabels)
    stateLabelReportedAt := report.stateLabels.keys.foldl
      (fun times state => times.insert state now)
      (if report.clearStateLabels then ∅ else metadata.stateLabelReportedAt)
    reportedAt := if renews then now else metadata.reportedAt
    ttl := if renews then report.ttl else metadata.ttl
    expiryEventPending := if renews then false else metadata.expiryEventPending }

/-- The metadata that the report makes of what its source has. -/
def apply (report : AgentMetadataReport) (now : ℤ) (metadata : Option AgentMetadata) :
    AgentMetadata :=
  if report.clears then report.update now (metadata.getD (report.blank now))
  else report.replacement now

end AgentMetadataReport

namespace AgentMetadata

/-- It has a field to show. -/
def hasFields (metadata : AgentMetadata) : Bool :=
  metadata.title.isSome || metadata.displayAgent.isSome || !metadata.stateLabels.entries.isEmpty

/-- `agent_metadata_expiry`. -/
def expiry (metadata : AgentMetadata) : Option ℤ :=
  metadata.ttl.map fun ttl => (checkedAdd metadata.reportedAt ttl).getD metadata.reportedAt

/-- `agent_metadata_is_expired`. -/
def isExpired (metadata : AgentMetadata) (now : ℤ) : Bool :=
  metadata.expiry.any (· ≤ now)

end AgentMetadata

/-! ## The presentation -/

namespace TerminalState

def effectiveKnownAgent (s : TerminalState) : Option Agent :=
  match s.hookAuthority with
  | some authority => parseAgentLabel authority.agentLabel
  | none => s.detectedAgent

/-- `agent_metadata_matches_guards`. -/
def agentMetadataMatchesGuards (s : TerminalState) (metadata : AgentMetadata) : Bool :=
  metadata.agentLabel.all (fun agent => s.effectiveAgentLabel == some agent) &&
    metadata.appliesToSource.all fun source =>
      s.hookAuthority.any fun authority => authority.source == source

/-- `agent_metadata_is_visible_ignoring_ttl`. -/
def agentMetadataIsVisibleIgnoringTtl (s : TerminalState) (metadata : AgentMetadata) : Bool :=
  metadata.hasFields && s.agentMetadataMatchesGuards metadata

/-- `agent_metadata_is_valid`. -/
def agentMetadataIsValid (s : TerminalState) (metadata : AgentMetadata) (now : ℤ)
    (enforceTtl : Bool) : Bool :=
  metadata.hasFields && !(enforceTtl && metadata.isExpired now) &&
    s.agentMetadataMatchesGuards metadata

def metadataReportSequenceIsFresh (s : TerminalState) (source : String) (seq : Option ℕ) : Bool :=
  seq.all fun seq => (s.metadataReportSequences.lookup source).all (· < seq)

/-- The number of sources with tokens whose sequences are kept. -/
def maxSequenceSources : ℕ := 32

/-- `accept_metadata_report` : an error when the sequence of one more source would be kept, and
nothing when the sequence is not fresh. -/
def acceptMetadataReport (s : TerminalState) (source : String) (seq : Option ℕ)
    (includesTokens : Bool) : Except Unit (Option TerminalState) :=
  match seq with
  | none => .ok (some s)
  | some seq =>
    if !s.metadataReportSequenceIsFresh source (some seq) then .ok none
    else if includesTokens && (s.metadataTokenSequenceSources.lookup source).isNone &&
        maxSequenceSources ≤ s.metadataTokenSequenceSources.entries.length then .error ()
    else .ok (some { s with
      metadataReportSequences := s.metadataReportSequences.insert source seq
      metadataTokenSequenceSources :=
        if includesTokens then s.metadataTokenSequenceSources.insert source ()
        else s.metadataTokenSequenceSources })

end TerminalState

-- The order of the times, by an instance that is computed.
local instance preorderInstant : Preorder ℤ :=
  Int.instLinearOrder.toPartialOrder.toPreorder

/-- The presentation of the metadata that is valid. Of equal times the last is the newest. -/
def presentationOf (valid : List AgentMetadata) : EffectivePresentation where
  title :=
    ((valid.filter (·.title.isSome)).reverse.argmax fun metadata =>
      (metadata.titleReportedAt : WithBot ℤ)).bind (·.title)
  displayAgent :=
    ((valid.filter (·.displayAgent.isSome)).reverse.argmax fun metadata =>
      (metadata.displayAgentReportedAt : WithBot ℤ)).bind (·.displayAgent)
  stateLabels :=
    (Assoc.ofList <| ((valid.flatMap fun metadata => metadata.stateLabels.entries.filterMap fun e =>
        (metadata.stateLabelReportedAt.lookup e.1).map fun reportedAt =>
          (reportedAt, e.1, e.2)).sortByKey (·.1)).map (·.2)).toFinmap

/-- A terminal with its metadata. -/
structure PresentedTerminal where
  terminal : TerminalState := {}
  agentMetadata : Assoc String AgentMetadata := ∅

namespace PresentedTerminal

/-- The metadata, in some order. -/
def metadataValues (p : PresentedTerminal) : List AgentMetadata :=
  p.agentMetadata.entries.map (·.2)

/-- `effective_presentation_for_state_at_with_ttl`. -/
def presentationWithTtl (p : PresentedTerminal) (now : ℤ) (enforceTtl : Bool) :
    EffectivePresentation :=
  presentationOf (p.metadataValues.filter fun metadata =>
    p.terminal.agentMetadataIsValid metadata now enforceTtl)

/-- `effective_presentation`. -/
def effectivePresentation (p : PresentedTerminal) (now : ℤ) : EffectivePresentation :=
  p.presentationWithTtl now true

/-! ## Announcements -/

def clearExpiryPendingForHiddenMetadata (p : PresentedTerminal) : PresentedTerminal :=
  { p with
    agentMetadata := p.agentMetadata.mapWithKey fun _ metadata =>
      if p.terminal.agentMetadataIsVisibleIgnoringTtl metadata then metadata
      else { metadata with expiryEventPending := false } }

/-- What an operation compares with. -/
structure Previous where
  agentLabel : Option String
  knownAgent : Option Agent
  state : AgentState
  presentation : EffectivePresentation

/-- The terminal as the operation finds it. -/
def previous (p : PresentedTerminal) (now : ℤ) (enforceTtl : Bool) : Previous where
  agentLabel := p.terminal.effectiveAgentLabel
  knownAgent := p.terminal.effectiveKnownAgent
  state := p.terminal.state
  presentation := p.presentationWithTtl now enforceTtl

def recomputeEffectiveState (p : PresentedTerminal) (previous : Previous) (now : ℤ) :
    PresentedTerminal × Option EffectiveStateChange :=
  let state := p.terminal.effectiveState
  let agentLabel := p.terminal.effectiveAgentLabel
  let presentation := p.effectivePresentation now
  let cleared := p.clearExpiryPendingForHiddenMetadata
  if previous.agentLabel = agentLabel ∧ previous.state = state ∧
      previous.presentation = presentation then (cleared, none)
  else
    ({ cleared with terminal := { cleared.terminal with state } },
      some
        { previousAgentLabel := previous.agentLabel
          previousKnownAgent := previous.knownAgent
          previousState := previous.state
          previousPresentation := previous.presentation
          agentLabel, knownAgent := p.terminal.effectiveKnownAgent, state, presentation })

/-! ## Operations -/

/-- The metadata of a source that is over is dropped when the source reports again. -/
def dropExpired (p : PresentedTerminal) (source : String) (now : ℤ) : PresentedTerminal :=
  if (p.agentMetadata.lookup source).any (·.isExpired now) then
    { p with agentMetadata := p.agentMetadata.erase source }
  else p

/-- The metadata after a report, with an expiry to announce if it is in view and has a time to
live. -/
def reportedMetadata (p : PresentedTerminal) (report : AgentMetadataReport) (now : ℤ) :
    AgentMetadata :=
  let metadata := report.apply now (p.agentMetadata.lookup report.source)
  if report.ttl.isSome && p.terminal.agentMetadataIsVisibleIgnoringTtl metadata then
    { metadata with expiryEventPending := true }
  else metadata

def storeReport (p : PresentedTerminal) (report : AgentMetadataReport) (now : ℤ) :
    PresentedTerminal :=
  { p with
    agentMetadata := p.agentMetadata.insert report.source (p.reportedMetadata report now) }

/-- `set_agent_metadata`; nothing when the sequence of the report is refused. -/
def setAgentMetadata (p : PresentedTerminal) (report : AgentMetadataReport) (now : ℤ) :
    Option (PresentedTerminal × Option EffectiveStateChange) :=
  match p.terminal.acceptMetadataReport report.source report.seq false with
  | .error () | .ok none => none
  | .ok (some terminal) =>
    let p := { p with terminal }.dropExpired report.source now
    let (q, change) := (p.storeReport report now).recomputeEffectiveState (p.previous now true) now
    some (if change.isSome then q.clearExpiryPendingForHiddenMetadata else q, change)

/-- `next_agent_metadata_expiry` : of the deadlines of the metadata that matches its guards, those
to come and those that are pending. -/
def nextAgentMetadataExpiry (p : PresentedTerminal) (now : ℤ) : Option ℤ :=
  let matching := p.metadataValues.filter p.terminal.agentMetadataMatchesGuards
  ((matching.filterMap (·.expiry)).filter fun deadline =>
    now < deadline || matching.any fun metadata =>
      metadata.expiryEventPending && metadata.expiry == some deadline).min?

/-- `expire_agent_metadata_at`. Metadata that was over before the deadline it is called for is
dropped without a comparison. -/
def expireAgentMetadataAt (p : PresentedTerminal) (scheduledDeadline now : ℤ) :
    PresentedTerminal × Option EffectiveStateChange :=
  let isStale (metadata : AgentMetadata) : Bool :=
    metadata.expiry.any fun deadline => deadline ≤ now && deadline < scheduledDeadline
  let isDue (metadata : AgentMetadata) : Bool :=
    metadata.expiry.any fun deadline => deadline ≤ now && scheduledDeadline ≤ deadline
  let anyDue := p.metadataValues.any isDue
  let p := { p with agentMetadata := p.agentMetadata.filterWithKey fun _ m => !isStale m }
  if !anyDue then (p, none)
  else
    let previous := p.previous now false
    let p := { p with agentMetadata := p.agentMetadata.filterWithKey fun _ m => !isDue m }
    p.recomputeEffectiveState previous now

end PresentedTerminal

/-! ## Events -/

/-- When an operation happens : a report arrives, an observation is captured. -/
def TerminalEvent.time : TerminalEvent → ℤ
  | .hookReport _ _ _ _ _ _ now => now
  | .sessionStart _ _ _ _ _ _ now => now
  | .clear _ _ now => now
  | .release _ _ _ now => now
  | .observe _ _ _ _ capturedAt => capturedAt

/-- The report of an integration without authority is recorded and nothing is recomputed. -/
def TerminalEvent.recomputes : TerminalEvent → Bool
  | .hookReport source agentLabel _ _ _ _ _ => !sessionIdentityOnlyIntegration source agentLabel
  | _ => true

/-- One step of a terminal : a metadata report, an operation on its owner, or the expiry at the
deadline that was read before, if it has come. -/
inductive PresentationEvent where
  | metadata (report : AgentMetadataReport) (now : ℤ)
  | owner (event : TerminalEvent)
  | expire (readAt now : ℤ)

def PresentationEvent.time : PresentationEvent → ℤ
  | .metadata _ now => now
  | .owner event => event.time
  | .expire _ now => now

namespace PresentedTerminal

/-- An operation on the owner. -/
def handleOwner (p : PresentedTerminal) (event : TerminalEvent) :
    PresentedTerminal × Option EffectiveStateChange :=
  match p.terminal.handle event with
  | none => (p, none)
  | some terminal =>
    if event.recomputes then
      { p with terminal }.recomputeEffectiveState (p.previous event.time true) event.time
    else ({ p with terminal }, none)

/-- Perform an event. -/
def perform (p : PresentedTerminal) : PresentationEvent →
    PresentedTerminal × Option EffectiveStateChange
  | .metadata report now => (p.setAgentMetadata report now).getD (p, none)
  | .owner event => p.handleOwner event
  | .expire readAt now =>
    match p.nextAgentMetadataExpiry readAt with
    | some deadline => if deadline ≤ now then p.expireAgentMetadataAt deadline now else (p, none)
    | none => (p, none)

end PresentedTerminal

end Zynk
