import Zynk.Terminal.Metadata

/-!
# The announced presentation

A subscriber knows the presentation of a terminal from the last change that was announced. It is
the effective one whenever no expiry is due (`UpToDate`), as long as every step is `Announced` : no
step changes what is compared while an expiry is due, no step brings metadata into view whose time
to live is running, and no report shows metadata that is over at once.

The announced presentation is that of the metadata in view that has no time to live or whose expiry
is pending (`Armed`). `announced_up_to_date` is the invariant over a run; `revealed_title_stays` is
a title that comes into view after its report and is never taken back.
-/

namespace Zynk

open StepRun

namespace TerminalState

/-- What guards are compared with, and the state that is compared with it. -/
def ownerView (s : TerminalState) : Option String × Option String × AgentState :=
  (s.effectiveAgentLabel, s.hookAuthority.map (·.source), s.state)

/-- Of metadata in view that has a time to live, the expiry is pending as long as it is to come. -/
def FlagsExpiry (s : TerminalState) (now : ℤ) (metadata : AgentMetadata) : Prop :=
  s.agentMetadataIsVisibleIgnoringTtl metadata = true →
    ∀ deadline ∈ metadata.expiry, (metadata.expiryEventPending = true ↔ now < deadline)

/-- And of no other metadata. -/
def Settled (s : TerminalState) (now : ℤ) (metadata : AgentMetadata) : Prop :=
  (metadata.expiryEventPending = true → s.agentMetadataIsVisibleIgnoringTtl metadata = true) ∧
    s.FlagsExpiry now metadata

/-- In view, without a time to live or with an expiry that is to be announced. -/
def shows (s : TerminalState) (metadata : AgentMetadata) : Bool :=
  s.agentMetadataIsVisibleIgnoringTtl metadata &&
    (metadata.expiry.isNone || metadata.expiryEventPending)

end TerminalState

namespace PresentedTerminal

/-- An expiry that could have been performed has not been. -/
def Overdue (p : PresentedTerminal) (now : ℤ) : Prop :=
  ∃ deadline ∈ p.nextAgentMetadataExpiry now, deadline ≤ now

/-- The step changes nothing that is compared : an expiry, a report that is refused, or an operation
that leaves the owner and the state. -/
def Quiet (p : PresentedTerminal) : PresentationEvent → Prop
  | .metadata report _ =>
    p.terminal.metadataReportSequenceIsFresh report.source report.seq = false
  | .owner event => (p.terminal.step event).ownerView = p.terminal.ownerView
  | .expire _ _ => True

/-- The step brings metadata into view whose time to live is running : by a change of owner, or by
new guards without new values. -/
def Reveals (p : PresentedTerminal) : PresentationEvent → Prop
  | .metadata report now =>
    p.terminal.metadataReportSequenceIsFresh report.source report.seq = true ∧
      report.clears = true ∧ report.hasSetFields = false ∧ report.ttl = none ∧
      ∃ metadata ∈ p.agentMetadata.lookup report.source,
        (∃ deadline ∈ metadata.expiry, now < deadline) ∧
          p.terminal.agentMetadataIsVisibleIgnoringTtl metadata = false ∧
          p.terminal.agentMetadataIsVisibleIgnoringTtl (report.update now metadata) = true
  | .owner event =>
    ∃ metadata ∈ p.metadataValues, (∃ deadline ∈ metadata.expiry, event.time < deadline) ∧
      p.terminal.agentMetadataIsVisibleIgnoringTtl metadata = false ∧
      (p.terminal.step event).agentMetadataIsVisibleIgnoringTtl metadata = true
  | .expire _ _ => False

/-- The step is a report whose time to live is nothing, or ends beyond the clock, and that would be
in view. -/
def ShowsExpired (p : PresentedTerminal) : PresentationEvent → Prop
  | .metadata report now =>
    p.terminal.metadataReportSequenceIsFresh report.source report.seq = true ∧
      (∃ ttl ∈ report.ttl, (checkedAdd now ttl).getD now ≤ now) ∧
      p.terminal.agentMetadataIsVisibleIgnoringTtl
        (report.apply now ((p.dropExpired report.source now).agentMetadata.lookup report.source)) =
          true
  | _ => False

/-- The step is one whose change is announced. -/
structure Announced (p : PresentedTerminal) (event : PresentationEvent) : Prop where
  quiet_of_overdue : p.Overdue event.time → p.Quiet event
  not_reveals : ¬ p.Reveals event
  not_showsExpired : ¬ p.ShowsExpired event

end PresentedTerminal

/-- A terminal, what was announced of it last, and when it last did anything. -/
structure PresentationWatch where
  presented : PresentedTerminal
  announced : EffectivePresentation
  clock : ℤ

namespace PresentationWatch

/-- A terminal without metadata, of which nothing was announced. -/
def start (s : TerminalState) (clock : ℤ) : PresentationWatch :=
  { presented := { terminal := s }, announced := .empty, clock }

def step (w : PresentationWatch) (event : PresentationEvent) : PresentationWatch :=
  let (presented, change) := w.presented.perform event
  { presented
    announced := (change.map (·.presentation)).getD w.announced
    clock := event.time }

/-- Times do not decrease, and the deadline of an expiry was read since the last step. -/
def Timely (w : PresentationWatch) : PresentationEvent → Prop
  | .metadata _ now => w.clock ≤ now
  | .owner event => w.clock ≤ event.time
  | .expire readAt now => w.clock ≤ readAt ∧ readAt ≤ now

/-- As long as no expiry is due, the announced presentation is the effective one. -/
def UpToDate (w : PresentationWatch) : Prop :=
  ∀ now, w.clock ≤ now → ¬ w.presented.Overdue now →
    w.announced = w.presented.effectivePresentation now

end PresentationWatch

/-! ## The next expiry -/

namespace PresentedTerminal

variable {p : PresentedTerminal} {now deadline : ℤ} {metadata : AgentMetadata}

/-- The next expiry is not after a pending one. -/
theorem next_le_of_pending (now : ℤ) (hmem : metadata ∈ p.metadataValues)
    (hmatches : p.terminal.agentMetadataMatchesGuards metadata = true)
    (hpending : metadata.expiryEventPending = true) (hexpiry : metadata.expiry = some deadline) :
    ∃ next, p.nextAgentMetadataExpiry now = some next ∧ next ≤ deadline := by
  have hmatching : metadata ∈ p.metadataValues.filter p.terminal.agentMetadataMatchesGuards :=
    List.mem_filter.2 ⟨hmem, hmatches⟩
  unfold nextAgentMetadataExpiry
  simp only
  generalize hdeadlines : List.filter _ (List.filterMap _ _) = deadlines
  have hin : deadline ∈ deadlines := by
    rw [← hdeadlines, List.mem_filter, List.mem_filterMap]
    refine ⟨⟨metadata, hmatching, hexpiry⟩, ?_⟩
    rw [Bool.or_eq_true, List.any_eq_true]
    exact Or.inr ⟨metadata, hmatching, by simp [hpending, hexpiry]⟩
  cases hmin : deadlines.min? with
  | none =>
    rw [List.min?_eq_none_iff] at hmin
    simp [hmin] at hin
  | some next => exact ⟨next, rfl, (List.min?_eq_some_iff.1 hmin).2 deadline hin⟩

/-- The next expiry is the deadline of some metadata, to come or pending. -/
theorem next_eq_some (h : p.nextAgentMetadataExpiry now = some deadline) :
    (∃ m ∈ p.metadataValues, m.expiry = some deadline) ∧
      (now < deadline ∨ ∃ m ∈ p.metadataValues,
        m.expiryEventPending = true ∧ m.expiry = some deadline) := by
  unfold nextAgentMetadataExpiry at h
  obtain ⟨hin, -⟩ := List.min?_eq_some_iff.1 h
  obtain ⟨hexpiry, hwhen⟩ := List.mem_filter.1 hin
  obtain ⟨m, hm, hmd⟩ := List.mem_filterMap.1 hexpiry
  refine ⟨⟨m, (List.mem_filter.1 hm).1, hmd⟩, ?_⟩
  simp only [Bool.or_eq_true, decide_eq_true_eq, List.any_eq_true, Bool.and_eq_true,
    beq_iff_eq] at hwhen
  refine hwhen.imp_right ?_
  rintro ⟨m', hm', hp⟩
  exact ⟨m', (List.mem_filter.1 hm').1, hp⟩

end PresentedTerminal

/-! ## What is announced -/

/-- The announced presentation is that of the metadata that `shows`. Metadata in view that does
not is over, and was before any expiry that is to come. -/
structure Armed (p : PresentedTerminal) (announced : EffectivePresentation) (clock : ℤ) :
    Prop where
  visible_of_pending : ∀ m ∈ p.metadataValues, m.expiryEventPending = true →
    p.terminal.agentMetadataIsVisibleIgnoringTtl m = true
  past : ∀ m ∈ p.metadataValues, p.terminal.agentMetadataIsVisibleIgnoringTtl m = true →
    m.expiryEventPending = false → ∀ deadline ∈ m.expiry, deadline ≤ clock ∧
      ∀ m' ∈ p.metadataValues, m'.expiryEventPending = true → ∀ later ∈ m'.expiry, deadline < later
  announced_eq : announced = presentationOf (p.metadataValues.filter p.terminal.shows)

namespace Armed

variable {p : PresentedTerminal} {announced : EffectivePresentation} {clock now : ℤ}

theorem mono (h : Armed p announced clock) (hnow : clock ≤ now) : Armed p announced now where
  visible_of_pending := h.visible_of_pending
  past m hm hvisible hpending deadline hdeadline :=
    have hpast := h.past m hm hvisible hpending deadline hdeadline
    ⟨hpast.1.trans hnow, hpast.2⟩
  announced_eq := h.announced_eq

/-- When no expiry is due the metadata is settled. -/
theorem settled (h : Armed p announced clock) (hnow : clock ≤ now) (hdue : ¬ p.Overdue now) :
    ∀ m ∈ p.metadataValues, p.terminal.Settled now m := by
  refine fun m hm => ⟨h.visible_of_pending m hm, fun hvisible deadline hdeadline => ?_⟩
  constructor
  · intro hpending
    by_contra hle
    rw [TerminalState.agentMetadataIsVisibleIgnoringTtl, Bool.and_eq_true] at hvisible
    obtain ⟨next, hnext, hnextle⟩ :=
      PresentedTerminal.next_le_of_pending now hm hvisible.2 hpending hdeadline
    exact hdue ⟨next, hnext, by omega⟩
  · intro hlt
    by_contra hpending
    rw [Bool.not_eq_true] at hpending
    have hle := (h.past m hm hvisible hpending deadline hdeadline).1
    omega

end Armed

namespace PresentedTerminal

variable {p : PresentedTerminal} {now : ℤ}

/-- Settled metadata is valid exactly if it shows. -/
theorem effectivePresentation_of_settled (h : ∀ m ∈ p.metadataValues, p.terminal.Settled now m) :
    p.effectivePresentation now = presentationOf (p.metadataValues.filter p.terminal.shows) := by
  unfold effectivePresentation presentationWithTtl
  congr 1
  refine List.filter_congr fun m hm => ?_
  obtain ⟨-, hflags⟩ := h m hm
  unfold TerminalState.agentMetadataIsValid TerminalState.shows AgentMetadata.isExpired
  cases hvisible : p.terminal.agentMetadataIsVisibleIgnoringTtl m with
  | false =>
    rw [TerminalState.agentMetadataIsVisibleIgnoringTtl, Bool.and_eq_false_iff] at hvisible
    rcases hvisible with h | h <;> simp [h]
  | true =>
    have hboth := hvisible
    rw [TerminalState.agentMetadataIsVisibleIgnoringTtl, Bool.and_eq_true] at hboth
    cases hexpiry : m.expiry with
    | none => simp [hboth]
    | some deadline =>
      have hiff := hflags hvisible deadline hexpiry
      rw [Bool.eq_iff_iff]
      simp [hboth, hiff]

/-- Settled metadata whose presentation was announced. -/
theorem armed_of_settled (h : ∀ m ∈ p.metadataValues, p.terminal.Settled now m) :
    Armed p (p.effectivePresentation now) now where
  visible_of_pending m hm := (h m hm).1
  past m hm hvisible hpending deadline hdeadline := by
    have hiff := (h m hm).2 hvisible deadline hdeadline
    have hle : deadline ≤ now := by
      by_contra hlt
      rw [hiff.2 (by omega)] at hpending
      cases hpending
    refine ⟨hle, fun m' hm' hpending' later hlater => ?_⟩
    have hlt := ((h m' hm').2 ((h m' hm').1 hpending') later hlater).1 hpending'
    omega
  announced_eq := effectivePresentation_of_settled h

end PresentedTerminal

/-- Up to date whenever no expiry is due. -/
theorem Armed.effectivePresentation_eq {p : PresentedTerminal} {announced : EffectivePresentation}
    {clock now : ℤ} (h : Armed p announced clock) (hnow : clock ≤ now) (hdue : ¬ p.Overdue now) :
    p.effectivePresentation now = announced := by
  rw [h.announced_eq]
  exact PresentedTerminal.effectivePresentation_of_settled (h.settled hnow hdue)

/-! ## Recomputing -/

namespace TerminalState

variable {s t : TerminalState}

/-- Guards look at the owner only. -/
theorem agentMetadataIsVisibleIgnoringTtl_congr
    (hlabel : t.effectiveAgentLabel = s.effectiveAgentLabel)
    (hsource : t.hookAuthority.map (·.source) = s.hookAuthority.map (·.source)) :
    t.agentMetadataIsVisibleIgnoringTtl = s.agentMetadataIsVisibleIgnoringTtl := by
  have hany (u : TerminalState) (source : String) :
      (u.hookAuthority.any fun authority => authority.source == source) =
        (u.hookAuthority.map (·.source)).any (· == source) := by
    cases u.hookAuthority <;> rfl
  funext metadata
  unfold agentMetadataIsVisibleIgnoringTtl agentMetadataMatchesGuards
  simp only [hlabel, hany, hsource]

theorem shows_congr
    (h : t.agentMetadataIsVisibleIgnoringTtl = s.agentMetadataIsVisibleIgnoringTtl) :
    t.shows = s.shows := by
  funext metadata
  simp only [shows, h]

/-- What is valid is in view. -/
theorem agentMetadataIsValid_eq (s : TerminalState) (metadata : AgentMetadata) (now : ℤ)
    (enforceTtl : Bool) :
    s.agentMetadataIsValid metadata now enforceTtl =
      (s.agentMetadataIsVisibleIgnoringTtl metadata &&
        !(enforceTtl && metadata.isExpired now)) := by
  unfold agentMetadataIsValid agentMetadataIsVisibleIgnoringTtl
  cases metadata.hasFields <;> simp [Bool.and_comm]

end TerminalState

namespace PresentedTerminal

variable {p : PresentedTerminal} {now : ℤ}

/-- The pending flag is cleared unless the metadata is in view. -/
def unflagHidden (s : TerminalState) (metadata : AgentMetadata) : AgentMetadata :=
  if s.agentMetadataIsVisibleIgnoringTtl metadata then metadata
  else { metadata with expiryEventPending := false }

theorem metadataValues_clear (p : PresentedTerminal) :
    p.clearExpiryPendingForHiddenMetadata.metadataValues =
      p.metadataValues.map (unflagHidden p.terminal) := by
  simp [metadataValues, clearExpiryPendingForHiddenMetadata, Assoc.mapWithKey, unflagHidden,
    Function.comp_def]

/-- The flag decides nothing of what is in view. -/
theorem visible_unflagHidden (s u : TerminalState) (metadata : AgentMetadata) :
    u.agentMetadataIsVisibleIgnoringTtl (unflagHidden s metadata) =
      u.agentMetadataIsVisibleIgnoringTtl metadata := by
  unfold unflagHidden
  split <;> rfl

theorem settled_unflagHidden {s : TerminalState} {metadata : AgentMetadata}
    (h : s.FlagsExpiry now metadata) : s.Settled now (unflagHidden s metadata) := by
  cases hvisible : s.agentMetadataIsVisibleIgnoringTtl metadata with
  | true =>
    rw [unflagHidden, if_pos hvisible]
    exact ⟨fun _ => hvisible, h⟩
  | false =>
    refine ⟨fun hpending => ?_, fun hvisible' => ?_⟩
    · simp [unflagHidden, hvisible] at hpending
    · rw [visible_unflagHidden, hvisible] at hvisible'
      cases hvisible'

theorem effectivePresentation_clear (p : PresentedTerminal) (now : ℤ) :
    p.clearExpiryPendingForHiddenMetadata.effectivePresentation now =
      p.effectivePresentation now := by
  unfold effectivePresentation presentationWithTtl
  rw [metadataValues_clear]
  congr 1
  change (List.map _ p.metadataValues).filter
    (fun m => p.terminal.agentMetadataIsValid m now true) = _
  induction p.metadataValues with
  | nil => rfl
  | cons m values ih =>
    rw [List.map_cons, List.filter_cons, List.filter_cons, ih]
    simp only [TerminalState.agentMetadataIsValid_eq, visible_unflagHidden]
    cases hvisible : p.terminal.agentMetadataIsVisibleIgnoringTtl m with
    | true => rw [unflagHidden, if_pos hvisible]
    | false => simp

/-- Where only what is in view is pending there is nothing to clear. -/
theorem clear_eq_self (h : ∀ m ∈ p.metadataValues, m.expiryEventPending = true →
    p.terminal.agentMetadataIsVisibleIgnoringTtl m = true) :
    p.clearExpiryPendingForHiddenMetadata = p := by
  have hmetadata : p.clearExpiryPendingForHiddenMetadata.agentMetadata = p.agentMetadata := by
    refine AList.ext ((List.map_congr_left fun e he => ?_).trans (List.map_id _))
    obtain ⟨source, m⟩ := e
    have hm := h m (List.mem_map.2 ⟨_, he, rfl⟩)
    cases hvisible : p.terminal.agentMetadataIsVisibleIgnoringTtl m with
    | true => simp [hvisible]
    | false =>
      have hpending : m.expiryEventPending = false := by
        by_contra hp
        rw [Bool.not_eq_false] at hp
        rw [hm hp] at hvisible
        cases hvisible
      simp [hvisible, ← hpending]
  exact congrArg (PresentedTerminal.mk p.terminal) hmetadata

/-- An operation compares with what was announced, and leaves the expiries flagged. -/
theorem armed_recompute {announced : EffectivePresentation} {previous : Previous}
    (h : ∀ m ∈ p.metadataValues, p.terminal.FlagsExpiry now m)
    (hprevious : previous.presentation = announced) :
    Armed (p.recomputeEffectiveState previous now).1
      (((p.recomputeEffectiveState previous now).2.map (·.presentation)).getD announced) now := by
  obtain ⟨state, hp, ha⟩ : ∃ state, (p.recomputeEffectiveState previous now).1 =
      { p.clearExpiryPendingForHiddenMetadata with terminal := { p.terminal with state } } ∧
      ((p.recomputeEffectiveState previous now).2.map (·.presentation)).getD announced =
        p.effectivePresentation now := by
    unfold recomputeEffectiveState
    simp only
    split
    · rename_i hsame
      exact ⟨p.terminal.state, rfl, hprevious.symm.trans hsame.2.2⟩
    · exact ⟨p.terminal.effectiveState, rfl, rfl⟩
  rw [hp, ha, ← effectivePresentation_clear]
  refine armed_of_settled (p := { p.clearExpiryPendingForHiddenMetadata with
    terminal := { p.terminal with state } }) fun m hm => ?_
  replace hm : m ∈ p.clearExpiryPendingForHiddenMetadata.metadataValues := hm
  rw [metadataValues_clear, List.mem_map] at hm
  obtain ⟨m, hm, rfl⟩ := hm
  exact settled_unflagHidden (h m hm)

/-! ## Operations on the owner -/

end PresentedTerminal

namespace TerminalState

variable {s t : TerminalState} {event : TerminalEvent}

theorem step_of_handle (h : s.handle event = some t) : s.step event = t := by
  simp [step, h]

/-- An operation that recomputes leaves the effective state. -/
theorem state_of_handle (h : s.handle event = some t) (hrecomputes : event.recomputes = true) :
    t.state = t.effectiveState := by
  obtain ⟨u, rfl⟩ : ∃ u : TerminalState, t = u.recomputeEffectiveState := by
    cases event with
    | hookReport source label state message ref seq now =>
      rw [TerminalEvent.recomputes, Bool.not_eq_true'] at hrecomputes
      obtain ⟨-, _, _, -, ht⟩ := setHookAuthority_eq_some hrecomputes h
      exact ⟨_, ht⟩
    | sessionStart source label ref seq reason observation now =>
      obtain ⟨_, -, -, _, _, -, ht⟩ := setAgentSessionRefForSessionStart_eq_some h
      exact ⟨_, ht⟩
    | clear source seq now =>
      obtain ⟨-, _, ht⟩ := clearHookAuthority_eq_some h
      exact ⟨_, ht⟩
    | release source label seq now =>
      obtain ⟨-, _, ht⟩ := releaseAgent_eq_some h
      exact ⟨_, ht⟩
    | observe agent fallbackState visibleBlocker processExited capturedAt =>
      cases h
      obtain ⟨_, -, ⟨-, _, ht⟩ | ⟨-, ht⟩⟩ :=
        setDetectedState_cases s agent fallbackState visibleBlocker processExited capturedAt
      · exact ⟨_, ht⟩
      · exact ⟨_, ht⟩
  rfl

/-- An operation that does not recompute leaves the owner that guards look at. -/
theorem owner_of_handle (h : s.handle event = some t) (hrecomputes : event.recomputes = false) :
    t.effectiveAgentLabel = s.effectiveAgentLabel ∧ t.hookAuthority = s.hookAuthority := by
  cases event with
  | hookReport source label state message ref seq now =>
    rw [TerminalEvent.recomputes, Bool.not_eq_false'] at hrecomputes
    rw [handle, setHookAuthority, if_pos hrecomputes] at h
    obtain ⟨-, resetSequence, sequenceToStore, -, rfl⟩ := recordIdentityOnlyHookReport_eq_some h
    have hrecords := s.admitHookReport_records source label (s.clampSessionRef source label ref)
      resetSequence sequenceToStore
    generalize s.admitHookReport source label _ resetSequence sequenceToStore = u at hrecords ⊢
    have hlabel : u.effectiveAgentLabel = s.effectiveAgentLabel := by
      rw [effectiveAgentLabel, effectiveAgentLabel, hrecords.hookAuthority, hrecords.detectedAgent]
    cases s.clampSessionRef source label ref with
    | none => exact ⟨hlabel, hrecords.hookAuthority⟩
    | some ref => exact ⟨hlabel, hrecords.hookAuthority⟩
  | sessionStart => cases hrecomputes
  | clear => cases hrecomputes
  | release => cases hrecomputes
  | observe => cases hrecomputes

end TerminalState

/-- The owner that guards look at is the same. -/
theorem Armed.of_owner {p : PresentedTerminal} {announced : EffectivePresentation} {clock : ℤ}
    {terminal : TerminalState} (h : Armed p announced clock)
    (hvisible : terminal.agentMetadataIsVisibleIgnoringTtl =
      p.terminal.agentMetadataIsVisibleIgnoringTtl) :
    Armed { p with terminal } announced clock where
  visible_of_pending m hm hpending :=
    (congrFun hvisible m).trans (h.visible_of_pending m hm hpending)
  past m hm hm' := h.past m hm ((congrFun hvisible m).symm.trans hm')
  announced_eq := by
    rw [h.announced_eq]
    change _ = presentationOf (p.metadataValues.filter terminal.shows)
    rw [TerminalState.shows_congr hvisible]

namespace PresentedTerminal

variable {p : PresentedTerminal} {announced : EffectivePresentation} {clock : ℤ}

/-- A step without a change of what is compared announces nothing. -/
theorem recompute_of_same {terminal : TerminalState} {now : ℤ} (h : Armed p announced clock)
    (hview : terminal.ownerView = p.terminal.ownerView)
    (hstate : terminal.state = terminal.effectiveState) :
    { p with terminal }.recomputeEffectiveState (p.previous now true) now =
      ({ p with terminal }, none) := by
  simp only [TerminalState.ownerView, Prod.mk.injEq] at hview
  obtain ⟨hlabel, hsource, hsame⟩ := hview
  have hvisible := TerminalState.agentMetadataIsVisibleIgnoringTtl_congr hlabel hsource
  have hpresentation : { p with terminal }.effectivePresentation now =
      p.effectivePresentation now := by
    unfold effectivePresentation presentationWithTtl
    congr 2
    funext m
    simp only [TerminalState.agentMetadataIsValid_eq, hvisible]
  unfold recomputeEffectiveState
  simp only
  rw [if_pos ⟨hlabel.symm, (hsame.symm.trans hstate), hpresentation.symm⟩,
    clear_eq_self (h.of_owner hvisible).visible_of_pending]

theorem armed_handleOwner {event : TerminalEvent} (h : Armed p announced clock)
    (hclock : clock ≤ event.time) (hstep : p.Announced (.owner event)) :
    Armed (p.handleOwner event).1
      (((p.handleOwner event).2.map (·.presentation)).getD announced) event.time := by
  unfold handleOwner
  cases hhandle : p.terminal.handle event with
  | none => exact h.mono hclock
  | some terminal =>
    have hafter := TerminalState.step_of_handle hhandle
    simp only
    cases hrecomputes : event.recomputes with
    | false =>
      obtain ⟨hlabel, hauthority⟩ := TerminalState.owner_of_handle hhandle hrecomputes
      exact (h.of_owner (TerminalState.agentMetadataIsVisibleIgnoringTtl_congr hlabel
        (by rw [hauthority]))).mono hclock
    | true =>
      rw [if_pos rfl]
      by_cases hdue : p.Overdue event.time
      · have hquiet : terminal.ownerView = p.terminal.ownerView :=
          hafter ▸ hstep.quiet_of_overdue hdue
        rw [recompute_of_same h hquiet (TerminalState.state_of_handle hhandle hrecomputes)]
        simp only [TerminalState.ownerView, Prod.mk.injEq] at hquiet
        exact (h.of_owner (TerminalState.agentMetadataIsVisibleIgnoringTtl_congr hquiet.1
          hquiet.2.1)).mono hclock
      · refine armed_recompute (fun m hm hvisible deadline hdeadline => ?_)
          (h.effectivePresentation_eq hclock hdue)
        obtain ⟨hpending, hflags⟩ := h.settled hclock hdue m hm
        cases hbefore : p.terminal.agentMetadataIsVisibleIgnoringTtl m with
        | true => exact hflags hbefore deadline hdeadline
        | false =>
          -- It came into view, so it is over; and it was not flagged.
          have hnot : ¬ event.time < deadline := fun hlt => hstep.not_reveals
            ⟨m, hm, ⟨deadline, hdeadline, hlt⟩, hbefore, hafter ▸ hvisible⟩
          refine ⟨fun hp => ?_, fun hlt => absurd hlt hnot⟩
          rw [hpending hp] at hbefore
          cases hbefore

/-! ## Reports -/

theorem acceptMetadataReport_cases (s : TerminalState) (source : String) (seq : Option ℕ) :
    (s.metadataReportSequenceIsFresh source seq = false ∧
        s.acceptMetadataReport source seq false = .ok none) ∨
      (s.metadataReportSequenceIsFresh source seq = true ∧ ∃ sequences,
        s.acceptMetadataReport source seq false =
          .ok (some { s with metadataReportSequences := sequences })) := by
  cases seq with
  | none => exact Or.inr ⟨rfl, s.metadataReportSequences, rfl⟩
  | some seq =>
    unfold TerminalState.acceptMetadataReport
    cases hfresh : s.metadataReportSequenceIsFresh source (some seq) with
    | false => exact Or.inl ⟨rfl, by simp [hfresh]⟩
    | true => exact Or.inr ⟨rfl, s.metadataReportSequences.insert source seq, by simp [hfresh]⟩

theorem terminal_dropExpired (p : PresentedTerminal) (source : String) (now : ℤ) :
    (p.dropExpired source now).terminal = p.terminal := by
  unfold dropExpired
  split <;> rfl

variable {source : String} {m : AgentMetadata}

theorem mem_of_mem_dropExpired {now : ℤ} (hm : m ∈ (p.dropExpired source now).metadataValues) :
    m ∈ p.metadataValues := by
  unfold dropExpired at hm
  split at hm
  · exact ((List.kerase_sublist source _).map _).subset hm
  · exact hm

/-- What a source has after its metadata was dropped if it was over. -/
theorem lookup_dropExpired {now : ℤ}
    (h : (p.dropExpired source now).agentMetadata.lookup source = some m) :
    p.agentMetadata.lookup source = some m ∧ m.isExpired now = false := by
  unfold dropExpired at h
  split at h
  · rw [AList.lookup_erase] at h
    cases h
  · rename_i hlive
    rw [h, Option.any_some, Bool.not_eq_true] at hlive
    exact ⟨h, hlive⟩

theorem mem_metadataValues_of_lookup (h : p.agentMetadata.lookup source = some m) :
    m ∈ p.metadataValues :=
  List.mem_map.2 ⟨⟨source, m⟩, AList.mem_lookup_iff.1 h, rfl⟩

/-- An entry that is not kept by a filter may as well be erased. -/
theorem filter_kerase {keep : AgentMetadata → Bool}
    {entries : List (Sigma fun _ : String => AgentMetadata)}
    (h : ∀ m ∈ List.dlookup source entries, keep m = false) :
    ((List.kerase source entries).map (·.2)).filter keep = (entries.map (·.2)).filter keep := by
  induction entries with
  | nil => rfl
  | cons e entries ih =>
    obtain ⟨k, m⟩ := e
    by_cases hk : source = k
    · subst hk
      rw [List.dlookup_cons_eq] at h
      have herased : List.kerase source (⟨source, m⟩ :: entries) = entries :=
        List.kerase_cons_eq rfl
      rw [herased, List.map_cons, List.filter_cons, h m rfl]
      rfl
    · rw [List.dlookup_cons_ne _ _ hk] at h
      rw [List.kerase_cons_ne hk, List.map_cons, List.map_cons, List.filter_cons, List.filter_cons,
        ih h]

/-- Dropping what is over changes nothing that is shown. -/
theorem effectivePresentation_dropExpired (p : PresentedTerminal) (source : String) (now : ℤ) :
    (p.dropExpired source now).effectivePresentation now = p.effectivePresentation now := by
  unfold dropExpired
  split
  · rename_i hexpired
    refine congrArg presentationOf (filter_kerase fun m hm => ?_)
    rw [show p.agentMetadata.lookup source = some m from hm, Option.any_some] at hexpired
    simp [TerminalState.agentMetadataIsValid_eq, hexpired]
  · rfl

variable {report : AgentMetadataReport}

/-- The metadata of a report that carries a time to live. -/
theorem expiry_apply (now : ℤ) {ttl : ℕ} (httl : report.ttl = some ttl)
    (metadata : Option AgentMetadata) :
    (report.apply now metadata).expiry = some ((checkedAdd now ttl).getD now) := by
  unfold AgentMetadataReport.apply AgentMetadata.expiry
  split <;> simp [AgentMetadataReport.update, AgentMetadataReport.replacement, httl]

/-- What a report stores has its expiry flagged. -/
theorem flagsExpiry_reportedMetadata {now : ℤ}
    (hsettled : ∀ m ∈ p.metadataValues, p.terminal.Settled now m)
    (hfresh : p.terminal.metadataReportSequenceIsFresh report.source report.seq = true)
    (hstep : p.Announced (.metadata report now)) :
    p.terminal.FlagsExpiry now ((p.dropExpired report.source now).reportedMetadata report now) := by
  unfold reportedMetadata
  rw [terminal_dropExpired]
  generalize hfound : (p.dropExpired report.source now).agentMetadata.lookup report.source = found
  simp only
  cases httl : report.ttl with
  | some ttl =>
    have hexpiry := expiry_apply now httl found
    have hinstant : p.terminal.agentMetadataIsVisibleIgnoringTtl (report.apply now found) = true →
        now < (checkedAdd now ttl).getD now := by
      intro hvisible
      by_contra hle
      exact hstep.not_showsExpired ⟨hfresh, ⟨ttl, httl, by omega⟩, hfound.symm ▸ hvisible⟩
    cases hvisible : p.terminal.agentMetadataIsVisibleIgnoringTtl (report.apply now found) with
    | false =>
      intro hshown
      simp only [Option.isSome_some, Bool.and_false, Bool.false_eq_true, if_false] at hshown
      rw [hvisible] at hshown
      cases hshown
    | true =>
      intro _ deadline hdeadline
      replace hdeadline : (report.apply now found).expiry = some deadline := hdeadline
      rw [hexpiry, Option.some.injEq] at hdeadline
      subst hdeadline
      exact ⟨fun _ => hinstant hvisible, fun _ => rfl⟩
  | none =>
    intro hvisible deadline hdeadline
    simp only [Option.isSome_none, Bool.false_and, Bool.false_eq_true, if_false]
      at hvisible hdeadline ⊢
    cases hclears : report.clears with
    | false => simp [AgentMetadataReport.apply, hclears, AgentMetadataReport.replacement,
        AgentMetadata.expiry, httl] at hdeadline
    | true =>
      rw [AgentMetadataReport.apply, if_pos hclears] at hvisible hdeadline ⊢
      cases hset : report.hasSetFields with
      | true => simp [AgentMetadataReport.update, AgentMetadata.expiry, hset, httl] at hdeadline
      | false =>
        cases hlookup : found with
        | none =>
          simp [hlookup, AgentMetadataReport.update, AgentMetadataReport.blank,
            AgentMetadata.expiry, hset, httl] at hdeadline
        | some metadata =>
          -- New guards at most : the deadline and the flag are the old ones.
          subst hlookup
          obtain ⟨hold, hlive⟩ := lookup_dropExpired hfound
          rw [Option.getD_some] at hvisible hdeadline ⊢
          have hdeadline' : metadata.expiry = some deadline := by
            simpa [AgentMetadataReport.update, AgentMetadata.expiry, hset, httl] using hdeadline
          have hlt : now < deadline := by
            simpa [AgentMetadata.isExpired, hdeadline'] using hlive
          have hflag : (report.update now metadata).expiryEventPending =
              metadata.expiryEventPending := by
            simp [AgentMetadataReport.update, hset, httl]
          rw [hflag]
          cases hbefore : p.terminal.agentMetadataIsVisibleIgnoringTtl metadata with
          | true =>
            exact (hsettled metadata (mem_metadataValues_of_lookup hold)).2 hbefore deadline
              hdeadline'
          | false =>
            exact absurd ⟨hfresh, hclears, hset, httl, metadata, hold, ⟨deadline, hdeadline', hlt⟩,
              hbefore, hvisible⟩ hstep.not_reveals

theorem mem_storeReport {now : ℤ} (hm : m ∈ (p.storeReport report now).metadataValues) :
    m = p.reportedMetadata report now ∨ m ∈ p.metadataValues := by
  unfold storeReport metadataValues at hm
  rw [AList.entries_insert, List.map_cons, List.mem_cons] at hm
  exact hm.imp_right fun hm => ((List.kerase_sublist _ _).map _).subset hm

/-- Storing a report over settled metadata. -/
theorem armed_storeReport {now : ℤ} (hsettled : ∀ m ∈ p.metadataValues, p.terminal.Settled now m)
    (hstored :
      p.terminal.FlagsExpiry now ((p.dropExpired report.source now).reportedMetadata report now))
    (hannounced : p.effectivePresentation now = announced) {q : PresentedTerminal}
    {change : Option EffectiveStateChange}
    (hq : ((p.dropExpired report.source now).storeReport report now).recomputeEffectiveState
      ((p.dropExpired report.source now).previous now true) now = (q, change)) :
    Armed q ((change.map (·.presentation)).getD announced) now := by
  have hflags : ∀ m ∈ ((p.dropExpired report.source now).storeReport report now).metadataValues,
      (p.dropExpired report.source now).terminal.FlagsExpiry now m := by
    intro m hm
    rw [terminal_dropExpired]
    rcases mem_storeReport hm with rfl | hm
    · exact hstored
    · exact (hsettled m (mem_of_mem_dropExpired hm)).2
  have hprevious : ((p.dropExpired report.source now).previous now true).presentation = announced :=
    (effectivePresentation_dropExpired p report.source now).trans hannounced
  have harmed := armed_recompute hflags hprevious
  rwa [hq] at harmed

theorem armed_setAgentMetadata {now : ℤ} (h : Armed p announced clock) (hclock : clock ≤ now)
    (hstep : p.Announced (.metadata report now)) :
    Armed ((p.setAgentMetadata report now).getD (p, none)).1
      ((((p.setAgentMetadata report now).getD (p, none)).2.map (·.presentation)).getD
        announced) now := by
  unfold setAgentMetadata
  rcases acceptMetadataReport_cases p.terminal report.source report.seq with
    ⟨-, haccept⟩ | ⟨hfresh, sequences, haccept⟩
  · rw [haccept]
    exact h.mono hclock
  · have hdue : ¬ p.Overdue now := fun hdue => by
      have hquiet : p.terminal.metadataReportSequenceIsFresh report.source report.seq = false :=
        hstep.quiet_of_overdue hdue
      rw [hquiet] at hfresh
      cases hfresh
    have hsettled := h.settled hclock hdue
    have hstored := flagsExpiry_reportedMetadata hsettled hfresh hstep
    rw [haccept]
    simp only
    -- The sequence that was stored is not looked at again.
    generalize haccepted : ({ p with terminal := { p.terminal with
      metadataReportSequences := sequences } } : PresentedTerminal) = accepted
    have hsame : (accepted.dropExpired report.source now).reportedMetadata report now =
        (p.dropExpired report.source now).reportedMetadata report now := by
      subst haccepted
      unfold dropExpired
      split <;> rfl
    generalize hrecompute : recomputeEffectiveState _ _ now = result
    obtain ⟨q, change⟩ := result
    have harmed : Armed q ((change.map (·.presentation)).getD announced) now := by
      subst haccepted
      refine armed_storeReport (p := { p with terminal := { p.terminal with
        metadataReportSequences := sequences } }) hsettled ?_
          (h.effectivePresentation_eq hclock hdue) hrecompute
      rw [hsame]
      exact hstored
    simp only [Option.getD_some]
    split
    · rwa [clear_eq_self harmed.visible_of_pending]
    · exact harmed

/-! ## Expiries -/

theorem metadataValues_filter (terminal : TerminalState) (metadata : Assoc String AgentMetadata)
    (keep : AgentMetadata → Bool) :
    metadataValues ⟨terminal, metadata.filterWithKey fun _ m => keep m⟩ =
      (metadataValues ⟨terminal, metadata⟩).filter keep := by
  simp [metadataValues, Assoc.filterWithKey, List.filter_map, Function.comp_def]

/-- Of the metadata in view what is not stale at the next expiry is what `shows`. -/
theorem visible_and_not_stale {readAt now deadline : ℤ} (h : Armed p announced clock)
    (hread : clock ≤ readAt) (hnow : readAt ≤ now)
    (hnext : p.nextAgentMetadataExpiry readAt = some deadline) (hm : m ∈ p.metadataValues) :
    (!(m.expiry.any fun d => decide (d ≤ now) && decide (d < deadline)) &&
        p.terminal.agentMetadataIsVisibleIgnoringTtl m) = p.terminal.shows m := by
  unfold TerminalState.shows
  cases hvisible : p.terminal.agentMetadataIsVisibleIgnoringTtl m with
  | false => simp
  | true =>
    cases hexpiry : m.expiry with
    | none => simp
    | some d =>
      cases hpending : m.expiryEventPending with
      | true =>
        rw [TerminalState.agentMetadataIsVisibleIgnoringTtl, Bool.and_eq_true] at hvisible
        obtain ⟨next, hnext', hle⟩ :=
          next_le_of_pending readAt hm hvisible.2 hpending hexpiry
        rw [hnext, Option.some.injEq] at hnext'
        subst hnext'
        simp [hle]
      | false =>
        obtain ⟨hpast, hearlier⟩ := h.past m hm hvisible hpending d hexpiry
        have hlt : d < deadline := by
          obtain ⟨-, hlater | ⟨m', hm', hpending', hexpiry'⟩⟩ := next_eq_some hnext
          · omega
          · exact hearlier m' hm' hpending' deadline hexpiry'
        simp [hlt, hpast.trans (hread.trans hnow)]

theorem armed_expireAgentMetadataAt {readAt now deadline : ℤ} (h : Armed p announced clock)
    (hread : clock ≤ readAt) (hnow : readAt ≤ now)
    (hnext : p.nextAgentMetadataExpiry readAt = some deadline) (hdeadline : deadline ≤ now) :
    Armed (p.expireAgentMetadataAt deadline now).1
      (((p.expireAgentMetadataAt deadline now).2.map (·.presentation)).getD announced) now := by
  unfold expireAgentMetadataAt
  simp only
  have hdue : (p.metadataValues.any fun m =>
      m.expiry.any fun d => decide (d ≤ now) && decide (deadline ≤ d)) = true := by
    obtain ⟨⟨m, hm, hexpiry⟩, -⟩ := next_eq_some hnext
    exact List.any_eq_true.2 ⟨m, hm, by simp [hexpiry, hdeadline]⟩
  rw [hdue, Bool.not_true, if_neg Bool.false_ne_true]
  refine armed_recompute (fun m hm hvisible d hd => ?_) ?_
  · rw [metadataValues_filter, metadataValues_filter, List.mem_filter, List.mem_filter] at hm
    obtain ⟨⟨hm, hstale⟩, hkept⟩ := hm
    simp only [show m.expiry = some d from hd, Option.any_some, Bool.not_eq_true',
      Bool.and_eq_false_iff, decide_eq_false_iff_not] at hstale hkept
    have hlt : now < d := by omega
    refine ⟨fun _ => hlt, fun _ => ?_⟩
    by_contra hpending
    rw [Bool.not_eq_true] at hpending
    have hle := (h.past m hm hvisible hpending d hd).1
    omega
  · -- With the time to live ignored, what the expiry compares is what was announced.
    rw [h.announced_eq]
    unfold previous presentationWithTtl
    simp only
    rw [metadataValues_filter, List.filter_filter]
    congr 1
    refine List.filter_congr fun m hm => ?_
    rw [TerminalState.agentMetadataIsValid_eq, Bool.false_and, Bool.not_false, Bool.and_true,
      Bool.and_comm]
    exact visible_and_not_stale h hread hnow hnext hm

end PresentedTerminal

/-! ## Runs -/

namespace PresentationWatch

variable {w : PresentationWatch} {event : PresentationEvent}

/-- One step : the invariant is kept by a step whose change is announced. -/
theorem armed_step (h : Armed w.presented w.announced w.clock) (htimely : w.Timely event)
    (hstep : w.presented.Announced event) :
    Armed (w.step event).presented (w.step event).announced (w.step event).clock := by
  cases event with
  | metadata report now => exact PresentedTerminal.armed_setAgentMetadata h htimely hstep
  | owner event => exact PresentedTerminal.armed_handleOwner h htimely hstep
  | expire readAt now =>
    obtain ⟨hread, hnow⟩ := htimely
    suffices hperform : Armed (w.presented.perform (.expire readAt now)).1
        (((w.presented.perform (.expire readAt now)).2.map (·.presentation)).getD w.announced) now
      from hperform
    unfold PresentedTerminal.perform
    simp only
    split
    · rename_i deadline hnext
      split
      · rename_i hdeadline
        exact PresentedTerminal.armed_expireAgentMetadataAt h hread hnow hnext hdeadline
      · exact h.mono (hread.trans hnow)
    · exact h.mono (hread.trans hnow)

theorem armed_start (s : TerminalState) (clock : ℤ) :
    Armed (start s clock).presented (start s clock).announced (start s clock).clock where
  visible_of_pending m hm := by cases hm
  past m hm := by cases hm
  announced_eq := rfl

/-- A whole run : the announced presentation is the effective one whenever no expiry is due. -/
theorem announced_up_to_date (s : TerminalState) (clock : ℤ) (events : List PresentationEvent)
    (hevents : Along step (fun w event => w.Timely event ∧ w.presented.Announced event)
      (start s clock) events) :
    (run step (start s clock) events).UpToDate := by
  have harmed := run_induction
    (I := fun _ w => Armed w.presented w.announced w.clock) (armed_start s clock)
    (fun _ w event h hstep => armed_step h hstep.1 hstep.2) events hevents
  exact fun now hnow hdue => (harmed.effectivePresentation_eq hnow hdue).symm

/-! ## Steps that are not announced -/

instance (p : PresentedTerminal) (now : ℤ) : Decidable (p.Overdue now) :=
  inferInstanceAs (Decidable (∃ deadline ∈ p.nextAgentMetadataExpiry now, deadline ≤ now))

instance (p : PresentedTerminal) : DecidablePred p.Quiet
  | .metadata _ _ => inferInstanceAs (Decidable (_ = false))
  | .owner _ => inferInstanceAs (Decidable (_ = _))
  | .expire _ _ => .isTrue trivial

instance (p : PresentedTerminal) : DecidablePred p.Reveals
  | .metadata _ _ => inferInstanceAs (Decidable (_ ∧ _))
  | .owner _ => inferInstanceAs (Decidable (∃ _ ∈ p.metadataValues, _))
  | .expire _ _ => .isFalse id

instance (p : PresentedTerminal) : DecidablePred p.ShowsExpired
  | .metadata _ _ => inferInstanceAs (Decidable (_ ∧ _))
  | .owner _ => .isFalse id
  | .expire _ _ => .isFalse id

instance (p : PresentedTerminal) (event : PresentationEvent) : Decidable (p.Announced event) :=
  decidable_of_iff ((p.Overdue event.time → p.Quiet event) ∧ ¬ p.Reveals event ∧
    ¬ p.ShowsExpired event) ⟨fun h => ⟨h.1, h.2.1, h.2.2⟩, fun h => ⟨h.1, h.2, h.3⟩⟩

instance (w : PresentationWatch) : DecidablePred w.Timely
  | .metadata _ _ => inferInstanceAs (Decidable (_ ≤ _))
  | .owner _ => inferInstanceAs (Decidable (_ ≤ _))
  | .expire _ _ => inferInstanceAs (Decidable (_ ∧ _))

/-- Claude reports that it works. -/
def claudeWorks (now : ℤ) : PresentationEvent :=
  .owner (.hookReport "zynk:claude" "claude" .working none none none now)

def titled (source title : String) (agentLabel : Option String) (ttl : Option ℕ) (now : ℤ) :
    PresentationEvent :=
  .metadata { source, agentLabel, title := some title, ttl } now

/-- A title is shown for its time, and taken back. -/
theorem announced_up_to_date_title :
    (run step (start {} 0) [claudeWorks 1, titled "user:status" "deploying" "claude" (some 10) 2,
      claudeWorks 3, .expire 3 12]).UpToDate :=
  announced_up_to_date {} 0 _ (by decide +kernel)

theorem not_upToDate {w : PresentationWatch} (now : ℤ) (hnow : w.clock ≤ now)
    (hdue : ¬ w.presented.Overdue now)
    (htitle : w.announced.title ≠ (w.presented.effectivePresentation now).title) : ¬ w.UpToDate :=
  fun h => htitle (congrArg EffectivePresentation.title (h now hnow hdue))

/-- A title for Claude is reported with a time to live, and then Claude reports. The title is shown
from then on, is over at its time, and no expiry takes it back. -/
theorem revealed_title_stays :
    let events := [titled "user:status" "deploying" "claude" (some 10) 1, claudeWorks 2]
    Along step Timely (start {} 0) events ∧ ¬ (run step (start {} 0) events).UpToDate :=
  ⟨by decide +kernel, not_upToDate 20 (by decide +kernel) (by decide +kernel) (by decide +kernel)⟩

/-- A title that is over is replaced, before its expiry, by one that no guard lets into view. -/
example :
    let events := [titled "user:status" "deploying" none (some 10) 1,
      titled "user:status" "reviewing" "codex" none 20]
    Along step Timely (start {} 0) events ∧ ¬ (run step (start {} 0) events).UpToDate :=
  ⟨by decide +kernel, not_upToDate 20 (by decide +kernel) (by decide +kernel) (by decide +kernel)⟩

end PresentationWatch

end Zynk
