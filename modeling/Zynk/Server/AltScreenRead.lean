import Zynk.Lib.Run
import Zynk.Terminal.HistoryRead

/-!
# Reads of an alternate screen

`server/alt_screen_read.rs` : a program on the alternate screen keeps its history to itself, so a
read scrolls it up with the mouse wheel, collects the rows that come in, and scrolls it back down. A
read is polled with the time and the runtime of its terminal. `poll` and `abort` consume it and
give back what is left of it, or nothing once they have sent its response.

What a call reads from the runtime is an `Observation`, in which every read has a field of its own,
since the program writes while the call goes on. Times are in nanoseconds. Left out are the pause of
the screen detection, which the read holds as long as it lives, and the log.
-/

namespace Zynk.Server

open Text Terminal

/-! ## The read -/

def millis (n : ℕ) : ℕ :=
  n * 1000000

def initialQuiet : ℕ := millis 10

def outputQuiet : ℕ := millis 10

def stepTimeout : ℕ := millis 120

def maxDuration : ℕ := millis 15000

def maxRestoreDuration : ℕ := millis 5000

def wheelStepEvents : ℕ := 3

inductive Phase where
  | settleInitial
  | probeBottom
  | restoreProbe
  | harvest
  | restore
  deriving DecidableEq, Repr

inductive ReadSource where
  | visible
  | recent
  | recentUnwrapped
  | detection
  deriving DecidableEq, Repr

inductive ReadFormat where
  | text
  | ansi
  deriving DecidableEq, Repr

structure PaneReadResult where
  paneId : Text
  workspaceId : Text
  tabId : Text
  source : ReadSource
  format : ReadFormat
  text : Text
  revision : ℕ
  truncated : Bool
  deriving DecidableEq, Repr

/-- What is sent to the client. -/
inductive ReadResponse where
  | fallback (response : Text)
  | paneRead (id : Text) (read : PaneReadResult)
  deriving DecidableEq, Repr

structure PendingAltScreenRead where
  requestId : Text
  fallbackResponse : Text
  read : PaneReadResult
  lines : ℕ
  unwrap : Bool
  initial : ScreenSnapshot
  previous : ScreenSnapshot
  history : List ScreenTextRow
  phase : Phase
  nextPollAt : ℕ
  stepDeadline : ℕ
  outputQuietUntil : Option ℕ
  stepObservedOutput : Bool
  synchronizedRedrawPending : Bool
  startedAt : ℕ
  restoreStartedAt : Option ℕ
  observedContentSeq : ℕ
  upwardEvents : ℕ
  reachedTop : Bool
  valid : Bool
  deriving DecidableEq, Repr

/-! ## The runtime -/

inductive ActiveScreen where
  | primary
  | alternate
  deriving DecidableEq, Repr

inductive WheelRouting where
  | hostScroll
  | mouseReport
  | alternateScroll
  deriving DecidableEq, Repr

inductive WheelKind where
  | scrollUp
  | scrollDown
  deriving DecidableEq, Repr

/-- What a call reads from the runtime, in the order it can read it. -/
structure Observation where
  contentSeq : ℕ
  /-- `synchronized_output_active`, where the content has changed. -/
  synchronizedAtChange : Bool
  /-- `synchronized_output_active`, once the output is quiet. -/
  synchronized : Bool
  snapshot : Option (ActiveScreen × ScreenSnapshot × ℕ)
  /-- `content_seq`, where there is no snapshot. -/
  seqWithoutSnapshot : ℕ
  /-- `content_seq`, behind the snapshot. -/
  seqAfterSnapshot : ℕ
  /-- `content_seq`, where the way back starts without a snapshot. -/
  seqAtRestore : ℕ
  wheelRouting : Option WheelRouting
  encodeMouseWheel : WheelKind → ℕ → ℕ → Option Bytes
  trySendBytes : Bytes → Bool

/-- What is left of the read, what was sent to the client and what was written to the terminal. -/
structure PollOutcome where
  next : Option PendingAltScreenRead
  responses : List ReadResponse := []
  written : List Bytes := []

def sendWheel (runtime : Observation) (kind : WheelKind) (events : ℕ) (snapshot : ScreenSnapshot) :
    Option Bytes :=
  if runtime.wheelRouting ≠ some .mouseReport then none
  else
    let column := (snapshot.cols - 1) / 2
    let row := (snapshot.rows.length - 1) / 2
    match runtime.encodeMouseWheel kind column (if row < 2 ^ 16 then row else 0) with
    | none => none
    | some event =>
      let bytes := (List.replicate events event).flatten
      if runtime.trySendBytes bytes then some bytes else none

namespace PendingAltScreenRead

def start (requestId fallbackResponse : Text) (read : PaneReadResult) (lines : ℕ) (unwrap : Bool)
    (initial : ScreenSnapshot) (contentSeq now : ℕ) : PendingAltScreenRead where
  requestId
  fallbackResponse
  read
  lines
  unwrap
  initial
  previous := initial
  history := initial.rows
  phase := .settleInitial
  nextPollAt := now + initialQuiet
  stepDeadline := now + initialQuiet
  outputQuietUntil := none
  stepObservedOutput := false
  synchronizedRedrawPending := false
  startedAt := now
  restoreStartedAt := none
  observedContentSeq := contentSeq
  upwardEvents := 0
  reachedTop := false
  valid := true

/-! ## The ends of a call -/

/-- `Some(self)`. -/
def waits (self : PendingAltScreenRead) : PollOutcome :=
  { next := some self }

def completeFallback (self : PendingAltScreenRead) : PollOutcome :=
  { next := none, responses := [.fallback self.fallbackResponse] }

def completeSuccess (self : PendingAltScreenRead) : PollOutcome :=
  let truncated := !self.reachedTop || self.lines < self.history.length
  let snapshot := snapshotText self.history self.lines self.unwrap truncated
  { next := none
    responses := [.paneRead self.requestId
      { self.read with text := snapshot.text, truncated := snapshot.truncated }] }

def armStep (self : PendingAltScreenRead) (baselineSeq now : ℕ) : PendingAltScreenRead :=
  { self with
    observedContentSeq := baselineSeq
    outputQuietUntil := none
    stepObservedOutput := false
    synchronizedRedrawPending := false
    nextPollAt := now + stepTimeout
    stepDeadline := now + stepTimeout }

/-- The wheel is turned and the read goes on, or it falls back. -/
def afterWheel (self : PendingAltScreenRead) (runtime : Observation) (kind : WheelKind)
    (events : ℕ) (snapshot : ScreenSnapshot) (next : PendingAltScreenRead) : PollOutcome :=
  match sendWheel runtime kind events snapshot with
  | none => self.completeFallback
  | some bytes => { next := some next, written := [bytes] }

def startHarvest (self : PendingAltScreenRead) (runtime : Observation) (now baselineSeq : ℕ) :
    PollOutcome :=
  self.afterWheel runtime .scrollUp wheelStepEvents self.previous
    ({ self with
      upwardEvents := self.upwardEvents + wheelStepEvents, phase := .harvest }.armStep
        baselineSeq now)

def startRestore (self : PendingAltScreenRead) (runtime : Observation) (now : ℕ)
    (baselineSeq : Option ℕ) : PollOutcome :=
  if self.upwardEvents = 0 then self.completeFallback
  else
    self.afterWheel runtime .scrollDown self.upwardEvents self.previous
      ({ self with phase := .restore, restoreStartedAt := some now }.armStep
        (baselineSeq.getD runtime.seqAtRestore) now)

/-! ## `poll` -/

/-- The read has to come to rest before it looks at the screen. The error is the end of the call. -/
def noteContent (self : PendingAltScreenRead) (runtime : Observation) (now : ℕ)
    (traversalExpired : Bool) : Except PollOutcome PendingAltScreenRead :=
  if runtime.contentSeq ≠ self.observedContentSeq then
    let self :=
      { self with observedContentSeq := runtime.contentSeq, stepObservedOutput := true }
    if self.synchronizedRedrawPending && !runtime.synchronizedAtChange then
      .ok { self with synchronizedRedrawPending := false, outputQuietUntil := none }
    else
      let self := { self with outputQuietUntil := some (now + outputQuiet) }
      if !traversalExpired then .error self.waits else .ok self
  else .ok self

def awaitQuiet (self : PendingAltScreenRead) (runtime : Observation) (now : ℕ)
    (traversalExpired : Bool) : Except PollOutcome PendingAltScreenRead :=
  if !traversalExpired && self.outputQuietUntil.any (now < ·) then .error self.waits
  else
    let self := { self with outputQuietUntil := none }
    if !traversalExpired && runtime.synchronized then
      .error { self with
        synchronizedRedrawPending := true, nextPollAt := now + outputQuiet }.waits
    else if !decide (self.stepDeadline ≤ now) && !self.stepObservedOutput then .error self.waits
    else .ok self

def takeSnapshot (self : PendingAltScreenRead) (runtime : Observation) (now : ℕ)
    (traversalExpired : Bool) :
    Except PollOutcome (PendingAltScreenRead × ScreenSnapshot × ℕ) :=
  match runtime.snapshot with
  | none =>
    if traversalExpired then .error self.completeFallback
    else
      .error { self with
        observedContentSeq := runtime.seqWithoutSnapshot
        stepObservedOutput := false
        outputQuietUntil := none
        nextPollAt := now + outputQuiet }.waits
  | some (screen, snapshot, snapshotSeq) =>
    if runtime.seqAfterSnapshot ≠ snapshotSeq then
      .error { self with
        observedContentSeq := snapshotSeq
        stepObservedOutput := false
        nextPollAt := now + outputQuiet }.waits
    else if screen ≠ .alternate || snapshot.cols ≠ self.initial.cols ||
        snapshot.rows.length ≠ self.initial.rows.length then
      .error self.completeFallback
    else .ok (self, snapshot, snapshotSeq)

/-- What `poll` does before it looks at the phase. -/
def settle (self : PendingAltScreenRead) (runtime : Observation) (now : ℕ)
    (traversalExpired : Bool) :
    Except PollOutcome (PendingAltScreenRead × ScreenSnapshot × ℕ) := do
  let self ← self.noteContent runtime now traversalExpired
  let self ← self.awaitQuiet runtime now traversalExpired
  self.takeSnapshot runtime now traversalExpired

def restoreBatchSize (snapshot : ScreenSnapshot) : ℕ :=
  max (snapshot.rows.length / 2) 1

/-- The `match` on the phase. -/
def advance (self : PendingAltScreenRead) (runtime : Observation) (now : ℕ)
    (traversalExpired : Bool) (snapshot : ScreenSnapshot) (snapshotSeq : ℕ) : PollOutcome :=
  let stepExpired := decide (self.stepDeadline ≤ now)
  let outputObserved := self.stepObservedOutput
  match self.phase with
  | .settleInitial =>
    if outputObserved || !snapshot.similarText self.initial then
      { self with
        initial := snapshot
        previous := snapshot
        history := snapshot.rows
        observedContentSeq := snapshotSeq
        stepObservedOutput := false
        nextPollAt := now + initialQuiet
        stepDeadline := now + initialQuiet }.waits
    else
      self.afterWheel runtime .scrollDown wheelStepEvents snapshot
        ({ self with phase := .probeBottom }.armStep snapshotSeq now)
  | .probeBottom =>
    let atBottom := snapshot.similarText self.initial
    if outputObserved && atBottom && !stepExpired && !traversalExpired then
      { self with stepObservedOutput := false }.waits
    else if atBottom then
      if self.valid then self.startHarvest runtime now snapshotSeq else self.completeFallback
    else
      self.afterWheel runtime .scrollUp wheelStepEvents snapshot
        ({ self with phase := .restoreProbe, restoreStartedAt := some now }.armStep snapshotSeq now)
  | .restoreProbe =>
    if snapshot.similarText self.initial then self.completeFallback
    else
      let self := { self with stepObservedOutput := false }
      if stepExpired then
        { self with nextPollAt := now + stepTimeout, stepDeadline := now + stepTimeout }.waits
      else self.waits
  | .harvest =>
    let (merge, history) := mergeScrolledUp self.history self.previous snapshot
    let self := { self with history }
    match merge with
    | .advanced _ =>
      let self := { self with previous := snapshot }
      if self.lines ≤ self.history.length then
        self.startRestore runtime now (some snapshotSeq)
      else self.startHarvest runtime now snapshotSeq
    | .unchanged =>
      if stepExpired then
        { self with reachedTop := true }.startRestore runtime now (some snapshotSeq)
      else { self with stepObservedOutput := false }.waits
    | .unaligned =>
      if stepExpired then
        { self with valid := false }.startRestore runtime now (some snapshotSeq)
      else { self with stepObservedOutput := false }.waits
  | .restore =>
    if snapshot.similarText self.initial then
      if self.valid then self.completeSuccess else self.completeFallback
    else if stepExpired || !snapshot.similarText self.previous then
      self.afterWheel runtime .scrollDown (restoreBatchSize snapshot) snapshot
        ({ self with previous := snapshot }.armStep snapshotSeq now)
    else { self with stepObservedOutput := false }.waits

def restoreExpired (self : PendingAltScreenRead) (now : ℕ) : Bool :=
  self.restoreStartedAt.any fun started => maxRestoreDuration ≤ now - started

def traversalExpired (self : PendingAltScreenRead) (now : ℕ) : Bool :=
  decide (maxDuration ≤ now - self.startedAt) &&
    match self.phase with
    | .settleInitial | .probeBottom | .harvest => true
    | _ => false

def poll (self : PendingAltScreenRead) (runtime : Option Observation) (now : ℕ) : PollOutcome :=
  match runtime with
  | none => self.completeFallback
  | some runtime =>
    if self.restoreExpired now then self.completeFallback
    else
      let traversalExpired := self.traversalExpired now
      let self := if traversalExpired then { self with valid := false } else self
      if traversalExpired && self.phase = .settleInitial then self.completeFallback
      else if traversalExpired && self.phase = .harvest then self.startRestore runtime now none
      else
        match self.settle runtime now traversalExpired with
        | .error outcome => outcome
        | .ok (self, snapshot, snapshotSeq) =>
          self.advance runtime now traversalExpired snapshot snapshotSeq

def abort (self : PendingAltScreenRead) (runtime : Option Observation) (now : ℕ) : PollOutcome :=
  let self := { self with valid := false }
  match self.phase with
  | .settleInitial => self.completeFallback
  | .harvest =>
    match runtime with
    | some runtime => self.startRestore runtime now none
    | none => self.completeFallback
  | .probeBottom | .restoreProbe | .restore => self.poll runtime now

/-! ## What is left of a read -/

/-- The step compares a screen with the one before it, and they have no rows in common. -/
def Unaligned (self : PendingAltScreenRead) (now : ℕ) (snapshot : ScreenSnapshot) : Prop :=
  self.phase = .harvest ∧ self.stepDeadline ≤ now ∧
    (mergeScrolledUp self.history self.previous snapshot).1 = .unaligned

/-- What is left of a read by a call. `spoiled` says that the call leaves it without a result, and
`late` that it comes at its time limit. -/
structure Left (before : PendingAltScreenRead) (spoiled late : Prop)
    (next : PendingAltScreenRead) : Prop where
  startedAt : next.startedAt = before.startedAt
  valid : next.valid = true → before.valid = true ∧ ¬ spoiled
  /-- What was read ends in the initial screen. -/
  history : before.initial.rows <:+ before.history → next.initial.rows <:+ next.history
  late : late → next.phase ≠ .settleInitial ∧ next.phase ≠ .harvest

/-- A call that falls back, or leaves a read with `P`. -/
def GoesOn (P : PendingAltScreenRead → Prop) (outcome : PollOutcome) : Prop :=
  (∃ response, outcome = { next := none, responses := [.fallback response] }) ∨
    ∃ next written, outcome = { next := some next, written } ∧ P next

/-- The fields that only say when to look at the screen. -/
def Kept (self next : PendingAltScreenRead) : Prop :=
  ∃ nextPollAt outputQuietUntil stepObservedOutput synchronizedRedrawPending observedContentSeq,
    next = { self with
      nextPollAt, outputQuietUntil, stepObservedOutput, synchronizedRedrawPending,
      observedContentSeq }

variable {self next : PendingAltScreenRead} {P : PendingAltScreenRead → Prop} {runtime : Observation}
  {now : ℕ}

theorem goesOn_fallback : GoesOn P self.completeFallback :=
  .inl ⟨_, rfl⟩

theorem goesOn_waits (h : P self) : GoesOn P self.waits :=
  .inr ⟨self, [], rfl, h⟩

theorem goesOn_afterWheel {kind : WheelKind} {events : ℕ} {snapshot : ScreenSnapshot}
    (h : P next) : GoesOn P (self.afterWheel runtime kind events snapshot next) := by
  rw [afterWheel]
  split
  · exact goesOn_fallback
  · exact .inr ⟨next, _, rfl, h⟩

theorem goesOn_startRestore {baselineSeq : Option ℕ}
    (h : P ({ self with phase := .restore, restoreStartedAt := some now }.armStep
      (baselineSeq.getD runtime.seqAtRestore) now)) :
    GoesOn P (self.startRestore runtime now baselineSeq) := by
  rw [startRestore]
  split
  · exact goesOn_fallback
  · exact goesOn_afterWheel h

theorem GoesOn.mono {Q : PendingAltScreenRead → Prop} {outcome : PollOutcome} (h : GoesOn P outcome)
    (hPQ : ∀ next, P next → Q next) : GoesOn Q outcome := by
  rcases h with hfallback | ⟨next, written, houtcome, hnext⟩
  · exact .inl hfallback
  · exact .inr ⟨next, written, houtcome, hPQ next hnext⟩

theorem Kept.trans {last : PendingAltScreenRead} (h : Kept self next) (h' : Kept next last) :
    Kept self last := by
  obtain ⟨_, _, _, _, _, rfl⟩ := h
  obtain ⟨a, b, c, d, e, rfl⟩ := h'
  exact ⟨a, b, c, d, e, rfl⟩

theorem noteContent_cases (self : PendingAltScreenRead) (runtime : Observation) (now : ℕ)
    (expired : Bool) :
    ∃ next, Kept self next ∧ (self.noteContent runtime now expired = .error next.waits ∨
      self.noteContent runtime now expired = .ok next) := by
  simp only [noteContent]
  split_ifs
  · exact ⟨_, ⟨_, _, _, _, _, rfl⟩, .inr rfl⟩
  · exact ⟨_, ⟨_, _, _, _, _, rfl⟩, .inl rfl⟩
  · exact ⟨_, ⟨_, _, _, _, _, rfl⟩, .inr rfl⟩
  · exact ⟨self, ⟨_, _, _, _, _, rfl⟩, .inr rfl⟩

theorem awaitQuiet_cases (self : PendingAltScreenRead) (runtime : Observation) (now : ℕ)
    (expired : Bool) :
    ∃ next, Kept self next ∧ (self.awaitQuiet runtime now expired = .error next.waits ∨
      self.awaitQuiet runtime now expired = .ok next) := by
  simp only [awaitQuiet]
  split_ifs
  · exact ⟨self, ⟨_, _, _, _, _, rfl⟩, .inl rfl⟩
  · exact ⟨_, ⟨_, _, _, _, _, rfl⟩, .inl rfl⟩
  · exact ⟨_, ⟨_, _, _, _, _, rfl⟩, .inl rfl⟩
  · exact ⟨_, ⟨_, _, _, _, _, rfl⟩, .inr rfl⟩

theorem takeSnapshot_cases (self : PendingAltScreenRead) (runtime : Observation) (now : ℕ)
    (expired : Bool) :
    (∃ outcome, self.takeSnapshot runtime now expired = .error outcome ∧
      GoesOn (Kept self) outcome) ∨
      ∃ snapshot seq, self.takeSnapshot runtime now expired = .ok (self, snapshot, seq) ∧
        runtime.snapshot = some (.alternate, snapshot, seq) := by
  rw [takeSnapshot]
  rcases hsnapshot : runtime.snapshot with _ | ⟨screen, snapshot, seq⟩
  · refine .inl ?_
    simp only
    split_ifs
    · exact ⟨_, rfl, goesOn_fallback⟩
    · exact ⟨_, rfl, goesOn_waits ⟨_, _, _, _, _, rfl⟩⟩
  · simp only
    split_ifs with hmoved hscreen
    · exact .inl ⟨_, rfl, goesOn_waits ⟨_, _, _, _, _, rfl⟩⟩
    · exact .inl ⟨_, rfl, goesOn_fallback⟩
    · refine .inr ⟨snapshot, seq, rfl, ?_⟩
      cases screen <;> simp_all

/-- Before it looks at the phase, a call waits or falls back, or has a screen of the right size. -/
theorem settle_cases (self : PendingAltScreenRead) (runtime : Observation) (now : ℕ)
    (expired : Bool) :
    (∃ outcome, self.settle runtime now expired = .error outcome ∧ GoesOn (Kept self) outcome) ∨
      ∃ next snapshot seq, self.settle runtime now expired = .ok (next, snapshot, seq) ∧
        Kept self next ∧ runtime.snapshot = some (.alternate, snapshot, seq) := by
  rw [settle]
  obtain ⟨noted, hnoted, hnote | hnote⟩ := self.noteContent_cases runtime now expired
  · exact .inl ⟨_, by rw [hnote]; rfl, goesOn_waits hnoted⟩
  obtain ⟨quiet, hquiet, hawait | hawait⟩ := noted.awaitQuiet_cases runtime now expired
  · exact .inl ⟨_, by rw [hnote]; simp only [bind, Except.bind, hawait],
      goesOn_waits (hnoted.trans hquiet)⟩
  have hkept := hnoted.trans hquiet
  rcases quiet.takeSnapshot_cases runtime now expired with
    ⟨outcome, htake, houtcome⟩ | ⟨snapshot, seq, htake, hsnapshot⟩
  · exact .inl ⟨outcome, by rw [hnote]; simp only [bind, Except.bind, hawait, htake],
      houtcome.mono fun _ => hkept.trans⟩
  · exact .inr ⟨quiet, snapshot, seq,
      by rw [hnote]; simp only [bind, Except.bind, hawait, htake], hkept, hsnapshot⟩

/-- A step that changes neither what was read nor the phase. -/
theorem Left.of_same {spoiled late : Prop} (hstartedAt : next.startedAt = self.startedAt)
    (hvalid : next.valid = true → self.valid = true ∧ ¬ spoiled)
    (hinitial : next.initial = self.initial) (hhistory : self.history <:+ next.history)
    (hlate : late → next.phase ≠ .settleInitial ∧ next.phase ≠ .harvest) :
    Left self spoiled late next where
  startedAt := hstartedAt
  valid := hvalid
  history h := hinitial ▸ h.trans hhistory
  late := hlate

theorem advance_spec {late : Prop} (runtime : Observation) (now : ℕ) (expired : Bool)
    (snapshot : ScreenSnapshot) (seq : ℕ)
    (hlate : late → self.phase = .probeBottom ∧ self.valid = false ∨ self.phase = .restoreProbe ∨
      self.phase = .restore) :
    GoesOn (Left self (self.Unaligned now snapshot) late)
        (self.advance runtime now expired snapshot seq) ∨
      self.phase = .restore ∧ self.valid = true ∧ snapshot.similarText self.initial = true ∧
        self.advance runtime now expired snapshot seq = self.completeSuccess := by
  have hsame : ∀ next : PendingAltScreenRead, next.startedAt = self.startedAt →
      next.valid = self.valid → next.initial = self.initial → self.history <:+ next.history →
      self.phase ≠ .harvest → (late → next.phase ≠ .settleInitial ∧ next.phase ≠ .harvest) →
      Left self (self.Unaligned now snapshot) late next := fun next hs hv hi hh hp hl =>
    .of_same hs (fun h => ⟨hv ▸ h, fun hu => hp hu.1⟩) hi hh hl
  rw [advance]
  rcases hphase : self.phase
  case settleInitial =>
    have hnever : ¬ late := fun h => by simpa [hphase] using hlate h
    refine .inl ?_
    simp only
    split_ifs
    · exact goesOn_waits ⟨rfl, fun h => ⟨h, by simp [Unaligned, hphase]⟩,
        fun _ => List.suffix_refl _, fun h => absurd h hnever⟩
    · exact goesOn_afterWheel (hsame _ rfl rfl rfl (List.suffix_refl _) (by simp [hphase])
        fun h => absurd h hnever)
  case probeBottom =>
    have hother : self.phase ≠ .harvest := by simp [hphase]
    refine .inl ?_
    simp only
    split_ifs with hmoving hbottom hvalid
    · exact goesOn_waits (hsame _ rfl rfl rfl (List.suffix_refl _) hother
        fun _ => by simp)
    · exact goesOn_afterWheel (hsame _ rfl rfl rfl (List.suffix_refl _) hother
        fun h => by simpa [hphase, hvalid] using hlate h)
    · exact goesOn_fallback
    · exact goesOn_afterWheel (hsame _ rfl rfl rfl (List.suffix_refl _) hother
        fun _ => ⟨nofun, nofun⟩)
  case restoreProbe =>
    have hother : self.phase ≠ .harvest := by simp [hphase]
    refine .inl ?_
    simp only
    split_ifs
    · exact goesOn_fallback
    · exact goesOn_waits (hsame _ rfl rfl rfl (List.suffix_refl _) hother fun _ => by simp)
    · exact goesOn_waits (hsame _ rfl rfl rfl (List.suffix_refl _) hother fun _ => by simp)
  case harvest =>
    have hnever : ¬ late := fun h => by simpa [hphase] using hlate h
    refine .inl ?_
    rcases mergeScrolledUp_cases self.history self.previous snapshot with
      ⟨added, -, hmerge⟩ | hmerge | hmerge
    · have haligned : ¬ self.Unaligned now snapshot := by simp [Unaligned, hmerge]
      simp only [hmerge]
      split_ifs
      · exact goesOn_startRestore (.of_same rfl (fun h => ⟨h, haligned⟩) rfl
          (List.suffix_append _ _) fun h => absurd h hnever)
      · exact goesOn_afterWheel (.of_same rfl (fun h => ⟨h, haligned⟩) rfl
          (List.suffix_append _ _) fun h => absurd h hnever)
    · have haligned : ¬ self.Unaligned now snapshot := by simp [Unaligned, hmerge]
      simp only [hmerge]
      split_ifs
      · exact goesOn_startRestore (.of_same rfl (fun h => ⟨h, haligned⟩) rfl
          (List.suffix_refl _) fun h => absurd h hnever)
      · exact goesOn_waits (.of_same rfl (fun h => ⟨h, haligned⟩) rfl (List.suffix_refl _)
          fun h => absurd h hnever)
    · simp only [hmerge]
      split_ifs with hexpired
      · exact goesOn_startRestore (.of_same rfl nofun rfl (List.suffix_refl _)
          fun h => absurd h hnever)
      · have hwaits : ¬ self.Unaligned now snapshot := fun h => hexpired (by simpa using h.2.1)
        exact goesOn_waits (.of_same rfl (fun h => ⟨h, hwaits⟩) rfl (List.suffix_refl _)
          fun h => absurd h hnever)
  case restore =>
    have hother : self.phase ≠ .harvest := by simp [hphase]
    simp only
    split_ifs with hsimilar hvalid
    · exact .inr ⟨trivial, hvalid, hsimilar, rfl⟩
    · exact .inl goesOn_fallback
    · exact .inl (goesOn_afterWheel (hsame _ rfl rfl rfl (List.suffix_refl _) hother
        fun _ => by simp [armStep]))
    · exact .inl (goesOn_waits (hsame _ rfl rfl rfl (List.suffix_refl _) hother
        fun _ => by simp))

end PendingAltScreenRead

/-! ## Calls -/

/-- A call, with what it reads from the runtime if there is one, and the time. -/
inductive ReadCall where
  | poll (runtime : Option Observation) (now : ℕ)
  | abort (runtime : Option Observation) (now : ℕ)

namespace ReadCall

def now : ReadCall → ℕ
  | poll _ now => now
  | abort _ now => now

def outcome (self : PendingAltScreenRead) : ReadCall → PollOutcome
  | poll runtime now => self.poll runtime now
  | abort runtime now => self.abort runtime now

/-- An abort, the time limit of the way up, or a step that finds no rows in common with the screen
before it. -/
def Spoils (self : PendingAltScreenRead) : ReadCall → Prop
  | poll none _ => False
  | poll (some runtime) now =>
    self.traversalExpired now = true ∨ ∃ settled snapshot seq,
      self.settle runtime now false = .ok (settled, snapshot, seq) ∧ settled.Unaligned now snapshot
  | abort _ _ => True

/-- The call comes at the time limit of the way up, or behind it. -/
def Late (self : PendingAltScreenRead) (call : ReadCall) : Prop :=
  maxDuration ≤ call.now - self.startedAt

/-- What a successful call has seen : the screen is back where the read began. -/
structure Restored (before : PendingAltScreenRead) (call : ReadCall) : Prop where
  phase : before.phase = .restore
  valid : before.valid = true
  unspoiled : ¬ call.Spoils before
  similar : ∃ runtime now snapshot seq, call = .poll (some runtime) now ∧
    runtime.snapshot = some (.alternate, snapshot, seq) ∧
    snapshot.similarText before.initial = true

end ReadCall

namespace PendingAltScreenRead

variable {self : PendingAltScreenRead}

theorem left_of_kept {next last : PendingAltScreenRead} {spoiled spoiled' late : Prop}
    (hkept : Kept self next) (h : Left next spoiled late last)
    (hspoiled : next.valid = true → spoiled' → spoiled) : Left self spoiled' late last := by
  obtain ⟨_, _, _, _, _, rfl⟩ := hkept
  exact ⟨h.startedAt, fun hv => ⟨(h.valid hv).1, fun hs => (h.valid hv).2 (hspoiled (h.valid hv).1 hs)⟩,
    h.history, h.late⟩

/-- A poll behind the time limit of the way up leaves a read that is not valid and that is on its
way back, or nothing. -/
theorem poll_expired {runtime : Observation} {now : ℕ} {spoiled late : Prop}
    (hrestore : self.restoreExpired now ≠ true) (hexpired : self.traversalExpired now = true) :
    GoesOn (Left self spoiled late) (self.poll (some runtime) now) := by
  have hleft : ∀ next : PendingAltScreenRead, next.startedAt = self.startedAt →
      next.valid = false → next.initial = self.initial → self.history <:+ next.history →
      (next.phase ≠ .settleInitial ∧ next.phase ≠ .harvest) → Left self spoiled late next :=
    fun next hs hv hi hh hp => .of_same hs (fun h => by simp [hv] at h) hi hh fun _ => hp
  simp only [poll, if_neg hrestore, hexpired, if_true, Bool.true_and, decide_eq_true_eq]
  split_ifs with hsettle hharvest
  · exact goesOn_fallback
  · exact goesOn_startRestore (hleft _ rfl rfl rfl (List.suffix_refl _) ⟨nofun, nofun⟩)
  · have hprobe : self.phase = .probeBottom := by
      rcases hphase : self.phase <;> simp_all [traversalExpired]
    rcases settle_cases { self with valid := false } runtime now true with
      ⟨outcome, hsettled, hwaits⟩ | ⟨next, snapshot, seq, hsettled, hkept, -⟩
    · rw [hsettled]
      refine hwaits.mono fun next hkept => ?_
      obtain ⟨_, _, _, _, _, rfl⟩ := hkept
      exact hleft _ rfl rfl rfl (List.suffix_refl _) (by simp [hprobe])
    · rw [hsettled]
      obtain ⟨hphase, hinvalid⟩ : next.phase = .probeBottom ∧ next.valid ≠ true := by
        obtain ⟨_, _, _, _, _, rfl⟩ := hkept
        exact ⟨hprobe, Bool.false_ne_true⟩
      rcases next.advance_spec runtime now true snapshot seq fun _ : late =>
          .inl ⟨hphase, by simpa using hinvalid⟩ with hgoes | ⟨-, hvalid, -⟩
      · obtain ⟨_, _, _, _, _, rfl⟩ := hkept
        exact hgoes.mono fun last h =>
          ⟨h.startedAt, fun hv => absurd (h.valid hv).1 hinvalid, h.history, h.late⟩
      · exact absurd hvalid hinvalid

/-- What a poll comes to. -/
theorem poll_spec (self : PendingAltScreenRead) (runtime : Option Observation) (now : ℕ) :
    GoesOn (Left self ((ReadCall.poll runtime now).Spoils self)
        ((ReadCall.poll runtime now).Late self)) (self.poll runtime now) ∨
      ReadCall.Restored self (.poll runtime now) ∧
        self.poll runtime now = self.completeSuccess := by
  rcases runtime with _ | runtime
  · exact .inl goesOn_fallback
  by_cases hrestore : self.restoreExpired now = true
  · simp only [poll, if_pos hrestore]
    exact .inl goesOn_fallback
  by_cases hexpired : self.traversalExpired now = true
  · exact .inl (poll_expired hrestore hexpired)
  have hlate : (ReadCall.poll (some runtime) now).Late self →
      self.phase = .restoreProbe ∨ self.phase = .restore := fun h => by
    have hlong : maxDuration ≤ now - self.startedAt := h
    rcases hphase : self.phase <;> simp_all [traversalExpired]
  have hpoll : self.poll (some runtime) now =
      match self.settle runtime now false with
      | .error outcome => outcome
      | .ok (self, snapshot, seq) => self.advance runtime now false snapshot seq := by
    simp only [poll, if_neg hrestore, hexpired, Bool.false_and, if_false, Bool.false_eq_true]
  rw [hpoll]
  rcases self.settle_cases runtime now false with
    ⟨outcome, hsettled, hwaits⟩ | ⟨next, snapshot, seq, hsettled, hkept, hsnapshot⟩
  · rw [hsettled]
    have hunspoiled : ¬ (ReadCall.poll (some runtime) now).Spoils self := by
      simp [ReadCall.Spoils, hexpired, hsettled]
    refine .inl (hwaits.mono fun next hkept => ?_)
    obtain ⟨_, _, _, _, _, rfl⟩ := hkept
    refine .of_same rfl (fun h => ⟨h, hunspoiled⟩) rfl (List.suffix_refl _) fun h => ?_
    rcases hlate h with hphase | hphase <;> simp [hphase]
  · rw [hsettled]
    have hspoils : (ReadCall.poll (some runtime) now).Spoils self ↔ next.Unaligned now snapshot := by
      simp [ReadCall.Spoils, hexpired, hsettled]
    have hphase : (ReadCall.poll (some runtime) now).Late self →
        next.phase = .probeBottom ∧ next.valid = false ∨ next.phase = .restoreProbe ∨
          next.phase = .restore := fun h => by
      obtain ⟨_, _, _, _, _, rfl⟩ := hkept
      exact .inr (hlate h)
    rcases next.advance_spec runtime now false snapshot seq hphase with
      hgoes | ⟨hrestoring, hvalid, hsimilar, hsuccess⟩
    · exact .inl (hgoes.mono fun last h => left_of_kept hkept h fun _ => hspoils.1)
    · obtain ⟨_, _, _, _, _, rfl⟩ := hkept
      refine .inr ⟨⟨hrestoring, hvalid, fun h => ?_, runtime, now, snapshot, seq, rfl, hsnapshot,
        hsimilar⟩, hsuccess⟩
      have hharvest := (hspoils.1 h).1
      simp_all

/-- What an abort comes to : the read is not valid any more. -/
theorem abort_spec (self : PendingAltScreenRead) (runtime : Option Observation) (now : ℕ) :
    GoesOn (Left self True ((ReadCall.abort runtime now).Late self)) (self.abort runtime now) := by
  have hpoll : GoesOn (Left self True ((ReadCall.abort runtime now).Late self))
      ({ self with valid := false }.poll runtime now) := by
    rcases poll_spec { self with valid := false } runtime now with hgoes | ⟨hrestored, -⟩
    · exact hgoes.mono fun next h =>
        ⟨h.startedAt, fun hv => absurd (h.valid hv).1 Bool.false_ne_true, h.history, h.late⟩
    · exact absurd hrestored.valid Bool.false_ne_true
  simp only [abort]
  split
  · exact goesOn_fallback
  · rcases runtime with _ | runtime
    · exact goesOn_fallback
    · exact goesOn_startRestore (.of_same rfl nofun rfl (List.suffix_refl _)
        fun _ => ⟨nofun, nofun⟩)
  all_goals exact hpoll

/-- A read that takes too long on its way back is answered. -/
theorem poll_of_restoreExpired {now : ℕ} (h : self.restoreExpired now = true)
    (runtime : Option Observation) : self.poll runtime now = self.completeFallback := by
  rcases runtime with _ | runtime
  · rfl
  · simp [poll, h]

end PendingAltScreenRead

/-! ## Runs -/

/-- A read under the calls that are made on it, with all it has sent. -/
structure ReadRun where
  pending : Option PendingAltScreenRead
  responses : List ReadResponse := []

namespace ReadRun

/-- A call consumes the read, and there is none after the last one. -/
def step (r : ReadRun) (call : ReadCall) : ReadRun :=
  match r.pending with
  | none => r
  | some read =>
    let outcome := call.outcome read
    { pending := outcome.next, responses := r.responses ++ outcome.responses }

/-- The call is made on the read, and leaves it without a result. -/
def SpoiledBy (r : ReadRun) (call : ReadCall) : Prop :=
  ∃ read, r.pending = some read ∧ call.Spoils read

/-- A response is sent once, with the call that returns nothing. -/
def Answered (r : ReadRun) : Prop :=
  match r.pending with
  | none => ∃ response, r.responses = [response]
  | some _ => r.responses = []

/-- The next call on a read that began at `now` and has seen `calls`. -/
structure CallTruthful (now : ℕ) (first : ReadRun) (calls : List ReadCall)
    (read : PendingAltScreenRead) (call : ReadCall) : Prop where
  /-- It sends the response if it returns nothing, and no response otherwise. -/
  answered : ReadRun.Answered ⟨(call.outcome read).next, (call.outcome read).responses⟩
  /-- It sends the harvested rows only if the screen is back and nothing has spoiled the read. -/
  success : ∀ id result, .paneRead id result ∈ (call.outcome read).responses →
    call.Restored read ∧ read.initial.rows <:+ read.history ∧
      ¬ StepRun.Occurs step (fun _ => SpoiledBy) first calls
  /-- The way back takes no longer than its limit. -/
  restored : ∀ runtime later started, call = .poll runtime later →
    read.restoreStartedAt = some started → maxRestoreDuration ≤ later - started →
    (call.outcome read).next = none
  /-- The way up takes no longer than its limit. -/
  late : maxDuration ≤ call.now - now → ∀ next, (call.outcome read).next = some next →
    next.phase ≠ .settleInitial ∧ next.phase ≠ .harvest

/-- The read has answered once or not yet, and its next call is truthful. -/
structure Truthful (now : ℕ) (first : ReadRun) (calls : List ReadCall) : Prop where
  answered : (StepRun.run step first calls).Answered
  next : ∀ read, (StepRun.run step first calls).pending = some read →
    ∀ call, CallTruthful now first calls read call

/-! ### The invariant -/

structure Inv (now : ℕ) (first : ReadRun) (calls : List ReadCall) (r : ReadRun) : Prop where
  answered : r.Answered
  startedAt : ∀ read, r.pending = some read → read.startedAt = now
  history : ∀ read, r.pending = some read → read.initial.rows <:+ read.history
  valid : ∀ read, r.pending = some read → read.valid = true →
    ¬ StepRun.Occurs step (fun _ => SpoiledBy) first calls

variable {now : ℕ} {first r : ReadRun} {calls : List ReadCall}

theorem call_spec (read : PendingAltScreenRead) (call : ReadCall) :
    PendingAltScreenRead.GoesOn
        (PendingAltScreenRead.Left read (call.Spoils read) (call.Late read)) (call.outcome read) ∨
      call.Restored read ∧ call.outcome read = read.completeSuccess := by
  cases call with
  | poll runtime now => exact read.poll_spec runtime now
  | abort runtime now => exact .inl (read.abort_spec runtime now)

theorem inv_start {read : PendingAltScreenRead} (hstarted : read.startedAt = now)
    (hhistory : read.history = read.initial.rows) : Inv now first [] { pending := some read } where
  answered := rfl
  startedAt := by rintro _ ⟨⟩; exact hstarted
  history := by rintro _ ⟨⟩; exact hhistory ▸ List.suffix_refl _
  valid := by simp

/-- Nothing is left of the read. -/
theorem inv_answered (response : ReadResponse) :
    Inv now first calls { pending := none, responses := [response] } where
  answered := ⟨response, rfl⟩
  startedAt := by simp
  history := by simp
  valid := by simp

theorem inv_step (hr : r = StepRun.run step first calls) (h : Inv now first calls r)
    (call : ReadCall) : Inv now first (calls ++ [call]) (r.step call) := by
  rcases hpending : r.pending with _ | read
  · have hstep : r.step call = r := by simp [step, hpending]
    rw [hstep]
    exact ⟨h.answered, by simp [hpending], by simp [hpending], by simp [hpending]⟩
  have hresponses : r.responses = [] := by
    have hanswered := h.answered
    rwa [Answered, hpending] at hanswered
  have hstep : r.step call = ⟨(call.outcome read).next, (call.outcome read).responses⟩ := by
    simp [step, hpending, hresponses]
  rw [hstep]
  rcases call_spec read call with (⟨response, houtcome⟩ | ⟨next, written, houtcome, hleft⟩) |
    ⟨-, houtcome⟩
  · rw [houtcome]
    exact inv_answered _
  · rw [houtcome]
    refine ⟨rfl, ?_, ?_, ?_⟩
    · rintro _ ⟨⟩
      exact hleft.startedAt.trans (h.startedAt read hpending)
    · rintro _ ⟨⟩
      exact hleft.history (h.history read hpending)
    · rintro _ ⟨⟩ hvalid
      rw [StepRun.occurs_snoc, ← hr]
      rintro (hbefore | ⟨spoiled, hspoiled, hspoils⟩)
      · exact h.valid read hpending (hleft.valid hvalid).1 hbefore
      · obtain rfl : read = spoiled := Option.some.inj (hpending.symm.trans hspoiled)
        exact (hleft.valid hvalid).2 hspoils
  · rw [houtcome]
    exact inv_answered _

theorem Inv.callTruthful (h : Inv now first calls r) {read : PendingAltScreenRead}
    (hread : r.pending = some read) (call : ReadCall) : CallTruthful now first calls read call where
  answered := by
    rcases call_spec read call with (⟨response, houtcome⟩ | ⟨next, written, houtcome, -⟩) |
      ⟨-, houtcome⟩
    · exact houtcome ▸ ⟨_, rfl⟩
    · rw [houtcome]
      rfl
    · exact houtcome ▸ ⟨_, rfl⟩
  success id result hmem := by
    rcases call_spec read call with (⟨response, houtcome⟩ | ⟨next, written, houtcome, -⟩) |
      ⟨hrestored, -⟩
    · simp [houtcome] at hmem
    · simp [houtcome] at hmem
    · exact ⟨hrestored, h.history read hread, h.valid read hread hrestored.valid⟩
  restored runtime later started hcall hstarted hlong := by
    have hexpired : read.restoreExpired later = true := by
      simpa [PendingAltScreenRead.restoreExpired, hstarted] using hlong
    rw [hcall, ReadCall.outcome, PendingAltScreenRead.poll_of_restoreExpired hexpired]
    rfl
  late hlong next hnext := by
    have hlate : call.Late read := by
      rw [ReadCall.Late, h.startedAt read hread]
      exact hlong
    rcases call_spec read call with (⟨response, houtcome⟩ | ⟨left, written, houtcome, hleft⟩) |
      ⟨-, houtcome⟩
    · simp [houtcome] at hnext
    · obtain rfl : left = next := by simpa [houtcome] using hnext
      exact hleft.late hlate
    · simp [houtcome, PendingAltScreenRead.completeSuccess] at hnext

theorem inv_run {read : PendingAltScreenRead} (hstarted : read.startedAt = now)
    (hhistory : read.history = read.initial.rows) (calls : List ReadCall) :
    Inv now { pending := some read } calls (StepRun.run step { pending := some read } calls) := by
  induction calls using List.reverseRecOn with
  | nil => exact inv_start hstarted hhistory
  | append_singleton calls call ih =>
    rw [StepRun.run_snoc]
    exact inv_step rfl ih call

/-- Whatever calls are made on a read, it answers once and truthfully. -/
theorem alt_screen_read_truthful (requestId fallbackResponse : Text) (result : PaneReadResult)
    (lines : ℕ) (unwrap : Bool) (initial : ScreenSnapshot) (contentSeq now : ℕ)
    (calls : List ReadCall) :
    Truthful now
      { pending := some (PendingAltScreenRead.start requestId fallbackResponse result lines unwrap
          initial contentSeq now) } calls := by
  generalize hread : PendingAltScreenRead.start requestId fallbackResponse result lines unwrap
    initial contentSeq now = read
  have hinv := inv_run (show read.startedAt = now from hread ▸ rfl) (hread ▸ rfl) calls
  exact ⟨hinv.answered, fun read hread call => hinv.callTruthful hread call⟩

end ReadRun

end Zynk.Server
