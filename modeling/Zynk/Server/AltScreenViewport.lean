import Zynk.Server.AltScreenRead

/-!
# The viewport behind a read

A read that has scrolled a terminal up owes it the way down. `WheelRun` counts the wheel events that
are written : how many have gone up while harvesting, and how many have come down behind the last of
them. Every end of the way up goes through the way down, which begins with as many events as have
gone up, but one : a screen of another size is answered right away (`LooksResized`). So a read puts
the viewport back exactly if it never looks at such a screen while it is harvesting
(`WheelRun.viewport_restored_iff`).
-/

namespace Zynk.Server

open Text Terminal

/-! ## Wheel events -/

/-- What the program in the terminal makes of what is written to it. -/
abbrev ReadsWheel := Bytes → List WheelKind

/-- The runtime is present and on the alternate screen, every write of the wheel succeeds, and its
events are read one by one. -/
structure Obliges (reads : ReadsWheel) (runtime : Observation) : Prop where
  routing : runtime.wheelRouting = some .mouseReport
  encodes : ∀ kind column row, ∃ event, runtime.encodeMouseWheel kind column row = some event ∧
    ∀ rest, reads (event ++ rest) = kind :: reads rest
  sends : ∀ bytes, runtime.trySendBytes bytes = true
  alternate : ∀ screen snapshot seq, runtime.snapshot = some (screen, snapshot, seq) →
    screen = .alternate

def ReadCall.Obliged (reads : ReadsWheel) : ReadCall → Prop
  | .poll runtime _ => ∃ present, runtime = some present ∧ Obliges reads present
  | .abort runtime _ => ∃ present, runtime = some present ∧ Obliges reads present

/-- A poll while harvesting that comes to look at the screen, which has another size. -/
def ReadCall.LooksResized (read : PendingAltScreenRead) : ReadCall → Prop
  | .poll (some runtime) now =>
    read.phase = .harvest ∧ read.traversalExpired now = false ∧
      ∃ noted quiet screen snapshot, read.noteContent runtime now false = .ok noted ∧
        noted.awaitQuiet runtime now false = .ok quiet ∧
        runtime.snapshot = some (screen, snapshot, runtime.seqAfterSnapshot) ∧
        (snapshot.cols ≠ read.initial.cols ∨ snapshot.rows.length ≠ read.initial.rows.length)
  | _ => False

variable {reads : ReadsWheel} {runtime : Observation}

theorem reads_replicate {event : Bytes} {kind : WheelKind} (hnil : reads [] = [])
    (h : ∀ rest, reads (event ++ rest) = kind :: reads rest) (events : ℕ) :
    reads (List.replicate events event).flatten = List.replicate events kind := by
  induction events with
  | zero => exact hnil
  | succ events ih =>
    rw [List.replicate_succ, List.flatten_cons, h, ih, List.replicate_succ]

theorem sendWheel_obliged (hnil : reads [] = []) (h : Obliges reads runtime) (kind : WheelKind)
    (events : ℕ) (snapshot : ScreenSnapshot) :
    ∃ bytes, sendWheel runtime kind events snapshot = some bytes ∧
      reads bytes = List.replicate events kind := by
  obtain ⟨event, hevent, hreads⟩ := h.encodes kind ((snapshot.cols - 1) / 2)
    (if (snapshot.rows.length - 1) / 2 < 2 ^ 16 then (snapshot.rows.length - 1) / 2 else 0)
  refine ⟨(List.replicate events event).flatten, ?_, reads_replicate hnil hreads events⟩
  simp only [sendWheel, h.routing, ne_eq, not_true_eq_false, if_false, hevent, h.sends, if_true]

/-! ## Runs -/

/-- A read under the calls that are made on it. `up` are the events that went up while harvesting,
`down` those that came down behind the last of them. -/
structure WheelRun where
  pending : Option PendingAltScreenRead
  up : ℕ
  down : ℕ

namespace WheelRun

/-- The events go up and leave the read harvesting. -/
def Harvests (reads : ReadsWheel) (outcome : PollOutcome) : Bool :=
  outcome.next.any (·.phase = .harvest) && (outcome.written.flatMap reads).contains .scrollUp

def after (reads : ReadsWheel) (r : WheelRun) (outcome : PollOutcome) : WheelRun :=
  let events := outcome.written.flatMap reads
  if Harvests reads outcome then
    { pending := outcome.next, up := r.up + events.count .scrollUp, down := 0 }
  else { pending := outcome.next, up := r.up, down := r.down + events.count .scrollDown }

def step (reads : ReadsWheel) (r : WheelRun) (call : ReadCall) : WheelRun :=
  match r.pending with
  | none => r
  | some read => r.after reads (call.outcome read)

/-- The call is made on the read, and looks at a screen of another size while it harvests. -/
def LooksResized (r : WheelRun) (call : ReadCall) : Prop :=
  ∃ read, r.pending = some read ∧ call.LooksResized read

/-! ### What a read owes -/

/-- The events that a read in this phase has to send down. -/
def Owes (read : PendingAltScreenRead) (up down : ℕ) : Prop :=
  match read.phase with
  | .settleInitial | .probeBottom =>
    up = 0 ∧ read.upwardEvents = 0 ∧ read.restoreStartedAt = none
  | .restoreProbe => up = 0
  | .harvest =>
    0 < up ∧ up = read.upwardEvents ∧ down = 0 ∧ read.restoreStartedAt = none
  | .restore => up ≤ down

/-- Nothing is owed at the end. -/
def Settled (r : WheelRun) : Prop :=
  match r.pending with
  | none => r.up ≤ r.down
  | some read => Owes read r.up r.down

variable {r : WheelRun} {read next : PendingAltScreenRead}

theorem settled_waits (h : Owes next r.up r.down) : Settled (r.after reads next.waits) := by
  simpa [after, Harvests, PendingAltScreenRead.waits, Settled] using h

theorem settled_fallback (h : r.up ≤ r.down) : Settled (r.after reads read.completeFallback) := by
  simpa [after, Harvests, PendingAltScreenRead.completeFallback, Settled] using h

theorem settled_success (h : r.up ≤ r.down) : Settled (r.after reads read.completeSuccess) := by
  simpa [after, Harvests, PendingAltScreenRead.completeSuccess, Settled] using h

theorem after_sent {bytes : Bytes} {kind : WheelKind} {events : ℕ}
    (hreads : reads bytes = List.replicate events kind) :
    r.after reads { next := some next, written := [bytes] } =
      if next.phase = .harvest ∧ kind = .scrollUp ∧ 0 < events then
        { pending := some next, up := r.up + events, down := 0 }
      else
        { pending := some next, up := r.up
          down := r.down + if kind = .scrollDown then events else 0 } := by
  have hevents : [bytes].flatMap reads = List.replicate events kind := by
    rw [List.flatMap_singleton, hreads]
  have hharvests : Harvests reads { next := some next, written := [bytes] } =
      decide (next.phase = .harvest ∧ kind = .scrollUp ∧ 0 < events) := by
    rw [Harvests, hevents, Option.any_some, Bool.eq_iff_iff]
    simp only [Bool.and_eq_true, decide_eq_true_eq, List.contains_iff_mem, List.mem_replicate]
    grind
  rw [after, hevents, hharvests]
  simp only [decide_eq_true_eq, List.count_replicate]
  split_ifs with h hdown hdown <;> simp_all

/-- The wheel is turned by a read that is not harvesting behind it. -/
theorem settled_afterWheel (hnil : reads [] = []) (hobliges : Obliges reads runtime)
    {kind : WheelKind} {events : ℕ} {snapshot : ScreenSnapshot} (hphase : next.phase ≠ .harvest)
    (h : Owes next r.up (r.down + if kind = .scrollDown then events else 0)) :
    Settled (r.after reads (read.afterWheel runtime kind events snapshot next)) := by
  obtain ⟨bytes, hsend, hreads⟩ := sendWheel_obliged hnil hobliges kind events snapshot
  rw [PendingAltScreenRead.afterWheel, hsend]
  dsimp only
  rw [after_sent hreads, if_neg fun hharvest ↦ hphase hharvest.1]
  exact h

variable {now : ℕ}

theorem settled_startHarvest (hnil : reads [] = []) (hobliges : Obliges reads runtime) {seq : ℕ}
    (hup : r.up = read.upwardEvents) (hrestore : read.restoreStartedAt = none) :
    Settled (r.after reads (read.startHarvest runtime now seq)) := by
  obtain ⟨bytes, hsend, hreads⟩ :=
    sendWheel_obliged hnil hobliges .scrollUp wheelStepEvents read.previous
  rw [PendingAltScreenRead.startHarvest, PendingAltScreenRead.afterWheel, hsend]
  dsimp only
  rw [after_sent hreads, if_pos ⟨rfl, rfl, by decide⟩]
  exact ⟨Nat.lt_of_lt_of_le (by decide) (Nat.le_add_left wheelStepEvents r.up),
    congrArg (· + wheelStepEvents) hup, rfl, hrestore⟩

theorem settled_startRestore (hnil : reads [] = []) (hobliges : Obliges reads runtime)
    {seq : Option ℕ} (hup : r.up = read.upwardEvents) :
    Settled (r.after reads (read.startRestore runtime now seq)) := by
  rw [PendingAltScreenRead.startRestore]
  split_ifs with hzero
  · exact settled_fallback (by omega)
  · refine settled_afterWheel hnil hobliges (by simp [PendingAltScreenRead.armStep]) ?_
    rw [if_pos rfl]
    exact Nat.le_trans (Nat.le_of_eq hup) (Nat.le_add_left read.upwardEvents r.down)

/-! ### One call -/

theorem Owes.kept {up down : ℕ} (h : Owes read up down)
    (hkept : PendingAltScreenRead.Kept read next) : Owes next up down := by
  obtain ⟨_, _, _, _, _, rfl⟩ := hkept
  exact h

theorem Owes.le {up down : ℕ} (h : Owes read up down) (hphase : read.phase ≠ .harvest) :
    up ≤ down := by
  unfold Owes at h
  split at h <;> first | omega | contradiction

/-- A screen that is looked at while harvesting has the size of the first one. -/
def SameSize (read : PendingAltScreenRead) (runtime : Observation) (now : ℕ) : Prop :=
  ∀ noted quiet screen snapshot, read.noteContent runtime now false = .ok noted →
    noted.awaitQuiet runtime now false = .ok quiet →
    runtime.snapshot = some (screen, snapshot, runtime.seqAfterSnapshot) →
    snapshot.cols = read.initial.cols ∧ snapshot.rows.length = read.initial.rows.length

/-- Before it looks at the phase, a call waits or owes nothing, or goes on to the phase. -/
theorem settle_wheel {expired : Bool} (hobliges : Obliges reads runtime) (h : Owes read r.up r.down)
    (hsize : read.phase = .harvest → expired = false ∧ SameSize read runtime now) :
    (∃ outcome, read.settle runtime now expired = .error outcome ∧
      Settled (r.after reads outcome)) ∨
      ∃ next snapshot seq, read.settle runtime now expired = .ok (next, snapshot, seq) ∧
        PendingAltScreenRead.Kept read next := by
  rw [PendingAltScreenRead.settle]
  obtain ⟨noted, hnoted, hnote | hnote⟩ := read.noteContent_cases runtime now expired
  · exact .inl ⟨_, by rw [hnote]; rfl, settled_waits (h.kept hnoted)⟩
  obtain ⟨quiet, hquiet, hawait | hawait⟩ := noted.awaitQuiet_cases runtime now expired
  · exact .inl ⟨_, by rw [hnote]; simp only [bind, Except.bind, hawait],
      settled_waits (h.kept (hnoted.trans hquiet))⟩
  have hkept := hnoted.trans hquiet
  have hrest : (do
      let self ← read.noteContent runtime now expired
      let self ← self.awaitQuiet runtime now expired
      self.takeSnapshot runtime now expired) = quiet.takeSnapshot runtime now expired := by
    rw [hnote]
    simp only [bind, Except.bind, hawait]
  rw [hrest, PendingAltScreenRead.takeSnapshot]
  have hsame : quiet.initial = read.initial := by
    obtain ⟨_, _, _, _, _, rfl⟩ := hkept
    rfl
  rcases hsnapshot : runtime.snapshot with _ | ⟨screen, snapshot, seq⟩
  · by_cases hexpired : expired = true
    · have hphase : read.phase ≠ .harvest := fun hharvest ↦ by
        simp [(hsize hharvest).1] at hexpired
      exact .inl ⟨_, if_pos hexpired, settled_fallback (h.le hphase)⟩
    · refine .inl ⟨_, if_neg hexpired, settled_waits (h.kept (hkept.trans ?_))⟩
      exact ⟨_, _, _, _, _, rfl⟩
  · obtain rfl := hobliges.alternate screen snapshot seq hsnapshot
    dsimp only
    split_ifs with hmoved hother
    · refine .inl ⟨_, rfl, settled_waits (h.kept (hkept.trans ?_))⟩
      exact ⟨_, _, _, _, _, rfl⟩
    · refine .inl ⟨_, rfl, settled_fallback (h.le fun hharvest ↦ ?_)⟩
      obtain ⟨rfl, hsizes⟩ := hsize hharvest
      obtain rfl := not_not.1 hmoved
      obtain ⟨hcols, hrows⟩ := hsizes noted quiet _ snapshot hnote hawait hsnapshot
      rw [hsame] at hother
      simp [hcols, hrows] at hother
    · exact .inr ⟨quiet, snapshot, seq, rfl, hkept⟩

theorem advance_wheel {seq : ℕ} {expired : Bool} {snapshot : ScreenSnapshot} (hnil : reads [] = [])
    (hobliges : Obliges reads runtime) (h : Owes read r.up r.down) :
    Settled (r.after reads (read.advance runtime now expired snapshot seq)) := by
  rw [PendingAltScreenRead.advance]
  unfold Owes at h
  rcases hphase : read.phase <;> rw [hphase] at h <;> dsimp only at h ⊢
  case settleInitial =>
    split_ifs
    · exact settled_waits (by simpa [Owes, hphase] using h)
    · exact settled_afterWheel hnil hobliges (by simp [PendingAltScreenRead.armStep])
        ⟨h.1, h.2.1, h.2.2⟩
  case probeBottom =>
    split_ifs
    · exact settled_waits (by simpa [Owes, hphase] using h)
    · exact settled_startHarvest hnil hobliges (h.1.trans h.2.1.symm) h.2.2
    · exact settled_fallback (by omega)
    · exact settled_afterWheel hnil hobliges (by simp [PendingAltScreenRead.armStep]) h.1
  case restoreProbe =>
    split_ifs
    · exact settled_fallback (by omega)
    · exact settled_waits (by simpa [Owes, hphase] using h)
    · exact settled_waits (by simpa [Owes, hphase] using h)
  case harvest =>
    rcases mergeScrolledUp_cases read.history read.previous snapshot with
      ⟨added, -, hmerge⟩ | hmerge | hmerge <;> rw [hmerge] <;> dsimp only
    · split_ifs
      · exact settled_startRestore hnil hobliges h.2.1
      · exact settled_startHarvest hnil hobliges h.2.1 h.2.2.2
    · split_ifs
      · exact settled_startRestore hnil hobliges h.2.1
      · exact settled_waits (by simpa [Owes, hphase] using h)
    · split_ifs
      · exact settled_startRestore hnil hobliges h.2.1
      · exact settled_waits (by simpa [Owes, hphase] using h)
  case restore =>
    split_ifs
    · exact settled_success h
    · exact settled_fallback h
    · refine settled_afterWheel hnil hobliges (by simp [PendingAltScreenRead.armStep]) ?_
      simp only [Owes, PendingAltScreenRead.armStep, if_true]
      omega
    · exact settled_waits (by simpa [Owes, hphase] using h)

theorem settle_advance_wheel {expired : Bool} (hnil : reads [] = [])
    (hobliges : Obliges reads runtime) (h : Owes read r.up r.down)
    (hsize : read.phase = .harvest → expired = false ∧ SameSize read runtime now) :
    Settled (r.after reads (match read.settle runtime now expired with
      | .error outcome => outcome
      | .ok (next, snapshot, seq) => next.advance runtime now expired snapshot seq)) := by
  rcases settle_wheel hobliges h hsize with
    ⟨outcome, hsettle, hsettled⟩ | ⟨next, snapshot, seq, hsettle, hkept⟩ <;> rw [hsettle]
  · exact hsettled
  · exact advance_wheel hnil hobliges (h.kept hkept)

theorem poll_wheel (hnil : reads [] = []) (hobliges : Obliges reads runtime)
    (h : Owes read r.up r.down) (hlooks : ¬ (ReadCall.poll (some runtime) now).LooksResized read) :
    Settled (r.after reads (read.poll (some runtime) now)) := by
  by_cases hrestore : read.restoreExpired now = true
  · have hphase : read.phase ≠ .harvest := fun hharvest ↦ by
      unfold Owes at h
      rw [hharvest] at h
      simp [PendingAltScreenRead.restoreExpired, h.2.2.2] at hrestore
    simp only [PendingAltScreenRead.poll, if_pos hrestore]
    exact settled_fallback (h.le hphase)
  by_cases hexpired : read.traversalExpired now = true
  · simp only [PendingAltScreenRead.poll, if_neg hrestore, hexpired, if_true, Bool.true_and,
      decide_eq_true_eq]
    split_ifs with hsettle hharvest
    · exact settled_fallback (h.le fun hharvest ↦ by simp [hsettle] at hharvest)
    · unfold Owes at h
      rw [hharvest] at h
      exact settled_startRestore hnil hobliges h.2.1
    · exact settle_advance_wheel hnil hobliges h fun hphase ↦ absurd hphase hharvest
  · rw [Bool.not_eq_true] at hexpired
    simp only [PendingAltScreenRead.poll, if_neg hrestore, hexpired, Bool.false_and, if_false,
      Bool.false_eq_true]
    refine settle_advance_wheel hnil hobliges h fun hharvest ↦ ⟨rfl, ?_⟩
    intro noted quiet screen snapshot hnote hawait hsnapshot
    by_contra hother
    rw [not_and_or] at hother
    exact hlooks ⟨hharvest, hexpired, noted, quiet, screen, snapshot, hnote, hawait, hsnapshot,
      hother⟩

/-- A call on a read that pays what it owes, unless it looks at a screen of another size. -/
theorem outcome_wheel {call : ReadCall} (hnil : reads [] = []) (hcall : call.Obliged reads)
    (h : Owes read r.up r.down) (hlooks : ¬ call.LooksResized read) :
    Settled (r.after reads (call.outcome read)) := by
  rcases call with ⟨_, now⟩ | ⟨_, now⟩
  · obtain ⟨runtime, rfl, hobliges⟩ := hcall
    exact poll_wheel hnil hobliges h hlooks
  · obtain ⟨runtime, rfl, hobliges⟩ := hcall
    have hpoll (hphase : read.phase ≠ .harvest) :
        Settled (r.after reads ({ read with valid := false }.poll (some runtime) now)) :=
      poll_wheel hnil hobliges h fun hlooks ↦ hphase hlooks.1
    rw [ReadCall.outcome, PendingAltScreenRead.abort]
    rcases hphase : read.phase <;> dsimp only
    case settleInitial => exact settled_fallback (h.le (by simp [hphase]))
    case harvest =>
      unfold Owes at h
      rw [hphase] at h
      exact settled_startRestore hnil hobliges h.2.1
    all_goals
      rw [← hphase]
      exact hpoll (by simp [hphase])

theorem quiet_initial {noted quiet : PendingAltScreenRead}
    (hnote : read.noteContent runtime now false = .ok noted)
    (hawait : noted.awaitQuiet runtime now false = .ok quiet) : quiet.initial = read.initial := by
  obtain ⟨_, ⟨_, _, _, _, _, rfl⟩, hnoted | hnoted⟩ := read.noteContent_cases runtime now false
  · cases hnote.symm.trans hnoted
  obtain rfl := Except.ok.inj (hnote.symm.trans hnoted)
  obtain ⟨_, ⟨_, _, _, _, _, rfl⟩, hquiet | hquiet⟩ :=
    PendingAltScreenRead.awaitQuiet_cases _ runtime now false
  · cases hawait.symm.trans hquiet
  obtain rfl := Except.ok.inj (hawait.symm.trans hquiet)
  rfl

/-- The read is answered at once, with all the events that have gone up still owed. -/
theorem outcome_looksResized {call : ReadCall} (hcall : call.Obliged reads)
    (h : Owes read r.up r.down) (hlooks : call.LooksResized read) :
    (r.after reads (call.outcome read)).pending = none ∧
      (r.after reads (call.outcome read)).down < (r.after reads (call.outcome read)).up := by
  rcases call with ⟨_, now⟩ | ⟨_, now⟩
  · obtain ⟨runtime, rfl, hobliges⟩ := hcall
    obtain ⟨hharvest, hexpired, noted, quiet, screen, snapshot, hnote, hawait, hsnapshot, hother⟩ :=
      hlooks
    unfold Owes at h
    rw [hharvest] at h
    obtain ⟨hpos, -, hdown, hstarted⟩ := h
    have hrestore : read.restoreExpired now = false := by
      rw [PendingAltScreenRead.restoreExpired, hstarted]
      rfl
    obtain rfl := hobliges.alternate screen snapshot _ hsnapshot
    have hsame : quiet.initial = read.initial := quiet_initial hnote hawait
    have htake : quiet.takeSnapshot runtime now false = .error quiet.completeFallback := by
      rw [PendingAltScreenRead.takeSnapshot, hsnapshot]
      dsimp only
      rw [if_neg (by simp), if_pos (by simpa [hsame] using hother)]
    have hsettle : read.settle runtime now false = .error quiet.completeFallback := by
      rw [PendingAltScreenRead.settle, hnote]
      simp only [bind, Except.bind, hawait, htake]
    have hpoll : read.poll (some runtime) now = quiet.completeFallback := by
      simp only [PendingAltScreenRead.poll, hrestore, hexpired, Bool.false_and, if_false,
        Bool.false_eq_true, hsettle]
    rw [ReadCall.outcome, hpoll]
    refine ⟨rfl, ?_⟩
    change r.down + 0 < r.up
    omega
  · obtain ⟨runtime, rfl, -⟩ := hcall
    exact hlooks.elim

/-! ### Whole runs -/

/-- Before its end a read has not looked at a screen of another size, and after its end it has
exactly if it owes something. -/
structure Inv (reads : ReadsWheel) (first : WheelRun) (calls : List ReadCall) (r : WheelRun) :
    Prop where
  pending : ∀ read, r.pending = some read → Owes read r.up r.down ∧
    ¬ StepRun.Occurs (step reads) (fun _ ↦ LooksResized) first calls
  settled : r.pending = none →
    (r.up ≤ r.down ↔ ¬ StepRun.Occurs (step reads) (fun _ ↦ LooksResized) first calls)

theorem inv_step {first : WheelRun} {calls : List ReadCall} {call : ReadCall} (hnil : reads [] = [])
    (hr : r = StepRun.run (step reads) first calls) (h : Inv reads first calls r)
    (hcall : call.Obliged reads) : Inv reads first (calls ++ [call]) (r.step reads call) := by
  rcases hpending : r.pending with _ | read
  · have hstep : r.step reads call = r := by rw [step, hpending]
    have hoccurs : StepRun.Occurs (step reads) (fun _ ↦ LooksResized) first (calls ++ [call]) ↔
        StepRun.Occurs (step reads) (fun _ ↦ LooksResized) first calls := by
      rw [StepRun.occurs_snoc, ← hr, LooksResized, hpending]
      simp
    rw [hstep]
    refine ⟨fun read hread ↦ ?_, fun hnone ↦ ?_⟩
    · rw [hpending] at hread
      cases hread
    · rw [hoccurs]
      exact h.settled hnone
  obtain ⟨howes, hnever⟩ := h.pending read hpending
  have hstep : r.step reads call = r.after reads (call.outcome read) := by rw [step, hpending]
  have hoccurs : StepRun.Occurs (step reads) (fun _ ↦ LooksResized) first (calls ++ [call]) ↔
      call.LooksResized read := by
    rw [StepRun.occurs_snoc, ← hr, LooksResized, hpending]
    simp [hnever]
  rw [hstep]
  by_cases hlooks : call.LooksResized read
  · obtain ⟨hnone, hlt⟩ := outcome_looksResized hcall howes hlooks
    refine ⟨fun read hread ↦ ?_, fun _ ↦ ?_⟩
    · rw [hnone] at hread
      cases hread
    · rw [hoccurs]
      exact iff_of_false (Nat.not_le.2 hlt) (not_not.2 hlooks)
  · have hsettled := outcome_wheel hnil hcall howes hlooks
    rw [Settled] at hsettled
    refine ⟨fun read hread ↦ ?_, fun hnone ↦ ?_⟩
    · rw [hread] at hsettled
      exact ⟨hsettled, by rwa [hoccurs]⟩
    · rw [hnone] at hsettled
      exact iff_of_true hsettled (by rwa [hoccurs])

theorem inv_run {first : WheelRun} (hnil : reads [] = []) (hfirst : Inv reads first [] first)
    {calls : List ReadCall} (hcalls : ∀ call ∈ calls, call.Obliged reads) :
    Inv reads first calls (StepRun.run (step reads) first calls) := by
  induction calls using List.reverseRecOn with
  | nil => exact hfirst
  | append_singleton calls call ih =>
    rw [StepRun.run_snoc]
    rw [List.forall_mem_append] at hcalls
    exact inv_step hnil rfl (ih hcalls.1) (hcalls.2 call (List.mem_singleton_self call))

/-- Where every wheel event is written, the events that come down behind the last one that went up
while harvesting are as many as went up, exactly if no screen of another size was looked at. -/
theorem viewport_restored_iff (reads : ReadsWheel) (requestId fallbackResponse : Text)
    (result : PaneReadResult) (lines : ℕ) (unwrap : Bool) (initial : ScreenSnapshot)
    (contentSeq now : ℕ) (calls : List ReadCall) (first : WheelRun)
    (hnil : reads [] = [])
    (hfirst : first = ⟨some (PendingAltScreenRead.start requestId fallbackResponse result lines
      unwrap initial contentSeq now), 0, 0⟩)
    (hcalls : ∀ call ∈ calls, call.Obliged reads)
    (hdone : (StepRun.run (step reads) first calls).pending = none) :
    (StepRun.run (step reads) first calls).up ≤ (StepRun.run (step reads) first calls).down ↔
      ¬ StepRun.Occurs (step reads) (fun _ ↦ LooksResized) first calls := by
  refine (inv_run hnil ⟨fun read hread ↦ ?_, fun hnone ↦ ?_⟩ hcalls).settled hdone
  · subst hfirst
    cases hread
    exact ⟨⟨rfl, rfl, rfl⟩, by simp [StepRun.Occurs]⟩
  · rw [hfirst] at hnone
    cases hnone

/-! ### Two runs -/

/-- A quiet terminal of so many columns, in which an event is one byte. -/
def quietTerminal (cols : ℕ) : Observation where
  contentSeq := 0
  synchronizedAtChange := false
  synchronized := false
  snapshot := some (.alternate, ⟨cols, []⟩, 0)
  seqWithoutSnapshot := 0
  seqAfterSnapshot := 0
  seqAtRestore := 0
  wheelRouting := some .mouseReport
  encodeMouseWheel kind _ _ := some [if kind = .scrollUp then 0 else 1]
  trySendBytes _ := true

def readBytes : ReadsWheel :=
  List.map fun byte ↦ if byte = 0 then .scrollUp else .scrollDown

theorem quietTerminal_obliges (cols : ℕ) : Obliges readBytes (quietTerminal cols) where
  routing := rfl
  encodes kind column row := ⟨_, rfl, fun rest ↦ by cases kind <;> rfl⟩
  sends _ := rfl
  alternate := by
    rintro screen snapshot seq ⟨⟩
    rfl

/-- A read of ten lines from a terminal of two columns. -/
def quietRun : WheelRun :=
  ⟨some (PendingAltScreenRead.start [] [] ⟨[], [], [], .recent, .text, [], 0, false⟩ 10 false
    ⟨2, []⟩ 0 0), 0, 0⟩

/-- An abort while harvesting is followed by the way down. -/
theorem viewport_restored_after_abort :
    (StepRun.run (step readBytes) quietRun
        [.poll (quietTerminal 2) (millis 10), .poll (quietTerminal 2) (millis 130),
          .abort (quietTerminal 2) (millis 200), .poll (quietTerminal 2) (millis 320)]).up ≤
      (StepRun.run (step readBytes) quietRun
        [.poll (quietTerminal 2) (millis 10), .poll (quietTerminal 2) (millis 130),
          .abort (quietTerminal 2) (millis 200), .poll (quietTerminal 2) (millis 320)]).down ↔
      ¬ StepRun.Occurs (step readBytes) (fun _ ↦ LooksResized) quietRun
        [.poll (quietTerminal 2) (millis 10), .poll (quietTerminal 2) (millis 130),
          .abort (quietTerminal 2) (millis 200), .poll (quietTerminal 2) (millis 320)] :=
  viewport_restored_iff readBytes [] [] _ 10 false ⟨2, []⟩ 0 0 _ quietRun rfl rfl
    (by
      intro call hcall
      simp only [List.mem_cons, List.not_mem_nil, or_false] at hcall
      rcases hcall with rfl | rfl | rfl | rfl <;> exact ⟨_, rfl, quietTerminal_obliges 2⟩)
    (by decide)

/-- The terminal loses a column while the read harvests. -/
theorem viewport_lost_at_resize :
    let done := StepRun.run (step readBytes) quietRun
      [.poll (quietTerminal 2) (millis 10), .poll (quietTerminal 2) (millis 130),
        .poll (quietTerminal 1) (millis 250)]
    done.pending = none ∧ done.up = 3 ∧ done.down = 0 := by
  decide

end WheelRun

end Zynk.Server
