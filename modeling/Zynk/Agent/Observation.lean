import Zynk.Agent.DefaultDeny
import Zynk.Lib.Run

/-!
# The cell with the observed command line

A pane keeps the command line that its agent was last seen with in a cell, which every snapshot
reads and writes (`persisted_resume_argv_with_observation`). A run is a sequence of such calls on
one cell; a cell of a launch that `zynk` made itself starts with the launch, which is counted as a
call here.

What a call returns was supplied by this call, or by an earlier one for the same session with no
call for another session between them (`resume_cache_provenance`). Calls that return before they
look at the cell do not count (`ResumeArgvCall.PassesBy`).
-/

namespace Zynk

/-! ## Calls -/

/-- A call, with the sources its arguments are read from. -/
structure ResumeArgvCall where
  session : PersistedAgentSession
  foregroundArgv : Option (List String)
  existingLaunchArgv : Option (List String)
  deriving DecidableEq, Repr

namespace ResumeArgvCall

variable (call : ResumeArgvCall)

def source : String :=
  call.session.source

def agent : String :=
  call.session.agent

def key : String :=
  dedupeKey call.source call.agent call.session.sessionRef

def canonical : Option (List String) :=
  canonicalResumeArgv call.source call.agent call.session.sessionRef

/-- What is returned, and the cell after the call. -/
def apply (cell : Option ResumeArgvObservation) :
    Option (List String) × Option ResumeArgvObservation :=
  persistedResumeArgvWithObservation call.source call.agent call.session.sessionRef
    call.foregroundArgv call.existingLaunchArgv cell

def returns (cell : Option ResumeArgvObservation) : Option (List String) :=
  (call.apply cell).1

def step (cell : Option ResumeArgvObservation) (call : ResumeArgvCall) :
    Option ResumeArgvObservation :=
  (call.apply cell).2

/-- The command line in the foreground, sanitised for the session of the call. -/
def foregroundFlagged (canonical : List String) : Option (List String) :=
  sanitizedArgv call.source call.agent call.session.sessionRef canonical call.foregroundArgv true

/-- The command line of the launch, sanitised for the session of the call. -/
def tierAFlagged (canonical : List String) : Option (List String) :=
  sanitizedArgv call.source call.agent call.session.sessionRef canonical call.existingLaunchArgv
    false

/-- `argv` is the sanitised plan, for the session of the call, of a command line it brings. -/
def Supplies (argv : List String) : Prop :=
  ∃ canonical, call.canonical = some canonical ∧
    (call.foregroundFlagged canonical = some argv ∨ call.tierAFlagged canonical = some argv)

/-- The call returns before it looks at the cell : its session cannot be resumed. -/
def PassesBy : Prop :=
  faithfulForeground call.agent ≠ none ∧ call.canonical = none

end ResumeArgvCall

/-- `managed_resume_observation`. -/
def managedResumeObservation (plan : AgentResumePlan) : Option ResumeArgvObservation :=
  let flagged (canonicalLen : ℕ) : Option ResumeArgvObservation :=
    if canonicalLen < plan.argv.length then some (.flagged plan.dedupeKey plan.argv) else none
  match plan.agent with
  | "claude" | "pi" => flagged 3
  | "codex" => flagged 4
  | _ => none

/-- The cell before the first call : empty, or from the plan of a launch, whose command line is the
one it was planned from. -/
def startCell : Option ResumeArgvCall → Option ResumeArgvObservation
  | none => none
  | some launch =>
    (plan launch.source launch.agent launch.session.sessionRef launch.existingLaunchArgv).bind
      managedResumeObservation

/-- The cell after the calls. -/
def cellAfter (launch : Option ResumeArgvCall) (calls : List ResumeArgvCall) :
    Option ResumeArgvObservation :=
  StepRun.run ResumeArgvCall.step (startCell launch) calls

/-- `argv` was supplied for the session, and no call for another session came since. -/
def SuppliedSince (history : List ResumeArgvCall) (session : PersistedAgentSession)
    (argv : List String) : Prop :=
  ∃ before earlier between, history = before ++ earlier :: between ∧ earlier.session = session ∧
    earlier.Supplies argv ∧ ∀ c ∈ between, c.session = session ∨ c.PassesBy

/-! ## One call -/

namespace ResumeArgvCall

variable {call : ResumeArgvCall} {cell : Option ResumeArgvObservation} {canonical : List String}

theorem PassesBy.apply (h : call.PassesBy) : call.apply cell = (none, cell) := by
  obtain ⟨hfaithful, hcanonical⟩ := h
  obtain ⟨faithful, hfaithful⟩ := Option.ne_none_iff_exists'.1 hfaithful
  rw [ResumeArgvCall.apply, persistedResumeArgvWithObservation, hfaithful]
  simp only
  rw [show canonicalResumeArgv _ _ _ = none from hcanonical]

/-- An agent without an adapter empties the cell. -/
theorem apply_of_no_adapter (h : faithfulForeground call.agent = none) :
    call.apply cell = (none, none) := by
  rw [ResumeArgvCall.apply, persistedResumeArgvWithObservation, h]

/-- A call for a session that can be resumed returns what it supplies itself or what the cell has
for this session, and that stays in the cell; or it returns nothing and leaves nothing there. -/
theorem apply_cases (cell : Option ResumeArgvObservation)
    (hadapter : faithfulForeground call.agent ≠ none)
    (hcanonical : call.canonical = some canonical) :
    (∃ argv, call.Supplies argv ∧
        call.apply cell = (some argv, some (.flagged call.key argv))) ∨
      (∃ argv, cell = some (.flagged call.key argv) ∧
        call.apply cell = (some argv, some (.flagged call.key argv))) ∨
      call.apply cell = (none, none) ∨
      call.apply cell = (none, some (.observedCanonical call.key)) := by
  obtain ⟨faithful, hfaithful⟩ := Option.ne_none_iff_exists'.1 hadapter
  have hsupplies {argv : List String} (h : call.foregroundFlagged canonical = some argv ∨
      call.tierAFlagged canonical = some argv) : call.Supplies argv := ⟨canonical, hcanonical, h⟩
  have hcell {argv : List String} {key : String}
      (h : cell.filter (·.key == call.key) = some (.flagged key argv)) :
      key = call.key ∧ cell = some (.flagged call.key argv) := by
    obtain ⟨hcell, hkey⟩ := Option.filter_eq_some_iff.1 h
    obtain rfl : key = call.key := by simpa [ResumeArgvObservation.key] using hkey
    exact ⟨rfl, hcell⟩
  have hobserved {key : String}
      (h : cell.filter (·.key == call.key) = some (.observedCanonical key)) : key = call.key := by
    simpa [ResumeArgvObservation.key] using (Option.filter_eq_some_iff.1 h).2
  have hcanonical' : canonicalResumeArgv call.source call.agent call.session.sessionRef =
      some canonical := hcanonical
  simp only [ResumeArgvCall.apply, persistedResumeArgvWithObservation, hfaithful, hcanonical']
  rcases hforeground : sanitizedArgv call.source call.agent call.session.sessionRef canonical
    call.foregroundArgv true with _ | argv
  swap
  · exact Or.inl ⟨argv, hsupplies (Or.inl hforeground), rfl⟩
  simp only
  by_cases hseen : (faithful && call.foregroundArgv.isSome) = true
  · rw [if_pos hseen]
    exact Or.inr (Or.inr (Or.inr rfl))
  rw [if_neg hseen]
  rcases hfilter : cell.filter (·.key == call.key) with _ | ⟨key, argv⟩ | key <;>
  rcases htierA : sanitizedArgv call.source call.agent call.session.sessionRef canonical
    call.existingLaunchArgv false with _ | argv' <;>
  rcases faithful with _ | _ <;> rw [ResumeArgvCall.key] at hfilter <;> simp only [hfilter]
  · exact Or.inr (Or.inr (Or.inl trivial))
  · exact Or.inr (Or.inr (Or.inl trivial))
  · exact Or.inl ⟨argv', hsupplies (Or.inr htierA), rfl⟩
  · exact Or.inl ⟨argv', hsupplies (Or.inr htierA), rfl⟩
  · exact Or.inr (Or.inl ⟨argv, (hcell hfilter).2, rfl⟩)
  · exact Or.inr (Or.inl ⟨argv, (hcell hfilter).2, by rw [(hcell hfilter).1]⟩)
  · exact Or.inl ⟨argv', hsupplies (Or.inr htierA), rfl⟩
  · exact Or.inr (Or.inl ⟨argv, (hcell hfilter).2, by rw [(hcell hfilter).1]⟩)
  · exact Or.inr (Or.inr (Or.inl trivial))
  · exact Or.inr (Or.inr (Or.inr (by rw [hobserved hfilter])))
  · exact Or.inl ⟨argv', hsupplies (Or.inr htierA), rfl⟩
  · exact Or.inr (Or.inr (Or.inr (by rw [hobserved hfilter])))

/-- The call names no command line in the foreground that keeps a flag. -/
def PreservesNoFlag (call : ResumeArgvCall) : Prop :=
  ∀ canonical, call.canonical = some canonical → call.foregroundFlagged canonical = none

/-- That the canonical command line was seen is kept, and nothing is returned. -/
theorem apply_settled (hadapter : faithfulForeground call.agent = some true)
    (hcanonical : call.canonical = some canonical) (hno : call.PreservesNoFlag)
    (hseen : call.foregroundArgv.isSome = true ∨ cell = some (.observedCanonical call.key)) :
    call.apply cell = (none, some (.observedCanonical call.key)) := by
  have hcanonical' : canonicalResumeArgv call.source call.agent call.session.sessionRef =
      some canonical := hcanonical
  have hforeground : sanitizedArgv call.source call.agent call.session.sessionRef canonical
      call.foregroundArgv true = none := hno canonical hcanonical
  simp only [ResumeArgvCall.apply, persistedResumeArgvWithObservation, hadapter, hcanonical',
    hforeground, Bool.true_and]
  by_cases hforeground : call.foregroundArgv.isSome = true
  · exact if_pos hforeground
  · have hfilter : cell.filter (·.key == call.key) = some (.observedCanonical call.key) := by
      rw [hseen.resolve_left hforeground]
      simp [ResumeArgvObservation.key]
    rw [ResumeArgvCall.key] at hfilter
    rw [if_neg hforeground, hfilter]
    rfl

theorem eq_of_key_eq {call' : ResumeArgvCall} {canonical' : List String}
    (h : call.canonical = some canonical) (h' : call'.canonical = some canonical')
    (hkey : call.key = call'.key) : call.session = call'.session := by
  obtain ⟨hsource, hagent, href⟩ := dedupeKey_inj (official_of_canonicalResumeArgv h)
    (official_of_canonicalResumeArgv h') hkey
  show PersistedAgentSession.mk call.source call.agent call.session.sessionRef =
    PersistedAgentSession.mk call'.source call'.agent call'.session.sessionRef
  rw [hsource, hagent, href]

end ResumeArgvCall

/-! ## Sequences of calls -/

/-- What is in the cell was supplied, and no call for another session came since. -/
def CellSupplied (history : List ResumeArgvCall) (cell : Option ResumeArgvObservation) : Prop :=
  ∀ key argv, cell = some (.flagged key argv) →
    ∃ session, SuppliedSince history session argv ∧
      key = dedupeKey session.source session.agent session.sessionRef

theorem SuppliedSince.snoc {history : List ResumeArgvCall} {session : PersistedAgentSession}
    {argv : List String} (h : SuppliedSince history session argv) {call : ResumeArgvCall}
    (hcall : call.session = session ∨ call.PassesBy) :
    SuppliedSince (history ++ [call]) session argv := by
  obtain ⟨before, earlier, between, rfl, hsession, hsupplies, hbetween⟩ := h
  refine ⟨before, earlier, between ++ [call], by simp, hsession, hsupplies, fun c hc => ?_⟩
  rcases List.mem_append.1 hc with hc | hc
  · exact hbetween c hc
  · rw [List.mem_singleton.1 hc]
    exact hcall

/-- The key in the cell is the key of a session that can be resumed. -/
theorem SuppliedSince.session_eq {history : List ResumeArgvCall} {session : PersistedAgentSession}
    {argv canonical : List String} (h : SuppliedSince history session argv) {call : ResumeArgvCall}
    (hcanonical : call.canonical = some canonical)
    (hkey : call.key = dedupeKey session.source session.agent session.sessionRef) :
    call.session = session := by
  obtain ⟨before, earlier, between, rfl, rfl, ⟨canonical', hcanonical', -⟩, -⟩ := h
  exact ResumeArgvCall.eq_of_key_eq hcanonical hcanonical' hkey

theorem cellSupplied_start (launch : Option ResumeArgvCall) :
    CellSupplied launch.toList (startCell launch) := by
  intro key argv hcell
  rcases launch with _ | launch
  · cases hcell
  obtain ⟨planned, hplanned, hmanaged⟩ := Option.bind_eq_some_iff.1 hcell
  obtain ⟨canonical, hcanonical, hargv⟩ := plan_eq_some hplanned
  have hplan := hplanned
  obtain ⟨hclaude, hpi, hcodex⟩ := canonicalResumeArgv_adapter hcanonical
  have hagent : planned.agent = launch.agent ∧ planned.dedupeKey = launch.key := by
    unfold plan at hplan
    split at hplan
    · cases hplan
    obtain ⟨_, -, rfl⟩ := Option.map_eq_some_iff.1 hplan
    exact ⟨rfl, rfl⟩
  have hflagged {canonicalLen : ℕ} (hlen : canonical.length = canonicalLen)
      (h : (if canonicalLen < planned.argv.length then
        some (ResumeArgvObservation.flagged planned.dedupeKey planned.argv) else none) =
          some (.flagged key argv)) :
      canonical.length < planned.argv.length ∧ planned.dedupeKey = key ∧ planned.argv = argv := by
    split at h
    · rename_i hlt
      cases h
      exact ⟨hlen ▸ hlt, rfl, rfl⟩
    · cases h
  obtain ⟨hlt, rfl, rfl⟩ : canonical.length < planned.argv.length ∧ planned.dedupeKey = key ∧
      planned.argv = argv := by
    unfold managedResumeObservation at hmanaged
    rw [hagent.1] at hmanaged
    simp only at hmanaged
    split at hmanaged
    · rename_i heq
      exact hflagged (by rw [hclaude heq]; rfl) hmanaged
    · rename_i heq
      exact hflagged (by rw [hpi heq]; rfl) hmanaged
    · rename_i heq
      exact hflagged (by rw [hcodex heq]; rfl) hmanaged
    · cases hmanaged
  -- Nothing is longer than the canonical command line without a command line to plan from.
  obtain ⟨original, horiginal⟩ : ∃ original, launch.existingLaunchArgv = some original := by
    rcases horiginal : launch.existingLaunchArgv with _ | original
    · rw [hargv, horiginal] at hlt
      exact absurd hlt (Nat.lt_irrefl _)
    · exact ⟨original, rfl⟩
  refine ⟨launch.session, ⟨[], launch, [], rfl, rfl, ⟨canonical, hcanonical, Or.inr ?_⟩, by simp⟩,
    hagent.2⟩
  rw [horiginal] at hplanned
  simp only [ResumeArgvCall.tierAFlagged, sanitizedArgv, horiginal, Option.bind_some, hplanned,
    if_neg (Nat.not_le.2 hlt), Bool.false_eq_true, if_false]

theorem CellSupplied.step {history : List ResumeArgvCall} {cell : Option ResumeArgvObservation}
    (h : CellSupplied history cell) (call : ResumeArgvCall) :
    CellSupplied (history ++ [call]) (ResumeArgvCall.step cell call) := by
  have hself {argv : List String} (hsupplies : call.Supplies argv) :
      SuppliedSince (history ++ [call]) call.session argv :=
    ⟨history, call, [], rfl, rfl, hsupplies, by simp⟩
  intro key argv hcell
  unfold ResumeArgvCall.step at hcell
  by_cases hadapter : faithfulForeground call.agent = none
  · rw [ResumeArgvCall.apply_of_no_adapter hadapter] at hcell
    cases hcell
  rcases hcanonical : call.canonical with _ | canonical
  · have hpasses : call.PassesBy := ⟨hadapter, hcanonical⟩
    rw [hpasses.apply] at hcell
    obtain ⟨session, hsince, hkey⟩ := h key argv hcell
    exact ⟨session, hsince.snoc (Or.inr hpasses), hkey⟩
  rcases ResumeArgvCall.apply_cases cell hadapter hcanonical with
    ⟨argv', hsupplies, happly⟩ | ⟨argv', hcell', happly⟩ | happly | happly <;>
  rw [happly] at hcell <;> cases hcell
  · exact ⟨call.session, hself hsupplies, rfl⟩
  · obtain ⟨session, hsince, hkey⟩ := h _ _ hcell'
    exact ⟨session, hsince.snoc (Or.inl (hsince.session_eq hcanonical hkey)), hkey⟩

theorem cellSupplied_after (launch : Option ResumeArgvCall) (calls : List ResumeArgvCall) :
    CellSupplied (launch.toList ++ calls) (cellAfter launch calls) := by
  induction calls using List.reverseRecOn with
  | nil => simpa [cellAfter] using cellSupplied_start launch
  | append_singleton calls call ih =>
    rw [← List.append_assoc, cellAfter, StepRun.run_snoc]
    exact ih.step call

/-! ## No other session -/

/-- After the canonical command line was seen, nothing is returned for the session until a command
line that keeps a flag is seen or another session is asked for. -/
theorem cellAfter_settled {launch : Option ResumeArgvCall} {before between : List ResumeArgvCall}
    {settled : ResumeArgvCall} {canonical : List String}
    (hadapter : faithfulForeground settled.agent = some true)
    (hcanonical : settled.canonical = some canonical)
    (hseen : settled.foregroundArgv.isSome = true) (hno : settled.PreservesNoFlag)
    (hbetween : ∀ c ∈ between, (c.session = settled.session ∧ c.PreservesNoFlag) ∨ c.PassesBy) :
    cellAfter launch (before ++ settled :: between) = some (.observedCanonical settled.key) := by
  induction between using List.reverseRecOn with
  | nil =>
    rw [cellAfter, StepRun.run_snoc, ResumeArgvCall.step,
      ResumeArgvCall.apply_settled hadapter hcanonical hno (Or.inl hseen)]
  | append_singleton between c ih =>
    have hcell := ih fun c' hc' => hbetween c' (List.mem_append_left _ hc')
    rw [← List.cons_append, ← List.append_assoc, cellAfter, StepRun.run_snoc, ResumeArgvCall.step,
      ← cellAfter, hcell]
    rcases hbetween c (by simp) with ⟨hsession, hno'⟩ | hpasses
    · have hkey : c.key = settled.key := by
        simp only [ResumeArgvCall.key, ResumeArgvCall.source, ResumeArgvCall.agent, hsession]
      have hadapter' : faithfulForeground c.agent = some true := by
        rw [ResumeArgvCall.agent, hsession]
        exact hadapter
      have hcanonical' : c.canonical = some canonical := by
        simp only [ResumeArgvCall.canonical, ResumeArgvCall.source, ResumeArgvCall.agent, hsession]
        exact hcanonical
      rw [ResumeArgvCall.apply_settled hadapter' hcanonical' hno' (Or.inr (by rw [hkey])), hkey]
    · rw [hpasses.apply]

/-- What a call returns is the sanitised plan, for its session, of a command line that it brings or
that an earlier call for this session has brought, with no call for another session between them.
The launch that a cell starts from is such a call. For claude and codex nothing is returned without
a command line in the foreground once one was seen that keeps no flag, until one is seen that does
or another session is asked for. -/
theorem resume_cache_session (launch : Option ResumeArgvCall) (calls : List ResumeArgvCall)
    (call : ResumeArgvCall) :
    (∀ argv, call.returns (cellAfter launch calls) = some argv →
      call.Supplies argv ∨ SuppliedSince (launch.toList ++ calls) call.session argv) ∧
    (∀ before settled between, calls = before ++ settled :: between →
      settled.session = call.session → call.agent = "claude" ∨ call.agent = "codex" →
      settled.foregroundArgv.isSome = true → settled.PreservesNoFlag →
      (∀ c ∈ between, (c.session = call.session ∧ c.PreservesNoFlag) ∨ c.PassesBy) →
      call.foregroundArgv = none → call.returns (cellAfter launch calls) = none) := by
  refine ⟨fun argv hreturns => ?_, ?_⟩
  · have hcell := cellSupplied_after launch calls
    generalize cellAfter launch calls = cell at hreturns hcell
    unfold ResumeArgvCall.returns at hreturns
    by_cases hadapter : faithfulForeground call.agent = none
    · rw [ResumeArgvCall.apply_of_no_adapter hadapter] at hreturns
      cases hreturns
    rcases hcanonical : call.canonical with _ | canonical
    · rw [ResumeArgvCall.PassesBy.apply ⟨hadapter, hcanonical⟩] at hreturns
      cases hreturns
    rcases ResumeArgvCall.apply_cases cell hadapter hcanonical with
      ⟨argv', hsupplies, happly⟩ | ⟨argv', hcell', happly⟩ | happly | happly <;>
    rw [happly] at hreturns <;> cases hreturns
    · exact Or.inl hsupplies
    · obtain ⟨session, hsince, hkey⟩ := hcell _ _ hcell'
      rw [hsince.session_eq hcanonical hkey]
      exact Or.inr hsince
  · rintro before settled between rfl hsession hagent hseen hno hbetween hforeground
    have hadapter : faithfulForeground call.agent = some true := by
      rcases hagent with hagent | hagent <;> rw [hagent] <;> rfl
    rcases hcanonical : call.canonical with _ | canonical
    · rw [ResumeArgvCall.returns,
        ResumeArgvCall.PassesBy.apply ⟨by simp [hadapter], hcanonical⟩]
    have hsettled : faithfulForeground settled.agent = some true ∧
        settled.canonical = some canonical ∧ settled.key = call.key := by
      simp only [ResumeArgvCall.agent, ResumeArgvCall.canonical, ResumeArgvCall.key,
        ResumeArgvCall.source, hsession]
      exact ⟨hadapter, hcanonical, trivial⟩
    rw [cellAfter_settled hsettled.1 hsettled.2.1 hseen hno (by rwa [hsession]), ResumeArgvCall.returns,
      ResumeArgvCall.apply_settled hadapter hcanonical ?_ (Or.inr (by rw [hsettled.2.2]))]
    intro canonical' _
    rw [ResumeArgvCall.foregroundFlagged, hforeground]
    rfl

/-- The flags of a launch are returned although no call has brought them; flags that were brought
are returned after a call for a session that cannot be resumed; and flags that are seen after the
canonical command line was seen are returned without a command line in the foreground. -/
theorem resume_cache_session_beyond :
    let session : PersistedAgentSession := ⟨"zynk:claude", "claude", ⟨.id, "s1"⟩⟩
    let other : PersistedAgentSession := ⟨"zynk:claude", "claude", ⟨.path, "/s2"⟩⟩
    let flagged : Option (List String) := some ["claude", "--model", "opus"]
    let resumed : Option (List String) := some ["claude", "--model", "opus", "--resume", "s1"]
    (ResumeArgvCall.mk session none none).returns
        (cellAfter (some ⟨session, none, flagged⟩) []) = resumed ∧
      (ResumeArgvCall.mk session none none).returns
        (cellAfter none [⟨session, flagged, none⟩, ⟨other, none, none⟩]) = resumed ∧
      (ResumeArgvCall.mk session none none).returns
        (cellAfter none [⟨session, some ["claude"], none⟩, ⟨session, flagged, none⟩]) = resumed := by
  decide

end Zynk
