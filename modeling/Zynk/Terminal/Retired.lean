import Zynk.Terminal.Coherence
import Zynk.Terminal.Stale

/-!
# Retired sessions stay retired

A session that a release, a clear or a process exit has retired is recorded (`Recorded`) : the
owner is suppressed with it, or it is among the owner's stale sessions. Either record keeps
every boundary that the retirement and the losses since have set, and as long as there is one
the session anchors nothing (`Unanchored`), until a session start names it.
-/

namespace Zynk

namespace TerminalState

open StaleHookSession

/-! ## The record -/

/-- The owner is suppressed with the session, and not lifted before the instants in `B`. -/
def SuppressedAfter (s : TerminalState) (o : String × String) (ref : AgentSessionRef)
    (B : ℤ → Prop) : Prop :=
  ∃ y, s.suppressedHookReports.lookup o.1 = some y ∧ y.agentLabel = o.2 ∧
    y.sessionRef = some ref ∧
    ∀ b, B b → b ≤ y.observedAt ∨ ∃ l, y.lastLossObservedAt = some l ∧ b ≤ l

/-- The owner is neither the authority nor the identity. -/
def NotInstalled (s : TerminalState) (o : String × String) : Prop :=
  s.authorityOwner ≠ some o ∧ s.identityOwner ≠ some o

/-- The retirement of the session is on record. -/
structure Recorded (s : TerminalState) (o : String × String) (ref : AgentSessionRef)
    (B : ℤ → Prop) : Prop where
  staleAfter : s.StaleAfter o ref B
  record : s.IsStale o ref ∨ s.SuppressedAfter o ref B ∧ s.NotInstalled o

theorem Shrinks.notInstalled {s t : TerminalState} {o : String × String} (h : Shrinks s t)
    (hs : s.NotInstalled o) : t.NotInstalled o :=
  ⟨fun ho => hs.1 (h.authorityOwner o ho), fun ho => hs.2 (h.identity o ho)⟩

section

variable {s t : TerminalState} {o : String × String} {ref : AgentSessionRef} {B : ℤ → Prop}

/-- The stale sessions are kept and the suppression of the source is not touched. -/
theorem Recorded.of_keeps (h : s.Recorded o ref B) (hkeeps : Keeps o ref s t)
    (hlookup : t.suppressedHookReports.lookup o.1 = s.suppressedHookReports.lookup o.1)
    (hinstalled : s.NotInstalled o → t.NotInstalled o) : t.Recorded o ref B := by
  refine ⟨hkeeps.staleAfter B h.staleAfter, h.record.imp hkeeps.isStale fun hsuppressed => ⟨?_, ?_⟩⟩
  · unfold SuppressedAfter
    rw [hlookup]
    exact hsuppressed.1
  · exact hinstalled hsuppressed.2

/-- Nothing is said of the fields that record no session. -/
theorem Recorded.of_eq (h : s.Recorded o ref B)
    (hstale : t.staleHookSessions = s.staleHookSessions)
    (hsuppressed : t.suppressedHookReports = s.suppressedHookReports)
    (hinstalled : s.NotInstalled o → t.NotInstalled o) : t.Recorded o ref B :=
  h.of_keeps (.of_eq (by rw [staleSessions, hstale, staleSessions])) (by rw [hsuppressed])
    hinstalled

/-- Fewer boundaries. -/
theorem Recorded.mono (h : s.Recorded o ref B) {B' : ℤ → Prop} (hB : ∀ b, B' b → B b) :
    s.Recorded o ref B' := by
  refine ⟨fun x hx hof b hb => h.staleAfter x hx hof b (hB b hb), h.record.imp_right ?_⟩
  rintro ⟨⟨y, hy, hlabel, href, hafter⟩, hnot⟩
  exact ⟨⟨y, hy, hlabel, href, fun b hb => hafter b (hB b hb)⟩, hnot⟩

theorem Recorded.isStale (h : s.Recorded o ref B) (hinstalled : ¬ s.NotInstalled o) :
    s.IsStale o ref :=
  h.record.resolve_right fun hsuppressed => hinstalled hsuppressed.2

variable {source label : String}

/-- The record is replaced only when the session is stale already. -/
theorem Recorded.suppressHookReportWithSessionRef (h : s.Recorded o ref B)
    (hstale : source = o.1 → s.IsStale o ref) (suppressed : Option AgentSessionRef)
    (reason : HookSuppressionReason) (observedAt : ℤ) :
    (s.suppressHookReportWithSessionRef source label suppressed reason observedAt).Recorded o ref
      B := by
  have hkeeps : Keeps o ref s (s.suppressHookReportWithSessionRef source label suppressed reason
      observedAt) :=
    s.suppressHookReportWithSessionRef_keeps source label suppressed reason observedAt
  by_cases hsource : source = o.1
  · exact ⟨hkeeps.staleAfter B h.staleAfter, Or.inl (hkeeps.isStale (hstale hsource))⟩
  · exact h.of_keeps hkeeps (AList.lookup_insert_ne (Ne.symm hsource)) id

/-- The session is remembered again : its entries age. -/
theorem rememberStaleHookSession_aged (hs : s.IsStale o ref) (hB : s.StaleAfter o ref B)
    (retiredAt : ℤ) (evidence loss : Option ℤ) :
    (s.rememberStaleHookSession o.1 o.2 ref retiredAt evidence loss).IsStale o ref ∧
      (s.rememberStaleHookSession o.1 o.2 ref retiredAt evidence loss).StaleAfter o ref B := by
  have hlist := staleSessions_rememberStaleHookSession s o.1 o.2 ref retiredAt evidence loss o.1
  have hany : ((s.staleSessions o.1).any fun x => x.agentLabel = o.2 ∧ x.sessionRef = ref) =
      true := by
    obtain ⟨x, hx, hof⟩ := hs
    exact List.any_eq_true.2 ⟨x, hx, decide_eq_true hof⟩
  rw [if_pos rfl, remembered, if_pos hany] at hlist
  have hkeeps : Keeps o ref s
      (s.rememberStaleHookSession o.1 o.2 ref retiredAt evidence loss) := by
    refine .of_map hlist (fun x => ?_) (fun x => ?_) (fun x => ?_)
    · split
      · exact (x.retireAgain_spec retiredAt evidence loss).1
      · rfl
    · split
      · exact (x.retireAgain_spec retiredAt evidence loss).2.1
      · rfl
    · split
      · exact (x.retireAgain_spec retiredAt evidence loss).2.2.1
      · exact le_refl _
  exact ⟨hkeeps.isStale hs, hkeeps.staleAfter B hB⟩

/-- Whatever is suppressed under a source becomes stale : the record of the session moves. -/
theorem rememberSuppressed_recorded (hs : s.StaleAfter o ref B) {y : SuppressedHookReport}
    {suppressedRef : AgentSessionRef}
    (hself : (source, y.agentLabel, suppressedRef) = (o.1, o.2, ref) → s.IsStale o ref ∨
      ∀ b, B b → b ≤ y.observedAt ∨ ∃ l, y.lastLossObservedAt = some l ∧ b ≤ l)
    (evidence : Option ℤ) :
    let t := s.rememberStaleHookSession source y.agentLabel suppressedRef y.observedAt evidence
      y.lastLossObservedAt
    t.StaleAfter o ref B ∧
      (s.IsStale o ref ∨ (source, y.agentLabel, suppressedRef) = (o.1, o.2, ref) →
        t.IsStale o ref) := by
  by_cases hsame : (source, y.agentLabel, suppressedRef) = (o.1, o.2, ref)
  · have hmoved : (s.rememberStaleHookSession o.1 o.2 ref y.observedAt evidence
        y.lastLossObservedAt).IsStale o ref ∧ (s.rememberStaleHookSession o.1 o.2 ref y.observedAt
        evidence y.lastLossObservedAt).StaleAfter o ref B := by
      obtain hstale | hB := hself hsame
      · exact rememberStaleHookSession_aged hstale hs y.observedAt evidence y.lastLossObservedAt
      · exact s.rememberStaleHookSession_self evidence y.lastLossObservedAt hB
    simp only [Prod.mk.injEq] at hsame
    obtain ⟨rfl, hlabel, rfl⟩ := hsame
    rw [hlabel]
    exact ⟨hmoved.2, fun _ => hmoved.1⟩
  · have hkeeps := s.rememberStaleHookSession_keeps hsame y.observedAt evidence
      y.lastLossObservedAt
    exact ⟨hkeeps.staleAfter B hs, fun h => hkeeps.isStale (h.resolve_right hsame)⟩

theorem Recorded.consumeSuppression (h : s.Recorded o ref B) (source : String) :
    (s.consumeSuppression source).Recorded o ref B := by
  have hshrinks := Shrinks.of_records (s.consumeSuppression_records source)
  unfold TerminalState.consumeSuppression at hshrinks ⊢
  cases hlookup : s.suppressedHookReports.lookup source with
  | none => exact h
  | some y =>
    simp only [hlookup] at hshrinks ⊢
    by_cases hsource : source = o.1
    · -- The suppression of the source itself is consumed.
      subst hsource
      cases hy : y.sessionRef with
      | none =>
        refine ⟨h.staleAfter, Or.inl (h.record.resolve_right ?_)⟩
        rintro ⟨⟨y', hy', -, href, -⟩, -⟩
        rw [hlookup] at hy'
        cases hy'
        rw [hy] at href
        cases href
      | some suppressedRef =>
        simp only [Option.elim_some]
        have hself : (o.1, y.agentLabel, suppressedRef) = (o.1, o.2, ref) → s.IsStale o ref ∨
            ∀ b, B b → b ≤ y.observedAt ∨ ∃ l, y.lastLossObservedAt = some l ∧ b ≤ l := by
          intro _
          refine h.record.imp_right ?_
          rintro ⟨⟨y', hy', -, -, hB⟩, -⟩
          rw [hlookup] at hy'
          cases hy'
          exact hB
        obtain ⟨hafter, hstale⟩ := rememberSuppressed_recorded (s := { s with
          suppressedHookReports := s.suppressedHookReports.erase o.1 }) h.staleAfter hself none
        refine ⟨hafter, Or.inl (hstale (h.record.imp_right ?_))⟩
        rintro ⟨⟨y', hy', hlabel, href, -⟩, -⟩
        rw [hlookup] at hy'
        cases hy'
        rw [hy] at href
        cases href
        rw [hlabel]
    · refine h.of_keeps ?_ ?_ hshrinks.notInstalled
      · cases y.sessionRef with
        | none => exact .of_eq rfl
        | some suppressedRef =>
          refine .of_eq ?_
          simp only [Option.elim_some, staleSessions_rememberStaleHookSession]
          rw [if_neg (Ne.symm hsource)]
          rfl
      · cases y.sessionRef with
        | none => exact AList.lookup_erase_ne (Ne.symm hsource)
        | some suppressedRef => exact AList.lookup_erase_ne (Ne.symm hsource)

theorem Recorded.forgetStaleHookSession (h : s.Recorded o ref B) {other : AgentSessionRef}
    (hne : (source, label, other) ≠ (o.1, o.2, ref)) :
    (s.forgetStaleHookSession source label other).Recorded o ref B :=
  h.of_keeps (s.forgetStaleHookSession_keeps hne)
    (by rw [forgetStaleHookSession_suppressed])
    (Shrinks.of_records (s.forgetStaleHookSession_records source label other)).notInstalled

/-- The session that is accepted is another one. -/
theorem Recorded.retireSuppressedSessionAfterAccepting (h : s.Recorded o ref B)
    {accepted : Option AgentSessionRef} (hne : (source, label) = o → accepted ≠ some ref) :
    (s.retireSuppressedSessionAfterAccepting source label accepted).Recorded o ref B := by
  cases accepted with
  | none => exact h.consumeSuppression source
  | some other =>
    refine (h.consumeSuppression source).forgetStaleHookSession fun hsame => ?_
    simp only [Prod.mk.injEq] at hsame
    exact hne (Prod.ext hsame.1 hsame.2.1) (by rw [hsame.2.2])

/-- A loss of the owner's agent moves its boundaries. -/
theorem Recorded.observeProcessLossForRetiredOwners (h : s.Recorded o ref B) (agent : Option Agent)
    (processExited : Bool) (observedAt : ℤ) :
    (s.observeProcessLossForRetiredOwners agent processExited observedAt).Recorded o ref
      fun b => B b ∨ showsLossOf agent processExited o.2 = true ∧ b = observedAt := by
  have hlist := staleSessions_mapWithKey s o.1 (fun _ stales => stales.map fun x =>
    if showsLossOf agent processExited x.agentLabel then x.observeProcessLoss observedAt else x) rfl
  have hkeeps : Keeps o ref s
      (s.observeProcessLossForRetiredOwners agent processExited observedAt) := by
    refine .of_map hlist (fun x => ?_) (fun x => ?_) (fun x => ?_)
    · split <;> simp
    · split <;> simp
    · split <;> simp
  have hinstalled := Shrinks.of_records
    (s.observeProcessLossForRetiredOwners_records agent processExited observedAt)
  refine ⟨fun x' hx' hof b hb => ?_, h.record.imp hkeeps.isStale fun hsuppressed =>
    ⟨?_, hinstalled.notInstalled hsuppressed.2⟩⟩
  · obtain hb | ⟨hloss, rfl⟩ := hb
    · exact hkeeps.staleAfter B h.staleAfter x' hx' hof b hb
    · -- The entry has seen the loss.
      have hx' : x' ∈ (s.staleSessions o.1).map fun x =>
          if showsLossOf agent processExited x.agentLabel then x.observeProcessLoss b else x :=
        hlist ▸ hx'
      obtain ⟨x, hx, rfl⟩ := List.mem_map.1 hx'
      have hlabel : x.agentLabel = o.2 := by
        rw [← hof.1]
        split <;> simp
      rw [hlabel, if_pos hloss]
      simp
  · obtain ⟨⟨y, hy, hlabel, href, hB⟩, -⟩ := hsuppressed
    unfold SuppressedAfter
    simp only [TerminalState.observeProcessLossForRetiredOwners, Assoc.lookup_mapWithKey, hy,
      Option.map_some, Option.some.injEq, exists_eq_left', hlabel]
    split
    · rename_i hloss
      obtain ⟨newest, hnewest⟩ := Option.ne_none_iff_exists'.1
        (advance_ne_none y.lastLossObservedAt observedAt)
      refine ⟨hlabel, href, fun b hb => ?_⟩
      have hlast : (y.observeProcessLoss observedAt).lastLossObservedAt = some newest := hnewest
      obtain hb | ⟨-, rfl⟩ := hb
      · obtain hb | ⟨l, hl, hb⟩ := hB b hb
        · exact Or.inl hb
        · refine Or.inr ⟨newest, hlast, le_trans hb ?_⟩
          rw [hl] at hnewest
          exact le_of_advance_eq_some hnewest
      · exact Or.inr ⟨newest, hlast, (advance_eq_some hnewest).1⟩
    · rename_i hloss
      refine ⟨hlabel, href, fun b hb => ?_⟩
      exact hB b (hb.resolve_right fun hb => hloss hb.1)

/-- Every suppression that is lifted becomes stale; the session's own is among them or stays. -/
theorem foldl_convertSuppression_recorded (observedAt : ℤ)
    (lifted : List (Sigma fun _ : String => SuppressedHookReport)) (s : TerminalState)
    (hs : s.StaleAfter o ref B)
    (hself : ∀ y, ⟨o.1, y⟩ ∈ lifted → (y.agentLabel, y.sessionRef) = (o.2, some ref) →
      s.IsStale o ref ∨ ∀ b, B b → b ≤ y.observedAt ∨ ∃ l, y.lastLossObservedAt = some l ∧ b ≤ l) :
    let t := lifted.foldl (fun s entry => s.convertSuppression observedAt entry.1 entry.2) s
    t.StaleAfter o ref B ∧
      (s.IsStale o ref ∨ (∃ y, ⟨o.1, y⟩ ∈ lifted ∧ (y.agentLabel, y.sessionRef) = (o.2, some ref)) →
        t.IsStale o ref) := by
  induction lifted generalizing s with
  | nil =>
    refine ⟨hs, fun h => h.resolve_right ?_⟩
    rintro ⟨y, hy, -⟩
    cases hy
  | cons entry lifted ih =>
    have hstep : (s.convertSuppression observedAt entry.1 entry.2).StaleAfter o ref B ∧
        (s.IsStale o ref ∨ entry.1 = o.1 ∧
          (entry.2.agentLabel, entry.2.sessionRef) = (o.2, some ref) →
          (s.convertSuppression observedAt entry.1 entry.2).IsStale o ref) := by
      unfold convertSuppression
      cases href : entry.2.sessionRef with
      | none =>
        refine ⟨hs, fun h => h.resolve_right ?_⟩
        rintro ⟨-, hsame⟩
        cases congrArg Prod.snd hsame
      | some suppressedRef =>
        have hsuppressed (hsame : (entry.1, entry.2.agentLabel, suppressedRef) =
            (o.1, o.2, ref)) : s.IsStale o ref ∨ ∀ b, B b → b ≤ entry.2.observedAt ∨
              ∃ l, entry.2.lastLossObservedAt = some l ∧ b ≤ l := by
          simp only [Prod.mk.injEq] at hsame
          obtain ⟨hsource, hlabel, rfl⟩ := hsame
          refine hself entry.2 ?_ (by rw [href, hlabel])
          rw [← hsource]
          exact List.mem_cons_self
        obtain ⟨hafter, hstale⟩ := rememberSuppressed_recorded hs hsuppressed (some observedAt)
        refine ⟨hafter, fun h => hstale (h.imp_right ?_)⟩
        rintro ⟨hsource, hsame⟩
        simp only [Prod.mk.injEq, Option.some.injEq] at hsame
        rw [hsource, hsame.1, hsame.2]
    obtain ⟨hafter, hstale⟩ := ih _ hstep.1 fun y hy hsame =>
      (hself y (List.mem_cons_of_mem _ hy) hsame).imp_left fun h => hstep.2 (Or.inl h)
    refine ⟨hafter, fun h => hstale ?_⟩
    obtain h | ⟨y, hy, hsame⟩ := h
    · exact Or.inl (hstep.2 (Or.inl h))
    · obtain rfl | hy := List.mem_cons.1 hy
      · exact Or.inl (hstep.2 (Or.inr ⟨rfl, hsame⟩))
      · exact Or.inr ⟨y, hy, hsame⟩

theorem Recorded.clearHookSuppressionForDetectedAgent (h : s.Recorded o ref B)
    (agent : Option Agent) (observedAt : ℤ) :
    (s.clearHookSuppressionForDetectedAgent agent observedAt).Recorded o ref B := by
  cases agent with
  | none => exact h
  | some detected =>
    have hsuppressed := s.clearHookSuppressionForDetectedAgent_suppressed detected observedAt
    have hinstalled := (Shrinks.of_records (s.clearHookSuppressionForDetectedAgent_records
      (some detected) observedAt)).notInstalled (o := o)
    have hlookup (y : SuppressedHookReport) :
        (⟨o.1, y⟩ ∈ s.suppressedHookReports.entries.filter fun entry =>
          liftsSuppression detected observedAt entry.2) ↔
        s.suppressedHookReports.lookup o.1 = some y ∧ liftsSuppression detected observedAt y := by
      rw [List.mem_filter, ← AList.mem_lookup_iff]
      rfl
    obtain ⟨hafter, hstale⟩ := foldl_convertSuppression_recorded (o := o) (B := B) observedAt
      (s.suppressedHookReports.entries.filter fun entry =>
        liftsSuppression detected observedAt entry.2)
      { s with
        suppressedHookReports := s.suppressedHookReports.filterWithKey
          fun _ suppressed => !liftsSuppression detected observedAt suppressed }
      h.staleAfter fun y hy _ => by
        refine h.record.imp_right ?_
        rintro ⟨⟨y', hy', -, -, hB⟩, -⟩
        rw [((hlookup y).1 hy).1] at hy'
        cases hy'
        exact hB
    have hrecord (u : TerminalState)
        (hsuppressed' : u.suppressedHookReports = s.suppressedHookReports.filterWithKey
          fun _ suppressed => !liftsSuppression detected observedAt suppressed)
        (hinstalled' : s.NotInstalled o → u.NotInstalled o)
        (hkeeps : Keeps o ref ((s.suppressedHookReports.entries.filter fun entry =>
          liftsSuppression detected observedAt entry.2).foldl
            (fun s entry => s.convertSuppression observedAt entry.1 entry.2) { s with
            suppressedHookReports := s.suppressedHookReports.filterWithKey
              fun _ suppressed => !liftsSuppression detected observedAt suppressed }) u) :
        u.Recorded o ref B := by
      refine ⟨hkeeps.staleAfter B hafter, ?_⟩
      obtain hs | ⟨⟨y, hy, hlabel, href, hB⟩, hnot⟩ := h.record
      · exact Or.inl (hkeeps.isStale (hstale (Or.inl hs)))
      · cases hlifts : liftsSuppression detected observedAt y with
        | true =>
          exact Or.inl (hkeeps.isStale (hstale (Or.inr ⟨y, (hlookup y).2 ⟨hy, hlifts⟩, by
            rw [hlabel, href]⟩)))
        | false =>
          refine Or.inr ⟨⟨y, ?_, hlabel, href, hB⟩, hinstalled' hnot⟩
          rw [hsuppressed', Assoc.lookup_filterWithKey, hy]
          simp [hlifts]
    refine hrecord _ hsuppressed hinstalled ?_
    have hlist (u : TerminalState) := staleSessions_mapWithKey u o.1 (fun _ stales =>
      stales.map fun x => if parseAgentLabel x.agentLabel = some detected then
        x.recordFreshProcessEvidence observedAt else x) rfl
    simp only [TerminalState.clearHookSuppressionForDetectedAgent]
    split
    · refine .of_map (hlist _) (fun x => ?_) (fun x => ?_) (fun x => ?_)
      · split <;> simp
      · split <;> simp
      · split <;> simp
    · refine .of_map (hlist _) (fun x => ?_) (fun x => ?_) (fun x => ?_)
      · split <;> simp
      · split <;> simp
      · split <;> simp

variable (happlies : hookReportRetirementApplies o.1 o.2 = true)

include happlies

theorem Recorded.suppressHookReport (h : s.Recorded o ref B)
    (hstale : (source, label) = o → s.IsStale o ref) (reason : HookSuppressionReason)
    (observedAt : ℤ) : (s.suppressHookReport source label reason observedAt).Recorded o ref B := by
  unfold TerminalState.suppressHookReport
  split
  · rename_i hother
    refine h.suppressHookReportWithSessionRef (fun hsource => hstale ?_) _ _ _
    by_contra hne
    exact source_ne_of_owner_ne happlies hother hne hsource
  · exact h

/-- The authority's own retirement comes when it is installed. -/
theorem Recorded.suppressCurrentHookAuthority (h : s.Recorded o ref B)
    (reason : HookSuppressionReason) (observedAt : ℤ) :
    (s.suppressCurrentHookAuthority reason observedAt).Recorded o ref B := by
  unfold TerminalState.suppressCurrentHookAuthority
  split
  · rename_i authority hauthority
    split
    · rename_i hfull
      have hother : hookReportRetirementApplies authority.source authority.agentLabel = true := by
        rw [hookReportRetirementApplies, hfull, Bool.true_or]
      refine h.suppressHookReportWithSessionRef (fun hsource => h.isStale fun hnot => ?_) _ _ _
      refine source_ne_of_owner_ne happlies hother (fun howner => hnot.1 ?_) hsource
      rw [authorityOwner, hauthority, ← howner]
      rfl
    · exact h
  · exact h

theorem Recorded.retireHookIdentity (h : s.Recorded o ref B) (reason : HookSuppressionReason)
    (observedAt : ℤ) : (s.retireHookIdentity reason observedAt).Recorded o ref B := by
  unfold TerminalState.retireHookIdentity
  split
  · rename_i identity hidentity
    have hstale (howner : (identity.source, identity.agentLabel) = o) : s.IsStale o ref := by
      refine h.isStale fun hnot => hnot.2 ?_
      rw [identityOwner, hidentity, ← howner]
      rfl
    simp only
    split
    · refine Recorded.suppressHookReport happlies (h.of_eq (t := { s with
        hookIdentity := none
        hookReportSequences := s.hookReportSequences.erase identity.source }) rfl rfl
        fun hnot => ⟨hnot.1, fun hnone => by cases hnone⟩) hstale reason observedAt
    · refine Recorded.suppressHookReport happlies (h.of_eq (t := { s with hookIdentity := none })
        rfl rfl fun hnot => ⟨hnot.1, fun hnone => by cases hnone⟩) hstale reason observedAt
  · exact h

theorem Recorded.observeAuthorityExit (h : s.Recorded o ref B) (agent : Option Agent) (now : ℤ) :
    (s.observeAuthorityExit agent now).Recorded o ref B := by
  have hshrinks := s.observeAuthorityExit_shrinks agent now
  unfold TerminalState.observeAuthorityExit at hshrinks ⊢
  split
  · split
    · exact h
    · split
      · exact (h.suppressCurrentHookAuthority happlies .processExit now).of_eq rfl rfl
          fun hnot => ⟨(fun hnone => by cases hnone), hnot.2⟩
      · exact h.of_eq rfl rfl (holdHookOwnerUnconfirmed_shrinks s _ _ now).notInstalled
  · exact h

theorem Recorded.observeIdentity (h : s.Recorded o ref B) (agent : Option Agent)
    (processExited : Bool) (now : ℤ) :
    (s.observeIdentity agent processExited now).Recorded o ref B := by
  unfold TerminalState.observeIdentity
  split
  · split
    · split
      · exact h.retireHookIdentity happlies _ now
      · exact h.of_eq rfl rfl (holdHookOwnerUnconfirmed_shrinks s _ _ now).notInstalled
    · split
      · exact h.retireHookIdentity happlies _ now
      · exact h
  · exact h

theorem Recorded.retireReplacedAuthority (h : s.Recorded o ref B) (agent previous : Option Agent)
    (now : ℤ) : (s.retireReplacedAuthority agent previous now).Recorded o ref B := by
  unfold TerminalState.retireReplacedAuthority
  split
  · split
    · exact (h.suppressCurrentHookAuthority happlies .hookClear now).of_eq rfl rfl
        fun hnot => ⟨(fun hnone => by cases hnone), hnot.2⟩
    · exact h
  · exact h

/-- A loss that is shown is a boundary from now on. -/
theorem Recorded.settleObservation (h : s.Recorded o ref B) (agent previous : Option Agent)
    (processExited : Bool) (now : ℤ) :
    (s.settleObservation agent previous processExited now).Recorded o ref
      fun b => B b ∨ showsLossOf agent processExited o.2 = true ∧ b = now := by
  have hloss := h.observeProcessLossForRetiredOwners agent processExited now
  refine Recorded.retireReplacedAuthority happlies ?_ agent previous now
  split
  · refine hloss.of_eq ?_ ?_ (dropExitedSession_shrinks _ agent).notInstalled
    · unfold dropExitedSession
      split <;> rfl
    · unfold dropExitedSession
      split <;> rfl
  · exact hloss

/-- An observation that is taken. -/
theorem Recorded.takeObservation (h : s.Recorded o ref B) (agent : Option Agent)
    (fallbackState : AgentState) (visibleBlocker processExited : Bool) (now : ℤ) :
    (s.takeObservation agent fallbackState visibleBlocker processExited now).Recorded o ref
      fun b => B b ∨ showsLossOf agent processExited o.2 = true ∧ b = now := by
  rw [takeObservation_eq]
  have hnoted : (s.noteObservation agent fallbackState visibleBlocker processExited now).Recorded o
      ref B := by
    unfold noteObservation
    have hdetected : { s with detectedAgent := agent }.Recorded o ref B := h.of_eq rfl rfl id
    cases processExited with
    | true => exact hdetected.of_eq rfl rfl id
    | false => exact (hdetected.clearHookSuppressionForDetectedAgent agent now).of_eq rfl rfl id
  generalize s.noteObservation agent fallbackState visibleBlocker processExited now = u at hnoted ⊢
  have howner : (u.observeOwner agent processExited now).Recorded o ref B := by
    unfold observeOwner
    refine Recorded.observeIdentity happlies ?_ agent processExited now
    split
    · exact hnoted.observeAuthorityExit happlies agent now
    · exact hnoted
  exact howner.settleObservation happlies agent s.detectedAgent processExited now

theorem Recorded.clearOwner (h : s.Recorded o ref B) (source : Option String) (now : ℤ) :
    (s.clearOwner source now).Recorded o ref B := by
  have hsuppress : (if s.shouldClearAuthority source then
      s.suppressCurrentHookAuthority .hookClear now else s).Recorded o ref B := by
    split
    · exact h.suppressCurrentHookAuthority happlies .hookClear now
    · exact h
  simp only [TerminalState.clearOwner]
  generalize (if s.shouldClearAuthority source = true then
    s.suppressCurrentHookAuthority .hookClear now else s) = u at hsuppress ⊢
  generalize (if s.shouldClearIdentity source = true then s.hookIdentity else none) = cleared
  have hretire : (if cleared.isSome then u.retireHookIdentity .hookClear now
      else u).Recorded o ref B := by
    split
    · exact hsuppress.retireHookIdentity happlies .hookClear now
    · exact hsuppress
  generalize (if cleared.isSome = true then u.retireHookIdentity .hookClear now else u) = v
    at hretire ⊢
  split
  · exact hretire.of_eq rfl rfl fun hnot => ⟨(fun hnone => by cases hnone), hnot.2⟩
  · split
    · split
      · exact hretire.of_eq rfl rfl id
      · exact hretire
    · split
      · exact hretire.of_eq rfl rfl id
      · exact hretire

/-- A release of the owner replaces its suppression, so the session has to be stale. -/
theorem Recorded.releaseOwner (h : s.Recorded o ref B)
    (hstale : (source, label) = o → s.IsStale o ref) (now : ℤ) :
    (s.releaseOwner source label now).Recorded o ref B := by
  have hshrinks := s.releaseOwner_shrinks source label now
  refine (h.suppressHookReport happlies hstale .hookClear now).of_eq rfl rfl fun hnot => ?_
  refine ⟨(fun hnone => by cases hnone), fun hidentity => hnot.2 ?_⟩
  rw [identityOwner, (s.suppressHookReport_records source label .hookClear now).hookIdentity]
  exact hshrinks.identity o hidentity

end

/-! ## The session anchors nothing -/

/-- The session is neither the authority's nor the persisted one. -/
structure Unanchored (s : TerminalState) (o : String × String) (ref : AgentSessionRef) : Prop where
  authority : s.authoritySession ≠ some (o.1, o.2, some ref)
  persisted : s.persistedAgentSession ≠ some { source := o.1, agent := o.2, sessionRef := ref }

/-- The retired session is on record and anchors nothing. -/
structure Guarded (s : TerminalState) (o : String × String) (ref : AgentSessionRef)
    (B : ℤ → Prop) : Prop where
  unanchored : s.Unanchored o ref
  recorded : s.Recorded o ref B

section

variable {s t : TerminalState} {o : String × String} {ref : AgentSessionRef} {B : ℤ → Prop}

theorem Shrinks.unanchored (h : Shrinks s t) (hs : s.Unanchored o ref) : t.Unanchored o ref := by
  refine ⟨fun ha => hs.authority (h.authority _ ha), fun hp => ?_⟩
  obtain hp | ha := h.persisted _ hp
  · exact hs.persisted hp
  · exact hs.authority ha

theorem Unanchored.current (h : s.Unanchored o ref) :
    s.currentSessionIdentityForPersistence ≠ some (o.1, o.2, ref) := by
  intro hcurrent
  obtain ha | ⟨-, hp⟩ := Option.or_eq_some_iff.1 hcurrent
  · obtain ⟨authority, hauthority, href⟩ := Option.bind_eq_some_iff.1 ha
    obtain ⟨sessionRef, hsession, heq⟩ := Option.map_eq_some_iff.1 href
    simp only [Prod.mk.injEq] at heq
    refine h.authority ?_
    rw [authoritySession, hauthority, Option.map_some, hsession, heq.1, heq.2.1, heq.2.2]
  · obtain ⟨session, hsession, heq⟩ := Option.map_eq_some_iff.1 hp
    simp only [Prod.mk.injEq] at heq
    refine h.persisted ?_
    rw [hsession, ← heq.1, ← heq.2.1, ← heq.2.2]

variable {named : Option AgentSessionRef}

/-- A report is not taken for the session. -/
theorem Unanchored.clampSessionRef (h : s.Unanchored o ref) (hnamed : named ≠ some ref) :
    s.clampSessionRef o.1 o.2 named ≠ some ref := by
  intro hclamped
  obtain ⟨other, rfl, hother⟩ := Option.map_eq_some_iff.1 hclamped
  cases hconflict : s.conflictingSameOwnerSessionRef o.1 o.2 other none with
  | none =>
    rw [hconflict, Option.getD_none] at hother
    exact hnamed (congrArg some hother)
  | some current =>
    rw [hconflict, Option.getD_some] at hother
    subst hother
    obtain ⟨⟨source, label, current'⟩, hcurrent, hsame⟩ := Option.bind_eq_some_iff.1 hconflict
    simp only at hsame
    split at hsame
    · rename_i howner
      cases hsame
      rw [howner.1, howner.2.1] at hcurrent
      exact h.current hcurrent
    · cases hsame

theorem lookup_consumeSuppression (s : TerminalState) (source : String) :
    (s.consumeSuppression source).suppressedHookReports.lookup source = none := by
  unfold consumeSuppression
  cases hlookup : s.suppressedHookReports.lookup source with
  | none => exact hlookup
  | some y =>
    simp only
    cases y.sessionRef <;> exact AList.lookup_erase _ _

theorem lookup_retireSuppressedSessionAfterAccepting (s : TerminalState) (source label : String)
    (accepted : Option AgentSessionRef) :
    (s.retireSuppressedSessionAfterAccepting source label
      accepted).suppressedHookReports.lookup source = none := by
  cases accepted with
  | none => exact s.lookup_consumeSuppression source
  | some ref =>
    have hforget := (s.consumeSuppression source).forgetStaleHookSession_suppressed source label ref
    exact (congrArg (AList.lookup source) hforget).trans (s.lookup_consumeSuppression source)

/-- With no suppression left, the record is a stale session. -/
theorem Recorded.isStale_of_lookup (h : s.Recorded o ref B)
    (hnone : s.suppressedHookReports.lookup o.1 = none) : s.IsStale o ref := by
  refine h.record.resolve_right ?_
  rintro ⟨⟨y, hy, -⟩, -⟩
  rw [hnone] at hy
  cases hy

/-- A report that names the session passes only as a reclaim. -/
theorem Recorded.reclaims_of_gate (h : s.Recorded o ref B)
    (happlies : hookReportRetirementApplies o.1 o.2 = true) {reason : Option String}
    {resetSequence : Bool}
    (hgate : s.hookReportSequenceResetAfterRetirement o.1 o.2 (some ref) reason =
      some resetSequence) :
    sessionStartSourceAllowsSessionReplacement o.1 o.2 reason = true ∧
      ∃ x ∈ s.staleSessions o.1, x.Of o.2 ref ∧ x.hasReclaimableProcessEvidence = true := by
  unfold hookReportSequenceResetAfterRetirement at hgate
  split at hgate
  · cases hgate
  · rename_i hsuppressed
    have hstale : s.IsStale o ref := by
      refine h.record.resolve_right ?_
      rintro ⟨⟨y, hy, hlabel, href, -⟩, -⟩
      refine hsuppressed ?_
      simp only [hookReportIsSuppressed, happlies, hy, hlabel, href, Bool.true_and,
        Option.any_some, ne_eq, not_true_eq_false, if_false, decide_true]
      split <;> rfl
    split at hgate
    · split at hgate
      · rename_i hreclaims
        simp only [explicitSessionStartReclaimsStaleSession, Bool.and_eq_true, Option.any_some,
          List.any_eq_true, decide_eq_true_eq] at hreclaims
        exact hreclaims
      · cases hgate
    · rename_i hmatches
      refine absurd ?_ hmatches
      obtain ⟨x, hx, hof⟩ := hstale
      simp only [hookReportMatchesStaleSession, happlies, Bool.true_and, Option.any_some,
        List.any_eq_true, decide_eq_true_eq]
      exact ⟨x, hx, hof.1, hof.2.symm⟩

/-- A report without a session passes only when the owner is not suppressed with one. -/
theorem Recorded.isStale_of_gate (h : s.Recorded o ref B)
    (happlies : hookReportRetirementApplies o.1 o.2 = true) {reason : Option String}
    {resetSequence : Bool}
    (hgate : s.hookReportSequenceResetAfterRetirement o.1 o.2 none reason = some resetSequence) :
    s.IsStale o ref := by
  unfold hookReportSequenceResetAfterRetirement at hgate
  split at hgate
  · cases hgate
  · rename_i hsuppressed
    refine h.record.resolve_right ?_
    rintro ⟨⟨y, hy, hlabel, href, -⟩, -⟩
    refine hsuppressed ?_
    simp only [hookReportIsSuppressed, happlies, hy, hlabel, href, Bool.true_and,
      Option.any_some, ne_eq, not_true_eq_false, if_false]
    split <;> rfl

variable {source label : String}

/-- An accepted report that is not for the session leaves it on record, and stale when the
report is the owner's. -/
theorem Guarded.admitHookReport (h : s.Guarded o ref B)
    (happlies : hookReportRetirementApplies o.1 o.2 = true) {resetSequence : Bool}
    (sequenceToStore : Option ℕ)
    (hgate : s.hookReportSequenceResetAfterRetirement source label named none =
      some resetSequence) (hnamed : (source, label) = o → named ≠ some ref) :
    let t := s.admitHookReport source label (s.clampSessionRef source label named) resetSequence
      sequenceToStore
    t.Recorded o ref B ∧ ((source, label) = o →
      s.clampSessionRef source label named ≠ some ref ∧ t.IsStale o ref) := by
  have hclamped (howner : (source, label) = o) : s.clampSessionRef source label named ≠ some ref := by
    have := h.unanchored.clampSessionRef (hnamed howner)
    rw [← howner] at this
    exact this
  have hcommit : (s.commitHookReportAdmission source resetSequence sequenceToStore).Recorded o ref
      B := h.recorded.of_eq rfl rfl id
  unfold TerminalState.admitHookReport
  split
  · have haccept := hcommit.retireSuppressedSessionAfterAccepting hclamped
    refine ⟨haccept, fun howner => ⟨hclamped howner, haccept.isStale_of_lookup ?_⟩⟩
    rw [← howner]
    exact lookup_retireSuppressedSessionAfterAccepting _ source label _
  · rename_i hnone
    have hnone : named = none := by
      simpa [TerminalState.clampSessionRef] using hnone
    refine ⟨hcommit, fun howner => ⟨hclamped howner, ?_⟩⟩
    subst howner hnone
    exact h.recorded.isStale_of_gate happlies hgate

theorem setHookAuthority_guarded (happlies : hookReportRetirementApplies o.1 o.2 = true)
    (h : s.Guarded o ref B) {state : AgentState} {message : Option String} {seq : Option ℕ}
    {now : ℤ} (hidentity : sessionIdentityOnlyIntegration source label = false)
    (hnamed : (source, label) = o → named ≠ some ref)
    (haccepted : s.setHookAuthority source label state message named seq now = some t) :
    t.Guarded o ref B := by
  obtain ⟨-, resetSequence, sequenceToStore, hgate, rfl⟩ :=
    setHookAuthority_eq_some hidentity haccepted
  obtain ⟨hrecorded, howner⟩ := h.admitHookReport happlies sequenceToStore hgate hnamed
  constructor
  · refine ⟨fun ha => ?_, fun hp => by cases hp⟩
    have hsession : (source, label, s.clampSessionRef source label named) =
        (o.1, o.2, some ref) := Option.some.inj ha
    simp only [Prod.mk.injEq] at hsession
    exact (howner (Prod.ext hsession.1 hsession.2.1)).1 hsession.2.2
  · by_cases hsame : (source, label) = o
    · exact ⟨hrecorded.staleAfter, Or.inl (howner hsame).2⟩
    · refine hrecorded.of_eq rfl rfl fun hnot => ⟨fun ha => hsame (Option.some.inj ha), fun hi => ?_⟩
      obtain ⟨identity, hfilter, hsome⟩ := Option.map_eq_some_iff.1 hi
      refine hnot.2 ?_
      rw [identityOwner, (Option.filter_eq_some_iff.1 hfilter).1, ← hsome]
      rfl

theorem recordIdentityOnlyHookReport_guarded (happlies : hookReportRetirementApplies o.1 o.2 = true)
    (h : s.Guarded o ref B) {seq : Option ℕ} {now : ℤ}
    (hnamed : (source, label) = o → named ≠ some ref)
    (haccepted : s.recordIdentityOnlyHookReport source label named seq now = some t) :
    t.Guarded o ref B := by
  obtain ⟨-, resetSequence, sequenceToStore, hgate, rfl⟩ :=
    recordIdentityOnlyHookReport_eq_some haccepted
  obtain ⟨hrecorded, howner⟩ := h.admitHookReport happlies sequenceToStore hgate hnamed
  have hrecords := admitHookReport_records s source label (s.clampSessionRef source label named)
    resetSequence sequenceToStore
  have hunanchored := (Shrinks.of_records hrecords).unanchored h.unanchored
  generalize hclamped : s.clampSessionRef source label named = clamped at *
  generalize s.admitHookReport source label clamped resetSequence sequenceToStore = u at *
  have hrecord (v : TerminalState) (hstale : v.staleHookSessions = u.staleHookSessions)
      (hsuppressed : v.suppressedHookReports = u.suppressedHookReports)
      (ha : v.authorityOwner = u.authorityOwner) (hi : v.identityOwner = some (source, label)) :
      v.Recorded o ref B := by
    by_cases hsame : (source, label) = o
    · have hu : u.Recorded o ref B := ⟨hrecorded.staleAfter, Or.inl (howner hsame).2⟩
      have hkeeps : Keeps o ref u v := .of_eq (by rw [staleSessions, hstale, staleSessions])
      exact ⟨hkeeps.staleAfter B hu.staleAfter, Or.inl (hkeeps.isStale (howner hsame).2)⟩
    · refine hrecorded.of_eq hstale hsuppressed fun hnot => ⟨?_, ?_⟩
      · rw [ha]
        exact hnot.1
      · rw [hi]
        exact fun heq => hsame (Option.some.inj heq)
  cases clamped with
  | none => exact ⟨⟨hunanchored.authority, hunanchored.persisted⟩, hrecord _ rfl rfl rfl rfl⟩
  | some accepted =>
    refine ⟨⟨hunanchored.authority, fun hp => ?_⟩, hrecord _ rfl rfl rfl rfl⟩
    have hsession := Option.some.inj hp
    simp only [PersistedAgentSession.mk.injEq] at hsession
    exact (howner (Prod.ext hsession.1 hsession.2.1)).1 (congrArg some hsession.2.2)

/-- The session of the authority that is replaced is the authority's. -/
theorem sameOwnerFullLifecycleHookAuthoritySessionRef_eq_some {named replaced : AgentSessionRef}
    (h : s.sameOwnerFullLifecycleHookAuthoritySessionRef source label named = some replaced) :
    s.authoritySession = some (source, label, some replaced) := by
  obtain ⟨authority, hauthority, hsession⟩ := Option.bind_eq_some_iff.1 h
  split at hsession
  · rename_i howner
    rw [authoritySession, hauthority, Option.map_some, howner.2.1, howner.2.2,
      (Option.filter_eq_some_iff.1 hsession).1]
  · cases hsession

theorem Recorded.reclaimSession (h : s.Recorded o ref B) {named : AgentSessionRef}
    (hne : (source, label, named) ≠ (o.1, o.2, ref)) (reason : Option String) :
    (s.reclaimSession source label named reason).Recorded o ref B := by
  unfold TerminalState.reclaimSession
  split
  · exact h.forgetStaleHookSession hne
  · exact h

theorem Recorded.retireReplacedSession (h : s.Recorded o ref B) (replaced : Option AgentSessionRef)
    (hne : ∀ other, replaced = some other → (source, label, other) ≠ (o.1, o.2, ref)) (now : ℤ) :
    (s.retireReplacedSession source label replaced now).Recorded o ref B := by
  cases replaced with
  | none => exact h
  | some other =>
    exact h.of_keeps ((s.rememberStaleHookSession_keeps (hne other rfl) now none none).trans
      (.of_eq rfl)) rfl fun hnot => ⟨(fun hnone => by cases hnone), hnot.2⟩

theorem Recorded.retireForeignSession (h : s.Recorded o ref B) (hs : s.Unanchored o ref)
    (ownerConflicts : Bool) (now : ℤ) :
    (s.retireForeignSession ownerConflicts now).Recorded o ref B := by
  unfold TerminalState.retireForeignSession
  split
  · rename_i old hold
    refine h.of_keeps (s.rememberStaleHookSession_keeps (fun hsame => hs.persisted ?_) now none none)
      rfl id
    simp only [Prod.mk.injEq] at hsame
    rw [hold, ← hsame.1, ← hsame.2.1, ← hsame.2.2]
  · exact h

theorem setAgentSessionRefForSessionStart_guarded (h : s.Guarded o ref B) {seq : Option ℕ}
    {reason : Option String} {observation : Option ForegroundProcessObservation} {now : ℤ}
    (hnamed : (source, label) = o → named ≠ some ref)
    (haccepted : s.setAgentSessionRefForSessionStart source label named seq reason observation
      now = some t) : t.Guarded o ref B := by
  obtain ⟨named, rfl, -, resetSequence, sequenceToStore, -, rfl⟩ :=
    setAgentSessionRefForSessionStart_eq_some haccepted
  have hne : (source, label, named) ≠ (o.1, o.2, ref) := by
    intro hsame
    simp only [Prod.mk.injEq] at hsame
    exact hnamed (Prod.ext hsame.1 hsame.2.1) (by rw [hsame.2.2])
  have hunanchored : (s.commitHookReportAdmission source resetSequence
      sequenceToStore).Unanchored o ref := ⟨h.unanchored.authority, h.unanchored.persisted⟩
  have hcommit : (s.commitHookReportAdmission source resetSequence sequenceToStore).Recorded o ref
      B := h.recorded.of_eq rfl rfl id
  generalize s.commitHookReportAdmission source resetSequence sequenceToStore = u at *
  generalize s.currentSessionOwnerConflicts source label = ownerConflicts
  simp only [anchorSessionStart]
  -- Up to the identity, the sessions that are retired or forgotten are others.
  have hreclaim := Shrinks.of_records (u.reclaimSession_records source label named reason)
  have hreplace := hreclaim.trans (retireReplacedSession_shrinks _ source label
    (u.sameOwnerFullLifecycleHookAuthoritySessionRef source label named) now)
  have hforeign := hreplace.trans (.of_records (retireForeignSession_records _ ownerConflicts now))
  have hrecorded := ((hcommit.reclaimSession hne reason).retireReplacedSession
    (u.sameOwnerFullLifecycleHookAuthoritySessionRef source label named)
    (fun other hother hsame => hunanchored.authority (by
      rw [sameOwnerFullLifecycleHookAuthoritySessionRef_eq_some hother]
      simp only [Prod.mk.injEq] at hsame
      rw [hsame.1, hsame.2.1, hsame.2.2])) now).retireForeignSession
    (hreplace.unanchored hunanchored) ownerConflicts now
  have hkept := hforeign.unanchored hunanchored
  generalize (((u.reclaimSession source label named reason).retireReplacedSession source label
    (u.sameOwnerFullLifecycleHookAuthoritySessionRef source label named)
    now).retireForeignSession ownerConflicts now) = v at hrecorded hkept ⊢
  have hpersisted : (some { source, agent := label, sessionRef := named } :
      Option PersistedAgentSession) ≠ some { source := o.1, agent := o.2, sessionRef := ref } := by
    intro hsame
    simp only [Option.some.injEq, PersistedAgentSession.mk.injEq] at hsame
    exact hne (by rw [hsame.1, hsame.2.1, hsame.2.2])
  unfold anchorIdentity
  split
  · have haccept : (v.retireSuppressedSessionAfterAccepting source label (some named)).Recorded o
        ref B := hrecorded.retireSuppressedSessionAfterAccepting hnamed
    have hlookup := v.lookup_retireSuppressedSessionAfterAccepting source label (some named)
    have hauthority := (Shrinks.of_records (v.retireSuppressedSessionAfterAccepting_records source
      label (some named))).unanchored hkept
    generalize v.retireSuppressedSessionAfterAccepting source label (some named) = w at *
    refine ⟨⟨hauthority.authority, hpersisted⟩, ?_⟩
    by_cases hsame : (source, label) = o
    · subst hsame
      exact ⟨haccept.staleAfter, Or.inl (haccept.isStale_of_lookup hlookup)⟩
    · exact haccept.of_eq rfl rfl fun hnot => ⟨hnot.1, fun hi => hsame (Option.some.inj hi)⟩
  · exact ⟨⟨hkept.authority, hpersisted⟩, hrecorded.of_eq rfl rfl id⟩

end

end TerminalState

end Zynk
