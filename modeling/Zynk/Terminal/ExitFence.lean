import Zynk.Terminal.Coherence

/-!
# Unanswered exits

An exit of an owner's agent that the detector reports bars the owner from anchoring a receipt
until a running observation of the agent, captured after it, answers it. The exit either
retires the owner, which leaves a record that refuses its reports (`Suppressed`), or is held
against it, in a fence that the owner's next records inherit (`Fenced`).

The bar is kept by every step but a few (`WeakensExit`). Two are the design of the fence :
one exit is kept, the oldest of the owner it was last held against. Two replace the record of
the retirement : a release of an owner that its exit has retired, and a report with a
session from the same source under another label.
-/

namespace Zynk

namespace TerminalState

/-- The suppression of an owner by an exit, not captured before `e`. -/
def ExitRecord (s : TerminalState) (o : String × String) (e : ℤ) : Prop :=
  ∃ r, s.suppressedHookReports.lookup o.1 = some r ∧ r.agentLabel = o.2 ∧
    r.reason = .processExit ∧ e ≤ r.observedAt

/-- The owner was retired by an exit. -/
structure Suppressed (s : TerminalState) (o : String × String) (e : ℤ) : Prop where
  record : s.ExitRecord o e
  authority : s.authorityOwner ≠ some o
  identity : s.identityOwner ≠ some o

/-- An exit is held against the owner, wherever it is written down. -/
structure Fenced (s : TerminalState) (o : String × String) (e : ℤ) : Prop where
  fence : ∃ p, s.unansweredHookExit = some (HookOwner.new o.1 o.2, p) ∧ e ≤ p
  authority : ∀ a, s.hookAuthority = some a → (a.source, a.agentLabel) = o →
    ∃ p, a.unconfirmedSince = some p ∧ e ≤ p
  identity : ∀ i, s.hookIdentity = some i → (i.source, i.agentLabel) = o →
    ∃ p, i.unconfirmedSince = some p ∧ e ≤ p

/-- An exit captured at `e` bars the owner. -/
def Barred (s : TerminalState) (o : String × String) (e : ℤ) : Prop :=
  s.Suppressed o e ∨ s.Fenced o e

/-- An owner that is barred anchors no receipt. -/
theorem Barred.not_confirmed {s : TerminalState} {o : String × String} {e : ℤ}
    (h : s.Barred o e) : s.confirmedHookOwner ≠ some o := by
  intro hconfirmed
  obtain ⟨authority, hauthority, howner, hnone⟩ | ⟨identity, hidentity, howner, hnone⟩ :=
    confirmedHookOwner_eq_some hconfirmed
  · obtain hs | hf := h
    · exact hs.authority (by rw [authorityOwner, hauthority, ← howner]; rfl)
    · obtain ⟨p, hp, -⟩ := hf.authority authority hauthority howner
      rw [hnone] at hp
      cases hp
  · obtain hs | hf := h
    · exact hs.identity (by rw [identityOwner, hidentity, ← howner]; rfl)
    · obtain ⟨p, hp, -⟩ := hf.identity identity hidentity howner
      rw [hnone] at hp
      cases hp

/-! ## Operations that drop owners -/

/-- `t` has the authority and the identity of `s` or none, and the fence of `s`. -/
structure Drops (s t : TerminalState) : Prop where
  unanswered : t.unansweredHookExit = s.unansweredHookExit
  authority : ∀ a, t.hookAuthority = some a → s.hookAuthority = some a
  identity : ∀ i, t.hookIdentity = some i → s.hookIdentity = some i

namespace Drops

variable {s t u : TerminalState} {o : String × String} {e : ℤ}

theorem refl (s : TerminalState) : Drops s s :=
  ⟨rfl, fun _ h => h, fun _ h => h⟩

theorem trans (h : Drops s t) (h' : Drops t u) : Drops s u :=
  ⟨h'.unanswered.trans h.unanswered, fun a ha => h.authority a (h'.authority a ha),
    fun i hi => h.identity i (h'.identity i hi)⟩

theorem of_eq (ha : t.hookAuthority = s.hookAuthority) (hi : t.hookIdentity = s.hookIdentity)
    (hu : t.unansweredHookExit = s.unansweredHookExit) : Drops s t :=
  ⟨hu, fun _ h => ha ▸ h, fun _ h => hi ▸ h⟩

theorem of_records (h : RecordsOnly s t) : Drops s t :=
  .of_eq h.hookAuthority h.hookIdentity h.unansweredHookExit

theorem authorityOwner (h : Drops s t) (hs : s.authorityOwner ≠ some o) :
    t.authorityOwner ≠ some o := by
  intro ht
  obtain ⟨authority, hauthority, rfl⟩ := Option.map_eq_some_iff.1 ht
  exact hs (by rw [TerminalState.authorityOwner, h.authority authority hauthority]; rfl)

theorem identityOwner (h : Drops s t) (hs : s.identityOwner ≠ some o) :
    t.identityOwner ≠ some o := by
  intro ht
  obtain ⟨identity, hidentity, rfl⟩ := Option.map_eq_some_iff.1 ht
  exact hs (by rw [TerminalState.identityOwner, h.identity identity hidentity]; rfl)

theorem fenced (h : Drops s t) (hs : s.Fenced o e) : t.Fenced o e := by
  refine ⟨?_, fun a ha => hs.authority a (h.authority a ha),
    fun i hi => hs.identity i (h.identity i hi)⟩
  rw [h.unanswered]
  exact hs.fence

theorem suppressed (h : Drops s t) (hs : s.Suppressed o e) (hrecord : t.ExitRecord o e) :
    t.Suppressed o e :=
  ⟨hrecord, h.authorityOwner hs.authority, h.identityOwner hs.identity⟩

end Drops

theorem dropAuthority_drops (s : TerminalState) : Drops s { s with hookAuthority := none } :=
  ⟨rfl, (fun _ h => by cases h), fun _ h => h⟩

theorem dropIdentity_drops (s : TerminalState) : Drops s { s with hookIdentity := none } :=
  ⟨rfl, fun _ h => h, fun _ h => by cases h⟩

theorem retireHookIdentity_drops (s : TerminalState) (reason : HookSuppressionReason)
    (observedAt : ℤ) : Drops s (s.retireHookIdentity reason observedAt) :=
  s.dropIdentity_drops.trans (.of_records (s.retireHookIdentity_records reason observedAt))

theorem dropExitedSession_drops (s : TerminalState) (agent : Option Agent) :
    Drops s (s.dropExitedSession agent) := by
  unfold dropExitedSession
  split
  · exact .of_eq rfl rfl rfl
  · exact .refl s

theorem retireReplacedAuthority_drops (s : TerminalState) (agent previous : Option Agent)
    (now : ℤ) : Drops s (s.retireReplacedAuthority agent previous now) := by
  unfold retireReplacedAuthority
  split
  · split
    · have hrecords := suppressCurrentHookAuthority_records s .hookClear now
      exact ⟨hrecords.unansweredHookExit, (fun _ h => by cases h),
        fun _ h => hrecords.hookIdentity ▸ h⟩
    · exact .refl s
  · exact .refl s

theorem clearOwner_drops (s : TerminalState) (source : Option String) (now : ℤ) :
    Drops s (s.clearOwner source now) := by
  have hsuppress (clears : Bool) (s : TerminalState) :
      Drops s (if clears then s.suppressCurrentHookAuthority .hookClear now else s) := by
    split
    · exact .of_records (s.suppressCurrentHookAuthority_records .hookClear now)
    · exact .refl s
  have hretire (cleared : Option HookIdentity) (s : TerminalState) :
      Drops s (if cleared.isSome then s.retireHookIdentity .hookClear now else s) := by
    split
    · exact s.retireHookIdentity_drops .hookClear now
    · exact .refl s
  refine (hsuppress (s.shouldClearAuthority source) s).trans <|
    (hretire (if s.shouldClearIdentity source then s.hookIdentity else none) _).trans ?_
  simp only [clearOwner]
  generalize (if (if s.shouldClearIdentity source = true then s.hookIdentity else none).isSome = true
    then _ else _ : TerminalState) = u
  split
  · exact ⟨rfl, (fun _ h => by cases h), fun _ h => h⟩
  · split
    · split
      · exact .of_eq rfl rfl rfl
      · exact .refl u
    · split
      · exact .of_eq rfl rfl rfl
      · exact .refl u

theorem releaseOwner_drops (s : TerminalState) (source label : String) (now : ℤ) :
    Drops s (s.releaseOwner source label now) := by
  have hrecords := suppressHookReport_records s source label .hookClear now
  exact ⟨hrecords.unansweredHookExit, (fun _ h => by cases h),
    fun _ h => (Option.filter_eq_some_iff.1 h).1⟩

/-! ## The record of the exit -/

section

variable {s t : TerminalState} {o : String × String} {e : ℤ}

theorem ExitRecord.of_eq (h : s.ExitRecord o e)
    (heq : t.suppressedHookReports.lookup o.1 = s.suppressedHookReports.lookup o.1) :
    t.ExitRecord o e := by
  unfold ExitRecord
  rw [heq]
  exact h

/-- Nothing is said of the fields that bar no owner. -/
theorem Barred.of_eq (h : s.Barred o e) (howner : t.SameOwner s)
    (hsuppressed : t.suppressedHookReports = s.suppressedHookReports) : t.Barred o e := by
  have hdrops := Drops.of_eq howner.1 howner.2.1 howner.2.2
  obtain hs | hf := h
  · exact Or.inl (hdrops.suppressed hs (hs.record.of_eq (congrArg _ hsuppressed)))
  · exact Or.inr (hdrops.fenced hf)

/-- The exit is recorded. -/
theorem exitRecord_suppressHookReportWithSessionRef (s : TerminalState) (source label : String)
    (ref : Option AgentSessionRef) (now : ℤ) :
    (s.suppressHookReportWithSessionRef source label ref .processExit now).ExitRecord
      (source, label) now :=
  ⟨_, AList.lookup_insert s.suppressedHookReports, rfl, rfl, le_refl now⟩

/-- Another source is suppressed. -/
theorem ExitRecord.suppressHookReportWithSessionRef (h : s.ExitRecord o e) {source : String}
    (hne : source ≠ o.1) (label : String) (ref : Option AgentSessionRef)
    (reason : HookSuppressionReason) (observedAt : ℤ) :
    (s.suppressHookReportWithSessionRef source label ref reason observedAt).ExitRecord o e :=
  h.of_eq (AList.lookup_insert_ne (Ne.symm hne))

/-- Another source's suppression is consumed. -/
theorem ExitRecord.consumeSuppression (h : s.ExitRecord o e) {source : String}
    (hne : source ≠ o.1) : (s.consumeSuppression source).ExitRecord o e := by
  have herase := AList.lookup_erase_ne (s := s.suppressedHookReports) (Ne.symm hne)
  refine h.of_eq ?_
  unfold TerminalState.consumeSuppression
  split
  · rfl
  · rename_i suppressed _
    cases suppressed.sessionRef <;> exact herase

theorem ExitRecord.retireSuppressedSessionAfterAccepting (h : s.ExitRecord o e) {source : String}
    (hne : source ≠ o.1) (label : String) (ref : Option AgentSessionRef) :
    (s.retireSuppressedSessionAfterAccepting source label ref).ExitRecord o e := by
  cases ref with
  | none => exact h.consumeSuppression hne
  | some ref =>
    refine (h.consumeSuppression hne).of_eq ?_
    exact congrArg _ (forgetStaleHookSession_suppressed _ source label ref)

/-- A loss is added to the record. -/
theorem ExitRecord.observeProcessLossForRetiredOwners (h : s.ExitRecord o e)
    (agent : Option Agent) (processExited : Bool) (observedAt : ℤ) :
    (s.observeProcessLossForRetiredOwners agent processExited observedAt).ExitRecord o e := by
  obtain ⟨r, hr, hlabel, hreason, he⟩ := h
  unfold ExitRecord
  simp only [TerminalState.observeProcessLossForRetiredOwners, Assoc.lookup_mapWithKey, hr,
    Option.map_some, Option.some.injEq, exists_eq_left']
  split <;> exact ⟨hlabel, hreason, he⟩

/-- A running observation that is not newer than the exit does not lift it. -/
theorem ExitRecord.clearHookSuppressionForDetectedAgent (h : s.ExitRecord o e)
    {agent : Option Agent} {observedAt : ℤ}
    (hanswer : parseAgentLabel o.2 = agent → observedAt ≤ e) :
    (s.clearHookSuppressionForDetectedAgent agent observedAt).ExitRecord o e := by
  cases agent with
  | none => exact h
  | some detected =>
    obtain ⟨r, hr, hlabel, hreason, he⟩ := h
    have hkept : liftsSuppression detected observedAt r = false := by
      rw [Bool.eq_false_iff]
      intro hlifts
      simp only [liftsSuppression, Bool.and_eq_true, beq_iff_eq, decide_eq_true_eq, hlabel]
        at hlifts
      have := hanswer hlifts.1.1
      omega
    refine ⟨r, ?_, hlabel, hreason, he⟩
    rw [clearHookSuppressionForDetectedAgent_suppressed, Assoc.lookup_filterWithKey, hr]
    simp [hkept]

variable (happlies : hookReportRetirementApplies o.1 o.2 = true)

include happlies

theorem ExitRecord.suppressHookReport (h : s.ExitRecord o e) {source label : String}
    (hne : (source, label) ≠ o) (reason : HookSuppressionReason) (observedAt : ℤ) :
    (s.suppressHookReport source label reason observedAt).ExitRecord o e := by
  unfold TerminalState.suppressHookReport
  split
  · rename_i hother
    exact h.suppressHookReportWithSessionRef (source_ne_of_owner_ne happlies hother hne) _ _ _ _
  · exact h

theorem ExitRecord.suppressCurrentHookAuthority (h : s.ExitRecord o e)
    (hne : s.authorityOwner ≠ some o) (reason : HookSuppressionReason) (observedAt : ℤ) :
    (s.suppressCurrentHookAuthority reason observedAt).ExitRecord o e := by
  unfold TerminalState.suppressCurrentHookAuthority
  split
  · rename_i authority hauthority
    split
    · rename_i hfull
      have hother : hookReportRetirementApplies authority.source authority.agentLabel = true := by
        rw [hookReportRetirementApplies, hfull, Bool.true_or]
      refine h.suppressHookReportWithSessionRef (source_ne_of_owner_ne happlies hother ?_) _ _ _ _
      rintro rfl
      exact hne (by rw [authorityOwner, hauthority]; rfl)
    · exact h
  · exact h

theorem ExitRecord.retireHookIdentity (h : s.ExitRecord o e) (hne : s.identityOwner ≠ some o)
    (reason : HookSuppressionReason) (observedAt : ℤ) :
    (s.retireHookIdentity reason observedAt).ExitRecord o e := by
  unfold TerminalState.retireHookIdentity
  split
  · rename_i identity hidentity
    have howner : (identity.source, identity.agentLabel) ≠ o := by
      rintro rfl
      exact hne (by rw [identityOwner, hidentity]; rfl)
    simp only
    split
    · exact ExitRecord.suppressHookReport happlies (h.of_eq (t := { s with
        hookIdentity := none
        hookReportSequences := s.hookReportSequences.erase identity.source }) rfl) howner reason
        observedAt
    · exact ExitRecord.suppressHookReport happlies (h.of_eq (t := { s with hookIdentity := none })
        rfl) howner reason observedAt
  · exact h

theorem ExitRecord.observeAuthorityExit (h : s.ExitRecord o e) (hne : s.authorityOwner ≠ some o)
    (agent : Option Agent) (now : ℤ) : (s.observeAuthorityExit agent now).ExitRecord o e := by
  unfold TerminalState.observeAuthorityExit
  split
  · split
    · exact h
    · split
      · exact (h.suppressCurrentHookAuthority happlies hne .processExit now).of_eq rfl
      · exact h.of_eq rfl
  · exact h

theorem ExitRecord.observeIdentity (h : s.ExitRecord o e) (hne : s.identityOwner ≠ some o)
    (agent : Option Agent) (processExited : Bool) (now : ℤ) :
    (s.observeIdentity agent processExited now).ExitRecord o e := by
  unfold TerminalState.observeIdentity
  split
  · split
    · split
      · exact h.retireHookIdentity happlies hne _ now
      · exact h.of_eq rfl
    · split
      · exact h.retireHookIdentity happlies hne _ now
      · exact h
  · exact h

theorem ExitRecord.retireReplacedAuthority (h : s.ExitRecord o e)
    (hne : s.authorityOwner ≠ some o) (agent previous : Option Agent) (now : ℤ) :
    (s.retireReplacedAuthority agent previous now).ExitRecord o e := by
  unfold TerminalState.retireReplacedAuthority
  split
  · split
    · exact (h.suppressCurrentHookAuthority happlies hne .hookClear now).of_eq rfl
    · exact h
  · exact h

theorem ExitRecord.clearOwner (h : s.ExitRecord o e) (ha : s.authorityOwner ≠ some o)
    (hi : s.identityOwner ≠ some o) (source : Option String) (now : ℤ) :
    (s.clearOwner source now).ExitRecord o e := by
  have hsuppress : (if s.shouldClearAuthority source then
      s.suppressCurrentHookAuthority .hookClear now else s).ExitRecord o e ∧
      Drops s (if s.shouldClearAuthority source then
        s.suppressCurrentHookAuthority .hookClear now else s) := by
    split
    · exact ⟨h.suppressCurrentHookAuthority happlies ha .hookClear now,
        .of_records (s.suppressCurrentHookAuthority_records .hookClear now)⟩
    · exact ⟨h, .refl s⟩
  simp only [TerminalState.clearOwner]
  generalize (if s.shouldClearAuthority source = true then
    s.suppressCurrentHookAuthority .hookClear now else s) = u at hsuppress ⊢
  generalize (if s.shouldClearIdentity source = true then s.hookIdentity else none) = cleared
  have hretire : (if cleared.isSome then u.retireHookIdentity .hookClear now
      else u).ExitRecord o e := by
    split
    · exact hsuppress.1.retireHookIdentity happlies (hsuppress.2.identityOwner hi) .hookClear now
    · exact hsuppress.1
  generalize (if cleared.isSome = true then u.retireHookIdentity .hookClear now else u) = v
    at hretire ⊢
  split
  · exact hretire.of_eq rfl
  · split
    · split
      · exact hretire.of_eq rfl
      · exact hretire
    · split
      · exact hretire.of_eq rfl
      · exact hretire

end

/-! ## Pending exits -/

section

variable {s : TerminalState} {o : String × String} {e : ℤ}

/-- The older of two exits is not before `e` when neither is. -/
theorem forall_mem_earlier {x y : Option ℤ} :
    (∀ p ∈ earlier x y, e ≤ p) ↔ (∀ p ∈ x, e ≤ p) ∧ ∀ p ∈ y, e ≤ p := by
  cases x with
  | none => simp [earlier]
  | some a =>
    cases y with
    | none => simp [earlier]
    | some b => simp [earlier]

theorem earlier_some_right (x : Option ℤ) (b : ℤ) : ∃ p, earlier x (some b) = some p := by
  cases x with
  | none => exact ⟨b, rfl⟩
  | some a => exact ⟨min a b, rfl⟩

/-- A pending exit that `now` is added to, with none of them before `e`. -/
theorem earlier_some_right_le {x : Option ℤ} {now : ℤ} (hx : ∀ p ∈ x, e ≤ p) (he : e ≤ now) :
    ∃ p, earlier x (some now) = some p ∧ e ≤ p := by
  obtain ⟨p, hp⟩ := earlier_some_right x now
  refine ⟨p, hp, forall_mem_earlier.2 ⟨hx, fun q hq => ?_⟩ p hp⟩
  cases hq
  exact he

/-- No exit before `e` is pending for the owner. -/
def MarksFrom (s : TerminalState) (o : String × String) (e : ℤ) : Prop :=
  ∀ p ∈ s.unansweredExitToInherit o.1 o.2, e ≤ p

theorem MarksFrom.authority (h : s.MarksFrom o e) {a : HookAuthority}
    (ha : s.hookAuthority = some a) (howner : (a.source, a.agentLabel) = o) :
    ∀ p ∈ a.unconfirmedSince, e ≤ p := by
  subst howner
  have hmark := (forall_mem_earlier.1 (forall_mem_earlier.1 h).1).1
  simpa [ha] using hmark

theorem MarksFrom.identity (h : s.MarksFrom o e) {i : HookIdentity}
    (hi : s.hookIdentity = some i) (howner : (i.source, i.agentLabel) = o) :
    ∀ p ∈ i.unconfirmedSince, e ≤ p := by
  subst howner
  have hmark := (forall_mem_earlier.1 (forall_mem_earlier.1 h).1).2
  simpa [hi] using hmark

theorem MarksFrom.fence (h : s.MarksFrom o e) :
    ∀ p ∈ (s.unansweredHookExit.filter fun pending => pending.1.fences o.1 o.2).map Prod.snd,
      e ≤ p :=
  (forall_mem_earlier.1 h).2

/-- The exit that the fenced owner's next record inherits. -/
theorem Fenced.inherit (h : s.Fenced o e) :
    ∃ p, s.unansweredExitToInherit o.1 o.2 = some p ∧ e ≤ p := by
  obtain ⟨p, hfence, hp⟩ := h.fence
  unfold unansweredExitToInherit
  have hpending : (s.unansweredHookExit.filter fun pending => pending.1.fences o.1 o.2).map
      Prod.snd = some p := by
    simp [hfence, HookOwner.new, HookOwner.fences]
  rw [hpending]
  refine earlier_some_right_le (forall_mem_earlier.2 ⟨fun q hq => ?_, fun q hq => ?_⟩) hp
  · obtain ⟨a, ha, hq⟩ := Option.bind_eq_some_iff.1 hq
    split at hq
    · rename_i howner
      obtain ⟨p', hp', hle⟩ := h.authority a ha (Prod.ext howner.1 howner.2)
      rw [hp'] at hq
      cases hq
      exact hle
    · cases hq
  · obtain ⟨i, hi, hq⟩ := Option.bind_eq_some_iff.1 hq
    split at hq
    · rename_i howner
      obtain ⟨p', hp', hle⟩ := h.identity i hi (Prod.ext howner.1 howner.2)
      rw [hp'] at hq
      cases hq
      exact hle
    · cases hq

theorem Fenced.marksFrom (h : s.Fenced o e) : s.MarksFrom o e := by
  obtain ⟨p, hp, hle⟩ := h.inherit
  intro q hq
  rw [hp] at hq
  cases hq
  exact hle

/-- An exit held against the owner fences it. -/
theorem holdHookOwnerUnconfirmed_fenced (h : s.MarksFrom o e) {now : ℤ} (he : e ≤ now) :
    (s.holdHookOwnerUnconfirmed o.1 o.2 now).Fenced o e := by
  refine ⟨?_, fun a ha howner => ?_, fun i hi howner => ?_⟩
  · obtain ⟨p, hp, hle⟩ := earlier_some_right_le h.fence he
    exact ⟨p, by simp only [holdHookOwnerUnconfirmed, hp, Option.map_some], hle⟩
  · obtain ⟨a, hold, rfl⟩ := Option.map_eq_some_iff.1 ha
    split at howner
    · rename_i hsame
      rw [if_pos hsame]
      exact earlier_some_right_le (h.authority hold (Prod.ext hsame.1 hsame.2)) he
    · rename_i hsame
      exact absurd ⟨congrArg Prod.fst howner, congrArg Prod.snd howner⟩ hsame
  · obtain ⟨i, hold, rfl⟩ := Option.map_eq_some_iff.1 hi
    split at howner
    · rename_i hsame
      rw [if_pos hsame]
      exact earlier_some_right_le (h.identity hold (Prod.ext hsame.1 hsame.2)) he
    · rename_i hsame
      exact absurd ⟨congrArg Prod.fst howner, congrArg Prod.snd howner⟩ hsame

/-- An observation that does not answer the exit leaves the fence. -/
theorem Fenced.confirmPendingHookOwner (h : s.Fenced o e) {agent : Option Agent} {now : ℤ}
    (hanswer : parseAgentLabel o.2 = agent → now ≤ e) :
    (s.confirmPendingHookOwner agent now).Fenced o e := by
  cases agent with
  | none => exact h
  | some detected =>
    have hkept {p : ℤ} (hp : e ≤ p) :
        ((some p).any (· < now) && parseAgentLabel o.2 == some detected) = false := by
      rw [Bool.eq_false_iff]
      intro hconfirms
      simp only [Option.any_some, Bool.and_eq_true, decide_eq_true_eq, beq_iff_eq] at hconfirms
      have := hanswer hconfirms.2
      omega
    refine ⟨?_, fun a ha howner => ?_, fun i hi howner => ?_⟩
    · obtain ⟨p, hfence, hp⟩ := h.fence
      refine ⟨p, ?_, hp⟩
      simp only [TerminalState.confirmPendingHookOwner, hfence, HookOwner.new, hkept hp,
        Option.filter_some, Bool.not_false, if_true]
    · obtain ⟨a, hold, rfl⟩ := Option.map_eq_some_iff.1 ha
      have hsame : (a.source, a.agentLabel) = o := by
        rw [← howner]
        split <;> rfl
      obtain ⟨p, hpending, hp⟩ := h.authority a hold hsame
      have hlabel : a.agentLabel = o.2 := congrArg Prod.snd hsame
      simp only [hlabel, hpending, hkept hp, Bool.false_eq_true, if_false]
      exact ⟨p, rfl, hp⟩
    · obtain ⟨i, hold, rfl⟩ := Option.map_eq_some_iff.1 hi
      have hsame : (i.source, i.agentLabel) = o := by
        rw [← howner]
        split <;> rfl
      obtain ⟨p, hpending, hp⟩ := h.identity i hold hsame
      have hlabel : i.agentLabel = o.2 := congrArg Prod.snd hsame
      simp only [hlabel, hpending, hkept hp, Bool.false_eq_true, if_false]
      exact ⟨p, rfl, hp⟩

end

/-! ## Observations -/

/-- The exit captured at `now` does not retire the installed owner, but is held against it. -/
def HoldsExit (s : TerminalState) (agent : Option Agent) (now : ℤ) (o : String × String) : Prop :=
  parseAgentLabel o.2 = agent ∧ s.hookOwnerHasUnansweredExitOlderThan o.1 o.2 now = false ∧
    ((∃ a, s.hookAuthority = some a ∧ (a.source, a.agentLabel) = o ∧ now < a.reportedAt) ∨
      ∃ i, s.hookIdentity = some i ∧ (i.source, i.agentLabel) = o ∧ now < i.reportedAt)

section

variable {s : TerminalState} {o : String × String} {e : ℤ} {agent : Option Agent} {now : ℤ}

theorem marksFrom_of_not_older (h : s.hookOwnerHasUnansweredExitOlderThan o.1 o.2 now = false) :
    s.MarksFrom o now := by
  intro p hp
  rw [hookOwnerHasUnansweredExitOlderThan, Option.mem_def.1 hp] at h
  simpa using h

/-- The exit of the authority's process retires it or is held against it. -/
theorem observeAuthorityExit_cases (s : TerminalState) (agent : Option Agent) (now : ℤ) :
    Drops s (s.observeAuthorityExit agent now) ∨
      ∃ o, s.HoldsExit agent now o ∧
        s.observeAuthorityExit agent now = s.holdHookOwnerUnconfirmed o.1 o.2 now := by
  unfold observeAuthorityExit
  split
  · rename_i authority hauthority
    split
    · exact Or.inl (.refl s)
    · rename_i hlabel
      split
      · have hrecords := suppressCurrentHookAuthority_records s .processExit now
        exact Or.inl ⟨hrecords.unansweredHookExit, (fun _ h => by cases h),
          fun _ h => hrecords.hookIdentity ▸ h⟩
      · rename_i hretires
        simp only [Bool.or_eq_true, not_or, Bool.not_eq_true, hookAuthorityNotNewerThan,
          hauthority, Option.all_some, decide_eq_false_iff_not, not_le] at hretires
        exact Or.inr ⟨(authority.source, authority.agentLabel), ⟨not_not.1 hlabel, hretires.2,
          Or.inl ⟨authority, hauthority, rfl, hretires.1⟩⟩, rfl⟩
  · exact Or.inl (.refl s)

/-- The same for the identity, which gives way to another agent too. -/
theorem observeIdentity_cases (s : TerminalState) (agent : Option Agent) (processExited : Bool)
    (now : ℤ) :
    Drops s (s.observeIdentity agent processExited now) ∨
      processExited = true ∧ ∃ o, s.HoldsExit agent now o ∧
        s.observeIdentity agent processExited now = s.holdHookOwnerUnconfirmed o.1 o.2 now := by
  unfold observeIdentity
  split
  · rename_i identity hidentity
    split
    · rename_i hexit
      simp only [Bool.and_eq_true, beq_iff_eq] at hexit
      split
      · exact Or.inl (s.retireHookIdentity_drops .processExit now)
      · rename_i hretires
        simp only [Bool.or_eq_true, not_or, Bool.not_eq_true, hookIdentityNotNewerThan,
          hidentity, Option.all_some, decide_eq_false_iff_not, not_le] at hretires
        exact Or.inr ⟨hexit.1, (identity.source, identity.agentLabel), ⟨hexit.2, hretires.2,
          Or.inr ⟨identity, hidentity, rfl, hretires.1⟩⟩, rfl⟩
    · split
      · exact Or.inl (s.retireHookIdentity_drops _ now)
      · exact Or.inl (.refl s)
  · exact Or.inl (.refl s)

/-- Of the authority and the identity only one is there to take the exit. -/
theorem observeOwner_fenced (hs : s.Fenced o e)
    (hone : s.hookAuthority = none ∨ s.hookIdentity = none) {processExited : Bool}
    (hholds : processExited = true → ∀ o', s.HoldsExit agent now o' → o' = o ∧ e ≤ now) :
    (s.observeOwner agent processExited now).Fenced o e := by
  unfold observeOwner
  cases processExited with
  | false =>
    obtain hdrops | ⟨hexited, -⟩ := s.observeIdentity_cases agent false now
    · exact hdrops.fenced hs
    · cases hexited
  | true =>
    rw [if_pos rfl]
    obtain hnone | hnone := hone
    · rw [observeAuthorityExit_of_none hnone]
      obtain hdrops | ⟨-, o', hholds', heq⟩ := s.observeIdentity_cases agent true now
      · exact hdrops.fenced hs
      · obtain ⟨rfl, he⟩ := hholds rfl o' hholds'
        rw [heq]
        exact holdHookOwnerUnconfirmed_fenced hs.marksFrom he
    · rw [observeIdentity_of_none (observeAuthorityExit_identity hnone)]
      obtain hdrops | ⟨o', hholds', heq⟩ := s.observeAuthorityExit_cases agent now
      · exact hdrops.fenced hs
      · obtain ⟨rfl, he⟩ := hholds rfl o' hholds'
        rw [heq]
        exact holdHookOwnerUnconfirmed_fenced hs.marksFrom he

theorem HoldsExit.congr {t : TerminalState} (h : t.HoldsExit agent now o)
    (howner : t.SameOwner s) : s.HoldsExit agent now o := by
  obtain ⟨hauthority, hidentity, hunanswered⟩ := howner
  unfold HoldsExit hookOwnerHasUnansweredExitOlderThan unansweredExitToInherit at *
  rw [hauthority, hidentity, hunanswered] at h
  exact h

theorem settleObservation_drops (s : TerminalState) (agent previous : Option Agent)
    (processExited : Bool) (now : ℤ) :
    Drops s (s.settleObservation agent previous processExited now) := by
  have hloss := Drops.of_records (s.observeProcessLossForRetiredOwners_records agent
    processExited now)
  refine hloss.trans (.trans ?_ (retireReplacedAuthority_drops _ agent previous now))
  split
  · exact dropExitedSession_drops _ agent
  · exact .refl _

theorem Suppressed.settleObservation (happlies : hookReportRetirementApplies o.1 o.2 = true)
    (hs : s.Suppressed o e) (agent previous : Option Agent) (processExited : Bool) (now : ℤ) :
    (s.settleObservation agent previous processExited now).Suppressed o e := by
  refine (s.settleObservation_drops agent previous processExited now).suppressed hs ?_
  have hloss := hs.record.observeProcessLossForRetiredOwners agent processExited now
  have hrecords := s.observeProcessLossForRetiredOwners_records agent processExited now
  have hdrop : (if processExited then
      (s.observeProcessLossForRetiredOwners agent processExited now).dropExitedSession agent
      else s.observeProcessLossForRetiredOwners agent processExited now).ExitRecord o e ∧
      (if processExited then
        (s.observeProcessLossForRetiredOwners agent processExited now).dropExitedSession agent
        else s.observeProcessLossForRetiredOwners agent processExited now).authorityOwner ≠
        some o := by
    have hauthority := (Drops.of_records hrecords).authorityOwner hs.authority
    split
    · refine ⟨hloss.of_eq ?_, (dropExitedSession_drops _ agent).authorityOwner hauthority⟩
      unfold dropExitedSession
      split <;> rfl
    · exact ⟨hloss, hauthority⟩
  exact hdrop.1.retireReplacedAuthority happlies hdrop.2 agent previous now

theorem Suppressed.observeOwner (happlies : hookReportRetirementApplies o.1 o.2 = true)
    (hs : s.Suppressed o e) (agent : Option Agent) (processExited : Bool) (now : ℤ) :
    (s.observeOwner agent processExited now).Suppressed o e := by
  have hexit : (if processExited then s.observeAuthorityExit agent now else s).ExitRecord o e ∧
      Shrinks s (if processExited then s.observeAuthorityExit agent now else s) := by
    split
    · exact ⟨hs.record.observeAuthorityExit happlies hs.authority agent now,
        s.observeAuthorityExit_shrinks agent now⟩
    · exact ⟨hs.record, .refl s⟩
  have hshrinks := hexit.2.trans (observeIdentity_shrinks _ agent processExited now)
  exact ⟨hexit.1.observeIdentity happlies (fun h => hs.identity (hexit.2.identity o h)) agent
    processExited now, fun h => hs.authority (hshrinks.authorityOwner o h),
    fun h => hs.identity (hshrinks.identity o h)⟩

theorem Suppressed.noteObservation (hs : s.Suppressed o e) {processExited : Bool}
    (hanswer : processExited = false → parseAgentLabel o.2 = agent → now ≤ e)
    (fallbackState : AgentState) (visibleBlocker : Bool) :
    (s.noteObservation agent fallbackState visibleBlocker processExited now).Suppressed o e := by
  obtain ⟨hauthority, hidentity, hunanswered⟩ :=
    s.noteObservation_owner agent fallbackState visibleBlocker processExited now
  refine (Drops.of_eq hauthority hidentity hunanswered).suppressed hs ?_
  unfold TerminalState.noteObservation
  cases processExited with
  | true => exact hs.record.of_eq rfl
  | false =>
    have hnoted : { s with detectedAgent := agent }.ExitRecord o e := hs.record.of_eq rfl
    exact (hnoted.clearHookSuppressionForDetectedAgent (hanswer rfl)).of_eq rfl

/-- An observation that does not answer the exit keeps the bar. -/
theorem takeObservation_barred (happlies : hookReportRetirementApplies o.1 o.2 = true)
    (hs : s.Barred o e) (hone : s.hookAuthority = none ∨ s.hookIdentity = none)
    {processExited : Bool}
    (hanswer : processExited = false → parseAgentLabel o.2 = agent → now ≤ e)
    (hholds : processExited = true → s.Fenced o e →
      ∀ o', s.HoldsExit agent now o' → o' = o ∧ e ≤ now)
    (fallbackState : AgentState) (visibleBlocker : Bool) :
    (s.takeObservation agent fallbackState visibleBlocker processExited now).Barred o e := by
  rw [takeObservation_eq]
  have howner := s.noteObservation_owner agent fallbackState visibleBlocker processExited now
  obtain hsuppressed | hfenced := hs
  · exact Or.inl (((hsuppressed.noteObservation hanswer fallbackState
      visibleBlocker).observeOwner happlies agent processExited now).settleObservation happlies
      agent s.detectedAgent processExited now)
  · have hnoted := (Drops.of_eq howner.1 howner.2.1 howner.2.2).fenced hfenced
    have hobserved := observeOwner_fenced hnoted
      (hone.imp howner.1.trans howner.2.1.trans)
      (fun hexited o' h => hholds hexited hfenced o' (h.congr howner))
    exact Or.inr ((settleObservation_drops _ agent s.detectedAgent processExited now).fenced
      hobserved)

/-- The first exit : it retires the owner or is held against it. -/
theorem takeObservation_exit_barred (happlies : hookReportRetirementApplies o.1 o.2 = true)
    (hcoherent : s.Coherent) (hinstalled : s.authorityOwner = some o ∨ s.identityOwner = some o)
    (hlabel : parseAgentLabel o.2 = agent) (fallbackState : AgentState) (visibleBlocker : Bool) :
    (s.takeObservation agent fallbackState visibleBlocker true now).Barred o now := by
  rw [takeObservation_eq]
  obtain ⟨hauthority, hidentity, hunanswered⟩ :=
    s.noteObservation_owner agent fallbackState visibleBlocker true now
  have hone : s.hookAuthority = none ∨ s.hookIdentity = none := by
    simpa [authorityOwner, identityOwner] using hcoherent.exclusive
  generalize s.noteObservation agent fallbackState visibleBlocker true now = u at *
  suffices hbarred : (u.observeOwner agent true now).Barred o now by
    obtain hsuppressed | hfenced := hbarred
    · exact Or.inl (hsuppressed.settleObservation happlies agent s.detectedAgent true now)
    · exact Or.inr ((settleObservation_drops _ agent s.detectedAgent true now).fenced hfenced)
  unfold observeOwner
  rw [if_pos rfl]
  obtain ho | ho := hinstalled
  · -- The authority : its identity-only counterpart is not there.
    obtain ⟨a, ha, rfl⟩ := Option.map_eq_some_iff.1 ho
    have hnone : s.hookIdentity = none := by
      obtain hnone | hnone := hone
      · rw [ha] at hnone
        cases hnone
      · exact hnone
    have hfull : fullLifecycleHookAuthority a.source a.agentLabel = true := by
      simpa [hookReportRetirementApplies, hcoherent.authority _ ho] using happlies
    rw [observeIdentity_of_none (observeAuthorityExit_identity (hidentity.trans hnone))]
    unfold observeAuthorityExit
    rw [hauthority, ha]
    simp only
    rw [if_neg (not_not.2 hlabel)]
    split
    · refine Or.inl ⟨?_, (fun h => by cases h), ?_⟩
      · have hsuppress : u.suppressCurrentHookAuthority .processExit now =
            u.suppressHookReportWithSessionRef a.source a.agentLabel a.sessionRef .processExit
              now := by
          simp only [suppressCurrentHookAuthority, hauthority, ha, hfull, if_true]
        rw [hsuppress]
        exact (exitRecord_suppressHookReportWithSessionRef u _ _ a.sessionRef now).of_eq rfl
      · have hrecords := u.suppressCurrentHookAuthority_records .processExit now
        intro h
        rw [identityOwner, hrecords.hookIdentity, hidentity, hnone] at h
        cases h
    · rename_i hretires
      simp only [Bool.or_eq_true, not_or, Bool.not_eq_true] at hretires
      exact Or.inr (holdHookOwnerUnconfirmed_fenced (o := (a.source, a.agentLabel))
        (marksFrom_of_not_older hretires.2) (le_refl now))
  · obtain ⟨i, hi, rfl⟩ := Option.map_eq_some_iff.1 ho
    have hnone : s.hookAuthority = none := by
      obtain hnone | hnone := hone
      · exact hnone
      · rw [hi] at hnone
        cases hnone
    rw [observeAuthorityExit_of_none (hauthority.trans hnone)]
    unfold observeIdentity
    rw [hidentity, hi]
    simp only [hlabel, beq_self_eq_true, Bool.and_self, if_true]
    split
    · have hrecords := u.retireHookIdentity_records .processExit now
      refine Or.inl ⟨?_, fun h => ?_, fun h => ?_⟩
      · simp only [retireHookIdentity, hidentity, hi, if_true, suppressHookReport, happlies]
        exact exitRecord_suppressHookReportWithSessionRef _ _ _ _ now
      · rw [authorityOwner, hrecords.hookAuthority, hauthority, hnone] at h
        cases h
      · rw [identityOwner, hrecords.hookIdentity] at h
        cases h
    · rename_i hretires
      simp only [Bool.or_eq_true, not_or, Bool.not_eq_true] at hretires
      exact Or.inr (holdHookOwnerUnconfirmed_fenced (o := (i.source, i.agentLabel))
        (marksFrom_of_not_older hretires.2) (le_refl now))

end

/-! ## Reports -/

section

variable {s t : TerminalState} {o : String × String} {e : ℤ} {source label : String}
  {ref : Option AgentSessionRef} {seq : Option ℕ} {now : ℤ}

/-- The gate refuses every report of an owner that its exit has retired. -/
theorem ExitRecord.gate (h : s.ExitRecord o e)
    (happlies : hookReportRetirementApplies o.1 o.2 = true) (ref : Option AgentSessionRef)
    (reason : Option String) :
    s.hookReportSequenceResetAfterRetirement o.1 o.2 ref reason = none := by
  obtain ⟨r, hr, hlabel, hreason, -⟩ := h
  have hsuppressed : s.hookReportIsSuppressed o.1 o.2 ref = true := by
    simp [hookReportIsSuppressed, happlies, hr, hlabel, hreason]
  rw [hookReportSequenceResetAfterRetirement, if_pos hsuppressed]

theorem ExitRecord.admitHookReport (h : s.ExitRecord o e) (hne : ref.isSome → source ≠ o.1)
    (label : String) (resetSequence : Bool) (sequenceToStore : Option ℕ) :
    (s.admitHookReport source label ref resetSequence sequenceToStore).ExitRecord o e := by
  have hcommit : (s.commitHookReportAdmission source resetSequence sequenceToStore).ExitRecord o e :=
    h.of_eq rfl
  unfold TerminalState.admitHookReport
  split
  · rename_i hsome
    exact hcommit.retireSuppressedSessionAfterAccepting (hne hsome) label ref
  · exact hcommit

/-- The new authority of a fenced owner carries its exit. -/
theorem installHookAuthority_fenced (hs : s.Fenced o e) (source label : String)
    (state : AgentState) (message : Option String) (ref : Option AgentSessionRef) (now : ℤ) :
    (s.installHookAuthority source label state message ref now).Fenced o e := by
  have hkept : { s with
      hookIdentity := s.hookIdentity.filter fun identity =>
        identity.source = source ∧ identity.agentLabel = label
      persistedAgentSession := none }.Fenced o e := by
    refine Drops.fenced (s := s) ⟨rfl, fun _ h => h, fun i hi => ?_⟩ hs
    exact (Option.filter_eq_some_iff.1 hi).1
  refine ⟨hs.fence, fun a ha howner => ?_, hkept.identity⟩
  cases ha
  cases howner
  exact hkept.inherit

theorem installHookIdentity_fenced (hs : s.Fenced o e) (source label : String) (now : ℤ) :
    (s.installHookIdentity source label now).Fenced o e := by
  refine ⟨hs.fence, hs.authority, fun i hi howner => ?_⟩
  cases hi
  cases howner
  exact hs.inherit

theorem clampSessionRef_isSome :
    (s.clampSessionRef source label ref).isSome = ref.isSome :=
  Option.isSome_map

theorem setHookAuthority_barred (happlies : hookReportRetirementApplies o.1 o.2 = true)
    (hs : s.Barred o e) {state : AgentState} {message : Option String}
    (hidentity : sessionIdentityOnlyIntegration source label = false)
    (hother : s.Suppressed o e → ref.isSome → source = o.1 → label = o.2)
    (h : s.setHookAuthority source label state message ref seq now = some t) : t.Barred o e := by
  obtain ⟨-, resetSequence, sequenceToStore, hgate, rfl⟩ := setHookAuthority_eq_some hidentity h
  have hrecords := admitHookReport_records s source label (s.clampSessionRef source label ref)
    resetSequence sequenceToStore
  obtain hsuppressed | hfenced := hs
  · have hne : (source, label) ≠ o := by
      rintro rfl
      rw [hsuppressed.record.gate happlies] at hgate
      cases hgate
    have hsource (hsome : (s.clampSessionRef source label ref).isSome) : source ≠ o.1 :=
      fun heq => hne (Prod.ext heq (hother hsuppressed (clampSessionRef_isSome ▸ hsome) heq))
    have hrecord := hsuppressed.record.admitHookReport hsource label resetSequence sequenceToStore
    refine Or.inl ⟨hrecord.of_eq rfl, fun howner => hne (Option.some.inj howner), fun howner => ?_⟩
    obtain ⟨i, hi, rfl⟩ := Option.map_eq_some_iff.1 howner
    have hmem := (Option.filter_eq_some_iff.1 hi).1
    rw [hrecords.hookIdentity] at hmem
    exact hsuppressed.identity (by rw [identityOwner, hmem]; rfl)
  · have hinstalled := installHookAuthority_fenced ((Drops.of_records hrecords).fenced hfenced)
      source label state message (s.clampSessionRef source label ref) now
    exact Or.inr ⟨hinstalled.fence, hinstalled.authority, hinstalled.identity⟩

theorem recordIdentityOnlyHookReport_barred
    (happlies : hookReportRetirementApplies o.1 o.2 = true) (hs : s.Barred o e)
    (hidentity : sessionIdentityOnlyIntegration source label = true)
    (h : s.recordIdentityOnlyHookReport source label ref seq now = some t) : t.Barred o e := by
  obtain ⟨-, resetSequence, sequenceToStore, hgate, rfl⟩ :=
    recordIdentityOnlyHookReport_eq_some h
  generalize s.clampSessionRef source label ref = clamped
  have hrecords := admitHookReport_records s source label clamped resetSequence sequenceToStore
  obtain hsuppressed | hfenced := hs
  · have hne : (source, label) ≠ o := by
      rintro rfl
      rw [hsuppressed.record.gate happlies] at hgate
      cases hgate
    have hretired : hookReportRetirementApplies source label = true := by
      rw [hookReportRetirementApplies, hidentity, Bool.or_true]
    have hsource (_ : clamped.isSome) : source ≠ o.1 := source_ne_of_owner_ne happlies hretired hne
    have hrecord := hsuppressed.record.admitHookReport hsource label resetSequence sequenceToStore
    have hauthority := (Drops.of_records hrecords).authorityOwner hsuppressed.authority
    generalize s.admitHookReport source label clamped resetSequence sequenceToStore = admitted
      at hrecord hauthority ⊢
    cases clamped with
    | none =>
      exact Or.inl ⟨hrecord.of_eq rfl, hauthority, fun howner => hne (Option.some.inj howner)⟩
    | some ref =>
      exact Or.inl ⟨hrecord.of_eq rfl, hauthority, fun howner => hne (Option.some.inj howner)⟩
  · have hinstalled := installHookIdentity_fenced ((Drops.of_records hrecords).fenced hfenced)
      source label now
    cases clamped with
    | none => exact Or.inr ⟨hinstalled.fence, hinstalled.authority, hinstalled.identity⟩
    | some ref => exact Or.inr ⟨hinstalled.fence, hinstalled.authority, hinstalled.identity⟩

theorem retireReplacedSession_drops (s : TerminalState) (source label : String)
    (replaced : Option AgentSessionRef) (now : ℤ) :
    Drops s (s.retireReplacedSession source label replaced now) := by
  unfold retireReplacedSession
  split
  · exact .trans (.of_records (rememberStaleHookSession_records s source label _ now none none))
      (dropAuthority_drops _)
  · exact .refl s

theorem retireReplacedSession_suppressed (s : TerminalState) (source label : String)
    (replaced : Option AgentSessionRef) (now : ℤ) :
    (s.retireReplacedSession source label replaced now).suppressedHookReports =
      s.suppressedHookReports := by
  unfold retireReplacedSession
  split <;> rfl

theorem retireForeignSession_suppressed (s : TerminalState) (ownerConflicts : Bool) (now : ℤ) :
    (s.retireForeignSession ownerConflicts now).suppressedHookReports =
      s.suppressedHookReports := by
  unfold retireForeignSession
  split <;> rfl

theorem reclaimSession_suppressed (s : TerminalState) (source label : String)
    (ref : AgentSessionRef) (reason : Option String) :
    (s.reclaimSession source label ref reason).suppressedHookReports =
      s.suppressedHookReports := by
  unfold reclaimSession
  split
  · exact forgetStaleHookSession_suppressed s source label ref
  · rfl

theorem setAgentSessionRefForSessionStart_barred
    (happlies : hookReportRetirementApplies o.1 o.2 = true) (hs : s.Barred o e)
    {reason : Option String} {observation : Option ForegroundProcessObservation}
    (h : s.setAgentSessionRefForSessionStart source label ref seq reason observation now = some t) :
    t.Barred o e := by
  obtain ⟨ref, rfl, -, resetSequence, sequenceToStore, hgate, rfl⟩ :=
    setAgentSessionRefForSessionStart_eq_some h
  generalize hconflicts : s.currentSessionOwnerConflicts source label = ownerConflicts at hgate ⊢
  have hcommit := commitHookReportAdmission_records s source resetSequence sequenceToStore
  simp only [anchorSessionStart]
  -- Up to the identity, the owner is dropped at most and no suppression is touched.
  have hdrops : Drops s ((((s.commitHookReportAdmission source resetSequence
      sequenceToStore).reclaimSession source label ref reason).retireReplacedSession source label
      ((s.commitHookReportAdmission source resetSequence
        sequenceToStore).sameOwnerFullLifecycleHookAuthoritySessionRef source label ref)
      now).retireForeignSession ownerConflicts now) :=
    (Drops.of_records (hcommit.trans (reclaimSession_records _ source label ref reason))).trans <|
      (retireReplacedSession_drops _ source label _ now).trans <|
      .of_records (retireForeignSession_records _ ownerConflicts now)
  have hrecord (hrecord : s.ExitRecord o e) : ((((s.commitHookReportAdmission source resetSequence
      sequenceToStore).reclaimSession source label ref reason).retireReplacedSession source label
      ((s.commitHookReportAdmission source resetSequence
        sequenceToStore).sameOwnerFullLifecycleHookAuthoritySessionRef source label ref)
      now).retireForeignSession ownerConflicts now).ExitRecord o e := by
    refine hrecord.of_eq (congrArg (AList.lookup o.1) ?_)
    rw [retireForeignSession_suppressed, retireReplacedSession_suppressed,
      reclaimSession_suppressed]
    rfl
  generalize ((((s.commitHookReportAdmission source resetSequence sequenceToStore).reclaimSession
    source label ref reason).retireReplacedSession source label _ now).retireForeignSession
    ownerConflicts now) = u at hdrops hrecord ⊢
  unfold anchorIdentity
  cases hidentity : sessionIdentityOnlyIntegration source label with
  | false =>
    rw [if_neg Bool.false_ne_true]
    obtain hsuppressed | hfenced := hs
    · have hkept := hdrops.suppressed hsuppressed (hrecord hsuppressed.record)
      exact Or.inl ⟨hkept.record.of_eq rfl, hkept.authority, hkept.identity⟩
    · have hkept := hdrops.fenced hfenced
      exact Or.inr ⟨hkept.fence, hkept.authority, hkept.identity⟩
  | true =>
    rw [if_pos rfl]
    have haccept := u.retireSuppressedSessionAfterAccepting_records source label (some ref)
    generalize hv : u.retireSuppressedSessionAfterAccepting source label (some ref) = v
      at haccept ⊢
    obtain hsuppressed | hfenced := hs
    · have hne : (source, label) ≠ o := by
        rintro rfl
        have := hgate (by rw [hidentity, Bool.or_true])
        rw [hsuppressed.record.gate happlies] at this
        cases this
      have hretired : hookReportRetirementApplies source label = true := by
        rw [hookReportRetirementApplies, hidentity, Bool.or_true]
      have hkept := hdrops.suppressed hsuppressed (hrecord hsuppressed.record)
      have haccepted := hkept.record.retireSuppressedSessionAfterAccepting
        (source_ne_of_owner_ne happlies hretired hne) label (some ref)
      rw [hv] at haccepted
      exact Or.inl ⟨haccepted.of_eq rfl, (Drops.of_records haccept).authorityOwner hkept.authority,
        fun howner => hne (Option.some.inj howner)⟩
    · have hinstalled := installHookIdentity_fenced
        ((Drops.of_records haccept).fenced (hdrops.fenced hfenced)) source label now
      exact Or.inr ⟨hinstalled.fence, hinstalled.authority, hinstalled.identity⟩

end

/-! ## Every run -/

/-- A running observation of the agent captured after `e`, or a respawn. -/
def AnswersExit (agent : Agent) (e : ℤ) : Op → Prop
  | .respawn => True
  | .event (.observe observed _ _ false capturedAt) => observed = some agent ∧ e < capturedAt
  | .event _ => False

/-- The fence of the owner is replaced : by an older exit that is held against it too, or by
one that is held against another owner. -/
def ReplacesFence (s : TerminalState) (o : String × String) (e : ℤ) : Op → Prop
  | .event (.observe agent _ _ true capturedAt) => ∃ holder, s.HoldsExit agent capturedAt holder ∧
      (holder = o ∧ capturedAt < e ∨
        holder ≠ o ∧ ∃ p, s.unansweredHookExit = some (HookOwner.new o.1 o.2, p))
  | _ => False

/-- The record of the owner's exit is replaced : by a release of the owner, or by a report with
a session from its source under another label. -/
def ReplacesExitRecord (s : TerminalState) (o : String × String) (e : ℤ) : Op → Prop
  | .event (.release source label seq now) => s.ExitRecord o e ∧ (source, label) = o ∧
      (s.releaseAgent source label seq now).isSome
  | .event (.hookReport source label state message ref seq now) => s.ExitRecord o e ∧
      ref.isSome ∧ source = o.1 ∧ label ≠ o.2 ∧
      (s.setHookAuthority source label state message ref seq now).isSome
  | _ => False

section

variable {s t : TerminalState} {o : String × String} {e : ℤ}
  (happlies : hookReportRetirementApplies o.1 o.2 = true)

include happlies

theorem clearHookAuthority_barred (hs : s.Barred o e) {source : Option String} {seq : Option ℕ}
    {now : ℤ} (h : s.clearHookAuthority source seq now = some t) : t.Barred o e := by
  obtain ⟨-, sequences, rfl⟩ := clearHookAuthority_eq_some h
  have hcommitted : { s with hookReportSequences := sequences }.Barred o e :=
    hs.of_eq ⟨rfl, rfl, rfl⟩ rfl
  have hdrops := clearOwner_drops { s with hookReportSequences := sequences } source now
  refine Barred.of_eq (s := clearOwner _ source now) ?_ ⟨rfl, rfl, rfl⟩ rfl
  obtain hsuppressed | hfenced := hcommitted
  · exact Or.inl (hdrops.suppressed hsuppressed (hsuppressed.record.clearOwner happlies
      hsuppressed.authority hsuppressed.identity source now))
  · exact Or.inr (hdrops.fenced hfenced)

theorem releaseAgent_barred (hs : s.Barred o e) {source label : String} {seq : Option ℕ} {now : ℤ}
    (hrecord : s.ExitRecord o e → (source, label) ≠ o)
    (h : s.releaseAgent source label seq now = some t) : t.Barred o e := by
  obtain ⟨-, sequences, rfl⟩ := releaseAgent_eq_some h
  have hcommitted : { s with hookReportSequences := sequences }.Barred o e :=
    hs.of_eq ⟨rfl, rfl, rfl⟩ rfl
  have hdrops := releaseOwner_drops { s with hookReportSequences := sequences } source label now
  refine Barred.of_eq (s := releaseOwner _ source label now) ?_ ⟨rfl, rfl, rfl⟩ rfl
  obtain hsuppressed | hfenced := hcommitted
  · have hsuppress := hsuppressed.record.suppressHookReport happlies
      (hrecord (hsuppressed.record.of_eq rfl)) .hookClear now
    exact Or.inl (hdrops.suppressed hsuppressed (hsuppress.of_eq rfl))
  · exact Or.inr (hdrops.fenced hfenced)

/-- An exit that is held is held against the fenced owner, and is not older. -/
theorem setDetectedState_barred (hcoherent : s.Coherent) (hs : s.Barred o e)
    {agent : Option Agent} {fallbackState : AgentState} {visibleBlocker processExited : Bool}
    {now : ℤ} (hanswer : processExited = false → parseAgentLabel o.2 = agent → now ≤ e)
    (hholds : processExited = true → s.Fenced o e →
      ∀ o', s.HoldsExit agent now o' → o' = o ∧ e ≤ now) :
    (s.setDetectedState agent fallbackState visibleBlocker processExited now).Barred o e := by
  obtain ⟨u, hu, hresult⟩ := s.setDetectedState_cases agent fallbackState visibleBlocker
    processExited now
  have hbarred : u.Barred o e ∧ Shrinks s u ∧ (processExited = true → u = s) := by
    cases processExited with
    | true =>
      rw [if_pos rfl] at hu
      rw [hu]
      exact ⟨hs, .refl s, fun _ => rfl⟩
    | false =>
      have hshrinks := s.confirmPendingHookOwner_shrinks agent now
      rw [if_neg Bool.false_ne_true] at hu
      subst hu
      refine ⟨?_, hshrinks, fun h => by cases h⟩
      obtain hsuppressed | hfenced := hs
      · refine Or.inl ⟨hsuppressed.record.of_eq ?_,
          fun h => hsuppressed.authority (hshrinks.authorityOwner o h),
          fun h => hsuppressed.identity (hshrinks.identity o h)⟩
        cases agent <;> rfl
      · exact Or.inr (hfenced.confirmPendingHookOwner (hanswer rfl))
  obtain ⟨hbarred, hshrinks, hexited⟩ := hbarred
  obtain ⟨-, detectedAgent, heq⟩ | ⟨-, heq⟩ := hresult
  · rw [heq]
    exact hbarred.of_eq ⟨rfl, rfl, rfl⟩ rfl
  · rw [heq]
    have hone : u.hookAuthority = none ∨ u.hookIdentity = none := by
      simpa [authorityOwner, identityOwner] using (hshrinks.coherent hcoherent).exclusive
    refine Barred.of_eq (takeObservation_barred happlies hbarred hone hanswer (fun h hfenced => ?_)
      fallbackState visibleBlocker) ⟨rfl, rfl, rfl⟩ rfl
    rw [hexited h] at hfenced ⊢
    exact hholds h hfenced

/-- The exit of an installed owner. -/
theorem setDetectedState_exit_barred (hcoherent : s.Coherent)
    (hinstalled : s.authorityOwner = some o ∨ s.identityOwner = some o) {agent : Option Agent}
    (hlabel : parseAgentLabel o.2 = agent) (fallbackState : AgentState) (visibleBlocker : Bool)
    (now : ℤ) : (s.setDetectedState agent fallbackState visibleBlocker true now).Barred o now := by
  obtain ⟨u, hu, ⟨hignored, -⟩ | ⟨-, heq⟩⟩ := s.setDetectedState_cases agent fallbackState
    visibleBlocker true now
  · -- No exit is ignored.
    simp [ignoresObservation, shouldIgnoreDetectedStateUnderFullLifecycleHook] at hignored
  · rw [if_pos rfl] at hu
    rw [heq, hu]
    exact Barred.of_eq (takeObservation_exit_barred happlies hcoherent hinstalled hlabel
      fallbackState visibleBlocker) ⟨rfl, rfl, rfl⟩ rfl

/-- A step that does not answer the exit and replaces neither of its two records. -/
theorem stepOp_barred {op : Op} {agent : Agent} (hlabel : parseAgentLabel o.2 = some agent)
    (hcoherent : s.Coherent) (hs : s.Barred o e) (hanswers : ¬ AnswersExit agent e op)
    (hfence : ¬ s.ReplacesFence o e op) (hrecord : ¬ s.ReplacesExitRecord o e op) :
    (stepOp s op).Barred o e := by
  cases op with
  | respawn => exact absurd trivial hanswers
  | event event =>
    simp only [stepOp, step]
    cases hhandle : s.handle event with
    | none => exact hs
    | some t =>
      rw [Option.getD_some]
      have haccepted := Option.isSome_of_eq_some hhandle
      cases event with
      | hookReport source label state message ref seq now =>
        cases hidentity : sessionIdentityOnlyIntegration source label with
        | true =>
          have hreport : s.recordIdentityOnlyHookReport source label ref seq now = some t := by
            rw [← hhandle, handle, setHookAuthority, if_pos hidentity]
          exact recordIdentityOnlyHookReport_barred happlies hs hidentity hreport
        | false =>
          refine setHookAuthority_barred happlies hs hidentity (fun hsuppressed hsome hsource => ?_)
            hhandle
          by_contra hne
          exact hrecord ⟨hsuppressed.record, hsome, hsource, hne, haccepted⟩
      | sessionStart source label ref seq reason observation now =>
        exact setAgentSessionRefForSessionStart_barred happlies hs hhandle
      | clear source seq now => exact clearHookAuthority_barred happlies hs hhandle
      | release source label seq now =>
        exact releaseAgent_barred happlies hs (fun h heq => hrecord ⟨h, heq, haccepted⟩) hhandle
      | observe observed fallbackState visibleBlocker processExited capturedAt =>
        cases hhandle
        refine setDetectedState_barred happlies hcoherent hs ?_ ?_
        · rintro rfl hobserved
          by_contra hlater
          exact hanswers ⟨hobserved.symm.trans hlabel, not_le.1 hlater⟩
        · rintro rfl hfenced holder hholds
          obtain ⟨p, hpending, -⟩ := hfenced.fence
          by_contra hother
          refine hfence ⟨holder, hholds, ?_⟩
          by_cases heq : holder = o
          · exact Or.inl ⟨heq, not_le.1 fun hle => hother ⟨heq, hle⟩⟩
          · exact Or.inr ⟨heq, p, hpending⟩

end

/-- An exit of its agent that is processed while the owner is installed bars it from anchoring
a receipt, in every later state, as long as no running observation captured after the exit
answers it and no step replaces what it left. -/
theorem unanswered_exit_bars_receipt (before after : List Op) {source label : String}
    {agent : Agent} (happlies : hookReportRetirementApplies source label = true)
    (hlabel : parseAgentLabel label = some agent) (fallbackState : AgentState)
    (visibleBlocker : Bool) (e : ℤ)
    (hinstalled : (StepRun.run stepOp .new before).authorityOwner = some (source, label) ∨
      (StepRun.run stepOp .new before).identityOwner = some (source, label))
    (hafter : StepRun.Along stepOp
      (fun s op => ¬ AnswersExit agent e op ∧ ¬ s.ReplacesFence (source, label) e op ∧
        ¬ s.ReplacesExitRecord (source, label) e op)
      (StepRun.run stepOp .new
        (before ++ [.event (.observe (some agent) fallbackState visibleBlocker true e)])) after) :
    (StepRun.run stepOp .new
      (before ++ [.event (.observe (some agent) fallbackState visibleBlocker true e)] ++
        after)).confirmedHookOwner ≠ some (source, label) := by
  rw [StepRun.run_append]
  have hcoherent := run_coherent before
  have hexit : (StepRun.run stepOp .new
      (before ++ [.event (.observe (some agent) fallbackState visibleBlocker true e)])).Barred
      (source, label) e := by
    rw [StepRun.run_snoc]
    exact setDetectedState_exit_barred happlies hcoherent hinstalled hlabel fallbackState
      visibleBlocker e
  have hstep (es : List Op) (s : TerminalState) (op : Op)
      (hs : s.Coherent ∧ s.Barred (source, label) e)
      (hop : ¬ AnswersExit agent e op ∧ ¬ s.ReplacesFence (source, label) e op ∧
        ¬ s.ReplacesExitRecord (source, label) e op) :
      (stepOp s op).Coherent ∧ (stepOp s op).Barred (source, label) e :=
    ⟨stepOp_coherent s op hs.1,
      stepOp_barred happlies hlabel hs.1 hs.2 hop.1 hop.2.1 hop.2.2⟩
  have hinv := StepRun.run_induction
    (I := fun _ s => s.Coherent ∧ s.Barred (source, label) e) ⟨run_coherent _, hexit⟩ hstep after
    hafter
  exact hinv.2.not_confirmed

/-- A report of the agent that is still running when its last exit is older than the report. -/
theorem unanswered_exit_bars_receipt_pi :
    (StepRun.run stepOp .new
      ([.event (.hookReport "zynk:pi" "pi" .working none (some ⟨.id, "s"⟩) none 100)] ++
        [.event (.observe (some .pi) .unknown false true 50)] ++
        [.event (.hookReport "zynk:pi" "pi" .idle none (some ⟨.id, "s"⟩) (some 1) 110),
          .event (.observe (some .pi) .idle false false 45)])).confirmedHookOwner ≠
      some ("zynk:pi", "pi") := by
  refine unanswered_exit_bars_receipt _ _ (by decide) (by decide) .unknown false 50
    (Or.inl (by decide)) ⟨⟨id, id, fun h => h.2.2.2.1 rfl⟩, ⟨fun h => ?_, id, id⟩, trivial⟩
  exact absurd h.2 (by decide)

/-- A run that confirms the owner although nothing answers its exit. -/
def ConfirmsUnanswered (o : String × String) (agent : Agent) (e : ℤ) (before after : List Op) :
    Prop :=
  ((StepRun.run stepOp .new before).authorityOwner = some o ∨
      (StepRun.run stepOp .new before).identityOwner = some o) ∧
    (∀ op ∈ after, ¬ AnswersExit agent e op) ∧
    (StepRun.run stepOp .new (before ++ [.event (.observe (some agent) .unknown false true e)] ++
      after)).confirmedHookOwner = some o

/-- The four ways : an older exit is held too and answered; an exit of another owner takes the
fence; the retired owner is released; another label of its source reports a session. -/
theorem confirmsUnanswered_pi :
    ConfirmsUnanswered ("zynk:pi", "pi") .pi 50
      [.event (.hookReport "zynk:pi" "pi" .working none (some ⟨.id, "s"⟩) none 100)]
      [.event (.observe (some .pi) .unknown false true 40),
        .event (.observe (some .pi) .idle false false 45)] ∧
    ConfirmsUnanswered ("zynk:pi", "pi") .pi 50
      [.event (.hookReport "zynk:pi" "pi" .working none (some ⟨.id, "s"⟩) none 100)]
      [.event (.clear none none 101), .event (.observe (some .kimi) .idle false false 102),
        .event (.hookReport "zynk:kimi" "kimi" .working none (some ⟨.id, "t"⟩) none 200),
        .event (.observe (some .kimi) .unknown false true 150), .event (.clear none none 201),
        .event (.observe none .unknown false false 202),
        .event (.hookReport "zynk:pi" "pi" .working none (some ⟨.id, "u"⟩) none 300)] ∧
    ConfirmsUnanswered ("zynk:pi", "pi") .pi 50
      [.event (.hookReport "zynk:pi" "pi" .working none (some ⟨.id, "s"⟩) none 40)]
      [.event (.release "zynk:pi" "pi" none 60),
        .event (.hookReport "zynk:pi" "pi" .working none (some ⟨.id, "s"⟩) none 70)] ∧
    ConfirmsUnanswered ("zynk:pi", "pi") .pi 50
      [.event (.hookReport "zynk:pi" "pi" .working none (some ⟨.id, "s"⟩) none 40)]
      [.event (.hookReport "zynk:pi" "other" .working none (some ⟨.id, "t"⟩) none 60),
        .event (.clear none none 70),
        .event (.hookReport "zynk:pi" "pi" .working none (some ⟨.id, "u"⟩) none 80)] := by
  refine ⟨⟨Or.inl (by decide), ?_, by decide⟩, ⟨Or.inl (by decide), ?_, by decide⟩,
    ⟨Or.inl (by decide), ?_, by decide⟩, ⟨Or.inl (by decide), ?_, by decide⟩⟩ <;>
    simp [AnswersExit]

end TerminalState

end Zynk
