import Zynk.Terminal.Frame
import Zynk.Lib.Run

/-!
# Owner coherence

The owner of a terminal is written down in three places : the authority, the identity and the
persisted session. They never disagree (`Coherent`) : an authority and an identity are never
both there, since an identity belongs to an identity-only integration and an authority never
does, and whatever is there names one owner.

Most operations only drop owners (`Shrinks`); a report or a session start writes one after
it has checked that no other is there.
-/

namespace Zynk

namespace TerminalState

/-! ## The three owners -/

def authorityOwner (s : TerminalState) : Option (String × String) :=
  s.hookAuthority.map fun authority => (authority.source, authority.agentLabel)

def identityOwner (s : TerminalState) : Option (String × String) :=
  s.hookIdentity.map fun identity => (identity.source, identity.agentLabel)

def persistedOwner (s : TerminalState) : Option (String × String) :=
  s.persistedAgentSession.map fun session => (session.source, session.agent)

/-- The three representations name one owner. -/
structure Coherent (s : TerminalState) : Prop where
  authority : ∀ o, s.authorityOwner = some o → sessionIdentityOnlyIntegration o.1 o.2 = false
  identity : ∀ o, s.identityOwner = some o → sessionIdentityOnlyIntegration o.1 o.2 = true
  agree : ∃ owner, ∀ o, s.authorityOwner = some o ∨ s.identityOwner = some o ∨
    s.persistedOwner = some o → o = owner

/-- An authority and an identity are never both there. -/
theorem Coherent.exclusive {s : TerminalState} (h : s.Coherent) :
    s.authorityOwner = none ∨ s.identityOwner = none := by
  obtain ⟨owner, hagree⟩ := h.agree
  cases ha : s.authorityOwner with
  | none => exact Or.inl rfl
  | some a =>
    cases hi : s.identityOwner with
    | none => exact Or.inr rfl
    | some i =>
      have hai : a = i := (hagree a (Or.inl ha)).trans (hagree i (Or.inr (Or.inl hi))).symm
      have hno := h.authority a ha
      rw [hai, h.identity i hi] at hno
      cases hno

/-- The authority, with its session. -/
def authoritySession (s : TerminalState) : Option (String × String × Option AgentSessionRef) :=
  s.hookAuthority.map fun authority =>
    (authority.source, authority.agentLabel, authority.sessionRef)

theorem authorityOwner_eq_map (s : TerminalState) :
    s.authorityOwner = s.authoritySession.map fun x => (x.1, x.2.1) := by
  rw [authorityOwner, authoritySession, Option.map_map]
  rfl

/-- The owners of `t` and their sessions are among those of `s`. -/
structure Shrinks (s t : TerminalState) : Prop where
  authority : ∀ x, t.authoritySession = some x → s.authoritySession = some x
  identity : ∀ o, t.identityOwner = some o → s.identityOwner = some o
  persisted : ∀ p, t.persistedAgentSession = some p → s.persistedAgentSession = some p ∨
    s.authoritySession = some (p.source, p.agent, some p.sessionRef)

namespace Shrinks

variable {s t u : TerminalState}

theorem refl (s : TerminalState) : Shrinks s s :=
  ⟨fun _ h => h, fun _ h => h, fun _ h => Or.inl h⟩

theorem trans (h : Shrinks s t) (h' : Shrinks t u) : Shrinks s u := by
  refine ⟨fun x hx => h.authority x (h'.authority x hx),
    fun o ho => h.identity o (h'.identity o ho), fun p hp => ?_⟩
  obtain hp | ha := h'.persisted p hp
  · exact h.persisted p hp
  · exact Or.inr (h.authority _ ha)

/-- Nothing is said of the fields that name no owner. -/
theorem of_eq (ha : t.authoritySession = s.authoritySession)
    (hi : t.identityOwner = s.identityOwner)
    (hp : t.persistedAgentSession = s.persistedAgentSession) : Shrinks s t :=
  ⟨fun _ h => ha ▸ h, fun _ h => hi ▸ h, fun _ h => Or.inl (hp ▸ h)⟩

theorem of_records (h : RecordsOnly s t) : Shrinks s t :=
  of_eq (congrArg (Option.map _) h.hookAuthority) (congrArg (Option.map _) h.hookIdentity)
    h.persistedAgentSession

theorem authorityOwner (h : Shrinks s t) (o : String × String)
    (ho : t.authorityOwner = some o) : s.authorityOwner = some o := by
  rw [authorityOwner_eq_map] at ho ⊢
  obtain ⟨x, hx, rfl⟩ := Option.map_eq_some_iff.1 ho
  rw [h.authority x hx]
  rfl

theorem persistedOwner (h : Shrinks s t) (o : String × String)
    (ho : t.persistedOwner = some o) : s.persistedOwner = some o ∨ s.authorityOwner = some o := by
  obtain ⟨p, hp, rfl⟩ := Option.map_eq_some_iff.1 ho
  obtain hp | ha := h.persisted p hp
  · exact Or.inl (by rw [TerminalState.persistedOwner, hp]; rfl)
  · exact Or.inr (by rw [authorityOwner_eq_map, ha]; rfl)

theorem coherent (h : Shrinks s t) (hs : s.Coherent) : t.Coherent := by
  obtain ⟨owner, hagree⟩ := hs.agree
  refine ⟨fun o ho => hs.authority o (h.authorityOwner o ho),
    fun o ho => hs.identity o (h.identity o ho), owner, fun o ho => ?_⟩
  obtain ha | hi | hp := ho
  · exact hagree o (Or.inl (h.authorityOwner o ha))
  · exact hagree o (Or.inr (Or.inl (h.identity o hi)))
  · obtain hp | ha := h.persistedOwner o hp
    · exact hagree o (Or.inr (Or.inr hp))
    · exact hagree o (Or.inl ha)

end Shrinks

/-! ## Operations that drop owners -/

theorem suppressCurrentHookAuthority_shrinks (s : TerminalState) (reason : HookSuppressionReason)
    (observedAt : ℤ) : Shrinks s (s.suppressCurrentHookAuthority reason observedAt) :=
  .of_records (suppressCurrentHookAuthority_records s reason observedAt)

theorem recomputeEffectiveState_shrinks (s : TerminalState) :
    Shrinks s s.recomputeEffectiveState :=
  .of_eq rfl rfl rfl

/-- Dropping the authority. -/
theorem dropAuthority_shrinks (s : TerminalState) : Shrinks s { s with hookAuthority := none } :=
  ⟨(fun _ h => by cases h), fun _ h => h, fun _ h => Or.inl h⟩

theorem dropIdentity_shrinks (s : TerminalState) : Shrinks s { s with hookIdentity := none } :=
  ⟨fun _ h => h, (fun _ h => by cases h), fun _ h => Or.inl h⟩

theorem dropPersisted_shrinks (s : TerminalState) :
    Shrinks s { s with persistedAgentSession := none } :=
  ⟨fun _ h => h, fun _ h => h, fun _ h => by cases h⟩

theorem retireHookIdentity_shrinks (s : TerminalState) (reason : HookSuppressionReason)
    (observedAt : ℤ) : Shrinks s (s.retireHookIdentity reason observedAt) :=
  s.dropIdentity_shrinks.trans (.of_records (s.retireHookIdentity_records reason observedAt))

theorem confirmPendingHookOwner_shrinks (s : TerminalState) (agent : Option Agent) (at' : ℤ) :
    Shrinks s (s.confirmPendingHookOwner agent at') := by
  cases agent with
  | none => exact .refl s
  | some detected =>
    refine .of_eq ?_ ?_ rfl
    · simp only [confirmPendingHookOwner, authoritySession, Option.map_map]
      congr 1
      funext authority
      simp only [Function.comp_apply]
      split <;> rfl
    · simp only [confirmPendingHookOwner, identityOwner, Option.map_map]
      congr 1
      funext identity
      simp only [Function.comp_apply]
      split <;> rfl

theorem holdHookOwnerUnconfirmed_authoritySession (s : TerminalState) (source label : String)
    (at' : ℤ) :
    (s.holdHookOwnerUnconfirmed source label at').authoritySession = s.authoritySession := by
  simp only [holdHookOwnerUnconfirmed, authoritySession, Option.map_map]
  congr 1
  funext authority
  simp only [Function.comp_apply]
  split <;> rfl

theorem holdHookOwnerUnconfirmed_identityOwner (s : TerminalState) (source label : String)
    (at' : ℤ) :
    (s.holdHookOwnerUnconfirmed source label at').identityOwner = s.identityOwner := by
  simp only [holdHookOwnerUnconfirmed, identityOwner, Option.map_map]
  congr 1
  funext identity
  simp only [Function.comp_apply]
  split <;> rfl

theorem holdHookOwnerUnconfirmed_shrinks (s : TerminalState) (source label : String) (at' : ℤ) :
    Shrinks s (s.holdHookOwnerUnconfirmed source label at') :=
  .of_eq (s.holdHookOwnerUnconfirmed_authoritySession source label at')
    (s.holdHookOwnerUnconfirmed_identityOwner source label at') rfl

theorem observeAuthorityExit_shrinks (s : TerminalState) (agent : Option Agent) (now : ℤ) :
    Shrinks s (s.observeAuthorityExit agent now) := by
  unfold observeAuthorityExit
  split
  · rename_i authority hauthority
    split
    · exact .refl s
    · split
      · exact (s.suppressCurrentHookAuthority_shrinks .processExit now).trans
          ⟨(fun _ h => by cases h), fun _ h => h, fun _ h => Or.inl h⟩
      · exact s.holdHookOwnerUnconfirmed_shrinks _ _ now
  · exact .refl s

theorem observeIdentity_shrinks (s : TerminalState) (agent : Option Agent) (processExited : Bool)
    (now : ℤ) : Shrinks s (s.observeIdentity agent processExited now) := by
  unfold observeIdentity
  split
  · split
    · split
      · exact s.retireHookIdentity_shrinks .processExit now
      · exact s.holdHookOwnerUnconfirmed_shrinks _ _ now
    · split
      · exact s.retireHookIdentity_shrinks _ now
      · exact .refl s
  · exact .refl s

variable {now : ℤ}

theorem observeIdentity_of_none {s : TerminalState} {agent : Option Agent}
    (h : s.hookIdentity = none) (processExited : Bool) :
    s.observeIdentity agent processExited now = s := by
  unfold observeIdentity
  rw [h]

theorem observeAuthorityExit_of_none {s : TerminalState} {agent : Option Agent}
    (h : s.hookAuthority = none) : s.observeAuthorityExit agent now = s := by
  unfold observeAuthorityExit
  rw [h]

theorem observeAuthorityExit_identity {s : TerminalState} {agent : Option Agent}
    (h : s.hookIdentity = none) : (s.observeAuthorityExit agent now).hookIdentity = none := by
  have hnone : (s.observeAuthorityExit agent now).identityOwner = none := by
    rw [Option.eq_none_iff_forall_ne_some]
    intro o ho
    have := (s.observeAuthorityExit_shrinks agent now).identity o ho
    rw [identityOwner, h] at this
    cases this
  exact Option.map_eq_none_iff.1 hnone

theorem dropExitedSession_shrinks (s : TerminalState) (agent : Option Agent) :
    Shrinks s (s.dropExitedSession agent) := by
  unfold dropExitedSession
  split
  · exact s.dropPersisted_shrinks
  · exact .refl s

/-- The session that stays is the authority's. -/
theorem retireReplacedAuthority_shrinks (s : TerminalState) (agent previous : Option Agent)
    (now : ℤ) : Shrinks s (s.retireReplacedAuthority agent previous now) := by
  unfold retireReplacedAuthority
  cases hauthority : s.hookAuthority with
  | none => exact .refl s
  | some authority =>
    simp only
    split
    · have hrecords := suppressCurrentHookAuthority_records s .hookClear now
      refine ⟨(fun o ho => by cases ho), fun o ho => ?_, fun o ho => Or.inr ?_⟩
      · rw [identityOwner, ← hrecords.hookIdentity]
        exact ho
      · obtain ⟨ref, href, rfl⟩ := Option.map_eq_some_iff.1 ho
        rw [authoritySession, hauthority, Option.map_some, href]
    · exact .refl s

theorem takeObservation_shrinks (s : TerminalState) (agent : Option Agent)
    (fallbackState : AgentState) (visibleBlocker processExited : Bool) (now : ℤ) :
    Shrinks s (s.takeObservation agent fallbackState visibleBlocker processExited now) := by
  have hdetected (s : TerminalState) : Shrinks s { s with detectedAgent := agent } :=
    .of_eq rfl rfl rfl
  have hlift (s : TerminalState) : Shrinks s
      (if processExited then s else s.clearHookSuppressionForDetectedAgent agent now) := by
    split
    · exact .refl s
    · exact .of_records (s.clearHookSuppressionForDetectedAgent_records agent now)
  have hfallback (s : TerminalState) : Shrinks s { s with
      fallbackState
      fallbackVisibleBlocker := visibleBlocker && fallbackState == AgentState.blocked
      fallbackObservedAt := some now } := .of_eq rfl rfl rfl
  have hexit (s : TerminalState) : Shrinks s
      (if processExited then s.observeAuthorityExit agent now else s) := by
    split
    · exact s.observeAuthorityExit_shrinks agent now
    · exact .refl s
  have hloss (s : TerminalState) :=
    Shrinks.of_records (s.observeProcessLossForRetiredOwners_records agent processExited now)
  have hdrop (s : TerminalState) : Shrinks s
      (if processExited then s.dropExitedSession agent else s) := by
    split
    · exact s.dropExitedSession_shrinks agent
    · exact .refl s
  exact (hdetected s).trans <| (hlift _).trans <| (hfallback _).trans <| (hexit _).trans <|
    (observeIdentity_shrinks _ agent processExited now).trans <| (hloss _).trans <|
    (hdrop _).trans <| retireReplacedAuthority_shrinks _ agent s.detectedAgent now

theorem setDetectedState_shrinks (s : TerminalState) (agent : Option Agent)
    (fallbackState : AgentState) (visibleBlocker processExited : Bool) (now : ℤ) :
    Shrinks s (s.setDetectedState agent fallbackState visibleBlocker processExited now) := by
  have hconfirm : Shrinks s (if processExited then s else s.confirmPendingHookOwner agent now) := by
    split
    · exact .refl s
    · exact s.confirmPendingHookOwner_shrinks agent now
  obtain ⟨u, rfl, ⟨-, detectedAgent, h⟩ | ⟨-, h⟩⟩ :=
    s.setDetectedState_cases agent fallbackState visibleBlocker processExited now
  · rw [h]
    exact hconfirm.trans (.of_eq rfl rfl rfl)
  · rw [h]
    exact hconfirm.trans <| (takeObservation_shrinks _ agent fallbackState visibleBlocker
      processExited now).trans (recomputeEffectiveState_shrinks _)

theorem clearOwner_shrinks (s : TerminalState) (source : Option String) (now : ℤ) :
    Shrinks s (s.clearOwner source now) := by
  have hsuppress (clears : Bool) (s : TerminalState) :
      Shrinks s (if clears then s.suppressCurrentHookAuthority .hookClear now else s) := by
    split
    · exact s.suppressCurrentHookAuthority_shrinks .hookClear now
    · exact .refl s
  have hretire (cleared : Option HookIdentity) (s : TerminalState) :
      Shrinks s (if cleared.isSome then s.retireHookIdentity .hookClear now else s) := by
    split
    · exact s.retireHookIdentity_shrinks .hookClear now
    · exact .refl s
  refine (hsuppress (s.shouldClearAuthority source) s).trans <|
    (hretire (if s.shouldClearIdentity source then s.hookIdentity else none) _).trans ?_
  simp only [clearOwner]
  generalize (if (if s.shouldClearIdentity source = true then s.hookIdentity else none).isSome = true
    then _ else _ : TerminalState) = u
  split
  · exact u.dropAuthority_shrinks.trans (dropPersisted_shrinks _)
  · split
    · split
      · exact u.dropPersisted_shrinks
      · exact .refl u
    · split
      · exact u.dropPersisted_shrinks
      · exact .refl u

theorem releaseOwner_shrinks (s : TerminalState) (source label : String) (now : ℤ) :
    Shrinks s (s.releaseOwner source label now) := by
  refine ⟨(fun o ho => by cases ho), fun o ho => ?_, fun o ho => Or.inl ?_⟩
  · simp only [identityOwner, releaseOwner, Option.map_eq_some_iff] at ho ⊢
    obtain ⟨identity, hidentity, rfl⟩ := ho
    exact ⟨identity, (Option.filter_eq_some_iff.1 hidentity).1, rfl⟩
  · exact (Option.filter_eq_some_iff.1 ho).1

/-! ## Operations that write an owner -/

variable {source label : String}

/-- No conflict : whoever is there is the reporting owner. -/
theorem Coherent.owner_eq {s : TerminalState} (hs : s.Coherent)
    (h : s.currentSessionOwnerConflicts source label = false) :
    ∀ o, s.authorityOwner = some o ∨ s.identityOwner = some o ∨ s.persistedOwner = some o →
      o = (source, label) := by
  obtain ⟨owner, hagree⟩ := hs.agree
  have hcurrent : s.currentSessionOwner = s.authorityOwner.or (s.identityOwner.or s.persistedOwner) :=
    rfl
  rw [currentSessionOwnerConflicts, hcurrent] at h
  intro o ho
  -- Whichever is there first is compared, and it is the owner of all of them.
  cases ha : s.authorityOwner with
  | some a =>
    simp only [ha, Option.some_or, Option.any_some, bne_eq_false_iff_eq] at h
    rw [hagree o ho, ← hagree a (Or.inl ha), h]
  | none =>
    cases hi : s.identityOwner with
    | some i =>
      simp only [ha, hi, Option.some_or, Option.none_or, Option.any_some, bne_eq_false_iff_eq] at h
      rw [hagree o ho, ← hagree i (Or.inr (Or.inl hi)), h]
    | none =>
      obtain hao | hio | hpo := ho
      · rw [ha] at hao
        cases hao
      · rw [hi] at hio
        cases hio
      · simp only [ha, hi, hpo, Option.none_or, Option.any_some, bne_eq_false_iff_eq] at h
        exact h

/-- A state in which `owner` is the only owner. -/
theorem coherent_of_owner {t : TerminalState} (owner : String × String)
    (ha : ∀ o, t.authorityOwner = some o →
      o = owner ∧ sessionIdentityOnlyIntegration owner.1 owner.2 = false)
    (hi : ∀ o, t.identityOwner = some o →
      o = owner ∧ sessionIdentityOnlyIntegration owner.1 owner.2 = true)
    (hp : ∀ o, t.persistedOwner = some o → o = owner) : t.Coherent := by
  refine ⟨fun o ho => ?_, fun o ho => ?_, owner, fun o ho => ?_⟩
  · obtain ⟨rfl, hno⟩ := ha o ho
    exact hno
  · obtain ⟨rfl, hyes⟩ := hi o ho
    exact hyes
  · obtain ho | ho | ho := ho
    · exact (ha o ho).1
    · exact (hi o ho).1
    · exact hp o ho

/-- The owners that are there when a report passes : the reporting one, of its own kind. -/
theorem Coherent.authority_of_no_conflict {s : TerminalState} (hs : s.Coherent)
    (h : s.currentSessionOwnerConflicts source label = false) : ∀ o, s.authorityOwner = some o →
      o = (source, label) ∧ sessionIdentityOnlyIntegration source label = false := by
  intro o ho
  have howner := hs.owner_eq h o (Or.inl ho)
  have hno := hs.authority o ho
  rw [howner] at hno
  exact ⟨howner, hno⟩

theorem Coherent.identity_of_no_conflict {s : TerminalState} (hs : s.Coherent)
    (h : s.currentSessionOwnerConflicts source label = false) : ∀ o, s.identityOwner = some o →
      o = (source, label) ∧ sessionIdentityOnlyIntegration source label = true := by
  intro o ho
  have howner := hs.owner_eq h o (Or.inr (Or.inl ho))
  have hyes := hs.identity o ho
  rw [howner] at hyes
  exact ⟨howner, hyes⟩

variable {ref : Option AgentSessionRef} {seq : Option ℕ}

theorem setHookAuthority_coherent {s t : TerminalState} {state : AgentState}
    {message : Option String} (hs : s.Coherent)
    (hidentity : sessionIdentityOnlyIntegration source label = false)
    (h : s.setHookAuthority source label state message ref seq now = some t) : t.Coherent := by
  obtain ⟨hconflicts, resetSequence, sequenceToStore, -, rfl⟩ :=
    setHookAuthority_eq_some hidentity h
  have hrecords := admitHookReport_records s source label (s.clampSessionRef source label ref)
    resetSequence sequenceToStore
  refine coherent_of_owner (source, label) (fun o ho => ?_) (fun o ho => ?_) (fun o ho => ?_)
  · cases ho
    exact ⟨rfl, hidentity⟩
  · -- An identity that stays is one of `s`.
    obtain ⟨identity, hfilter, rfl⟩ := Option.map_eq_some_iff.1 ho
    have hmem := (Option.filter_eq_some_iff.1 hfilter).1
    rw [hrecords.hookIdentity] at hmem
    exact hs.identity_of_no_conflict hconflicts _ (by rw [identityOwner, hmem]; rfl)
  · cases ho

theorem recordIdentityOnlyHookReport_coherent {s t : TerminalState} (hs : s.Coherent)
    (hidentity : sessionIdentityOnlyIntegration source label = true)
    (h : s.recordIdentityOnlyHookReport source label ref seq now = some t) : t.Coherent := by
  obtain ⟨hconflicts, resetSequence, sequenceToStore, -, rfl⟩ :=
    recordIdentityOnlyHookReport_eq_some h
  generalize hclamped : s.clampSessionRef source label ref = clamped
  have hrecords := admitHookReport_records s source label clamped resetSequence sequenceToStore
  have hauthority (o : String × String) (ho : (s.admitHookReport source label clamped resetSequence
      sequenceToStore).authorityOwner = some o) :
      o = (source, label) ∧ sessionIdentityOnlyIntegration source label = false := by
    rw [authorityOwner, hrecords.hookAuthority] at ho
    exact hs.authority_of_no_conflict hconflicts o ho
  have hpersisted (o : String × String) (ho : (s.admitHookReport source label clamped
      resetSequence sequenceToStore).persistedOwner = some o) : o = (source, label) := by
    rw [persistedOwner, hrecords.persistedAgentSession] at ho
    exact hs.owner_eq hconflicts o (Or.inr (Or.inr ho))
  clear hrecords
  generalize s.admitHookReport source label clamped resetSequence sequenceToStore = admitted
    at hauthority hpersisted ⊢
  cases clamped with
  | none =>
    refine coherent_of_owner (source, label) hauthority (fun o ho => ?_) hpersisted
    cases ho
    exact ⟨rfl, hidentity⟩
  | some ref =>
    refine coherent_of_owner (source, label) hauthority (fun o ho => ?_) (fun o ho => ?_)
    · cases ho
      exact ⟨rfl, hidentity⟩
    · cases ho
      rfl

theorem retireReplacedSession_shrinks (s : TerminalState) (source label : String)
    (replaced : Option AgentSessionRef) (now : ℤ) :
    Shrinks s (s.retireReplacedSession source label replaced now) := by
  unfold retireReplacedSession
  split
  · exact .trans (.of_records (rememberStaleHookSession_records s source label _ now none none))
      (dropAuthority_shrinks _)
  · exact .refl s

/-- What a session start leaves of the owners, besides its own session. -/
theorem anchorSessionStart_owners (s : TerminalState) (source label : String)
    (ref : AgentSessionRef) (reason : Option String) (ownerConflicts : Bool) (now : ℤ) :
    (∀ o, (s.anchorSessionStart source label ref reason ownerConflicts now).authorityOwner = some o →
      s.authorityOwner = some o) ∧
    (∀ o, (s.anchorSessionStart source label ref reason ownerConflicts now).identityOwner = some o →
      s.identityOwner = some o ∨
        o = (source, label) ∧ sessionIdentityOnlyIntegration source label = true) ∧
    (s.anchorSessionStart source label ref reason ownerConflicts now).persistedOwner =
      some (source, label) := by
  have hretire := (Shrinks.of_records (s.reclaimSession_records source label ref reason)).trans <|
    (retireReplacedSession_shrinks _ source label
      (s.sameOwnerFullLifecycleHookAuthoritySessionRef source label ref) now).trans <|
    .of_records (retireForeignSession_records _ ownerConflicts now)
  simp only [anchorSessionStart]
  generalize (((s.reclaimSession source label ref reason).retireReplacedSession source label
    (s.sameOwnerFullLifecycleHookAuthoritySessionRef source label ref)
    now).retireForeignSession ownerConflicts now) = u at hretire ⊢
  refine ⟨fun o ho => hretire.authorityOwner o ?_, fun o ho => ?_, rfl⟩
  · unfold anchorIdentity at ho
    split at ho
    · rw [authorityOwner, ← (u.retireSuppressedSessionAfterAccepting_records source label
        (some ref)).hookAuthority]
      exact ho
    · exact ho
  · unfold anchorIdentity at ho
    split at ho
    · rename_i hidentity
      cases ho
      exact Or.inr ⟨rfl, hidentity⟩
    · exact Or.inl (hretire.identity o ho)

theorem setAgentSessionRefForSessionStart_coherent {s t : TerminalState} {reason : Option String}
    {observation : Option ForegroundProcessObservation} (hs : s.Coherent)
    (h : s.setAgentSessionRefForSessionStart source label ref seq reason observation now = some t) :
    t.Coherent := by
  obtain ⟨ref, rfl, hrefused, resetSequence, sequenceToStore, -, rfl⟩ :=
    setAgentSessionRefForSessionStart_eq_some h
  obtain ⟨hauthority, hidentity, hpersisted⟩ := anchorSessionStart_owners
    (s.commitHookReportAdmission source resetSequence sequenceToStore) source label ref reason
    (s.currentSessionOwnerConflicts source label) now
  -- Another owner takes over only when no authority and no identity is there.
  have ha : ∀ o, s.authorityOwner = some o →
      o = (source, label) ∧ sessionIdentityOnlyIntegration source label = false := by
    cases hconflicts : s.currentSessionOwnerConflicts source label with
    | false => exact hs.authority_of_no_conflict hconflicts
    | true =>
      intro o ho
      rw [authorityOwner, (not_installed_of_sessionStart_conflicts hrefused hconflicts).1] at ho
      cases ho
  have hi : ∀ o, s.identityOwner = some o →
      o = (source, label) ∧ sessionIdentityOnlyIntegration source label = true := by
    cases hconflicts : s.currentSessionOwnerConflicts source label with
    | false => exact hs.identity_of_no_conflict hconflicts
    | true =>
      intro o ho
      rw [identityOwner, (not_installed_of_sessionStart_conflicts hrefused hconflicts).2] at ho
      cases ho
  refine coherent_of_owner (source, label) (fun o ho => ha o (hauthority o ho))
    (fun o ho => (hidentity o ho).elim (hi o) id) (fun o ho => ?_)
  exact Option.some.inj (ho.symm.trans hpersisted)

/-! ## Every reachable state -/

theorem step_coherent (s : TerminalState) (event : TerminalEvent) (hs : s.Coherent) :
    (s.step event).Coherent := by
  unfold step
  cases hhandle : s.handle event with
  | none => exact hs
  | some t =>
    rw [Option.getD_some]
    cases event with
    | hookReport source label state message ref seq now =>
      cases hidentity : sessionIdentityOnlyIntegration source label with
      | true =>
        have hrecord : s.recordIdentityOnlyHookReport source label ref seq now = some t := by
          rw [← hhandle, handle, setHookAuthority, if_pos hidentity]
        exact recordIdentityOnlyHookReport_coherent hs hidentity hrecord
      | false => exact setHookAuthority_coherent hs hidentity hhandle
    | sessionStart source label ref seq reason observation now =>
      exact setAgentSessionRefForSessionStart_coherent hs hhandle
    | clear source seq now =>
      obtain ⟨-, sequences, rfl⟩ := clearHookAuthority_eq_some hhandle
      exact ((clearOwner_shrinks { s with hookReportSequences := sequences } source now).trans
        (recomputeEffectiveState_shrinks _)).coherent ⟨hs.authority, hs.identity, hs.agree⟩
    | release source label seq now =>
      obtain ⟨-, sequences, rfl⟩ := releaseAgent_eq_some hhandle
      exact ((releaseOwner_shrinks { s with hookReportSequences := sequences } source label
        now).trans (recomputeEffectiveState_shrinks _)).coherent
        ⟨hs.authority, hs.identity, hs.agree⟩
    | observe agent fallbackState visibleBlocker processExited capturedAt =>
      cases hhandle
      exact (s.setDetectedState_shrinks agent fallbackState visibleBlocker processExited
        capturedAt).coherent hs

/-- The cached state is the one the arbitration rule gives. -/
def Arbitrated (s : TerminalState) : Prop :=
  s.state = s.effectiveState

/-- An identity report changes nothing that the rule reads. -/
theorem recordIdentityOnlyHookReport_arbitrated {s t : TerminalState} (hs : s.Arbitrated)
    (h : s.recordIdentityOnlyHookReport source label ref seq now = some t) : t.Arbitrated := by
  obtain ⟨-, resetSequence, sequenceToStore, -, rfl⟩ := recordIdentityOnlyHookReport_eq_some h
  generalize s.clampSessionRef source label ref = clamped
  have hrecords := admitHookReport_records s source label clamped resetSequence sequenceToStore
  rw [RecordsOnly] at hrecords
  rw [hrecords]
  cases clamped <;> exact hs

theorem step_arbitrated (s : TerminalState) (event : TerminalEvent) (hs : s.Arbitrated) :
    (s.step event).Arbitrated := by
  unfold step
  cases hhandle : s.handle event with
  | none => exact hs
  | some t =>
    rw [Option.getD_some]
    cases event with
    | hookReport source label state message ref seq now =>
      cases hidentity : sessionIdentityOnlyIntegration source label with
      | true =>
        have hrecord : s.recordIdentityOnlyHookReport source label ref seq now = some t := by
          rw [← hhandle, handle, setHookAuthority, if_pos hidentity]
        exact recordIdentityOnlyHookReport_arbitrated hs hrecord
      | false =>
        obtain ⟨-, _, _, -, rfl⟩ := setHookAuthority_eq_some hidentity hhandle
        rfl
    | sessionStart source label ref seq reason observation now =>
      obtain ⟨_, -, -, _, _, -, rfl⟩ := setAgentSessionRefForSessionStart_eq_some hhandle
      rfl
    | clear source seq now =>
      obtain ⟨-, _, rfl⟩ := clearHookAuthority_eq_some hhandle
      rfl
    | release source label seq now =>
      obtain ⟨-, _, rfl⟩ := releaseAgent_eq_some hhandle
      rfl
    | observe agent fallbackState visibleBlocker processExited capturedAt =>
      cases hhandle
      obtain ⟨u, -, ⟨-, _, h⟩ | ⟨-, h⟩⟩ :=
        s.setDetectedState_cases agent fallbackState visibleBlocker processExited capturedAt
      · rw [h]
        rfl
      · rw [h]
        rfl

/-- An event, or the reset of a terminal whose shell was respawned. -/
inductive Op where
  | event (event : TerminalEvent)
  | respawn

def stepOp (s : TerminalState) : Op → TerminalState
  | .event event => s.step event
  | .respawn => s.clearAgentRuntimeIdentityAfterRespawn

theorem stepOp_coherent (s : TerminalState) (op : Op) (hs : s.Coherent) : (stepOp s op).Coherent := by
  cases op with
  | event event => exact s.step_coherent event hs
  | respawn =>
    exact coherent_of_owner ("", "") (fun _ h => by cases h) (fun _ h => by cases h)
      (fun _ h => by cases h)

/-- Every reachable state is coherent. -/
theorem run_coherent (ops : List Op) : (StepRun.run stepOp .new ops).Coherent :=
  StepRun.run_invariant stepOp_coherent (coherent_of_owner ("", "") (fun _ h => by cases h)
    (fun _ h => by cases h) (fun _ h => by cases h)) ops

theorem run_step_coherent (events : List TerminalEvent) : (StepRun.run step .new events).Coherent :=
  StepRun.run_invariant step_coherent (coherent_of_owner ("", "") (fun _ h => by cases h)
    (fun _ h => by cases h) (fun _ h => by cases h)) events

theorem run_arbitrated (ops : List Op) : (StepRun.run stepOp .new ops).Arbitrated := by
  have hnew : new.Arbitrated := rfl
  refine StepRun.run_invariant (fun s op hs => ?_) hnew ops
  cases op with
  | event event => exact s.step_arbitrated event hs
  | respawn => rfl

/-- In every reachable state the authority, the identity and the persisted session name one
owner, the first two are never both there, and the cached state is the one the arbitration
rule gives. -/
theorem owner_coherence (ops : List Op) :
    let s := StepRun.run stepOp .new ops
    (s.hookAuthority = none ∨ s.hookIdentity = none) ∧
      (∃ source label,
        (∀ authority, s.hookAuthority = some authority →
          authority.source = source ∧ authority.agentLabel = label) ∧
        (∀ identity, s.hookIdentity = some identity →
          identity.source = source ∧ identity.agentLabel = label) ∧
        ∀ session, s.persistedAgentSession = some session →
          session.source = source ∧ session.agent = label) ∧
      s.state = if s.visibleBlockerOverridesHook then .blocked
        else (s.hookAuthority.map (·.state)).getD s.fallbackState := by
  intro s
  have hcoherent : s.Coherent := run_coherent ops
  obtain ⟨owner, hagree⟩ := hcoherent.agree
  refine ⟨?_, ⟨owner.1, owner.2, fun a ha => ?_, fun i hi => ?_, fun p hp => ?_⟩,
    run_arbitrated ops⟩
  · simpa [authorityOwner, identityOwner] using hcoherent.exclusive
  · have := hagree (a.source, a.agentLabel) (Or.inl (by rw [authorityOwner, ha]; rfl))
    exact ⟨congrArg Prod.fst this, congrArg Prod.snd this⟩
  · have := hagree (i.source, i.agentLabel) (Or.inr (Or.inl (by rw [identityOwner, hi]; rfl)))
    exact ⟨congrArg Prod.fst this, congrArg Prod.snd this⟩
  · have := hagree (p.source, p.agent) (Or.inr (Or.inr (by rw [persistedOwner, hp]; rfl)))
    exact ⟨congrArg Prod.fst this, congrArg Prod.snd this⟩

end TerminalState

end Zynk
