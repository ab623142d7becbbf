import Zynk.Terminal.Frame

/-!
# The stale sessions through an operation

What each operation does to the list of stale sessions of a source. Two relations say all
that is needed of it. `Keeps` : the entries of one retired session are still there, and their
boundary has not moved back. `Evident` : all evidence is of a given kind, which an operation
keeps that records none, or only evidence of that kind.
-/

namespace Zynk

namespace StaleHookSession

/-- The entry is for this session of this label. -/
def Of (x : StaleHookSession) (label : String) (ref : AgentSessionRef) : Prop :=
  x.agentLabel = label ∧ x.sessionRef = ref

/-- The same entry, with its boundary moved forward at most and no more evidence. -/
structure Ages (x x' : StaleHookSession) : Prop where
  agentLabel : x'.agentLabel = x.agentLabel
  sessionRef : x'.sessionRef = x.sessionRef
  boundary : x.evidenceBoundary ≤ x'.evidenceBoundary
  evidence : ∀ t, x'.freshProcessEvidence = some t → x.freshProcessEvidence = some t

theorem Ages.refl (x : StaleHookSession) : Ages x x :=
  ⟨rfl, rfl, le_refl _, fun _ h => h⟩

theorem Ages.trans {x y z : StaleHookSession} (h : Ages x y) (h' : Ages y z) : Ages x z :=
  ⟨h'.agentLabel.trans h.agentLabel, h'.sessionRef.trans h.sessionRef,
    le_trans h.boundary h'.boundary, fun t ht => h.evidence t (h'.evidence t ht)⟩

theorem observeRetirement_ages (x : StaleHookSession) (at' : ℤ) : Ages x (x.observeRetirement at') :=
  ⟨by simp, by simp, by simp, fun _ => evidence_of_observeRetirement⟩

theorem observeProcessLoss_ages (x : StaleHookSession) (at' : ℤ) :
    Ages x (x.observeProcessLoss at') :=
  ⟨by simp, by simp, by simp, fun _ => evidence_of_observeProcessLoss⟩

/-- What `remember_stale_hook_session` does to the entry of the session. -/
def retireAgain (x : StaleHookSession) (retiredAt : ℤ) (freshProcessEvidence : Option ℤ)
    (lastLossObservedAt : Option ℤ) : StaleHookSession :=
  let x := x.observeRetirement retiredAt
  let x := lastLossObservedAt.elim x x.observeProcessLoss
  freshProcessEvidence.elim x x.recordFreshProcessEvidence

/-- The entry is as before, its boundary not before the retirement and the loss, and its
evidence is from before or the one that is given. -/
theorem retireAgain_spec (x : StaleHookSession) (retiredAt : ℤ) (evidence loss : Option ℤ) :
    (x.retireAgain retiredAt evidence loss).agentLabel = x.agentLabel ∧
      (x.retireAgain retiredAt evidence loss).sessionRef = x.sessionRef ∧
      x.evidenceBoundary ≤ (x.retireAgain retiredAt evidence loss).evidenceBoundary ∧
      retiredAt ≤ (x.retireAgain retiredAt evidence loss).evidenceBoundary ∧
      (∀ l, loss = some l → l ≤ (x.retireAgain retiredAt evidence loss).evidenceBoundary) ∧
      ∀ t, (x.retireAgain retiredAt evidence loss).freshProcessEvidence = some t →
        evidence = some t ∨ x.freshProcessEvidence = some t := by
  have hretired := x.observeRetirement_ages retiredAt
  have hboundary : retiredAt ≤ (x.observeRetirement retiredAt).evidenceBoundary := by simp
  unfold retireAgain
  simp only
  generalize x.observeRetirement retiredAt = y at hretired hboundary ⊢
  have hloss : Ages y (loss.elim y y.observeProcessLoss) ∧
      ∀ l, loss = some l → l ≤ (loss.elim y y.observeProcessLoss).evidenceBoundary := by
    cases loss with
    | none => exact ⟨.refl y, fun _ h => by cases h⟩
    | some l =>
      refine ⟨y.observeProcessLoss_ages l, fun l' h => ?_⟩
      cases h
      simp
  generalize (loss.elim y y.observeProcessLoss) = z at hloss ⊢
  have hages := hretired.trans hloss.1
  cases evidence with
  | none =>
    exact ⟨hages.agentLabel, hages.sessionRef, hages.boundary,
      le_trans hboundary hloss.1.boundary, hloss.2, fun t ht => Or.inr (hages.evidence t ht)⟩
  | some seen =>
    refine ⟨?_, ?_, ?_, ?_, fun l hl => ?_, fun t ht => ?_⟩
    · simpa using hages.agentLabel
    · simpa using hages.sessionRef
    · simpa using hages.boundary
    · simpa using le_trans hboundary hloss.1.boundary
    · simpa using hloss.2 l hl
    · obtain rfl | h := evidence_of_recordFreshProcessEvidence ht
      · exact Or.inl rfl
      · exact Or.inr (hages.evidence t h)

end StaleHookSession

namespace TerminalState

open StaleHookSession

/-! ## The list of a source -/

/-- The list after every value was changed. -/
theorem staleSessions_mapWithKey (s : TerminalState) (source : String)
    (f : String → List StaleHookSession → List StaleHookSession) (hnil : f source [] = []) :
    { s with staleHookSessions := s.staleHookSessions.mapWithKey f }.staleSessions source =
      f source (s.staleSessions source) := by
  simp only [staleSessions, Assoc.lookup_mapWithKey]
  cases s.staleHookSessions.lookup source with
  | none => exact hnil.symm
  | some stales => rfl

/-- The list `remember_stale_hook_session` writes. -/
def remembered (stales : List StaleHookSession) (label : String) (ref : AgentSessionRef)
    (retiredAt : ℤ) (evidence loss : Option ℤ) : List StaleHookSession :=
  (if stales.any fun x => x.agentLabel = label ∧ x.sessionRef = ref then stales
    else stales ++ [{ agentLabel := label, sessionRef := ref, freshProcessEvidence := none,
                      lastLossObservedAt := none, retiredAt }]).map fun x =>
    if x.agentLabel = label ∧ x.sessionRef = ref then x.retireAgain retiredAt evidence loss else x

theorem staleSessions_rememberStaleHookSession (s : TerminalState) (source label : String)
    (ref : AgentSessionRef) (retiredAt : ℤ) (evidence loss : Option ℤ) (k : String) :
    (s.rememberStaleHookSession source label ref retiredAt evidence loss).staleSessions k =
      if k = source then remembered (s.staleSessions source) label ref retiredAt evidence loss
      else s.staleSessions k := by
  by_cases hk : k = source
  · subst hk
    rw [if_pos rfl]
    unfold staleSessions
    rw [show (s.rememberStaleHookSession k label ref retiredAt evidence loss).staleHookSessions =
      s.staleHookSessions.insert k
        (remembered (s.staleSessions k) label ref retiredAt evidence loss) from ?_,
      AList.lookup_insert]
    · rfl
    · simp only [rememberStaleHookSession, remembered, retireAgain, decide_eq_true_eq]
  · rw [if_neg hk]
    unfold staleSessions
    exact congrArg (Option.getD · []) (AList.lookup_insert_ne hk)

/-- Where an entry of the written list comes from. -/
theorem mem_remembered {stales : List StaleHookSession} {label : String} {ref : AgentSessionRef}
    {retiredAt : ℤ} {evidence loss : Option ℤ} {x' : StaleHookSession}
    (h : x' ∈ remembered stales label ref retiredAt evidence loss) :
    (x' ∈ stales ∧ ¬ x'.Of label ref) ∨
      ∃ x, x.Of label ref ∧ x' = x.retireAgain retiredAt evidence loss ∧
        (x ∈ stales ∨ x.freshProcessEvidence = none) := by
  obtain ⟨x, hx, rfl⟩ := List.mem_map.1 h
  split
  · rename_i hsame
    refine Or.inr ⟨x, hsame, rfl, ?_⟩
    split at hx
    · exact Or.inl hx
    · obtain hx | hx := List.mem_append.1 hx
      · exact Or.inl hx
      · rw [List.mem_singleton.1 hx]
        exact Or.inr rfl
  · rename_i hother
    refine Or.inl ⟨?_, hother⟩
    split at hx
    · exact hx
    · obtain hx | hx := List.mem_append.1 hx
      · exact hx
      · rw [List.mem_singleton.1 hx] at hother
        exact absurd ⟨rfl, rfl⟩ hother

/-- An entry of another session stays as it is. -/
theorem mem_remembered_of_mem {stales : List StaleHookSession} {label : String}
    {ref : AgentSessionRef} {x : StaleHookSession} (hx : x ∈ stales) (hother : ¬ x.Of label ref)
    (retiredAt : ℤ) (evidence loss : Option ℤ) :
    x ∈ remembered stales label ref retiredAt evidence loss := by
  refine List.mem_map.2 ⟨x, ?_, if_neg hother⟩
  split
  · exact hx
  · exact List.mem_append_left _ hx

/-- The session is among the remembered. -/
theorem exists_mem_remembered (stales : List StaleHookSession) (label : String)
    (ref : AgentSessionRef) (retiredAt : ℤ) (evidence loss : Option ℤ) :
    ∃ x ∈ remembered stales label ref retiredAt evidence loss, x.Of label ref := by
  have hmem : ∃ x, x ∈ (if stales.any fun x => x.agentLabel = label ∧ x.sessionRef = ref then stales
      else stales ++ [{ agentLabel := label, sessionRef := ref, freshProcessEvidence := none,
                        lastLossObservedAt := none, retiredAt }]) ∧ x.Of label ref := by
    split
    · rename_i hany
      obtain ⟨x, hx, hsame⟩ := List.any_eq_true.1 hany
      exact ⟨x, hx, by simpa [Of] using hsame⟩
    · exact ⟨_, List.mem_append_right _ (List.mem_singleton.2 rfl), rfl, rfl⟩
  obtain ⟨x, hx, hsame⟩ := hmem
  obtain ⟨hlabel, href, -⟩ := x.retireAgain_spec retiredAt evidence loss
  exact ⟨x.retireAgain retiredAt evidence loss, List.mem_map.2 ⟨x, hx, if_pos hsame⟩,
    hlabel.trans hsame.1, href.trans hsame.2⟩

/-- The list after a session anchors identity again. -/
theorem staleSessions_forgetStaleHookSession (s : TerminalState) (source label : String)
    (ref : AgentSessionRef) (k : String) :
    (s.forgetStaleHookSession source label ref).staleSessions k =
      if k = source then
        (s.staleSessions source).filter fun x => x.agentLabel ≠ label ∨ x.sessionRef ≠ ref
      else s.staleSessions k := by
  unfold forgetStaleHookSession
  cases hlookup : s.staleHookSessions.lookup source with
  | none =>
    simp only
    by_cases hk : k = source
    · subst hk
      simp [staleSessions, hlookup]
    · rw [if_neg hk]
  | some stales =>
    simp only
    by_cases hk : k = source
    · subst hk
      rw [if_pos rfl]
      unfold staleSessions
      simp only [hlookup, Option.getD_some]
      split
      · rename_i hempty
        rw [AList.lookup_erase]
        exact (List.isEmpty_iff.1 hempty).symm
      · rw [AList.lookup_insert]
        rfl
    · rw [if_neg hk]
      unfold staleSessions
      simp only
      split
      · rw [AList.lookup_erase_ne hk]
      · rw [AList.lookup_insert_ne hk]

/-! ## A retired session is kept -/

/-- There is an entry for the session of the owner. -/
def IsStale (s : TerminalState) (o : String × String) (ref : AgentSessionRef) : Prop :=
  ∃ x ∈ s.staleSessions o.1, x.Of o.2 ref

/-- Every entry for the session is bounded by the instants in `B`. -/
def StaleAfter (s : TerminalState) (o : String × String) (ref : AgentSessionRef) (B : ℤ → Prop) :
    Prop :=
  ∀ x ∈ s.staleSessions o.1, x.Of o.2 ref → ∀ b, B b → b ≤ x.evidenceBoundary

/-- The session stays stale, and no boundary of it moves back. -/
structure Keeps (o : String × String) (ref : AgentSessionRef) (s t : TerminalState) : Prop where
  isStale : s.IsStale o ref → t.IsStale o ref
  staleAfter : ∀ B, s.StaleAfter o ref B → t.StaleAfter o ref B

namespace Keeps

variable {s t u : TerminalState} {o : String × String} {ref : AgentSessionRef}

theorem trans (h : Keeps o ref s t) (h' : Keeps o ref t u) : Keeps o ref s u :=
  ⟨h'.isStale ∘ h.isStale, fun B hB => h'.staleAfter B (h.staleAfter B hB)⟩

theorem of_eq (h : t.staleSessions o.1 = s.staleSessions o.1) : Keeps o ref s t := by
  refine ⟨fun ⟨x, hx, hof⟩ => ⟨x, by rw [h]; exact hx, hof⟩, fun B hB x hx => hB x ?_⟩
  rw [← h]
  exact hx

/-- Every entry of the source is changed by a function under which it ages, for its boundary. -/
theorem of_map {f : StaleHookSession → StaleHookSession}
    (h : t.staleSessions o.1 = (s.staleSessions o.1).map f)
    (hlabel : ∀ x, (f x).agentLabel = x.agentLabel) (href : ∀ x, (f x).sessionRef = x.sessionRef)
    (hboundary : ∀ x, x.evidenceBoundary ≤ (f x).evidenceBoundary) : Keeps o ref s t := by
  constructor
  · rintro ⟨x, hx, hof⟩
    refine ⟨f x, ?_, (hlabel x).trans hof.1, (href x).trans hof.2⟩
    rw [h]
    exact List.mem_map_of_mem hx
  · intro B hB x' hx' hof b hb
    rw [h] at hx'
    obtain ⟨x, hx, rfl⟩ := List.mem_map.1 hx'
    refine le_trans (hB x hx ⟨?_, ?_⟩ b hb) (hboundary x)
    · rw [← hlabel x]
      exact hof.1
    · rw [← href x]
      exact hof.2

end Keeps

section

variable {o : String × String} {ref : AgentSessionRef}

/-- Another session is remembered. -/
theorem rememberStaleHookSession_keeps (s : TerminalState) {source label : String}
    {other : AgentSessionRef} (hne : (source, label, other) ≠ (o.1, o.2, ref)) (retiredAt : ℤ)
    (evidence loss : Option ℤ) :
    Keeps o ref s (s.rememberStaleHookSession source label other retiredAt evidence loss) := by
  have hlist := staleSessions_rememberStaleHookSession s source label other retiredAt evidence loss
    o.1
  by_cases hsource : o.1 = source
  · rw [if_pos hsource] at hlist
    have hother {x : StaleHookSession} (hof : x.Of o.2 ref) : ¬ x.Of label other := by
      rintro ⟨hlabel, href⟩
      exact hne (by rw [← hsource, ← hlabel, ← href, hof.1, hof.2])
    constructor
    · rintro ⟨x, hx, hof⟩
      refine ⟨x, ?_, hof⟩
      rw [hlist]
      exact mem_remembered_of_mem (hsource ▸ hx) (hother hof) retiredAt evidence loss
    · intro B hB x' hx' hof
      rw [hlist] at hx'
      obtain ⟨hx, -⟩ | ⟨x, hsame, rfl, -⟩ := mem_remembered hx'
      · exact hB x' (hsource ▸ hx) hof
      · obtain ⟨hlabel, href, -⟩ := x.retireAgain_spec retiredAt evidence loss
        exact absurd ⟨hlabel.trans hsame.1, href.trans hsame.2⟩ (hother hof)
  · rw [if_neg hsource] at hlist
    exact .of_eq hlist

/-- The session itself is remembered, with what it was retired at and the loss since. -/
theorem rememberStaleHookSession_self (s : TerminalState) {retiredAt : ℤ}
    (evidence loss : Option ℤ) {B : ℤ → Prop}
    (hB : ∀ b, B b → b ≤ retiredAt ∨ ∃ l, loss = some l ∧ b ≤ l) :
    (s.rememberStaleHookSession o.1 o.2 ref retiredAt evidence loss).IsStale o ref ∧
      (s.rememberStaleHookSession o.1 o.2 ref retiredAt evidence loss).StaleAfter o ref B := by
  have hlist := staleSessions_rememberStaleHookSession s o.1 o.2 ref retiredAt evidence loss o.1
  rw [if_pos rfl] at hlist
  constructor
  · obtain ⟨x, hx, hof⟩ := exists_mem_remembered (s.staleSessions o.1) o.2 ref retiredAt evidence
      loss
    exact ⟨x, by rw [hlist]; exact hx, hof⟩
  · intro x' hx' hof b hb
    rw [hlist] at hx'
    obtain ⟨-, hother⟩ | ⟨x, -, rfl, -⟩ := mem_remembered hx'
    · exact absurd hof hother
    · obtain ⟨-, -, -, hretired, hloss, -⟩ := x.retireAgain_spec retiredAt evidence loss
      obtain h | ⟨l, rfl, h⟩ := hB b hb
      · exact le_trans h hretired
      · exact le_trans h (hloss l rfl)

/-- Another session is forgotten. -/
theorem forgetStaleHookSession_keeps (s : TerminalState) {source label : String}
    {other : AgentSessionRef} (hne : (source, label, other) ≠ (o.1, o.2, ref)) :
    Keeps o ref s (s.forgetStaleHookSession source label other) := by
  have hlist := staleSessions_forgetStaleHookSession s source label other o.1
  by_cases hsource : o.1 = source
  · rw [if_pos hsource] at hlist
    constructor
    · rintro ⟨x, hx, hof⟩
      refine ⟨x, ?_, hof⟩
      rw [hlist]
      refine List.mem_filter.2 ⟨hsource ▸ hx, decide_eq_true ?_⟩
      by_contra hsame
      rw [not_or, not_not, not_not] at hsame
      exact hne (by rw [← hsource, ← hsame.1, ← hsame.2, hof.1, hof.2])
    · intro B hB x hx
      rw [hlist] at hx
      exact hB x (hsource ▸ (List.mem_filter.1 hx).1)
  · rw [if_neg hsource] at hlist
    exact .of_eq hlist

/-- A retirement of an owner is noted on its stale sessions. -/
theorem suppressHookReportWithSessionRef_keeps (s : TerminalState) (source label : String)
    (suppressed : Option AgentSessionRef) (reason : HookSuppressionReason) (observedAt : ℤ) :
    Keeps o ref s
      (s.suppressHookReportWithSessionRef source label suppressed reason observedAt) := by
  have hlist := staleSessions_mapWithKey s o.1 (fun key stales =>
    if key = source then
      stales.map fun x => if x.agentLabel = label then x.observeRetirement observedAt else x
    else stales) (by simp)
  by_cases hsource : o.1 = source
  · simp only [if_pos hsource] at hlist
    refine .of_map hlist (fun x => ?_) (fun x => ?_) (fun x => ?_)
    · split <;> simp
    · split <;> simp
    · split <;> simp
  · simp only [if_neg hsource] at hlist
    exact .of_eq hlist

end

/-! ## The evidence of the stale sessions -/

/-- All evidence of a stale session is in `E`, for the label it was recorded for. -/
def Evident (E : String → ℤ → Prop) (s : TerminalState) : Prop :=
  ∀ k, ∀ x ∈ s.staleSessions k, ∀ e, x.freshProcessEvidence = some e → E x.agentLabel e

section

variable {E : String → ℤ → Prop} {s t : TerminalState}

theorem Evident.of_eq (h : s.Evident E) (heq : t.staleHookSessions = s.staleHookSessions) :
    t.Evident E := by
  intro k x hx
  rw [staleSessions, heq] at hx
  exact h k x hx

/-- The entries are changed in place. -/
theorem Evident.of_map (h : s.Evident E) {f : String → StaleHookSession → StaleHookSession}
    (hlist : ∀ k, t.staleSessions k = (s.staleSessions k).map (f k))
    (hlabel : ∀ k x, (f k x).agentLabel = x.agentLabel)
    (hevidence : ∀ k x e, (f k x).freshProcessEvidence = some e →
      x.freshProcessEvidence = some e ∨ E x.agentLabel e) : t.Evident E := by
  intro k x' hx' e he
  rw [hlist] at hx'
  obtain ⟨x, hx, rfl⟩ := List.mem_map.1 hx'
  rw [hlabel]
  obtain hold | hnew := hevidence k x e he
  · exact h k x hx e hold
  · exact hnew

theorem Evident.rememberStaleHookSession (h : s.Evident E) (source label : String)
    (ref : AgentSessionRef) (retiredAt : ℤ) {evidence : Option ℤ}
    (hevidence : ∀ e, evidence = some e → E label e) (loss : Option ℤ) :
    (s.rememberStaleHookSession source label ref retiredAt evidence loss).Evident E := by
  intro k x' hx' e he
  rw [staleSessions_rememberStaleHookSession] at hx'
  split at hx'
  · obtain ⟨hx, -⟩ | ⟨x, hof, rfl, hx⟩ := mem_remembered hx'
    · exact h source x' hx e he
    · obtain ⟨hlabel, -, -, -, -, hspec⟩ := x.retireAgain_spec retiredAt evidence loss
      rw [hlabel]
      obtain hnew | hold := hspec e he
      · rw [hof.1]
        exact hevidence e hnew
      · obtain hx | hnone := hx
        · exact h source x hx e hold
        · rw [hnone] at hold
          cases hold
  · exact h k x' hx' e he

theorem Evident.forgetStaleHookSession (h : s.Evident E) (source label : String)
    (ref : AgentSessionRef) : (s.forgetStaleHookSession source label ref).Evident E := by
  intro k x hx
  rw [staleSessions_forgetStaleHookSession] at hx
  split at hx
  · exact h source x (List.mem_filter.1 hx).1
  · exact h k x hx

theorem Evident.consumeSuppression (h : s.Evident E) (source : String) :
    (s.consumeSuppression source).Evident E := by
  unfold TerminalState.consumeSuppression
  split
  · exact h
  · rename_i y _
    cases y.sessionRef with
    | none => exact h.of_eq rfl
    | some ref =>
      exact Evident.rememberStaleHookSession (s := { s with
        suppressedHookReports := s.suppressedHookReports.erase source }) h source _ ref _
        (fun _ hnone => by cases hnone) _

theorem Evident.retireSuppressedSessionAfterAccepting (h : s.Evident E) (source label : String)
    (ref : Option AgentSessionRef) :
    (s.retireSuppressedSessionAfterAccepting source label ref).Evident E := by
  cases ref with
  | none => exact h.consumeSuppression source
  | some ref => exact (h.consumeSuppression source).forgetStaleHookSession source label ref

theorem Evident.suppressHookReportWithSessionRef (h : s.Evident E) (source label : String)
    (ref : Option AgentSessionRef) (reason : HookSuppressionReason) (observedAt : ℤ) :
    (s.suppressHookReportWithSessionRef source label ref reason observedAt).Evident E := by
  refine h.of_map (f := fun k x => if k = source ∧ x.agentLabel = label then
    x.observeRetirement observedAt else x) (fun k => ?_) (fun k x => ?_) (fun k x e he => ?_)
  · refine (staleSessions_mapWithKey s k _ (by simp)).trans ?_
    by_cases hk : k = source
    · simp only [hk, true_and, if_true]
    · simp only [hk, false_and, if_false, List.map_id']
  · split <;> simp
  · split at he
    · exact Or.inl (evidence_of_observeRetirement he)
    · exact Or.inl he

theorem Evident.suppressHookReport (h : s.Evident E) (source label : String)
    (reason : HookSuppressionReason) (observedAt : ℤ) :
    (s.suppressHookReport source label reason observedAt).Evident E := by
  unfold TerminalState.suppressHookReport
  split
  · exact h.suppressHookReportWithSessionRef source label _ reason observedAt
  · exact h

theorem Evident.suppressCurrentHookAuthority (h : s.Evident E) (reason : HookSuppressionReason)
    (observedAt : ℤ) : (s.suppressCurrentHookAuthority reason observedAt).Evident E := by
  unfold TerminalState.suppressCurrentHookAuthority
  split
  · split
    · exact h.suppressHookReportWithSessionRef _ _ _ reason observedAt
    · exact h
  · exact h

theorem Evident.retireHookIdentity (h : s.Evident E) (reason : HookSuppressionReason)
    (observedAt : ℤ) : (s.retireHookIdentity reason observedAt).Evident E := by
  unfold TerminalState.retireHookIdentity
  split
  · simp only
    split
    · exact Evident.suppressHookReport (s := { s with
        hookIdentity := none
        hookReportSequences := s.hookReportSequences.erase _ }) h _ _ reason observedAt
    · exact Evident.suppressHookReport (s := { s with hookIdentity := none }) h _ _ reason
        observedAt
  · exact h

theorem Evident.observeProcessLossForRetiredOwners (h : s.Evident E) (agent : Option Agent)
    (processExited : Bool) (observedAt : ℤ) :
    (s.observeProcessLossForRetiredOwners agent processExited observedAt).Evident E := by
  refine h.of_map (f := fun _ x => if showsLossOf agent processExited x.agentLabel then
    x.observeProcessLoss observedAt else x) (fun k => staleSessions_mapWithKey s k _ rfl)
    (fun k x => ?_) (fun k x e he => ?_)
  · split <;> simp
  · split at he
    · exact Or.inl (evidence_of_observeProcessLoss he)
    · exact Or.inl he

theorem Evident.foldl_convertSuppression {observedAt : ℤ}
    {lifted : List (Sigma fun _ : String => SuppressedHookReport)} (h : s.Evident E)
    (hlifted : ∀ entry ∈ lifted, E entry.2.agentLabel observedAt) :
    (lifted.foldl (fun s entry => s.convertSuppression observedAt entry.1 entry.2) s).Evident E := by
  induction lifted generalizing s with
  | nil => exact h
  | cons entry lifted ih =>
    have hstep : (s.convertSuppression observedAt entry.1 entry.2).Evident E := by
      unfold convertSuppression
      cases entry.2.sessionRef with
      | none => exact h
      | some ref =>
        refine h.rememberStaleHookSession entry.1 _ ref _ (fun e he => ?_) _
        cases he
        exact hlifted entry List.mem_cons_self
    exact ih hstep fun entry' hentry' => hlifted entry' (List.mem_cons_of_mem _ hentry')

theorem Evident.recordFreshProcessEvidence (h : s.Evident E) {detected : Agent} {observedAt : ℤ}
    (hseen : ∀ label, parseAgentLabel label = some detected → E label observedAt) :
    { s with
      staleHookSessions := s.staleHookSessions.mapWithKey fun _ stales =>
        stales.map fun stale : StaleHookSession =>
          if parseAgentLabel stale.agentLabel = some detected then
            stale.recordFreshProcessEvidence observedAt
          else stale }.Evident E := by
  refine h.of_map (f := fun _ x => if parseAgentLabel x.agentLabel = some detected then
    x.recordFreshProcessEvidence observedAt else x)
    (fun k => staleSessions_mapWithKey s k _ rfl) (fun k x => ?_) (fun k x e he => ?_)
  · split <;> simp
  · split at he
    · rename_i hlabel
      obtain rfl | hold := evidence_of_recordFreshProcessEvidence he
      · exact Or.inr (hseen _ hlabel)
      · exact Or.inl hold
    · exact Or.inl he

/-- A running observation is evidence for the sessions of its agent. -/
theorem Evident.clearHookSuppressionForDetectedAgent (h : s.Evident E) {agent : Option Agent}
    {observedAt : ℤ}
    (hseen : ∀ label detected, agent = some detected → parseAgentLabel label = some detected →
      E label observedAt) :
    (s.clearHookSuppressionForDetectedAgent agent observedAt).Evident E := by
  cases agent with
  | none => exact h
  | some detected =>
    have hfold : Evident E ((s.suppressedHookReports.entries.filter fun entry =>
        liftsSuppression detected observedAt entry.2).foldl
          (fun s entry => s.convertSuppression observedAt entry.1 entry.2) { s with
          suppressedHookReports := s.suppressedHookReports.filterWithKey
            fun _ suppressed => !liftsSuppression detected observedAt suppressed }) := by
      refine Evident.foldl_convertSuppression (h.of_eq rfl) fun entry hentry => ?_
      have hlifts := (List.mem_filter.1 hentry).2
      simp only [liftsSuppression, Bool.and_eq_true, beq_iff_eq] at hlifts
      exact hseen _ detected rfl hlifts.1.1
    simp only [TerminalState.clearHookSuppressionForDetectedAgent]
    have hrecord := hfold.recordFreshProcessEvidence (hseen · detected rfl)
    split
    · exact hrecord
    · exact hrecord.of_eq rfl

end

end TerminalState

end Zynk
