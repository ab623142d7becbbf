import Zynk.Input.Key
import Zynk.Lib.Run

/-!
# Held keys

`app/input/lease.rs`, and what `App` does with it : while a key is down, a lease says where its
press went, so that its repeats and its release go there too. What the rest of the app does comes
with the event.
-/

namespace Zynk.Leases

open StepRun

/-! ## The table -/

/-- A key with the physical id of its console record, if it has one. -/
structure Key extends TerminalKey where
  physicalKey : Option ℕ

inductive KeyIdentity where
  | physical (id : ℕ)
  | semantic (code : KeyCode)
  deriving DecidableEq

namespace Key

def identity (key : Key) : KeyIdentity :=
  match key.physicalKey with
  | some id => .physical id
  | none => .semantic key.code

def withKind (key : Key) (kind : KeyEventKind) : Key :=
  { key with toTerminalKey := key.toTerminalKey.withKind kind }

def withRepeatCount (key : Key) (count : ℕ) : Key :=
  { key with repeatCount := if key.kind = .release then 1 else max count 1 }

end Key

structure InputLeaseKey where
  sourceId : ℕ
  identity : KeyIdentity
  deriving DecidableEq

inductive TerminalInputContext where
  | pane
  | popup (terminalId : String)
  deriving DecidableEq

inductive ConsumedInputLease where
  | reprocessRepeats (context : TerminalInputContext)
  | suppressRepeats

inductive InputLease where
  | forwarded (target : String) (key : Key)
  | consumed (disposition : ConsumedInputLease)

def InputLease.forwardedTo (target : String) : InputLease → Bool
  | .forwarded current _ => current = target
  | .consumed _ => false

inductive RepeatPlan where
  | forwarded (target : String)
  | reprocess (context : TerminalInputContext) (repetitions : ℕ) (tracked : Bool)
  | ignore

/-- The lease of one key, and what the panes were sent for it : to which terminal, as which key. -/
structure Entry where
  lease : Option InputLease := none
  sent : List (String × Key) := []

/-- The table, a hash map, as a function of the key. -/
abbrev Routing := InputLeaseKey → Entry

namespace Routing

def insert (s : Routing) (leaseKey : InputLeaseKey) (lease : InputLease) : Routing :=
  Function.update s leaseKey { s leaseKey with lease := some lease }

def remove (s : Routing) (leaseKey : InputLeaseKey) : Routing :=
  Function.update s leaseKey { s leaseKey with lease := none }

def normalizePress (s : Routing) (leaseKey : InputLeaseKey) (key : Key) : Routing × Key :=
  if key.kind ≠ .press ∨ key.generatedText.isSome then (s, key)
  else if key.physicalKey.isSome ∧ (s leaseKey).lease.isSome then (s, key.withKind .repeat)
  else (s.remove leaseKey, key)

def completePress (s : Routing) (leaseKey : InputLeaseKey) (key : Key)
    (initial resulting : Option TerminalInputContext) : Option String → Routing × RepeatPlan
  | some target =>
    (if key.generatedText.isSome then s else s.insert leaseKey (.forwarded target key), .ignore)
  | none =>
    if key.generatedText.isSome then (s, .ignore)
    else
      let disposition : ConsumedInputLease :=
        match initial with
        | some context =>
          if resulting = initial then .reprocessRepeats context else .suppressRepeats
        | none => .suppressRepeats
      let s := if (s leaseKey).lease.isSome then s else s.insert leaseKey (.consumed disposition)
      match (s leaseKey).lease with
      | some (.consumed (.reprocessRepeats context)) =>
        (s, if 1 < key.repeatCount then .reprocess context (key.repeatCount - 1) true else .ignore)
      | _ => (s, .ignore)

def planRepeat (s : Routing) (leaseKey : InputLeaseKey) (key : Key)
    (current : Option TerminalInputContext) : Routing × RepeatPlan :=
  match (s leaseKey).lease with
  | some (.forwarded target _) => (s, .forwarded target)
  | some (.consumed (.reprocessRepeats context)) =>
    if current = some context then (s, .reprocess context key.repeatCount true)
    else (s.insert leaseKey (.consumed .suppressRepeats), .ignore)
  | some (.consumed .suppressRepeats) => (s, .ignore)
  | none =>
    match current with
    | some context => (s, .reprocess context key.repeatCount false)
    | none => (s, .ignore)

end Routing

/-! ## The app -/

/-- What `App` does to the table beside the key it handles, with the sends that the panes take :
closing a terminal while `popup` is open; losing a client or its focus; copying a selection. -/
inductive Edit where
  | releaseTarget (target : String) (popup : Option String) (accepts : InputLeaseKey → Bool)
  | releaseSource (source : ℕ) (accepts : InputLeaseKey → Bool)
  | consume (leaseKey : InputLeaseKey)

/-- The app's answers to one handling : the view before it, what the handling does to the table
and where it sends the key, and whether a pane takes a key that is forwarded without it. -/
structure Turn where
  popup : Option String
  terminalMode : Bool
  edits : List Edit
  target : Option String
  accepts : Bool

def Turn.terminalInputContext (turn : Turn) : Option TerminalInputContext :=
  match turn.popup with
  | some terminalId => some (.popup terminalId)
  | none => if turn.terminalMode then some .pane else none

namespace Routing

def deliver (s : Routing) (leaseKey : InputLeaseKey) (target : String) (key : Key) : Routing :=
  Function.update s leaseKey
    { s leaseKey with sent := (s leaseKey).sent ++ [(target, key)] }

/-- A lease taken out of the table, with `lease` in its place, and the release its caller sends. -/
def release (e : Entry) (lease : Option InputLease) (accepts : Bool) : Entry where
  lease := lease
  sent := e.sent ++
    match e.lease with
    | some (.forwarded target key) => if accepts then [(target, key.withKind .release)] else []
    | _ => []

def removeSource (s : Routing) (source : ℕ) (accepts : InputLeaseKey → Bool) : Routing := fun k =>
  if k.sourceId = source then release (s k) none (accepts k) else s k

def removeTarget (s : Routing) (target : String) (accepts : InputLeaseKey → Bool) : Routing :=
  fun k => if (s k).lease.any (·.forwardedTo target) then release (s k) none (accepts k) else s k

def suppressTarget (s : Routing) (target : String) (accepts : InputLeaseKey → Bool) : Routing :=
  fun k =>
    if (s k).lease.any (·.forwardedTo target) then
      release (s k) (some (.consumed .suppressRepeats)) (accepts k)
    else s k

def edit (s : Routing) : Edit → Routing
  | .releaseTarget target popup accepts =>
    if popup = some target then s.suppressTarget target accepts else s.removeTarget target accepts
  | .releaseSource source accepts => s.removeSource source accepts
  | .consume leaseKey => s.insert leaseKey (.consumed .suppressRepeats)

def discardFailedRepeatLease (s : Routing) (leaseKey : InputLeaseKey) (target : String)
    (popup : Option String) : Routing :=
  if popup = some target then s else s.remove leaseKey

/-- A repeat of a key whose press went to `target`. -/
def forwardRepeat (s : Routing) (leaseKey : InputLeaseKey) (key : Key) (target : String)
    (turn : Turn) : Routing :=
  if turn.accepts then s.deliver leaseKey target key
  else s.discardFailedRepeatLease leaseKey target turn.popup

/-- The loop over the repetitions, with the target that took one. -/
def reprocess (leaseKey : InputLeaseKey) (key : Key) (context : TerminalInputContext)
    (tracked : Bool) : List Turn → Option String → Routing → Routing
  | [], _, s => s
  | turn :: turns, some target, s =>
    let s := s.forwardRepeat leaseKey key target turn
    if turn.accepts then reprocess leaseKey key context tracked turns (some target) s else s
  | turn :: turns, none, s =>
    if turn.terminalInputContext = some context then
      let s := turn.edits.foldl edit s
      match turn.target with
      | none => reprocess leaseKey key context tracked turns none s
      | some target =>
        let s := s.deliver leaseKey target key
        if tracked then reprocess leaseKey key context tracked turns (some target)
          (s.insert leaseKey (.forwarded target key))
        else reprocess leaseKey key context tracked turns none s
    else if tracked then s.insert leaseKey (.consumed .suppressRepeats) else s

def executeRepeatPlan (s : Routing) (leaseKey : InputLeaseKey) (key : Key) (turn : Turn)
    (turns : ℕ → Turn) : RepeatPlan → Routing
  | .forwarded target => s.forwardRepeat leaseKey key target turn
  | .reprocess context repetitions tracked =>
    s.reprocess leaseKey ((key.withKind .repeat).withRepeatCount 1) context tracked
      ((List.range repetitions).map turns) none
  | .ignore => s

end Routing

/-- A key event of a client with the app's answers, or an edit by other code. -/
inductive Event where
  | key (source : ℕ) (key : Key) (turn : Turn) (resulting : Option TerminalInputContext)
    (turns : ℕ → Turn)
  | edit (edit : Edit)

/-- The key branch of `route_client_events_from`, once `normalize_press` has its key. -/
def routeKey (s : Routing) (leaseKey : InputLeaseKey) (key : Key) (turn : Turn)
    (resulting : Option TerminalInputContext) (turns : ℕ → Turn) : Routing :=
  let initial := turn.terminalInputContext
  match key.kind with
  | .press =>
    let target := if initial.isSome then turn.target else none
    let s := turn.edits.foldl Routing.edit s
    let s := target.elim s fun target => s.deliver leaseKey target key
    let (s, plan) := s.completePress leaseKey key initial resulting target
    s.executeRepeatPlan leaseKey key turn turns plan
  | .repeat =>
    let (s, plan) := s.planRepeat leaseKey key initial
    s.executeRepeatPlan leaseKey key turn turns plan
  | .release =>
    let removed := s.remove leaseKey
    match (s leaseKey).lease with
    | some (.forwarded target _) =>
      if turn.accepts then removed.deliver leaseKey target key else removed
    | _ => removed

def step (s : Routing) : Event → Routing
  | .edit edit => s.edit edit
  | .key source key turn resulting turns =>
    let leaseKey : InputLeaseKey := ⟨source, key.identity⟩
    let (s, key) := s.normalizePress leaseKey key
    routeKey s leaseKey key turn resulting turns

/-! ## What happens to one key -/

open Routing

variable {s : Routing} {k j : InputLeaseKey} {key : Key} {target : String} {turn : Turn}
  {I : Entry → Prop} {P : Edit → Prop} {e : Entry}

/-- A lease that names no pane. -/
def Free (lease : Option InputLease) : Prop :=
  ∀ target key, lease ≠ some (.forwarded target key)

/-- A press that commits its text takes no lease. -/
def Key.commits (key : Key) : Bool :=
  key.kind = .press && key.generatedText.isSome

/-- What the events of the key `k` itself may do keeps `I`. -/
structure Closed (k : InputLeaseKey) (I : Entry → Prop) : Prop where
  lose : ∀ e lease, Free lease → I e → I { e with lease }
  take : ∀ e target key, key.identity = k.identity → key.kind ≠ .release → key.commits = false →
    I e → I ⟨some (.forwarded target key), e.sent ++ [(target, key)]⟩
  extend : ∀ e target key, key.identity = k.identity → key.kind ≠ .release →
    (key.commits ∨ ∀ current key', e.lease = some (.forwarded current key') → current = target) →
    I e → I { e with sent := e.sent ++ [(target, key)] }
  release : ∀ e target key key', key.identity = k.identity → key.kind = .release →
    e.lease = some (.forwarded target key') → I e → I ⟨none, e.sent ++ [(target, key)]⟩

theorem update_keeps (hown : j = k → I e) (hs : I (s k)) : I (Function.update s j e k) := by
  by_cases h : j = k
  · subst h
    rw [Function.update_self]
    exact hown rfl
  · rwa [Function.update_of_ne (Ne.symm h)]

theorem edits_keep (hedit : ∀ e (s : Routing), P e → I (s k) → I (s.edit e k)) {edits : List Edit}
    (h : ∀ e ∈ edits, P e) (hs : I (s k)) : I (edits.foldl edit s k) := by
  induction edits generalizing s with
  | nil => exact hs
  | cons e edits ih =>
    rw [List.forall_mem_cons] at h
    exact ih h.2 (hedit e s h.1 hs)

/-- The edit takes the lease of `k`, and offers its release to the pane. -/
def Edit.Takes (k : InputLeaseKey) (lease : Option InputLease) (answer : Bool) : Edit → Prop
  | .releaseTarget target _ accepts =>
    lease.any (·.forwardedTo target) = true ∧ accepts k = answer
  | .releaseSource source accepts => k.sourceId = source ∧ accepts k = answer
  | .consume _ => False

theorem edit_cases (e : Edit) (s : Routing) (k : InputLeaseKey) : s.edit e k = s k ∨
    (∃ lease answer, Free lease ∧ e.Takes k (s k).lease answer ∧
      s.edit e k = release (s k) lease answer) ∨
    e = .consume k ∧ s.edit e k = { s k with lease := some (.consumed .suppressRepeats) } := by
  cases e with
  | releaseTarget target popup accepts =>
    by_cases h : (s k).lease.any (·.forwardedTo target) = true
    · refine .inr (.inl ⟨if popup = some target then some (.consumed .suppressRepeats) else none, _,
        ?_, ⟨h, rfl⟩, ?_⟩)
      · split <;> simp [Free]
      · rw [edit]
        split <;> exact if_pos h
    · refine .inl ?_
      rw [edit]
      split <;> exact if_neg h
  | releaseSource source accepts =>
    by_cases h : k.sourceId = source
    · exact .inr (.inl ⟨none, _, by simp [Free], ⟨h, rfl⟩, if_pos h⟩)
    · exact .inl (if_neg h)
  | consume j =>
    by_cases h : k = j
    · exact .inr (.inr ⟨by rw [h], by rw [edit, Routing.insert, h, Function.update_self]⟩)
    · exact .inl (Function.update_of_ne h _ _)

theorem free_edits (edits : List Edit) (h : Free (s k).lease) :
    Free (edits.foldl edit s k).lease := by
  induction edits generalizing s with
  | nil => exact h
  | cons e edits ih =>
    refine ih ?_
    obtain he | ⟨lease, answer, hfree, -, he⟩ | ⟨-, he⟩ := edit_cases e s k <;> rw [he]
    · exact h
    · exact hfree
    · simp [Free]

theorem identity_withKind (key : Key) (kind : KeyEventKind) :
    (key.withKind kind).identity = key.identity := by
  have hcode : (key.withKind kind).code = key.code := by
    unfold Key.withKind TerminalKey.withKind
    split <;> rfl
  simp only [Key.identity, hcode]
  rfl

variable (hown : j = k → Closed k I)

include hown

theorem insert_keeps {lease : InputLease} (hfree : Free (some lease)) (hs : I (s k)) :
    I (s.insert j lease k) :=
  update_keeps (fun h => (hown h).lose _ _ hfree (h ▸ hs)) hs

theorem remove_keeps (hs : I (s k)) : I (s.remove j k) :=
  update_keeps (fun h => (hown h).lose _ none (by simp [Free]) (h ▸ hs)) hs

/-- A plan that fits its key and the key's lease. -/
def RepeatPlan.Fits (key : Key) (lease : Option InputLease) : RepeatPlan → Prop
  | .forwarded target => key.kind = .repeat ∧ ∃ key', lease = some (.forwarded target key')
  | .reprocess _ _ tracked => tracked = true ∨ Free lease
  | .ignore => True

theorem planRepeat_keeps (hkind : key.kind = .repeat) (current : Option TerminalInputContext)
    (hs : I (s k)) : I ((s.planRepeat j key current).1 k) ∧
      (s.planRepeat j key current).2.Fits key ((s.planRepeat j key current).1 j).lease := by
  unfold planRepeat
  split
  next target key' h => exact ⟨hs, hkind, key', h⟩
  next context h =>
    split
    · exact ⟨hs, .inl rfl⟩
    · exact ⟨insert_keeps hown (by simp [Free]) hs, trivial⟩
  next => exact ⟨hs, trivial⟩
  next h =>
    split
    · exact ⟨hs, .inr (by simp [Free, h])⟩
    · exact ⟨hs, trivial⟩

variable (hkey : key.identity = j.identity)

include hkey

theorem deliver_keeps (hkind : key.kind ≠ .release) (hlease : key.commits ∨ ∀ current key',
      (s j).lease = some (.forwarded current key') → current = target) (hs : I (s k)) :
    I (s.deliver j target key k) :=
  update_keeps (fun h => (hown h).extend _ target key (h ▸ hkey) hkind hlease (h ▸ hs)) hs

theorem take_keeps (hkind : key.kind ≠ .release) (hcommits : key.commits = false) (hs : I (s k)) :
    I ((s.deliver j target key).insert j (.forwarded target key) k) := by
  by_cases h : j = k
  · subst h
    simpa [deliver, Routing.insert] using (hown rfl).take _ target key hkey hkind hcommits hs
  · simpa [deliver, Routing.insert, Function.update_of_ne (Ne.symm h)] using hs

theorem forwardRepeat_keeps (hkind : key.kind = .repeat)
    (hlease : ∃ key', (s j).lease = some (.forwarded target key')) (turn : Turn) (hs : I (s k)) :
    I (s.forwardRepeat j key target turn k) := by
  obtain ⟨key', hlease⟩ := hlease
  unfold forwardRepeat discardFailedRepeatLease
  split
  · exact deliver_keeps hown hkey (by simp [hkind]) (by simp [hlease]) hs
  · split
    · exact hs
    · exact remove_keeps hown hs

theorem completePress_keeps (hkind : key.kind = .press)
    (initial resulting : Option TerminalInputContext) (target : Option String) (hs : I (s k)) :
    let r := (target.elim s fun target => s.deliver j target key).completePress j key
      initial resulting target
    I (r.1 k) ∧ ∀ lease, r.2.Fits key lease := by
  have hrelease : key.kind ≠ .release := by simp [hkind]
  have hcommits : key.commits = key.generatedText.isSome := by simp [Key.commits, hkind]
  cases target with
  | some target =>
    refine ⟨?_, fun _ => trivial⟩
    simp only [completePress, Option.elim]
    split
    next h => exact deliver_keeps hown hkey hrelease (.inl (hcommits.trans h)) hs
    next h => exact take_keeps hown hkey hrelease (by simpa [hcommits] using h) hs
  | none =>
    simp only [completePress, Option.elim]
    split
    · exact ⟨hs, fun _ => trivial⟩
    · generalize (match initial with
        | some context => if resulting = initial then ConsumedInputLease.reprocessRepeats context
          else .suppressRepeats
        | none => .suppressRepeats) = disposition
      have hinsert : I ((if (s j).lease.isSome then s
          else s.insert j (.consumed disposition)) k) := by
        split
        · exact hs
        · exact insert_keeps hown (by simp [Free]) hs
      split
      · refine ⟨hinsert, fun lease => ?_⟩
        dsimp only
        split <;> simp [RepeatPlan.Fits]
      · exact ⟨hinsert, fun _ => trivial⟩

variable (hedit : ∀ e (s : Routing), P e → I (s k) → I (s.edit e k))

include hedit

theorem reprocess_keeps (hkind : key.kind = .repeat) {context : TerminalInputContext}
    {tracked : Bool} {turns : List Turn} (hturns : ∀ turn ∈ turns, ∀ e ∈ turn.edits, P e)
    (forwarded : Option String) (hlease : forwarded.elim (tracked = true ∨ Free (s j).lease)
      fun target => ∃ key', (s j).lease = some (.forwarded target key')) (hs : I (s k)) :
    I (reprocess j key context tracked turns forwarded s k) := by
  have hrelease : key.kind ≠ .release := by simp [hkind]
  induction turns generalizing s forwarded with
  | nil => exact hs
  | cons turn turns ih =>
    rw [List.forall_mem_cons] at hturns
    cases forwarded with
    | some target =>
      have hforward := forwardRepeat_keeps hown hkey hkind hlease turn hs
      rw [reprocess]
      cases ha : turn.accepts with
      | true =>
        rw [forwardRepeat, if_pos ha] at hforward ⊢
        exact ih hturns.2 (some target) (by simpa [deliver] using hlease) hforward
      | false => exact hforward
    | none =>
      have hedits := edits_keep hedit hturns.1 hs
      have hafter := hlease.imp_right (free_edits turn.edits)
      rw [reprocess]
      split
      · cases turn.target with
        | none => exact ih hturns.2 none hafter hedits
        | some target =>
          cases tracked with
          | true =>
            exact ih hturns.2 (some target) ⟨key, by simp [Routing.insert]⟩
              (take_keeps hown hkey hrelease (by simp [Key.commits, hkind]) hedits)
          | false =>
            have hfree := hafter.resolve_left (by simp)
            exact ih hturns.2 none (.inr (by simpa [deliver] using hfree))
              (deliver_keeps hown hkey hrelease
                (.inr fun current key' h => absurd h (hfree current key')) hedits)
      · cases tracked with
        | true => exact insert_keeps hown (by simp [Free]) hs
        | false => exact hs

variable {turns : ℕ → Turn} (hturns : ∀ n, ∀ e ∈ (turns n).edits, P e)

include hturns

theorem executeRepeatPlan_keeps {plan : RepeatPlan} (hplan : plan.Fits key (s j).lease)
    (hs : I (s k)) : I (s.executeRepeatPlan j key turn turns plan k) := by
  cases plan with
  | forwarded target => exact forwardRepeat_keeps hown hkey hplan.1 hplan.2 turn hs
  | reprocess context repetitions tracked =>
    have hturns : ∀ turn ∈ (List.range repetitions).map turns, ∀ e ∈ turn.edits, P e := by
      simpa using fun n _ => hturns n
    have hrepeat : ((key.withKind .repeat).withRepeatCount 1).identity = j.identity :=
      (identity_withKind key .repeat).trans hkey
    exact reprocess_keeps hown hrepeat hedit rfl hturns none hplan hs
  | ignore => exact hs

theorem routeKey_keeps (hturn : ∀ e ∈ turn.edits, P e)
    (resulting : Option TerminalInputContext) (hs : I (s k)) :
    I (routeKey s j key turn resulting turns k) := by
  unfold routeKey
  cases hkind : key.kind with
  | press =>
    have hpress := completePress_keeps hown hkey hkind turn.terminalInputContext resulting
      (if turn.terminalInputContext.isSome then turn.target else none)
      (edits_keep hedit hturn hs)
    exact executeRepeatPlan_keeps hown hkey hedit hturns (hpress.2 _) hpress.1
  | «repeat» =>
    have hrepeat := planRepeat_keeps hown hkind turn.terminalInputContext hs
    exact executeRepeatPlan_keeps hown hkey hedit hturns hrepeat.2 hrepeat.1
  | release =>
    have hremoved := remove_keeps hown hs
    cases h : (s j).lease with
    | none => exact hremoved
    | some lease =>
      cases lease with
      | consumed => exact hremoved
      | forwarded target key' =>
        dsimp only
        split
        · refine update_keeps (fun hk => ?_) hremoved
          subst hk
          simpa [Routing.remove] using (hown rfl).release _ target key key' hkey hkind h hs
        · exact hremoved

omit hown hkey hedit hturns

/-- If the event is one of the key `k`, it has `Q`. -/
def Event.Own (k : InputLeaseKey) (Q : Key → Turn → Prop) : Event → Prop
  | .edit _ => True
  | .key source key turn _ _ => (⟨source, key.identity⟩ : InputLeaseKey) = k → Q key turn

/-- The edits an event makes, whichever turns it takes. -/
def Event.Edits (P : Edit → Prop) : Event → Prop
  | .edit e => P e
  | .key _ _ turn _ turns => (∀ e ∈ turn.edits, P e) ∧ ∀ n, ∀ e ∈ (turns n).edits, P e

theorem step_keeps {e : Event} (he : e.Edits P)
    (hedit : ∀ e (s : Routing), P e → I (s k) → I (s.edit e k))
    (hown : (¬ e.Own k fun _ _ => False) → Closed k I) (hs : I (s k)) : I (step s e k) := by
  cases e with
  | edit e => exact hedit e s he hs
  | key source key turn resulting turns =>
    replace hown : (⟨source, key.identity⟩ : InputLeaseKey) = k → Closed k I :=
      fun h => hown fun hother => hother h
    unfold step normalizePress
    dsimp only
    split
    · exact routeKey_keeps hown rfl hedit he.2 he.1 resulting hs
    · split
      · exact routeKey_keeps hown (identity_withKind key .repeat) hedit he.2 he.1 resulting hs
      · exact routeKey_keeps hown rfl hedit he.2 he.1 resulting (remove_keeps hown hs)

/-! ## Releases close what was pressed -/

/-- The terminal that has a key down, after one more delivery. -/
def hold (held : Option String) (d : String × Key) : Option String :=
  if d.2.commits then held else if d.2.kind = .release then none else some d.1

/-- Every delivery is of the key `k`, and every release goes to the terminal that has it down. -/
def Balanced (k : InputLeaseKey) (sent : List (String × Key)) : Prop :=
  Along hold (fun held d => d.2.identity = k.identity ∧ (d.2.kind = .release → held = some d.1))
    none sent

/-- A forwarded lease names the terminal that has the key down. -/
def Sound (k : InputLeaseKey) (e : Entry) : Prop :=
  Balanced k e.sent ∧ ∀ target key, e.lease = some (.forwarded target key) →
    run hold none e.sent = some target ∧ key.identity = k.identity

theorem closed_sound (k : InputLeaseKey) : Closed k (Sound k) where
  lose e lease hfree h := ⟨h.1, fun target key hl => absurd hl (hfree target key)⟩
  take e target key hkey hkind hcommits h := by
    refine ⟨along_snoc.2 ⟨h.1, hkey, fun h => absurd h hkind⟩, fun target' key' hl => ?_⟩
    cases hl
    exact ⟨by simp [hold, hcommits, hkind], hkey⟩
  extend e target key hkey hkind hlease h := by
    refine ⟨along_snoc.2 ⟨h.1, hkey, fun h => absurd h hkind⟩, fun target' key' hl => ?_⟩
    obtain ⟨hheld, hkey'⟩ := h.2 target' key' hl
    refine ⟨?_, hkey'⟩
    rw [run_snoc, hheld, hold]
    cases hcommits : key.commits with
    | true => rfl
    | false => simp [hkind, hlease.resolve_left (by simp [hcommits]) target' key' hl]
  release e target key key' hkey hkind hl h :=
    ⟨along_snoc.2 ⟨h.1, hkey, fun _ => (h.2 target key' hl).1⟩, by simp⟩

theorem sound_edit (e : Edit) (s : Routing) (h : Sound k (s k)) : Sound k (s.edit e k) := by
  obtain he | ⟨lease, answer, hfree, -, he⟩ | ⟨-, he⟩ := edit_cases e s k <;> rw [he]
  · exact h
  · refine ⟨?_, fun target key hl => absurd hl (hfree target key)⟩
    unfold release
    split
    next target key hl =>
      obtain ⟨hheld, hkey⟩ := h.2 target key hl
      cases answer with
      | true =>
        exact along_snoc.2 ⟨h.1, (identity_withKind key .release).trans hkey, fun _ => hheld⟩
      | false => simpa using h.1
    next => simpa using h.1
  · exact (closed_sound k).lose _ _ (by simp [Free]) h

/-- Over any run, a pane gets the release of a key only while that key is down there : it was the
last to get a press or a repeat of it, and has had no release since. -/
theorem leases_balanced (es : List Event) (k : InputLeaseKey) :
    Balanced k (run step (fun _ => {}) es k).sent := by
  have hstep : ∀ (s : Routing) e, Sound k (s k) → Sound k (step s e k) := fun s e h =>
    step_keeps (P := fun _ => True) (by cases e <;> simp [Event.Edits])
      (fun e s _ => sound_edit e s) (fun _ => closed_sound k) h
  have hinit : Sound k ({} : Entry) := ⟨trivial, by simp⟩
  exact (@run_invariant _ _ step (fun s => Sound k (s k)) hstep (fun _ => {}) hinit es).1

/-! ## Keys that stay down -/

theorem run_keeps {Q : Event → Prop} (hstep : ∀ e s, Q e → I (s k) → I (step s e k))
    {es : List Event} (hes : ∀ e ∈ es, Q e) (hs : I (s k)) : I (run step s es k) := by
  induction es generalizing s with
  | nil => exact hs
  | cons e es ih =>
    rw [List.forall_mem_cons] at hes
    exact ih hes.2 (hstep e s hes.1 hs)

/-- The letter `a`, and answers that take it. -/
def letterA : Key :=
  ⟨.new (.char 'a') {}, none⟩

def anyTurn : Turn :=
  ⟨none, true, [], none, true⟩

/-- The panes take what they are sent for the key `k`, which is not pressed anew or copied with. -/
def Event.Accepts (k : InputLeaseKey) (e : Event) : Prop :=
  e.Edits (fun e => e ≠ .consume k ∧ ∀ lease answer, e.Takes k lease answer → answer = true) ∧
    e.Own k fun key turn => key.kind ≠ .press ∧ turn.accepts = true

/-- Nothing that was sent is forgotten. -/
theorem sent_prefix (s : Routing) (e : Event) (k : InputLeaseKey) :
    (s k).sent <+: (step s e k).sent := by
  refine @step_keeps s k (fun e => (s k).sent <+: e.sent) (fun _ => True) e
    (by cases e <;> simp [Event.Edits]) (fun e t _ ht => ?_) (fun _ => ?_) (List.prefix_refl _)
  · obtain h | ⟨lease, answer, -, -, h⟩ | ⟨-, h⟩ := edit_cases e t k <;> rw [h]
    · exact ht
    · exact ht.trans (List.prefix_append _ _)
    · exact ht
  · exact ⟨fun _ _ _ h => h, fun _ _ _ _ _ _ h => h.trans (List.prefix_append _ _),
      fun _ _ _ _ _ _ h => h.trans (List.prefix_append _ _),
      fun _ _ _ _ _ _ _ h => h.trans (List.prefix_append _ _)⟩

/-- Since `sent`, the key is still down at `target` and was only repeated, or was released there. -/
def Held (target : String) (pressed : Key) (sent : List (String × Key)) (e : Entry) : Prop :=
  ∃ new, e.sent = sent ++ new ∧
    ((e.lease = some (.forwarded target pressed) ∧ ∀ d ∈ new, d.1 = target ∧ d.2.kind = .repeat) ∨
      ∃ key, (target, key) ∈ new ∧ key.kind = .release)

theorem Held.append {pressed : Key} {sent new : List (String × Key)} {e' : Entry}
    (h : Held target pressed sent e) (hsent : e'.sent = e.sent ++ new)
    (hlease : e.lease = some (.forwarded target pressed) →
      (e'.lease = e.lease ∧ ∀ d ∈ new, d.1 = target ∧ d.2.kind = .repeat) ∨
        ∃ key, (target, key) ∈ new ∧ key.kind = .release) : Held target pressed sent e' := by
  obtain ⟨old, hold, h⟩ := h
  refine ⟨old ++ new, by rw [hsent, hold, List.append_assoc], ?_⟩
  rcases h with ⟨hl, hold⟩ | ⟨key, hkey, hkind⟩
  · rcases hlease hl with ⟨hl', hnew⟩ | ⟨key, hkey, hkind⟩
    · exact .inl ⟨hl'.trans hl, List.forall_mem_append.2 ⟨hold, hnew⟩⟩
    · exact .inr ⟨key, List.mem_append_right _ hkey, hkind⟩
  · exact .inr ⟨key, List.mem_append_left _ hkey, hkind⟩

/-- A key that is down keeps its lease, and its repeats go to its terminal, until the terminal gets
the release. -/
theorem held_until_released {s : Routing} {k : InputLeaseKey} {target : String} {pressed : Key}
    (hs : (s k).lease = some (.forwarded target pressed)) {es : List Event}
    (hes : ∀ e ∈ es, e.Accepts k) : Held target pressed (s k).sent (run step s es k) := by
  refine run_keeps (fun e t he ht => ?_) hes ⟨[], by simp [hs]⟩
  by_cases hother : e.Own k fun _ _ => False
  · refine step_keeps he.1 (fun e u he hu => ?_) (fun h => absurd hother h) ht
    obtain h | ⟨lease, answer, -, htakes, h⟩ | ⟨rfl, -⟩ := edit_cases e u k
    · rwa [h]
    · rw [h]
      refine hu.append rfl fun hlease => ?_
      rw [he.2 _ _ htakes, hlease]
      exact .inr ⟨_, List.mem_singleton_self _, rfl⟩
    · exact absurd rfl he.1
  · cases e with
    | edit => exact absurd trivial hother
    | key source key turn resulting turns =>
      obtain rfl := not_not.1 hother
      obtain ⟨hkind, haccepts⟩ := he.2 rfl
      obtain ⟨new, hsent⟩ := sent_prefix t (.key source key turn resulting turns)
        ⟨source, key.identity⟩
      refine ht.append hsent.symm fun hlease => ?_
      cases h : key.kind with
      | press => exact absurd h hkind
      | «repeat» =>
        have hstep : step t (.key source key turn resulting turns) =
            t.deliver ⟨source, key.identity⟩ target key := by
          simp [step, normalizePress, routeKey, h, planRepeat, hlease, executeRepeatPlan,
            forwardRepeat, haccepts]
        rw [hstep] at hsent ⊢
        simp only [deliver, Function.update_self, List.append_cancel_left_eq] at hsent ⊢
        exact .inl ⟨trivial, by simp [hsent, h]⟩
      | release =>
        have hstep : step t (.key source key turn resulting turns) =
            (t.remove ⟨source, key.identity⟩).deliver ⟨source, key.identity⟩ target key := by
          simp [step, normalizePress, routeKey, h, hlease, haccepts]
        rw [hstep] at hsent
        simp only [deliver, Routing.remove, Function.update_self, List.append_cancel_left_eq]
          at hsent
        exact .inr ⟨key, by simp [hsent], h⟩

theorem held_until_released_once : Held "t1" letterA [] (run step
    (fun _ => ⟨some (.forwarded "t1" letterA), []⟩)
    [.key 1 (letterA.withKind .release) anyTurn none fun _ => anyTurn] ⟨1, letterA.identity⟩) :=
  held_until_released rfl (by simp [Event.Accepts, Event.Edits, Event.Own, anyTurn, Key.withKind,
    TerminalKey.withKind])

end Zynk.Leases
