import Mathlib.Data.List.Basic

/-!
# Transactions that roll back

A transaction body is a state monad over `Except` : it reads and writes the state and may
fail. `immediate` runs it as one atomic step. A body that fails leaves the state it was
started from, whatever it wrote before. `bind_ok` takes a body apart at a bind, and
`immediate_cases` says what the atomic step can do.
-/

/-- A transaction body over the state `σ` with errors in `ε`. -/
abbrev Txn (σ ε α : Type) :=
  StateT σ (Except ε) α

namespace Txn

variable {σ ε α β : Type}

/-- Run a body as one atomic step : commit its state, or roll back on an error. -/
def immediate (t : Txn σ ε α) (s : σ) : Except ε α × σ :=
  match t s with
  | .ok (a, s') => (.ok a, s')
  | .error e => (.error e, s)

/-- What the atomic step can do : commit what the body did, or fail and change nothing. -/
theorem immediate_cases (t : Txn σ ε α) (s : σ) :
    (∃ a s', t s = .ok (a, s') ∧ immediate t s = (.ok a, s')) ∨
      ∃ e, t s = .error e ∧ immediate t s = (.error e, s) := by
  unfold immediate
  cases h : t s with
  | ok r => exact Or.inl ⟨r.1, r.2, rfl, rfl⟩
  | error e => exact Or.inr ⟨e, rfl, rfl⟩

variable {s : σ}

theorem immediate_ok {t : Txn σ ε α} {s' : σ} {a : α} :
    immediate t s = (.ok a, s') ↔ t s = .ok (a, s') := by
  rcases immediate_cases t s with ⟨b, s'', h, hi⟩ | ⟨e, h, hi⟩ <;> simp [h, hi]

variable {e : ε}

/-- A step that returns an error leaves the state as it was. -/
theorem immediate_error {t : Txn σ ε α} (h : (immediate t s).1 = .error e) :
    (immediate t s).2 = s := by
  rcases immediate_cases t s with ⟨b, s'', _, hi⟩ | ⟨e', _, hi⟩
  · simp [hi] at h
  · rw [hi]

/-- A bind commits iff both parts do, the second from the state the first left. -/
theorem bind_ok {t : Txn σ ε α} {f : α → Txn σ ε β} {r : β × σ} :
    (t >>= f) s = .ok r ↔ ∃ a s', t s = .ok (a, s') ∧ f a s' = .ok r := by
  show (t s >>= fun p => f p.1 p.2) = .ok r ↔ _
  cases h : t s with
  | ok p =>
    obtain ⟨a, s'⟩ := p
    simp [Bind.bind, Except.bind]
  | error e => simp [Bind.bind, Except.bind]

@[simp] theorem pure_ok {a : α} {r : α × σ} : (pure a : Txn σ ε α) s = .ok r ↔ r = (a, s) := by
  show Except.ok (a, s) = .ok r ↔ _
  rw [Except.ok.injEq, eq_comm]

/-- Refuse with an error. -/
def fail (e : ε) : Txn σ ε α :=
  fun _ => .error e

@[simp] theorem fail_run : (fail e : Txn σ ε α) s = .error e :=
  rfl

/-- Go on only if `p` holds. -/
def require (p : Bool) (e : ε) : Txn σ ε Unit :=
  fun s => if p then .ok ((), s) else .error e

theorem require_ok {p : Bool} {r : Unit × σ} :
    (require p e : Txn σ ε Unit) s = .ok r ↔ p = true ∧ r = ((), s) := by
  cases p <;> simp [require, eq_comm]

theorem require_bind_ok {p : Bool} {f : Unit → Txn σ ε β} {r : β × σ} :
    ((require p e : Txn σ ε Unit) >>= f) s = .ok r ↔ p = true ∧ f () s = .ok r := by
  rw [bind_ok]
  cases p <;> simp [require, Unique.exists_iff]

/-- Read a value off the state. -/
def read (f : σ → α) : Txn σ ε α :=
  fun s => .ok (f s, s)

@[simp] theorem read_bind {f : σ → α} {g : α → Txn σ ε β} :
    ((read f : Txn σ ε α) >>= g) s = g (f s) s :=
  rfl

/-- Change the state. -/
def update (f : σ → σ) : Txn σ ε Unit :=
  fun s => .ok ((), f s)

@[simp] theorem update_ok {f : σ → σ} {r : Unit × σ} :
    (update f : Txn σ ε Unit) s = .ok r ↔ r = ((), f s) := by
  simp [update, eq_comm]

@[simp] theorem update_bind {f : σ → σ} {g : Unit → Txn σ ε β} :
    ((update f : Txn σ ε Unit) >>= g) s = g () (f s) :=
  rfl

end Txn
