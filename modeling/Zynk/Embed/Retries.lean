import Zynk.Embed.Fencing

/-!
# The retry cap

`MAX_ATTEMPTS` is checked on the `failed` branch of the claim only, so a job stays below
the cap as long as it comes back to `pending` below it. A recovery does not look at the
attempts : a job that was running for the last time it may (its worker crashed, or was slow)
comes back to `pending` at the cap and is claimed once more (`crash_exceeds_cap`).

`RecoversBelowCap` is the condition on a step under which the cap holds, and
`attempts_le_maxAttempts` the bound for every run whose steps meet it.
-/

namespace Zynk

open StepRun

variable {sha256 : String → String}

/-- Every job the step returns to `pending` has attempts left. -/
def RecoversBelowCap (s : System) : Event → Prop
  | .recover modelId cutoff =>
    ∀ j ∈ s.db.embeddingJobs, j.stale modelId cutoff = true → j.attempts < maxAttempts
  | _ => True

/-- The attempts are at most the cap, and below it for a job that will be claimed without
looking at it. -/
def EmbeddingJob.BelowCap (j : EmbeddingJob) : Prop :=
  j.attempts ≤ maxAttempts ∧ (j.status = .pending → j.attempts < maxAttempts)

theorem EmbeddingJob.BelowCap.of_runnable {j : EmbeddingJob} (h : j.BelowCap)
    (hrun : j.runnable = true) : j.attempts < maxAttempts := by
  simp only [EmbeddingJob.runnable, Bool.or_eq_true, Bool.and_eq_true, beq_iff_eq,
    decide_eq_true_eq] at hrun
  rcases hrun with hpending | ⟨-, hlt⟩
  · exact h.2 hpending
  · exact hlt

/-- An update keeps the cap when it keeps it on the jobs it matches. -/
theorem updateJobs_belowCap {p : EmbeddingJob → Bool} {set : EmbeddingJob → EmbeddingJob} {db : Db}
    (h : ∀ j ∈ db.embeddingJobs, j.BelowCap)
    (hset : ∀ j ∈ db.embeddingJobs, p j = true → j.BelowCap → (set j).BelowCap) :
    ∀ j ∈ (updateJobs p set db).embeddingJobs, j.BelowCap := by
  intro k hk
  obtain ⟨j, hj, rfl⟩ := List.mem_map.1 hk
  split
  · exact hset j hj ‹_› (h j hj)
  · exact h j hj

/-- A step that meets the condition keeps every job below the cap. -/
theorem Effect.belowCap {s : System} {e : Event} {db' : Db} {claims' : List String}
    (heff : Effect sha256 s e db' claims') (hcond : RecoversBelowCap s e)
    (h : ∀ j ∈ s.db.embeddingJobs, j.BelowCap) : ∀ j ∈ db'.embeddingJobs, j.BelowCap := by
  cases heff with
  | none => exact h
  | store op =>
    rcases op.step_cases sha256 s.db with hs | ⟨ids, model, input, rt, ns, record, -, hs⟩ | ⟨e, ha⟩
    · rwa [hs]
    · obtain ⟨m, hs⟩ := beginSendAttempt_sent hs
      rw [hs.embeddingJobs]
      intro j hj
      rcases List.mem_append.1 hj with hj | hj
      · exact h j hj
      · rw [List.mem_singleton.1 hj]
        exact ⟨Nat.zero_le _, fun _ => (by decide : 0 < maxAttempts)⟩
    · rw [ha.eq]
      exact h
  | recover modelId cutoff =>
    refine updateJobs_belowCap h fun j hj hstale hcap => ⟨hcap.1, fun _ => ?_⟩
    exact hcond j hj hstale
  | backfill w jobId now messageId modelId =>
    unfold insertMissingJob
    split
    · exact h
    · intro j hj
      rcases List.mem_append.1 hj with hj | hj
      · exact h j hj
      · rw [List.mem_singleton.1 hj]
        exact ⟨Nat.zero_le _, fun _ => (by decide : 0 < maxAttempts)⟩
  | claim hfind =>
    refine updateJobs_belowCap h fun j hj hmine hcap => ?_
    simp only [Bool.and_eq_true] at hmine
    exact ⟨hcap.of_runnable hmine.2, fun hpending => by cases hpending⟩
  | write hp howned =>
    exact updateJobs_belowCap h fun j hj hown hcap => ⟨hcap.1, fun hpending => by cases hpending⟩
  | fail hp =>
    exact updateJobs_belowCap h fun j hj hown hcap => ⟨hcap.1, fun hpending => by cases hpending⟩

/-- In every run of any number of workers, crashes and recoveries in which no recovery
returns a job that used up its attempts to `pending`, the attempts of every job in every
state reached are at most the cap. -/
theorem attempts_le_maxAttempts (sha256 : String → String) (models : ℕ → String × ℕ)
    (es : List Event)
    (hes : Along (System.step sha256) RecoversBelowCap (System.init models) es)
    (reached : List Event) (hreached : List.IsPrefix reached es) :
    ∀ j ∈ (run (System.step sha256) (System.init models) reached).db.embeddingJobs,
      j.attempts ≤ maxAttempts := by
  obtain ⟨rest, rfl⟩ := hreached
  have hcap : ∀ j ∈ (run (System.step sha256) (System.init models) reached).db.embeddingJobs,
      j.BelowCap := by
    refine run_induction (I := fun _ s => ∀ j ∈ s.db.embeddingJobs, j.BelowCap) ?_ ?_ reached
      (along_append.1 hes).1
    · exact fun j hj => absurd hj List.not_mem_nil
    · exact fun _ s e h hcond => (s.effect sha256 e).belowCap hcond h
  exact fun j hj => (hcap j hj).1

/-- One attempt : worker 0 selects and claims the job, crashes, and the job is recovered. -/
def crashedAttempt : List Event :=
  [.select 0, .claim 0 "2026-01-01" none, .start 0 "fake@1" 3, .recover "fake@1" "2026-02-01"]

/-- A send that enqueues one job, and `n` attempts at it that each kill the worker. -/
def crashingRun (n : ℕ) : List Event :=
  .store (.send ⟨"c1", "p1", "p2", "j1"⟩ "fake@1"
      { command := .zynkSend, messageId := "m1", targetArg := "1:p2",
        sender := { agent := some "claude", pane := some "1:p1", terminalId := some "t1" },
        recipient := { agent := some "codex", pane := some "1:p2", terminalId := some "t2" },
        messageType := none, body := "hello", createdAt := "2026-01-01", traceId := none }
      "rt" "ns") ::
    (List.replicate n crashedAttempt).flatten

/-- Up to the fourth crash every recovery is below the cap. -/
theorem attempts_le_maxAttempts_four_crashes :
    Along (System.step id) RecoversBelowCap (System.init fun _ => ("fake@1", 3)) (crashingRun 4) ∧
      ∀ j ∈ (run (System.step id) (System.init fun _ => ("fake@1", 3))
        (crashingRun 4)).db.embeddingJobs, j.attempts ≤ maxAttempts := by
  have hes : Along (System.step id) RecoversBelowCap (System.init fun _ => ("fake@1", 3))
      (crashingRun 4) := by
    simp only [crashingRun, crashedAttempt, List.replicate, List.flatten_cons, List.flatten_nil,
      List.cons_append, List.nil_append, List.append_nil, Along, RecoversBelowCap, true_and, and_true]
    decide
  exact ⟨hes, attempts_le_maxAttempts id _ (crashingRun 4) hes _ (List.prefix_refl _)⟩

/-- A job whose every attempt kills its worker is claimed a sixth time. -/
theorem crash_exceeds_cap :
    ¬∀ j ∈ (run (System.step id) (System.init fun _ => ("fake@1", 3))
      (crashingRun 6)).db.embeddingJobs, j.attempts ≤ maxAttempts := by
  decide

end Zynk
