import Zynk.Agent.DefaultDeny

/-!
# Resumption across restarts

The command line a restart stores is the one the next restart rewrites. A rewritten command line
is read back as the items it was made of and one selector (`scanFlags_rewritten`,
`scanCodex_rewritten`), so any number of restarts leaves what a single one does
(`rewrite_stable`).
-/

namespace Zynk

/-- A reference as the constructors of `AgentSessionRef` make it. -/
def AgentSessionRef.Valid (sessionRef : AgentSessionRef) : Prop :=
  AgentSessionRef.make sessionRef.kind sessionRef.value = some sessionRef

/-- `original_argv` through restarts that resume the sessions in turn. -/
def rewriteCycles (agent : String) (argv : List String) (refs : List AgentSessionRef) :
    Option (List String) :=
  refs.foldlM (rewritePreservingFlags agent) argv

/-! ## Rewritten command lines are valid -/

theorem validText_mono {a b : ℕ} (hab : a ≤ b) {value : String} (h : validText a value = true) :
    validText b value = true := by
  simp only [validText, Bool.and_eq_true, decide_eq_true_eq] at h ⊢
  exact ⟨⟨h.1.1, Nat.le_trans h.1.2 hab⟩, h.2⟩

theorem AgentSessionRef.Valid.validArgvToken {sessionRef : AgentSessionRef}
    (h : sessionRef.Valid) : validArgvToken sessionRef.value = true := by
  obtain ⟨kind, value⟩ := sessionRef
  unfold AgentSessionRef.Valid AgentSessionRef.make at h
  rcases kind with _ | _ <;> simp only at h <;> split at h
  · rename_i hvalid
    exact validText_mono (by decide) hvalid
  · cases h
  · rename_i hvalid
    simp only [validSessionPath, Bool.and_eq_true] at hvalid
    exact hvalid.1
  · cases h

/-- What `rewrite_preserving_flags` checks before it looks at the tokens. -/
def Checked (agent argv0 : String) (rest : List String) : Prop :=
  ¬ (!validArgv (argv0 :: rest) || !argv0MatchesAgent argv0 agent) = true

/-- Tokens of a command line that was checked, with a selector and a session. -/
theorem Checked.rewritten {agent argv0 : String} {rest rest' : List String}
    (h : Checked agent argv0 rest) {sessionRef : AgentSessionRef} (hvalid : sessionRef.Valid)
    (selector : List String) (hselector : ∀ tok ∈ selector, validArgvToken tok = true)
    (hlen : (argv0 :: rest').length ≤ maxArgvTokens)
    (hmem : ∀ tok ∈ rest', tok ∈ rest ∨ tok ∈ selector ∨ tok = sessionRef.value) :
    Checked agent argv0 rest' := by
  simp only [Checked, validArgv, Bool.or_eq_true, Bool.not_eq_true', not_or, Bool.not_eq_false,
    Bool.and_eq_true, List.isEmpty_eq_false_iff, decide_eq_true_eq, List.all_eq_true] at h ⊢
  refine ⟨⟨⟨by simp, hlen⟩, fun tok htok => ?_⟩, h.2⟩
  rcases List.mem_cons.1 htok with rfl | htok
  · exact h.1.2 tok (by simp)
  · rcases hmem tok htok with htok | htok | rfl
    · exact h.1.2 tok (by simp [htok])
    · exact hselector tok htok
    · exact hvalid.validArgvToken

/-! ## Rewritten command lines are read back -/

/-- The items before the selector, the selector with its session and the items after it. -/
theorem scanFlags_rewritten {spec : AgentRewriteSpec} (hspec : spec.WellFormed)
    {before after : List (List String)} (h : ∀ item ∈ before ++ after, ScanKeeps spec item)
    {value : String} (hvalue : startsWithDash value = false) :
    scanFlags spec (before.flatten ++ [spec.canonicalSelector] ++ value :: after.flatten) [] none =
      some (before.flatten ++ after.flatten, some before.flatten.length) := by
  have hsel : spec.valueSelectors.contains spec.canonicalSelector = true := by
    simpa using hspec.canonical
  have hdash : ¬ spec.canonicalSelector = "--" :=
    (hspec.flag _ (by simp [hspec.canonical])).2.2
  have hbool : ¬ spec.boolSelectors.contains spec.canonicalSelector = true := fun hmem =>
    (hspec.bool _ (by simpa using Or.inl hmem)).1 hspec.canonical
  have hbefore : ∀ item ∈ before, ScanKeeps spec item := fun item hitem => h item (by simp [hitem])
  have hafter := scanFlags_items (fun item hitem => h item (List.mem_append_right before hitem)) []
    before.flatten (some before.flatten.length)
  rw [List.append_nil] at hafter
  rw [List.append_assoc, scanFlags_items hbefore,
    List.nil_append, List.singleton_append, scanFlags.eq_def]
  simp only [if_neg hdash, if_neg hbool, if_pos hsel, hvalue, Bool.false_eq_true, if_false,
    Option.none_or]
  rw [hafter, scanFlags]

theorem rewriteFlagSelectorAgent_rewritten {spec : AgentRewriteSpec} (hspec : spec.WellFormed)
    {before after : List (List String)} (h : ∀ item ∈ before ++ after, ScanKeeps spec item)
    {value : String} (hvalue : startsWithDash value = false) (argv0 value' : String) :
    rewriteFlagSelectorAgent argv0
        (before.flatten ++ [spec.canonicalSelector] ++ value :: after.flatten) spec value' =
      some (argv0 :: (before.flatten ++ [spec.canonicalSelector] ++ value' :: after.flatten)) := by
  rw [rewriteFlagSelectorAgent, scanFlags_rewritten hspec h hvalue]
  simp

/-- The injected flag is dropped, the subcommand takes the session and the items are kept. -/
theorem scanCodex_rewritten {items : List (List String)} (h : ∀ item ∈ items, CodexKeeps item)
    {value : String} (hvalue : startsWithDash value = false) :
    scanCodex (["--no-daemon", "resume"] ++ value :: items.flatten) [] false =
      some items.flatten := by
  have hitems := scanCodex_items h [] [] true
  rw [List.append_nil, List.nil_append] at hitems
  have hdrop : "resume" ∉ codexSelectorDrop := by decide
  rw [List.cons_append, List.cons_append, List.nil_append, scanCodex, scanCodex]
  simp [hdrop, hvalue, hitems, scanCodex]

/-! ## Restarts -/

section

variable {agent argv0 : String} {rest first : List String} {s₁ : AgentSessionRef}

theorem rewritten_of_flagSelector {spec : AgentRewriteSpec} (hspec : spec.WellFormed)
    (hselector : validArgvToken spec.canonicalSelector = true)
    (hagent : ∀ rest, Checked agent argv0 rest → ∀ s : AgentSessionRef,
      rewritePreservingFlags agent (argv0 :: rest) s =
        rewriteFlagSelectorAgent argv0 rest spec s.value)
    (hchecked : Checked agent argv0 rest)
    (hfirst : rewriteFlagSelectorAgent argv0 rest spec s₁.value = some first)
    (hvalid : s₁.Valid) (hdash : startsWithDash s₁.value = false)
    (hlen : first.length ≤ maxArgvTokens) (s₂ : AgentSessionRef) :
    rewritePreservingFlags agent first s₂ = rewritePreservingFlags agent (argv0 :: rest) s₂ := by
  obtain ⟨rest₁, rest₂, before, after, rfl, hbefore, hafter, hitems, -, hargv⟩ :=
    rewriteFlagSelectorAgent_eq_some hfirst
  cases hfirst.symm.trans (hargv s₁.value)
  have hmem : ∀ tok ∈ before.flatten ++ [spec.canonicalSelector] ++ s₁.value :: after.flatten,
      tok ∈ rest₁ ++ rest₂ ∨ tok ∈ [spec.canonicalSelector] ∨ tok = s₁.value := by
    intro tok htok
    simp only [List.append_assoc, List.mem_append, List.mem_cons, List.not_mem_nil,
      or_false] at htok ⊢
    rcases htok with htok | htok | htok | htok
    · exact Or.inl (Or.inl (hbefore.sublist.subset htok))
    · exact Or.inr (Or.inl htok)
    · exact Or.inr (Or.inr htok)
    · exact Or.inl (Or.inr (hafter.sublist.subset htok))
  have hchecked' := hchecked.rewritten hvalid _ (by simpa using hselector) hlen hmem
  rw [hagent _ hchecked', hagent _ hchecked, hargv,
    rewriteFlagSelectorAgent_rewritten hspec hitems hdash]

theorem rewritten_of_codex (hchecked : Checked "codex" argv0 rest)
    (hfirst : rewriteCodex argv0 rest s₁.value = some first) (hvalid : s₁.Valid)
    (hdash : startsWithDash s₁.value = false) (hlen : first.length ≤ maxArgvTokens)
    (s₂ : AgentSessionRef) :
    rewritePreservingFlags "codex" first s₂ = rewritePreservingFlags "codex" (argv0 :: rest) s₂ := by
  obtain ⟨items, hkeeps, hitems, -, hargv⟩ := rewriteCodex_eq_some hfirst
  cases hfirst.symm.trans (hargv s₁.value)
  have hmem : ∀ tok ∈ ["--no-daemon", "resume"] ++ s₁.value :: items.flatten,
      tok ∈ rest ∨ tok ∈ ["--no-daemon", "resume"] ∨ tok = s₁.value := by
    intro tok htok
    rcases List.mem_append.1 htok with htok | htok
    · exact Or.inr (Or.inl htok)
    · rcases List.mem_cons.1 htok with htok | htok
      · exact Or.inr (Or.inr htok)
      · exact Or.inl (hkeeps.sublist.subset htok)
  have hchecked' := hchecked.rewritten hvalid _ (by decide) hlen hmem
  rw [rewritePreservingFlags, if_neg hchecked', rewritePreservingFlags, if_neg hchecked]
  show rewriteCodex _ _ _ = rewriteCodex _ _ _
  rw [hargv, rewriteCodex, scanCodex_rewritten (fun item hitem => (hitems item hitem).1) hdash]
  rfl

end

/-- Rewriting a rewritten command line changes the session only. -/
theorem rewrite_rewritten {agent : String} {original first : List String}
    {s₁ : AgentSessionRef} (hfirst : rewritePreservingFlags agent original s₁ = some first)
    (hvalid : s₁.Valid) (hdash : startsWithDash s₁.value = false)
    (hlen : first.length ≤ maxArgvTokens) (s₂ : AgentSessionRef) :
    rewritePreservingFlags agent first s₂ = rewritePreservingFlags agent original s₂ := by
  unfold rewritePreservingFlags at hfirst
  split at hfirst
  · cases hfirst
  rename_i argv0 rest
  split at hfirst
  · cases hfirst
  rename_i hchecked
  split at hfirst
  · refine rewritten_of_flagSelector claudeSpec_wellFormed (by decide) (fun rest hchecked s => ?_)
      hchecked hfirst hvalid hdash hlen s₂
    rw [rewritePreservingFlags, if_neg hchecked]
  · refine rewritten_of_flagSelector piSpec_wellFormed (by decide) (fun rest hchecked s => ?_)
      hchecked hfirst hvalid hdash hlen s₂
    rw [rewritePreservingFlags, if_neg hchecked]
  · exact rewritten_of_codex hchecked hfirst hvalid hdash hlen s₂
  · cases hfirst

/-- The session does not change how many tokens a command line is rewritten to. -/
theorem rewrite_length {agent : String} {original : List String} {s₁ : AgentSessionRef}
    (s₂ : AgentSessionRef) {first : List String}
    (hfirst : rewritePreservingFlags agent original s₁ = some first) :
    ∃ second, rewritePreservingFlags agent original s₂ = some second ∧
      second.length = first.length := by
  unfold rewritePreservingFlags at hfirst ⊢
  split at hfirst
  · cases hfirst
  split at hfirst
  · cases hfirst
  rename_i hchecked
  rw [if_neg hchecked]
  split at hfirst
  · obtain ⟨_, _, before, after, -, -, -, -, -, hargv⟩ := rewriteFlagSelectorAgent_eq_some hfirst
    cases hfirst.symm.trans (hargv s₁.value)
    exact ⟨_, hargv s₂.value, by simp⟩
  · obtain ⟨_, _, before, after, -, -, -, -, -, hargv⟩ := rewriteFlagSelectorAgent_eq_some hfirst
    cases hfirst.symm.trans (hargv s₁.value)
    exact ⟨_, hargv s₂.value, by simp⟩
  · obtain ⟨items, -, -, -, hargv⟩ := rewriteCodex_eq_some hfirst
    cases hfirst.symm.trans (hargv s₁.value)
    exact ⟨_, hargv s₂.value, by simp⟩
  · cases hfirst

/-- Restarts that resume `s₁`, then each of `refs`, then `s₂` leave the command line that a single
restart makes of the original one for `s₂`. With no `refs` these are two restarts in a row. -/
theorem rewrite_stable {agent : String} {original first : List String} {s₁ s₂ : AgentSessionRef}
    {refs : List AgentSessionRef} (hfirst : rewritePreservingFlags agent original s₁ = some first)
    (hrefs : ∀ s ∈ s₁ :: refs, s.Valid ∧ startsWithDash s.value = false)
    (hlen : first.length ≤ maxArgvTokens) :
    rewritePreservingFlags agent first s₂ = rewritePreservingFlags agent original s₂ ∧
      rewriteCycles agent first (refs ++ [s₂]) = rewritePreservingFlags agent original s₂ := by
  obtain ⟨hvalid, hdash⟩ := hrefs s₁ (by simp)
  refine ⟨rewrite_rewritten hfirst hvalid hdash hlen s₂, ?_⟩
  induction refs generalizing first s₁ with
  | nil =>
    show (rewritePreservingFlags agent first s₂).bind some = _
    rw [Option.bind_fun_some, rewrite_rewritten hfirst hvalid hdash hlen s₂]
  | cons s refs ih =>
    obtain ⟨second, hsecond, hlength⟩ := rewrite_length s hfirst
    have hstep : rewritePreservingFlags agent first s = some second := by
      rw [rewrite_rewritten hfirst hvalid hdash hlen s, hsecond]
    obtain ⟨hvalid', hdash'⟩ := hrefs s (by simp)
    show (rewritePreservingFlags agent first s).bind _ = _
    rw [hstep, Option.bind_some]
    exact ih hsecond (fun s' hs' => hrefs s' (by simp [hs'])) (hlength ▸ hlen) hvalid' hdash'

theorem rewrite_stable_claude :
    rewritePreservingFlags "claude" ["claude", "--model", "opus", "--continue"] ⟨.id, "s1"⟩ =
        some ["claude", "--model", "opus", "--resume", "s1"] ∧
      rewriteCycles "claude" ["claude", "--model", "opus", "--resume", "s1"]
          ([⟨.id, "s2"⟩] ++ [⟨.id, "s3"⟩]) =
        rewritePreservingFlags "claude" ["claude", "--model", "opus", "--continue"] ⟨.id, "s3"⟩ := by
  have hfirst : rewritePreservingFlags "claude" ["claude", "--model", "opus", "--continue"]
      ⟨.id, "s1"⟩ = some ["claude", "--model", "opus", "--resume", "s1"] := by decide
  refine ⟨hfirst, (rewrite_stable hfirst ?_ (by decide)).2⟩
  simp only [List.mem_cons, List.not_mem_nil, or_false, forall_eq_or_imp, forall_eq]
  exact ⟨⟨by rfl, by decide⟩, by rfl, by decide⟩

end Zynk
