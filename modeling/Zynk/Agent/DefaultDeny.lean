import Zynk.Agent.Rewrite

/-!
# Default-deny resumption

A command line that resumes a session is the canonical one, or it is the original one with its
selector replaced and nothing kept that is not on the agent's allow-list
(`resume_argv_default_deny`). Tokens that the agent's grammar does not cover give the canonical
one.
-/

namespace Zynk

/-! ## The grammars -/

/-- What the scans rely on in a specification : every flag starts with a dash and has no `=`, a
flag is of one kind, and the selector to inject is one that takes a value. -/
structure AgentRewriteSpec.WellFormed (spec : AgentRewriteSpec) : Prop where
  flag : ∀ tok ∈ spec.boolSelectors ++ spec.valueSelectors ++ spec.boolAllow ++ spec.valueAllow,
    startsWithDash tok = true ∧ '=' ∉ tok.toList ∧ tok ≠ "--"
  bool : ∀ tok ∈ spec.boolSelectors ++ spec.boolAllow,
    tok ∉ spec.valueSelectors ∧ tok ∉ spec.valueAllow
  selector : ∀ tok ∈ spec.valueSelectors, tok ∉ spec.valueAllow
  canonical : spec.canonicalSelector ∈ spec.valueSelectors

theorem claudeSpec_wellFormed : claudeSpec.WellFormed := by
  constructor <;> decide

theorem piSpec_wellFormed : piSpec.WellFormed := by
  constructor <;> decide

theorem dash_of_flagEqFormIn {tok : String} {names : List String}
    (h : flagEqFormIn tok names = true) : startsWithDash tok = true := by
  simp only [flagEqFormIn, Bool.and_eq_true, List.isPrefixOf_iff_prefix] at h
  obtain ⟨tail, htail⟩ := h.1.1
  rw [startsWithDash, ← htail]
  rfl

/-- A `--flag=value` is no flag of a list. -/
theorem eq_mem_of_flagEqFormIn {tok : String} {names : List String}
    (h : flagEqFormIn tok names = true) : '=' ∈ tok.toList ∧ tok ≠ "--" := by
  simp only [flagEqFormIn, Bool.and_eq_true, List.contains_eq_mem, decide_eq_true_eq] at h
  refine ⟨h.1.2, ?_⟩
  rintro rfl
  exact absurd h.1.2 (by decide)

namespace AgentRewriteSpec

/-- The tokens `rewrite_flag_selector_agent` understands. -/
def grammar (spec : AgentRewriteSpec) (hspec : spec.WellFormed) : TokenGrammar where
  known tok := spec.boolSelectors.contains tok || spec.valueSelectors.contains tok ||
    flagEqFormIn tok spec.valueSelectors || spec.boolAllow.contains tok ||
    spec.valueAllow.contains tok || flagEqFormIn tok spec.valueAllow
  takes tok := spec.valueSelectors.contains tok || spec.valueAllow.contains tok
  needs tok := spec.valueAllow.contains tok
  dash_of_known tok h := by
    simp only [Bool.or_eq_true, List.contains_eq_mem, decide_eq_true_eq] at h
    rcases h with ((((h | h) | h) | h) | h) | h
    · exact (hspec.flag tok (by simp [h])).1
    · exact (hspec.flag tok (by simp [h])).1
    · exact dash_of_flagEqFormIn h
    · exact (hspec.flag tok (by simp [h])).1
    · exact (hspec.flag tok (by simp [h])).1
    · exact dash_of_flagEqFormIn h
  known_of_takes tok h := by
    simp only [Bool.or_eq_true] at h ⊢
    rcases h with h | h
    · exact Or.inl (Or.inl (Or.inl (Or.inl (Or.inr h))))
    · exact Or.inl (Or.inr h)
  takes_of_needs tok h := Bool.or_eq_true_iff.2 (Or.inr h)

/-- What `rewrite_flag_selector_agent` accepts. -/
theorem parsed_of_scanFlags {spec : AgentRewriteSpec} (hspec : spec.WellFormed)
    {rest kept : List String} {selectorPos : Option ℕ}
    (h : scanFlags spec rest kept selectorPos ≠ none) : Parsed (spec.grammar hspec) false rest := by
  have hflag {tok : String} {rest : List String} (hknown : (spec.grammar hspec).known tok = true)
      (hdash : tok ≠ "--") (hsel : tok ∉ spec.valueSelectors) (hval : tok ∉ spec.valueAllow)
      (h : Parsed (spec.grammar hspec) false rest) :
      Parsed (spec.grammar hspec) false (tok :: rest) := by
    refine .flag hknown hdash (fun htakes => ?_) h
    simp [grammar, hsel, hval] at htakes
  fun_induction scanFlags spec rest kept selectorPos with
  | case1 kept selectorPos => exact .nil
  | case3 tok rest kept selectorPos hdash hmem ih =>
    have hmem' : tok ∈ spec.boolSelectors := by simpa using hmem
    have hbool := hspec.bool tok (by simp [hmem'])
    exact hflag (by simp [grammar, hmem']) hdash hbool.1 hbool.2 (ih h)
  | case4 tok kept selectorPos hdash _ hmem ih =>
    have hmem' : tok ∈ spec.valueSelectors := by simpa using hmem
    refine .flag (by simp [grammar, hmem']) hdash (fun _ => ⟨?_, by simp⟩) (ih h)
    simpa [grammar] using hspec.selector tok hmem'
  | case5 tok kept selectorPos hdash _ hmem next rest hnext ih =>
    have hmem' : tok ∈ spec.valueSelectors := by simpa using hmem
    refine .flag (by simp [grammar, hmem']) hdash (fun _ => ⟨?_, by simpa using hnext⟩) (ih h)
    simpa [grammar] using hspec.selector tok hmem'
  | case6 tok kept selectorPos hdash _ hmem next rest hnext ih =>
    have hmem' : tok ∈ spec.valueSelectors := by simpa using hmem
    exact .valued (by simp [grammar, hmem']) hdash (by simpa using hnext) (ih h)
  | case7 tok rest kept selectorPos hdash _ hsel heq ih =>
    have hval : tok ∉ spec.valueAllow := fun hmem =>
      (hspec.flag tok (by simp [hmem])).2.1 (eq_mem_of_flagEqFormIn heq).1
    exact hflag (by simp [grammar, heq]) hdash (by simpa using hsel) hval (ih h)
  | case8 tok rest kept selectorPos hdash _ hsel _ hmem ih =>
    have hmem' : tok ∈ spec.boolAllow := by simpa using hmem
    have hbool := hspec.bool tok (by simp [hmem'])
    exact hflag (by simp [grammar, hmem']) hdash hbool.1 hbool.2 (ih h)
  | case11 tok kept selectorPos hdash _ _ _ _ hmem val rest hval ih =>
    have hmem' : tok ∈ spec.valueAllow := by simpa using hmem
    exact .valued (by simp [grammar, hmem']) hdash (by simpa using hval) (ih h)
  | case12 tok rest kept selectorPos hdash _ hsel _ _ hval heq ih =>
    exact hflag (by simp [grammar, heq]) hdash (by simpa using hsel) (by simpa using hval) (ih h)
  | case2 => exact absurd rfl h
  | case9 => exact absurd rfl h
  | case10 => exact absurd rfl h
  | case13 => exact absurd rfl h

end AgentRewriteSpec

/-- The tokens `rewrite_codex` understands. -/
def codexGrammar : TokenGrammar where
  known tok := tok == "--no-daemon" || codexSelectorDrop.contains tok ||
    codexBoolAllow.contains tok || codexValueAllow.contains tok || flagEqFormIn tok codexValueAllow
  takes tok := codexValueAllow.contains tok
  needs tok := codexValueAllow.contains tok
  dash_of_known tok h := by
    have hlists : ∀ tok ∈ "--no-daemon" :: (codexSelectorDrop ++ codexBoolAllow ++ codexValueAllow),
        startsWithDash tok = true := by decide
    simp only [Bool.or_eq_true, beq_iff_eq, List.contains_eq_mem, decide_eq_true_eq] at h
    rcases h with (((h | h) | h) | h) | h
    · exact hlists tok (by simp [h])
    · exact hlists tok (by simp [h])
    · exact hlists tok (by simp [h])
    · exact hlists tok (by simp [h])
    · exact dash_of_flagEqFormIn h
  known_of_takes tok h := Bool.or_eq_true_iff.2 (Or.inl (Bool.or_eq_true_iff.2 (Or.inr h)))
  takes_of_needs tok h := h

/-- What `rewrite_codex` accepts. -/
theorem parsed_of_scanCodex {rest kept : List String} {subcommandSeen : Bool}
    (h : scanCodex rest kept subcommandSeen ≠ none) :
    Parsed codexGrammar (!subcommandSeen) rest := by
  have hflag {subcommand : Bool} {tok : String} {rest : List String}
      (hknown : codexGrammar.known tok = true) (hdash : tok ≠ "--") (hval : tok ∉ codexValueAllow)
      (h : Parsed codexGrammar subcommand rest) : Parsed codexGrammar subcommand (tok :: rest) := by
    refine .flag hknown hdash (fun htakes => ?_) h
    simp [codexGrammar, hval] at htakes
  fun_induction scanCodex rest kept subcommandSeen with
  | case1 kept subcommandSeen => exact .nil
  | case3 rest kept subcommandSeen hdash ih => exact hflag (by decide) hdash (by decide) (ih h)
  | case4 tok rest kept subcommandSeen hdash _ hmem ih =>
    have hmem' : tok ∈ codexSelectorDrop := by simpa using hmem
    have hdrop : ∀ tok ∈ codexSelectorDrop, tok ∉ codexValueAllow := by decide
    exact hflag (by simp [codexGrammar, hmem']) hdash (hdrop tok hmem') (ih h)
  | case5 tok kept subcommandSeen _ _ _ hsub ih =>
    obtain ⟨rfl, rfl⟩ := hsub
    exact .resume (by simp) (ih h)
  | case6 tok kept subcommandSeen _ _ _ hsub next rest hnext ih =>
    obtain ⟨rfl, rfl⟩ := hsub
    exact .resume (by simpa using hnext) (ih h)
  | case7 tok kept subcommandSeen _ _ _ hsub next rest hnext ih =>
    obtain ⟨rfl, rfl⟩ := hsub
    exact .resumeOld (by simpa using hnext) (ih h)
  | case8 tok rest kept subcommandSeen hdash _ _ _ hmem ih =>
    have hmem' : tok ∈ codexBoolAllow := by simpa using hmem
    have hbool : ∀ tok ∈ codexBoolAllow, tok ∉ codexValueAllow := by decide
    exact hflag (by simp [codexGrammar, hmem']) hdash (hbool tok hmem') (ih h)
  | case11 tok kept subcommandSeen hdash _ _ _ _ hmem val rest hval ih =>
    exact .valued hmem hdash (by simpa using hval) (ih h)
  | case12 tok rest kept subcommandSeen hdash _ _ _ _ hval heq ih =>
    exact hflag (by simp [codexGrammar, heq]) hdash (by simpa using hval) (ih h)
  | case2 => exact absurd rfl h
  | case9 => exact absurd rfl h
  | case10 => exact absurd rfl h
  | case13 => exact absurd rfl h

/-! ## Preserved command lines -/

/-- The selector an agent's rewritten command line has, and its allow-lists. -/
def rewriteLists : String → Option (List String × List String × List String)
  | "claude" => some ([claudeSpec.canonicalSelector], claudeSpec.boolAllow, claudeSpec.valueAllow)
  | "pi" => some ([piSpec.canonicalSelector], piSpec.boolAllow, piSpec.valueAllow)
  | "codex" => some (["--no-daemon", "resume"], codexBoolAllow, codexValueAllow)
  | _ => none

/-- The tokens an agent's adapter understands, and whether a subcommand is among them. -/
def tokenGrammar : String → Option (TokenGrammar × Bool)
  | "claude" => some (claudeSpec.grammar claudeSpec_wellFormed, false)
  | "pi" => some (piSpec.grammar piSpec_wellFormed, false)
  | "codex" => some (codexGrammar, true)
  | _ => none

/-- The original command line with allow-listed items only and the selector, once, between
two of them. -/
def PreservesAllowed (agent : String) (original : List String) (value : String)
    (argv : List String) : Prop :=
  ∃ selector boolAllow valueAllow argv0 rest₁ rest₂ before after,
    rewriteLists agent = some (selector, boolAllow, valueAllow) ∧
      original = argv0 :: (rest₁ ++ rest₂) ∧ fileName argv0 = some agent ∧
      Keeps boolAllow valueAllow rest₁ before ∧ Keeps boolAllow valueAllow rest₂ after ∧
      (∀ item ∈ before ++ after, ∀ tok ∈ selector, item.head? ≠ some tok) ∧
      argv = argv0 :: (before.flatten ++ selector ++ value :: after.flatten)

/-- A command line that is not rejected is rewritten the same way for every session. -/
theorem rewriteFlagSelectorAgent_eq_some {spec : AgentRewriteSpec} {argv0 value : String}
    {rest argv : List String} (h : rewriteFlagSelectorAgent argv0 rest spec value = some argv) :
    ∃ rest₁ rest₂ before after, rest = rest₁ ++ rest₂ ∧
      Keeps spec.boolAllow spec.valueAllow rest₁ before ∧
      Keeps spec.boolAllow spec.valueAllow rest₂ after ∧
      (∀ item ∈ before ++ after, ScanKeeps spec item) ∧
      (scanFlags spec rest [] none).map Prod.fst = some (before.flatten ++ after.flatten) ∧
      ∀ value', rewriteFlagSelectorAgent argv0 rest spec value' =
        some (argv0 :: (before.flatten ++ [spec.canonicalSelector] ++ value' :: after.flatten)) := by
  obtain ⟨⟨kept, selectorPos⟩, hscan, rfl⟩ := Option.map_eq_some_iff.1 h
  obtain ⟨before, after, rest₁, rest₂, rfl, hbefore, hafter, hitems, hkept, hat⟩ :=
    scanFlags_eq_some hscan
  rw [List.nil_append] at hkept
  refine ⟨rest₁, rest₂, before, after, rfl, hbefore, hafter, hitems, by simp [hscan, hkept],
    fun value' => ?_⟩
  have hpos : selectorPos.getD kept.length = before.flatten.length := by
    simp only [SelectorAt, List.nil_append] at hat
    rcases hat with rfl | ⟨rfl, hnil⟩
    · rfl
    · rw [hkept, hnil, List.append_nil]
      rfl
  rw [rewriteFlagSelectorAgent, hscan, Option.map_some]
  show some (argv0 :: (kept.take (selectorPos.getD kept.length) ++ [spec.canonicalSelector, value'] ++
    kept.drop (selectorPos.getD kept.length))) = _
  rw [hpos, hkept, List.take_left, List.drop_left]
  simp

/-- A kept item does not begin with a selector. -/
theorem AgentRewriteSpec.WellFormed.head_ne {spec : AgentRewriteSpec} (hspec : spec.WellFormed)
    {item : List String} (h : AllowedItem spec.boolAllow spec.valueAllow item) {tok : String}
    (htok : tok ∈ spec.valueSelectors) : item.head? ≠ some tok := by
  intro hhead
  cases h with
  | bool hmem =>
    cases hhead
    exact (hspec.bool tok (by simp [hmem])).1 htok
  | value hmem hval =>
    cases hhead
    exact hspec.selector tok htok hmem
  | eqForm heq =>
    cases hhead
    exact (hspec.flag tok (by simp [htok])).2.1 (eq_mem_of_flagEqFormIn heq).1

theorem rewriteCodex_eq_some {argv0 value : String} {rest argv : List String}
    (h : rewriteCodex argv0 rest value = some argv) :
    ∃ items, Keeps codexBoolAllow codexValueAllow rest items ∧
      (∀ item ∈ items, CodexKeeps item ∧ item.head? ≠ some "--no-daemon") ∧
      scanCodex rest [] false = some items.flatten ∧
      ∀ value', rewriteCodex argv0 rest value' =
        some (argv0 :: (["--no-daemon", "resume"] ++ value' :: items.flatten)) := by
  obtain ⟨kept, hscan, rfl⟩ := Option.map_eq_some_iff.1 h
  obtain ⟨items, hkeeps, hitems, rfl⟩ := scanCodex_eq_some hscan
  exact ⟨items, hkeeps, hitems, hscan, fun value' => by simp [rewriteCodex, hscan]⟩

/-- No item of codex begins with the subcommand. -/
theorem codex_head_ne_resume {item : List String}
    (h : AllowedItem codexBoolAllow codexValueAllow item) : item.head? ≠ some "resume" := by
  intro hhead
  cases h with
  | bool hmem =>
    cases hhead
    exact absurd hmem (by decide)
  | value hmem hval =>
    cases hhead
    exact absurd hmem (by decide)
  | eqForm heq =>
    cases hhead
    exact absurd heq (by decide)

variable {agent source : String} {sessionRef : AgentSessionRef}

/-- What a rewritten command line is, and what the original one was. -/
theorem rewritePreservingFlags_eq_some {original argv : List String}
    (h : rewritePreservingFlags agent original sessionRef = some argv) :
    PreservesAllowed agent original sessionRef.value argv ∧
      ∃ g subcommand argv0 rest, tokenGrammar agent = some (g, subcommand) ∧
        original = argv0 :: rest ∧ Parsed g subcommand rest := by
  have hflags {spec : AgentRewriteSpec} (hspec : spec.WellFormed)
      (hlists : rewriteLists agent = some ([spec.canonicalSelector], spec.boolAllow, spec.valueAllow))
      (hgrammar : tokenGrammar agent = some (spec.grammar hspec, false)) {argv0 : String}
      {rest : List String} (hname : fileName argv0 = some agent)
      (h : rewriteFlagSelectorAgent argv0 rest spec sessionRef.value = some argv) :
      PreservesAllowed agent (argv0 :: rest) sessionRef.value argv ∧
        ∃ g subcommand argv0' rest', tokenGrammar agent = some (g, subcommand) ∧
          argv0 :: rest = argv0' :: rest' ∧ Parsed g subcommand rest' := by
    obtain ⟨rest₁, rest₂, before, after, rfl, hbefore, hafter, -, hscan, hargv⟩ :=
      rewriteFlagSelectorAgent_eq_some h
    cases h.symm.trans (hargv sessionRef.value)
    have hsome : scanFlags spec (rest₁ ++ rest₂) [] none ≠ none := by
      intro hnone
      rw [hnone] at hscan
      cases hscan
    refine ⟨⟨_, _, _, argv0, rest₁, rest₂, before, after, hlists, rfl, hname, hbefore, hafter, ?_,
      rfl⟩, _, _, argv0, _, hgrammar, rfl, AgentRewriteSpec.parsed_of_scanFlags hspec hsome⟩
    intro item hitem tok htok
    rw [List.mem_singleton.1 htok]
    refine hspec.head_ne ?_ hspec.canonical
    rcases List.mem_append.1 hitem with hitem | hitem
    · exact hbefore.mem item hitem
    · exact hafter.mem item hitem
  unfold rewritePreservingFlags at h
  split at h
  · cases h
  rename_i argv0 rest
  split at h
  · cases h
  rename_i hvalid
  have hname : fileName argv0 = some agent := by
    simp only [argv0MatchesAgent, Bool.or_eq_true, Bool.not_eq_true', not_or, Bool.not_eq_false,
      beq_iff_eq] at hvalid
    exact hvalid.2
  split at h
  · exact hflags claudeSpec_wellFormed rfl rfl hname h
  · exact hflags piSpec_wellFormed rfl rfl hname h
  · obtain ⟨items, hkeeps, hitems, hscan, hargv⟩ := rewriteCodex_eq_some h
    cases h.symm.trans (hargv sessionRef.value)
    have hsome : scanCodex rest [] false ≠ none := by simp [hscan]
    refine ⟨⟨_, _, _, argv0, [], rest, [], items, rfl, rfl, hname, .nil, hkeeps, ?_, rfl⟩,
      _, _, argv0, rest, rfl, rfl, parsed_of_scanCodex hsome⟩
    intro item hitem tok htok
    simp only [List.mem_cons, List.not_mem_nil, or_false] at htok
    rcases htok with rfl | rfl
    · exact (hitems item hitem).2
    · exact codex_head_ne_resume (hkeeps.mem item hitem)
  · cases h

/-- A planned command line is the canonical one, or the original one was rewritten. -/
theorem plan_eq_some {original : Option (List String)} {planned : AgentResumePlan}
    (h : plan source agent sessionRef original = some planned) :
    ∃ canonical, canonicalResumeArgv source agent sessionRef = some canonical ∧
      planned.argv = (original.bind fun orig =>
        rewritePreservingFlags agent orig sessionRef).getD canonical := by
  unfold plan at h
  split at h
  · cases h
  · obtain ⟨canonical, hcanonical, rfl⟩ := Option.map_eq_some_iff.1 h
    exact ⟨canonical, hcanonical, rfl⟩

/-- The canonical command line of an agent with an adapter. -/
theorem canonicalResumeArgv_adapter {canonical : List String}
    (h : canonicalResumeArgv source agent sessionRef = some canonical) :
    (agent = "claude" → canonical = [agent, claudeSpec.canonicalSelector, sessionRef.value]) ∧
      (agent = "pi" → canonical = [agent, piSpec.canonicalSelector, sessionRef.value]) ∧
      (agent = "codex" → canonical = [agent, "--no-daemon", "resume", sessionRef.value]) := by
  unfold canonicalResumeArgv at h
  refine ⟨?_, ?_, ?_⟩ <;> rintro rfl <;> split at h <;> simp_all <;> exact h.symm

/-- What is stored was rewritten from one of the candidates. -/
theorem sanitizedArgv_eq_some {canonical : List String}
    (hcanonical : canonicalResumeArgv source agent sessionRef = some canonical)
    {candidate : Option (List String)} {normalizeArgv0 : Bool} {stored : List String}
    (h : sanitizedArgv source agent sessionRef canonical candidate normalizeArgv0 = some stored) :
    ∃ original argv, candidate = some original ∧
      PreservesAllowed agent original sessionRef.value argv ∧
      (stored = argv ∨ stored = agent :: argv.tail) := by
  obtain ⟨planned, hplanned, hstored⟩ := Option.bind_eq_some_iff.1 h
  obtain ⟨original, rfl, hplan⟩ := Option.bind_eq_some_iff.1 hplanned
  obtain ⟨canonical', hcanonical', hargv⟩ := plan_eq_some hplan
  cases hcanonical.symm.trans hcanonical'
  split at hstored
  · cases hstored
  rename_i hlonger
  cases hrewrite : rewritePreservingFlags agent original sessionRef with
  | none =>
    -- The canonical command line is not longer than itself.
    simp [hargv, hrewrite] at hlonger
  | some argv =>
    simp only [Option.bind_some, hrewrite, Option.getD_some] at hargv
    subst hargv
    refine ⟨original, planned.argv, rfl, (rewritePreservingFlags_eq_some hrewrite).1, ?_⟩
    cases hstored
    split
    · exact Or.inr rfl
    · exact Or.inl rfl

/-- What is stored is a candidate without the rest, or what was stored before. -/
theorem persistedResumeArgvWithObservation_eq_some {foreground existing : Option (List String)}
    {observation : Option ResumeArgvObservation} {stored : List String}
    (h : (persistedResumeArgvWithObservation source agent sessionRef foreground existing
      observation).1 = some stored) :
    ∃ canonical, canonicalResumeArgv source agent sessionRef = some canonical ∧
      (sanitizedArgv source agent sessionRef canonical foreground true = some stored ∨
        sanitizedArgv source agent sessionRef canonical existing false = some stored ∨
        ∃ key, observation = some (.flagged key stored)) := by
  unfold persistedResumeArgvWithObservation at h
  cases hfaithful : faithfulForeground agent with
  | none => simp [hfaithful] at h
  | some faithful =>
    cases hcanonical : canonicalResumeArgv source agent sessionRef with
    | none => simp [hfaithful, hcanonical] at h
    | some canonical =>
      refine ⟨canonical, rfl, ?_⟩
      have hfilter {key : String} {argv : List String}
          (hsome : observation.filter (·.key == dedupeKey source agent sessionRef) =
            some (.flagged key argv)) : observation = some (.flagged key argv) :=
        (Option.filter_eq_some_iff.1 hsome).1
      cases hforeground : sanitizedArgv source agent sessionRef canonical foreground true with
      | some argv =>
        simp only [hfaithful, hcanonical, hforeground] at h
        exact Or.inl h
      | none =>
        right
        simp only [hfaithful, hcanonical, hforeground] at h
        split at h
        · cases h
        rcases hobserved : observation.filter (·.key == dedupeKey source agent sessionRef) with
          _ | ⟨key, argv⟩ | key <;>
        rcases hexisting : sanitizedArgv source agent sessionRef canonical existing false with
          _ | fallback <;>
        simp only [hobserved, hexisting] at h
        · cases faithful <;> cases h
        · have hfallback : fallback = stored := by cases faithful <;> cases h <;> rfl
          exact Or.inl (congrArg some hfallback)
        · have hargv : argv = stored := by cases faithful <;> cases h <;> rfl
          exact Or.inr ⟨key, hfilter (hargv ▸ hobserved)⟩
        · cases faithful with
          | false => exact Or.inl h
          | true =>
            cases h
            exact Or.inr ⟨key, hfilter hobserved⟩
        · cases faithful <;> cases h
        · cases faithful with
          | false => exact Or.inl h
          | true => cases h

/-- The command line of a plan is the canonical one or has nothing of the original one that is not
allow-listed; it is the canonical one when the original one has a `--`, an unknown flag, a bare
positional or a flag without its value. So what a snapshot stores has nothing else either. -/
theorem resume_argv_default_deny (source agent : String) (sessionRef : AgentSessionRef) :
    (∀ original planned, plan source agent sessionRef (some original) = some planned →
      ∃ canonical, canonicalResumeArgv source agent sessionRef = some canonical ∧
        (planned.argv = canonical ∨
          PreservesAllowed agent original sessionRef.value planned.argv) ∧
        ∀ g subcommand argv0 rest, tokenGrammar agent = some (g, subcommand) →
          original = argv0 :: rest → Rejected g subcommand rest → planned.argv = canonical) ∧
    ∀ foreground existing stored,
      persistedResumeArgv source agent sessionRef foreground existing = some stored →
      ∃ original argv, (foreground = some original ∨ existing = some original) ∧
        PreservesAllowed agent original sessionRef.value argv ∧
        (stored = argv ∨ stored = agent :: argv.tail) := by
  constructor
  · intro original planned hplan
    obtain ⟨canonical, hcanonical, hargv⟩ := plan_eq_some hplan
    refine ⟨canonical, hcanonical, ?_⟩
    rw [Option.bind_some] at hargv
    cases hrewrite : rewritePreservingFlags agent original sessionRef with
    | none =>
      rw [hrewrite, Option.getD_none] at hargv
      exact ⟨Or.inl hargv, fun _ _ _ _ _ _ _ => hargv⟩
    | some argv =>
      rw [hrewrite, Option.getD_some] at hargv
      obtain ⟨hpreserves, g, subcommand, argv0, rest, hgrammar, rfl, hparsed⟩ :=
        rewritePreservingFlags_eq_some hrewrite
      refine ⟨Or.inr (hargv ▸ hpreserves), fun g' subcommand' argv0' rest' hg hsplit hreject => ?_⟩
      cases hgrammar.symm.trans hg
      cases hsplit
      exact absurd hreject hparsed.not_rejected
  · intro foreground existing stored hstored
    obtain ⟨canonical, hcanonical, hforeground | hexisting | ⟨key, hnone⟩⟩ :=
      persistedResumeArgvWithObservation_eq_some hstored
    · obtain ⟨original, argv, hcandidate, hrest⟩ := sanitizedArgv_eq_some hcanonical hforeground
      exact ⟨original, argv, Or.inl hcandidate, hrest⟩
    · obtain ⟨original, argv, hcandidate, hrest⟩ := sanitizedArgv_eq_some hcanonical hexisting
      exact ⟨original, argv, Or.inr hcandidate, hrest⟩
    · cases hnone

theorem resume_argv_default_deny_prompt :
    plan "zynk:claude" "claude" ⟨.id, "s1"⟩ (some ["claude", "--model", "opus", "fix the bug"]) =
        some ⟨"claude", ["claude", "--resume", "s1"], dedupeKey "zynk:claude" "claude" ⟨.id, "s1"⟩⟩ ∧
      ∃ canonical, canonicalResumeArgv "zynk:claude" "claude" ⟨.id, "s1"⟩ = some canonical ∧
        (["claude", "--resume", "s1"] = canonical ∨
          PreservesAllowed "claude" ["claude", "--model", "opus", "fix the bug"] "s1"
            ["claude", "--resume", "s1"]) := by
  have hplan : plan "zynk:claude" "claude" ⟨.id, "s1"⟩
      (some ["claude", "--model", "opus", "fix the bug"]) =
        some ⟨"claude", ["claude", "--resume", "s1"],
          dedupeKey "zynk:claude" "claude" ⟨.id, "s1"⟩⟩ := by decide
  obtain ⟨canonical, hcanonical, hargv, -⟩ :=
    (resume_argv_default_deny "zynk:claude" "claude" ⟨.id, "s1"⟩).1 _ _ hplan
  exact ⟨hplan, canonical, hcanonical, hargv⟩

end Zynk
