import Zynk.Agent.Restart

/-!
# Reading a planned command line back

A session value is whatever a hook reported : it is checked for its length and for control
characters only. `plan` puts it behind a selector as a token of its own, and the adapters decide by
a leading dash whether the token behind a selector is its value.

`readFlags` and `readCodex` are the two scans as readers, which also say what values the selectors
have. A planned command line is read back as the flags that were kept and the session if and only
if the value does not start with a dash (`reads_back_iff`).
-/

namespace Zynk

/-- `session_ref_from_report`. -/
def sessionRefFromReport (source agent : String)
    (agentSessionId agentSessionPath : Option String) : Option AgentSessionRef :=
  if !isOfficialAgentSource source agent then none
  else if agent = "pi" ∨ agent = "omp" then
    (agentSessionPath.bind (AgentSessionRef.make .path)).or
      (agentSessionId.bind (AgentSessionRef.make .id))
  else agentSessionId.bind (AgentSessionRef.make .id)

/-! ## The adapters as readers -/

/-- The value of a `--flag=value`. -/
def eqFormValue (tok : String) : String :=
  String.ofList ((tok.toList.dropWhile (· != '=')).drop 1)

/-- The loop of `rewrite_flag_selector_agent` : the flags it keeps and the values of the selectors
it drops. -/
def readFlags (spec : AgentRewriteSpec) : List String → Option (List String × List String)
  | [] => some ([], [])
  | tok :: rest =>
    if tok = "--" then none
    else if spec.boolSelectors.contains tok then readFlags spec rest
    else if spec.valueSelectors.contains tok then
      match rest with
      | [] => readFlags spec []
      | next :: rest =>
        if startsWithDash next then readFlags spec (next :: rest)
        else (readFlags spec rest).map fun read => (read.1, next :: read.2)
    else if flagEqFormIn tok spec.valueSelectors then
      (readFlags spec rest).map fun read => (read.1, eqFormValue tok :: read.2)
    else if spec.boolAllow.contains tok then
      (readFlags spec rest).map fun read => (tok :: read.1, read.2)
    else if spec.valueAllow.contains tok then
      match rest with
      | [] => none
      | value :: rest =>
        if startsWithDash value then none
        else (readFlags spec rest).map fun read => (tok :: value :: read.1, read.2)
    else if flagEqFormIn tok spec.valueAllow then
      (readFlags spec rest).map fun read => (tok :: read.1, read.2)
    else none

example (spec : AgentRewriteSpec) : readFlags spec ["--"] = none := by
  unfold readFlags
  rfl

/-- The reader keeps what the scan keeps. -/
theorem map_scanFlags (spec : AgentRewriteSpec) (rest kept : List String)
    (selectorPos : Option ℕ) :
    (scanFlags spec rest kept selectorPos).map Prod.fst =
      (readFlags spec rest).map fun read => kept ++ read.1 := by
  fun_induction scanFlags spec rest kept selectorPos <;> rw [readFlags.eq_def] <;>
    simp_all [Function.comp_def]

/-! ## Values of selectors -/

/-- The value does not start with a dash, or it is part of a longer token. -/
def SelectorValue (spec : AgentRewriteSpec) (rest : List String) (value : String) : Prop :=
  startsWithDash value = false ∨
    ∃ tok ∈ rest, flagEqFormIn tok spec.valueSelectors = true ∧ value = eqFormValue tok

variable {rest : List String}

theorem SelectorValue.cons {spec : AgentRewriteSpec} {value : String}
    (h : SelectorValue spec rest value) (tok : String) : SelectorValue spec (tok :: rest) value :=
  h.imp_right fun ⟨tok', htok', heq⟩ => ⟨tok', List.mem_cons_of_mem tok htok', heq⟩

theorem selectorValue_of_readFlags {spec : AgentRewriteSpec} {read : List String × List String}
    (h : readFlags spec rest = some read) : ∀ value ∈ read.2, SelectorValue spec rest value := by
  fun_induction readFlags spec rest generalizing read with
  | case1 =>
    cases h
    simp
  | case3 tok rest _ _ ih => exact fun value hvalue => (ih h value hvalue).cons tok
  | case4 tok _ _ _ ih => exact fun value hvalue => (ih h value hvalue).cons tok
  | case5 tok _ _ _ next rest _ ih => exact fun value hvalue => (ih h value hvalue).cons tok
  | case6 tok _ _ _ next rest hnext ih =>
    obtain ⟨read, hread, rfl⟩ := Option.map_eq_some_iff.1 h
    intro value hvalue
    rcases List.mem_cons.1 hvalue with rfl | hvalue
    · exact Or.inl (by simpa using hnext)
    · exact ((ih hread value hvalue).cons next).cons tok
  | case7 tok rest _ _ _ heq ih =>
    obtain ⟨read, hread, rfl⟩ := Option.map_eq_some_iff.1 h
    intro value hvalue
    rcases List.mem_cons.1 hvalue with rfl | hvalue
    · exact Or.inr ⟨tok, by simp, heq, rfl⟩
    · exact (ih hread value hvalue).cons tok
  | case8 tok rest _ _ _ _ _ ih =>
    obtain ⟨read, hread, rfl⟩ := Option.map_eq_some_iff.1 h
    exact fun value hvalue => (ih hread value hvalue).cons tok
  | case11 tok _ _ _ _ _ _ val rest _ ih =>
    obtain ⟨read, hread, rfl⟩ := Option.map_eq_some_iff.1 h
    exact fun value hvalue => ((ih hread value hvalue).cons val).cons tok
  | case12 tok rest _ _ _ _ _ _ _ ih =>
    obtain ⟨read, hread, rfl⟩ := Option.map_eq_some_iff.1 h
    exact fun value hvalue => (ih hread value hvalue).cons tok
  | case2 => cases h
  | case9 => cases h
  | case10 => cases h
  | case13 => cases h

/-- What comes after the `=` is shorter than the token. -/
theorem eqFormValue_ne {tok : String} {names : List String} (h : flagEqFormIn tok names = true) :
    eqFormValue tok ≠ tok := by
  intro heq
  have hlist := congrArg (fun s => s.toList.length) heq
  simp only [eqFormValue, String.toList_ofList, List.length_drop] at hlist
  have hle := (List.dropWhile_sublist (· != '=') (l := tok.toList)).length_le
  have hpos := List.length_pos_of_mem (eq_mem_of_flagEqFormIn h).1
  omega

section

variable {spec : AgentRewriteSpec} (hspec : spec.WellFormed)
  (hbool : ∀ tok ∈ spec.boolAllow, tok ∉ spec.boolSelectors)

include hspec

/-- No token of an item is a selector of the form `--flag=value`. -/
theorem AgentRewriteSpec.WellFormed.not_eqForm_of_item {item : List String}
    (h : AllowedItem spec.boolAllow spec.valueAllow item) :
    ∀ tok ∈ item, ¬ flagEqFormIn tok spec.valueSelectors = true := by
  have hlist {tok : String} (hmem : tok ∈ spec.boolAllow ∨ tok ∈ spec.valueAllow) :
      ¬ flagEqFormIn tok spec.valueSelectors = true := fun heq =>
    (hspec.flag tok (by simp [hmem])).2.1 (eq_mem_of_flagEqFormIn heq).1
  intro tok htok heq
  cases h with
  | bool hmem =>
    cases List.mem_singleton.1 htok
    exact hlist (Or.inl hmem) heq
  | value hmem hval =>
    rcases List.mem_cons.1 htok with rfl | htok
    · exact hlist (Or.inr hmem) heq
    · cases List.mem_singleton.1 htok
      rw [dash_of_flagEqFormIn heq] at hval
      cases hval
  | eqForm heq' =>
    cases List.mem_singleton.1 htok
    simp only [flagEqFormIn, Bool.and_eq_true, List.contains_eq_mem, decide_eq_true_eq] at heq heq'
    exact hspec.selector _ heq.2 heq'.2

include hbool

/-- An item is read as itself. -/
theorem readFlags_item {item : List String} (h : AllowedItem spec.boolAllow spec.valueAllow item)
    (rest : List String) :
    readFlags spec (item ++ rest) =
      (readFlags spec rest).map fun read => (item ++ read.1, read.2) := by
  have hno := hspec.not_eqForm_of_item h
  cases h with
  | @bool tok hmem =>
    have hflag := hspec.flag tok (by simp [hmem])
    have hlists := hspec.bool tok (by simp [hmem])
    rw [List.singleton_append, readFlags.eq_def]
    simp [hflag.2.2, hbool tok hmem, hlists.1, hno tok (by simp), hmem]
  | @value tok val hmem hval =>
    have hflag := hspec.flag tok (by simp [hmem])
    have hsel : tok ∉ spec.boolSelectors := fun h => (hspec.bool tok (by simp [h])).2 hmem
    have hval' : tok ∉ spec.valueSelectors := fun h => hspec.selector tok h hmem
    have hallow : tok ∉ spec.boolAllow := fun h => (hspec.bool tok (by simp [h])).2 hmem
    rw [List.cons_append, List.singleton_append, readFlags.eq_def]
    simp [hflag.2.2, hsel, hval', hno tok (by simp), hallow, hmem, hval]
  | @eqForm tok heq =>
    obtain ⟨heqMem, hdash⟩ := eq_mem_of_flagEqFormIn heq
    have hlist {names : List String} (hnames : ∀ name ∈ names, '=' ∉ name.toList) : tok ∉ names :=
      fun hmem => hnames tok hmem heqMem
    have hflags : ∀ name ∈ spec.boolSelectors ++ spec.valueSelectors ++ spec.boolAllow ++
        spec.valueAllow, '=' ∉ name.toList := fun name hname => (hspec.flag name hname).2.1
    have hnot := hlist hflags
    simp only [List.mem_append, not_or] at hnot
    rw [List.singleton_append, readFlags.eq_def]
    simp [hdash, hnot.1.1.1, hnot.1.1.2, hnot.1.2, hnot.2, hno tok (by simp), heq]

theorem readFlags_items {items : List (List String)}
    (h : ∀ item ∈ items, AllowedItem spec.boolAllow spec.valueAllow item) (rest : List String) :
    readFlags spec (items.flatten ++ rest) =
      (readFlags spec rest).map fun read => (items.flatten ++ read.1, read.2) := by
  induction items with
  | nil => simp
  | cons item items ih =>
    rw [List.flatten_cons, List.append_assoc, readFlags_item hspec hbool (h item (by simp)),
      ih fun other hother => h other (by simp [hother])]
    simp [Function.comp_def]

/-- The items around the selector and the session are read back exactly when the session is read as
the value of the selector. -/
theorem readFlags_rewritten {before after : List (List String)}
    (h : ∀ item ∈ before ++ after, AllowedItem spec.boolAllow spec.valueAllow item)
    (value : String) :
    readFlags spec (before.flatten ++ [spec.canonicalSelector] ++ value :: after.flatten) =
        some (before.flatten ++ after.flatten, [value]) ↔ startsWithDash value = false := by
  have hsel := hspec.canonical
  have hflag := hspec.flag spec.canonicalSelector (by simp [hsel])
  have hnot : spec.canonicalSelector ∉ spec.boolSelectors := fun hmem =>
    (hspec.bool _ (by simp [hmem])).1 hsel
  have hafter : readFlags spec after.flatten = some (after.flatten, []) := by
    have := readFlags_items hspec hbool
      (fun item hitem => h item (List.mem_append_right before hitem)) []
    rwa [List.append_nil, readFlags, Option.map_some, List.append_nil] at this
  have hbefore : ∀ item ∈ before, AllowedItem spec.boolAllow spec.valueAllow item :=
    fun item hitem => h item (List.mem_append_left _ hitem)
  rw [List.append_assoc, readFlags_items hspec hbool hbefore, List.singleton_append,
    readFlags.eq_def]
  simp only [if_neg hflag.2.2, List.contains_eq_mem, hsel, hnot, decide_true, decide_false,
    Bool.false_eq_true, if_false, if_true]
  rcases hdash : startsWithDash value with _ | _
  · simp [hafter]
  · refine iff_of_false (fun hread => ?_) (by simp)
    obtain ⟨read, hread, heq⟩ := Option.map_eq_some_iff.1 hread
    -- The session would have to be part of a selector of the form `--flag=value`.
    obtain ⟨-, hvalues⟩ := Prod.mk.inj heq
    rcases selectorValue_of_readFlags hread value (by simp [hvalues]) with hval | ⟨tok, htok, heqForm, rfl⟩
    · rw [hdash] at hval
      cases hval
    rcases List.mem_cons.1 htok with htok | htok
    · exact eqFormValue_ne heqForm htok.symm
    · obtain ⟨item, hitem, htok⟩ := List.mem_flatten.1 htok
      exact hspec.not_eqForm_of_item (h item (by simp [hitem])) tok htok heqForm

end

/-! ## The reader of codex -/

/-- The loop of `rewrite_codex` : the flags it keeps and the session the subcommand names. -/
def readCodex : List String → Bool → Option (List String × List String)
  | [], _ => some ([], [])
  | tok :: rest, subcommandSeen =>
    if tok = "--" then none
    else if tok = "--no-daemon" then readCodex rest subcommandSeen
    else if codexSelectorDrop.contains tok then readCodex rest subcommandSeen
    else if tok = "resume" ∧ subcommandSeen = false then
      match rest with
      | [] => readCodex [] true
      | next :: rest =>
        if startsWithDash next then readCodex (next :: rest) true
        else (readCodex rest true).map fun read => (read.1, next :: read.2)
    else if codexBoolAllow.contains tok then
      (readCodex rest subcommandSeen).map fun read => (tok :: read.1, read.2)
    else if codexValueAllow.contains tok then
      match rest with
      | [] => none
      | value :: rest =>
        if startsWithDash value then none
        else (readCodex rest subcommandSeen).map fun read => (tok :: value :: read.1, read.2)
    else if flagEqFormIn tok codexValueAllow then
      (readCodex rest subcommandSeen).map fun read => (tok :: read.1, read.2)
    else none

example : readCodex ["--"] true = none := by
  unfold readCodex
  rfl

theorem scanCodex_eq_map (rest kept : List String) (subcommandSeen : Bool) :
    scanCodex rest kept subcommandSeen =
      (readCodex rest subcommandSeen).map fun read => kept ++ read.1 := by
  have hdrop : "resume" ∉ codexSelectorDrop := by decide
  fun_induction scanCodex rest kept subcommandSeen <;> rw [readCodex.eq_def] <;>
    simp only [*, if_true, if_false, Bool.false_eq_true] <;> simp [hdrop, Function.comp_def]

/-- After the subcommand no session is named. -/
theorem readCodex_true {kept values : List String} (h : readCodex rest true = some (kept, values)) :
    values = [] := by
  generalize hseen : true = seen at h
  fun_induction readCodex rest seen generalizing kept values <;>
    grind [Option.map_eq_some_iff]

theorem readCodex_item {item : List String}
    (h : AllowedItem codexBoolAllow codexValueAllow item) (hhead : item.head? ≠ some "--no-daemon")
    (rest : List String) (subcommandSeen : Bool) :
    readCodex (item ++ rest) subcommandSeen =
      (readCodex rest subcommandSeen).map fun read => (item ++ read.1, read.2) := by
  have hresume : item.head? ≠ some "resume" := codex_head_ne_resume h
  cases h with
  | @bool tok hmem =>
    have hlists : ∀ tok ∈ codexBoolAllow, tok ≠ "--" ∧ tok ∉ codexSelectorDrop := by decide
    simp only [List.head?_cons, ne_eq, Option.some.injEq] at hhead hresume
    rw [List.singleton_append, readCodex.eq_def]
    simp [(hlists tok hmem).1, (hlists tok hmem).2, hhead, hresume, hmem]
  | @value tok val hmem hval =>
    have hlists : ∀ tok ∈ codexValueAllow,
        tok ≠ "--" ∧ tok ∉ codexSelectorDrop ∧ tok ∉ codexBoolAllow := by decide
    obtain ⟨hdash, hdrop, hbool⟩ := hlists tok hmem
    simp only [List.head?_cons, ne_eq, Option.some.injEq] at hhead hresume
    rw [List.cons_append, List.singleton_append, readCodex.eq_def]
    simp [hdash, hdrop, hhead, hresume, hbool, hmem, hval]
  | @eqForm tok heq =>
    obtain ⟨heqMem, hdash⟩ := eq_mem_of_flagEqFormIn heq
    have hlists : ∀ tok ∈ codexSelectorDrop ++ codexBoolAllow ++ codexValueAllow,
        '=' ∉ tok.toList := by decide
    have hnot : tok ∉ codexSelectorDrop ++ codexBoolAllow ++ codexValueAllow := fun hmem =>
      hlists tok hmem heqMem
    simp only [List.mem_append, not_or] at hnot
    simp only [List.head?_cons, ne_eq, Option.some.injEq] at hhead hresume
    rw [List.singleton_append, readCodex.eq_def]
    simp [hdash, hhead, hresume, hnot.1.1, hnot.1.2, hnot.2, heq]

theorem readCodex_items {items : List (List String)}
    (h : ∀ item ∈ items, AllowedItem codexBoolAllow codexValueAllow item ∧
      item.head? ≠ some "--no-daemon") (subcommandSeen : Bool) :
    readCodex items.flatten subcommandSeen = some (items.flatten, []) := by
  induction items with
  | nil => rfl
  | cons item items ih =>
    rw [List.flatten_cons, readCodex_item (h item (by simp)).1 (h item (by simp)).2,
      ih fun other hother => h other (by simp [hother])]
    rfl

/-- The injected flag is dropped, and the items are read back exactly when the session is read as
what the subcommand names. -/
theorem readCodex_rewritten {items : List (List String)}
    (h : ∀ item ∈ items, AllowedItem codexBoolAllow codexValueAllow item ∧
      item.head? ≠ some "--no-daemon") (value : String) :
    readCodex (["--no-daemon", "resume"] ++ value :: items.flatten) false =
        some (items.flatten, [value]) ↔ startsWithDash value = false := by
  have hdrop : "resume" ∉ codexSelectorDrop := by decide
  rw [List.cons_append, List.singleton_append, readCodex, readCodex.eq_def]
  simp only [String.reduceEq, if_false, if_true, List.contains_eq_mem, hdrop, decide_false,
    Bool.false_eq_true, and_self]
  rcases hdash : startsWithDash value with _ | _
  · simp [readCodex_items h]
  · refine iff_of_false (fun hread => ?_) (by simp)
    simpa using readCodex_true hread

/-! ## Planned command lines -/

/-- The reader of an agent's adapter. -/
def adapterReader : String → Option (List String → Option (List String × List String))
  | "claude" => some (readFlags claudeSpec)
  | "pi" => some (readFlags piSpec)
  | "codex" => some fun rest => readCodex rest false
  | _ => none

/-- The flags that `plan` keeps of the original command line : none of one it cannot rewrite. -/
def keptFlags (agent : String) (original : Option (List String)) : List String :=
  match original with
  | some (argv0 :: rest) =>
    if !validArgv (argv0 :: rest) || !argv0MatchesAgent argv0 agent then []
    else (((adapterReader agent).bind fun read => read rest).map Prod.fst).getD []
  | _ => []

/-- The adapter of the agent reads the tokens after `argv0` as the flags that were kept and the
session, which is the value of the only selector. -/
def ReadsBack (agent : String) (original : Option (List String)) (value : String)
    (argv : List String) : Prop :=
  ∀ read, adapterReader agent = some read →
    read argv.tail = some (keptFlags agent original, [value])

variable {agent : String}

/-- An original command line that is rewritten was checked, and its flags are the ones kept. -/
theorem keptFlags_of_checked {argv0 : String} (hchecked : Checked agent argv0 rest) :
    keptFlags agent (some (argv0 :: rest)) =
      (((adapterReader agent).bind fun read => read rest).map Prod.fst).getD [] := by
  simp only [keptFlags, if_neg hchecked]

theorem keptFlags_of_not_checked {argv0 : String} (hchecked : ¬ Checked agent argv0 rest) :
    keptFlags agent (some (argv0 :: rest)) = [] := by
  unfold keptFlags
  exact if_pos (not_not.1 hchecked)

theorem rewritePreservingFlags_of_not_checked {argv0 : String}
    (hchecked : ¬ Checked agent argv0 rest) (sessionRef : AgentSessionRef) :
    rewritePreservingFlags agent (argv0 :: rest) sessionRef = none := by
  unfold rewritePreservingFlags
  exact if_pos (not_not.1 hchecked)

/-- What `plan` has made of a session with the adapter of claude or pi. -/
theorem readsBack_flags {spec : AgentRewriteSpec} (hspec : spec.WellFormed)
    (hbool : ∀ tok ∈ spec.boolAllow, tok ∉ spec.boolSelectors)
    (hreader : adapterReader agent = some (readFlags spec)) {sessionRef : AgentSessionRef}
    (hagent : ∀ argv0 rest, Checked agent argv0 rest →
      rewritePreservingFlags agent (argv0 :: rest) sessionRef =
        rewriteFlagSelectorAgent argv0 rest spec sessionRef.value) (original :
    Option (List String)) : ReadsBack agent original sessionRef.value
        ((original.bind fun orig => rewritePreservingFlags agent orig sessionRef).getD
          [agent, spec.canonicalSelector, sessionRef.value]) ↔
      startsWithDash sessionRef.value = false := by
  have hread {argv0 : String} {before after : List (List String)}
      (h : ∀ item ∈ before ++ after, AllowedItem spec.boolAllow spec.valueAllow item)
      (hkept : keptFlags agent original = before.flatten ++ after.flatten) :
      ReadsBack agent original sessionRef.value
          (argv0 :: (before.flatten ++ [spec.canonicalSelector] ++
            sessionRef.value :: after.flatten)) ↔
        startsWithDash sessionRef.value = false := by
    simp only [ReadsBack, hreader, Option.some.injEq, forall_eq', List.tail_cons, hkept]
    exact readFlags_rewritten hspec hbool h sessionRef.value
  -- The canonical command line keeps no flag.
  have hcanonical := @hread agent [] [] (by simp)
  rcases original with _ | _ | ⟨argv0, rest⟩
  · exact hcanonical rfl
  · exact hcanonical rfl
  rw [Option.bind_some]
  by_cases hchecked : Checked agent argv0 rest
  · have hmap := map_scanFlags spec rest [] none
    have hkept := keptFlags_of_checked hchecked
    rw [hreader, Option.bind_some] at hkept
    simp only [List.nil_append] at hmap
    rw [← hmap] at hkept
    rw [hagent argv0 rest hchecked]
    rcases hrewrite : rewriteFlagSelectorAgent argv0 rest spec sessionRef.value with _ | argv
    · rw [rewriteFlagSelectorAgent, Option.map_eq_none_iff] at hrewrite
      rw [hrewrite] at hkept
      exact hcanonical hkept
    · obtain ⟨rest₁, rest₂, before, after, rfl, hbefore, hafter, -, hscan, hargv⟩ :=
        rewriteFlagSelectorAgent_eq_some hrewrite
      cases hrewrite.symm.trans (hargv sessionRef.value)
      rw [hscan] at hkept
      refine hread (fun item hitem => ?_) hkept
      rcases List.mem_append.1 hitem with hitem | hitem
      · exact hbefore.mem item hitem
      · exact hafter.mem item hitem
  · rw [rewritePreservingFlags_of_not_checked hchecked]
    exact hcanonical (keptFlags_of_not_checked hchecked)

theorem readsBack_codex (sessionRef : AgentSessionRef) (original : Option (List String)) :
    ReadsBack "codex" original sessionRef.value
        ((original.bind fun orig => rewritePreservingFlags "codex" orig sessionRef).getD
          ["codex", "--no-daemon", "resume", sessionRef.value]) ↔
      startsWithDash sessionRef.value = false := by
  have hread {argv0 : String} {items : List (List String)}
      (h : ∀ item ∈ items, AllowedItem codexBoolAllow codexValueAllow item ∧
        item.head? ≠ some "--no-daemon")
      (hkept : keptFlags "codex" original = items.flatten) :
      ReadsBack "codex" original sessionRef.value
          (argv0 :: (["--no-daemon", "resume"] ++ sessionRef.value :: items.flatten)) ↔
        startsWithDash sessionRef.value = false := by
    simp only [ReadsBack, adapterReader, Option.some.injEq, forall_eq', List.tail_cons, hkept]
    exact readCodex_rewritten h sessionRef.value
  have hcanonical := @hread "codex" [] (by simp)
  rcases original with _ | _ | ⟨argv0, rest⟩
  · exact hcanonical rfl
  · exact hcanonical rfl
  rw [Option.bind_some]
  by_cases hchecked : Checked "codex" argv0 rest
  · have hmap := scanCodex_eq_map rest [] false
    have hkept := keptFlags_of_checked hchecked
    simp only [adapterReader, Option.bind_some] at hkept
    simp only [List.nil_append] at hmap
    rw [← hmap] at hkept
    rw [rewritePreservingFlags, if_neg hchecked]
    show ReadsBack _ _ _ ((rewriteCodex argv0 rest sessionRef.value).getD _) ↔ _
    rcases hrewrite : rewriteCodex argv0 rest sessionRef.value with _ | argv
    · rw [rewriteCodex, Option.map_eq_none_iff] at hrewrite
      rw [hrewrite] at hkept
      exact hcanonical hkept
    · obtain ⟨items, hkeeps, hitems, hscan, hargv⟩ := rewriteCodex_eq_some hrewrite
      cases hrewrite.symm.trans (hargv sessionRef.value)
      rw [hscan] at hkept
      exact hread (fun item hitem => ⟨hkeeps.mem item hitem, (hitems item hitem).2⟩) hkept
  · rw [rewritePreservingFlags_of_not_checked hchecked]
    exact hcanonical (keptFlags_of_not_checked hchecked)

/-- A planned command line is read back by the agent's adapter exactly when the session does not
start with a dash, whatever the original command line was. -/
theorem reads_back_iff {source agent : String} {sessionRef : AgentSessionRef}
    {original : Option (List String)} {planned : AgentResumePlan}
    (h : plan source agent sessionRef original = some planned) :
    ReadsBack agent original sessionRef.value planned.argv ↔
      adapterReader agent = none ∨ startsWithDash sessionRef.value = false := by
  obtain ⟨canonical, hcanonical, hargv⟩ := plan_eq_some h
  obtain ⟨hclaude, hpi, hcodex⟩ := canonicalResumeArgv_adapter hcanonical
  rw [hargv]
  rcases hreader : adapterReader agent with _ | read
  · exact iff_of_true (fun read hread => by rw [hreader] at hread; cases hread) (Or.inl rfl)
  simp only [reduceCtorEq, false_or]
  unfold adapterReader at hreader
  split at hreader
  · rw [hclaude rfl]
    exact readsBack_flags claudeSpec_wellFormed (by decide) rfl
      (fun argv0 rest hchecked => by rw [rewritePreservingFlags, if_neg hchecked]) original
  · rw [hpi rfl]
    exact readsBack_flags piSpec_wellFormed (by decide) rfl
      (fun argv0 rest hchecked => by rw [rewritePreservingFlags, if_neg hchecked]) original
  · rw [hcodex rfl]
    exact readsBack_codex sessionRef original
  · cases hreader

theorem reads_back_iff_claude :
    plan "zynk:claude" "claude" ⟨.id, "s1"⟩ (some ["claude", "--model", "opus", "--continue"]) =
        some ⟨"claude", ["claude", "--model", "opus", "--resume", "s1"],
          dedupeKey "zynk:claude" "claude" ⟨.id, "s1"⟩⟩ ∧
      ReadsBack "claude" (some ["claude", "--model", "opus", "--continue"]) "s1"
        ["claude", "--model", "opus", "--resume", "s1"] := by
  have hplan : plan "zynk:claude" "claude" ⟨.id, "s1"⟩
      (some ["claude", "--model", "opus", "--continue"]) =
        some ⟨"claude", ["claude", "--model", "opus", "--resume", "s1"],
          dedupeKey "zynk:claude" "claude" ⟨.id, "s1"⟩⟩ := by decide
  exact ⟨hplan, (reads_back_iff hplan).2 (Or.inr (by decide))⟩

/-- A report names a session by a flag that turns the permission checks off : the planned command
line is read as one with this flag and with no session. -/
theorem session_read_as_flag :
    sessionRefFromReport "zynk:claude" "claude" (some "--dangerously-skip-permissions") none =
        some ⟨.id, "--dangerously-skip-permissions"⟩ ∧
      plan "zynk:claude" "claude" ⟨.id, "--dangerously-skip-permissions"⟩ none =
        some ⟨"claude", ["claude", "--resume", "--dangerously-skip-permissions"],
          dedupeKey "zynk:claude" "claude" ⟨.id, "--dangerously-skip-permissions"⟩⟩ ∧
      readFlags claudeSpec ["--resume", "--dangerously-skip-permissions"] =
        some (["--dangerously-skip-permissions"], []) ∧
      ¬ ReadsBack "claude" none "--dangerously-skip-permissions"
        ["claude", "--resume", "--dangerously-skip-permissions"] := by
  have hread : readFlags claudeSpec ["--resume", "--dangerously-skip-permissions"] =
      some (["--dangerously-skip-permissions"], []) := by decide
  refine ⟨by decide, by decide, hread, fun h => ?_⟩
  have := h _ rfl
  rw [List.tail_cons, hread] at this
  simp at this

end Zynk
