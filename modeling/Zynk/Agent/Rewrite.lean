import Zynk.Agent.Argv

/-!
# What a rewritten command line is made of

The scans of `rewrite_preserving_flags` are default-deny. What they keep is an in-order choice
of allow-listed items from the original tokens (`Keeps`), each of them a flag or a flag with its
own value, with the selector put between two items. What they accept is read as flags, flags
with their values and at most one subcommand (`Parsed`); a token that is not read so
makes them give up (`Rejected`).

Each item that is kept is kept again when the result is scanned, so that rewriting a second
time changes the session only (`rewrite_stable`).
-/

namespace Zynk

/-! ## Items -/

/-- What a scan may keep : a flag, a flag with its value, a `--flag=value`. -/
inductive AllowedItem (boolAllow valueAllow : List String) : List String → Prop
  | bool {tok : String} (h : tok ∈ boolAllow) : AllowedItem boolAllow valueAllow [tok]
  | value {tok val : String} (h : tok ∈ valueAllow) (hval : startsWithDash val = false) :
    AllowedItem boolAllow valueAllow [tok, val]
  | eqForm {tok : String} (h : flagEqFormIn tok valueAllow = true) :
    AllowedItem boolAllow valueAllow [tok]

/-- `items` are allowed items of the tokens, in their order. -/
inductive Keeps (boolAllow valueAllow : List String) : List String → List (List String) → Prop
  | nil : Keeps boolAllow valueAllow [] []
  | drop (tok : String) {rest : List String} {items : List (List String)}
    (h : Keeps boolAllow valueAllow rest items) : Keeps boolAllow valueAllow (tok :: rest) items
  | keep {item rest : List String} {items : List (List String)}
    (hitem : AllowedItem boolAllow valueAllow item) (h : Keeps boolAllow valueAllow rest items) :
    Keeps boolAllow valueAllow (item ++ rest) (item :: items)

theorem Keeps.mem {boolAllow valueAllow rest : List String} {items : List (List String)}
    (h : Keeps boolAllow valueAllow rest items) :
    ∀ item ∈ items, AllowedItem boolAllow valueAllow item := by
  induction h with
  | nil => simp
  | drop tok h ih => exact ih
  | keep hitem h ih =>
    intro item hmem
    rcases List.mem_cons.1 hmem with rfl | hmem
    · exact hitem
    · exact ih item hmem

theorem Keeps.sublist {boolAllow valueAllow rest : List String} {items : List (List String)}
    (h : Keeps boolAllow valueAllow rest items) : items.flatten.Sublist rest := by
  induction h with
  | nil => exact List.Sublist.refl _
  | drop tok h ih => exact ih.cons tok
  | keep hitem h ih =>
    rw [List.flatten_cons]
    exact (List.Sublist.refl _).append ih

/-! ## The scan of claude and pi -/

section

variable {spec : AgentRewriteSpec}

/-- The scan keeps the item, whatever comes before and after it. -/
def ScanKeeps (spec : AgentRewriteSpec) (item : List String) : Prop :=
  ∀ rest kept selectorPos, scanFlags spec (item ++ rest) kept selectorPos =
    scanFlags spec rest (kept ++ item) selectorPos

theorem scanFlags_items {items : List (List String)} (h : ∀ item ∈ items, ScanKeeps spec item)
    (rest kept : List String) (selectorPos : Option ℕ) :
    scanFlags spec (items.flatten ++ rest) kept selectorPos =
      scanFlags spec rest (kept ++ items.flatten) selectorPos := by
  induction items generalizing kept with
  | nil => simp
  | cons item items ih =>
    rw [List.flatten_cons, List.append_assoc, h item (by simp),
      ih (fun other hother => h other (by simp [hother])), List.append_assoc]

/-- Items of two stretches of tokens. -/
theorem Keeps.append {boolAllow valueAllow rest₁ rest₂ : List String} {before after : List (List String)}
    (h₁ : Keeps boolAllow valueAllow rest₁ before) (h₂ : Keeps boolAllow valueAllow rest₂ after) :
    Keeps boolAllow valueAllow (rest₁ ++ rest₂) (before ++ after) := by
  induction h₁ with
  | nil => exact h₂
  | drop tok _ ih => exact .drop tok ih
  | keep hitem _ ih =>
    rw [List.append_assoc]
    exact .keep hitem ih

theorem Keeps.append_left {boolAllow valueAllow rest : List String} {items : List (List String)}
    (h : Keeps boolAllow valueAllow rest items) (dropped : List String) :
    Keeps boolAllow valueAllow (dropped ++ rest) items := by
  induction dropped with
  | nil => exact h
  | cons tok dropped ih => exact .drop tok ih

/-- Where the first selector stood, given what was kept before and after it. -/
def SelectorAt (kept before after : List String) (selectorPos selectorPos' : Option ℕ) : Prop :=
  match selectorPos with
  | some p => selectorPos' = some p
  | none => selectorPos' = some (kept ++ before).length ∨ (selectorPos' = none ∧ after = [])

/-- What a scan that does not give up has kept : items of the tokens before the first selector
and of those after it, if its place is not known before. -/
def Scanned (spec : AgentRewriteSpec) (rest kept : List String) (selectorPos : Option ℕ)
    (kept' : List String) (selectorPos' : Option ℕ) : Prop :=
  ∃ before after rest₁ rest₂, rest = rest₁ ++ rest₂ ∧
    Keeps spec.boolAllow spec.valueAllow rest₁ before ∧
    Keeps spec.boolAllow spec.valueAllow rest₂ after ∧
    (∀ item ∈ before ++ after, ScanKeeps spec item) ∧
    kept' = kept ++ (before.flatten ++ after.flatten) ∧
    SelectorAt kept before.flatten after.flatten selectorPos selectorPos'

variable {rest kept kept' : List String} {selectorPos selectorPos' : Option ℕ}

/-- A selector is dropped, and from there on its place is known. -/
theorem Scanned.selector
    (h : Scanned spec rest kept (selectorPos.or (some kept.length)) kept' selectorPos')
    (dropped : List String) : Scanned spec (dropped ++ rest) kept selectorPos kept' selectorPos' := by
  obtain ⟨before, after, rest₁, rest₂, rfl, hbefore, hafter, hitems, hkept, hat⟩ := h
  refine ⟨[], before ++ after, [], dropped ++ (rest₁ ++ rest₂), rfl, .nil,
    (hbefore.append hafter).append_left dropped, hitems, by simpa using hkept, ?_⟩
  cases selectorPos with
  | none =>
    left
    simpa [SelectorAt] using hat
  | some p => exact hat

/-- An item is kept before the selector, or somewhere when its place is known. -/
theorem Scanned.item {item : List String}
    (h : Scanned spec rest (kept ++ item) selectorPos kept' selectorPos')
    (hallowed : AllowedItem spec.boolAllow spec.valueAllow item) (hscan : ScanKeeps spec item) :
    Scanned spec (item ++ rest) kept selectorPos kept' selectorPos' := by
  obtain ⟨before, after, rest₁, rest₂, rfl, hbefore, hafter, hitems, hkept, hat⟩ := h
  refine ⟨item :: before, after, item ++ rest₁, rest₂, by simp, .keep hallowed hbefore, hafter,
    ?_, by simpa using hkept, ?_⟩
  · intro other hother
    rcases List.mem_cons.1 hother with rfl | hother
    · exact hscan
    · exact hitems other hother
  · cases selectorPos with
    | none => simpa [SelectorAt] using hat
    | some p => exact hat

theorem scanFlags_eq_some (h : scanFlags spec rest kept selectorPos = some (kept', selectorPos')) :
    Scanned spec rest kept selectorPos kept' selectorPos' := by
  fun_induction scanFlags spec rest kept selectorPos with
  | case1 kept selectorPos =>
    simp only [Option.some.injEq, Prod.mk.injEq] at h
    obtain ⟨rfl, rfl⟩ := h
    refine ⟨[], [], [], [], rfl, .nil, .nil, by simp, by simp, ?_⟩
    cases selectorPos with
    | none => exact Or.inr ⟨rfl, rfl⟩
    | some p => rfl
  | case3 tok rest kept selectorPos _ _ ih => exact (ih h).selector [tok]
  | case4 tok kept selectorPos _ _ _ ih => exact (ih h).selector [tok]
  | case5 tok kept selectorPos _ _ _ next rest _ ih => exact (ih h).selector [tok]
  | case6 tok kept selectorPos _ _ _ next rest _ ih => exact (ih h).selector [tok, next]
  | case7 tok rest kept selectorPos _ _ _ _ ih => exact (ih h).selector [tok]
  | case8 tok rest kept selectorPos h₁ h₂ h₃ h₄ hallow ih =>
    refine (ih h).item (.bool (by simpa using hallow)) fun rest kept pos => ?_
    rw [List.singleton_append, scanFlags.eq_def]
    simp only [if_neg h₁, if_neg h₂, if_neg h₃, if_neg h₄, if_pos hallow]
  | case11 tok kept selectorPos h₁ h₂ h₃ h₄ h₅ hallow val rest hval ih =>
    refine (ih h).item (.value (by simpa using hallow) (by simpa using hval)) fun rest kept pos => ?_
    rw [List.cons_append, List.singleton_append, scanFlags.eq_def]
    simp only [if_neg h₁, if_neg h₂, if_neg h₃, if_neg h₄, if_neg h₅, if_pos hallow, if_neg hval]
  | case12 tok rest kept selectorPos h₁ h₂ h₃ h₄ h₅ h₆ hallow ih =>
    refine (ih h).item (.eqForm hallow) fun rest kept pos => ?_
    rw [List.singleton_append, scanFlags.eq_def]
    simp only [if_neg h₁, if_neg h₂, if_neg h₃, if_neg h₄, if_neg h₅, if_neg h₆, if_pos hallow]
  | case2 => cases h
  | case9 => cases h
  | case10 => cases h
  | case13 => cases h

end

/-! ## The scan of codex -/

/-- The scan keeps the item, whatever comes before and after it. -/
def CodexKeeps (item : List String) : Prop :=
  ∀ rest kept subcommandSeen, scanCodex (item ++ rest) kept subcommandSeen =
    scanCodex rest (kept ++ item) subcommandSeen

theorem scanCodex_items {items : List (List String)} (h : ∀ item ∈ items, CodexKeeps item)
    (rest kept : List String) (subcommandSeen : Bool) :
    scanCodex (items.flatten ++ rest) kept subcommandSeen =
      scanCodex rest (kept ++ items.flatten) subcommandSeen := by
  induction items generalizing kept with
  | nil => simp
  | cons item items ih =>
    rw [List.flatten_cons, List.append_assoc, h item (by simp),
      ih (fun other hother => h other (by simp [hother])), List.append_assoc]

/-- What a scan that does not give up has kept. -/
def CodexScanned (rest kept kept' : List String) : Prop :=
  ∃ items, Keeps codexBoolAllow codexValueAllow rest items ∧
    (∀ item ∈ items, CodexKeeps item ∧ item.head? ≠ some "--no-daemon") ∧
    kept' = kept ++ items.flatten

section

variable {rest kept kept' : List String}

theorem CodexScanned.drop (h : CodexScanned rest kept kept') (dropped : List String) :
    CodexScanned (dropped ++ rest) kept kept' := by
  obtain ⟨items, hkeeps, hitems, hkept⟩ := h
  exact ⟨items, hkeeps.append_left dropped, hitems, hkept⟩

theorem CodexScanned.item {item : List String} (h : CodexScanned rest (kept ++ item) kept')
    (hallowed : AllowedItem codexBoolAllow codexValueAllow item) (hscan : CodexKeeps item)
    (hhead : item.head? ≠ some "--no-daemon") : CodexScanned (item ++ rest) kept kept' := by
  obtain ⟨items, hkeeps, hitems, hkept⟩ := h
  refine ⟨item :: items, .keep hallowed hkeeps, fun other hother => ?_, by simpa using hkept⟩
  rcases List.mem_cons.1 hother with rfl | hother
  · exact ⟨hscan, hhead⟩
  · exact hitems other hother

theorem scanCodex_eq_some {subcommandSeen : Bool}
    (h : scanCodex rest kept subcommandSeen = some kept') : CodexScanned rest kept kept' := by
  -- No flag that is kept is the subcommand.
  have hresume {tok : String} (hmem : tok ∈ codexBoolAllow ∨ tok ∈ codexValueAllow ∨
      flagEqFormIn tok codexValueAllow = true) : tok ≠ "resume" := by
    rintro rfl
    revert hmem
    decide
  fun_induction scanCodex rest kept subcommandSeen with
  | case1 kept subcommandSeen =>
    cases h
    exact ⟨[], .nil, by simp, by simp⟩
  | case3 rest kept subcommandSeen _ ih => exact (ih h).drop ["--no-daemon"]
  | case4 tok rest kept subcommandSeen _ _ _ ih => exact (ih h).drop [tok]
  | case5 tok kept subcommandSeen _ _ _ _ ih => exact (ih h).drop [tok]
  | case6 tok kept subcommandSeen _ _ _ _ next rest _ ih => exact (ih h).drop [tok]
  | case7 tok kept subcommandSeen _ _ _ _ next rest _ ih => exact (ih h).drop [tok, next]
  | case8 tok rest kept subcommandSeen h₁ h₂ h₃ _ hallow ih =>
    have hmem : tok ∈ codexBoolAllow := by simpa using hallow
    refine (ih h).item (.bool hmem) (fun rest kept seen => ?_) (by simpa using h₂)
    have h₄ : ¬ (tok = "resume" ∧ seen = false) := fun hsub => hresume (Or.inl hmem) hsub.1
    rw [List.singleton_append, scanCodex.eq_def]
    simp only [if_neg h₁, if_neg h₂, if_neg h₃, if_neg h₄, if_pos hallow]
  | case11 tok kept subcommandSeen h₁ h₂ h₃ _ h₅ hallow val rest hval ih =>
    have hmem : tok ∈ codexValueAllow := by simpa using hallow
    refine (ih h).item (.value hmem (by simpa using hval)) (fun rest kept seen => ?_)
      (by simpa using h₂)
    have h₄ : ¬ (tok = "resume" ∧ seen = false) := fun hsub => hresume (Or.inr (Or.inl hmem)) hsub.1
    rw [List.cons_append, List.singleton_append, scanCodex.eq_def]
    simp only [if_neg h₁, if_neg h₂, if_neg h₃, if_neg h₄, if_neg h₅, if_pos hallow, if_neg hval]
  | case12 tok rest kept subcommandSeen h₁ h₂ h₃ _ h₅ h₆ hallow ih =>
    refine (ih h).item (.eqForm hallow) (fun rest kept seen => ?_) (by simpa using h₂)
    have h₄ : ¬ (tok = "resume" ∧ seen = false) :=
      fun hsub => hresume (Or.inr (Or.inr hallow)) hsub.1
    rw [List.singleton_append, scanCodex.eq_def]
    simp only [if_neg h₁, if_neg h₂, if_neg h₃, if_neg h₄, if_neg h₅, if_neg h₆, if_pos hallow]
  | case2 => cases h
  | case9 => cases h
  | case10 => cases h
  | case13 => cases h

end

/-! ## What is accepted -/

/-- The flags a scan knows, those that take the token after them as their value, and those that
cannot do without one. -/
structure TokenGrammar where
  known : String → Bool
  takes : String → Bool
  needs : String → Bool
  dash_of_known : ∀ tok, known tok = true → startsWithDash tok = true
  known_of_takes : ∀ tok, takes tok = true → known tok = true
  takes_of_needs : ∀ tok, needs tok = true → takes tok = true

/-- Tokens read as flags, flags with their values and, while `subcommand` is set, the subcommand
`resume` with the session it names. A token that starts with a dash is never a value. -/
inductive Parsed (g : TokenGrammar) : Bool → List String → Prop
  | nil {subcommand : Bool} : Parsed g subcommand []
  | flag {subcommand : Bool} {tok : String} {rest : List String} (hknown : g.known tok = true)
    (hdash : tok ≠ "--")
    (hvalue : g.takes tok = true → g.needs tok = false ∧
      ∀ next, rest.head? = some next → startsWithDash next = true)
    (h : Parsed g subcommand rest) : Parsed g subcommand (tok :: rest)
  | valued {subcommand : Bool} {tok val : String} {rest : List String} (htakes : g.takes tok = true)
    (hdash : tok ≠ "--") (hval : startsWithDash val = false) (h : Parsed g subcommand rest) :
    Parsed g subcommand (tok :: val :: rest)
  | resume {rest : List String} (hnext : ∀ next, rest.head? = some next → startsWithDash next = true)
    (h : Parsed g false rest) : Parsed g true ("resume" :: rest)
  | resumeOld {old : String} {rest : List String} (hold : startsWithDash old = false)
    (h : Parsed g false rest) : Parsed g true ("resume" :: old :: rest)

/-- No flag before takes the token at the end of `pre` as its value. -/
def Free (g : TokenGrammar) (pre : List String) : Prop :=
  ∀ tok, pre.getLast? = some tok → g.takes tok = false

/-- `resume` occurs only as the value of a flag. -/
def NoSubcommand (g : TokenGrammar) (pre : List String) : Prop :=
  ∀ a b, pre = a ++ "resume" :: b → ¬ Free g a

/-- A token that is no flag, no value of a flag, and neither the subcommand nor the session it
names. -/
def BarePositional (g : TokenGrammar) (subcommand : Bool) (rest : List String) : Prop :=
  ∃ pre tok post, rest = pre ++ tok :: post ∧ startsWithDash tok = false ∧ Free g pre ∧
    (subcommand = true → ¬ (tok = "resume" ∧ NoSubcommand g pre) ∧
      ¬ ∃ a, pre = a ++ ["resume"] ∧ Free g a ∧ NoSubcommand g a)

/-- A flag that needs a value, at the end or before another flag. -/
def MissingValue (g : TokenGrammar) (rest : List String) : Prop :=
  ∃ pre tok post, rest = pre ++ tok :: post ∧ g.needs tok = true ∧
    ∀ next, post.head? = some next → startsWithDash next = true

/-- Tokens for which the canonical command line is used. -/
def Rejected (g : TokenGrammar) (subcommand : Bool) (rest : List String) : Prop :=
  "--" ∈ rest ∨ (∃ tok ∈ rest, startsWithDash tok = true ∧ g.known tok = false) ∨
    BarePositional g subcommand rest ∨ MissingValue g rest

namespace Parsed

variable {g : TokenGrammar} {subcommand : Bool} {rest : List String}

/-- Every token with a dash is a flag that is known. -/
theorem known_of_dash (h : Parsed g subcommand rest) :
    ∀ tok ∈ rest, startsWithDash tok = true → g.known tok = true ∧ tok ≠ "--" := by
  have hresume : startsWithDash "resume" = false := by decide
  induction h with
  | nil => simp
  | flag hknown hdash hvalue h ih =>
    intro tok hmem htok
    rcases List.mem_cons.1 hmem with rfl | hmem
    · exact ⟨hknown, hdash⟩
    · exact ih tok hmem htok
  | valued htakes hdash hval h ih =>
    intro tok hmem htok
    rcases List.mem_cons.1 hmem with rfl | hmem
    · exact ⟨g.known_of_takes _ htakes, hdash⟩
    · rcases List.mem_cons.1 hmem with rfl | hmem
      · rw [hval] at htok
        cases htok
      · exact ih tok hmem htok
  | resume hnext h ih =>
    intro tok hmem htok
    rcases List.mem_cons.1 hmem with rfl | hmem
    · rw [hresume] at htok
      cases htok
    · exact ih tok hmem htok
  | resumeOld hold h ih =>
    intro tok hmem htok
    rcases List.mem_cons.1 hmem with rfl | hmem
    · rw [hresume] at htok
      cases htok
    · rcases List.mem_cons.1 hmem with rfl | hmem
      · rw [hold] at htok
        cases htok
      · exact ih tok hmem htok

variable {tok first : String}

theorem dash_of_takes (h : g.takes tok = true) : startsWithDash tok = true :=
  g.dash_of_known tok (g.known_of_takes tok h)

theorem takes_eq_false (h : startsWithDash tok = false) : g.takes tok = false := by
  rw [Bool.eq_false_iff]
  intro htakes
  rw [dash_of_takes htakes] at h
  cases h

variable {pre : List String}

/-- The token is the first one, or one of the rest. -/
theorem split_cons {rest post : List String} (h : first :: rest = pre ++ tok :: post) :
    (pre = [] ∧ tok = first ∧ post = rest) ∨ ∃ pre', pre = first :: pre' ∧ rest =
      pre' ++ tok :: post := by
  rcases List.cons_eq_append_iff.1 h with ⟨hpre, heq⟩ | ⟨pre', hpre, heq⟩
  · simp only [List.cons.injEq] at heq
    exact Or.inl ⟨hpre, heq⟩
  · exact Or.inr ⟨pre', hpre, heq⟩

/-- Every flag that needs a value has one. -/
theorem not_missingValue (h : Parsed g subcommand rest) : ¬ MissingValue g rest := by
  have hneeds {tok : String} (hval : startsWithDash tok = false) : ¬ g.needs tok = true := by
    intro hneeds
    rw [dash_of_takes (g.takes_of_needs tok hneeds)] at hval
    cases hval
  induction h with
  | nil =>
    rintro ⟨pre, tok, post, hsplit, -⟩
    simp at hsplit
  | flag hknown hdash hvalue h ih =>
    rintro ⟨pre, tok, post, hsplit, hneed, hnext⟩
    rcases split_cons hsplit with ⟨rfl, rfl, rfl⟩ | ⟨pre, rfl, hrest⟩
    · rw [(hvalue (g.takes_of_needs _ hneed)).1] at hneed
      cases hneed
    · exact ih ⟨pre, tok, post, hrest, hneed, hnext⟩
  | valued htakes hdash hval h ih =>
    rintro ⟨pre, tok, post, hsplit, hneed, hnext⟩
    rcases split_cons hsplit with ⟨rfl, rfl, rfl⟩ | ⟨pre, rfl, hrest⟩
    · rw [hnext _ rfl] at hval
      cases hval
    rcases split_cons hrest with ⟨rfl, rfl, rfl⟩ | ⟨pre, rfl, hrest'⟩
    · exact hneeds hval hneed
    · exact ih ⟨pre, tok, post, hrest', hneed, hnext⟩
  | resume hnext' h ih =>
    rintro ⟨pre, tok, post, hsplit, hneed, hnext⟩
    rcases split_cons hsplit with ⟨rfl, rfl, rfl⟩ | ⟨pre, rfl, hrest⟩
    · exact hneeds (by decide) hneed
    · exact ih ⟨pre, tok, post, hrest, hneed, hnext⟩
  | resumeOld hold h ih =>
    rintro ⟨pre, tok, post, hsplit, hneed, hnext⟩
    rcases split_cons hsplit with ⟨rfl, rfl, rfl⟩ | ⟨pre, rfl, hrest⟩
    · exact hneeds (by decide) hneed
    rcases split_cons hrest with ⟨rfl, rfl, rfl⟩ | ⟨pre, rfl, hrest'⟩
    · exact hneeds hold hneed
    · exact ih ⟨pre, tok, post, hrest', hneed, hnext⟩

theorem free_nil : Free g [] := fun tok h => by simp at h

theorem free_cons (h : Free g pre) (hfirst : pre = [] → g.takes first = false) :
    Free g (first :: pre) := by
  intro tok hlast
  cases pre with
  | nil =>
    simp only [List.getLast?_singleton, Option.some.injEq] at hlast
    rw [← hlast]
    exact hfirst rfl
  | cons second pre =>
    rw [List.getLast?_cons_cons] at hlast
    exact h tok hlast

theorem free_of_cons (h : Free g (first :: pre)) : Free g pre := by
  intro tok hlast
  refine h tok ?_
  cases pre with
  | nil => simp at hlast
  | cons second pre => rwa [List.getLast?_cons_cons]

/-- A flag in front is no subcommand. -/
theorem noSubcommand_cons (h : NoSubcommand g pre) (hfirst : first ≠ "resume") :
    NoSubcommand g (first :: pre) := by
  intro a b hsplit hfree
  rcases split_cons hsplit with ⟨rfl, rfl, rfl⟩ | ⟨a, rfl, hrest⟩
  · exact hfirst rfl
  · exact h a b hrest (free_of_cons hfree)

/-- A flag with its value in front is no subcommand. -/
theorem noSubcommand_valued {val : String} (h : NoSubcommand g pre)
    (htakes : g.takes first = true) : NoSubcommand g (first :: val :: pre) := by
  intro a b hsplit hfree
  rcases split_cons hsplit with ⟨rfl, rfl, rfl⟩ | ⟨a, rfl, hrest⟩
  · rw [takes_eq_false (by decide)] at htakes
    cases htakes
  rcases split_cons hrest with ⟨rfl, rfl, rfl⟩ | ⟨a, rfl, hrest'⟩
  · rw [hfree first rfl] at htakes
    cases htakes
  · exact h a b hrest' (free_of_cons (free_of_cons hfree))

theorem ne_resume_of_known (h : g.known tok = true) : tok ≠ "resume" := by
  rintro rfl
  exact absurd (g.dash_of_known _ h) (by decide)

/-- Every other token is a value, the subcommand or the session it names. -/
theorem not_barePositional (h : Parsed g subcommand rest) : ¬ BarePositional g subcommand rest := by
  induction h with
  | nil =>
    rintro ⟨pre, tok, post, hsplit, -⟩
    simp at hsplit
  | @flag subcommand first rest hknown hdash hvalue h ih =>
    rintro ⟨pre, tok, post, hsplit, hval, hfree, hsub⟩
    rcases split_cons hsplit with ⟨rfl, rfl, rfl⟩ | ⟨pre, rfl, hrest⟩
    · rw [g.dash_of_known _ hknown] at hval
      cases hval
    refine ih ⟨pre, tok, post, hrest, hval, free_of_cons hfree, fun hs => ⟨?_, ?_⟩⟩
    · rintro ⟨rfl, hno⟩
      exact (hsub hs).1 ⟨rfl, noSubcommand_cons hno (ne_resume_of_known hknown)⟩
    · rintro ⟨a, rfl, hfreea, hno⟩
      -- A flag right before the subcommand has not taken it for its value.
      refine (hsub hs).2 ⟨first :: a, rfl, free_cons hfreea ?_,
        noSubcommand_cons hno (ne_resume_of_known hknown)⟩
      rintro rfl
      rw [Bool.eq_false_iff]
      intro htakes
      have hnext := (hvalue htakes).2 "resume" (by rw [hrest]; rfl)
      exact absurd hnext (by decide)
  | @valued subcommand first val rest htakes hdash hval' h ih =>
    rintro ⟨pre, tok, post, hsplit, hval, hfree, hsub⟩
    rcases split_cons hsplit with ⟨rfl, rfl, rfl⟩ | ⟨pre, rfl, hrest⟩
    · rw [dash_of_takes htakes] at hval
      cases hval
    rcases split_cons hrest with ⟨rfl, rfl, rfl⟩ | ⟨pre, rfl, hrest'⟩
    · rw [hfree first rfl] at htakes
      cases htakes
    refine ih ⟨pre, tok, post, hrest', hval, free_of_cons (free_of_cons hfree), fun hs => ⟨?_, ?_⟩⟩
    · rintro ⟨rfl, hno⟩
      exact (hsub hs).1 ⟨rfl, noSubcommand_valued hno htakes⟩
    · rintro ⟨a, rfl, hfreea, hno⟩
      have hvalfree : Free g (val :: a) := free_cons hfreea fun _ => takes_eq_false hval'
      exact (hsub hs).2 ⟨first :: val :: a, rfl, free_cons hvalfree (by simp),
        noSubcommand_valued hno htakes⟩
  | resume hnext h ih =>
    rintro ⟨pre, tok, post, hsplit, hval, hfree, hsub⟩
    rcases split_cons hsplit with ⟨rfl, rfl, rfl⟩ | ⟨pre, rfl, hrest⟩
    · refine (hsub rfl).1 ⟨rfl, fun a b hnil => ?_⟩
      simp at hnil
    · exact ih ⟨pre, tok, post, hrest, hval, free_of_cons hfree, by simp⟩
  | resumeOld hold h ih =>
    rintro ⟨pre, tok, post, hsplit, hval, hfree, hsub⟩
    have hnil : NoSubcommand g [] := fun a b hnil => by simp at hnil
    rcases split_cons hsplit with ⟨rfl, rfl, rfl⟩ | ⟨pre, rfl, hrest⟩
    · exact (hsub rfl).1 ⟨rfl, hnil⟩
    rcases split_cons hrest with ⟨rfl, rfl, rfl⟩ | ⟨pre, rfl, hrest'⟩
    · exact (hsub rfl).2 ⟨[], rfl, free_nil, hnil⟩
    · exact ih ⟨pre, tok, post, hrest', hval, free_of_cons (free_of_cons hfree), by simp⟩

theorem not_rejected (h : Parsed g subcommand rest) : ¬ Rejected g subcommand rest := by
  rintro (hdash | ⟨tok, hmem, htok, hunknown⟩ | hbare | hmissing)
  · exact (h.known_of_dash "--" hdash (by decide)).2 rfl
  · rw [(h.known_of_dash tok hmem htok).1] at hunknown
    cases hunknown
  · exact h.not_barePositional hbare
  · exact h.not_missingValue hmissing

end Parsed

end Zynk
