import Zynk.Server.PasteConservation

/-!
# When the paste guard disconnects

A client is disconnected for a frame that exceeds the limit, for one that exceeds it together with
what is retained, and for turning an Escape that was forwarded as such into a paste introducer. The
guard remembers that Escape as its state (`Pushed.escape_cases`).

The rest of a frame that is cut at the limit goes through the same push as a frame. A rest of one
Escape is taken for an Escape of its own (`strandsEscape`), and the client is disconnected for what
it sends next. In runs without such a push the three reasons are the only ones.
-/

namespace Zynk.Server

open Text Delimited StepRun RawPasteEnvelopeState RawPasteEnvelopeGuard

/-- A release is cut in front of an Escape at the end of the frame, with nothing held back. -/
def cutLeavesEscape (limit : ℕ) (retained data : Bytes) : Bool :=
  decide (data.length ≤ limit) && heldFrom ((retained ++ data).take limit) == none &&
    (retained ++ data).drop limit == [esc]

/-- The push takes the last byte of a longer frame for an Escape of its own. -/
def strandsEscape (limit : ℕ) (state : RawPasteEnvelopeState) (data : Bytes) : Bool :=
  match state with
  | .idle => false
  | .startPrefix bytes _ | .paste bytes _ _ =>
    !agrees bracketedPasteStart (bytes ++ data) && cutLeavesEscape limit bytes data
  | .forwardedEscape continuation =>
    !agrees (bracketedPasteStart.drop 1) (continuation ++ data) &&
      cutLeavesEscape limit continuation data

/-- The guard after a push. -/
def next (limit : ℕ) (state : RawPasteEnvelopeState) (data : Bytes) : RawPasteEnvelopeState :=
  (answer limit state data).2

variable {state state' : RawPasteEnvelopeState} {data : Bytes}

theorem Breaks.strandsEscape_eq {mixedPrefix : Bool} (h : Breaks data state mixedPrefix)
    (limit : ℕ) : strandsEscape limit state data = cutLeavesEscape limit state.retained data := by
  cases h with
  | @startPrefix bytes _ _ h =>
    have hheld : strandsEscape limit (held bytes mixedPrefix) data =
        (!agrees bracketedPasteStart (bytes ++ data) && cutLeavesEscape limit bytes data) := by
      rw [held]
      split <;> rfl
    rw [hheld, h, retained_held]
    rfl
  | continuation _ h =>
    rw [strandsEscape, h, retained_forwardedEscape]
    rfl

variable {limit : ℕ}

/-- What strands an Escape does not fit the limit. -/
theorem lt_of_strandsEscape (h : strandsEscape limit state data = true) :
    limit < (state.retained ++ data).length := by
  have hcut : cutLeavesEscape limit state.retained data = true := by
    rcases state with _ | _ | _ | _
    · cases h
    all_goals exact (Bool.and_eq_true_iff.1 h).2
  rw [cutLeavesEscape, Bool.and_eq_true, beq_iff_eq] at hcut
  have := congrArg List.length hcut.2
  rw [List.length_drop, List.length_singleton] at this
  omega

variable {outcomes : List RawPasteEnvelopeOutcome}

/-- How a guard comes to remember an Escape. -/
theorem Pushed.escape_cases (hlimit : 6 < limit) (h : Pushed limit state data outcomes state')
    {continuation : Bytes} (hstate : state' = .forwardedEscape continuation) :
    (state = .idle ∧ data = [esc] ∧ continuation = []) ∨
      (∃ before, state = .forwardedEscape before ∧ continuation = before ++ data) ∨
      strandsEscape limit state data = true := by
  induction h with
  | wait _ => exact Or.inr (Or.inl ⟨continuation, hstate, (List.append_nil _).symm⟩)
  | escape =>
    cases hstate
    exact Or.inl ⟨rfl, rfl, rfl⟩
  | extend _ _ _ =>
    cases hstate
    exact Or.inr (Or.inl ⟨_, rfl, rfl⟩)
  | keep _ _ _ => exact absurd hstate (held_ne_forwardedEscape _ _ _)
  | scan _ _ _ h | completeScan _ _ _ _ h | release _ _ h =>
    cases h with
    | clear _ => cases hstate
    | keep _ | split _ _ => exact absurd hstate (held_ne_forwardedEscape _ _ _)
  | releaseCut hbreaks hdata hlen h _ ih =>
    obtain ⟨hfits, hnot⟩ := hbreaks.cut_fits hlimit hdata hlen h
    rcases ih hstate with ⟨hidle, hrest, -⟩ | ⟨before, hbefore, -⟩ | hstrands
    · right; right
      rw [hbreaks.strandsEscape_eq, cutLeavesEscape, hrest]
      cases h with
      | clear hnone => simp [hdata, hnone]
      | keep _ | split _ _ => exact absurd hidle (held_ne_idle _ _)
    · exact absurd hbefore (hnot before)
    · have := lt_of_strandsEscape hstrands
      omega
  | _ => cases hstate

/-- Why a push disconnects. -/
theorem Pushed.disconnects_cases (h : Pushed limit state data outcomes state')
    (hdisconnects : disconnects outcomes = true) :
    limit < data.length ∨ limit < (state.retained ++ data).length ∨
      ∃ continuation, state = .forwardedEscape continuation ∧
        bracketedPasteStart.drop 1 <+: continuation ++ data := by
  cases h with
  | refuseFrame hlt _ | refuseBreak _ _ hlt | refuseEscape hlt => exact Or.inl hlt
  | refuse hlt _ _ => exact Or.inr (Or.inl (by rwa [retained_held]))
  | extended _ hbegins => exact Or.inr (Or.inr ⟨_, rfl, hbegins⟩)
  | releaseCut _ _ hlt _ _ => exact Or.inr (Or.inl hlt)
  | scan _ _ _ h | completeScan _ _ _ _ h | release _ _ h =>
    exact absurd (h.conserves.2.1.symm.trans hdisconnects) Bool.false_ne_true
  | _ => cases hdisconnects

/-- An Escape that was sent with nothing retained, and what was sent since. -/
def EscapeBefore (limit : ℕ) (frames : List Bytes) (since : Bytes) : Prop :=
  ∃ before after, frames = before ++ [esc] :: after ∧
    (run (next limit) .idle before).retained = [] ∧ after.flatten = since

/-- The guard is well formed, and where it remembers an Escape one was sent. -/
structure Remembering (limit : ℕ) (frames : List Bytes) (state : RawPasteEnvelopeState) : Prop where
  wellFormed : WellFormed limit state
  escape : ∀ continuation, state = .forwardedEscape continuation →
    EscapeBefore limit frames continuation

theorem remembering_run (hlimit : 6 < limit) {frames : List Bytes}
    (h : Along (next limit) (fun state data => strandsEscape limit state data = false) .idle
      frames) : Remembering limit frames (run (next limit) .idle frames) := by
  refine (run_induction (I := fun frames state =>
    Remembering limit frames state ∧ run (next limit) .idle frames = state)
    ⟨⟨.idle, by simp⟩, rfl⟩ (fun frames state data hI hstrands => ?_) frames h).1
  obtain ⟨⟨hwell, hescape⟩, hrun⟩ := hI
  obtain ⟨-, hpushed, hwell'⟩ := answer_pushed hlimit hwell data
  refine ⟨⟨hwell', fun continuation hstate => ?_⟩, by rw [run_snoc, hrun]⟩
  rcases hpushed.escape_cases hlimit hstate with
    ⟨hidle, rfl, rfl⟩ | ⟨before, hbefore, rfl⟩ | hstrands'
  · exact ⟨frames, [], rfl, by rw [hrun, hidle, retained_idle], rfl⟩
  · obtain ⟨pre, post, rfl, hretained, rfl⟩ := hescape before hbefore
    exact ⟨pre, post ++ [data], by simp, hretained, by simp⟩
  · rw [hstrands] at hstrands'
    cases hstrands'

/-- As long as no push takes the last byte of a longer frame for an Escape of its own, a client is
disconnected only for a frame that exceeds the limit, alone or with what is retained, or for a paste
introducer that continues an Escape it sent as a frame of its own. -/
theorem disconnects_only {limit : ℕ} (hlimit : 6 < limit) (frames : List Bytes) (data : Bytes)
    (h : Along (next limit) (fun state data => strandsEscape limit state data = false) .idle
      frames) :
    let state := run (next limit) .idle frames
    push limit (data.length + 1) state data = some (answer limit state data) ∧
      (disconnects (answer limit state data).1 = true →
        limit < data.length ∨ limit < (state.retained ++ data).length ∨
          ∃ before after, frames = before ++ [esc] :: after ∧
            (run (next limit) .idle before).retained = [] ∧
            ascii "[200~" <+: (after ++ [data]).flatten) := by
  intro state
  have hr : Remembering limit frames state := remembering_run hlimit h
  obtain ⟨hanswer, hpushed, -⟩ := answer_pushed hlimit hr.wellFormed data
  refine ⟨hanswer, fun hdisconnects => ?_⟩
  rcases hpushed.disconnects_cases hdisconnects with hlt | hlt | ⟨c, hstate, hbegins⟩
  · exact Or.inl hlt
  · exact Or.inr (Or.inl hlt)
  · obtain ⟨before, after, hframes, hretained, hafter⟩ := hr.escape c hstate
    refine Or.inr (Or.inr ⟨before, after, hframes, hretained, ?_⟩)
    rw [List.flatten_append, List.flatten_singleton, hafter]
    exact hbegins

/-- An Escape, and an introducer in two frames behind it. -/
theorem disconnects_only_introducer :
    7 < (ascii "00~").length ∨
      7 < ((run (next 7) .idle [[esc], ascii "[2"]).retained ++ ascii "00~").length ∨
      ∃ before after, [[esc], ascii "[2"] = before ++ [esc] :: after ∧
        (run (next 7) .idle before).retained = [] ∧
        ascii "[200~" <+: (after ++ [ascii "00~"]).flatten :=
  (disconnects_only (by decide : 6 < 7) [[esc], ascii "[2"] (ascii "00~") (by decide)).2
    (by decide)

/-! ## An Escape that was not sent as one -/

theorem findSubsequence_eq_none_of_not_mem {needle s : Bytes} {b : UInt8} (hb : b ∈ needle)
    (hs : b ∉ s) : findSubsequence needle s = none := by
  rcases h : findSubsequence needle s with _ | i
  · rfl
  · exact absurd (List.mem_of_mem_drop ((isPrefix_findSubsequence h).subset hb)) hs

/-- A start prefix that letters break off. -/
theorem heldFrom_letters {n : ℕ} (hn : 0 < n) :
    heldFrom (ascii "\x1b[2" ++ List.replicate n 0x78) = none := by
  obtain ⟨n, rfl⟩ : ∃ k, n = k + 1 := ⟨n - 1, by omega⟩
  refine heldFrom_eq_none_iff.2 ⟨unclosed_of_none
    (findSubsequence_eq_none_of_not_mem (b := 0x7e) (by decide) fun hmem => ?_),
    trailing_eq_none_iff.2 fun t hne hlen hp hsuffix => ?_⟩
  · rcases List.mem_append.1 hmem with hmem | hmem
    · exact absurd hmem (by decide)
    · exact absurd (List.eq_of_mem_replicate hmem) (by decide)
  · have hlast := getLast?_of_suffix hne hsuffix
    rw [List.replicate_succ', ← List.append_assoc, List.getLast?_concat] at hlast
    have hall : ∀ n < 6, 0x78 ∉ bracketedPasteStart.take n := by decide
    refine hall t.length hlen ?_
    rw [← List.prefix_iff_eq_take.1 hp]
    exact List.mem_of_getLast? hlast

theorem agrees_letters {n : ℕ} (hn : 0 < n) :
    agrees bracketedPasteStart (ascii "\x1b[2" ++ (List.replicate n 0x78 ++ [esc])) = false := by
  obtain ⟨n, rfl⟩ : ∃ k, n = k + 1 := ⟨n - 1, by omega⟩
  have hfourth : (ascii "\x1b[2" ++ (List.replicate (n + 1) 0x78 ++ [esc]))[3]? = some 0x78 := rfl
  have hlen : 4 ≤ (ascii "\x1b[2" ++ (List.replicate (n + 1) 0x78 ++ [esc])).length := by
    have : (ascii "\x1b[2").length = 3 := by decide
    simp only [List.length_append, List.length_replicate, this]
    omega
  rw [Bool.eq_false_iff, Ne, agrees_iff]
  rintro (hp | hp)
  · have := List.prefix_iff_getElem?.1 hp 3 (by decide)
    rw [hfourth] at this
    exact absurd this (by decide)
  · have := List.prefix_iff_getElem?.1 hp 3 hlen
    rw [← List.getElem?_eq_getElem, hfourth] at this
    exact absurd this (by decide)

/-- An idle guard takes a lone Escape for one that is meant as such. -/
theorem Pushed.lone_escape (hlimit : 6 < limit) (h : Pushed limit state data outcomes state')
    (hidle : state = .idle) (hdata : data = [esc]) : state' = .forwardedEscape [] := by
  have hlen : data.length = 1 := by rw [hdata, List.length_singleton]
  cases h with
  | escape => rfl
  | wait hne => exact absurd hidle hne
  | nothing => cases hdata
  | scan _ hesc _ _ => exact absurd hdata hesc
  | rejectFrame hlt _ | refuseFrame hlt _ => omega
  | release hbreaks _ _ | releaseCut hbreaks _ _ _ _ | refuseBreak hbreaks _ _ =>
    cases hbreaks with
    | startPrefix _ _ => exact absurd hidle (held_ne_idle _ _)
    | continuation _ _ => cases hidle
  | refuseEscape _ | extend _ _ _ | extended _ _ => cases hidle
  | _ => exact absurd hidle (held_ne_idle _ _)

/-- A release that is cut at the limit, in front of a lone Escape and with nothing held back. -/
theorem Pushed.cut_escape (hlimit : 6 < limit) {bytes : Bytes}
    (h : Pushed limit state data outcomes state') (hstate : state = held bytes false)
    (hne : data ≠ []) (hagrees : agrees bracketedPasteStart (bytes ++ data) = false)
    (hcut : cutLeavesEscape limit bytes data = true) : state' = .forwardedEscape [] := by
  rw [cutLeavesEscape, Bool.and_eq_true, Bool.and_eq_true, decide_eq_true_eq, beq_iff_eq,
    beq_iff_eq] at hcut
  obtain ⟨⟨hdata, hclear⟩, hrest⟩ := hcut
  have hlen := congrArg List.length hrest
  rw [List.length_drop, List.length_singleton] at hlen
  have hnot : ¬ bracketedPasteStart <+: bytes ++ data := by
    intro hp
    rw [agrees_iff.2 (Or.inl hp)] at hagrees
    cases hagrees
  cases h with
  | wait _ => exact absurd rfl hne
  | keep _ hopen _ =>
    obtain ⟨rfl, -⟩ := held_inj hstate
    rw [hopen.2.1] at hagrees
    cases hagrees
  | complete he _ | completeScan _ he _ _ _ =>
    obtain ⟨rfl, -⟩ := held_inj hstate
    exact absurd (pasteEnvelope_eq_some_iff.1 he).1 hnot
  | reject _ h =>
    obtain ⟨rfl, -⟩ := held_inj hstate
    rw [isCompleteTextBracketedPaste_iff, pasteEnvelope_eq_some_iff] at h
    exact absurd h.1.1 hnot
  | refuse _ hstart _ =>
    obtain ⟨rfl, -⟩ := held_inj hstate
    exact absurd hstart hnot
  | release _ hle _ =>
    rw [hstate, retained_held] at hle
    omega
  | refuseBreak _ _ hlt => exact absurd hdata (Nat.not_le.2 hlt)
  | releaseCut _ _ _ h hpushed =>
    subst hstate
    rw [retained_held] at h hpushed
    cases h with
    | clear _ => exact hpushed.lone_escape hlimit rfl hrest
    | keep hheld =>
      rw [hheld.heldFrom] at hclear
      cases hclear
    | split hi _ =>
      rw [hi] at hclear
      cases hclear
  | nothing | escape | scan _ _ _ _ | rejectFrame _ _ | refuseFrame _ _ =>
    exact absurd hstate.symm (held_ne_idle _ _)
  | refuseEscape _ | extend _ _ _ | extended _ _ =>
    exact absurd hstate.symm (held_ne_forwardedEscape _ _ _)

theorem next_letters (hlimit : 6 < limit) :
    next limit (held (ascii "\x1b[2") false) (List.replicate (limit - 3) 0x78 ++ [esc]) =
      .forwardedEscape [] := by
  have hthree : (ascii "\x1b[2").length = 3 := by decide
  have hlen : (ascii "\x1b[2" ++ List.replicate (limit - 3) 0x78).length = limit := by
    rw [List.length_append, List.length_replicate, hthree]
    omega
  have hcut : cutLeavesEscape limit (ascii "\x1b[2")
      (List.replicate (limit - 3) 0x78 ++ [esc]) = true := by
    have hdata : (List.replicate (limit - 3) (0x78 : UInt8) ++ [esc]).length ≤ limit := by
      rw [List.length_append, List.length_replicate, List.length_singleton]
      omega
    rw [cutLeavesEscape, ← List.append_assoc, List.take_left' hlen, List.drop_left' hlen,
      heldFrom_letters (by omega), decide_eq_true hdata]
    rfl
  have hwell : WellFormed limit (held (ascii "\x1b[2") false) :=
    .held ⟨by decide, by decide, by decide⟩ (by omega)
  exact (answer_pushed hlimit hwell _).2.1.cut_escape hlimit rfl (by simp)
    (agrees_letters (by omega)) hcut

/-- A start prefix that the next frame breaks off, where both are one byte longer than the limit and
the frame ends with an Escape. The client did not send a frame of one Escape. -/
theorem disconnects_behind_cut :
    let frames := [ascii "\x1b[2", List.replicate (maxInputPayload - 3) 0x78 ++ [esc]]
    let state := run (next maxInputPayload) .idle frames
    disconnects (answer maxInputPayload state (ascii "[200~")).1 = true ∧
      ¬ (maxInputPayload < (ascii "[200~").length ∨
        maxInputPayload < (state.retained ++ ascii "[200~").length ∨
        ∃ before after, frames = before ++ [esc] :: after ∧
          (run (next maxInputPayload) .idle before).retained = [] ∧
          ascii "[200~" <+: (after ++ [ascii "[200~"]).flatten) := by
  intro frames state
  have hfirst : next maxInputPayload .idle (ascii "\x1b[2") = held (ascii "\x1b[2") false := by
    decide
  have hstate : state = .forwardedEscape [] := by
    rw [show state = run (next maxInputPayload) .idle frames from rfl, run_cons, run_cons, run_nil,
      hfirst, next_letters (by decide)]
  rw [hstate]
  refine ⟨by decide, ?_⟩
  rintro (hlt | hlt | ⟨before, after, hframes, -, -⟩)
  · exact absurd hlt (by decide)
  · exact absurd hlt (by decide)
  · have hmem : [esc] ∈ frames := by
      rw [hframes]
      simp
    rcases List.mem_cons.1 hmem with h | h
    · exact absurd h (by decide)
    · have := congrArg List.length (List.mem_singleton.1 h)
      rw [List.length_append, List.length_replicate] at this
      exact absurd this (by decide)

end Zynk.Server
