import Zynk.Lib.Run
import Zynk.Server.PasteGuardSteps

/-!
# Runs of the paste guard

`PasteLog` keeps beside the guard what a client sees of it : what was forwarded, what is left of the
input when the rejected envelopes are taken away, and how far into its frame the paste began that
the guard holds back. `Pushed.conserves` and its siblings say what one push does to them.

The mark `mixedPrefix` stands for "something of the frame it began in was forwarded", which it gets
wrong where a start is not looked at from the beginning of its frame (`misplaces`) : behind a paste
that the frame completes, behind a cut at the limit, and behind retained bytes that the frame breaks
off. It also forgets an Escape that was forwarded as such when it rejects the paste behind it.
-/

namespace Zynk.Server

open Text Delimited StepRun RawPasteEnvelopeState RawPasteEnvelopeGuard

/-! ## What a client sees -/

/-- The data of every `Forward`. -/
def forwards (outcomes : List RawPasteEnvelopeOutcome) : List Bytes :=
  outcomes.filterMap fun outcome =>
    match outcome with
    | .forward data => some data
    | _ => none

def disconnects (outcomes : List RawPasteEnvelopeOutcome) : Bool :=
  outcomes.any fun outcome =>
    match outcome with
    | .disconnect _ _ => true
    | _ => false

/-- The bytes without the envelopes at their end that are rejected. -/
def withoutRejected (outcomes : List RawPasteEnvelopeOutcome) (bytes : Bytes) : Bytes :=
  outcomes.foldl (fun bytes outcome =>
    match outcome with
    | .rejectPaste size => bytes.take (bytes.length - size)
    | _ => bytes) bytes

/-- What a push answers, with the fuel that is always enough. -/
def answer (limit : ℕ) (state : RawPasteEnvelopeState) (data : Bytes) :
    List RawPasteEnvelopeOutcome × RawPasteEnvelopeState :=
  (push limit (data.length + 1) state data).getD ([], state)

/-- The complete pastes of a byte stream, by the offsets of their beginning and end. -/
def pastes (stream : Bytes) : List (ℕ × ℕ) :=
  spans bracketedPasteStart bracketedPasteEnd stream

/-- One complete paste with a text in it, and longer than the limit. -/
def OversizedPaste (limit : ℕ) (bytes : Bytes) : Prop :=
  limit < bytes.length ∧ pastes bytes = [(0, bytes.length)] ∧
    (decodeUtf8 ((bytes.take (bytes.length - 6)).drop 6)).isSome = true

/-- Every complete paste of the stream lies inside one of its chunks. -/
def Whole (chunks : List Bytes) : Prop :=
  ∀ p ∈ pastes chunks.flatten, ∃ before chunk after, chunks = before ++ chunk :: after ∧
    before.flatten.length ≤ p.1 ∧ p.2 ≤ before.flatten.length + chunk.length

/-- The last chunk that is not empty. -/
def lastForwarded (chunks : List Bytes) : Option Bytes :=
  (chunks.filter fun chunk => !chunk.isEmpty).getLast?

/-! ## Where the mark is wrong -/

/-- Directly behind the paste that the bytes begin with another one begins. -/
def directlyBehindPaste (bytes : Bytes) : Bool :=
  match pasteEnvelope bytes with
  | some e => heldFrom (bytes.drop e) == some 0
  | none => false

/-- A release after which a start is held back that stands at the beginning of the frame, behind a
paste that the frame completes beyond the limit, or directly behind the cut at the limit. -/
def misplacesRelease (limit : ℕ) (retained data : Bytes) : Bool :=
  let bytes := retained ++ data
  match heldFrom (bytes.take limit) with
  | some i =>
    (!retained.isEmpty && i == retained.length && heldFrom (bytes.drop i) == some 0) ||
      directlyBehindPaste (bytes.drop i)
  | none =>
    decide (limit < bytes.length) && bytes.drop limit != [esc] &&
      heldFrom (bytes.drop limit) == some 0

/-- The push leaves a start held back whose mark does not say whether something of its frame was
forwarded. -/
def misplaces (limit : ℕ) (state : RawPasteEnvelopeState) (data : Bytes) : Bool :=
  match state with
  | .idle => false
  | .startPrefix bytes _ | .paste bytes _ _ =>
    if agrees bracketedPasteStart (bytes ++ data) then directlyBehindPaste (bytes ++ data)
    else misplacesRelease limit bytes data
  | .forwardedEscape continuation =>
    if agrees (bracketedPasteStart.drop 1) (continuation ++ data) then false
    else misplacesRelease limit continuation data

structure PasteLog where
  guard : RawPasteEnvelopeState := .idle
  /-- The data of every `Forward`. -/
  forwarded : List Bytes := []
  /-- What was pushed, without the envelopes that were rejected. -/
  accepted : Bytes := []
  /-- How many bytes of its frame stand in front of what is held back. -/
  lead : ℕ := 0
  /-- What is held back began where its mark is wrong. -/
  misplaced : Bool := false
  deriving DecidableEq, Repr

namespace PasteLog

/-- What is held back stays : nothing of it is forwarded. -/
def waits (log : PasteLog) (sent : ℕ) : Bool :=
  !log.guard.retained.isEmpty && sent == 0

def push (limit : ℕ) (log : PasteLog) (data : Bytes) : PasteLog :=
  let answered := answer limit log.guard data
  let sent := (forwards answered.1).flatten.length
  { guard := answered.2
    forwarded := log.forwarded ++ forwards answered.1
    accepted := withoutRejected answered.1 (log.accepted ++ data)
    lead :=
      if answered.2.retained.isEmpty then 0
      else if log.waits sent then log.lead
      else sent - log.guard.retained.length
    misplaced :=
      if answered.2.retained.isEmpty then false
      else if log.waits sent then log.misplaced
      else misplaces limit log.guard data }

/-- No oversized paste becomes complete whose start is marked wrongly, or that stands directly
behind an Escape that was forwarded as such. -/
def Recognized (limit : ℕ) (log : PasteLog) (data : Bytes) : Prop :=
  limit < (log.guard.retained ++ data).length →
    isCompleteTextBracketedPaste (log.guard.retained ++ data) = true →
      log.misplaced = false ∧ ¬ (log.lead = 0 ∧ lastForwarded log.forwarded = some [esc])

instance (limit : ℕ) (log : PasteLog) (data : Bytes) : Decidable (log.Recognized limit data) :=
  inferInstanceAs (Decidable (_ → _ → _))

end PasteLog

/-! ## One push -/

@[simp] theorem forwards_append (outcomes outcomes' : List RawPasteEnvelopeOutcome) :
    forwards (outcomes ++ outcomes') = forwards outcomes ++ forwards outcomes' :=
  List.filterMap_append

@[simp] theorem disconnects_append (outcomes outcomes' : List RawPasteEnvelopeOutcome) :
    disconnects (outcomes ++ outcomes') = (disconnects outcomes || disconnects outcomes') :=
  List.any_append

theorem withoutRejected_append (outcomes outcomes' : List RawPasteEnvelopeOutcome)
    (bytes : Bytes) : withoutRejected (outcomes ++ outcomes') bytes =
      withoutRejected outcomes' (withoutRejected outcomes bytes) :=
  List.foldl_append

variable {data u next : Bytes} {outcomes : List RawPasteEnvelopeOutcome}
  {state state' : RawPasteEnvelopeState}

/-- A scan forwards what it does not hold back, and nothing is rejected. -/
theorem Scanned.conserves {priorMixedPrefix : Bool}
    (h : Scanned priorMixedPrefix data outcomes state) :
    (forwards outcomes).flatten ++ state.retained = data ∧ disconnects outcomes = false ∧
      (∀ size, .rejectPaste size ∉ outcomes) ∧ ∀ bytes, withoutRejected outcomes bytes = bytes := by
  cases h with
  | clear _ => simp [forwards, disconnects, withoutRejected]
  | keep _ => simp [forwards, disconnects, withoutRejected]
  | split _ _ => simp [forwards, disconnects, withoutRejected]

variable {limit : ℕ} {mixedPrefix : Bool}

/-- What is left of a frame that is cut at the limit fits, with what is held back at the cut. -/
theorem Breaks.cut_fits (hlimit : 6 < limit) {state₁ : RawPasteEnvelopeState}
    (hbreaks : Breaks data state mixedPrefix) (hdata : data.length ≤ limit)
    (hlen : limit < (state.retained ++ data).length)
    (h : Scanned mixedPrefix ((state.retained ++ data).take limit) outcomes state₁) :
    (state₁.retained ++ (state.retained ++ data).drop limit).length ≤ limit ∧
      ∀ continuation, state₁ ≠ .forwardedEscape continuation := by
  have hshort := hbreaks.length_lt
  rw [List.length_append] at hlen
  have hle : ∀ i, heldFrom ((state.retained ++ data).take limit) = some i →
      state.retained.length ≤ i := fun i hi => hbreaks.le_of_heldFrom (by omega) hi
  cases h with
  | clear hnone =>
    refine ⟨?_, by simp⟩
    simp only [retained_idle, List.nil_append, List.length_drop, List.length_append]
    omega
  | keep hheld =>
    have := hle 0 hheld.heldFrom
    omega
  | @split i hi hpos =>
    have := hle i hi
    have hlt := (heldFrom_spec hi).2.1
    refine ⟨?_, fun continuation => held_ne_forwardedEscape _ _ _⟩
    rw [List.length_take, List.length_append] at hlt
    simp only [retained_held, List.length_drop, List.length_append, List.length_take]
    omega

/-- What fits is neither rejected nor refused, unless it continues an Escape. -/
theorem Pushed.accepts (h : Pushed limit state data outcomes state')
    (hstate : ∀ continuation, state ≠ .forwardedEscape continuation)
    (hlen : (state.retained ++ data).length ≤ limit) :
    disconnects outcomes = false ∧ ∀ size, .rejectPaste size ∉ outcomes := by
  have hdata : data.length ≤ limit := by
    rw [List.length_append] at hlen
    omega
  cases h with
  | wait _ | nothing | escape | keep _ _ _ | complete _ _ | extend _ _ _ =>
    simp [disconnects]
  | scan _ _ _ h | release _ _ h => exact ⟨h.conserves.2.1, h.conserves.2.2.1⟩
  | completeScan _ _ _ _ h =>
    refine ⟨by simpa [disconnects] using h.conserves.2.1, fun size hmem => ?_⟩
    rcases List.mem_cons.1 hmem with h' | h'
    · cases h'
    · exact h.conserves.2.2.1 size h'
  | rejectFrame hlt _ | refuseFrame hlt _ => exact absurd hdata (Nat.not_le.2 hlt)
  | reject hlt _ | refuse hlt _ _ =>
    rw [retained_held] at hlen
    exact absurd hlen (Nat.not_le.2 hlt)
  | releaseCut _ _ hlt _ _ => exact absurd hlen (Nat.not_le.2 hlt)
  | refuseBreak _ _ hlt => exact absurd hdata (Nat.not_le.2 hlt)
  | refuseEscape hlt => exact absurd hdata (Nat.not_le.2 hlt)
  | extended _ _ => exact absurd rfl (hstate _)

/-- A push that disconnects forwards nothing. -/
theorem Pushed.forwards_eq_nil (hlimit : 6 < limit) (h : Pushed limit state data outcomes state')
    (hdisconnects : disconnects outcomes = true) : forwards outcomes = [] := by
  cases h with
  | wait _ | nothing | escape | rejectFrame _ _ | keep _ _ _ | complete _ _ | reject _ _
  | extend _ _ _ => simp [disconnects] at hdisconnects
  | refuseFrame _ _ | refuse _ _ _ | refuseBreak _ _ _ | refuseEscape _ | extended _ _ => rfl
  | scan _ _ _ h | release _ _ h =>
    rw [h.conserves.2.1] at hdisconnects
    cases hdisconnects
  | completeScan _ _ _ _ h =>
    exact absurd (h.conserves.2.1.symm.trans hdisconnects) Bool.false_ne_true
  | releaseCut hbreaks hdata hlen h hrest =>
    obtain ⟨hfits, hstate⟩ := hbreaks.cut_fits hlimit hdata hlen h
    rw [disconnects_append, h.conserves.2.1, (hrest.accepts hstate hfits).1] at hdisconnects
    cases hdisconnects

/-- Every `Forward` fits the limit. -/
theorem Pushed.forward_le (hlimit : 6 < limit) (h : Pushed limit state data outcomes state') :
    ∀ chunk ∈ forwards outcomes, chunk.length ≤ limit := by
  have hscanned : ∀ {mixedPrefix data outcomes state'}, Scanned mixedPrefix data outcomes state' →
      data.length ≤ limit → ∀ chunk ∈ forwards outcomes, chunk.length ≤ limit := by
    intro mixedPrefix data outcomes state' h hlen chunk hmem
    have hle := congrArg List.length h.conserves.1
    have hchunk := List.Sublist.length_le (List.sublist_flatten_of_mem hmem)
    rw [List.length_append] at hle
    omega
  induction h with
  | wait _ | rejectFrame _ _ | refuseFrame _ _ | keep _ _ _ | reject _ _ | refuse _ _ _
  | refuseBreak _ _ _ | refuseEscape _ | extend _ _ _ | extended _ _ => simp [forwards]
  | nothing => simp [forwards]
  | escape =>
    intro chunk hmem
    obtain rfl : chunk = [esc] := by simpa [forwards] using hmem
    simp only [List.length_singleton]
    omega
  | scan _ _ hlen h => exact hscanned h hlen
  | complete _ hlen =>
    intro chunk hmem
    obtain rfl := by simpa [forwards] using hmem
    exact hlen
  | @completeScan bytes mixedPrefix data e outcomes state' _ _ _ hlen h =>
    intro chunk hmem
    have hmem' : chunk = (bytes ++ data).take e ∨ chunk ∈ forwards outcomes := by
      simpa [forwards] using hmem
    rcases hmem' with rfl | hmem'
    · rw [List.length_take]
      omega
    · exact hscanned h (by rw [List.length_drop]; omega) chunk hmem'
  | release _ hlen h => exact hscanned h hlen
  | releaseCut _ _ _ h _ ih =>
    intro chunk hmem
    rw [forwards_append, List.mem_append] at hmem
    rcases hmem with hmem | hmem
    · exact hscanned h (by rw [List.length_take]; omega) chunk hmem
    · exact ih chunk hmem

/-- What a push forwards and what it leaves held back are what was held back and what was pushed,
less the envelope that is rejected. -/
theorem Pushed.conserves (h : Pushed limit state data outcomes state')
    (hlive : disconnects outcomes = false) (sent : Bytes) :
    withoutRejected outcomes (sent ++ (state.retained ++ data)) =
      sent ++ ((forwards outcomes).flatten ++ state'.retained) := by
  induction h generalizing sent with
  | wait _ => simp [withoutRejected, forwards]
  | nothing => simp [withoutRejected, forwards]
  | escape => simp [withoutRejected, forwards]
  | scan _ _ _ h => rw [h.conserves.2.2.2, h.conserves.1, retained_idle, List.nil_append]
  | release _ _ h => rw [h.conserves.2.2.2, h.conserves.1]
  | rejectFrame _ _ => simp [withoutRejected, forwards]
  | keep _ _ _ | complete _ _ | extend _ _ _ => simp [withoutRejected, forwards]
  | @completeScan bytes mixedPrefix data e outcomes state' _ _ _ _ h =>
    have hrest := h.conserves
    have hforwards : forwards (.forward ((bytes ++ data).take e) :: outcomes) =
        (bytes ++ data).take e :: forwards outcomes := by simp [forwards]
    have hwithout : withoutRejected (.forward ((bytes ++ data).take e) :: outcomes)
        (sent ++ (bytes ++ data)) = sent ++ (bytes ++ data) := hrest.2.2.2 _
    rw [retained_held, hwithout, hforwards, List.flatten_cons,
      List.append_assoc _ _ state'.retained, hrest.1, List.take_append_drop]
  | reject _ _ => simp [withoutRejected, forwards]
  | @releaseCut state data mixedPrefix outcomes state₁ outcomes' state' _ _ _ h _ ih =>
    rw [disconnects_append, Bool.or_eq_false_iff] at hlive
    have hrest := h.conserves
    have ih := ih hlive.2 (sent ++ (forwards outcomes).flatten)
    rw [withoutRejected_append, hrest.2.2.2, forwards_append, List.flatten_append]
    rw [List.append_assoc sent, ← List.append_assoc _ state₁.retained, hrest.1,
      List.take_append_drop] at ih
    rw [ih]
    simp only [List.append_assoc]
  | refuseFrame _ _ | refuse _ _ _ | refuseBreak _ _ _ | refuseEscape _ | extended _ _ =>
    simp [disconnects] at hlive

/-! ## No paste is split -/

/-- Behind `stream` the data `next` do not complete a start delimiter : the stream does not end with
a part of one, or the data begin one of their own, or they mismatch the Escape the stream ends
with. -/
def Admits (stream next : Bytes) : Prop :=
  trailingBracketedPasteStartPrefix stream = none ∨ next.head? = some esc ∨
    stream.getLast? = some esc ∧ agrees bracketedPasteStart (esc :: next) = false

/-- The only part of a start delimiter that ends with an escape is that escape. -/
theorem eq_singleton_of_getLast? (hp : u <+: bracketedPasteStart) (hlen : u.length < 6)
    (hlast : u.getLast? = some esc) : u = [esc] := by
  have hall : ∀ n < 6, (bracketedPasteStart.take n).getLast? = some esc →
      bracketedPasteStart.take n = [esc] := by decide
  rw [List.prefix_iff_eq_take.1 hp] at hlast ⊢
  exact hall _ hlen hlast

theorem not_head_of_isPrefix (hne : u ≠ []) (hlen : u.length < 6)
    (hp : bracketedPasteStart <+: u ++ next ∨ u ++ next <+: bracketedPasteStart) :
    next.head? ≠ some esc := by
  intro hhead
  have hpos := List.length_pos_of_ne_nil hne
  have hnext : (u ++ next)[u.length]? = some esc := by
    rw [List.getElem?_append_right (Nat.le_refl _), Nat.sub_self, ← List.head?_eq_getElem?, hhead]
  have : bracketedPasteStart[u.length]? = some esc := by
    rcases hp with ⟨t, ht⟩ | ⟨t, ht⟩
    · rwa [← ht, List.getElem?_append_left (by rwa [length_bracketedPasteStart])] at hnext
    · rw [← ht, List.getElem?_append_left (List.getElem?_eq_some_iff.1 hnext).1, hnext]
  have := eq_zero_of_start_eq_esc hlen this
  omega

theorem agrees_of_isPrefix (hu : u = [esc])
    (hp : bracketedPasteStart <+: u ++ next ∨ u ++ next <+: bracketedPasteStart) :
    agrees bracketedPasteStart (esc :: next) = true := by
  subst hu
  exact agrees_iff.2 hp

theorem getLast?_of_suffix {stream : Bytes} (hne : u ≠ []) (h : u <:+ stream) :
    u.getLast? = stream.getLast? := by
  obtain ⟨v, rfl⟩ := h
  rw [List.getLast?_append_of_ne_nil _ hne]

/-- No start delimiter straddles the cut, also when only a part of the data is forwarded. -/
theorem Admits.not_straddles {stream : Bytes} (h : Admits stream next) (i : ℕ) :
    ¬ Straddles bracketedPasteStart stream (next.take i) := by
  rintro ⟨u, hne, hsuffix, hlen, hp⟩
  rw [length_bracketedPasteStart] at hlen
  have hp' : bracketedPasteStart <+: u ++ next :=
    hp.trans ((List.prefix_append_right_inj u).2 (List.take_prefix i next))
  have hu : u <+: bracketedPasteStart :=
    List.prefix_of_prefix_length_le (List.prefix_append u _) hp'
      (by rw [length_bracketedPasteStart]; omega)
  rcases h with h | h | ⟨hlast, h⟩
  · exact trailing_eq_none_iff.1 h u hne hlen hu hsuffix
  · exact not_head_of_isPrefix hne hlen (Or.inl hp') h
  · rw [← getLast?_of_suffix hne hsuffix] at hlast
    rw [agrees_of_isPrefix (eq_singleton_of_getLast? hu hlen hlast) (Or.inl hp')] at h
    cases h

/-- With data that do not end with a part of a start delimiter the stream does not. -/
theorem Admits.trailing {stream : Bytes} (h : Admits stream next)
    (hnext : trailingBracketedPasteStartPrefix next = none) (hne : next ≠ []) :
    trailingBracketedPasteStartPrefix (stream ++ next) = none := by
  rw [trailing_eq_none_iff]
  intro t ht hlen hp hsuffix
  rcases List.suffix_or_suffix_of_suffix hsuffix (List.suffix_append stream next) with hin | hin
  · exact trailing_eq_none_iff.1 hnext t ht hlen hp hin
  · obtain ⟨u, rfl⟩ := hin
    have hu := List.suffix_append_self_iff.1 hsuffix
    have hpos := List.length_pos_of_ne_nil hne
    rw [List.length_append] at hlen
    by_cases hnil : u = []
    · subst hnil
      exact trailing_eq_none_iff.1 hnext next hne (by omega) hp (List.suffix_refl _)
    · rcases h with h | h | ⟨hlast, h⟩
      · exact trailing_eq_none_iff.1 h u hnil (by omega) ((List.prefix_append u next).trans hp) hu
      · exact not_head_of_isPrefix hnil (by omega) (Or.inr hp) h
      · rw [← getLast?_of_suffix hnil hu] at hlast
        rw [agrees_of_isPrefix (eq_singleton_of_getLast? ((List.prefix_append u next).trans hp)
          (by omega) hlast) (Or.inr hp)] at h
        cases h

/-- The chunks hold their pastes whole, nothing is open behind them, and the guard remembers what
their end may become : behind the chunks of an idle guard no part of a start delimiter stands, and
the Escape that was forwarded as such is the last thing where it retains a continuation. -/
structure Settled (chunks : List Bytes) (state : RawPasteEnvelopeState) : Prop where
  whole : Whole chunks
  closed : unclosed bracketedPasteStart bracketedPasteEnd chunks.flatten = none
  idle : state = .idle → trailingBracketedPasteStartPrefix chunks.flatten = none
  held : state.mixedPrefix = some false →
    trailingBracketedPasteStartPrefix chunks.flatten = none ∨ lastForwarded chunks = some [esc]
  escape : ∀ continuation, state = .forwardedEscape continuation →
    lastForwarded chunks = some [esc]

variable {chunks : List Bytes}

theorem getLast?_of_lastForwarded (h : lastForwarded chunks = some [esc]) :
    chunks.flatten.getLast? = some esc := by
  induction chunks using List.reverseRecOn with
  | nil => simp [lastForwarded] at h
  | append_singleton chunks chunk ih =>
    rw [List.flatten_append, List.flatten_singleton]
    by_cases hne : chunk = []
    · subst hne
      rw [List.append_nil]
      exact ih (by simpa [lastForwarded] using h)
    · have hchunk : chunk = [esc] := by simpa [lastForwarded, hne] using h
      rw [hchunk]
      simp

/-- A chunk behind which nothing is open, and that completes no start delimiter. -/
theorem Whole.append (h : Whole chunks)
    (hclosed : unclosed bracketedPasteStart bracketedPasteEnd chunks.flatten = none) {chunk : Bytes}
    (hcut : ¬ Straddles bracketedPasteStart chunks.flatten chunk) : Whole (chunks ++ [chunk]) := by
  intro p hp
  rw [List.flatten_append, List.flatten_singleton, pastes,
    spans_append bracketedPasteStart_ne_nil hclosed hcut, List.mem_append, List.mem_map] at hp
  rcases hp with hp | ⟨q, hq, rfl⟩
  · obtain ⟨before, c, after, rfl, hbegin, hend⟩ := h p hp
    exact ⟨before, c, after ++ [chunk], by simp, hbegin, hend⟩
  · have hle := spans_le bracketedPasteStart_ne_nil hq
    exact ⟨chunks, chunk, [], rfl, Nat.le_add_right _ _, Nat.add_le_add_left hle _⟩

theorem closed_append {chunk : Bytes}
    (hclosed : unclosed bracketedPasteStart bracketedPasteEnd chunks.flatten = none)
    (hchunk : unclosed bracketedPasteStart bracketedPasteEnd chunk = none)
    (hcut : ¬ Straddles bracketedPasteStart chunks.flatten chunk) :
    unclosed bracketedPasteStart bracketedPasteEnd (chunks ++ [chunk]).flatten = none := by
  rw [List.flatten_append, List.flatten_singleton,
    unclosed_append bracketedPasteStart_ne_nil hclosed hcut, hchunk, Option.map_none]

/-- A scan of data that complete no start delimiter. -/
theorem Scanned.settled {priorMixedPrefix : Bool} (h : Scanned priorMixedPrefix data outcomes state)
    (hne : data ≠ []) (hwhole : Whole chunks)
    (hclosed : unclosed bracketedPasteStart bracketedPasteEnd chunks.flatten = none)
    (hadmits : Admits chunks.flatten data) (hprior : priorMixedPrefix = false →
      trailingBracketedPasteStartPrefix chunks.flatten = none ∨
        lastForwarded chunks = some [esc]) : Settled (chunks ++ forwards outcomes) state := by
  cases h with
  | clear hnone =>
    obtain ⟨hopen, htrailing⟩ := heldFrom_eq_none_iff.1 hnone
    have hcut := hadmits.not_straddles data.length
    rw [List.take_length] at hcut
    refine ⟨hwhole.append hclosed hcut, closed_append hclosed hopen hcut, fun _ => ?_,
      by simp, by simp⟩
    simpa [forwards] using hadmits.trailing htrailing hne
  | keep _ =>
    refine ⟨by simpa [forwards] using hwhole, by simpa [forwards] using hclosed, by simp,
      fun hmixed => ?_, by simp⟩
    rw [mixedPrefix_held, Option.some.injEq] at hmixed
    simpa [forwards] using hprior hmixed
  | @split i hi _ =>
    have hcut := hadmits.not_straddles i
    refine ⟨hwhole.append hclosed hcut,
      closed_append hclosed (heldFrom_spec hi).2.2 hcut, by simp, by simp, by simp⟩

/-- What breaks off the retained bytes completes no start delimiter either. -/
theorem Breaks.admits (hlimit : 6 < limit) (h : Breaks data state mixedPrefix)
    (hs : Settled chunks state) : Admits chunks.flatten ((state.retained ++ data).take limit) := by
  cases h with
  | @startPrefix bytes mixedPrefix hheld h =>
    right; left
    have hhead := hheld.head
    obtain ⟨b, s, rfl⟩ := List.exists_cons_of_ne_nil hheld.1
    obtain ⟨limit, rfl⟩ : ∃ n, limit = n + 1 := ⟨limit - 1, by omega⟩
    rw [retained_held]
    exact hhead
  | @continuation continuation hbegins h =>
    right; right
    refine ⟨getLast?_of_lastForwarded (hs.escape continuation rfl), ?_⟩
    rw [retained_forwardedEscape, Bool.eq_false_iff, Ne, agrees_iff]
    have hstart : bracketedPasteStart = esc :: bracketedPasteStart.drop 1 := by decide
    rw [hstart, List.cons_prefix_cons, List.cons_prefix_cons, ← and_or_left, ← agrees_iff,
      agrees_take (by rw [List.length_drop, length_bracketedPasteStart]; omega), h]
    simp

/-- The mark of what a release holds back. -/
theorem Breaks.prior (h : Breaks data state mixedPrefix) (hs : Settled chunks state)
    (hmixed : mixedPrefix = false) : trailingBracketedPasteStartPrefix chunks.flatten = none ∨
      lastForwarded chunks = some [esc] := by
  subst hmixed
  cases h with
  | startPrefix _ _ => exact hs.held (mixedPrefix_held _ _)
  | continuation _ _ => exact Or.inr (hs.escape _ rfl)

/-- A push that disconnects nobody keeps the pastes of the stream whole. What it rejects must not
leave a part of a start delimiter behind. -/
theorem Pushed.settled (hlimit : 6 < limit) (h : Pushed limit state data outcomes state')
    (hlive : disconnects outcomes = false) (hs : Settled chunks state)
    (hreject : (∃ size, .rejectPaste size ∈ outcomes) →
      trailingBracketedPasteStartPrefix chunks.flatten = none) :
    Settled (chunks ++ forwards outcomes) state' := by
  induction h generalizing chunks with
  | wait _ => simpa [forwards] using hs
  | nothing =>
    have hcut : ¬ Straddles bracketedPasteStart chunks.flatten [] :=
      @Admits.not_straddles [] _ (Or.inl (hs.idle rfl)) 0
    exact ⟨hs.whole.append hs.closed hcut, closed_append hs.closed (unclosed_of_none (by decide))
      hcut, fun _ => by simpa [forwards] using hs.idle rfl, by simp, by simp⟩
  | escape =>
    have hcut : ¬ Straddles bracketedPasteStart chunks.flatten [esc] :=
      @Admits.not_straddles [esc] _ (Or.inl (hs.idle rfl)) 1
    exact ⟨hs.whole.append hs.closed hcut, closed_append hs.closed (unclosed_of_none (by decide))
      hcut, by simp, by simp, fun _ _ => by simp [lastForwarded, forwards]⟩
  | scan hne _ _ h =>
    exact h.settled hne hs.whole hs.closed (Or.inl (hs.idle rfl)) fun _ => Or.inl (hs.idle rfl)
  | rejectFrame _ _ =>
    have hidle := hs.idle rfl
    exact ⟨by simpa [forwards] using hs.whole, by simpa [forwards] using hs.closed,
      fun _ => by simpa [forwards] using hidle, by simp, by simp⟩
  | keep _ _ _ =>
    exact ⟨by simpa [forwards] using hs.whole, by simpa [forwards] using hs.closed, by simp,
      fun hmixed => by simpa [forwards] using hs.held (by simpa using hmixed), by simp⟩
  | @complete bytes mixedPrefix data he hlen =>
    obtain ⟨hstart, hclosed, htrailing⟩ := pasteEnvelope_take he
    rw [List.take_length] at hstart hclosed htrailing
    have hadmits : Admits chunks.flatten (bytes ++ data) := by
      obtain ⟨t, ht⟩ := hstart
      exact Or.inr (Or.inl (by rw [← ht]; rfl))
    have hcut := hadmits.not_straddles (bytes ++ data).length
    rw [List.take_length] at hcut
    refine ⟨hs.whole.append hs.closed hcut, closed_append hs.closed hclosed hcut, fun _ => ?_,
      by simp, by simp⟩
    have hne : bytes ++ data ≠ [] := by
      have := (pasteEnvelope_le he).1
      rw [← List.length_pos_iff]
      omega
    simpa [forwards] using hadmits.trailing htrailing hne
  | @completeScan bytes mixedPrefix data e outcomes state' _ he hlt hlen h =>
    obtain ⟨hstart, hclosed, htrailing⟩ := pasteEnvelope_take he
    have hadmits : Admits chunks.flatten ((bytes ++ data).take e) := by
      obtain ⟨t, ht⟩ := hstart
      exact Or.inr (Or.inl (by rw [← ht]; rfl))
    have hcut := hadmits.not_straddles e
    rw [List.take_take, Nat.min_self] at hcut
    have hne : (bytes ++ data).take e ≠ [] := by
      have := (pasteEnvelope_le he).1
      rw [← List.length_pos_iff, List.length_take]
      omega
    have hidle : trailingBracketedPasteStartPrefix
        (chunks ++ [(bytes ++ data).take e]).flatten = none := by
      rw [List.flatten_append, List.flatten_singleton]
      exact hadmits.trailing htrailing hne
    have hrest := h.settled (by rw [← List.length_pos_iff, List.length_drop]; omega)
      (hs.whole.append hs.closed hcut) (closed_append hs.closed hclosed hcut) (Or.inl hidle)
      fun _ => Or.inl hidle
    rw [List.append_assoc] at hrest
    exact hrest
  | reject _ _ =>
    have hidle := hreject ⟨_, List.mem_singleton_self _⟩
    exact ⟨by simpa [forwards] using hs.whole, by simpa [forwards] using hs.closed,
      fun _ => by simpa [forwards] using hidle, by simp, by simp⟩
  | @release state data mixedPrefix outcomes state' hbreaks hlen h =>
    have hadmits := hbreaks.admits hlimit hs
    rw [List.take_of_length_le hlen] at hadmits
    exact h.settled hbreaks.ne_nil hs.whole hs.closed hadmits (hbreaks.prior hs)
  | @releaseCut state data mixedPrefix outcomes state₁ outcomes' state' hbreaks hdata hlen h hrest
      ih =>
    rw [disconnects_append, Bool.or_eq_false_iff] at hlive
    have hne : (state.retained ++ data).take limit ≠ [] := by
      rw [← List.length_pos_iff, List.length_take]
      omega
    have hfirst := h.settled hne hs.whole hs.closed (hbreaks.admits hlimit hs) (hbreaks.prior hs)
    obtain ⟨hfits, hstate⟩ := hbreaks.cut_fits hlimit hdata hlen h
    rw [forwards_append, ← List.append_assoc]
    exact ih hlive.2 hfirst fun ⟨size, hmem⟩ =>
      absurd hmem ((hrest.accepts hstate hfits).2 size)
  | extend _ _ _ =>
    exact ⟨by simpa [forwards] using hs.whole, by simpa [forwards] using hs.closed, by simp,
      by simp, fun _ _ => by simpa [forwards] using hs.escape _ rfl⟩
  | refuseFrame _ _ | refuse _ _ _ | refuseBreak _ _ _ | refuseEscape _ | extended _ _ =>
    simp [disconnects] at hlive

/-! ## Rejections -/

theorem isCompleteTextBracketedPaste_iff_pastes {bytes : Bytes} :
    isCompleteTextBracketedPaste bytes = true ↔ pastes bytes = [(0, bytes.length)] ∧
      (decodeUtf8 ((bytes.take (bytes.length - 6)).drop 6)).isSome = true := by
  rw [isCompleteTextBracketedPaste_iff, pasteEnvelope_eq_some_iff, pastes]
  refine and_congr_left fun _ => ⟨?_, fun h => ?_⟩
  · rintro ⟨hp, n, hn, hlen⟩
    have hend : findSubsequence bracketedPasteEnd
        (bytes.drop (0 + bracketedPasteStart.length)) = some n := by
      rwa [Nat.zero_add, length_bracketedPasteStart]
    rw [spans_of_closed bracketedPasteStart_ne_nil (findSubsequence_of_isPrefix hp) hend,
      List.drop_eq_nil_of_le, spans_of_none (by decide), List.map_nil]
    · simp only [length_bracketedPasteStart, length_bracketedPasteEnd, List.cons.injEq,
        Prod.mk.injEq, true_and, and_true]
      omega
    · rw [length_bracketedPasteStart, length_bracketedPasteEnd]
      omega
  · rcases hi : findSubsequence bracketedPasteStart bytes with _ | i
    · simp [spans_of_none hi] at h
    · rcases hj : findSubsequence bracketedPasteEnd
        (bytes.drop (i + bracketedPasteStart.length)) with _ | j
      · simp [spans_of_open hi hj] at h
      · rw [spans_of_closed bracketedPasteStart_ne_nil hi hj] at h
        simp only [length_bracketedPasteStart, length_bracketedPasteEnd, List.cons.injEq,
          Prod.mk.injEq] at h
        obtain ⟨⟨rfl, hlen⟩, -⟩ := h
        refine ⟨isPrefix_findSubsequence hi, j, ?_, by omega⟩
        rwa [Nat.zero_add, length_bracketedPasteStart] at hj

theorem oversizedPaste_iff {bytes : Bytes} : OversizedPaste limit bytes ↔
    limit < bytes.length ∧ isCompleteTextBracketedPaste bytes = true := by
  rw [OversizedPaste, isCompleteTextBracketedPaste_iff_pastes]

/-- What is broken off is no paste. -/
theorem Breaks.not_oversizedPaste (hbreaks : Breaks data state mixedPrefix) :
    ¬ (OversizedPaste limit (state.retained ++ data) ∧
      (state = .idle ∨ state.mixedPrefix = some false)) := by
  rintro ⟨hover, hstate⟩
  cases hbreaks with
  | @startPrefix bytes mixedPrefix _ hagrees =>
    rw [oversizedPaste_iff, isCompleteTextBracketedPaste_iff, pasteEnvelope_eq_some_iff,
      retained_held] at hover
    rw [agrees_iff.2 (Or.inl hover.2.1.1)] at hagrees
    cases hagrees
  | continuation _ _ => simp at hstate

theorem WellFormed.retained_le (hlimit : 6 < limit) (h : WellFormed limit state) :
    state.retained.length ≤ limit := by
  cases h with
  | idle => simp
  | held _ hlen => rwa [retained_held]
  | forwardedEscape _ hlen =>
    rw [retained_forwardedEscape]
    omega

/-- A push rejects an oversized paste unless the guard has marked its beginning or has forwarded an
Escape in front of it. -/
theorem Pushed.rejects_iff (hlimit : 6 < limit) (hwell : WellFormed limit state)
    (h : Pushed limit state data outcomes state') : (∃ size, .rejectPaste size ∈ outcomes) ↔
      OversizedPaste limit (state.retained ++ data) ∧
        (state = .idle ∨ state.mixedPrefix = some false) := by
  have hfit : (state.retained ++ data).length ≤ limit → (∀ size, .rejectPaste size ∉ outcomes) →
      ((∃ size, .rejectPaste size ∈ outcomes) ↔
        OversizedPaste limit (state.retained ++ data) ∧
          (state = .idle ∨ state.mixedPrefix = some false)) := fun hle hnone =>
    iff_of_false (fun ⟨size, hmem⟩ => hnone size hmem)
      fun hover => absurd hover.1.1 (Nat.not_lt.2 hle)
  cases h with
  | wait _ => exact hfit (by rw [List.append_nil]; exact hwell.retained_le hlimit) (by simp)
  | nothing => exact hfit (by simp) (by simp)
  | escape =>
    refine hfit ?_ (by simp)
    simp only [retained_idle, List.nil_append, List.length_singleton]
    omega
  | scan _ _ hlen h => exact hfit (by simpa using hlen) h.conserves.2.2.1
  | rejectFrame hlen h =>
    exact iff_of_true ⟨_, List.mem_singleton_self _⟩ ⟨oversizedPaste_iff.2 ⟨hlen, h⟩, Or.inl rfl⟩
  | refuseFrame hlen h =>
    refine iff_of_false (by simp) fun hover => ?_
    rw [retained_idle, List.nil_append, oversizedPaste_iff, h] at hover
    simp at hover
  | keep _ _ hlen => exact hfit (by rwa [retained_held]) (by simp)
  | complete _ hlen => exact hfit (by rwa [retained_held]) (by simp)
  | completeScan _ _ _ hlen h =>
    refine hfit (by rwa [retained_held]) fun size hmem => ?_
    rcases List.mem_cons.1 hmem with h' | h'
    · cases h'
    · exact h.conserves.2.2.1 size h'
  | reject hlen h =>
    refine iff_of_true ⟨_, List.mem_singleton_self _⟩ ⟨?_, Or.inr (mixedPrefix_held _ _)⟩
    rw [retained_held]
    exact oversizedPaste_iff.2 ⟨hlen, h⟩
  | refuse hlen _ h =>
    refine iff_of_false (by simp) fun hover => h ?_
    rw [retained_held, oversizedPaste_iff, mixedPrefix_held] at hover
    exact ⟨by simpa using hover.2, hover.1.2⟩
  | release _ hlen h => exact hfit hlen h.conserves.2.2.1
  | releaseCut hbreaks hdata hlen h hrest =>
    obtain ⟨hfits, hstate⟩ := hbreaks.cut_fits hlimit hdata hlen h
    refine iff_of_false (fun ⟨size, hmem⟩ => ?_) hbreaks.not_oversizedPaste
    rcases List.mem_append.1 hmem with hmem | hmem
    · exact h.conserves.2.2.1 size hmem
    · exact (hrest.accepts hstate hfits).2 size hmem
  | refuseBreak hbreaks _ _ => exact iff_of_false (by simp) hbreaks.not_oversizedPaste
  | refuseEscape _ => exact iff_of_false (by simp) (by simp)
  | extend _ _ _ => exact iff_of_false (by simp) (by simp)
  | extended _ _ => exact iff_of_false (by simp) (by simp)

end Zynk.Server
