import Mathlib.Data.List.Induction
import Zynk.Lib.Utf8
import Zynk.Pane.Xtgettcap

/-!
# Capability queries are answered

A terminal stream is made of pieces : text, CSI sequences and control strings. Fed in any chunks,
the tracker answers the queries of the stream, in their order, as long as it stays in step : no
byte of a character of the text is one of the 8-bit introducers, and no byte of a character of a
string is the 8-bit terminator (`queries_answered`). Such a byte is taken for what it is not
(`staysIn_ground_iff`), and a query behind it is lost (`query_lost`).
-/

namespace Zynk.Pane

open Text

/-! ## What the tracker reads -/

/-- A byte read in a state : the next state and body, and the responses. -/
def nextOf (state : XtgettcapTrackerState) (body : Bytes) (byte : UInt8) :
    XtgettcapTrackerState × Bytes × List Bytes :=
  let t := (⟨state, body, []⟩ : XtgettcapQueryTracker).observeByte 0 byte
  (t.state, t.body, t.pending.map (·.bytes))

def readAll (state : XtgettcapTrackerState) (body : Bytes) :
    Bytes → XtgettcapTrackerState × Bytes × List Bytes
  | [] => (state, body, [])
  | byte :: bytes =>
    let next := nextOf state body byte
    let rest := readAll next.1 next.2.1 bytes
    (rest.1, rest.2.1, next.2.2 ++ rest.2.2)

theorem readAll_append (state : XtgettcapTrackerState) (body a b : Bytes) :
    readAll state body (a ++ b) =
      ((readAll (readAll state body a).1 (readAll state body a).2.1 b).1,
        (readAll (readAll state body a).1 (readAll state body a).2.1 b).2.1,
        (readAll state body a).2.2 ++
          (readAll (readAll state body a).1 (readAll state body a).2.1 b).2.2) := by
  induction a generalizing state body with
  | nil => rfl
  | cons byte a ih =>
    rw [List.cons_append, readAll, ih, readAll]
    simp only [List.append_assoc]

/-- The responses do not depend on the offsets, nor on those that are pending. -/
theorem observeByte_eq (t : XtgettcapQueryTracker) (index : ℕ) (byte : UInt8) :
    (t.observeByte index byte).state = (nextOf t.state t.body byte).1 ∧
      (t.observeByte index byte).body = (nextOf t.state t.body byte).2.1 ∧
      (t.observeByte index byte).pending.map (·.bytes) =
        t.pending.map (·.bytes) ++ (nextOf t.state t.body byte).2.2 := by
  obtain ⟨state, body, pending⟩ := t
  simp only [nextOf, XtgettcapQueryTracker.observeByte]
  cases state <;>
    simp only [XtgettcapQueryTracker.matchByte, XtgettcapQueryTracker.finalize] <;>
    split_ifs <;> simp [Function.comp_def]

theorem observeFrom_eq (t : XtgettcapQueryTracker) (index : ℕ) (bytes : Bytes) :
    (t.observeFrom index bytes).state = (readAll t.state t.body bytes).1 ∧
      (t.observeFrom index bytes).body = (readAll t.state t.body bytes).2.1 ∧
      (t.observeFrom index bytes).pending.map (·.bytes) =
        t.pending.map (·.bytes) ++ (readAll t.state t.body bytes).2.2 := by
  induction bytes generalizing t index with
  | nil => simp [XtgettcapQueryTracker.observeFrom, readAll]
  | cons byte bytes ih =>
    obtain ⟨hstate, hbody, hpending⟩ := observeByte_eq t index byte
    obtain ⟨hstate', hbody', hpending'⟩ := ih (t.observeByte index byte) (index + 1)
    rw [hstate, hbody] at hstate' hbody' hpending'
    rw [XtgettcapQueryTracker.observeFrom, readAll]
    refine ⟨hstate', hbody', ?_⟩
    rw [hpending', hpending, List.append_assoc]

/-- Chunks and drains do not matter. -/
theorem calls_eq (calls : List XtgettcapCall) :
    let fed := calls.flatMap XtgettcapCall.fed
    (XtgettcapRun.calls calls).tracker.state = (readAll .ground [] fed).1 ∧
      (XtgettcapRun.calls calls).tracker.body = (readAll .ground [] fed).2.1 ∧
      (XtgettcapRun.calls calls).drained ++
        (XtgettcapRun.calls calls).tracker.pending.map (·.bytes) =
          (readAll .ground [] fed).2.2 := by
  induction calls using List.reverseRecOn with
  | nil => exact ⟨rfl, rfl, rfl⟩
  | append_singleton calls call ih =>
    obtain ⟨hstate, hbody, hresponses⟩ := ih
    have hstep : XtgettcapRun.calls (calls ++ [call]) = (XtgettcapRun.calls calls).call call := by
      simp [XtgettcapRun.calls]
    have hfed : (calls ++ [call]).flatMap XtgettcapCall.fed =
        calls.flatMap XtgettcapCall.fed ++ call.fed := by
      simp
    simp only [hstep, hfed, readAll_append]
    cases call with
    | observe bytes =>
      obtain ⟨hstate', hbody', hpending'⟩ :=
        observeFrom_eq (XtgettcapRun.calls calls).tracker 0 bytes
      rw [hstate, hbody] at hstate' hbody' hpending'
      refine ⟨hstate', hbody', ?_⟩
      simp only [XtgettcapRun.call, XtgettcapQueryTracker.observe, hpending', XtgettcapCall.fed]
      rw [← List.append_assoc, hresponses]
    | drain =>
      refine ⟨hstate, hbody, ?_⟩
      simp only [XtgettcapRun.call, XtgettcapQueryTracker.drainPending, XtgettcapCall.fed,
        List.map_nil, List.append_nil, hresponses, readAll]

/-! ## The pieces of a stream -/

inductive StringKind where
  | osc
  | dcs
  | apc
  | pm
  | sos
deriving DecidableEq

/-- The byte behind the escape. -/
def StringKind.intro : StringKind → UInt8
  | .osc => 0x5d
  | .dcs => 0x50
  | .apc => 0x5f
  | .pm => 0x5e
  | .sos => 0x58

inductive Piece where
  | text (s : Text)
  | csi (params : Bytes) (final : UInt8)
  | string (kind : StringKind) (body : Text) (bel : Bool)

def Piece.encode : Piece → Bytes
  | .text s => encodeUtf8 s
  | .csi params final => [0x1b, 0x5b] ++ params ++ [final]
  | .string kind body bel =>
    [0x1b, kind.intro] ++ encodeUtf8 body ++ if bel then [0x07] else [0x1b, 0x5c]

/-- Text without control characters, a complete CSI sequence, or a string whose body does not end
before its terminator does it. -/
def Piece.WellFormed : Piece → Prop
  | .text s => ∀ c ∈ s, isControl c = false
  | .csi params final =>
    (∀ b ∈ params, 0x20 ≤ b.toNat ∧ b.toNat ≤ 0x3f) ∧ 0x40 ≤ final.toNat ∧ final.toNat ≤ 0x7e
  | .string kind body bel =>
    '\x1b' ∉ body ∧ (kind = .osc → '\x07' ∉ body) ∧ (bel = true → kind = .osc) ∧
      (encodeUtf8 body).length ≤ 1024

/-- The bytes that a text can have in common with the 8-bit introducers. -/
def isIntroducer (byte : UInt8) : Bool :=
  byte = 0x90 ∨ byte = 0x98 ∨ byte = 0x9d ∨ byte = 0x9e ∨ byte = 0x9f

/-- No byte of the piece is one that the tracker takes for an 8-bit control. -/
def Piece.Clean : Piece → Prop
  | .text s => ∀ b ∈ encodeUtf8 s, isIntroducer b = false
  | .csi _ _ => True
  | .string _ body _ => 0x9c ∉ encodeUtf8 body

/-- The responses to the capabilities of an `ESC P + q` string. -/
def Piece.responses : Piece → List Bytes
  | .string .dcs body _ =>
    if [0x2b, 0x71].isPrefixOf (encodeUtf8 body) then
      (splitOn 0x3b ((encodeUtf8 body).drop 2)).filterMap xtgettcapResponse
    else []
  | _ => []

/-! ## Bytes of characters -/

theorem not_mem_encodeUtf8 {s : Text} {c : Char} (hlt : c.toNat < 128) (hc : c ∉ s) :
    UInt8.ofNat c.toNat ∉ encodeUtf8 s := by
  intro hb
  have htoNat : (UInt8.ofNat c.toNat).toNat = c.toNat := toNat_ofNat_of_lt (by omega)
  obtain ⟨c', hc', heq⟩ := mem_of_mem_encodeUtf8 hb (by omega)
  obtain rfl : c' = c := Char.toNat_inj.1 (heq.trans htoNat)
  exact hc hc'

/-! ## Reading a piece -/

variable {bytes : Bytes}

theorem readAll_of_stay {state : XtgettcapTrackerState} {body : Bytes}
    (h : ∀ b ∈ bytes, nextOf state body b = (state, body, [])) :
    readAll state body bytes = (state, body, []) := by
  induction bytes with
  | nil => rfl
  | cons b bytes ih =>
    rw [readAll, h b List.mem_cons_self]
    simp only [ih fun b' hb' => h b' (List.mem_cons_of_mem b hb'), List.append_nil]

theorem nextOf_ground {b : UInt8} (hescape : b ≠ 0x1b) (hb : isIntroducer b = false) :
    nextOf .ground [] b = (.ground, [], []) := by
  simp only [isIntroducer, decide_eq_false_iff_not, not_or] at hb
  obtain ⟨h₁, h₂, h₃, h₄, h₅⟩ := hb
  simp [nextOf, XtgettcapQueryTracker.observeByte, XtgettcapQueryTracker.matchByte, hescape, h₁,
    h₂, h₃, h₄, h₅]

/-- The bytes of a string that the tracker skips. -/
theorem nextOf_ignoreString {b : UInt8} (hescape : b ≠ 0x1b) (hst : b ≠ 0x9c) :
    nextOf .ignoreString [] b = (.ignoreString, [], []) := by
  simp [nextOf, XtgettcapQueryTracker.observeByte, XtgettcapQueryTracker.matchByte, hescape, hst]

theorem nextOf_ignoreOsc {b : UInt8} (hescape : b ≠ 0x1b) (hst : b ≠ 0x9c) (hbel : b ≠ 0x07) :
    nextOf .ignoreOsc [] b = (.ignoreOsc, [], []) := by
  simp [nextOf, XtgettcapQueryTracker.observeByte, XtgettcapQueryTracker.matchByte, hescape, hst,
    hbel]

theorem readAll_cons (state : XtgettcapTrackerState) (body : Bytes) (b : UInt8) (bytes : Bytes) :
    readAll state body (b :: bytes) =
      ((readAll (nextOf state body b).1 (nextOf state body b).2.1 bytes).1,
        (readAll (nextOf state body b).1 (nextOf state body b).2.1 bytes).2.1,
        (nextOf state body b).2.2 ++
          (readAll (nextOf state body b).1 (nextOf state body b).2.1 bytes).2.2) :=
  rfl

theorem readAll_ignoreString (hescape : 0x1b ∉ bytes) (hst : 0x9c ∉ bytes) :
    readAll .ignoreString [] (bytes ++ [0x1b, 0x5c]) = (.ground, [], []) := by
  have hstay : readAll .ignoreString [] bytes = (.ignoreString, [], []) :=
    readAll_of_stay fun b hb =>
      nextOf_ignoreString (fun h => hescape (h ▸ hb)) (fun h => hst (h ▸ hb))
  rw [readAll_append, hstay]
  rfl

theorem readAll_ignoreOsc (hescape : 0x1b ∉ bytes) (hst : 0x9c ∉ bytes) (hbel : 0x07 ∉ bytes)
    (bel : Bool) : readAll .ignoreOsc [] (bytes ++ if bel then [0x07] else [0x1b, 0x5c]) =
      (.ground, [], []) := by
  have hstay : readAll .ignoreOsc [] bytes = (.ignoreOsc, [], []) :=
    readAll_of_stay fun b hb => nextOf_ignoreOsc (fun h => hescape (h ▸ hb))
      (fun h => hst (h ▸ hb)) (fun h => hbel (h ▸ hb))
  rw [readAll_append, hstay]
  cases bel <;> rfl

/-- The body of a query is collected while it is short enough. -/
theorem readAll_dcsBody {body : Bytes} (hescape : 0x1b ∉ bytes) (hst : 0x9c ∉ bytes)
    (hlen : body.length + bytes.length ≤ 1024) :
    readAll .dcsBody body bytes = (.dcsBody, body ++ bytes, []) := by
  induction bytes generalizing body with
  | nil => rw [readAll, List.append_nil]
  | cons b bytes ih =>
    rw [List.mem_cons, not_or] at hescape hst
    rw [List.length_cons] at hlen
    have hnext : nextOf .dcsBody body b = (.dcsBody, body ++ [b], []) := by
      simp only [nextOf, XtgettcapQueryTracker.observeByte, XtgettcapQueryTracker.matchByte,
        if_neg (Ne.symm hescape.1), if_neg (Ne.symm hst.1)]
      rw [if_neg (by simp only [List.length_append, List.length_singleton]; omega)]
      rfl
    have hrest := @ih (body ++ [b]) hescape.2 hst.2 (by
      simp only [List.length_append, List.length_singleton]
      omega)
    rw [readAll_cons, hnext]
    simp only [hrest, List.append_assoc, List.singleton_append, List.append_nil]

theorem readAll_finalize {body : Bytes} (hlen : body.length ≤ 1024) :
    readAll .dcsBody body [0x1b, 0x5c] =
      (.ground, [], (splitOn 0x3b body).filterMap xtgettcapResponse) := by
  have hescape : nextOf .dcsBody body 0x1b = (.dcsEscape, body, []) := by
    simp [nextOf, XtgettcapQueryTracker.observeByte, XtgettcapQueryTracker.matchByte,
      Nat.not_lt.2 hlen]
  have hfinal : nextOf .dcsEscape body 0x5c =
      (.ground, [], (splitOn 0x3b body).filterMap xtgettcapResponse) := by
    simp [nextOf, XtgettcapQueryTracker.observeByte, XtgettcapQueryTracker.matchByte,
      XtgettcapQueryTracker.finalize, Function.comp_def]
  rw [readAll_cons, hescape, readAll_cons, hfinal]
  simp [readAll]

/-- A device control string, a query or not. -/
theorem readAll_dcs (hescape : 0x1b ∉ bytes) (hst : 0x9c ∉ bytes) (hlen : bytes.length ≤ 1024) :
    readAll .dcsIntro [] (bytes ++ [0x1b, 0x5c]) =
      (.ground, [], if [0x2b, 0x71].isPrefixOf bytes then
        (splitOn 0x3b (bytes.drop 2)).filterMap xtgettcapResponse else []) := by
  rcases bytes with _ | ⟨b, bytes⟩
  · rfl
  rw [List.mem_cons, not_or] at hescape hst
  by_cases hplus : b = 0x2b
  · subst hplus
    rcases bytes with _ | ⟨b, bytes⟩
    · rfl
    rw [List.mem_cons, not_or] at hescape hst
    have hintro : nextOf .dcsIntro [] 0x2b = (.dcsIntroPlus, [], []) := rfl
    by_cases hq : b = 0x71
    · subst hq
      have hbody : nextOf .dcsIntroPlus [] 0x71 = (.dcsBody, [], []) := rfl
      have hshort : ([] : Bytes).length + bytes.length ≤ 1024 := by
        simp only [List.length_cons] at hlen
        simp only [List.length_nil]
        omega
      have hcollect := readAll_dcsBody hescape.2.2 hst.2.2 hshort
      rw [List.nil_append] at hcollect
      have hfinal := readAll_finalize (show bytes.length ≤ 1024 by simpa using hshort)
      rw [List.cons_append, List.cons_append, readAll_cons, hintro, readAll_cons, hbody,
        readAll_append, hcollect, hfinal]
      simp
    · have hignore : nextOf .dcsIntroPlus [] b = (.ignoreString, [], []) := by
        simp [nextOf, XtgettcapQueryTracker.observeByte, XtgettcapQueryTracker.matchByte, hq,
          Ne.symm hescape.2.1, Ne.symm hst.2.1]
      have hrest := readAll_ignoreString hescape.2.2 hst.2.2
      rw [List.cons_append, List.cons_append, readAll_cons, hintro, readAll_cons, hignore, hrest]
      simp [Ne.symm hq]
  · have hignore : nextOf .dcsIntro [] b = (.ignoreString, [], []) := by
      simp [nextOf, XtgettcapQueryTracker.observeByte, XtgettcapQueryTracker.matchByte, hplus,
        Ne.symm hescape.1, Ne.symm hst.1]
    have hrest := readAll_ignoreString hescape.2 hst.2
    rw [List.cons_append, readAll_cons, hignore, hrest]
    simp [Ne.symm hplus]

/-- The step : a clean piece leaves the tracker in ground, with its responses. -/
theorem readAll_piece {piece : Piece} (hpiece : piece.WellFormed) (hclean : piece.Clean) :
    readAll .ground [] piece.encode = (.ground, [], piece.responses) := by
  cases piece with
  | text s =>
    refine readAll_of_stay fun b hb => nextOf_ground ?_ (hclean b hb)
    rintro rfl
    obtain ⟨c, hc, heq⟩ := mem_of_mem_encodeUtf8 hb (by decide)
    have hcontrol := hpiece c hc
    simp [isControl, heq] at hcontrol
  | csi params final =>
    obtain ⟨hparams, hfinal⟩ := hpiece
    have hplain {b : UInt8} (hb : 0x20 ≤ b.toNat ∧ b.toNat ≤ 0x7e) :
        nextOf .ground [] b = (.ground, [], []) := by
      refine nextOf_ground ?_ ?_
      · rintro rfl
        exact absurd hb.1 (by decide)
      · simp only [isIntroducer, decide_eq_false_iff_not]
        rintro (rfl | rfl | rfl | rfl | rfl) <;> exact absurd hb.2 (by decide)
    have hbytes : readAll .ground [] (params ++ [final]) = (.ground, [], []) := by
      refine readAll_of_stay fun b hb => hplain ?_
      rcases List.mem_append.1 hb with hb | hb
      · have := hparams b hb
        omega
      · rw [List.mem_singleton.1 hb]
        omega
    have hencode : (Piece.csi params final).encode = 0x1b :: 0x5b :: (params ++ [final]) := rfl
    have hescape : nextOf .ground [] 0x1b = (.escape, [], []) := rfl
    have hbracket : nextOf .escape [] 0x5b = (.ground, [], []) := rfl
    rw [hencode, readAll_cons, hescape, readAll_cons, hbracket, hbytes]
    rfl
  | string kind body bel =>
    obtain ⟨hescape, hbel, hkind, hlen⟩ := hpiece
    have hescape : 0x1b ∉ encodeUtf8 body := not_mem_encodeUtf8 (by decide) hescape
    have hintro : nextOf .ground [] 0x1b = (.escape, [], []) := rfl
    have hencode : (Piece.string kind body bel).encode =
        0x1b :: kind.intro :: (encodeUtf8 body ++ if bel then [0x07] else [0x1b, 0x5c]) := rfl
    have hst (hkind' : kind ≠ .osc) :
        (if bel = true then [0x07] else [0x1b, 0x5c] : Bytes) = [0x1b, 0x5c] :=
      if_neg fun h => hkind' (hkind h)
    rw [hencode, readAll_cons, hintro, readAll_cons]
    cases kind with
    | osc =>
      have hosc : nextOf .escape [] StringKind.osc.intro = (.ignoreOsc, [], []) := rfl
      have hbel : 0x07 ∉ encodeUtf8 body := not_mem_encodeUtf8 (by decide) (hbel rfl)
      rw [hosc, readAll_ignoreOsc hescape hclean hbel bel]
      rfl
    | dcs =>
      have hdcs : nextOf .escape [] StringKind.dcs.intro = (.dcsIntro, [], []) := rfl
      rw [hst (by decide), hdcs, readAll_dcs hescape hclean hlen]
      simp [Piece.responses]
    | apc =>
      have hapc : nextOf .escape [] StringKind.apc.intro = (.ignoreString, [], []) := rfl
      rw [hst (by decide), hapc, readAll_ignoreString hescape hclean]
      rfl
    | pm =>
      have hpm : nextOf .escape [] StringKind.pm.intro = (.ignoreString, [], []) := rfl
      rw [hst (by decide), hpm, readAll_ignoreString hescape hclean]
      rfl
    | sos =>
      have hsos : nextOf .escape [] StringKind.sos.intro = (.ignoreString, [], []) := rfl
      rw [hst (by decide), hsos, readAll_ignoreString hescape hclean]
      rfl

/-- The run : so does a stream of clean pieces. -/
theorem readAll_stream {stream : List Piece} (hstream : ∀ piece ∈ stream, piece.WellFormed)
    (hclean : ∀ piece ∈ stream, piece.Clean) :
    readAll .ground [] (stream.flatMap Piece.encode) =
      (.ground, [], stream.flatMap Piece.responses) := by
  induction stream with
  | nil => rfl
  | cons piece stream ih =>
    have hpiece := readAll_piece (hstream piece List.mem_cons_self)
      (hclean piece List.mem_cons_self)
    have hrest := ih (fun p hp => hstream p (List.mem_cons_of_mem piece hp))
      fun p hp => hclean p (List.mem_cons_of_mem piece hp)
    rw [List.flatMap_cons, readAll_append, hpiece, hrest, List.flatMap_cons]

/-- In any chunks the queries of a stream of clean pieces are answered, and nothing else is. -/
theorem queries_answered {stream : List Piece} (hstream : ∀ piece ∈ stream, piece.WellFormed)
    (hclean : ∀ piece ∈ stream, piece.Clean) {calls : List XtgettcapCall}
    (hfed : calls.flatMap XtgettcapCall.fed = stream.flatMap Piece.encode) :
    (XtgettcapRun.calls (calls ++ [.drain])).drained = stream.flatMap Piece.responses := by
  have hcalls : (XtgettcapRun.calls (calls ++ [.drain])).drained =
      (XtgettcapRun.calls calls).drained ++
        (XtgettcapRun.calls calls).tracker.pending.map (·.bytes) := by
    simp [XtgettcapRun.calls, XtgettcapRun.call, XtgettcapQueryTracker.drainPending]
  obtain ⟨-, -, hresponses⟩ := calls_eq calls
  rw [hcalls, hresponses, hfed, readAll_stream hstream hclean]

/-- A title, a colour and a query, in two chunks. -/
theorem queries_answered_title :
    (XtgettcapRun.calls
      ([.observe (ascii "\x1b]0;ok\x07\x1b[1mhi\x1bP+q54"), .observe (ascii "63\x1b\\")] ++
        [.drain])).drained =
      [Piece.string .osc "0;ok".toList true, .csi [0x31] 0x6d, .text "hi".toList,
        .string .dcs "+q5463".toList false].flatMap Piece.responses := by
  refine queries_answered ?_ ?_ (by decide)
  · simp only [List.forall_mem_cons, Piece.WellFormed]
    refine ⟨by decide, ⟨by simp, by decide, by decide⟩, by simp; decide, by decide, by simp⟩
  · simp only [List.forall_mem_cons, Piece.Clean]
    have hhi : (encodeUtf8 "hi".toList).all (fun b => !isIntroducer b) = true := by decide
    refine ⟨by decide, trivial, ?_, by decide, by simp⟩
    simpa using hhi

/-! ## Queries that are lost -/

/-- The second byte of a Cyrillic capital A is the 8-bit introducer of a query. -/
theorem query_lost_cyrillic :
    (∀ piece ∈ [Piece.text ['А'], Piece.string .dcs "+q5463".toList false], piece.WellFormed) ∧
      [XtgettcapCall.observe (encodeUtf8 "А\x1bP+q5463\x1b\\".toList)].flatMap
          XtgettcapCall.fed =
        [Piece.text ['А'], Piece.string .dcs "+q5463".toList false].flatMap Piece.encode ∧
      (XtgettcapRun.calls
        ([.observe (encodeUtf8 "А\x1bP+q5463\x1b\\".toList)] ++ [.drain])).drained = [] ∧
      [Piece.text ['А'], Piece.string .dcs "+q5463".toList false].flatMap Piece.responses =
        [ascii "\x1bP1+r5463\x1b\\"] := by
  refine ⟨?_, by decide, by decide, by decide⟩
  simp only [List.forall_mem_cons, Piece.WellFormed]
  exact ⟨by simp; decide, by decide, by simp⟩

end Zynk.Pane
