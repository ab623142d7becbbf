import Zynk.Input.Flush
import Zynk.Lib.Utf8

/-!
# Malformed bytes

`extractOneEvent` gives no event for bytes that are not all there and for bytes that are not valid.
So malformed bytes stay in the buffer, and all that comes behind them too, until a flush drops the
buffer as a whole (`Refused.flushTimeout`). What is typed behind them is given out exactly when a
flush comes between (`letters_survive_iff`).
-/

namespace Zynk

open Text Resumable

/-- An ASCII letter. -/
def isLetter (b : UInt8) : Bool :=
  (0x41 ≤ b.toNat && b.toNat ≤ 0x5a) || (0x61 ≤ b.toNat && b.toNat ≤ 0x7a)

/-- Bytes that begin no input : no character, an escape and no character, or a paste that has its
end and is no UTF-8. -/
def Malformed (m : Bytes) : Prop :=
  BeginsNoCharacter m ∨ (∃ x, m = esc :: x ∧ BeginsNoCharacter x) ∨
    ∃ content, m = bracketedPasteStart ++ content ++ bracketedPasteEnd ∧
      findSubsequence bracketedPasteEnd m = some (bracketedPasteStart.length + content.length) ∧
      decodeUtf8 content = none

/-- A byte that is in no character. -/
theorem invalid_byte : BeginsNoCharacter [0xff] := by
  intro t p hp hfront
  obtain ⟨b, rest, rfl⟩ := List.exists_cons_of_ne_nil hp
  obtain ⟨tail, htail⟩ := hfront
  obtain rfl : b = 0xff := (List.cons.inj htail).1
  rfl

/-! ## Letters -/

/-- The byte is a key of its own. -/
def isKey (b : UInt8) : Bool :=
  match extractOneEvent [b] with
  | .ok (some (.key _, 1)) => true
  | _ => false

theorem extractOneEvent_letter {b : UInt8} (hb : isLetter b = true) (rest : Bytes) :
    ∃ key, extractOneEvent (b :: rest) = .ok (some (.key key, 1)) := by
  have hall : ∀ n < 256, isLetter (UInt8.ofNat n) = true → isKey (UInt8.ofNat n) = true := by
    decide +kernel
  have hone := hall b.toNat b.toNat_lt
  rw [UInt8.ofNat_toNat] at hone
  have hone := hone hb
  unfold isKey at hone
  split at hone
  · rename_i key hextract
    refine ⟨key, ?_⟩
    rw [← hextract]
    exact extractOneEvent_append (by rw [hextract]; simp) rest
  · cases hone

namespace RawInputByteFramer

/-! ## Refused buffers -/

/-- A buffer without an event that the flush drops. -/
structure Refused (y : Bytes) : Prop where
  extract : extractOneEvent y = .ok none
  mouse : startsWithIncompleteSgrMouseSequence y = false
  paste : (bracketedPasteStart.isPrefixOf y && (findSubsequence bracketedPasteEnd y).isNone) = false
  scheme : startsWithIncompleteHostColorSchemeReport y = false
  string : controlString y = none
  text : decodeUtf8 y = none
  char : isIncompleteChar y = false
  escaped : y.head? = some esc → isIncompleteChar (y.drop 1) = false

variable {y : Bytes}

theorem extractChar_eq_none (h : BeginsNoCharacter y) : extractChar y = none := by
  obtain ⟨b, rest, rfl, -⟩ := h.first
  have hlen : firstCompleteUtf8CharLen (b :: rest) = none := by
    cases hwidth : utf8CharWidth b with
    | none => simp [firstCompleteUtf8CharLen, hwidth]
    | some width =>
      have hpos := utf8CharWidth_pos hwidth
      have hdecode : decodeUtf8 ((b :: rest).take width) = none :=
        h.decodeUtf8_eq_none (by simp; omega) (List.take_prefix width _)
      simp [firstCompleteUtf8CharLen, hwidth, hdecode]
  rw [extractChar, hlen]
  rfl

theorem refused_character (h : BeginsNoCharacter y) : Refused y := by
  obtain ⟨b, rest, rfl, hb⟩ := h.first
  have hne : b ≠ esc := by
    rintro rfl
    revert hb
    decide
  have hhead : (b :: rest).head? ≠ some esc := by simpa using hne
  have hlead (lead : Bytes) : (esc :: lead).isPrefixOf (b :: rest) = false :=
    isPrefixOf_escape_eq_false hhead
  refine ⟨?_, ?_, ?_, ?_, controlString_eq_none hhead,
    h.decodeUtf8_eq_none (by simp) (List.prefix_refl _), h.isIncompleteChar_eq_false,
    fun hescape => absurd hescape hhead⟩
  · rw [extractOneEvent_char hne, extractChar_eq_none h]
  · rw [startsWithIncompleteSgrMouseSequence, show ascii "\x1b[<" = esc :: ascii "[<" from rfl,
      hlead, Bool.false_and]
  · rw [show bracketedPasteStart = esc :: ascii "[200~" from rfl, hlead, Bool.false_and]
  · rw [startsWithIncompleteHostColorSchemeReport,
      show ascii "\x1b[?" = esc :: ascii "[?" from rfl, hlead, Bool.false_and, Bool.false_and]

/-- An escape before bytes that begin no character. -/
theorem refused_escaped {x : Bytes} (h : BeginsNoCharacter x) : Refused (esc :: x) := by
  obtain ⟨b, rest, rfl, hb⟩ := h.first
  have hlead {c : UInt8} (hc : c.toNat < 128) (lead : Bytes) :
      (esc :: c :: lead).isPrefixOf (esc :: b :: rest) = false := by
    have hne : ¬ c = b := by
      rintro rfl
      omega
    simp [List.isPrefixOf, hne]
  have hbracket (lead : Bytes) := hlead (c := 0x5b) (by decide) lead
  have hstring : controlString (esc :: b :: rest) = none := by
    have hne {c : UInt8} (hc : c.toNat < 128) : ¬ b = c := by
      rintro rfl
      omega
    have hfamily : controlStringFamily (esc :: b :: rest) = none := by
      rw [controlStringFamily, if_neg (fun h => hne (by decide) h.2), if_neg]
      rintro ⟨-, h | h | h | h⟩
      all_goals exact hne (by decide) h
    rw [controlString, hfamily, Option.map_none]
  have hlen : completeEscapeSequenceLen (esc :: b :: rest) = none := by
    have hescape (lead : Bytes) := hlead (c := esc) (by decide) lead
    have hplain : plainEscapeSequenceLen (esc :: b :: rest) = none := by
      rw [plainEscapeSequenceLen, show ascii "\x1b[" = esc :: 0x5b :: [] from rfl, hbracket,
        if_neg Bool.false_ne_true, hstring,
        show ascii "\x1bO" = esc :: 0x4f :: [] from rfl, hlead (by decide)]
      cases hwidth : utf8CharWidth b with
      | none => simp [hwidth]
      | some width =>
        have hpos := utf8CharWidth_pos hwidth
        have hdecode : decodeUtf8 ((b :: rest).take width) = none :=
          h.decodeUtf8_eq_none (by simp; omega) (List.take_prefix width _)
        simp [hwidth, hdecode]
    rw [completeEscapeSequenceLen_cons_cons,
      escapedMouseLen_eq_none (hescape (ascii "[<")) (hescape (ascii "[M"))]
    simp only [show ascii "\x1b\x1b" = esc :: esc :: [] from rfl, hescape, Bool.false_eq_true,
      if_false, hplain]
  refine ⟨?_, ?_, ?_, ?_, hstring, ?_, ?_, fun _ => h.isIncompleteChar_eq_false⟩
  · rw [extractOneEvent_escape (hbracket _), hlen]
  · rw [startsWithIncompleteSgrMouseSequence,
      show ascii "\x1b[<" = esc :: 0x5b :: ascii "<" from rfl, hbracket, Bool.false_and]
  · rw [show bracketedPasteStart = esc :: 0x5b :: ascii "200~" from rfl, hbracket, Bool.false_and]
  · rw [startsWithIncompleteHostColorSchemeReport,
      show ascii "\x1b[?" = esc :: 0x5b :: ascii "?" from rfl, hbracket, Bool.false_and,
      Bool.false_and]
  · exact decodeUtf8_of_one (by decide) (h.decodeUtf8_eq_none (by simp) (List.prefix_refl _))
  · rfl

/-- A paste that has its end and is no UTF-8. -/
theorem refused_paste {content : Bytes}
    (hend : findSubsequence bracketedPasteEnd
        (bracketedPasteStart ++ content ++ bracketedPasteEnd) =
      some (bracketedPasteStart.length + content.length))
    (hcontent : decodeUtf8 content = none) (k : Bytes) :
    Refused (bracketedPasteStart ++ content ++ bracketedPasteEnd ++ k) := by
  have hstart : bracketedPasteStart.isPrefixOf
      (bracketedPasteStart ++ content ++ bracketedPasteEnd ++ k) = true := by
    rw [List.isPrefixOf_iff_prefix, List.append_assoc, List.append_assoc]
    exact List.prefix_append _ _
  have hfind := findSubsequence_append hend k
  have htake : ((bracketedPasteStart ++ content ++ bracketedPasteEnd ++ k).take
      (bracketedPasteStart.length + content.length)).drop bracketedPasteStart.length =
        content := by
    rw [List.append_assoc (_ ++ content), ← List.length_append, List.take_left, List.drop_left]
  have hinvalid : decodeUtf8 (content ++ bracketedPasteEnd ++ k) = none := by
    rw [List.append_assoc]
    exact decodeUtf8_append_ascii hcontent (by decide) _
  refine ⟨?_, rfl, ?_, rfl, rfl, ?_, rfl, fun _ => rfl⟩
  · rw [extractOneEvent_paste hstart]
    simp only [extractPaste, hfind, Option.bind_eq_bind, Option.bind_some, htake, hcontent,
      Option.bind_none]
  · rw [hfind]
    simp
  · rw [List.append_assoc, List.append_assoc, ← List.append_assoc content]
    generalize content ++ bracketedPasteEnd ++ k = rest at hinvalid
    -- The start of a paste is six ASCII bytes.
    exact decodeUtf8_of_one rfl (decodeUtf8_of_one rfl (decodeUtf8_of_one rfl (decodeUtf8_of_one rfl
      (decodeUtf8_of_one rfl (decodeUtf8_of_one rfl hinvalid)))))

theorem refused_append {m : Bytes} (hm : Malformed m) (k : Bytes) : Refused (m ++ k) := by
  rcases hm with h | ⟨x, rfl, h⟩ | ⟨content, rfl, hend, hcontent⟩
  · exact refused_character (h.append k)
  · exact refused_escaped (h.append k)
  · exact refused_paste hend hcontent k

/-! ## A framer that holds a buffer -/

/-- The framer that has got bytes and has done nothing with them. -/
def holding (y : Bytes) : RawInputByteFramer where
  buffer := y

theorem holding_settled (h : extractOneEvent y = .ok none) : (holding y).Settled :=
  settled_of_not_tail (fun _ hfamily => by cases hfamily) fun _ => Or.inr ⟨rfl, rfl, h⟩

/-- What comes behind a buffer without an event joins it. -/
theorem push_holding {data : Bytes} (h : extractOneEvent (y ++ data) = .ok none) :
    (holding y).push data = ([], holding (y ++ data)) :=
  drain_settled (f := holding (y ++ data)) rfl rfl (holding_settled h)

theorem Refused.ne_nil (h : Refused y) : y ≠ [] := by
  rintro rfl
  cases h.text

/-- The flush drops a refused buffer. -/
theorem Refused.flushTimeout (h : Refused y) : (holding y).flushTimeout = ([], holding []) := by
  have hinput : (holding y).flushInput = ([], holding []) := by
    have hne : (holding y).buffer ≠ [esc] := by
      intro hy
      have htext := h.text
      rw [show y = [esc] from hy] at htext
      revert htext
      decide
    have hescaped : ¬ ((holding y).buffer.head? = some esc ∧
        isIncompleteChar ((holding y).buffer.drop 1) = true) := by
      rintro ⟨hhead, hincomplete⟩
      exact Bool.false_ne_true ((h.escaped hhead).symm.trans hincomplete)
    rw [flushInput, if_neg hne, if_neg (by simp [holding, h.text]),
      if_neg (by simp [holding, h.char]), if_neg hescaped]
    rfl
  have hreply : (holding y).flushReply = (holding y).flushInput := by
    have hcolor : startsWithIncompleteDefaultColorResponse y = false := by
      rw [startsWithIncompleteDefaultColorResponse, h.string]
      rfl
    simp only [flushReply, holding, hcolor, h.scheme, h.string, Nat.lt_irrefl, false_and, if_false,
      Bool.false_eq_true]
  have hpending : (holding y).flushPending = (holding y).flushReply := by
    rw [flushPending, if_neg (by simp [holding]), if_neg (by simp [holding, h.mouse]),
      if_neg (by simp only [holding, h.paste, Bool.false_eq_true, not_false_eq_true]),
      if_neg (by simp [holding])]
  rw [flushTimeout_settled rfl rfl (holding_settled h.extract) h.ne_nil, hpending, hreply, hinput]

theorem flushTimeout_holding_nil : (holding []).flushTimeout = ([], holding []) := by
  decide

/-- Letters are given out one by one. -/
theorem push_letters {k : Bytes} (hk : k.all isLetter = true) :
    (holding []).push k = (k.map fun b => [b], holding []) := by
  show (holding k).drainAvailableChunks = _
  induction k with
  | nil => exact drain_settled rfl rfl (holding_settled rfl)
  | cons b rest ih =>
    rw [List.all_cons, Bool.and_eq_true] at hk
    obtain ⟨key, hkey⟩ := extractOneEvent_letter hk.1 rest
    have hstep : (holding (b :: rest)).iterate = .next [[b]] (holding rest) := by
      rw [iterate_eq_iterateRest rfl rfl]
      simp [iterateRest, iterateEvent, holding, hkey, noteEvent]
    rw [drainAvailableChunks, drain_eq iterate_size_lt, hstep]
    have hrest := ih hk.2
    rw [drainAvailableChunks] at hrest
    simp only [hrest, List.map_cons, List.singleton_append]

/-! ## Pushes and flushes -/

/-- A push or a flush. -/
inductive InputCall where
  | push (data : Bytes)
  | flushTimeout

/-- The bytes that a call pushes. -/
def InputCall.data : InputCall → Bytes
  | .push data => data
  | .flushTimeout => []

/-- The bytes that calls push. -/
def pushedBytes (calls : List InputCall) : Bytes :=
  calls.flatMap InputCall.data

/-- What a call returns, and the framer after it. -/
def call (f : RawInputByteFramer) : InputCall → List Bytes × RawInputByteFramer
  | .push data => f.push data
  | .flushTimeout => f.flushTimeout

/-- The chunks that calls return, one after the other. -/
def returnedChunks (f : RawInputByteFramer) : List InputCall → List Bytes
  | [] => []
  | c :: calls => (f.call c).1 ++ (f.call c).2.returnedChunks calls

/-- A flush is called when `y` has been pushed and nothing else. -/
def FlushedAt (y : Bytes) (calls : List InputCall) : Prop :=
  ∃ before after, calls = before ++ .flushTimeout :: after ∧ pushedBytes before = y

/-- No flush is called while `m` has been pushed in part. -/
def PushedWhole (m : Bytes) (calls : List InputCall) : Prop :=
  ∀ y, FlushedAt y calls → y = [] ∨ m <+: y

/-- Letters are given out, whatever the calls are. -/
theorem returnedChunks_letters (calls : List InputCall)
    (h : (pushedBytes calls).all isLetter = true) :
    ((holding []).returnedChunks calls).flatten = pushedBytes calls := by
  induction calls with
  | nil => rfl
  | cons c calls ih =>
    rw [pushedBytes, List.flatMap_cons, List.all_append, Bool.and_eq_true] at h
    have hcall : (holding []).call c = (c.data.map fun b => [b], holding []) := by
      cases c with
      | push data => exact push_letters h.1
      | flushTimeout => exact flushTimeout_holding_nil
    have hflatten (k : Bytes) : (k.map fun b => [b]).flatten = k := by
      induction k with
      | nil => rfl
      | cons b k ih => simp [ih]
    rw [returnedChunks, hcall, List.flatten_append, hflatten, ih h.2]
    rfl

theorem flushedAt_cons {c : InputCall} {calls : List InputCall} : FlushedAt y (c :: calls) ↔
      (c = .flushTimeout ∧ y = []) ∨ ∃ z, y = c.data ++ z ∧ FlushedAt z calls := by
  constructor
  · rintro ⟨_ | ⟨c', before⟩, after, hcalls, rfl⟩
    · cases hcalls
      exact Or.inl ⟨rfl, rfl⟩
    · cases hcalls
      exact Or.inr ⟨pushedBytes before, List.flatMap_cons, before, after, rfl, rfl⟩
  · rintro (⟨rfl, rfl⟩ | ⟨z, rfl, before, after, rfl, rfl⟩)
    · exact ⟨[], calls, rfl, rfl⟩
    · exact ⟨c :: before, after, rfl, List.flatMap_cons⟩

/-- What has no event has none at its beginning either. -/
theorem extractOneEvent_of_append {x t : Bytes} (h : extractOneEvent (x ++ t) = .ok none) :
    extractOneEvent x = .ok none := by
  by_contra hx
  rw [extractOneEvent_append hx t] at h
  exact hx h

section

variable {m k : Bytes}

/-- A flush drops the malformed bytes and the letters that have come behind them. -/
theorem returnedChunks_dropped (hm : Malformed m) (k₁ : Bytes) {calls : List InputCall}
    (hk : (pushedBytes calls).all isLetter = true) :
    ((holding (m ++ k₁)).returnedChunks (.flushTimeout :: calls)).flatten = pushedBytes calls := by
  rw [returnedChunks, call, (refused_append hm k₁).flushTimeout, List.nil_append,
    returnedChunks_letters calls hk]

/-- From a framer that holds a part of the bytes, or all of them. -/
theorem suffix_iff (hm : Malformed m) (hk : k.all isLetter = true) {y : Bytes}
    {calls : List InputCall} (hpushed : y ++ pushedBytes calls = m ++ k)
    (hwhole : ∀ z, FlushedAt z calls → y ++ z = [] ∨ m <+: y ++ z) :
    k <:+ ((holding y).returnedChunks calls).flatten ↔
      k = [] ∨ ∃ z, FlushedAt z calls ∧ y ++ z = m := by
  induction calls generalizing y with
  | nil =>
    have hnever (z : Bytes) : ¬ FlushedAt z [] := by
      rintro ⟨before, after, hcalls, -⟩
      simp at hcalls
    simp [returnedChunks, hnever]
  | cons c calls ih =>
    have hdata : pushedBytes (c :: calls) = c.data ++ pushedBytes calls := List.flatMap_cons
    rw [hdata, ← List.append_assoc] at hpushed
    cases c with
    | push data =>
      have hnone : extractOneEvent (y ++ data) = .ok none := by
        refine extractOneEvent_of_append (t := pushedBytes calls) ?_
        rw [show y ++ data ++ pushedBytes calls = m ++ k from hpushed]
        exact (refused_append hm k).extract
      have hstep : ((holding y).returnedChunks (.push data :: calls)) =
          (holding (y ++ data)).returnedChunks calls := by
        rw [returnedChunks, call, push_holding hnone, List.nil_append]
      have hat (z : Bytes) : FlushedAt z (.push data :: calls) ↔
          ∃ z', z = data ++ z' ∧ FlushedAt z' calls := by
        rw [flushedAt_cons]
        simp [InputCall.data]
      have hrest := ih (y := y ++ data) hpushed fun z hz => by
        rw [List.append_assoc]
        exact hwhole _ ((hat _).2 ⟨z, rfl, hz⟩)
      rw [hstep, hrest]
      refine or_congr_right ⟨?_, ?_⟩
      · rintro ⟨z, hz, hm'⟩
        exact ⟨data ++ z, (hat _).2 ⟨z, rfl, hz⟩, by rw [← List.append_assoc, hm']⟩
      · rintro ⟨z, hz, hm'⟩
        obtain ⟨z', rfl, hz'⟩ := (hat _).1 hz
        exact ⟨z', hz', by rw [List.append_assoc, hm']⟩
    | flushTimeout =>
      have hat (z : Bytes) : FlushedAt z (.flushTimeout :: calls) ↔ z = [] ∨ FlushedAt z calls := by
        rw [flushedAt_cons]
        simp [InputCall.data]
      rw [show y ++ InputCall.flushTimeout.data = y from List.append_nil y] at hpushed
      by_cases hnil : y = []
      · subst hnil
        have hstep : (holding []).returnedChunks (.flushTimeout :: calls) =
            (holding []).returnedChunks calls := by
          rw [returnedChunks, call, flushTimeout_holding_nil, List.nil_append]
        rw [hstep, ih hpushed fun z hz => hwhole z ((hat z).2 (Or.inr hz))]
        refine or_congr_right ⟨fun ⟨z, hz, hm'⟩ => ⟨z, (hat z).2 (Or.inr hz), hm'⟩, ?_⟩
        rintro ⟨z, hz, rfl⟩
        rcases (hat z).1 hz with rfl | hz
        · exact absurd rfl (refused_append hm []).ne_nil
        · exact ⟨z, hz, rfl⟩
      · -- The malformed bytes are all there, and what is there is dropped.
        obtain ⟨k₁, rfl⟩ : m <+: y := by
          rcases hwhole [] ((hat []).2 (Or.inl rfl)) with h | h
          · exact absurd (by simpa using h) hnil
          · simpa using h
        obtain rfl : k = k₁ ++ pushedBytes calls := by
          rw [List.append_assoc] at hpushed
          exact (List.append_cancel_left hpushed).symm
        rw [List.all_append, Bool.and_eq_true] at hk
        rw [returnedChunks_dropped hm k₁ hk.2]
        constructor
        · intro hsuffix
          have hle := hsuffix.length_le
          rw [List.length_append] at hle
          have hk₁ : k₁ = [] := List.length_eq_zero_iff.1 (by omega)
          exact Or.inr ⟨[], (hat []).2 (Or.inl rfl), by rw [hk₁, List.append_nil, List.append_nil]⟩
        · rintro (hempty | ⟨z, -, hz⟩)
          · rw [hempty]
            exact List.nil_suffix
          · have hk₁ : k₁ = [] := by
              rw [List.append_assoc] at hz
              have hz := List.append_cancel_left (hz.trans (List.append_nil m).symm)
              exact (List.append_eq_nil_iff.1 hz).1
            exact ⟨[], by rw [hk₁, List.nil_append, List.nil_append]⟩

/-- Letters behind malformed bytes are given out exactly when a flush is called between them. -/
theorem letters_survive_iff (hm : Malformed m) (hk : k.all isLetter = true)
    {calls : List InputCall} (hpushed : pushedBytes calls = m ++ k) (hwhole : PushedWhole m calls) :
    k <:+ (({} : RawInputByteFramer).returnedChunks calls).flatten ↔
      k = [] ∨ FlushedAt m calls := by
  have hiff := suffix_iff hm hk (y := []) hpushed hwhole
  simp only [List.nil_append, exists_eq_right] at hiff
  exact hiff

/-- An invalid byte takes the letter with it that comes in the same read. -/
theorem letter_lost :
    Malformed [0xff] ∧ pushedBytes [.push [0xff, 0x78], .flushTimeout] = [0xff] ++ [0x78] ∧
      ¬ [0x78] <:+ (({} : RawInputByteFramer).returnedChunks
        [.push [0xff, 0x78], .flushTimeout]).flatten :=
  ⟨Or.inl invalid_byte, rfl, by decide⟩

/-- An invalid byte and a letter behind it, and a flush between them. -/
theorem letters_survive_iff_flush :
    [0x78] <:+ (({} : RawInputByteFramer).returnedChunks
        [.push [0xff], .flushTimeout, .push [0x78]]).flatten ↔
      ([0x78] : Bytes) = [] ∨ FlushedAt [0xff] [.push [0xff], .flushTimeout, .push [0x78]] :=
  letters_survive_iff (m := [0xff]) (k := [0x78]) (Or.inl invalid_byte) (by decide) (by decide)
    (by
      intro y hy
      rcases flushedAt_cons.1 hy with ⟨h, -⟩ | ⟨z, rfl, -⟩
      · cases h
      · exact Or.inr ⟨z, rfl⟩)

end

end RawInputByteFramer

end Zynk
