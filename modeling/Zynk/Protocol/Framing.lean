import Mathlib.Data.List.Flatten
import Mathlib.Data.List.Forall2
import Mathlib.Order.Nat
import Zynk.Lib.ByteSource

/-!
# Framed messages

`write_message` and `read_message` of `protocol/wire.rs`. A frame is the length of the payload in
four bytes, least significant first, and the payload, which is what `bincode` makes of the message.

The frames of a stream are read back one by one whatever the pieces the bytes come in, and where
the stream is cut only the complete frames are read (`read_messages`). A frame with a length over
the limit and one whose payload is not used up by its message are rejected (`framing`).
-/

namespace Zynk

open ByteSource

/-- What `bincode` makes of a message, and of bytes : the message and how many of them it took. -/
structure Codec (M : Type) where
  encodeToVec : M → Except String (List UInt8)
  decodeFromSlice : List UInt8 → Except String (M × ℕ)

/-- What was encoded is decoded, and all of it is taken. -/
def Codec.RoundTrips {M : Type} (codec : Codec M) : Prop :=
  ∀ msg payload, codec.encodeToVec msg = .ok payload →
    codec.decodeFromSlice payload = .ok (msg, payload.length)

/-- Errors of the framing; `ε` are the errors of the underlying reader. -/
inductive FramingError (ε : Type) where
  | oversized (claimed max : ℕ)
  | io (error : ε)
  | bincode (message : String)
  | unexpectedEof
  deriving DecidableEq, Repr

def lengthPrefixBytes : ℕ := 4

/-- `u32::MAX`. -/
def u32Max : ℕ := 4294967295

/-- `u32::to_le_bytes`. -/
def toLeBytes (n : ℕ) : List UInt8 :=
  [n, n / 256, n / 65536, n / 16777216].map UInt8.ofNat

/-- `u32::from_le_bytes`. -/
def fromLeBytes (bytes : List UInt8) : ℕ :=
  bytes.foldr (fun byte n => byte.toNat + 256 * n) 0

section

variable {M : Type} (codec : Codec M) {ε : Type}

/-- The writer is the bytes it has taken. -/
def writeMessage (writer : List UInt8) (msg : M) : Except (FramingError ε) (List UInt8) :=
  match codec.encodeToVec msg with
  | .error e => .error (.bincode e)
  | .ok payload =>
    let len := payload.length
    if len > u32Max then
      .error (.bincode (s!"payload length {len} exceeds u32::MAX ({u32Max}), " ++
        "would be truncated by length prefix"))
    else .ok (writer ++ toLeBytes len ++ payload)

def readExactOrEof (n : ℕ) (reader : List (Event ε)) :
    Except (FramingError ε) (List UInt8) × List (Event ε) :=
  match readExact n reader with
  | (.ok bytes, reader) => (.ok bytes, reader)
  | (.error .eof, reader) => (.error .unexpectedEof, reader)
  | (.error (.other e), reader) => (.error (.io e), reader)

/-- The decoder has left bytes of the payload. -/
def trailingBytes (consumed claimedLen : ℕ) : String :=
  s!"decoded {consumed} bytes but payload length was {claimedLen}; " ++
    "trailing bytes are not allowed"

/-- The part of `read_message` after the length prefix. -/
def readPayload (maxFrameSize claimedLen : ℕ) (reader : List (Event ε)) :
    Except (FramingError ε) M × List (Event ε) :=
  if claimedLen > maxFrameSize then (.error (.oversized claimedLen maxFrameSize), reader)
  else
    match readExactOrEof claimedLen reader with
    | (.error e, reader) => (.error e, reader)
    | (.ok payload, reader) =>
      match codec.decodeFromSlice payload with
      | .error e => (.error (.bincode e), reader)
      | .ok (msg, consumed) =>
        if consumed ≠ claimedLen then
          (.error (.bincode (trailingBytes consumed claimedLen)), reader)
        else (.ok msg, reader)

def readMessage (maxFrameSize : ℕ) (reader : List (Event ε)) :
    Except (FramingError ε) M × List (Event ε) :=
  match readExactOrEof lengthPrefixBytes reader with
  | (.error e, reader) => (.error e, reader)
  | (.ok lenBuf, reader) => readPayload codec maxFrameSize (fromLeBytes lenBuf) reader

/-- The messages, written one after the other. -/
def writeMessages (writer : List UInt8) (msgs : List M) : Except (FramingError ε) (List UInt8) :=
  msgs.foldlM (writeMessage codec) writer

/-- Up to so many calls of `read_message`, until one fails : what was read, and the error. -/
def readMessages (maxFrameSize : ℕ) : ℕ → List (Event ε) → List M × Option (FramingError ε)
  | 0, _ => ([], none)
  | calls + 1, reader =>
    match readMessage codec maxFrameSize reader with
    | (.ok msg, reader) =>
      let next := readMessages maxFrameSize calls reader
      (msg :: next.1, next.2)
    | (.error e, _) => ([], some e)

end

/-! ## The length prefix -/

theorem length_toLeBytes (n : ℕ) : (toLeBytes n).length = lengthPrefixBytes :=
  rfl

theorem fromLeBytes_toLeBytes {n : ℕ} (h : n ≤ u32Max) : fromLeBytes (toLeBytes n) = n := by
  unfold u32Max at h
  simp only [fromLeBytes, toLeBytes, List.map_cons, List.map_nil, List.foldr_cons, List.foldr_nil,
    UInt8.toNat_ofNat']
  omega

/-! ## One call -/

section

variable {M ε : Type} {codec : Codec M} {maxFrameSize : ℕ} {reader : List (Event ε)}

/-- The call returns `result` and leaves the bytes `rest`. -/
def Reads (codec : Codec M) (maxFrameSize : ℕ) (reader : List (Event ε))
    (result : Except (FramingError ε) M) (rest : List UInt8) : Prop :=
  ∃ reader', readMessage codec maxFrameSize reader = (result, reader') ∧ bytes reader' = rest ∧
    Sound reader'

variable {rest : List UInt8}

theorem readExactOrEof_of_append (h : Sound reader) {head : List UInt8}
    (hbytes : bytes reader = head ++ rest) :
    ∃ reader', readExactOrEof head.length reader = (.ok head, reader') ∧ bytes reader' = rest ∧
      Sound reader' := by
  obtain ⟨reader', hread, hrest, hsound⟩ := readExact_of_le (n := head.length) h (by simp [hbytes])
  rw [hbytes, List.take_left] at hread
  rw [hbytes, List.drop_left] at hrest
  exact ⟨reader', by rw [readExactOrEof, hread], hrest, hsound⟩

theorem readExactOrEof_of_lt (h : Sound reader) {n : ℕ} (hlt : (bytes reader).length < n) :
    (readExactOrEof n reader).1 = .error .unexpectedEof := by
  have hread := readExact_of_lt h hlt
  rw [readExactOrEof]
  rcases hexact : readExact n reader with ⟨result, reader'⟩
  rw [hexact] at hread
  subst hread
  rfl

/-- A whole length prefix is read. -/
theorem readMessage_of_prefix (h : Sound reader) {len : ℕ} (hlen : len ≤ u32Max)
    (hbytes : bytes reader = toLeBytes len ++ rest) :
    ∃ reader', bytes reader' = rest ∧ Sound reader' ∧
      readMessage codec maxFrameSize reader = readPayload codec maxFrameSize len reader' := by
  obtain ⟨reader', hread, hrest, hsound⟩ := readExactOrEof_of_append h hbytes
  rw [length_toLeBytes] at hread
  refine ⟨reader', hrest, hsound, ?_⟩
  rw [readMessage, hread]
  simp only [fromLeBytes_toLeBytes hlen]

/-- A whole payload is read and decoded. -/
theorem readPayload_of_append (h : Sound reader) {payload : List UInt8}
    (hle : payload.length ≤ maxFrameSize) (hbytes : bytes reader = payload ++ rest) {msg : M}
    {consumed : ℕ} (hdecode : codec.decodeFromSlice payload = .ok (msg, consumed)) :
    ∃ reader', bytes reader' = rest ∧ Sound reader' ∧
      readPayload codec maxFrameSize payload.length reader =
        if consumed ≠ payload.length then
          (.error (.bincode (trailingBytes consumed payload.length)), reader')
        else (.ok msg, reader') := by
  obtain ⟨reader', hread, hrest, hsound⟩ := readExactOrEof_of_append h hbytes
  refine ⟨reader', hrest, hsound, ?_⟩
  rw [readPayload, if_neg (by omega), hread]
  simp only [hdecode]

/-- A frame with a payload that decodes to `msg` with `consumed` bytes. -/
theorem reads_frame (h : Sound reader) {payload : List UInt8} (hlen : payload.length ≤ u32Max)
    (hle : payload.length ≤ maxFrameSize)
    (hbytes : bytes reader = toLeBytes payload.length ++ payload ++ rest) {msg : M} {consumed : ℕ}
    (hdecode : codec.decodeFromSlice payload = .ok (msg, consumed)) :
    Reads codec maxFrameSize reader
      (if consumed ≠ payload.length then
        .error (.bincode (trailingBytes consumed payload.length))
      else .ok msg) rest := by
  rw [List.append_assoc] at hbytes
  obtain ⟨reader₁, hbytes₁, hsound₁, hread₁⟩ := readMessage_of_prefix h hlen hbytes
  obtain ⟨reader₂, hbytes₂, hsound₂, hread₂⟩ := readPayload_of_append hsound₁ hle hbytes₁ hdecode
  refine ⟨reader₂, ?_, hbytes₂, hsound₂⟩
  rw [hread₁, hread₂]
  split <;> rfl

theorem reads_oversized (h : Sound reader) {len : ℕ} (hlen : len ≤ u32Max)
    (hlt : maxFrameSize < len) (hbytes : bytes reader = toLeBytes len ++ rest) :
    Reads codec maxFrameSize reader (.error (.oversized len maxFrameSize)) rest := by
  obtain ⟨reader', hrest, hsound, hread⟩ := readMessage_of_prefix h hlen hbytes
  exact ⟨reader', by rw [hread, readPayload, if_pos hlt], hrest, hsound⟩

theorem readMessage_of_short (h : Sound reader) (hlt : (bytes reader).length < lengthPrefixBytes) :
    (readMessage codec maxFrameSize reader).1 = .error .unexpectedEof := by
  have hread := readExactOrEof_of_lt h hlt
  rw [readMessage]
  rcases hexact : readExactOrEof lengthPrefixBytes reader with ⟨result, reader'⟩
  rw [hexact] at hread
  subst hread
  rfl

/-- A frame that is cut ends in the end of the stream, wherever it is cut. -/
theorem readMessage_of_cut (h : Sound reader) {payload : List UInt8}
    (hlen : payload.length ≤ u32Max) (hle : payload.length ≤ maxFrameSize) {cut : ℕ}
    (hcut : cut < (toLeBytes payload.length ++ payload).length)
    (hbytes : bytes reader = (toLeBytes payload.length ++ payload).take cut) :
    (readMessage codec maxFrameSize reader).1 = .error .unexpectedEof := by
  rw [List.length_append, length_toLeBytes] at hcut
  rcases Nat.lt_or_ge cut lengthPrefixBytes with hlt | hge
  · refine readMessage_of_short h ?_
    rw [hbytes, List.length_take]
    omega
  · rw [List.take_append, length_toLeBytes, List.take_of_length_le (by rw [length_toLeBytes]; omega)]
      at hbytes
    obtain ⟨reader', hrest, hsound, hread⟩ := readMessage_of_prefix h hlen hbytes
    have hshort : (bytes reader').length < payload.length := by
      rw [hrest, List.length_take]
      omega
    have heof := readExactOrEof_of_lt hsound hshort
    rw [hread, readPayload, if_neg (by omega)]
    rcases hexact : readExactOrEof payload.length reader' with ⟨result, reader''⟩
    rw [hexact] at heof
    subst heof
    rfl

end

/-! ## Streams -/

section

variable {M ε : Type} {codec : Codec M}

/-- The frame that `write_message` makes of the message. -/
def FrameOf (codec : Codec M) (msg : M) (frame : List UInt8) : Prop :=
  ∃ payload, codec.encodeToVec msg = .ok payload ∧ payload.length ≤ u32Max ∧
    frame = toLeBytes payload.length ++ payload

theorem writeMessage_eq_ok {writer stream : List UInt8} {msg : M} :
    (writeMessage codec writer msg : Except (FramingError ε) _) = .ok stream ↔
      ∃ frame, FrameOf codec msg frame ∧ stream = writer ++ frame := by
  unfold writeMessage FrameOf
  rcases codec.encodeToVec msg with e | payload
  · simp
  · by_cases hlen : payload.length ≤ u32Max
    · simp [hlen, Nat.not_lt.2 hlen, eq_comm]
    · simp [hlen, Nat.not_le.1 hlen]

theorem writeMessages_eq_ok {writer stream : List UInt8} {msgs : List M} :
    (writeMessages codec writer msgs : Except (FramingError ε) _) = .ok stream ↔
      ∃ frames, List.Forall₂ (FrameOf codec) msgs frames ∧ stream = writer ++ frames.flatten := by
  induction msgs generalizing writer with
  | nil => simp [writeMessages, pure, Except.pure, eq_comm]
  | cons msg msgs ih =>
    simp only [List.forall₂_cons_left_iff]
    rw [writeMessages, List.foldlM_cons]
    rcases hwrite : (writeMessage codec writer msg : Except (FramingError ε) _) with e | writer'
    · refine iff_of_false (fun h => by cases h) ?_
      rintro ⟨_, ⟨frame, frames, hframe, -, -⟩, -⟩
      rw [writeMessage_eq_ok.2 ⟨frame, hframe, rfl⟩] at hwrite
      cases hwrite
    · obtain ⟨frame, hframe, rfl⟩ := writeMessage_eq_ok.1 hwrite
      refine (show _ ↔ _ from ih).trans ⟨?_, ?_⟩
      · rintro ⟨frames, hframes, rfl⟩
        exact ⟨frame :: frames, ⟨frame, frames, hframe, hframes, rfl⟩, by simp⟩
      · rintro ⟨_, ⟨frame', frames, hframe', hframes, rfl⟩, rfl⟩
        have heq := hwrite.symm.trans (writeMessage_eq_ok.2 ⟨frame', hframe', rfl⟩)
        rw [Except.ok.injEq, List.append_cancel_left_eq] at heq
        exact ⟨frames, hframes, by simp [heq]⟩

theorem readMessages_of_error {maxFrameSize : ℕ} {reader : List (Event ε)} {e : FramingError ε}
    (h : (readMessage codec maxFrameSize reader).1 = .error e) {calls : ℕ} (hcalls : 0 < calls) :
    readMessages codec maxFrameSize calls reader = ([], some e) := by
  obtain ⟨calls, rfl⟩ := Nat.exists_eq_succ_of_ne_zero hcalls.ne'
  rw [readMessages]
  rcases hread : readMessage codec maxFrameSize reader with ⟨result, reader'⟩
  rw [hread] at h
  subst h
  rfl

/-- The messages whose frames are complete are read, and then the end is met. -/
theorem readMessages_take (ε : Type) {maxFrameSize : ℕ} (hcodec : codec.RoundTrips) {msgs : List M}
    {frames : List (List UInt8)} (hframes : List.Forall₂ (FrameOf codec) msgs frames)
    (hlimit : ∀ msg ∈ msgs, ∀ payload, codec.encodeToVec msg = .ok payload →
      payload.length ≤ maxFrameSize) (cut : ℕ) :
    ∃ k ≤ msgs.length, (frames.take k).flatten.length ≤ cut ∧
      (k < msgs.length → cut < (frames.take (k + 1)).flatten.length) ∧
      ∀ (reader : List (Event ε)) (calls : ℕ), Sound reader →
        bytes reader = frames.flatten.take cut → k < calls →
        readMessages codec maxFrameSize calls reader = (msgs.take k, some .unexpectedEof) := by
  induction hframes generalizing cut with
  | nil =>
    refine ⟨0, le_refl _, by simp, by simp, fun reader calls hsound hbytes hcalls => ?_⟩
    refine readMessages_of_error (readMessage_of_short hsound ?_) hcalls
    rw [hbytes]
    simp [lengthPrefixBytes]
  | @cons msg frame msgs frames hframe hframes ih =>
    obtain ⟨payload, hencode, hlen, rfl⟩ := hframe
    have hle := hlimit msg (by simp) payload hencode
    rw [List.flatten_cons]
    by_cases hcut : (toLeBytes payload.length ++ payload).length ≤ cut
    · obtain ⟨k, hk, hbelow, habove, hread⟩ := ih (fun msg hmsg => hlimit msg (by simp [hmsg]))
        (cut - (toLeBytes payload.length ++ payload).length)
      refine ⟨k + 1, by simpa using hk, ?_, fun hlt => ?_, fun reader calls hsound hbytes hcalls => ?_⟩
      · rw [List.take_succ_cons, List.flatten_cons, List.length_append]
        omega
      · have := habove (by simpa using hlt)
        rw [List.take_succ_cons, List.flatten_cons, List.length_append]
        omega
      · obtain ⟨calls, rfl⟩ := Nat.exists_eq_succ_of_ne_zero (Nat.ne_of_gt (Nat.zero_lt_of_lt hcalls))
        rw [List.take_append, List.take_of_length_le hcut] at hbytes
        obtain ⟨reader', hframe, hrest, hsound'⟩ := reads_frame hsound hlen hle hbytes
          (hcodec msg payload hencode)
        rw [if_neg (by simp)] at hframe
        rw [readMessages, hframe]
        simp only [hread reader' calls hsound' hrest (Nat.lt_of_succ_lt_succ hcalls),
          List.take_succ_cons]
    · refine ⟨0, Nat.zero_le _, by simp, fun _ => ?_, fun reader calls hsound hbytes hcalls => ?_⟩
      · rw [List.take_succ_cons, List.take_zero, List.flatten_cons, List.flatten_nil,
          List.append_nil]
        omega
      · rw [List.take_append_of_le_length (by omega)] at hbytes
        exact readMessages_of_error (readMessage_of_cut hsound hlen hle (by omega) hbytes) hcalls

/-- Messages that were written are read back, whatever the pieces that the stream comes in, and then
the end is met; each call takes its own frame. A proper prefix of the stream gives the messages
whose frames are complete in it. A length over the limit is rejected with the payload still to be
read, and a payload that its message does not use up is rejected. -/
theorem framing (ε : Type) (hcodec : codec.RoundTrips) {maxFrameSize : ℕ} {msgs : List M}
    {stream : List UInt8}
    (hwrite : (writeMessages codec [] msgs : Except (FramingError ε) _) = .ok stream)
    (hlimit : ∀ msg ∈ msgs, ∀ payload, codec.encodeToVec msg = .ok payload →
      payload.length ≤ maxFrameSize) :
    (∀ (reader : List (Event ε)) (calls : ℕ), Sound reader → bytes reader = stream →
        msgs.length < calls →
        readMessages codec maxFrameSize calls reader = (msgs, some .unexpectedEof)) ∧
      (∀ before msg after, msgs = before ++ msg :: after → ∃ head next tail,
        (writeMessages codec [] before : Except (FramingError ε) _) = .ok head ∧
        (writeMessage codec head msg : Except (FramingError ε) _) = .ok next ∧
        stream = next ++ tail ∧ ∀ reader : List (Event ε), Sound reader →
          head ++ bytes reader = stream → Reads codec maxFrameSize reader (.ok msg) tail) ∧
      (∀ cut < stream.length, ∃ k head next, k < msgs.length ∧
        (writeMessages codec [] (msgs.take k) : Except (FramingError ε) _) = .ok head ∧
        (writeMessages codec [] (msgs.take (k + 1)) : Except (FramingError ε) _) = .ok next ∧
        head.length ≤ cut ∧ cut < next.length ∧
        ∀ (reader : List (Event ε)) (calls : ℕ), Sound reader →
          bytes reader = stream.take cut → k < calls →
          readMessages codec maxFrameSize calls reader = (msgs.take k, some .unexpectedEof)) ∧
      (∀ (reader : List (Event ε)) (len : ℕ) (rest : List UInt8), Sound reader → len ≤ u32Max →
        maxFrameSize < len → bytes reader = toLeBytes len ++ rest →
        Reads codec maxFrameSize reader (.error (.oversized len maxFrameSize)) rest) ∧
      (∀ (reader : List (Event ε)) (payload rest : List UInt8) (msg : M) (consumed : ℕ),
        Sound reader → payload.length ≤ u32Max → payload.length ≤ maxFrameSize →
        bytes reader = toLeBytes payload.length ++ payload ++ rest →
        codec.decodeFromSlice payload = .ok (msg, consumed) → consumed < payload.length →
        ∃ message, Reads codec maxFrameSize reader (.error (.bincode message)) rest) := by
  obtain ⟨frames, hframes, rfl⟩ := writeMessages_eq_ok.1 hwrite
  rw [List.nil_append]
  have hlength := hframes.length_eq
  have htake (k : ℕ) : (writeMessages codec [] (msgs.take k) : Except (FramingError ε) _) =
      .ok (frames.take k).flatten :=
    writeMessages_eq_ok.2 ⟨frames.take k, List.forall₂_take k hframes, rfl⟩
  refine ⟨fun reader calls hsound hbytes hcalls => ?_, ?_, fun cut hcut => ?_,
    fun reader len rest hsound hlen hlt hbytes => reads_oversized hsound hlen hlt hbytes, ?_⟩
  · obtain ⟨k, hk, -, habove, hread⟩ :=
      readMessages_take ε hcodec hframes hlimit frames.flatten.length
    obtain rfl : k = msgs.length := by
      refine le_antisymm hk (Nat.le_of_not_lt fun hlt => ?_)
      have hle := ((List.take_sublist (k + 1) frames).flatten).length_le
      exact absurd (habove hlt) (Nat.not_lt.2 hle)
    rw [hread reader calls hsound (by rw [hbytes, List.take_length]) hcalls, List.take_length]
  · rintro before msg after rfl
    have hbefore := List.forall₂_take before.length hframes
    have hafter := List.forall₂_drop before.length hframes
    rw [List.take_left] at hbefore
    rw [List.drop_left, List.forall₂_cons_left_iff] at hafter
    obtain ⟨frame, tail, hframe, -, hdrop⟩ := hafter
    have hsplit : frames.flatten =
        (frames.take before.length).flatten ++ frame ++ tail.flatten := by
      conv_lhs => rw [← List.take_append_drop before.length frames, hdrop]
      simp
    refine ⟨(frames.take before.length).flatten, (frames.take before.length).flatten ++ frame,
      tail.flatten, writeMessages_eq_ok.2 ⟨_, hbefore, rfl⟩, writeMessage_eq_ok.2 ⟨frame, hframe, rfl⟩,
      hsplit, fun reader hsound hbytes => ?_⟩
    rw [hsplit, List.append_assoc, List.append_cancel_left_eq] at hbytes
    obtain ⟨payload, hencode, hlen, rfl⟩ := hframe
    have hreads := reads_frame hsound hlen (hlimit msg (by simp) payload hencode) hbytes
      (hcodec msg payload hencode)
    rwa [if_neg (by simp)] at hreads
  · obtain ⟨k, hk, hbelow, habove, hread⟩ := readMessages_take ε hcodec hframes hlimit cut
    have hlt : k < msgs.length := by
      refine lt_of_le_of_ne hk fun heq => ?_
      rw [heq, hlength, List.take_length] at hbelow
      omega
    exact ⟨k, _, _, hlt, htake k, htake (k + 1), hbelow, habove hlt, hread⟩
  · intro reader payload rest msg consumed hsound hlen hle hbytes hdecode hlt
    have hreads := reads_frame hsound hlen hle hbytes hdecode
    rw [if_pos hlt.ne] at hreads
    exact ⟨_, hreads⟩

end

/-- Bytes as messages : one byte each. -/
def byteCodec : Codec UInt8 where
  encodeToVec byte := .ok [byte]
  decodeFromSlice bytes :=
    match bytes with
    | byte :: _ => .ok (byte, 1)
    | [] => .error "unexpected end"

theorem framing_bytes :
    byteCodec.RoundTrips ∧
      (writeMessages byteCodec [] [7, 9] : Except (FramingError Unit) _) =
        .ok [1, 0, 0, 0, 7, 1, 0, 0, 0, 9] ∧
      readMessages byteCodec 16 3
          [.data [1, 0], .interrupted, .data [0, 0, 7, 1, 0, 0, 0], .data [9]] =
        ([7, 9], some (.unexpectedEof : FramingError Unit)) := by
  have hcodec : byteCodec.RoundTrips := by
    intro msg payload h
    cases h
    rfl
  have hwrite : (writeMessages byteCodec [] [7, 9] : Except (FramingError Unit) _) =
      .ok [1, 0, 0, 0, 7, 1, 0, 0, 0, 9] := by rfl
  have hlimit : ∀ msg ∈ ([7, 9] : List UInt8), ∀ payload,
      byteCodec.encodeToVec msg = .ok payload → payload.length ≤ 16 := by
    intro msg _ payload h
    cases h
    simp
  have hsound : @Sound Unit
      [.data [1, 0], .interrupted, .data [0, 0, 7, 1, 0, 0, 0], .data [9]] := by
    simp [Sound, Event.Sound]
  exact ⟨hcodec, hwrite, (framing Unit hcodec hwrite hlimit).1 _ 3 hsound rfl (by simp)⟩

end Zynk
