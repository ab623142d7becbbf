import Zynk.Input.Framer
import Zynk.Lib.Delimited
import Zynk.Lib.Utf8

/-!
# The paste guard

`RawPasteEnvelopeGuard` of `server/client_transport.rs` : it stands between the input frames of a
client and their consumers. It holds back the beginning of a bracketed paste until the paste is
complete, forwards everything else, and bounds what it holds by the payload limit.

`limit` is `MAX_INPUT_PAYLOAD`. Reservations succeed and lengths do not overflow, the counters of
the tests and the debug assertions are left out. `release_speculative_prefix` may push the rest of a
frame again, so `push` has fuel.
-/

namespace Zynk.Server

open Text

/-- `MAX_INPUT_PAYLOAD`. -/
def maxInputPayload : ℕ := 1024 * 1024

inductive RawPasteEnvelopeState where
  | idle
  | startPrefix (bytes : Bytes) (mixedPrefix : Bool)
  | paste (bytes : Bytes) (mixedPrefix : Bool) (nextEndSearch : ℕ)
  | forwardedEscape (continuation : Bytes)
  deriving DecidableEq, Repr

inductive RawPasteEnvelopeOutcome where
  | forward (data : Bytes)
  | hold
  | rejectPaste (size : ℕ)
  | disconnect (size : ℕ) (reason : String)
  deriving DecidableEq, Repr

/-! ## Searching -/

/-- The retained bytes and the frame, which are not put together. -/
structure BorrowedPasteCandidate where
  retained : Bytes
  incoming : Bytes
  deriving DecidableEq, Repr

namespace BorrowedPasteCandidate

def len (candidate : BorrowedPasteCandidate) : ℕ :=
  candidate.retained.length + candidate.incoming.length

def byte (candidate : BorrowedPasteCandidate) (index : ℕ) : Option UInt8 :=
  if index < candidate.retained.length then candidate.retained[index]?
  else candidate.incoming[index - candidate.retained.length]?

def startsWithAt (candidate : BorrowedPasteCandidate) (start : ℕ) (needle : Bytes) : Bool :=
  needle.zipIdx.all fun p => candidate.byte (start + p.2) == some p.1

def startsWith (candidate : BorrowedPasteCandidate) (needle : Bytes) : Bool :=
  needle.zipIdx.all fun p => candidate.byte p.2 == some p.1

def payloadSlices (candidate : BorrowedPasteCandidate) (start stop : ℕ) : Bytes × Bytes :=
  let cut := candidate.retained.length
  if stop ≤ cut then ((candidate.retained.take stop).drop start, [])
  else if cut ≤ start then ([], (candidate.incoming.take (stop - cut)).drop (start - cut))
  else (candidate.retained.drop start, candidate.incoming.take (stop - cut))

end BorrowedPasteCandidate

/-- Only from here on an end delimiter could be split across frames. -/
def pasteEndOverlap (len : ℕ) : ℕ :=
  max bracketedPasteStart.length (len - (bracketedPasteEnd.length - 1))

def findPasteEnd (bytes : Bytes) (start : ℕ) : Option ℕ :=
  (List.range' start (bytes.length - start)).find? fun i =>
    bracketedPasteEnd.isPrefixOf (bytes.drop i)

def findPasteEndInCandidate (candidate : BorrowedPasteCandidate) (start : ℕ) : Option ℕ :=
  (List.range' start (candidate.len - start)).find? fun i =>
    candidate.startsWithAt i bracketedPasteEnd

/-- The loop of `split_utf8_is_valid` over the bytes that may complete the character at the
boundary. -/
def boundaryIsValid (incomplete incoming : Bytes) : List ℕ → Bool
  | [] => false
  | consumed :: rest =>
    match checkUtf8 (incomplete ++ incoming.take consumed) with
    | .valid => checkUtf8 (incoming.drop consumed) == .valid
    | .invalid => false
    | .incomplete _ => boundaryIsValid incomplete incoming rest

def splitUtf8IsValid (retained incoming : Bytes) : Bool :=
  match checkUtf8 retained with
  | .valid => checkUtf8 incoming == .valid
  | .invalid => false
  | .incomplete incomplete =>
    if incoming.isEmpty then false
    else
      boundaryIsValid incomplete incoming
        (List.range' 1 (min incoming.length (4 - incomplete.length)))

/-- The loop of `incomplete_bracketed_paste_start`, from `searchFrom` on. -/
def incompleteStartLoop (data : Bytes) : ℕ → ℕ → Option ℕ
  | 0, _ => none
  | fuel + 1, searchFrom =>
    match findSubsequence bracketedPasteStart (data.drop searchFrom) with
    | none => none
    | some relativeStart =>
      let start := searchFrom + relativeStart
      match findPasteEnd data (start + bracketedPasteStart.length) with
      | none => some start
      | some stop => incompleteStartLoop data fuel (stop + bracketedPasteEnd.length)

/-- The offset of a start delimiter that no end delimiter closes. -/
def incompleteBracketedPasteStart (data : Bytes) : Option ℕ :=
  incompleteStartLoop data (data.length + 1) 0

/-- The length of the longest proper prefix of the start delimiter that the data end with. -/
def trailingBracketedPasteStartPrefix (data : Bytes) : Option ℕ :=
  (List.range' 1 (bracketedPasteStart.length - 1)).reverse.find? fun len =>
    (bracketedPasteStart.take len).isSuffixOf data

/-- Whether the data are exactly one complete bracketed paste with a text in it. -/
def isCompleteTextBracketedPaste (data : Bytes) : Bool :=
  if !bracketedPasteStart.isPrefixOf data then false
  else
    match findSubsequence bracketedPasteEnd data with
    | none => false
    | some stop =>
      stop + bracketedPasteEnd.length == data.length &&
        (decodeUtf8 ((data.take stop).drop bracketedPasteStart.length)).isSome

section

variable (limit : ℕ)

def forwardRawInput (data : Bytes) : List RawPasteEnvelopeOutcome :=
  if data.length ≤ limit then [.forward data]
  else [.forward (data.take limit), .forward (data.drop limit)]

/-! ## The guard -/

namespace RawPasteEnvelopeGuard

/-- With the state it leaves : the guard is idle before. -/
def scanIdle (data : Bytes) (definitiveLoneEscape priorMixedPrefix : Bool) :
    List RawPasteEnvelopeOutcome × RawPasteEnvelopeState :=
  if data.isEmpty then (forwardRawInput limit data, .idle)
  else if definitiveLoneEscape && data == [esc] then ([.forward data], .forwardedEscape [])
  else
    match incompleteBracketedPasteStart data with
    | some start =>
      ((if 0 < start then forwardRawInput limit (data.take start) else []) ++ [.hold],
        .paste (data.drop start) (priorMixedPrefix || decide (0 < start))
          (pasteEndOverlap (data.length - start)))
    | none =>
      match trailingBracketedPasteStartPrefix data with
      | some prefixLen =>
        let start := data.length - prefixLen
        ((if 0 < start then forwardRawInput limit (data.take start) else []) ++ [.hold],
          .startPrefix (data.drop start) (priorMixedPrefix || decide (0 < start)))
      | none => (forwardRawInput limit data, .idle)

def resolvePaste (bytes : Bytes) (mixedPrefix : Bool) (nextEndSearch : ℕ) :
    List RawPasteEnvelopeOutcome × RawPasteEnvelopeState :=
  match findPasteEnd bytes nextEndSearch with
  | none =>
    if limit < bytes.length then
      ([.disconnect bytes.length "unterminated bracketed paste exceeded the input limit"], .idle)
    else ([.hold], .paste bytes mixedPrefix (pasteEndOverlap bytes.length))
  | some stop =>
    let envelopeLen := stop + bracketedPasteEnd.length
    if envelopeLen = bytes.length then ([.forward bytes], .idle)
    else
      let rest := scanIdle limit (bytes.drop envelopeLen) false false
      (.forward (bytes.take envelopeLen) :: rest.1, rest.2)

def resolveOversizedPaste (candidate : BorrowedPasteCandidate) (mixedPrefix : Bool)
    (nextEndSearch : ℕ) : List RawPasteEnvelopeOutcome :=
  match findPasteEndInCandidate candidate nextEndSearch with
  | none =>
    [.disconnect candidate.len "unterminated bracketed paste exceeded the input limit"]
  | some stop =>
    let envelopeLen := stop + bracketedPasteEnd.length
    let payload := candidate.payloadSlices bracketedPasteStart.length stop
    if !mixedPrefix && envelopeLen == candidate.len && splitUtf8IsValid payload.1 payload.2 then
      [.rejectPaste candidate.len]
    else
      [.disconnect candidate.len
        "oversized bracketed paste was mixed, trailing, or invalid UTF-8"]

/-- `again` is `push`, for the rest of a frame that is cut at the limit. -/
def releaseSpeculativePrefix
    (again : RawPasteEnvelopeState → Bytes →
      Option (List RawPasteEnvelopeOutcome × RawPasteEnvelopeState))
    (lead data : Bytes) (mixedPrefix : Bool) (reportedSizeOffset : ℕ) (oversizedReason : String) :
    Option (List RawPasteEnvelopeOutcome × RawPasteEnvelopeState) :=
  let reportedSize := lead.length + data.length + reportedSizeOffset
  if limit < data.length then some ([.disconnect reportedSize oversizedReason], .idle)
  else if limit < lead.length then
    some ([.disconnect reportedSize "retained speculative input exceeded the input limit"], .idle)
  else
    let firstDataLen := min data.length (limit - lead.length)
    let scanned := scanIdle limit (lead ++ data.take firstDataLen) false mixedPrefix
    if firstDataLen < data.length then
      (again scanned.2 (data.drop firstDataLen)).map fun rest => (scanned.1 ++ rest.1, rest.2)
    else some scanned

def releaseFalseStartPrefix
    (again : RawPasteEnvelopeState → Bytes →
      Option (List RawPasteEnvelopeOutcome × RawPasteEnvelopeState))
    (lead data : Bytes) (mixedPrefix : Bool) :
    Option (List RawPasteEnvelopeOutcome × RawPasteEnvelopeState) :=
  releaseSpeculativePrefix limit again lead data mixedPrefix 0
    "oversized input did not complete a pending bracketed-paste prefix"

/-- `RawPasteEnvelopeGuard::push` : nothing when the fuel runs out. -/
def push : ℕ → RawPasteEnvelopeState → Bytes →
    Option (List RawPasteEnvelopeOutcome × RawPasteEnvelopeState)
  | 0, _, _ => none
  | fuel + 1, state, data =>
    if data.isEmpty && state != .idle then some ([.hold], state)
    else
      match state with
      | .idle =>
        if limit < data.length then
          if isCompleteTextBracketedPaste data then some ([.rejectPaste data.length], .idle)
          else
            some ([.disconnect data.length
              "oversized input is not one complete UTF-8 bracketed paste"], .idle)
        else some (scanIdle limit data true false)
      | .startPrefix bytes mixedPrefix =>
        let candidate : BorrowedPasteCandidate := ⟨bytes, data⟩
        let compared := min candidate.len bracketedPasteStart.length
        if !candidate.startsWith (bracketedPasteStart.take compared) then
          releaseFalseStartPrefix limit (push fuel) bytes data mixedPrefix
        else if candidate.len < bracketedPasteStart.length then
          some ([.hold], .startPrefix (bytes ++ data) mixedPrefix)
        else if limit < candidate.len then
          some (resolveOversizedPaste candidate mixedPrefix bracketedPasteStart.length, .idle)
        else some (resolvePaste limit (bytes ++ data) mixedPrefix bracketedPasteStart.length)
      | .paste bytes mixedPrefix nextEndSearch =>
        let candidate : BorrowedPasteCandidate := ⟨bytes, data⟩
        if limit < candidate.len then
          some (resolveOversizedPaste candidate mixedPrefix nextEndSearch, .idle)
        else some (resolvePaste limit (bytes ++ data) mixedPrefix nextEndSearch)
      | .forwardedEscape continuation =>
        if limit < data.length then
          some ([.disconnect (data.length + 1)
            "oversized input followed a forwarded Escape"], .idle)
        else
          let expected := bracketedPasteStart.drop 1
          let candidate : BorrowedPasteCandidate := ⟨continuation, data⟩
          let compared := min candidate.len expected.length
          if !candidate.startsWith (expected.take compared) then
            releaseSpeculativePrefix limit (push fuel) continuation data false 1
              "oversized input followed a forwarded Escape"
          else if candidate.len < expected.length then
            some ([.hold], .forwardedEscape (continuation ++ data))
          else
            some ([.disconnect (candidate.len + 1)
              "input tried to extend a forwarded Escape into a bracketed paste"], .idle)

end RawPasteEnvelopeGuard

end

end Zynk.Server
