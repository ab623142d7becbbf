import Mathlib.Data.List.Perm.Subperm
import Zynk.Lib.Delimited

/-!
# Graphics replies in the keyboard stream

`ResponseMatcher` and `InputFilter` of `client/direct_graphics.rs`. The host terminal answers a
graphics command on the stream of the keyboard. While the matcher waits for such an answer, the
filter looks for the strings from `ESC _ G` to `ESC \` and takes out the one the matcher
recognises. What may still become such a string is held back.

An instant is a number of milliseconds. A call that reads the clock more than once takes it as a
function : `clock k` is what the `k`-th reading shows.
-/

namespace Zynk

open Text Delimited

def maxResponseBytes : ℕ := 4096

def kittyPrefix : Bytes := ascii "\x1b_G"

def kittySuffix : Bytes := ascii "\x1b\\"

/-- Three seconds. -/
def responseTimeout : ℕ := 3000

/-- One second. -/
def lateResponseDrain : ℕ := 1000

structure Response where
  transferId : ℕ
  imageId : ℕ
  success : Bool
  deriving DecidableEq, Repr

/-- The fields of `matching_response_controls` from one on, with `matched` as it is there. -/
def matchingFields (expected : ℕ) : Bool → List Bytes → Bool
  | matched, [] => matched
  | matched, field :: fields =>
    match field.findIdx? (· == 0x3d) with
    | none => false
    | some separator =>
      let key := field.take separator
      let value := field.drop (separator + 1)
      if value.isEmpty || !value.all (fun b => 0x30 ≤ b.toNat && b.toNat ≤ 0x39) then false
      else if key = ascii "i" ∧ matched = false ∧
          (decodeUtf8 value).bind parseU32 = some expected then matchingFields expected true fields
      else if key = ascii "I" ∨ key = ascii "p" then matchingFields expected matched fields
      else false

def matchingResponseControls (bytes : Bytes) (expected : ℕ) : Bool :=
  matchingFields expected false (splitOn 0x2c bytes)

/-! ## The matcher -/

structure ResponseMatcher where
  /-- The transfer, its image and, once it has started, the deadline of its answer. -/
  expected : Option (ℕ × ℕ × Option ℕ) := none
  /-- An image whose answer comes too late, and until when it is still taken out. -/
  retired : Option (ℕ × ℕ) := none
  active : Bool := false
  deriving DecidableEq, Repr

namespace ResponseMatcher

def refreshActive (m : ResponseMatcher) : ResponseMatcher :=
  { m with active := m.expected.isSome || m.retired.isSome }

/-- The expectation is given up, its image is retired at `now`. -/
def retireExpected (m : ResponseMatcher) (now : ℕ) : ResponseMatcher :=
  match m.expected with
  | some (_, imageId, _) =>
    { m with expected := none, retired := some (imageId, now + lateResponseDrain) }
  | none => m

def expireAt (m : ResponseMatcher) (now : ℕ) : ResponseMatcher :=
  let m := if m.expected.any fun e => e.2.2.any (· ≤ now) then m.retireExpected now else m
  let m := if m.retired.any (·.2 ≤ now) then { m with retired := none } else m
  m.refreshActive

/-- `interested`, after its call of `expire`. -/
def isInterested (m : ResponseMatcher) : Bool :=
  m.expected.isSome || m.retired.isSome

/-- The result, and the matcher after the call. -/
def arm (m : ResponseMatcher) (now transferId imageId : ℕ) : Bool × ResponseMatcher :=
  let m := m.expireAt now
  if m.expected.isSome then (false, m)
  else (true, { m with expected := some (transferId, imageId, none) }.refreshActive)

/-- The transfer is the expected one. -/
def expects (m : ResponseMatcher) (transferId : ℕ) : Bool :=
  m.expected.any (·.1 == transferId)

def startAt (m : ResponseMatcher) (transferId now : ℕ) : ResponseMatcher :=
  if m.expects transferId then
    { m with expected := m.expected.map fun e => (e.1, e.2.1, some (now + responseTimeout)) }
  else m

def cancel (m : ResponseMatcher) (transferId : ℕ) : ResponseMatcher :=
  if m.expects transferId then { m with expected := none }.refreshActive else m

def retire (m : ResponseMatcher) (transferId now : ℕ) : ResponseMatcher :=
  if m.expects transferId then (m.retireExpected now).refreshActive else m

/-- The images an answer is still taken out for, the retired one first. -/
def held (m : ResponseMatcher) : List ℕ :=
  (m.retired.map (·.1)).toList ++ (m.expected.map (·.2.1)).toList

/-- A string from `ESC _ G` to `ESC \` of no more than the greatest length. -/
def isCommand (bytes : Bytes) : Bool :=
  kittyPrefix.isPrefixOf bytes && bytes.length ≤ maxResponseBytes && kittySuffix.isSuffixOf bytes

/-- What is between the ends of a command, split at its first semicolon. -/
def controls (bytes : Bytes) : Option (Bytes × Bytes) :=
  let payload := (bytes.drop 3).take (bytes.length - 5)
  (payload.findIdx? (· == 0x3b)).map fun separator =>
    (payload.take separator, payload.drop (separator + 1))

/-- `consume` : nothing, or that the string is taken out, with the response it is when it was
waited for. -/
def consume (m : ResponseMatcher) (now : ℕ) (bytes : Bytes) :
    Option (Option Response) × ResponseMatcher :=
  let m := m.expireAt now
  if !isCommand bytes then (none, m)
  else
    match controls bytes with
    | none => (none, m)
    | some (head, message) =>
      if m.retired.any fun r => matchingResponseControls head r.1 then
        (some none, { m with retired := none }.refreshActive)
      else
        match m.expected with
        | none => (none, m)
        | some (transferId, imageId, _) =>
          if !matchingResponseControls head imageId then (none, m)
          else
            (some (some ⟨transferId, imageId, message == ascii "OK"⟩),
              { m with expected := none }.refreshActive)

end ResponseMatcher

/-! ## The filter -/

/-- What becomes of a part of the stream : it is handed on, or it is taken out as a response.
`waiting` are the images the matcher waited for then. -/
inductive Piece where
  | output (bytes : Bytes)
  | consumed (command : Bytes) (response : Option Response) (waiting : List ℕ)
  deriving DecidableEq, Repr

namespace Piece

/-- The bytes of the stream the piece is. -/
def bytes : Piece → Bytes
  | .output bytes => bytes
  | .consumed command _ _ => command

/-- The bytes that are handed on. -/
def output? : Piece → Option Bytes
  | .output bytes => some bytes
  | .consumed _ _ _ => none

def response? : Piece → Option Response
  | .output _ => none
  | .consumed _ response _ => response

/-- What the matcher makes of a command. -/
def ofResult (command : Bytes) (waiting : List ℕ) : Option (Option Response) → Piece
  | some response => .consumed command response waiting
  | none => .output command

/-- The command that is taken out, with the images that were waited for. -/
def command? : Piece → Option (Bytes × List ℕ)
  | .output _ => none
  | .consumed command _ waiting => some (command, waiting)

end Piece

structure InputFilter where
  pending : Bytes := []
  deriving DecidableEq, Repr

namespace InputFilter

/-- The longest proper beginning of `ESC _ G` that the bytes end with : two bytes, one or none. -/
def keep (pending : Bytes) : ℕ :=
  if (kittyPrefix.take 2).isSuffixOf pending then 2
  else if (kittyPrefix.take 1).isSuffixOf pending then 1
  else 0

/-- The first `n` bytes, handed on when there are any. -/
def lead (pending : Bytes) (n : ℕ) : List Piece :=
  if 0 < n then [.output (pending.take n)] else []

/-- The loop of `push`, from the `k`-th command on. Each turn that goes on takes a command out of
the pending bytes, so that their number is fuel enough. -/
def loop (clock : ℕ → ℕ) : ℕ → ℕ → Bytes → ResponseMatcher → List Piece × Bytes × ResponseMatcher
  | 0, _, pending, m => ([], pending, m)
  | fuel + 1, k, pending, m =>
    match findSubsequence kittyPrefix pending with
    | none =>
      let emit := pending.length - keep pending
      (lead pending emit, pending.drop emit, m)
    | some start =>
      let out := lead pending start
      let pending := pending.drop start
      match findSubsequence kittySuffix pending with
      | none =>
        if maxResponseBytes < pending.length then (out ++ [.output pending], [], m)
        else (out, pending, m)
      | some stop =>
        let command := pending.take (stop + 2)
        let result := m.consume (clock k) command
        let rest := loop clock fuel (k + 1) (pending.drop (stop + 2)) result.2
        (out ++ .ofResult command (m.expireAt (clock k)).held result.1 :: rest.1, rest.2)

/-- `push` : the pieces in the order of the stream. The source returns their outputs and their
responses as two lists. -/
def push (f : InputFilter) (bytes : Bytes) (m : ResponseMatcher) (clock : ℕ → ℕ) :
    List Piece × InputFilter × ResponseMatcher :=
  let pending := f.pending ++ bytes
  let m := m.expireAt (clock 0)
  if !m.isInterested then ([.output pending], {}, m)
  else
    let result := loop clock (pending.length + 1) 1 pending m
    (result.1, ⟨result.2.1⟩, result.2.2)

/-- `flush_if_inactive` : the bytes that are released. -/
def flushIfInactive (f : InputFilter) (m : ResponseMatcher) (now : ℕ) :
    Option Bytes × InputFilter × ResponseMatcher :=
  if f.pending.isEmpty then (none, f, m)
  else
    let m := m.expireAt now
    if m.isInterested then (none, f, m) else (some f.pending, {}, m)

end InputFilter

/-! ## What is taken out -/

namespace ResponseMatcher

/-- A complete command whose controls name the image. -/
def Names (command : Bytes) (imageId : ℕ) : Prop :=
  isCommand command = true ∧ ∃ head message, controls command = some (head, message) ∧
    matchingResponseControls head imageId = true

@[simp] theorem held_refreshActive (m : ResponseMatcher) : m.refreshActive.held = m.held :=
  rfl

theorem held_expected_none (m : ResponseMatcher) :
    { m with expected := none }.held.Sublist m.held := by
  simp [held]

theorem held_retired_none (m : ResponseMatcher) :
    { m with retired := none }.held.Sublist m.held := by
  simp [held]

theorem held_retireExpected (m : ResponseMatcher) (now : ℕ) :
    (m.retireExpected now).held.Sublist m.held := by
  unfold retireExpected
  cases h : m.expected with
  | none => exact List.Sublist.refl _
  | some e => simp [held, h]

theorem held_expireAt (m : ResponseMatcher) (now : ℕ) :
    (m.expireAt now).held.Sublist m.held := by
  unfold expireAt
  simp only [held_refreshActive]
  split_ifs
  · exact (held_retired_none _).trans (held_retireExpected m now)
  · exact held_retireExpected m now
  · exact held_retired_none m
  · exact List.Sublist.refl _

/-- An arming adds its image when it succeeds. -/
theorem held_arm (m : ResponseMatcher) (now transferId imageId : ℕ) :
    (m.arm now transferId imageId).2.held.Sublist
      (m.held ++ if (m.arm now transferId imageId).1 then [imageId] else []) := by
  have hsub := held_expireAt m now
  unfold arm
  cases h : (m.expireAt now).expected with
  | some e => simpa [h] using hsub
  | none =>
    simp only [h, Option.isSome_none, Bool.false_eq_true, if_false, if_true, held_refreshActive]
    have heq : { m.expireAt now with expected := some (transferId, imageId, none) }.held =
        (m.expireAt now).held ++ [imageId] := by
      simp [held, h]
    rw [heq]
    exact hsub.append (List.Sublist.refl _)

@[simp] theorem held_startAt (m : ResponseMatcher) (transferId now : ℕ) :
    (m.startAt transferId now).held = m.held := by
  unfold startAt
  split_ifs
  · cases h : m.expected <;> simp [held, h]
  · rfl

theorem held_cancel (m : ResponseMatcher) (transferId : ℕ) :
    (m.cancel transferId).held.Sublist m.held := by
  unfold cancel
  split_ifs
  · exact held_expected_none m
  · exact List.Sublist.refl _

theorem held_retire (m : ResponseMatcher) (transferId now : ℕ) :
    (m.retire transferId now).held.Sublist m.held := by
  unfold retire
  split_ifs
  · exact held_retireExpected m now
  · exact List.Sublist.refl _

/-- A string that is not taken out adds no image. -/
theorem held_consume_none {m m' : ResponseMatcher} {now : ℕ} {bytes : Bytes}
    (h : m.consume now bytes = (none, m')) : m'.held.Sublist m.held := by
  have hsub := held_expireAt m now
  unfold consume at h
  simp only at h
  split at h
  · cases h
    exact hsub
  · split at h
    · cases h
      exact hsub
    · split at h
      · cases h
      · split at h
        · cases h
          exact hsub
        · split at h
          · cases h
            exact hsub
          · cases h

/-- A string that is taken out is a command, and it uses up the image it names. -/
theorem held_consume_some {m m' : ResponseMatcher} {now : ℕ} {bytes : Bytes}
    {response : Option Response} (h : m.consume now bytes = (some response, m')) :
    ∃ imageId ∈ (m.expireAt now).held, Names bytes imageId ∧
      (imageId :: m'.held).Subperm m.held := by
  have hsub := (held_expireAt m now).subperm
  unfold consume at h
  simp only at h
  split at h
  · cases h
  · rename_i hcommand
    rw [Bool.not_eq_true', Bool.not_eq_false] at hcommand
    split at h
    · cases h
    · rename_i head message hcontrols
      split at h
      · rename_i hretired
        cases h
        obtain ⟨r, hr, hnames⟩ := (Option.any_eq_true _ _).1 hretired
        refine ⟨r.1, by simp [held, hr], ⟨hcommand, head, message, hcontrols, hnames⟩, ?_⟩
        refine List.Subperm.trans (List.Sublist.subperm ?_) hsub
        simp [held, hr, refreshActive]
      · split at h
        · cases h
        · rename_i transferId imageId deadline hexpected
          split at h
          · cases h
          · rename_i hnames
            rw [Bool.not_eq_true', Bool.not_eq_false] at hnames
            cases h
            refine ⟨imageId, by simp [held, hexpected],
              ⟨hcommand, head, message, hcontrols, hnames⟩, ?_⟩
            refine List.Subperm.trans (List.Perm.subperm ?_) hsub
            -- A retired image stays : its answer may still come behind this one.
            simp only [held, hexpected, refreshActive, Option.map_none, Option.toList_none,
              List.append_nil, Option.map_some, Option.toList_some]
            exact @List.perm_append_comm _ [imageId] _

end ResponseMatcher

/-! ## What the filter does -/

namespace InputFilter

/-- The commands that were taken out name one image each, in the order of `ids`, and each of
them was waited for. -/
def Answers (pieces : List Piece) (ids : List ℕ) : Prop :=
  List.Forall₂ (fun c imageId => ResponseMatcher.Names c.1 imageId ∧ imageId ∈ c.2)
    (pieces.filterMap Piece.command?) ids

theorem Answers.append {pieces pieces' : List Piece} {ids ids' : List ℕ}
    (h : Answers pieces ids) (h' : Answers pieces' ids') :
    Answers (pieces ++ pieces') (ids ++ ids') := by
  rw [Answers, List.filterMap_append]
  exact List.rel_append h h'

/-- What a call of the filter does with the stream : the pieces and what is still pending are the
bytes that were there, and each string that was taken out used up an image. -/
structure Filtered (pending : Bytes) (m : ResponseMatcher) (pieces : List Piece)
    (pending' : Bytes) (m' : ResponseMatcher) : Prop where
  conserves : pieces.flatMap Piece.bytes ++ pending' = pending
  answers : ∃ ids, Answers pieces ids ∧ (ids ++ m'.held).Subperm m.held

theorem Filtered.of_outputs {pending pending' : Bytes} {m m' : ResponseMatcher}
    {pieces : List Piece} (hbytes : pieces.flatMap Piece.bytes ++ pending' = pending)
    (hnone : pieces.filterMap Piece.command? = []) (hheld : m'.held.Sublist m.held) :
    Filtered pending m pieces pending' m' :=
  ⟨hbytes, [], by rw [Answers, hnone]; exact .nil, hheld.subperm⟩

theorem Filtered.trans {x y z : Bytes} {m m' m'' : ResponseMatcher} {pieces pieces' : List Piece}
    (h : Filtered x m pieces y m') (h' : Filtered y m' pieces' z m'') :
    Filtered x m (pieces ++ pieces') z m'' := by
  obtain ⟨hbytes, ids, hids, hheld⟩ := h
  obtain ⟨hbytes', ids', hids', hheld'⟩ := h'
  refine ⟨?_, ids ++ ids', hids.append hids', ?_⟩
  · rw [List.flatMap_append, List.append_assoc, hbytes', hbytes]
  · rw [List.append_assoc]
    exact ((List.subperm_append_left ids).2 hheld').trans hheld

/-- The part in front of the first command. -/
theorem filtered_lead (x : Bytes) (start : ℕ) (m : ResponseMatcher) :
    Filtered x m (lead x start) (x.drop start) m := by
  unfold lead
  refine .of_outputs ?_ (by split_ifs <;> rfl) (List.Sublist.refl _)
  split_ifs with h
  · simp [Piece.bytes]
  · simp [show start = 0 by omega]

/-- A command, as the matcher decides. -/
theorem filtered_command (x : Bytes) (n now : ℕ) (m : ResponseMatcher) :
    Filtered x m [.ofResult (x.take n) (m.expireAt now).held (m.consume now (x.take n)).1]
      (x.drop n) (m.consume now (x.take n)).2 := by
  rcases h : m.consume now (x.take n) with ⟨_ | response, m'⟩
  · exact .of_outputs (by simp [Piece.ofResult, Piece.bytes]) rfl
      (ResponseMatcher.held_consume_none h)
  · obtain ⟨imageId, hmem, hnames, hheld⟩ := ResponseMatcher.held_consume_some h
    exact ⟨by simp [Piece.ofResult, Piece.bytes], [imageId], .cons ⟨hnames, hmem⟩ .nil, hheld⟩

theorem loop_filtered (clock : ℕ → ℕ) (fuel k : ℕ) (x : Bytes) (m : ResponseMatcher) :
    Filtered x m (loop clock fuel k x m).1 (loop clock fuel k x m).2.1
      (loop clock fuel k x m).2.2 := by
  induction fuel generalizing k x m with
  | zero => exact .of_outputs rfl rfl (List.Sublist.refl _)
  | succ fuel ih =>
    cases hstart : findSubsequence kittyPrefix x with
    | none =>
      simp only [loop, hstart]
      exact filtered_lead x (x.length - keep x) m
    | some start =>
      have hlead := filtered_lead x start m
      cases hstop : findSubsequence kittySuffix (x.drop start) with
      | none =>
        simp only [loop, hstart, hstop]
        split_ifs with hlong
        · exact hlead.trans (.of_outputs (by simp [Piece.bytes]) rfl (List.Sublist.refl _))
        · exact hlead
      | some stop =>
        simp only [loop, hstart, hstop]
        have hcommand := filtered_command (x.drop start) (stop + 2) (clock k) m
        exact hlead.trans (hcommand.trans (ih (k + 1) _ _))

/-- The loop ends with less fuel than there are bytes : each turn that goes on takes some. -/
theorem loop_fuel (clock : ℕ → ℕ) {n n' : ℕ} (k : ℕ) {x : Bytes} (m : ResponseMatcher)
    (hn : x.length < n) (hn' : x.length < n') : loop clock n k x m = loop clock n' k x m := by
  induction n generalizing n' k x m with
  | zero => omega
  | succ n ih =>
    obtain ⟨n', rfl⟩ : ∃ j, n' = j + 1 := ⟨n' - 1, by omega⟩
    cases hstart : findSubsequence kittyPrefix x with
    | none => simp only [loop, hstart]
    | some start =>
      cases hstop : findSubsequence kittySuffix (x.drop start) with
      | none => simp only [loop, hstart, hstop]
      | some stop =>
        have hle := findSubsequence_le hstop
        have hlen : ((x.drop start).drop (stop + 2)).length < x.length := by
          have hsuffix : kittySuffix.length = 2 := by decide
          rw [hsuffix, List.length_drop] at hle
          simp only [List.length_drop]
          omega
        have hrest (m' : ResponseMatcher) :
            loop clock n (k + 1) ((x.drop start).drop (stop + 2)) m' =
              loop clock n' (k + 1) ((x.drop start).drop (stop + 2)) m' :=
          ih (k + 1) m' (Nat.lt_of_lt_of_le hlen (by omega)) (Nat.lt_of_lt_of_le hlen (by omega))
        simp only [loop, hstart, hstop, hrest]

theorem push_filtered (f : InputFilter) (bytes : Bytes) (m : ResponseMatcher) (clock : ℕ → ℕ) :
    Filtered (f.pending ++ bytes) m (f.push bytes m clock).1 (f.push bytes m clock).2.1.pending
      (f.push bytes m clock).2.2 := by
  have hheld := ResponseMatcher.held_expireAt m (clock 0)
  have hexpire : Filtered (f.pending ++ bytes) m [] (f.pending ++ bytes) (m.expireAt (clock 0)) :=
    .of_outputs rfl rfl hheld
  unfold push
  simp only
  split_ifs with h
  · exact hexpire.trans (.of_outputs (by simp [Piece.bytes]) rfl (List.Sublist.refl _))
  · exact hexpire.trans (loop_filtered clock _ 1 _ _)

end InputFilter

end Zynk
