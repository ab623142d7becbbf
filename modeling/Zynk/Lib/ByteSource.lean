import Mathlib.Data.List.Basic

/-!
# Byte sources

A source answers a read with some of its bytes, with an interruption or with a failure; how many
bytes a read is given is up to the source. `readExact` is the loop that reads until a buffer is
full.

For a source that never fails, what the loop reads depends on the bytes only, not on the pieces
they come in : it reads as many bytes as it was asked for and leaves the others
(`readExact_of_le`), or it meets the end (`readExact_of_lt`).
-/

namespace ByteSource

variable {ε : Type*}

/-- What the source has for a read. No bytes are the end. -/
inductive Event (ε : Type*) where
  | data (bytes : List UInt8)
  | interrupted
  | failed (error : ε)
  deriving DecidableEq, Repr

inductive Failure (ε : Type*) where
  | eof
  | other (error : ε)
  deriving DecidableEq, Repr

def Event.bytes : Event ε → List UInt8
  | .data bytes => bytes
  | _ => []

/-- The bytes of the source, whatever the pieces. -/
def bytes (source : List (Event ε)) : List UInt8 :=
  source.flatMap Event.bytes

/-- Bytes or an interruption. -/
def Event.Sound : Event ε → Prop
  | .data bytes => bytes ≠ []
  | .interrupted => True
  | .failed _ => False

/-- The source has no failures, and its end is the end. -/
def Sound (source : List (Event ε)) : Prop :=
  ∀ e ∈ source, e.Sound

/-- Read `n` bytes. Interrupted reads are tried again. -/
def readExact : ℕ → List (Event ε) → Except (Failure ε) (List UInt8) × List (Event ε)
  | 0, source => (.ok [], source)
  | _ + 1, [] => (.error .eof, [])
  | n + 1, .interrupted :: source => readExact (n + 1) source
  | _ + 1, .failed error :: source => (.error (.other error), source)
  | n + 1, .data bytes :: source =>
    if bytes = [] then (.error .eof, source)
    else if n + 1 < bytes.length then
      (.ok (bytes.take (n + 1)), .data (bytes.drop (n + 1)) :: source)
    else
      let next := readExact (n + 1 - bytes.length) source
      (next.1.map (bytes ++ ·), next.2)

@[simp] theorem bytes_nil : bytes ([] : List (Event ε)) = [] :=
  rfl

@[simp] theorem bytes_cons (e : Event ε) (source : List (Event ε)) :
    bytes (e :: source) = e.bytes ++ bytes source :=
  rfl

variable {n : ℕ} {source : List (Event ε)}

theorem readExact_of_le (h : Sound source) (hle : n ≤ (bytes source).length) :
    ∃ rest, readExact n source = (.ok ((bytes source).take n), rest) ∧
      bytes rest = (bytes source).drop n ∧ Sound rest := by
  fun_induction readExact n source with
  | case1 source => exact ⟨source, rfl, rfl, h⟩
  | case2 => simp at hle
  | case3 n source ih => exact ih (fun e he => h e (by simp [he])) hle
  | case4 n error source => exact absurd (h (.failed error) (by simp)) id
  | case5 n source => exact absurd rfl (h (.data []) (by simp))
  | case6 n data source hnil hlt =>
    have hle' : n + 1 ≤ data.length := by omega
    refine ⟨.data (data.drop (n + 1)) :: source, ?_, ?_, fun e he => ?_⟩
    · rw [bytes_cons, Event.bytes, List.take_append_of_le_length hle']
    · rw [bytes_cons, bytes_cons, Event.bytes, Event.bytes, List.drop_append_of_le_length hle']
    · rcases List.mem_cons.1 he with rfl | he
      · have hlen : (data.drop (n + 1)).length ≠ 0 := by
          rw [List.length_drop]
          omega
        exact fun hdrop => hlen (by rw [hdrop]; rfl)
      · exact h e (by simp [he])
  | case7 n data source hnil hlt next ih =>
    have hlen : data.length ≤ n + 1 := by omega
    rw [bytes_cons, Event.bytes, List.length_append] at hle
    obtain ⟨rest, hread, hbytes, hsound⟩ := ih (fun e he => h e (by simp [he])) (by omega)
    refine ⟨rest, ?_, ?_, hsound⟩
    · simp only [next, hread, Except.map, bytes_cons, Event.bytes, List.take_append,
        List.take_of_length_le hlen]
    · rw [hbytes, bytes_cons, Event.bytes, List.drop_append, List.drop_of_length_le hlen,
        List.nil_append]

theorem readExact_of_lt (h : Sound source) (hlt : (bytes source).length < n) :
    (readExact n source).1 = .error .eof := by
  fun_induction readExact n source with
  | case1 source => exact absurd hlt (Nat.not_lt_zero _)
  | case2 => rfl
  | case3 n source ih => exact ih (fun e he => h e (by simp [he])) hlt
  | case4 n error source => exact absurd (h (.failed error) (by simp)) id
  | case5 n source => rfl
  | case6 n data source hnil hlen =>
    rw [bytes_cons, Event.bytes, List.length_append] at hlt
    omega
  | case7 n data source hnil hlen next ih =>
    rw [bytes_cons, Event.bytes, List.length_append] at hlt
    have hread := ih (fun e he => h e (by simp [he])) (by omega)
    simp only [next, hread]
    rfl

end ByteSource
