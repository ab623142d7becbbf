import Zynk.Lib.Run
import Zynk.Pane.Osc

/-!
# Where an OSC string ends

The three machines of `Zynk.Pane.Osc` are the same scanner with two readings of the escapes in a
body. `OscStreamCollector` ends a body at every BEL and at every backslash behind an escape. The
colour trackers take the second of two escapes into the body together with the first, so an escape
is the beginning of a terminator only if the run of escapes it ends is odd, and a BEL behind an odd
run is taken into the body like any byte behind an escape.

`Scanner` is that scanner, with the reading as a parameter : `anyEscape` for the collector and
`pairedEscapes` for the trackers. As long as no body is too long for a machine, the machine is the
scanner at its reading, however the stream is cut (`tracks`, `collects`). The two readings find the
same bodies if and only if no byte of the stream ends a body in one reading alone (`Disputed`).

The collector's test `osc_stream_collector_ignores_strings_and_preserves_escaped_bytes` is about
such a stream : it expects the body of `ESC ] 2;b ESC BEL`.
-/

namespace Zynk.Pane

open Text StepRun

/-! ## The scanner -/

/-- Where a scanner of OSC strings is in a stream. -/
inductive Place where
  | ground
  | escape
  /-- In an OSC string : the bytes behind `ESC ]`, and how many escapes they end in. -/
  | osc (text : Bytes) (escapes : ℕ)
  /-- In a string that is skipped, behind an escape or not. -/
  | ignored (afterEscape : Bool)
  deriving DecidableEq, Repr

/-- Whether a byte ends a body that ends in so many escapes. -/
abbrev Reading := ℕ → UInt8 → Bool

/-- Every BEL, and every backslash behind an escape. -/
def anyEscape : Reading := fun escapes byte =>
  byte == bell || (byte == backslash && 0 < escapes)

/-- Escapes are taken in pairs : a BEL that is not behind a single escape, and a backslash that
is. -/
def pairedEscapes : Reading := fun escapes byte =>
  if escapes % 2 = 0 then byte == bell else byte == backslash

structure Scanner where
  place : Place := .ground
  /-- The bodies found so far. -/
  found : List Bytes := []
  deriving DecidableEq, Repr

namespace Scanner

def read (ends : Reading) (s : Scanner) (byte : UInt8) : Scanner :=
  match s.place with
  | .ground => { s with place := if byte = Pane.escape then .escape else .ground }
  | .escape =>
    { s with
      place :=
        if byte = oscIntro then .osc [] 0
        else if isIgnoredStringIntro byte then .ignored false
        else if byte = Pane.escape then .escape
        else .ground }
  | .osc text escapes =>
    if ends escapes byte then
      -- The escape of the two-byte terminator is not of the body.
      { place := .ground
        found := s.found ++ [if byte = backslash then text.dropLast else text] }
    else
      { s with place := .osc (text ++ [byte]) (if byte = Pane.escape then escapes + 1 else 0) }
  | .ignored afterEscape =>
    if afterEscape ∧ byte = backslash then { s with place := .ground }
    else { s with place := .ignored (byte == Pane.escape) }

/-- The body that is open : its last escape counts only if it is not the beginning of a
terminator. -/
def openBody (ends : Reading) (s : Scanner) : Bytes :=
  match s.place with
  | .osc text escapes => if ends escapes backslash then text.dropLast else text
  | _ => []

/-- As long as it is open, no body of the stream is longer than `limit`. -/
def BodiesWithin (ends : Reading) (limit : ℕ) (s : Scanner) (stream : Bytes) : Prop :=
  Along (read ends) (fun s byte => ((s.read ends byte).openBody ends).length ≤ limit) s stream

instance (ends : Reading) (limit : ℕ) (s : Scanner) (stream : Bytes) :
    Decidable (BodiesWithin ends limit s stream) :=
  decidableAlong s stream

/-- The byte ends the open body in one reading and goes into it in the other. -/
def Disputes (s : Scanner) (byte : UInt8) : Prop :=
  match s.place with
  | .osc _ escapes =>
    (byte = bell ∧ escapes % 2 = 1) ∨ (byte = backslash ∧ escapes % 2 = 0 ∧ 0 < escapes)
  | _ => False

/-- Some byte of the stream is disputed. -/
def Disputed (s : Scanner) (stream : Bytes) : Prop :=
  Occurs (read anyEscape) (fun _ s byte => s.Disputes byte) s stream

end Scanner

/-! ## The trackers are the scanner that takes escapes in pairs -/

/-- The state and the body of a colour tracker at a place. -/
def Place.TrackedAs (place : Place) (state : DefaultColorOscTrackerState) (body : Bytes) : Prop :=
  match place with
  | .ground => state = .ground ∧ body = []
  | .escape => state = .escape ∧ body = []
  | .osc text escapes =>
    if escapes % 2 = 0 then state = .oscBody ∧ body = text
    else state = .oscEscape ∧ body ++ [Pane.escape] = text
  | .ignored afterEscape =>
    state = (if afterEscape then .ignoreStringEscape else .ignoreString) ∧ body = []

namespace DefaultColorEventTracker

structure Tracks (s : Scanner) (t : DefaultColorEventTracker) : Prop where
  place : s.place.TrackedAs t.state t.body
  found : t.finalized = s.found

variable {s : Scanner} {t : DefaultColorEventTracker}

theorem Tracks.body (h : Tracks s t) : t.body = s.openBody pairedEscapes := by
  have hplace := h.place
  rcases hs : s.place with _ | _ | ⟨text, escapes⟩ | afterEscape
  · simp_all [Place.TrackedAs, Scanner.openBody]
  · simp_all [Place.TrackedAs, Scanner.openBody]
  · rw [hs, Place.TrackedAs] at hplace
    by_cases heven : escapes % 2 = 0
    · rw [if_pos heven] at hplace
      simp [Scanner.openBody, hs, pairedEscapes, heven, hplace.2, backslash, bell]
    · rw [if_neg heven] at hplace
      simp [Scanner.openBody, hs, pairedEscapes, heven, ← hplace.2]
  · simp_all [Place.TrackedAs, Scanner.openBody]

theorem Tracks.matchByte (h : Tracks s t) (index : ℕ) (byte : UInt8) :
    Tracks (s.read pairedEscapes byte) (t.matchByte index byte) := by
  obtain ⟨hplace, hfound⟩ := h
  rcases hs : s.place with _ | _ | ⟨text, escapes⟩ | afterEscape
  · obtain ⟨hstate, hbody⟩ : t.state = .ground ∧ t.body = [] := by rwa [hs] at hplace
    by_cases hescape : byte = Pane.escape <;> constructor <;>
      simp [Scanner.read, hs, DefaultColorEventTracker.matchByte, hstate, hescape, hbody,
        Place.TrackedAs, hfound]
  · obtain ⟨hstate, hbody⟩ : t.state = .escape ∧ t.body = [] := by rwa [hs] at hplace
    simp only [Scanner.read, hs, DefaultColorEventTracker.matchByte, hstate]
    split_ifs <;> constructor <;> simp [Place.TrackedAs, hbody, hfound]
  · rw [hs, Place.TrackedAs] at hplace
    simp only [Scanner.read, hs, DefaultColorEventTracker.matchByte, pairedEscapes]
    by_cases heven : escapes % 2 = 0
    · have hnext : (escapes + 1) % 2 = 1 := by omega
      rw [if_pos heven] at hplace
      by_cases hbell : byte = bell
      · constructor <;>
          simp [hplace.1, hplace.2, heven, hbell, Place.TrackedAs, hfound, finalize, bell,
            backslash]
      · by_cases hescape : byte = Pane.escape <;> constructor <;>
          simp [hplace.1, hplace.2, heven, hbell, hescape, Place.TrackedAs, hfound,
            hnext]
    · have hnext : (escapes + 1) % 2 = 0 := by omega
      rw [if_neg heven] at hplace
      by_cases hbackslash : byte = backslash
      · constructor <;>
          simp [hplace.1, ← hplace.2, heven, hbackslash, Place.TrackedAs, hfound, finalize]
      · by_cases hescape : byte = Pane.escape <;> constructor <;>
          simp [hplace.1, ← hplace.2, heven, hbackslash, hescape, Place.TrackedAs, hfound,
            hnext]
  · obtain ⟨hstate, hbody⟩ :
        t.state = (if afterEscape then .ignoreStringEscape else .ignoreString) ∧ t.body = [] := by
      rwa [hs] at hplace
    simp only [Scanner.read, hs, DefaultColorEventTracker.matchByte, hstate]
    cases afterEscape <;> simp <;> split_ifs <;> constructor <;> simp_all [Place.TrackedAs]

/-- While no body is too long, the tracker follows the scanner. -/
theorem Tracks.observeByte (h : Tracks s t) (index : ℕ) (byte : UInt8)
    (hbody : ((s.read pairedEscapes byte).openBody pairedEscapes).length ≤ 1024) :
    Tracks (s.read pairedEscapes byte) (t.observeByte index byte) := by
  have hmatch := h.matchByte index byte
  rw [DefaultColorEventTracker.observeByte, if_neg]
  · exact hmatch
  · rw [hmatch.body]
    omega

theorem Tracks.observeFrom {stream : Bytes} (h : Tracks s t) (index : ℕ)
    (hbodies : s.BodiesWithin pairedEscapes 1024 stream) :
    Tracks (run (Scanner.read pairedEscapes) s stream) (t.observeFrom index stream) := by
  induction stream generalizing s t index with
  | nil => exact h
  | cons byte stream ih => exact ih (h.observeByte index byte hbodies.1) (index + 1) hbodies.2

/-- The bodies of the event tracker are those of the scanner that takes escapes in pairs. -/
theorem finalized_observeChunks (chunks : List Bytes)
    (hbodies : Scanner.BodiesWithin pairedEscapes 1024 {} chunks.flatten) :
    (observeChunks {} chunks).finalized =
      (run (Scanner.read pairedEscapes) {} chunks.flatten).found := by
  have hstart : Tracks {} {} := ⟨⟨rfl, rfl⟩, rfl⟩
  exact (run_flatten (fun _ _ _ h => h.observeFrom 0) chunks hstart hbodies).found

end DefaultColorEventTracker

/-! ## The two trackers are in step -/

namespace DefaultColorOscTracker

/-- The trackers are in one state, and have looked into the same bodies. -/
structure InStep (t : DefaultColorOscTracker) (u : DefaultColorEventTracker) : Prop where
  state : t.state = u.state
  body : t.body = u.body
  examined : t.examined = u.finalized

/-- Whether a setting of a default colour is among the events. -/
def anySet (events : List DefaultColorTrackedEvent) : Bool :=
  events.any fun tracked => tracked.event.isSet

variable {t : DefaultColorOscTracker} {u : DefaultColorEventTracker}

theorem InStep.matchByte (h : InStep t u) (index : ℕ) (byte : UInt8) :
    InStep (t.matchByte byte).1 (u.matchByte index byte) ∧
      anySet (u.matchByte index byte).pending = (anySet u.pending || (t.matchByte byte).2) := by
  obtain ⟨state, body, examined⟩ := t
  obtain ⟨_, _, pending, _⟩ := u
  obtain ⟨rfl, rfl, rfl⟩ := h
  have hexamined : anySet (pending ++ (parseDefaultColorEvents body).map fun event =>
      ⟨index + 1, event⟩) = (anySet pending || isDefaultColorSetOsc body) := by
    simp [anySet, isDefaultColorSetOsc, List.any_append, List.any_map, Function.comp_def]
  cases state <;>
    simp only [DefaultColorOscTracker.matchByte, DefaultColorEventTracker.matchByte] <;>
    split_ifs <;>
    first
    | exact ⟨⟨rfl, rfl, rfl⟩, (Bool.or_false _).symm⟩
    | exact ⟨⟨rfl, rfl, rfl⟩, hexamined⟩

theorem InStep.observeByte (h : InStep t u) (index : ℕ) (byte : UInt8) :
    InStep (t.observeByte byte).1 (u.observeByte index byte) ∧
      anySet (u.observeByte index byte).pending = (anySet u.pending || (t.observeByte byte).2) := by
  obtain ⟨⟨hstate, hbody, hexamined⟩, hset⟩ := h.matchByte index byte
  simp only [DefaultColorOscTracker.observeByte, DefaultColorEventTracker.observeByte, hbody]
  split_ifs
  · exact ⟨⟨rfl, rfl, hexamined⟩, hset⟩
  · exact ⟨⟨hstate, hbody, hexamined⟩, hset⟩

/-- The tracker reports a setting of a default colour if and only if the event tracker finds one
in the same chunk. -/
theorem InStep.observeFrom {chunk : Bytes} (h : InStep t u) (index : ℕ) :
    InStep (t.observe chunk).1 (u.observeFrom index chunk) ∧
      anySet (u.observeFrom index chunk).pending = (anySet u.pending || (t.observe chunk).2) := by
  induction chunk generalizing t u index with
  | nil => exact ⟨h, (Bool.or_false _).symm⟩
  | cons byte chunk ih =>
    obtain ⟨hnext, hset⟩ := h.observeByte index byte
    obtain ⟨hrest, hsets⟩ := ih hnext (index + 1)
    refine ⟨hrest, ?_⟩
    calc anySet ((u.observeByte index byte).observeFrom (index + 1) chunk).pending
        = (anySet (u.observeByte index byte).pending || ((t.observeByte byte).1.observe chunk).2) :=
          hsets
      _ = (anySet u.pending || (t.observe (byte :: chunk)).2) := by
          rw [hset, Bool.or_assoc]
          rfl

theorem InStep.observeChunks (h : InStep t u) (chunks : List Bytes) :
    InStep (t.observeChunks chunks) (u.observeChunks chunks) := by
  induction chunks generalizing t u with
  | nil => exact h
  | cons chunk chunks ih => exact ih (h.observeFrom 0).1

theorem examined_observeChunks (chunks : List Bytes) :
    (observeChunks {} chunks).examined =
      (DefaultColorEventTracker.observeChunks {} chunks).finalized := by
  have hstart : InStep {} {} := ⟨rfl, rfl, rfl⟩
  exact (hstart.observeChunks chunks).examined

end DefaultColorOscTracker

/-! ## The collector is the scanner that ends a body behind every escape -/

/-- The state and the body of the collector at a place. -/
def Place.CollectedAs (place : Place) (state : OscStreamState) (body : Bytes) : Prop :=
  match place with
  | .ground => state = .ground
  | .escape => state = .escape
  | .osc text escapes =>
    if escapes = 0 then state = .body ∧ body = text
    else state = .bodyEscape ∧ body ++ [Pane.escape] = text
  | .ignored afterEscape =>
    state = if afterEscape then .ignoringStringEscape else .ignoringString

namespace OscStreamCollector

structure Collects (s : Scanner) (c : OscStreamCollector) (received : List Bytes) : Prop where
  place : s.place.CollectedAs c.state c.body
  found : received = s.found
  within : (s.openBody anyEscape).length ≤ 1024

variable {s : Scanner} {c : OscStreamCollector} {received : List Bytes}

theorem push_eq (hbody : c.body.length < 4096) (byte : UInt8) :
    c.push byte = { state := .body, body := c.body ++ [byte] } := by
  rw [push, if_neg]
  simp [maxBodyBytes]
  omega

theorem Collects.observeByte (h : Collects s c received) (byte : UInt8)
    (hbody : ((s.read anyEscape byte).openBody anyEscape).length ≤ 1024) :
    Collects (s.read anyEscape byte) (c.observeByte byte).1
      (received ++ (c.observeByte byte).2) := by
  obtain ⟨hplace, rfl, hwithin⟩ := h
  suffices hfollows : (s.read anyEscape byte).place.CollectedAs (c.observeByte byte).1.state
      (c.observeByte byte).1.body ∧
      s.found ++ (c.observeByte byte).2 = (s.read anyEscape byte).found from
    ⟨hfollows.1, hfollows.2, hbody⟩
  rcases hs : s.place with _ | _ | ⟨text, escapes⟩ | afterEscape
  · have hstate : c.state = .ground := by rwa [hs] at hplace
    simp only [Scanner.read, hs, OscStreamCollector.observeByte, hstate]
    split_ifs <;> simp [Place.CollectedAs, hstate]
  · have hstate : c.state = .escape := by rwa [hs] at hplace
    simp only [Scanner.read, hs, OscStreamCollector.observeByte, hstate]
    split_ifs <;> simp_all [Place.CollectedAs]
  · rw [hs, Place.CollectedAs] at hplace
    simp only [Scanner.openBody, hs, anyEscape] at hwithin
    simp only [Scanner.read, hs, OscStreamCollector.observeByte, anyEscape]
    by_cases hescapes : escapes = 0
    · rw [if_pos hescapes] at hplace
      have hpush := push_eq (c := c) (by simp_all [backslash, bell]; omega) byte
      by_cases hbell : byte = bell
      · simp [hplace.1, hplace.2, hescapes, hbell, Place.CollectedAs, finish]
      · by_cases hescape : byte = Pane.escape <;>
          simp [hplace.1, hplace.2, hescapes, hbell, hescape, hpush, Place.CollectedAs]
    · rw [if_neg hescapes] at hplace
      have hlength : c.body.length ≤ 1024 := by
        simpa [← hplace.2, Nat.pos_of_ne_zero hescapes] using hwithin
      have hpush := push_eq (c := c) (by omega) Pane.escape
      have hpushed : push { state := .body, body := text } byte =
          { state := .body, body := text ++ [byte] } :=
        push_eq (by simp [← hplace.2]; omega) byte
      rw [hplace.2] at hpush
      by_cases hbackslash : byte = backslash
      · simp [hplace.1, ← hplace.2, hbackslash, Nat.pos_of_ne_zero hescapes, Place.CollectedAs,
          finish]
      · by_cases hbell : byte = bell
        · simp [hplace.1, hbell, hpush, Place.CollectedAs, finish]
        · by_cases hescape : byte = Pane.escape
          · simp [hplace.1, hescape, hpush, Place.CollectedAs]
          · simp [hplace.1, hbackslash, hbell, hescape, hpush, hpushed, Place.CollectedAs]
  · have hstate : c.state = if afterEscape then .ignoringStringEscape else .ignoringString := by
      rwa [hs] at hplace
    simp only [Scanner.read, hs, OscStreamCollector.observeByte, hstate]
    cases afterEscape <;> simp <;> split_ifs <;> simp_all [Place.CollectedAs]

theorem Collects.observe {stream : Bytes} (h : Collects s c received)
    (hbodies : s.BodiesWithin anyEscape 1024 stream) :
    Collects (run (Scanner.read anyEscape) s stream) (c.observe stream).1
      (received ++ (c.observe stream).2) := by
  induction stream generalizing s c received with
  | nil => simpa [OscStreamCollector.observe] using h
  | cons byte stream ih =>
    have hrest := ih (h.observeByte byte hbodies.1) hbodies.2
    rwa [List.append_assoc] at hrest

theorem Collects.observeChunks (h : Collects s c received) (chunks : List Bytes)
    (hbodies : s.BodiesWithin anyEscape 1024 chunks.flatten) :
    Collects (run (Scanner.read anyEscape) s chunks.flatten) (c.observeChunks chunks).1
      (received ++ (c.observeChunks chunks).2) := by
  induction chunks generalizing s c received with
  | nil => simpa [OscStreamCollector.observeChunks] using h
  | cons chunk chunks ih =>
    obtain ⟨hchunk, hchunks⟩ := along_append.1 hbodies
    have hrest := ih (h.observe hchunk) hchunks
    rw [List.append_assoc, ← run_append] at hrest
    exact hrest

/-- The bodies the receiver gets are those of the scanner that ends a body behind every escape. -/
theorem received_observeChunks (chunks : List Bytes)
    (hbodies : Scanner.BodiesWithin anyEscape 1024 {} chunks.flatten) :
    (observeChunks {} chunks).2 = (run (Scanner.read anyEscape) {} chunks.flatten).found := by
  have hstart : Collects {} {} [] := ⟨rfl, rfl, Nat.zero_le _⟩
  simpa using (hstart.observeChunks chunks hbodies).found

end OscStreamCollector

/-! ## The two readings -/

namespace Scanner

variable {s : Scanner} {byte : UInt8} {stream : Bytes}

theorem read_of_not_disputes (h : ¬ s.Disputes byte) :
    s.read pairedEscapes byte = s.read anyEscape byte := by
  rcases hs : s.place with _ | _ | ⟨text, escapes⟩ | afterEscape
  · simp [read, hs]
  · simp [read, hs]
  · have hends : pairedEscapes escapes byte = anyEscape escapes byte := by
      simp only [Disputes, hs, not_or, not_and] at h
      obtain ⟨hbell, hbackslash⟩ := h
      rcases Nat.mod_two_eq_zero_or_one escapes with hmod | hmod
      · have hescapes : byte = backslash → escapes = 0 := fun hbyte => by
          have := hbackslash hbyte hmod
          omega
        by_cases hbyte : byte = backslash
        · simp [pairedEscapes, anyEscape, hbyte, hescapes hbyte]
        · simp [pairedEscapes, anyEscape, hbyte, hmod]
      · have hescapes : 0 < escapes := by omega
        have hbyte : byte ≠ bell := fun hbyte => hbell hbyte hmod
        simp [pairedEscapes, anyEscape, hbyte, hmod, hescapes]
    simp [read, hs, hends]
  · simp [read, hs]

/-- At a disputed byte the collector's reading finds a body, and the trackers' goes on with a text
that is longer. -/
theorem read_of_disputes (h : s.Disputes byte) :
    ∃ text escapes body, s.place = .osc text escapes ∧ body.length ≤ text.length ∧
      s.read anyEscape byte = { place := .ground, found := s.found ++ [body] } ∧
      s.read pairedEscapes byte = { s with place := .osc (text ++ [byte]) 0 } := by
  rcases hs : s.place with _ | _ | ⟨text, escapes⟩ | afterEscape
  · simp [Disputes, hs] at h
  · simp [Disputes, hs] at h
  · simp only [Disputes, hs] at h
    rcases h with ⟨rfl, hodd⟩ | ⟨rfl, heven, hescapes⟩
    · exact ⟨text, escapes, text, rfl, Nat.le_refl _, by simp [read, hs, anyEscape],
        by simp [read, hs, pairedEscapes, hodd, bell, backslash, Pane.escape]⟩
    · exact ⟨text, escapes, text.dropLast, rfl, by simp, by simp [read, hs, anyEscape, hescapes],
        by simp [read, hs, pairedEscapes, heven]⟩
  · simp [Disputes, hs] at h

/-- What is found will be longer than `length` : the body behind the bodies `before` is open, or it
was found. -/
def Beyond (before : List Bytes) (length : ℕ) (s : Scanner) : Prop :=
  (s.found = before ∧
      ∃ text escapes, s.place = .osc text escapes ∧ length + escapes < text.length) ∨
    ∃ body after, s.found = before ++ body :: after ∧ length < body.length

/-- What is found stays. -/
theorem found_read (ends : Reading) (s : Scanner) (byte : UInt8) :
    ∃ more, (s.read ends byte).found = s.found ++ more := by
  rcases hs : s.place with _ | _ | ⟨text, escapes⟩ | afterEscape
  · exact ⟨[], by simp [read, hs]⟩
  · exact ⟨[], by simp [read, hs]⟩
  · by_cases hends : ends escapes byte
    · exact ⟨[if byte = backslash then text.dropLast else text], by simp [read, hs, hends]⟩
    · exact ⟨[], by simp [read, hs, hends]⟩
  · by_cases hends : afterEscape ∧ byte = backslash
    · exact ⟨[], by simp [read, hs, hends]⟩
    · exact ⟨[], by simp [read, hs, hends]⟩

theorem found_run (ends : Reading) (s : Scanner) (stream : Bytes) :
    ∃ more, (run (read ends) s stream).found = s.found ++ more := by
  refine run_invariant (I := fun t : Scanner => ∃ more, t.found = s.found ++ more) ?_
    ⟨[], (List.append_nil _).symm⟩ stream
  rintro t byte ⟨more, hmore⟩
  obtain ⟨further, hfurther⟩ := found_read ends t byte
  exact ⟨more ++ further, by rw [hfurther, hmore, List.append_assoc]⟩

theorem Beyond.read {before : List Bytes} {length : ℕ} (h : Beyond before length s)
    (byte : UInt8) : Beyond before length (s.read pairedEscapes byte) := by
  rcases h with ⟨hfound, text, escapes, hplace, hlength⟩ | ⟨body, after, hfound, hlength⟩
  · by_cases hends : pairedEscapes escapes byte
    · refine .inr ⟨if byte = backslash then text.dropLast else text, [], ?_, ?_⟩
      · simp [Scanner.read, hplace, hends, hfound]
      · by_cases hbyte : byte = backslash
        · -- The escape that is dropped is one of those that were counted.
          have hescapes : escapes % 2 ≠ 0 := fun heven => by
            simp [pairedEscapes, heven, hbyte] at hends
          rw [if_pos hbyte, List.length_dropLast]
          omega
        · rw [if_neg hbyte]
          omega
    · refine .inl ⟨by simp [Scanner.read, hplace, hends, hfound], text ++ [byte], _,
        by simp only [Scanner.read, hplace, hends]; rfl, ?_⟩
      rw [List.length_append, List.length_singleton]
      split_ifs <;> omega
  · obtain ⟨more, hmore⟩ := found_read pairedEscapes s byte
    exact .inr ⟨body, after ++ more, by rw [hmore, hfound, List.append_assoc, List.cons_append],
      hlength⟩

/-- After a disputed byte the two readings never agree again. -/
theorem found_ne_of_disputes (h : s.Disputes byte) (stream : Bytes) :
    (run (read pairedEscapes) (s.read pairedEscapes byte) stream).found ≠
      (run (read anyEscape) (s.read anyEscape byte) stream).found := by
  obtain ⟨text, escapes, body, -, hbody, hany, hpaired⟩ := read_of_disputes h
  have hbeyond : Beyond s.found body.length
      (run (read pairedEscapes) (s.read pairedEscapes byte) stream) := by
    refine run_invariant (fun t byte ht => ht.read byte) ?_ stream
    rw [hpaired]
    refine .inl ⟨rfl, text ++ [byte], 0, rfl, ?_⟩
    rw [List.length_append, List.length_singleton]
    omega
  obtain ⟨more, hmore⟩ := found_run anyEscape (s.read anyEscape byte) stream
  rw [hany, List.append_assoc, List.singleton_append] at hmore
  rw [hany, hmore]
  rcases hbeyond with ⟨hfound, -⟩ | ⟨longer, after, hfound, hlonger⟩
  · rw [hfound]
    simp
  · rw [hfound]
    intro heq
    obtain ⟨rfl, -⟩ := List.cons.inj (List.append_cancel_left heq)
    exact Nat.lt_irrefl _ hlonger

/-- The two readings find the same bodies exactly when no byte is disputed. -/
theorem found_eq_iff (s : Scanner) (stream : Bytes) :
    (run (read pairedEscapes) s stream).found = (run (read anyEscape) s stream).found ↔
      ¬ s.Disputed stream := by
  induction stream generalizing s with
  | nil => simp [Disputed]
  | cons byte stream ih =>
    rw [Disputed, occurs_cons, run_cons, run_cons]
    by_cases hbyte : s.Disputes byte
    · exact iff_of_false (found_ne_of_disputes hbyte stream) (not_not_intro (.inl hbyte))
    · rw [read_of_not_disputes hbyte, ih, or_iff_right hbyte]
      rfl

end Scanner

/-! ## The trackers and the collector -/

/-- In the stream of the chunks no body is longer than 1024 bytes, in either reading. -/
def NoLongBody (chunks : List Bytes) : Prop :=
  Scanner.BodiesWithin pairedEscapes 1024 {} chunks.flatten ∧
    Scanner.BodiesWithin anyEscape 1024 {} chunks.flatten

instance (chunks : List Bytes) : Decidable (NoLongBody chunks) :=
  inferInstanceAs (Decidable (_ ∧ _))

/-- The three machines find the same bodies in the same order. -/
def TrackersAgree (chunks : List Bytes) : Prop :=
  (DefaultColorOscTracker.observeChunks {} chunks).examined =
      (DefaultColorEventTracker.observeChunks {} chunks).finalized ∧
    (DefaultColorEventTracker.observeChunks {} chunks).finalized =
      (OscStreamCollector.observeChunks {} chunks).2

instance (chunks : List Bytes) : Decidable (TrackersAgree chunks) :=
  inferInstanceAs (Decidable (_ ∧ _))

/-- The machines agree if and only if no BEL in a body stands behind an odd number of escapes, and
no backslash behind an even number but none. -/
theorem trackers_agree_iff (chunks : List Bytes) (hbodies : NoLongBody chunks) :
    TrackersAgree chunks ↔ ¬ Scanner.Disputed {} chunks.flatten := by
  have hcollector := OscStreamCollector.received_observeChunks chunks hbodies.2
  have htracker := DefaultColorEventTracker.finalized_observeChunks chunks hbodies.1
  rw [TrackersAgree, and_iff_right (DefaultColorOscTracker.examined_observeChunks chunks),
    htracker, hcollector]
  exact Scanner.found_eq_iff {} chunks.flatten

/-- A title between two chunks. -/
theorem trackers_agree_iff_title :
    NoLongBody [ascii "a\x1b]2;ti", ascii "tle\x1b\\b"] ∧
      (TrackersAgree [ascii "a\x1b]2;ti", ascii "tle\x1b\\b"] ↔
        ¬ Scanner.Disputed {} (ascii "a\x1b]2;title\x1b\\b")) := by
  have hbodies : NoLongBody [ascii "a\x1b]2;ti", ascii "tle\x1b\\b"] := by decide
  exact ⟨hbodies, trackers_agree_iff _ hbodies⟩

/-- A title that ends in an escape before the BEL : the collector gets it, and the trackers take
the next title into its body. -/
theorem trackers_disagree :
    ¬ ∀ chunks : List Bytes, NoLongBody chunks → TrackersAgree chunks := by
  intro hagree
  have htitle := hagree [ascii "\x1b]2;b\x1b\x07\x1b]2;c\x07"] (by decide)
  revert htitle
  decide

end Zynk.Pane
