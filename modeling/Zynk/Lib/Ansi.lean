import Zynk.Lib.Text

/-!
# Terminal output

A terminal reads its output byte by byte. `read` is the part of its parser that tells what is
printed from control sequences (`CSI`), operating system commands (`OSC`) and control bytes, and
`linkAfter` is the hyperlink that `OSC 8` leaves active. Output that is written in whole sequences
is read piece by piece (`read_append`), and what each piece is read as is determined by it alone
(`read_printable`, `read_csi`, `read_osc`).

`Reads` is what a piece of output does, from one active hyperlink to the next : which bytes it
prints under which hyperlink, with every hyperlink closed before another one is opened.
-/

namespace Ansi

/-- What a terminal makes of its output. -/
inductive Event where
  | print (b : UInt8)
  | csi (params : Bytes) (final : UInt8)
  | osc (payload : Bytes)
  /-- A control byte, or a sequence of another kind. -/
  | control (b : UInt8)
  deriving DecidableEq, Repr

/-- The state of the parser. -/
inductive State where
  | ground
  | escape
  | csi (params : Bytes)
  | osc (payload : Bytes)
  | oscEscape (payload : Bytes)
  deriving DecidableEq, Repr

/-- A control byte of ASCII. The continuation bytes of UTF-8 are none. -/
def isControlByte (b : UInt8) : Bool :=
  b.toNat < 0x20 || b.toNat == 0x7F

/-- A byte between `CSI` and its final byte. -/
def isParamByte (b : UInt8) : Bool :=
  0x20 ≤ b.toNat && b.toNat < 0x40

def isFinalByte (b : UInt8) : Bool :=
  0x40 ≤ b.toNat && b.toNat < 0x7F

/-- One byte. -/
def step : State → UInt8 → State × List Event
  | .ground, b =>
    if b = 0x1B then (.escape, [])
    else if isControlByte b then (.ground, [.control b])
    else (.ground, [.print b])
  | .escape, b =>
    if b = 0x5B then (.csi [], [])
    else if b = 0x5D then (.osc [], [])
    else (.ground, [.control b])
  | .csi params, b =>
    if isFinalByte b then (.ground, [.csi params b])
    else if isParamByte b then (.csi (params ++ [b]), [])
    else (.ground, [.control b])
  | .osc payload, b =>
    if b = 0x1B then (.oscEscape payload, [])
    else if b = 0x07 then (.ground, [.osc payload])
    else if isControlByte b then (.ground, [.control b])
    else (.osc (payload ++ [b]), [])
  | .oscEscape payload, b =>
    if b = 0x5C then (.ground, [.osc payload])
    else (.ground, [.control b])

/-- Some output. -/
def read : State → Bytes → State × List Event
  | s, [] => (s, [])
  | s, b :: bytes =>
    let next := step s b
    let rest := read next.1 bytes
    (rest.1, next.2 ++ rest.2)

/-- The sequence that starts a control sequence. -/
def csi (params : Bytes) (final : UInt8) : Bytes :=
  0x1B :: 0x5B :: (params ++ [final])

/-- An operating system command, with its terminator. -/
def osc (payload : Bytes) : Bytes :=
  0x1B :: 0x5D :: (payload ++ [0x1B, 0x5C])

/-! ## Reading pieces -/

theorem read_cons (s : State) (b : UInt8) (bytes : Bytes) : read s (b :: bytes) =
    ((read (step s b).1 bytes).1, (step s b).2 ++ (read (step s b).1 bytes).2) :=
  rfl

theorem read_append (s : State) (a b : Bytes) : read s (a ++ b) =
    ((read (read s a).1 b).1, (read s a).2 ++ (read (read s a).1 b).2) := by
  induction a generalizing s with
  | nil => rfl
  | cons c a ih => rw [List.cons_append, read_cons, ih, read_cons, List.append_assoc]

/-- Printable bytes are printed. -/
theorem read_printable {bytes : Bytes} (h : ∀ b ∈ bytes, isControlByte b = false) :
    read .ground bytes = (.ground, bytes.map .print) := by
  induction bytes with
  | nil => rfl
  | cons b bytes ih =>
    have hb := h b List.mem_cons_self
    have hesc : b ≠ 0x1B := by
      rintro rfl
      exact absurd hb (by decide)
    rw [read_cons, step, if_neg hesc, hb, if_neg Bool.false_ne_true,
      ih fun c hc => h c (List.mem_cons_of_mem b hc)]
    rfl

theorem isFinalByte_of_isParamByte {b : UInt8} (h : isParamByte b = true) :
    isFinalByte b = false := by
  simp only [isParamByte, Bool.and_eq_true, decide_eq_true_eq] at h
  simp only [isFinalByte, Bool.and_eq_false_iff, decide_eq_false_iff_not]
  omega

theorem read_params (params : Bytes) {more : Bytes} (hmore : ∀ b ∈ more, isParamByte b = true)
    {final : UInt8} (hfinal : isFinalByte final = true) :
    read (.csi params) (more ++ [final]) = (.ground, [.csi (params ++ more) final]) := by
  induction more generalizing params with
  | nil => simp [read, step, hfinal]
  | cons b more ih =>
    have hb := hmore b List.mem_cons_self
    rw [List.cons_append, read_cons, step, isFinalByte_of_isParamByte hb,
      if_neg Bool.false_ne_true, hb, if_pos rfl,
      ih _ fun c hc => hmore c (List.mem_cons_of_mem b hc)]
    simp

/-- A control sequence is read as one. -/
theorem read_csi {params : Bytes} (hparams : ∀ b ∈ params, isParamByte b = true) {final : UInt8}
    (hfinal : isFinalByte final = true) :
    read .ground (csi params final) = (.ground, [.csi params final]) := by
  have hread : read .ground (csi params final) = read (.csi []) (params ++ [final]) := rfl
  rw [hread, read_params [] hparams hfinal, List.nil_append]

theorem read_payload (payload : Bytes) {more : Bytes}
    (hmore : ∀ b ∈ more, isControlByte b = false) :
    read (.osc payload) (more ++ [0x1B, 0x5C]) = (.ground, [.osc (payload ++ more)]) := by
  induction more generalizing payload with
  | nil => simp [read, step]
  | cons b more ih =>
    have hb := hmore b List.mem_cons_self
    have hesc : b ≠ 0x1B := by
      rintro rfl
      exact absurd hb (by decide)
    have hbel : b ≠ 0x07 := by
      rintro rfl
      exact absurd hb (by decide)
    rw [List.cons_append, read_cons, step, if_neg hesc, if_neg hbel, hb,
      if_neg Bool.false_ne_true, ih _ fun c hc => hmore c (List.mem_cons_of_mem b hc)]
    simp

/-- A command without control bytes is read as one. -/
theorem read_osc {payload : Bytes} (h : ∀ b ∈ payload, isControlByte b = false) :
    read .ground (osc payload) = (.ground, [.osc payload]) := by
  have hread : read .ground (osc payload) = read (.osc []) (payload ++ [0x1B, 0x5C]) := rfl
  rw [hread, read_payload [] h, List.nil_append]

/-! ## Hyperlinks -/

/-- The URI of `OSC 8 ; params ; URI`. -/
def hyperlinkOf (payload : Bytes) : Option Bytes :=
  match ([0x38, 0x3B] : Bytes).isPrefixOf? payload with
  | some rest => some ((rest.dropWhile fun b => b ≠ 0x3B).drop 1)
  | none => none

/-- The command that opens a hyperlink, or with no URI closes it. -/
def hyperlink (uri : Bytes) : Bytes :=
  [0x38, 0x3B, 0x3B] ++ uri

theorem hyperlinkOf_hyperlink (uri : Bytes) : hyperlinkOf (hyperlink uri) = some uri :=
  rfl

/-- The active hyperlink after an event. -/
def linkAfter (link : Option Bytes) : Event → Option Bytes
  | .osc payload =>
    match hyperlinkOf payload with
    | some uri => if uri = [] then none else some uri
    | none => link
  | _ => link

/-- What is printed, each byte with the hyperlink it is printed under. -/
def printed : Option Bytes → List Event → List (UInt8 × Option Bytes)
  | _, [] => []
  | link, .print b :: events => (b, link) :: printed link events
  | link, event :: events => printed (linkAfter link event) events

/-- The event opens a hyperlink. -/
def opens : Event → Bool
  | .osc payload => (hyperlinkOf payload).any fun uri => uri ≠ []
  | _ => false

/-- Every hyperlink is closed before another is opened. -/
def ClosesLinks : Option Bytes → List Event → Prop
  | _, [] => True
  | link, event :: events =>
    (opens event = true → link = none) ∧ ClosesLinks (linkAfter link event) events

/-- The active hyperlink after some events. -/
def linkAfterAll (link : Option Bytes) (events : List Event) : Option Bytes :=
  events.foldl linkAfter link

theorem linkAfterAll_append (link : Option Bytes) (a b : List Event) :
    linkAfterAll link (a ++ b) = linkAfterAll (linkAfterAll link a) b :=
  List.foldl_append

theorem printed_append (link : Option Bytes) (a b : List Event) :
    printed link (a ++ b) = printed link a ++ printed (linkAfterAll link a) b := by
  induction a generalizing link with
  | nil => rfl
  | cons event a ih =>
    cases event with
    | print c => exact congrArg _ (ih link)
    | csi params final => exact ih link
    | osc payload => exact ih _
    | control c => exact ih link

theorem closesLinks_append {link : Option Bytes} {a b : List Event} :
    ClosesLinks link (a ++ b) ↔ ClosesLinks link a ∧ ClosesLinks (linkAfterAll link a) b := by
  induction a generalizing link with
  | nil => simp [ClosesLinks, linkAfterAll]
  | cons event a ih =>
    rw [List.cons_append, ClosesLinks, ih, ClosesLinks, and_assoc]
    rfl

variable {allowed : Event → Prop} {link link' link'' : Option Bytes} {a b : Bytes}
  {shown shown' : List (UInt8 × Option Bytes)}

/-- Output that is read whole : it takes the terminal from one active hyperlink to another, prints
`shown`, and does nothing that is not allowed. -/
structure Reads (allowed : Event → Prop) (link link' : Option Bytes) (output : Bytes)
    (shown : List (UInt8 × Option Bytes)) : Prop where
  whole : (read .ground output).1 = .ground
  allowed : ∀ event ∈ (read .ground output).2, allowed event
  closes : ClosesLinks link (read .ground output).2
  after : linkAfterAll link (read .ground output).2 = link'
  printed : printed link (read .ground output).2 = shown

theorem Reads.nil : Reads allowed link link [] [] :=
  ⟨rfl, by simp [read], trivial, rfl, rfl⟩

theorem Reads.append (ha : Reads allowed link link' a shown)
    (hb : Reads allowed link' link'' b shown') :
    Reads allowed link link'' (a ++ b) (shown ++ shown') := by
  have hread := read_append .ground a b
  rw [ha.whole] at hread
  have hafter := ha.after
  constructor
  · rw [hread, hb.whole]
  · rw [hread]
    exact fun event hevent => (List.mem_append.mp hevent).elim (ha.allowed event) (hb.allowed event)
  · rw [hread, closesLinks_append, hafter]
    exact ⟨ha.closes, hb.closes⟩
  · rw [hread, linkAfterAll_append, hafter, hb.after]
  · rw [hread, printed_append, hafter, ha.printed, hb.printed]

theorem printed_print (link : Option Bytes) (bytes : Bytes) :
    printed link (bytes.map .print) = bytes.map fun b => (b, link) := by
  induction bytes with
  | nil => rfl
  | cons b bytes ih => exact congrArg _ ih

/-- Printable bytes are printed under the active hyperlink. -/
theorem Reads.print {bytes : Bytes} (h : ∀ b ∈ bytes, isControlByte b = false)
    (hallowed : ∀ b ∈ bytes, allowed (.print b)) :
    Reads allowed link link bytes (bytes.map fun b => (b, link)) := by
  have hread := read_printable h
  have hplain (link : Option Bytes) (bytes : Bytes) : ClosesLinks link (bytes.map .print) ∧
      linkAfterAll link (bytes.map .print) = link := by
    induction bytes with
    | nil => exact ⟨trivial, rfl⟩
    | cons b bytes ih => exact ⟨⟨by simp [opens], ih.1⟩, ih.2⟩
  constructor
  · rw [hread]
  · rw [hread]
    intro event hevent
    obtain ⟨b, hb, rfl⟩ := List.mem_map.mp hevent
    exact hallowed b hb
  · rw [hread]
    exact (hplain link bytes).1
  · rw [hread]
    exact (hplain link bytes).2
  · rw [hread, printed_print]

/-- A control sequence prints nothing, and leaves the hyperlink alone. -/
theorem Reads.csi {params : Bytes} (hparams : ∀ b ∈ params, isParamByte b = true) {final : UInt8}
    (hfinal : isFinalByte final = true) (hallowed : allowed (.csi params final)) :
    Reads allowed link link (csi params final) [] := by
  have hread := read_csi hparams hfinal
  constructor <;> rw [hread]
  · simpa using hallowed
  · exact ⟨by simp [opens], trivial⟩
  · rfl
  · rfl

/-- A hyperlink is opened while none is active. -/
theorem Reads.openLink {uri : Bytes} (huri : ∀ b ∈ uri, isControlByte b = false) (hne : uri ≠ [])
    (hallowed : allowed (.osc (hyperlink uri))) :
    Reads allowed none (some uri) (osc (hyperlink uri)) [] := by
  have hfixed : ∀ b ∈ ([0x38, 0x3B, 0x3B] : Bytes), isControlByte b = false := by
    simp [isControlByte]
  have hread := @read_osc (hyperlink uri) fun b hb =>
    (List.mem_append.mp hb).elim (hfixed b) (huri b)
  constructor <;> rw [hread]
  · simpa using hallowed
  · exact ⟨fun _ => rfl, trivial⟩
  · simp [linkAfterAll, linkAfter, hyperlinkOf_hyperlink, hne]
  · simp [Ansi.printed]

/-- The active hyperlink is closed. -/
theorem Reads.closeLink (hallowed : allowed (.osc (hyperlink []))) :
    Reads allowed link none (osc (hyperlink [])) [] := by
  have hread := @read_osc (hyperlink []) (by simp [hyperlink, isControlByte])
  constructor <;> rw [hread]
  · simpa using hallowed
  · exact ⟨by simp [opens, hyperlinkOf_hyperlink], trivial⟩
  · rfl
  · rfl

end Ansi
