import Zynk.Lib.Lines
import Zynk.Lib.Utf8
import Zynk.Protocol.RenderAnsi

/-!
# Painted hyperlinks

What a terminal reads in the output of a painted frame : cursor positions, styles and hyperlinks,
and the symbols of cells of the frame, in their order, each under the sanitised URI of its own cell
(`writeAllCells_painted`, `writeChangedCells_painted`). No URI brings a control byte with it, every
hyperlink is closed before the next one is opened, and none is left open.
-/

namespace Zynk

namespace Blit

open Ansi Loops Text

/-! ## Bytes of a text -/

theorem isControlByte_eq_false {s : Text} (h : ∀ c ∈ s, isControl c = false) :
    ∀ b ∈ encodeUtf8 s, isControlByte b = false := by
  intro b hb
  by_contra hcontrol
  rw [Bool.not_eq_false, isControlByte, Bool.or_eq_true, decide_eq_true_eq, beq_iff_eq] at hcontrol
  obtain ⟨c, hc, heq⟩ := mem_of_mem_encodeUtf8 hb (by omega)
  have hnot := h c hc
  simp only [isControl, Bool.or_eq_false_iff, Bool.and_eq_false_iff, decide_eq_false_iff_not]
    at hnot
  omega

/-- The characters between `CSI` and its final byte that the painter writes. -/
def isParamChar (c : Char) : Bool :=
  c.isDigit || c = ';' || c = ':'

theorem isParamByte_of_isParamChar {s : Text} (h : ∀ c ∈ s, isParamChar c = true) :
    ∀ b ∈ encodeUtf8 s, isParamByte b = true := by
  have hrange : ∀ c ∈ s, 48 ≤ c.toNat ∧ c.toNat ≤ 59 := by
    intro c hc
    have hparam := h c hc
    simp only [isParamChar, Bool.or_eq_true, decide_eq_true_eq] at hparam
    rcases hparam with (hdigit | rfl) | rfl
    · have := toNat_of_isDigit hdigit
      omega
    · decide
    · decide
  rw [encodeUtf8_eq_map fun c hc => (hrange c hc).2.trans_lt (by decide)]
  intro b hb
  obtain ⟨c, hc, rfl⟩ := List.mem_map.mp hb
  obtain ⟨hlow, hhigh⟩ := hrange c hc
  rw [isParamByte, toNat_ofNat_of_lt (by omega)]
  simp only [Bool.and_eq_true, decide_eq_true_eq]
  omega

theorem isParamChar_decimal (n : ℕ) : ∀ c ∈ decimal n, isParamChar c = true := by
  intro c hc
  rw [isParamChar, isDigit_of_mem_decimal hc]
  rfl

theorem encodeUtf8_csi (params : Text) {final : Char} (hfinal : final.toNat < 128) :
    encodeUtf8 ('\x1b' :: '[' :: (params ++ [final])) =
      csi (encodeUtf8 params) (UInt8.ofNat final.toNat) := by
  rw [encodeUtf8_cons (by decide), encodeUtf8_cons (by decide), encodeUtf8_append,
    encodeUtf8_cons hfinal]
  rfl

theorem encodeUtf8_openSequence (uri : Text) :
    encodeUtf8 (openSequence uri) = osc (hyperlink (encodeUtf8 uri)) := by
  have hlead : encodeUtf8 "\x1b]8;;".toList = [0x1B, 0x5D, 0x38, 0x3B, 0x3B] := by decide
  have htail : encodeUtf8 "\x1b\\".toList = [0x1B, 0x5C] := by decide
  have happend : encodeUtf8 (openSequence uri) = encodeUtf8 "\x1b]8;;".toList ++ encodeUtf8 uri ++
      encodeUtf8 "\x1b\\".toList :=
    (encodeUtf8_append _ _).trans (congrArg (· ++ _) (encodeUtf8_append _ _))
  rw [happend, hlead, htail]
  simp [osc, hyperlink]

theorem encodeUtf8_closeSequence : encodeUtf8 closeSequence = osc (hyperlink []) := by
  decide

/-! ## Style -/

theorem isParamChar_colorToSgr (base bright extended reset : ℕ) (val : UInt32) :
    ∀ c ∈ colorToSgr base bright extended reset val, isParamChar c = true := by
  have hsemicolon : isParamChar ';' = true := by decide
  unfold colorToSgr
  dsimp only
  split_ifs
  · exact isParamChar_decimal _
  · exact isParamChar_decimal _
  · exact isParamChar_decimal _
  · simp only [List.forall_mem_append]
    exact ⟨⟨isParamChar_decimal _, List.all_eq_true.mp (by decide)⟩, isParamChar_decimal _⟩
  · simp only [List.forall_mem_append, List.forall_mem_cons]
    exact ⟨⟨⟨isParamChar_decimal _, List.all_eq_true.mp (by decide)⟩, isParamChar_decimal _⟩,
      hsemicolon, isParamChar_decimal _, hsemicolon, isParamChar_decimal _⟩
  · exact isParamChar_decimal _

theorem isParamChar_underlinePart (style : ℕ) :
    ∀ c ∈ (underlinePart style).toList, isParamChar c = true := by
  unfold underlinePart
  split <;> exact List.all_eq_true.mp (by decide)

theorem isParamChar_modifierToSgrParts (val : UInt16) :
    ∀ part ∈ modifierToSgrParts val, ∀ c ∈ part, isParamChar c = true := by
  intro part hpart
  obtain ⟨bit, hbit, rfl⟩ := List.mem_map.mp hpart
  have hmem := List.mem_of_mem_filter hbit
  simp only [List.mem_cons, List.not_mem_nil, or_false] at hmem
  rcases hmem with rfl | rfl | rfl | rfl | rfl | rfl | rfl | rfl | rfl
  case inr.inr.inr.inl => exact isParamChar_underlinePart _
  all_goals exact List.all_eq_true.mp (by decide)

theorem isParamChar_intercalate : ∀ {parts : List Text},
    (∀ part ∈ parts, ∀ c ∈ part, isParamChar c = true) →
    ∀ c ∈ [';'].intercalate parts, isParamChar c = true
  | [], _ => by simp
  | [part], h => by
    rw [List.intercalate_singleton]
    exact h part (List.mem_singleton_self part)
  | part :: next :: parts, h => by
    rw [intercalate_cons_cons, List.forall_mem_append, List.forall_mem_cons]
    exact ⟨h part List.mem_cons_self, by decide, isParamChar_intercalate fun p hp =>
      h p (List.mem_cons_of_mem part hp)⟩

theorem isParamChar_sgrParams (fg bg : UInt32) (modifier : UInt16) :
    ∀ c ∈ sgrParams fg bg modifier, isParamChar c = true := by
  refine isParamChar_intercalate fun part hpart => ?_
  rcases List.mem_append.mp hpart with hpart | hpart
  · rcases List.mem_cons.mp hpart with rfl | hpart
    · exact List.all_eq_true.mp (by decide)
    · exact isParamChar_modifierToSgrParts modifier part hpart
  · rcases List.mem_cons.mp hpart with rfl | hpart
    · exact isParamChar_colorToSgr _ _ _ _ _
    · rw [List.mem_singleton.mp hpart]
      exact isParamChar_colorToSgr _ _ _ _ _

/-! ## Writing a cell -/

/-- What the output may make a terminal do : print, move the cursor, set the style, and open or
close a hyperlink whose URI has no control characters. -/
def Harmless : Event → Prop
  | .print _ => True
  | .csi _ final => final = UInt8.ofNat 'H'.toNat ∨ final = UInt8.ofNat 'm'.toNat
  | .osc payload => ∃ uri : Text, payload = hyperlink (encodeUtf8 uri) ∧
      ∀ c ∈ uri, isControl c = false
  | .control _ => False

/-- The sanitised URI of a cell. -/
def cellUri (frame : FrameData) (cell : CellData) : Option Text :=
  (cellHyperlinkUri frame cell).bind sanitizedHyperlinkUri

/-- The bytes of a cell, each under the URI of the cell. -/
def shownCell (frame : FrameData) (cell : CellData) : List (UInt8 × Option Bytes) :=
  (encodeUtf8 cell.symbol).map fun b => (b, (cellUri frame cell).map encodeUtf8)

/-- The URI is not empty, and has no control characters. -/
def IsClean (uri : Text) : Prop :=
  uri ≠ [] ∧ ∀ c ∈ uri, isControl c = false

theorem isClean_of_sanitized {uri clean : Text} (h : sanitizedHyperlinkUri uri = some clean) :
    IsClean clean := by
  unfold sanitizedHyperlinkUri at h
  dsimp only at h
  split_ifs at h with hempty
  cases h
  refine ⟨by simpa using hempty, fun c hc => ?_⟩
  have hkeep := (List.mem_filter.mp hc).2
  simp only [Bool.and_eq_true, Bool.not_eq_true'] at hkeep
  exact hkeep.2

/-- The output so far shows some cells. -/
structure Painted (shown : List (UInt8 × Option Bytes)) (p : Painter) : Prop where
  reads : Ansi.Reads Harmless none (p.activeHyperlink.map encodeUtf8) p.output shown
  clean : ∀ uri, p.activeHyperlink = some uri → IsClean uri

variable {frame : FrameData} {shown : List (UInt8 × Option Bytes)} {p : Painter}

/-- A piece that shows nothing and leaves the hyperlink alone. -/
theorem Painted.write (h : Painted shown p) {text : Text} {more : List (UInt8 × Option Bytes)}
    (htext : Ansi.Reads Harmless (p.activeHyperlink.map encodeUtf8)
      (p.activeHyperlink.map encodeUtf8) (encodeUtf8 text) more) :
    Painted (shown ++ more) (p.write text) :=
  ⟨h.reads.append htext, h.clean⟩

/-- A control sequence of the painter. -/
theorem Painted.writeCsi (h : Painted shown p) {params : Text}
    (hparams : ∀ c ∈ params, isParamChar c = true) {final : Char}
    (hfinal : final = 'H' ∨ final = 'm') :
    Painted shown (p.write ('\x1b' :: '[' :: (params ++ [final]))) := by
  have hlt : final.toNat < 128 := by
    rcases hfinal with rfl | rfl <;> decide
  have hbyte : isFinalByte (UInt8.ofNat final.toNat) = true := by
    rcases hfinal with rfl | rfl <;> decide
  have hallowed : Harmless (.csi (encodeUtf8 params) (UInt8.ofNat final.toNat)) := by
    rcases hfinal with rfl | rfl
    · exact Or.inl rfl
    · exact Or.inr rfl
  have hreads : Ansi.Reads Harmless (p.activeHyperlink.map encodeUtf8)
      (p.activeHyperlink.map encodeUtf8) _ [] :=
    .csi (isParamByte_of_isParamChar hparams) hbyte hallowed
  rw [← encodeUtf8_csi params hlt] at hreads
  rw [← List.append_nil shown]
  exact h.write hreads

theorem Painted.writeCursorIfMoved (h : Painted shown p) (position : Option Position) :
    Painted shown (writeCursorIfMoved p position) := by
  cases position with
  | none => exact h
  | some position =>
    have hparams : ∀ c ∈ decimal (position.2 + 1) ++ ';' :: decimal (position.1 + 1),
        isParamChar c = true := by
      rw [List.forall_mem_append, List.forall_mem_cons]
      exact ⟨isParamChar_decimal _, by decide, isParamChar_decimal _⟩
    exact h.writeCsi hparams (Or.inl rfl)

theorem Painted.writeSgrIfChanged (h : Painted shown p) (fg bg : UInt32) (modifier : UInt16) :
    Painted shown (writeSgrIfChanged p (buildSgr fg bg modifier)) := by
  unfold Blit.writeSgrIfChanged
  split_ifs
  · have hwritten : Painted shown (p.write (buildSgr fg bg modifier)) :=
      h.writeCsi (isParamChar_sgrParams fg bg modifier) (Or.inr rfl)
    exact ⟨hwritten.reads, hwritten.clean⟩
  · exact h

/-- The style at the end. -/
theorem Painted.writeReset (h : Painted shown p) : Painted shown (p.write "\x1b[0m".toList) :=
  @Painted.writeCsi _ _ h ['0'] (List.all_eq_true.mp (by decide)) 'm' (Or.inr rfl)

/-- The active hyperlink is closed. -/
theorem Painted.close (h : Painted shown p) :
    Painted shown { p.write closeSequence with activeHyperlink := none } := by
  have hreads : Ansi.Reads Harmless (p.activeHyperlink.map encodeUtf8) none _ [] :=
    .closeLink ⟨[], rfl, by simp⟩
  rw [← encodeUtf8_closeSequence] at hreads
  have happend := h.reads.append hreads
  rw [List.append_nil] at happend
  exact ⟨happend, by simp⟩

theorem Painted.closeHyperlink (h : Painted shown p) : Painted shown (closeHyperlink p) ∧
    (closeHyperlink p).activeHyperlink = none := by
  unfold Blit.closeHyperlink
  by_cases hactive : p.activeHyperlink.isSome = true
  · rw [if_pos hactive]
    exact ⟨h.close, rfl⟩
  · rw [if_neg hactive]
    exact ⟨h, by simpa using hactive⟩

/-- A hyperlink is opened while none is active. -/
theorem Painted.open (h : Painted shown p) (hnone : p.activeHyperlink = none) {uri : Text}
    (huri : IsClean uri) :
    Painted shown ({ p with activeHyperlink := some uri }.write (openSequence uri)) := by
  have hne : encodeUtf8 uri ≠ [] := by
    intro hnil
    have hdecode := decodeUtf8_encodeUtf8 uri
    rw [hnil, decodeUtf8_nil] at hdecode
    exact huri.1 (Option.some.inj hdecode).symm
  have hreads : Ansi.Reads Harmless none (some (encodeUtf8 uri)) _ [] :=
    .openLink (isControlByte_eq_false huri.2) hne ⟨uri, rfl, huri.2⟩
  rw [← encodeUtf8_openSequence] at hreads
  have hbefore := h.reads
  rw [hnone] at hbefore
  have happend := hbefore.append hreads
  rw [List.append_nil] at happend
  refine ⟨happend, fun uri' huri' => ?_⟩
  rwa [← Option.some.inj huri']

/-- The hyperlink is the requested one, sanitised. -/
theorem Painted.writeHyperlinkIfChanged (h : Painted shown p) (requested : Option Text) :
    Painted shown (writeHyperlinkIfChanged p requested) ∧
      (writeHyperlinkIfChanged p requested).activeHyperlink =
        requested.bind sanitizedHyperlinkUri := by
  unfold Blit.writeHyperlinkIfChanged
  dsimp only
  by_cases hsame : p.activeHyperlink = requested.bind sanitizedHyperlinkUri
  · rw [if_pos hsame]
    exact ⟨h, hsame⟩
  rw [if_neg hsame]
  have hclosed : Painted shown { (if p.activeHyperlink.isSome then p.write closeSequence else p)
      with activeHyperlink := none } := by
    by_cases hactive : p.activeHyperlink.isSome = true
    · rw [if_pos hactive]
      exact h.close
    · rw [if_neg hactive]
      have hnone : p.activeHyperlink = none := by simpa using hactive
      exact hnone ▸ h
  cases hrequested : requested.bind sanitizedHyperlinkUri with
  | none => exact ⟨hclosed, rfl⟩
  | some uri =>
    obtain ⟨dirty, -, huri⟩ := Option.bind_eq_some_iff.mp hrequested
    exact ⟨hclosed.open rfl (isClean_of_sanitized huri), rfl⟩

/-- A cell is shown under its own URI. -/
theorem Painted.writeCell (h : Painted shown p) (position : Option Position) {cell : CellData}
    (hskip : cell.skip = false) (hsymbol : ∀ c ∈ cell.symbol, isControl c = false) :
    Painted (shown ++ shownCell frame cell) (writeCell p position cell frame) := by
  unfold Blit.writeCell
  rw [if_neg (by simp [hskip])]
  dsimp only
  have hstyled := (h.writeCursorIfMoved position).writeSgrIfChanged cell.fg cell.bg cell.modifier
  obtain ⟨hlinked, hactive⟩ := hstyled.writeHyperlinkIfChanged (cellHyperlinkUri frame cell)
  refine hlinked.write ?_
  rw [hactive]
  exact .print (isControlByte_eq_false hsymbol) fun _ _ => trivial

/-! ## All cells -/

/-- The output shows cells that are among the first `count` of the frame, in their order. -/
def ShowsCells (frame : FrameData) (count : ℕ) (p : Painter) : Prop :=
  ∃ cells : List CellData, cells.Sublist (frame.cells.take count) ∧
    (∀ cell ∈ cells, cell.skip = false) ∧ Painted (cells.flatMap (shownCell frame)) p

theorem ShowsCells.mono {count count' : ℕ} (h : ShowsCells frame count p) (hle : count ≤ count') :
    ShowsCells frame count' p := by
  obtain ⟨cells, hsub, hrest⟩ := h
  exact ⟨cells, hsub.trans (List.take_sublist_take_left hle), hrest⟩

theorem ShowsCells.writeCell {count : ℕ} (h : ShowsCells frame count p)
    (position : Option Position) {cell : CellData} (hcell : frame.cells[count]? = some cell)
    (hskip : cell.skip = false) (hsymbol : ∀ c ∈ cell.symbol, isControl c = false) :
    ShowsCells frame (count + 1) (writeCell p position cell frame) := by
  obtain ⟨cells, hsub, hskips, hpainted⟩ := h
  refine ⟨cells ++ [cell], ?_, ?_, ?_⟩
  · rw [List.take_add_one, hcell]
    exact hsub.append (List.Sublist.refl _)
  · intro c hc
    rcases List.mem_append.mp hc with hc | hc
    · exact hskips c hc
    · rwa [List.mem_singleton.mp hc]
  · rw [List.flatMap_append, List.flatMap_singleton]
    exact hpainted.writeCell position hskip hsymbol

/-- No symbol of the frame has control characters. -/
def PlainSymbols (frame : FrameData) : Prop :=
  ∀ cell ∈ frame.cells, ∀ c ∈ cell.symbol, isControl c = false

section

variable {symbolWidth : Text → ℕ} {row : ℕ}

theorem writeAllColumn_shows (hplain : PlainSymbols frame) {col : ℕ} {st st' : AllRow}
    (h : ShowsCells frame (row * frame.width + col) st.painter)
    (hstep : writeAllColumn symbolWidth frame row st col = some st') :
    ShowsCells frame (row * frame.width + (col + 1)) st'.painter := by
  have hle : row * frame.width + col ≤ row * frame.width + (col + 1) := by omega
  unfold writeAllColumn at hstep
  by_cases htoSkip : st.toSkip > 0
  · rw [if_pos htoSkip] at hstep
    cases hstep
    exact h.mono hle
  rw [if_neg htoSkip] at hstep
  cases hcell : frame.cells[row * frame.width + col]? with
  | none =>
    rw [hcell] at hstep
    cases hstep
  | some cell =>
    rw [hcell] at hstep
    dsimp only at hstep
    cases hskip : cell.skip with
    | true =>
      rw [if_pos hskip] at hstep
      cases hstep
      exact h.mono hle
    | false =>
      rw [if_neg (by simp [hskip])] at hstep
      cases hstep
      exact h.writeCell _ hcell hskip (hplain cell (List.mem_of_getElem? hcell))

theorem writeAllRow_shows (hplain : PlainSymbols frame) {p p' : Painter}
    (h : ShowsCells frame (row * frame.width) p)
    (hrow : writeAllRow symbolWidth frame p row = some p') :
    ShowsCells frame ((row + 1) * frame.width) p' := by
  obtain ⟨st, hloop, rfl⟩ := Option.map_eq_some_iff.mp hrow
  rw [Nat.succ_mul]
  exact @forRange_run _ _ _ _ _
    (fun col st => ShowsCells frame (row * frame.width + col) st.painter) hloop h
    fun col _ t t' ht hstep => writeAllColumn_shows hplain ht hstep

end

/-- What the terminal reads in the output for a frame : nothing but cursor positions, styles,
hyperlinks without control characters, and cells of the frame in their order, each under its own
sanitised URI; every hyperlink is closed before the next one, and at the end. -/
def PaintedSafely (frame : FrameData) (output : Bytes) : Prop :=
  ∃ cells : List CellData, cells.Sublist frame.cells ∧ (∀ cell ∈ cells, cell.skip = false) ∧
    Ansi.Reads Harmless none none output (cells.flatMap (shownCell frame))

theorem ShowsCells.closed {count : ℕ} (h : ShowsCells frame count p) :
    PaintedSafely frame (closeHyperlink p).output ∧
      PaintedSafely frame ((closeHyperlink p).write "\x1b[0m".toList).output := by
  obtain ⟨cells, hsub, hskips, hpainted⟩ := h
  obtain ⟨hclosed, hnone⟩ := hpainted.closeHyperlink
  have hsub := hsub.trans (List.take_sublist count frame.cells)
  have hreads := hclosed.reads
  have hreset := hclosed.writeReset.reads
  have hnone' : ((closeHyperlink p).write "\x1b[0m".toList).activeHyperlink = none := hnone
  rw [hnone] at hreads
  rw [hnone'] at hreset
  exact ⟨⟨cells, hsub, hskips, hreads⟩, cells, hsub, hskips, hreset⟩

theorem painted_nil : Painted [] ⟨[], [], none⟩ :=
  ⟨.nil, by simp⟩

theorem showsCells_start (frame : FrameData) : ShowsCells frame (0 * frame.width) ⟨[], [], none⟩ :=
  ⟨[], List.nil_sublist _, by simp, painted_nil⟩

theorem writeAllCells_painted {symbolWidth : Text → ℕ} (hplain : PlainSymbols frame)
    {output : Bytes} (h : writeAllCells symbolWidth frame = some output) :
    PaintedSafely frame output := by
  obtain ⟨p, hloop, rfl⟩ := Option.map_eq_some_iff.mp h
  have hshows := @forRange_run _ _ _ _ _
    (fun row p => ShowsCells frame (row * frame.width) p) hloop (showsCells_start frame)
    fun row _ t t' ht hrow => writeAllRow_shows hplain ht hrow
  exact hshows.closed.2

/-! ## Changed cells -/

section

variable {symbolWidth : Text → ℕ} {prev : FrameData} {row : ℕ}

theorem writeChangedColumn_shows (hplain : PlainSymbols frame) {col : ℕ} {st st' : ChangedRow}
    (h : ShowsCells frame (row * frame.width + col) st.painter)
    (hstep : writeChangedColumn symbolWidth frame prev row st col = some st') :
    ShowsCells frame (row * frame.width + (col + 1)) st'.painter := by
  unfold writeChangedColumn at hstep
  split at hstep
  · rename_i cell prevCell hcell hprev
    cases hstep
    dsimp only
    split
    · rename_i hwrite
      simp only [Bool.and_eq_true, Bool.not_eq_true'] at hwrite
      exact h.writeCell _ hcell hwrite.1.1 (hplain cell (List.mem_of_getElem? hcell))
    · exact h.mono (by omega)
  · cases hstep

theorem writeChangedRow_shows (hplain : PlainSymbols frame) {p p' : Painter}
    (h : ShowsCells frame (row * frame.width) p)
    (hrow : writeChangedRow symbolWidth frame prev p row = some p') :
    ShowsCells frame ((row + 1) * frame.width) p' := by
  obtain ⟨st, hloop, rfl⟩ := Option.map_eq_some_iff.mp hrow
  rw [Nat.succ_mul]
  exact @forRange_run _ _ _ _ _
    (fun col st => ShowsCells frame (row * frame.width + col) st.painter) hloop h
    fun col _ t t' ht hstep => writeChangedColumn_shows hplain ht hstep

theorem writeChangedCells_painted (hplain : PlainSymbols frame) {output : Bytes}
    (h : writeChangedCells symbolWidth frame prev = some output) :
    PaintedSafely frame output := by
  obtain ⟨p, hloop, rfl⟩ := Option.map_eq_some_iff.mp h
  have hshows := @forRange_run _ _ _ _ _
    (fun row p => ShowsCells frame (row * frame.width) p) hloop (showsCells_start frame)
    fun row _ t t' ht hrow => writeChangedRow_shows hplain ht hrow
  dsimp only
  split_ifs
  · exact hshows.closed.1
  · exact hshows.closed.2

end

/-! ## Frames that are painted -/

/-- The frame has all of its cells. -/
def IsWhole (frame : FrameData) : Prop :=
  frame.cells.length = frame.width * frame.height

theorem IsWhole.getElem? (h : IsWhole frame) {row col : ℕ} (hrow : row < frame.height)
    (hcol : col < frame.width) : ∃ cell, frame.cells[row * frame.width + col]? = some cell := by
  have hlt : row * frame.width + col < frame.cells.length := by
    rw [h, Nat.mul_comm frame.width]
    calc row * frame.width + col < (row + 1) * frame.width := by rw [Nat.succ_mul]; omega
      _ ≤ frame.height * frame.width := Nat.mul_le_mul_right _ hrow
  exact ⟨_, List.getElem?_eq_getElem hlt⟩

theorem exists_writeAllCells (symbolWidth : Text → ℕ) (h : IsWhole frame) :
    ∃ output, writeAllCells symbolWidth frame = some output := by
  have hloop : ∃ p, forRange frame.height (writeAllRow symbolWidth frame) ⟨[], [], none⟩ =
      some p := by
    refine exists_forRange _ fun row hrow p => ?_
    suffices hcolumns : ∃ st, forRange frame.width (writeAllColumn symbolWidth frame row)
        ⟨p, 0, none⟩ = some st by
      obtain ⟨st, hst⟩ := hcolumns
      exact ⟨st.painter, Option.map_eq_some_iff.mpr ⟨st, hst, rfl⟩⟩
    refine exists_forRange _ fun col hcol st => ?_
    obtain ⟨cell, hcell⟩ := h.getElem? hrow hcol
    unfold writeAllColumn
    rw [hcell]
    dsimp only
    split_ifs <;> exact ⟨_, rfl⟩
  obtain ⟨p, hp⟩ := hloop
  exact ⟨_, Option.map_eq_some_iff.mpr ⟨p, hp, rfl⟩⟩

theorem exists_writeChangedCells (symbolWidth : Text → ℕ) {prev : FrameData} (h : IsWhole frame)
    (hprev : IsWhole prev) (hwidth : prev.width = frame.width)
    (hheight : prev.height = frame.height) :
    ∃ output, writeChangedCells symbolWidth frame prev = some output := by
  have hloop : ∃ p, forRange frame.height (writeChangedRow symbolWidth frame prev)
      ⟨[], [], none⟩ = some p := by
    refine exists_forRange _ fun row hrow p => ?_
    suffices hcolumns : ∃ st, forRange frame.width (writeChangedColumn symbolWidth frame prev row)
        ⟨p, 0, 0, none⟩ = some st by
      obtain ⟨st, hst⟩ := hcolumns
      exact ⟨st.painter, Option.map_eq_some_iff.mpr ⟨st, hst, rfl⟩⟩
    refine exists_forRange _ fun col hcol st => ?_
    obtain ⟨cell, hcell⟩ := h.getElem? hrow hcol
    obtain ⟨prevCell, hprevCell⟩ := hprev.getElem? (hheight ▸ hrow) (hwidth ▸ hcol)
    rw [hwidth] at hprevCell
    unfold writeChangedColumn
    rw [hcell, hprevCell]
    exact ⟨_, rfl⟩
  obtain ⟨p, hp⟩ := hloop
  exact ⟨_, Option.map_eq_some_iff.mpr ⟨p, hp, rfl⟩⟩

/-- Hyperlinks cannot inject and never leak : in a frame the cells denote the URIs of the list, each
URI has one index, and painting the frame, whole or against another one, makes the terminal do
nothing but show its cells, each under its own sanitised URI. -/
theorem hyperlinks_contained (symbolWidth : Text → ℕ) (buffer : Buffer)
    (cursor : Option CursorState) (hyperlinks : List PlacedLink) :
    (buffer.x = 0 → buffer.y = 0 →
      ∃ frame, fromRatatuiBufferWithHyperlinks buffer cursor hyperlinks = some frame) ∧
    ∀ frame, fromRatatuiBufferWithHyperlinks buffer cursor hyperlinks = some frame →
      (∀ row < buffer.height, ∀ col < buffer.width,
        ∃ cell data, buffer.cell (col, row) = some cell ∧
          frame.cells[row * buffer.width + col]? = some data ∧ data.symbol = cell.symbol ∧
          Denotes frame.hyperlinks data.hyperlink (linkAt hyperlinks (col, row) cell.symbol)) ∧
      (∀ (i j : ℕ) (uri : Text), frame.hyperlinks[i]? = some uri →
        frame.hyperlinks[j]? = some uri → i = j) ∧
      (PlainSymbols frame →
        (∃ output, writeAllCells symbolWidth frame = some output ∧ PaintedSafely frame output) ∧
        ∀ buffer' cursor' hyperlinks' prev,
          fromRatatuiBufferWithHyperlinks buffer' cursor' hyperlinks' = some prev →
          (prev.width = frame.width → prev.height = frame.height →
            ∃ output, writeChangedCells symbolWidth frame prev = some output) ∧
          ∀ output, writeChangedCells symbolWidth frame prev = some output →
            PaintedSafely frame output) := by
  refine ⟨fun hx hy => exists_fromRatatuiBuffer hx hy cursor hyperlinks, fun frame hframe => ?_⟩
  have hmade := made_of_fromRatatuiBuffer hframe
  refine ⟨hmade.cells, fun i j uri => hmade.index_inj, fun hplain => ⟨?_, ?_⟩⟩
  · obtain ⟨output, houtput⟩ := exists_writeAllCells symbolWidth hmade.length
    exact ⟨output, houtput, writeAllCells_painted hplain houtput⟩
  · intro buffer' cursor' hyperlinks' prev hprev
    have hmade' := made_of_fromRatatuiBuffer hprev
    exact ⟨exists_writeChangedCells symbolWidth hmade.length hmade'.length, fun output houtput =>
      writeChangedCells_painted hplain houtput⟩

/-- A buffer of one cell. -/
def cellBuffer : Buffer :=
  ⟨0, 0, 1, 1, [⟨['a'], .reset, .reset, 0, false⟩], by decide, by decide, rfl⟩

/-- Its frame, with a hyperlink that has an escape in it. -/
def cellFrame : FrameData :=
  ⟨[⟨['a'], 0, 0, 0, false, some 0⟩], 1, 1, none, [['u', '\x1b']], []⟩

theorem hyperlinks_contained_cell :
    fromRatatuiBufferWithHyperlinks cellBuffer none [((0, 0), ['a'], ['u', '\x1b'])] =
        some cellFrame ∧
      ∃ output, writeAllCells List.length cellFrame = some output ∧
        PaintedSafely cellFrame output := by
  have hframe : fromRatatuiBufferWithHyperlinks cellBuffer none
      [((0, 0), ['a'], ['u', '\x1b'])] = some cellFrame := by decide
  have hall := (hyperlinks_contained List.length cellBuffer none _).2 cellFrame hframe
  exact ⟨hframe, (hall.2.2 (by simp [PlainSymbols, cellFrame]; decide)).1⟩

end Blit

end Zynk
