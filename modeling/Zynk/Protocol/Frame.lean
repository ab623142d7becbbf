import Zynk.Lib.Assoc
import Zynk.Lib.Loops
import Zynk.Lib.Text

/-!
# Frames

`protocol/wire.rs` : the buffer a frame was drawn into, as it goes over the wire. A cell refers to
its hyperlink by an index into the URIs of the frame, each of which is listed once.

A `Buffer` is the screen buffer of the drawing library, with its invariants. Its cells are looked up
by their position on the screen, and the program stops on a position that is not in it.
-/

namespace Zynk

namespace Blit

open Loops

/-! ## Buffers -/

/-- A position : column and row. -/
abbrev Position := ℕ × ℕ

inductive Color where
  | reset
  | black
  | red
  | green
  | yellow
  | blue
  | magenta
  | cyan
  | gray
  | darkGray
  | lightRed
  | lightGreen
  | lightYellow
  | lightBlue
  | lightMagenta
  | lightCyan
  | white
  | indexed (i : UInt8)
  | rgb (r g b : UInt8)
  deriving DecidableEq, Repr

/-- A cell of the buffer. -/
structure Cell where
  symbol : Text
  fg : Color
  bg : Color
  modifier : UInt16
  skip : Bool
  deriving DecidableEq, Repr

structure Buffer where
  x : ℕ
  y : ℕ
  width : ℕ
  height : ℕ
  content : List Cell
  width_le : width ≤ 65535
  height_le : height ≤ 65535
  length_eq : content.length = width * height

/-- `buffer.cell` : nothing outside of the area. -/
def Buffer.cell (buffer : Buffer) (position : Position) : Option Cell :=
  if buffer.x ≤ position.1 ∧ position.1 < buffer.x + buffer.width ∧
      buffer.y ≤ position.2 ∧ position.2 < buffer.y + buffer.height then
    buffer.content[(position.2 - buffer.y) * buffer.width + (position.1 - buffer.x)]?
  else none

/-! ## Frames -/

/-- `color_to_u32`. -/
def colorToU32 : Color → UInt32
  | .reset => 0x00000000
  | .black => 0x00000001
  | .red => 0x00000002
  | .green => 0x00000003
  | .yellow => 0x00000004
  | .blue => 0x00000005
  | .magenta => 0x00000006
  | .cyan => 0x00000007
  | .gray => 0x00000008
  | .darkGray => 0x00000009
  | .lightRed => 0x0000000A
  | .lightGreen => 0x0000000B
  | .lightYellow => 0x0000000C
  | .lightBlue => 0x0000000D
  | .lightMagenta => 0x0000000E
  | .lightCyan => 0x0000000F
  | .white => 0x00000010
  | .indexed i => (0x01000000 : UInt32) ||| i.toUInt32
  | .rgb r g b =>
    (0x02000000 : UInt32) ||| (r.toUInt32 <<< 16) ||| (g.toUInt32 <<< 8) ||| b.toUInt32

structure CellData where
  symbol : Text
  fg : UInt32
  bg : UInt32
  modifier : UInt16
  skip : Bool
  /-- Into the hyperlinks of the frame. -/
  hyperlink : Option ℕ
  deriving DecidableEq, Repr

structure CursorState where
  x : ℕ
  y : ℕ
  visible : Bool
  shape : ℕ
  deriving DecidableEq, Repr

structure FrameData where
  cells : List CellData
  width : ℕ
  height : ℕ
  cursor : Option CursorState
  hyperlinks : List Text
  graphics : Bytes
  deriving DecidableEq, Repr

/-- A hyperlink of the list a frame is made with : where it is, the symbol it was found on, and its
URI. -/
abbrev PlacedLink := Position × Text × Text

/-- The URIs so far, with their indices. -/
structure Interner where
  cells : List CellData
  hyperlinkUris : List Text
  hyperlinkIndices : Assoc Text ℕ

/-- `entry(uri).or_insert_with` : the index is a `u32`. -/
def Interner.intern (st : Interner) (uri : Text) : ℕ × Interner :=
  match st.hyperlinkIndices.lookup uri with
  | some index => (index, st)
  | none =>
    let index := st.hyperlinkUris.length % 2 ^ 32
    (index, { st with
      hyperlinkUris := st.hyperlinkUris ++ [uri]
      hyperlinkIndices := st.hyperlinkIndices.insert uri index })

/-- The hyperlink of a cell. -/
def Interner.hyperlink (st : Interner) (link : Option (Text × Text)) (symbol : Text) :
    Option ℕ × Interner :=
  match link with
  | none => (none, st)
  | some (linkSymbol, uri) =>
    if linkSymbol ≠ symbol then (none, st)
    else
      let (index, st) := st.intern uri
      (some index, st)

/-- One cell of the loop. -/
def pushCell (buffer : Buffer) (hyperlinkByPosition : Assoc Position (Text × Text)) (row : ℕ)
    (st : Interner) (col : ℕ) : Option Interner :=
  match buffer.cell (col, row) with
  | none => none
  | some cell =>
    let (hyperlink, st) := st.hyperlink (hyperlinkByPosition.lookup (col, row)) cell.symbol
    some { st with cells := st.cells ++ [{
      symbol := cell.symbol
      fg := colorToU32 cell.fg
      bg := colorToU32 cell.bg
      modifier := cell.modifier
      skip := cell.skip
      hyperlink := hyperlink }] }

/-- `from_ratatui_buffer_with_hyperlinks`. -/
def fromRatatuiBufferWithHyperlinks (buffer : Buffer) (cursor : Option CursorState)
    (hyperlinks : List PlacedLink) : Option FrameData :=
  let hyperlinkByPosition : Assoc Position (Text × Text) := Assoc.ofList hyperlinks
  (forRange buffer.height
    (fun st row => forRange buffer.width (pushCell buffer hyperlinkByPosition row) st)
    ⟨[], [], ∅⟩).map fun st =>
      { cells := st.cells
        width := buffer.width
        height := buffer.height
        cursor := cursor
        hyperlinks := st.hyperlinkUris
        graphics := [] }

/-! ## Hyperlinks of a frame -/

/-- The URI that a position of the list has for a symbol : that of the last entry for the position,
if its symbol is that. -/
def linkAt (hyperlinks : List PlacedLink) (position : Position) (symbol : Text) : Option Text :=
  match hyperlinks.reverse.find? fun link => link.1 = position with
  | none => none
  | some (_, linkSymbol, uri) => if linkSymbol = symbol then some uri else none

/-- The index is that of the URI, or there is neither. -/
def Denotes (uris : List Text) (index : Option ℕ) (uri : Option Text) : Prop :=
  index.map (uris[·]?) = uri.map some

theorem Denotes.mono {uris uris' : List Text} {index : Option ℕ} {uri : Option Text}
    (h : Denotes uris index uri) (hstart : uris <+: uris') : Denotes uris' index uri := by
  cases index with
  | none => exact h
  | some i =>
    cases uri with
    | none => cases h
    | some u =>
      have hget : uris[i]? = some u := Option.some.inj h
      obtain ⟨rest, rfl⟩ := hstart
      have hlt : i < uris.length := (List.getElem?_eq_some_iff.mp hget).1
      exact congrArg some ((List.getElem?_append_left hlt).trans hget)

/-- Each URI is listed once, and its index is known. -/
structure Interner.Consistent (st : Interner) : Prop where
  nodup : st.hyperlinkUris.Nodup
  lookup : ∀ uri index, st.hyperlinkIndices.lookup uri = some index ↔
    st.hyperlinkUris[index]? = some uri

theorem getElem?_snoc_eq_some {uris : List Text} {uri u : Text} {i : ℕ} :
    (uris ++ [uri])[i]? = some u ↔ uris[i]? = some u ∨ i = uris.length ∧ uri = u := by
  rw [List.getElem?_append]
  by_cases hlt : i < uris.length
  · rw [if_pos hlt]
    exact ⟨Or.inl, fun h => h.resolve_right fun hlast => hlt.ne hlast.1⟩
  · rw [if_neg hlt, List.getElem?_eq_none (not_lt.mp hlt)]
    obtain heq | hgt := (not_lt.mp hlt).eq_or_lt
    · simp [heq]
    · have hnone : ([uri] : List Text)[i - uris.length]? = none := by
        rw [List.getElem?_eq_none_iff, List.length_singleton]
        omega
      rw [hnone]
      exact ⟨fun h => (by cases h), fun h => h.elim (fun h => (by cases h)) fun hlast =>
        absurd hlast.1 hgt.ne'⟩

/-- What looking up a URI does : it is listed, if it was not. -/
theorem Interner.intern_spec {st : Interner} (h : st.Consistent)
    (hlen : st.hyperlinkUris.length < 2 ^ 32) (uri : Text) :
    (st.intern uri).2.Consistent ∧ (st.intern uri).2.cells = st.cells ∧
      st.hyperlinkUris <+: (st.intern uri).2.hyperlinkUris ∧
      (st.intern uri).2.hyperlinkUris.length ≤ st.hyperlinkUris.length + 1 ∧
      (st.intern uri).2.hyperlinkUris[(st.intern uri).1]? = some uri := by
  unfold Interner.intern
  cases hfind : st.hyperlinkIndices.lookup uri with
  | some index =>
    exact ⟨h, rfl, List.prefix_rfl, Nat.le_succ _, (h.lookup uri index).mp hfind⟩
  | none =>
    have hnew : uri ∉ st.hyperlinkUris := by
      intro hmem
      obtain ⟨i, hi⟩ := List.mem_iff_getElem?.mp hmem
      rw [(h.lookup uri i).mpr hi] at hfind
      cases hfind
    dsimp only
    rw [Nat.mod_eq_of_lt hlen]
    refine ⟨⟨?_, fun u i => ?_⟩, rfl, List.prefix_append _ _, by simp, by simp⟩
    · exact h.nodup.append (List.nodup_singleton uri) (by simpa using hnew)
    · dsimp only
      by_cases hu : u = uri
      · subst hu
        rw [AList.lookup_insert, Option.some.injEq, getElem?_snoc_eq_some]
        constructor
        · exact fun hi => Or.inr ⟨hi.symm, rfl⟩
        · rintro (hmem | hlast)
          · exact absurd (List.mem_of_getElem? hmem) hnew
          · exact hlast.1.symm
      · rw [AList.lookup_insert_ne hu, h.lookup, getElem?_snoc_eq_some]
        exact ⟨Or.inl, fun hor => hor.resolve_right fun hlast => hu hlast.2.symm⟩

/-- The hyperlink of a cell denotes the URI of its entry. -/
theorem Interner.hyperlink_spec {st : Interner} (h : st.Consistent)
    (hlen : st.hyperlinkUris.length < 2 ^ 32) (hyperlinks : List PlacedLink) (position : Position)
    (symbol : Text) {index : Option ℕ} {st' : Interner}
    (heq : st.hyperlink ((Assoc.ofList hyperlinks).lookup position) symbol = (index, st')) :
    st'.Consistent ∧ st'.cells = st.cells ∧ st.hyperlinkUris <+: st'.hyperlinkUris ∧
      st'.hyperlinkUris.length ≤ st.hyperlinkUris.length + 1 ∧
      Denotes st'.hyperlinkUris index (linkAt hyperlinks position symbol) := by
  rw [Assoc.lookup_ofList] at heq
  unfold linkAt
  cases hfind : hyperlinks.reverse.find? fun link => link.1 = position with
  | none =>
    rw [hfind] at heq
    cases heq
    exact ⟨h, rfl, List.prefix_rfl, Nat.le_succ _, rfl⟩
  | some link =>
    obtain ⟨p, linkSymbol, uri⟩ := link
    rw [hfind] at heq
    unfold Interner.hyperlink at heq
    dsimp only [Option.map_some] at heq
    dsimp only
    by_cases hsymbol : linkSymbol = symbol
    · rw [if_neg (not_not.mpr hsymbol)] at heq
      cases heq
      obtain ⟨hconsistent, hcells, hstart, hle, hget⟩ := Interner.intern_spec h hlen uri
      rw [if_pos hsymbol]
      exact ⟨hconsistent, hcells, hstart, hle, congrArg some hget⟩
    · rw [if_pos hsymbol] at heq
      cases heq
      rw [if_neg hsymbol]
      exact ⟨h, rfl, List.prefix_rfl, Nat.le_succ _, rfl⟩

/-- What holds when the first `count` cells are made : they are the cells of the buffer in their
order, and each denotes the URI of its entry. -/
structure Interner.Made (buffer : Buffer) (hyperlinks : List PlacedLink) (count : ℕ)
    (st : Interner) : Prop where
  consistent : st.Consistent
  length : st.cells.length = count
  le : st.hyperlinkUris.length ≤ count
  cells : ∀ r c, c < buffer.width → r * buffer.width + c < count →
    ∃ cell data, buffer.cell (c, r) = some cell ∧ st.cells[r * buffer.width + c]? = some data ∧
      data.symbol = cell.symbol ∧
      Denotes st.hyperlinkUris data.hyperlink (linkAt hyperlinks (c, r) cell.symbol)

theorem rowMajor_inj {width r r' c c' : ℕ} (hc : c < width) (hc' : c' < width)
    (h : r * width + c = r' * width + c') : r = r' ∧ c = c' := by
  have hrow : r = r' := by
    rcases lt_trichotomy r r' with hlt | heq | hgt
    · have := Nat.mul_le_mul_right width hlt
      rw [Nat.succ_mul] at this
      omega
    · exact heq
    · have := Nat.mul_le_mul_right width hgt
      rw [Nat.succ_mul] at this
      omega
  subst hrow
  exact ⟨rfl, Nat.add_left_cancel h⟩

variable {buffer : Buffer}

theorem pushCell_made {hyperlinks : List PlacedLink} {row col : ℕ} (hcol : col < buffer.width)
    (hrow : row < buffer.height) {st st' : Interner}
    (h : st.Made buffer hyperlinks (row * buffer.width + col))
    (heq : pushCell buffer (Assoc.ofList hyperlinks) row st col = some st') :
    st'.Made buffer hyperlinks (row * buffer.width + (col + 1)) := by
  have hcount : row * buffer.width + col < 2 ^ 32 := by
    have hwidth := buffer.width_le
    have hheight := buffer.height_le
    calc row * buffer.width + col < (row + 1) * buffer.width := by rw [Nat.succ_mul]; omega
      _ ≤ 65535 * 65535 := Nat.mul_le_mul (by omega) hwidth
      _ < 2 ^ 32 := by decide
  unfold pushCell at heq
  cases hcell : buffer.cell (col, row) with
  | none => simp [hcell] at heq
  | some cell =>
    rw [hcell] at heq
    dsimp only at heq
    cases hlink : st.hyperlink ((Assoc.ofList hyperlinks).lookup (col, row)) cell.symbol with
    | mk index next =>
      obtain ⟨hconsistent, hcells, hstart, hle, hdenotes⟩ := Interner.hyperlink_spec h.consistent
        (h.le.trans_lt hcount) hyperlinks (col, row) cell.symbol hlink
      rw [hlink] at heq
      cases heq
      refine ⟨⟨hconsistent.nodup, hconsistent.lookup⟩, ?_, ?_, fun r c hc hlt => ?_⟩
      · simp [hcells, h.length, Nat.add_assoc]
      · have := h.le
        dsimp only
        omega
      · dsimp only
        rw [hcells]
        obtain hold | hnew := Nat.lt_succ_iff_lt_or_eq.mp (Nat.add_assoc .. ▸ hlt)
        · obtain ⟨cell', data, hcell', hdata, hsymbol, hold'⟩ := h.cells r c hc hold
          refine ⟨cell', data, hcell', ?_, hsymbol, hold'.mono hstart⟩
          rw [List.getElem?_append_left (by rw [h.length]; exact hold), hdata]
        · obtain ⟨rfl, rfl⟩ := rowMajor_inj hc hcol hnew
          have hlast : (st.cells ++ [(⟨cell.symbol, colorToU32 cell.fg, colorToU32 cell.bg,
              cell.modifier, cell.skip, index⟩ : CellData)])[r * buffer.width + c]? =
                some ⟨cell.symbol, colorToU32 cell.fg, colorToU32 cell.bg, cell.modifier, cell.skip,
                  index⟩ := by
            rw [← h.length]
            exact List.getElem?_concat_length
          exact ⟨cell, _, hcell, hlast, rfl, hdenotes⟩

/-- A frame and the buffer and list it is made from : its cells are those of the buffer, each with
the index of the URI of its entry, and each URI has one index. -/
structure Made (buffer : Buffer) (hyperlinks : List PlacedLink) (frame : FrameData) : Prop where
  width : frame.width = buffer.width
  height : frame.height = buffer.height
  length : frame.cells.length = frame.width * frame.height
  nodup : frame.hyperlinks.Nodup
  cells : ∀ row < buffer.height, ∀ col < buffer.width,
    ∃ cell data, buffer.cell (col, row) = some cell ∧
      frame.cells[row * buffer.width + col]? = some data ∧ data.symbol = cell.symbol ∧
      Denotes frame.hyperlinks data.hyperlink (linkAt hyperlinks (col, row) cell.symbol)

theorem made_of_fromRatatuiBuffer {cursor : Option CursorState} {hyperlinks : List PlacedLink}
    {frame : FrameData}
    (h : fromRatatuiBufferWithHyperlinks buffer cursor hyperlinks = some frame) :
    Made buffer hyperlinks frame := by
  obtain ⟨st, hloop, rfl⟩ := Option.map_eq_some_iff.mp h
  have hmade : st.Made buffer hyperlinks (buffer.height * buffer.width) := by
    refine @forRange_run _ _ _ _ _
      (fun row st => st.Made buffer hyperlinks (row * buffer.width)) hloop ?_ ?_
    · refine ⟨⟨List.nodup_nil, fun uri index => by simp⟩, by simp, by simp, fun r c _ hlt => ?_⟩
      rw [Nat.zero_mul] at hlt
      exact absurd hlt (Nat.not_lt_zero _)
    · intro row hrow t t' ht hcolumns
      rw [Nat.succ_mul]
      exact @forRange_run _ _ _ _ _
        (fun col st => st.Made buffer hyperlinks (row * buffer.width + col)) hcolumns ht
        fun col hcol u u' hu hpush => pushCell_made hcol hrow hu hpush
  refine ⟨rfl, rfl, ?_, hmade.consistent.nodup, fun row hrow col hcol => ?_⟩
  · rw [hmade.length, Nat.mul_comm]
  · refine hmade.cells row col hcol ?_
    calc row * buffer.width + col < (row + 1) * buffer.width := by rw [Nat.succ_mul]; omega
      _ ≤ buffer.height * buffer.width := Nat.mul_le_mul_right _ hrow

/-- A buffer that starts in the corner of the screen makes a frame. -/
theorem exists_fromRatatuiBuffer (hx : buffer.x = 0) (hy : buffer.y = 0)
    (cursor : Option CursorState) (hyperlinks : List PlacedLink) :
    ∃ frame, fromRatatuiBufferWithHyperlinks buffer cursor hyperlinks = some frame := by
  suffices hloop : ∃ st, forRange buffer.height (fun st row =>
      forRange buffer.width (pushCell buffer (Assoc.ofList hyperlinks) row) st) ⟨[], [], ∅⟩ =
        some st by
    obtain ⟨st, hst⟩ := hloop
    exact ⟨_, Option.map_eq_some_iff.mpr ⟨st, hst, rfl⟩⟩
  refine exists_forRange _ fun row hrow st => exists_forRange _ fun col hcol st => ?_
  have hlt : row * buffer.width + col < buffer.content.length := by
    rw [buffer.length_eq, Nat.mul_comm buffer.width]
    calc row * buffer.width + col < (row + 1) * buffer.width := by rw [Nat.succ_mul]; omega
      _ ≤ buffer.height * buffer.width := Nat.mul_le_mul_right _ hrow
  have hcell : buffer.cell (col, row) = some buffer.content[row * buffer.width + col] := by
    rw [Buffer.cell, if_pos (by rw [hx, hy]; omega), hx, hy, Nat.sub_zero, Nat.sub_zero,
      List.getElem?_eq_getElem hlt]
  unfold pushCell
  rw [hcell]
  exact ⟨_, rfl⟩

/-- Equal URIs have one index. -/
theorem Made.index_inj {hyperlinks : List PlacedLink} {frame : FrameData}
    (h : Made buffer hyperlinks frame) {i j : ℕ} {uri : Text} (hi : frame.hyperlinks[i]? = some uri)
    (hj : frame.hyperlinks[j]? = some uri) : i = j := by
  obtain ⟨hlt, hget⟩ := List.getElem?_eq_some_iff.mp hi
  exact (List.getElem?_inj hlt h.nodup).mp (hi.trans hj.symm)

end Blit

end Zynk
