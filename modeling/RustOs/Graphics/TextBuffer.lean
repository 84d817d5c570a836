import RustOs.Lib.Bytes
import RustOs.Lib.Wrap
import RustOs.RingBuffer

/-!
# The text buffer

`graphics/text_buffer.rs` over `graphics/framebuffer.rs`. `TextBuffer<N, W>` keeps lines of `W`
characters in a `RingBuffer` of `N` lines and a cursor into the newest line. `write_char` opens a
new line on `\n`, wraps to a new line when the cursor reaches `W`, and creates the first line
when the buffer has none; `write_str` writes the bytes of a string one by one, in white. `flush`
clears the framebuffer and draws the lines from the newest up, one glyph of `OPENGL_FONT` per
character, while there is room. `draw_pixel` and `draw_bitmap` assert that their coordinates lie
inside the framebuffer; a failed assertion is `none`. The framebuffer's memory is a byte store
from its start address. The font is any table of 95 glyphs of 13 bytes, as the type of
`OPENGL_FONT` has it; its bitmaps only colour the pixels.

`writeStr_layout` says what the lines hold after a string is written to a new buffer: the rows
of `Wrap.layout`, the string cut at every newline and into rows of `W`, except that a newline
at the very start is absorbed by the line it creates. `flush_isSome` says that no assertion of
the framebuffer fails, whatever its size.
-/

namespace RustOs.Graphics

open Wrap

/-! ## The framebuffer -/

/-- `ARGB32Bit`, in the order of its bytes in memory. -/
structure ARGB32Bit where
  blue : UInt8
  green : UInt8
  red : UInt8
  alpha : UInt8
  deriving DecidableEq, Repr

def argb32BitWhite : ARGB32Bit := ⟨0xFF, 0xFF, 0xFF, 0xFF⟩

def argb32BitBlack : ARGB32Bit := ⟨0x00, 0x00, 0x00, 0xFF⟩

structure VESAFramebuffer32Bit where
  widthPixels : Nat
  heightPixels : Nat
  pitch : Nat
  memory : Nat → UInt8

namespace VESAFramebuffer32Bit

def drawPixel (self : VESAFramebuffer32Bit) (x y : Nat) (color : ARGB32Bit) :
    Option VESAFramebuffer32Bit :=
  if x < self.widthPixels ∧ y < self.heightPixels then
    let pixelOffset := y * self.pitch + x * 4
    some { self with
      memory := ByteStore.write self.memory pixelOffset [color.blue, color.green, color.red,
        color.alpha] }
  else none

/-- `draw_bitmap`: bit `i` of row `j` of `bitmap.chunks(bits_per_row)`, which is bit
`j * bits_per_row + i`, goes to `(x + i, y + j)`; `chunks` panics on rows of zero bits. -/
def drawBitmap (self : VESAFramebuffer32Bit) (x y : Nat) (bitmap : List Bool) (bitsPerRow : Nat)
    (foreground background : ARGB32Bit) : Option VESAFramebuffer32Bit :=
  if x < self.widthPixels ∧ y < self.heightPixels then
    if bitsPerRow = 0 then none
    else
      bitmap.zipIdx.foldlM (fun framebuffer (bit, k) =>
        framebuffer.drawPixel (x + k % bitsPerRow) (y + k / bitsPerRow)
          (if bit then foreground else background)) self
  else none

def clear (self : VESAFramebuffer32Bit) : VESAFramebuffer32Bit :=
  { self with memory := ByteStore.write self.memory 0 (List.replicate (self.pitch * self.heightPixels) 0) }

end VESAFramebuffer32Bit

/-! ## The font and the characters -/

def fontStartCharAsciiCode : UInt8 := 32

def fontWidthPixels : Nat := 8

def fontHeightPixels : Nat := 13

def fontSpaceCharacterIndex : Nat := 0

def glyphBits (charBytes : Vector UInt8 fontHeightPixels) : List Bool :=
  charBytes.toList.flatMap fun byte => (List.range 8).map fun i => byte.toNat.testBit (7 - i)

/-- `ColorChar`. -/
structure ColorChar where
  charByte : UInt8
  color : ARGB32Bit
  deriving DecidableEq, Repr

/-- `draw_char`: characters below the first glyph are drawn as a space, and a character past
the table is not drawn. -/
def drawChar (font : Vector (Vector UInt8 fontHeightPixels) 95)
    (framebuffer : VESAFramebuffer32Bit) (x y : Nat) (c : ColorChar) :
    Option VESAFramebuffer32Bit :=
  let index :=
    if c.charByte < fontStartCharAsciiCode then fontSpaceCharacterIndex
    else (c.charByte - fontStartCharAsciiCode).toNat
  match font[index]? with
  | none => some framebuffer
  | some charBytes =>
      framebuffer.drawBitmap x y (glyphBits charBytes) fontWidthPixels c.color argb32BitBlack

/-! ## The text buffer -/

/-- `TextBuffer<N, W>`. -/
structure TextBuffer (N W : Nat) where
  buffer : RingBuffer (Vector ColorChar W) N
  cursor : Nat

namespace TextBuffer

variable {N W : Nat}

def new (N W : Nat) [NeZero N] : TextBuffer N W := ⟨RingBuffer.new N, 0⟩

def newLine (self : TextBuffer N W) : TextBuffer N W :=
  ⟨self.buffer.push (Vector.replicate W ⟨0x00, argb32BitWhite⟩), 0⟩

def writeChar (self : TextBuffer N W) (c : ColorChar) : Option (TextBuffer N W) := do
  -- b'\n'
  if c.charByte = 10 then some self.newLine
  else
    let self := if self.cursor = W then self.newLine else self
    -- the current line, created when the buffer has none; `unwrap` panics on `None`
    let ((line, writeLine), self) ← match self.buffer.getMut 0 with
      | some current => some (current, self)
      | none => (self.newLine.buffer.getMut 0).map fun current => (current, self.newLine)
    if h : self.cursor < W then some ⟨writeLine (line.set self.cursor c), self.cursor + 1⟩
    else none

/-- `fmt::Write::write_str` of the string whose bytes are `s`. -/
def writeStr (self : TextBuffer N W) (s : List UInt8) : Option (TextBuffer N W) :=
  s.foldlM (fun self byte => self.writeChar ⟨byte, argb32BitWhite⟩) self

def drawLine (font : Vector (Vector UInt8 fontHeightPixels) 95) (pixelY : Nat) :
    List ColorChar → Nat → VESAFramebuffer32Bit → Option VESAFramebuffer32Bit
  | [], _, framebuffer => some framebuffer
  | c :: line, x, framebuffer =>
      if framebuffer.widthPixels < x + fontWidthPixels then some framebuffer
      else do
        let framebuffer ← drawChar font framebuffer x pixelY c
        drawLine font pixelY line (x + fontWidthPixels + 1) framebuffer

def flushLines (font : Vector (Vector UInt8 fontHeightPixels) 95) :
    List (Vector ColorChar W) → Nat → VESAFramebuffer32Bit → Option VESAFramebuffer32Bit
  | [], _, framebuffer => some framebuffer
  | line :: lines, pixelY, framebuffer =>
      if pixelY < fontHeightPixels + 1 then some framebuffer
      else do
        let pixelY := pixelY - (fontHeightPixels + 1)
        let framebuffer ← drawLine font pixelY line.toList 1 framebuffer
        flushLines font lines pixelY framebuffer

def flush (self : TextBuffer N W) (framebuffer : VESAFramebuffer32Bit)
    (font : Vector (Vector UInt8 fontHeightPixels) 95) : Option VESAFramebuffer32Bit :=
  let framebuffer := framebuffer.clear
  flushLines font (self.buffer.iter.toList (N + 1)) framebuffer.heightPixels framebuffer

end TextBuffer

/-! ## No assertion of the framebuffer fails -/

namespace VESAFramebuffer32Bit

def SameSize (a b : VESAFramebuffer32Bit) : Prop :=
  b.widthPixels = a.widthPixels ∧ b.heightPixels = a.heightPixels

theorem SameSize.trans {a b c : VESAFramebuffer32Bit} (hab : SameSize a b) (hbc : SameSize b c) :
    SameSize a c :=
  ⟨hbc.1.trans hab.1, hbc.2.trans hab.2⟩

theorem drawPixel_isSome (fb : VESAFramebuffer32Bit) {x y : Nat} (hx : x < fb.widthPixels)
    (hy : y < fb.heightPixels) (color : ARGB32Bit) :
    ∃ fb', fb.drawPixel x y color = some fb' ∧ SameSize fb fb' :=
  ⟨_, if_pos ⟨hx, hy⟩, rfl, rfl⟩

theorem foldlM_drawPixel_isSome {x y bitsPerRow : Nat} {foreground background : ARGB32Bit} :
    ∀ (pixels : List (Bool × Nat)) (fb : VESAFramebuffer32Bit),
      (∀ p ∈ pixels, x + p.2 % bitsPerRow < fb.widthPixels ∧
        y + p.2 / bitsPerRow < fb.heightPixels) →
      ∃ fb', pixels.foldlM (fun framebuffer (bit, k) =>
          framebuffer.drawPixel (x + k % bitsPerRow) (y + k / bitsPerRow)
            (if bit then foreground else background)) fb = some fb' ∧ SameSize fb fb'
  | [], fb, _ => ⟨fb, rfl, rfl, rfl⟩
  | (bit, k) :: pixels, fb, inside => by
      obtain ⟨hx, hy⟩ := inside (bit, k) List.mem_cons_self
      dsimp only at hx hy
      obtain ⟨fb₁, drawn, same₁⟩ := drawPixel_isSome fb hx hy (if bit then foreground else background)
      -- the rest lies inside the framebuffer drawn so far, which has the same size
      obtain ⟨fb₂, rest, same₂⟩ := @foldlM_drawPixel_isSome x y bitsPerRow foreground background
        pixels fb₁ fun p mem => by
          rw [same₁.1, same₁.2]
          exact inside p (List.mem_cons_of_mem _ mem)
      refine ⟨fb₂, ?_, same₁.trans same₂⟩
      rw [List.foldlM_cons]
      dsimp only
      rw [drawn]
      exact rest

theorem length_glyphBits (charBytes : Vector UInt8 fontHeightPixels) :
    (glyphBits charBytes).length = fontWidthPixels * fontHeightPixels := by
  rw [glyphBits, List.length_flatMap]
  simp only [List.length_map, List.length_range]
  rw [List.map_const', List.sum_replicate_nat, Vector.length_toList, Nat.mul_comm]
  rfl

theorem drawChar_isSome (font : Vector (Vector UInt8 fontHeightPixels) 95)
    (fb : VESAFramebuffer32Bit) {x y : Nat} (hx : x + fontWidthPixels ≤ fb.widthPixels)
    (hy : y + fontHeightPixels < fb.heightPixels) (c : ColorChar) :
    ∃ fb', drawChar font fb x y c = some fb' ∧ SameSize fb fb' := by
  cases glyph : font[if c.charByte < fontStartCharAsciiCode then fontSpaceCharacterIndex
      else (c.charByte - fontStartCharAsciiCode).toNat]? with
  | none => exact ⟨fb, by simp only [drawChar, glyph], rfl, rfl⟩
  | some charBytes =>
    simp only [drawChar, glyph]
    have corner : x < fb.widthPixels ∧ y < fb.heightPixels := by
      simp only [fontWidthPixels, fontHeightPixels] at hx hy
      omega
    rw [drawBitmap, if_pos corner, if_neg (by decide)]
    apply foldlM_drawPixel_isSome
    -- pixel `k` of the glyph is in column `k % 8` and row `k / 8 < 13`
    intro p mem
    have below : p.2 < fontWidthPixels * fontHeightPixels := by
      have := (List.mem_zipIdx mem).2.1
      rwa [length_glyphBits, Nat.zero_add] at this
    have column := Nat.mod_lt p.2 (show 0 < fontWidthPixels by decide)
    have row : p.2 / fontWidthPixels < fontHeightPixels := Nat.div_lt_of_lt_mul below
    simp only [fontWidthPixels, fontHeightPixels] at hx hy column row ⊢
    omega

end VESAFramebuffer32Bit

namespace TextBuffer

open VESAFramebuffer32Bit

variable {N W : Nat} (font : Vector (Vector UInt8 fontHeightPixels) 95)

theorem drawLine_isSome {pixelY : Nat} :
    ∀ (line : List ColorChar) (x : Nat) (fb : VESAFramebuffer32Bit),
      pixelY + fontHeightPixels < fb.heightPixels →
      ∃ fb', drawLine font pixelY line x fb = some fb' ∧ SameSize fb fb'
  | [], _, fb, _ => ⟨fb, rfl, rfl, rfl⟩
  | c :: line, x, fb, room => by
      rw [drawLine]
      split
      · exact ⟨fb, rfl, rfl, rfl⟩
      · rename_i fits
        obtain ⟨fb₁, drawn, same₁⟩ := drawChar_isSome font fb (x := x) (by omega) room c
        obtain ⟨fb₂, rest, same₂⟩ :=
          drawLine_isSome line (x + fontWidthPixels + 1) fb₁ (by rw [same₁.2]; exact room)
        exact ⟨fb₂, by rw [drawn]; exact rest, same₁.trans same₂⟩

theorem flushLines_isSome :
    ∀ (lines : List (Vector ColorChar W)) (pixelY : Nat) (fb : VESAFramebuffer32Bit),
      pixelY ≤ fb.heightPixels →
      ∃ fb', flushLines font lines pixelY fb = some fb' ∧ SameSize fb fb'
  | [], _, fb, _ => ⟨fb, rfl, rfl, rfl⟩
  | line :: lines, pixelY, fb, below => by
      rw [flushLines]
      split
      · exact ⟨fb, rfl, rfl, rfl⟩
      · -- the line is drawn one glyph and one pixel above `pixel_y`
        rename_i room
        dsimp only
        have lineRoom : pixelY - (fontHeightPixels + 1) + fontHeightPixels < fb.heightPixels := by
          omega
        obtain ⟨fb₁, drawn, same₁⟩ := drawLine_isSome font line.toList 1 fb lineRoom
        obtain ⟨fb₂, rest, same₂⟩ := flushLines_isSome lines (pixelY - (fontHeightPixels + 1)) fb₁
          (by rw [same₁.2]; omega)
        exact ⟨fb₂, by rw [drawn]; exact rest, same₁.trans same₂⟩

theorem flush_isSome (tb : TextBuffer N W) (fb : VESAFramebuffer32Bit) :
    ∃ fb', tb.flush fb font = some fb' := by
  obtain ⟨fb', drawn, -⟩ := flushLines_isSome font (tb.buffer.iter.toList (N + 1))
    fb.clear.heightPixels fb.clear (Nat.le_refl _)
  exact ⟨fb', drawn⟩

end TextBuffer

/-! ## The lines hold the layout -/

def dropLeadingNewline (s : List UInt8) : List UInt8 := if s.head? = some 10 then s.tail else s

def padRow (W : Nat) (r : List UInt8) : Vector ColorChar W :=
  Vector.ofFn fun i => ⟨r.getD i 0, argb32BitWhite⟩

/-- The lines a buffer of `N` lines keeps of the rows `R`, newest first. -/
def history (N W : Nat) (R : List (List UInt8)) : List (Vector ColorChar W) :=
  (R.map (padRow W)).reverse.take N

theorem padRow_nil (W : Nat) : padRow W [] = Vector.replicate W ⟨0x00, argb32BitWhite⟩ := by
  apply Vector.ext
  intro i hi
  simp [padRow]

theorem padRow_set {W : Nat} {r : List UInt8} {k : Nat} (short : k < W) (atEnd : k = r.length)
    (c : UInt8) : (padRow W r).set k ⟨c, argb32BitWhite⟩ short = padRow W (r ++ [c]) := by
  subst atEnd
  apply Vector.ext
  intro i hi
  rw [Vector.getElem_set, padRow, padRow, Vector.getElem_ofFn, Vector.getElem_ofFn]
  split
  · rename_i at_end
    subst at_end
    simp
  · rename_i other
    dsimp only
    rw [List.getD_eq_getElem?_getD, List.getD_eq_getElem?_getD, List.getElem?_append]
    split
    · rfl
    · rw [List.getElem?_eq_none (by omega), List.getElem?_eq_none (by simp; omega)]

section History

variable {N W : Nat}

theorem history_append_row (R : List (List UInt8)) (r : List UInt8) :
    pushBounded N (history N W R) (padRow W r) = history N W (R ++ [r]) := by
  rw [history, history, pushBounded, List.map_append, List.reverse_append, List.map_singleton,
    List.reverse_singleton, List.singleton_append]
  cases N with
  | zero => rfl
  | succ n => rw [List.take_succ_cons, List.take_succ_cons, List.take_take, Nat.min_eq_left (by omega)]

theorem history_set_last [NeZero N] (R : List (List UInt8)) (r r' : List UInt8) :
    (history N W (R ++ [r])).set 0 (padRow W r') = history N W (R ++ [r']) := by
  obtain ⟨n, rfl⟩ : ∃ n, N = n + 1 := ⟨N - 1, (Nat.succ_pred_eq_of_pos (Nat.pos_of_neZero N)).symm⟩
  simp [history]

end History

namespace TextBuffer

variable {N W : Nat}

/-- The buffer shows the rows `R`, oldest first: it keeps their last `N` lines, and the cursor
is at the end of the last row. -/
structure Shows (tb : TextBuffer N W) (R : List (List UInt8)) : Prop where
  holds : tb.buffer.Holds (history N W R)
  cursor_eq : R.getLast?.map List.length = some tb.cursor
  short : ∀ r ∈ R, r.length ≤ W

theorem Shows.newLine {tb : TextBuffer N W} {R : List (List UInt8)} (h : Shows tb R) :
    Shows tb.newLine (R ++ [[]]) where
  holds := by
    rw [TextBuffer.newLine, ← padRow_nil, ← history_append_row]
    exact h.holds.push _
  cursor_eq := by simp [TextBuffer.newLine]
  short r mem := by
    rcases List.mem_append.mp mem with old | new
    · exact h.short r old
    · simp at new
      simp [new]

theorem Shows.writeCurrent [NeZero N] {tb : TextBuffer N W} {R : List (List UInt8)}
    (h : Shows tb R) (room : tb.cursor < W) (c : UInt8) :
    ∃ line writeLine, tb.buffer.getMut 0 = some (line, writeLine) ∧
      Shows ⟨writeLine (line.set tb.cursor ⟨c, argb32BitWhite⟩ room), tb.cursor + 1⟩
        (R.modifyLast (· ++ [c])) := by
  -- the last row is the newest line
  obtain ⟨R', last, rfl⟩ : ∃ R' last, R = R' ++ [last] := by
    rcases List.eq_nil_or_concat R with empty | ⟨R', last, concat⟩
    · have := h.cursor_eq
      simp [empty] at this
    · exact ⟨R', last, by rw [concat, List.concat_eq_append]⟩
  have cursor : tb.cursor = last.length := by
    simpa [List.getLast?_concat] using h.cursor_eq.symm
  have newest : (history N W (R' ++ [last]))[0]? = some (padRow W last) := by
    obtain ⟨n, hn⟩ : ∃ n, N = n + 1 := ⟨N - 1, (Nat.succ_pred_eq_of_pos (Nat.pos_of_neZero N)).symm⟩
    simp [history, hn]
  obtain ⟨⟨line, writeLine⟩, found, newestLine⟩ :=
    Option.map_eq_some_iff.mp ((h.holds.getMut 0).trans newest)
  dsimp only at newestLine
  subst newestLine
  refine ⟨padRow W last, writeLine, found, ⟨?_, ?_, ?_⟩⟩
  · -- the newest line gets the character, and the buffer the new last row
    have written := h.holds.write found (padRow W (last ++ [c]))
    rw [history_set_last] at written
    rw [List.modifyLast_concat]
    show (writeLine _).Holds _
    rw [padRow_set room cursor c]
    exact written
  · simp [List.modifyLast_concat, cursor]
  · intro r mem
    rw [List.modifyLast_concat] at mem
    rcases List.mem_append.mp mem with old | new
    · exact h.short r (List.mem_append_left _ old)
    · simp at new
      rw [new, List.length_append, List.length_singleton, ← cursor]
      exact room

theorem writeChar_of_current {tb self : TextBuffer N W} {c : ColorChar} (hc : c.charByte ≠ 10)
    (wrapped : (if tb.cursor = W then tb.newLine else tb) = self)
    {line : Vector ColorChar W} {writeLine : Vector ColorChar W → RingBuffer (Vector ColorChar W) N}
    (found : self.buffer.getMut 0 = some (line, writeLine)) (room : self.cursor < W) :
    tb.writeChar c = some ⟨writeLine (line.set self.cursor c room), self.cursor + 1⟩ := by
  simp only [writeChar, if_neg hc, wrapped, found]
  exact dif_pos room

theorem writeChar_of_empty {tb : TextBuffer N W} {c : ColorChar} (hc : c.charByte ≠ 10)
    (notFull : tb.cursor ≠ W) (empty : tb.buffer.getMut 0 = none)
    {line : Vector ColorChar W} {writeLine : Vector ColorChar W → RingBuffer (Vector ColorChar W) N}
    (found : tb.newLine.buffer.getMut 0 = some (line, writeLine)) (room : 0 < W) :
    tb.writeChar c = some ⟨writeLine (line.set 0 c room), 1⟩ := by
  simp only [writeChar, if_neg hc, if_neg notFull, empty, found, Option.map_some]
  exact dif_pos room

theorem Shows.writeChar [NeZero N] (hW : 0 < W) {tb : TextBuffer N W} {R : List (List UInt8)}
    (h : Shows tb R) (c : UInt8) :
    ∃ tb', tb.writeChar ⟨c, argb32BitWhite⟩ = some tb' ∧ Shows tb' (wrapStep 10 W R c) := by
  by_cases newline : c = 10
  · refine ⟨tb.newLine, by simp [TextBuffer.writeChar, newline], ?_⟩
    rw [wrapStep, if_pos (by simp [newline])]
    exact h.newLine
  rw [wrapStep, if_neg (by simpa using newline), extend]
  by_cases full : tb.cursor = W
  · -- the character opens a new line after the full one
    have last : R.getLast?.map List.length = some W := full ▸ h.cursor_eq
    obtain ⟨line, writeLine, found, shows⟩ := h.newLine.writeCurrent hW c
    refine ⟨_, writeChar_of_current newline (if_pos full) found hW, ?_⟩
    rw [List.modifyLast_concat, List.nil_append] at shows
    rw [if_pos last]
    exact shows
  · -- the character goes to the end of the last line, which has room
    have notLast : R.getLast?.map List.length ≠ some W := by
      rw [h.cursor_eq]
      simpa using full
    have room : tb.cursor < W := by
      obtain ⟨last, hlast, cursor⟩ := Option.map_eq_some_iff.mp h.cursor_eq
      have := h.short last (List.mem_of_getLast? hlast)
      omega
    obtain ⟨line, writeLine, found, shows⟩ := h.writeCurrent room c
    refine ⟨_, writeChar_of_current newline (if_neg full) found room, ?_⟩
    rwa [if_neg notLast]

theorem shows_first [NeZero N] (hW : 0 < W) (c : UInt8) :
    ∃ tb, (new N W).writeChar ⟨c, argb32BitWhite⟩ = some tb ∧
      Shows tb (layout 10 W (dropLeadingNewline [c])) := by
  have empty : Shows (new N W).newLine [[]] := by
    refine ⟨?_, rfl, fun r mem => by simp at mem; simp [mem]⟩
    have noRows : history N W [] = [] := by simp [history]
    rw [TextBuffer.newLine, ← padRow_nil, ← List.nil_append [[]], ← history_append_row, noRows]
    exact RingBuffer.holds_new.push _
  by_cases newline : c = 10
  · refine ⟨(new N W).newLine, by simp [TextBuffer.writeChar, newline], ?_⟩
    simpa [dropLeadingNewline, newline, layout, rows_nil] using empty
  · have noLine : (new N W).buffer.getMut 0 = none := by
      have := RingBuffer.holds_new.getMut (T := Vector ColorChar W) (N := N) 0
      exact Option.map_eq_none_iff.mp this
    obtain ⟨line, writeLine, found, shows⟩ := empty.writeCurrent hW c
    refine ⟨_, writeChar_of_empty newline (Nat.ne_of_lt hW) noLine found hW, ?_⟩
    have single : layout 10 W (dropLeadingNewline [c]) = [[c]] := by
      rw [dropLeadingNewline, if_neg (by simpa using newline), layout,
        List.splitOn_eq_splitOnP, List.splitOnP_cons_eq_if_modifyHead, if_neg (by simpa using newline),
        List.splitOnP_nil, List.modifyHead_cons, List.flatMap_singleton, rows_eq hW,
        if_pos (by simp; omega)]
    rw [modifyLast_singleton, List.nil_append] at shows
    rwa [single]

theorem Shows.writeStr [NeZero N] (hW : 0 < W) :
    ∀ (s l : List UInt8) (tb : TextBuffer N W), Shows tb (layout 10 W l) →
      ∃ tb', tb.writeStr s = some tb' ∧ Shows tb' (layout 10 W (l ++ s))
  | [], l, tb, h => ⟨tb, rfl, by rwa [List.append_nil]⟩
  | c :: s, l, tb, h => by
      obtain ⟨tb₁, written, shows⟩ := h.writeChar hW c
      rw [← layout_append_singleton hW] at shows
      obtain ⟨tb₂, rest, shows₂⟩ := Shows.writeStr hW s (l ++ [c]) tb₁ shows
      refine ⟨tb₂, ?_, by rwa [List.append_assoc, List.singleton_append] at shows₂⟩
      rw [TextBuffer.writeStr, List.foldlM_cons, written]
      exact rest

theorem Shows.get {tb : TextBuffer N W} {R : List (List UInt8)} (h : Shows tb R) :
    tb.buffer.len = min N R.length ∧
      ∀ i < tb.buffer.len, tb.buffer.get i = (R.reverse[i]?).map (padRow W) := by
  have len : tb.buffer.len = min N R.length := by
    rw [h.holds.len, history, List.length_take, List.length_reverse, List.length_map]
  refine ⟨len, fun i hi => ?_⟩
  rw [h.holds.get, history, List.getElem?_take, if_pos (by omega), ← List.map_reverse,
    List.getElem?_map]

/-- After a non-empty string is written to a new buffer, its lines are the last `N` rows of the
layout of the string, newest first, where a newline at the very start of the string only
creates the first line; and `flush` fails no assertion of any framebuffer. -/
theorem writeStr_layout (N W : Nat) [NeZero N] (hW : 0 < W) (s : List UInt8) (hs : s ≠ []) :
    ∃ tb, (new N W).writeStr s = some tb ∧
      tb.buffer.len = min N (layout 10 W (dropLeadingNewline s)).length ∧
      (∀ i < tb.buffer.len,
        tb.buffer.get i = ((layout 10 W (dropLeadingNewline s)).reverse[i]?).map (padRow W)) ∧
      ∀ (fb : VESAFramebuffer32Bit) (font : Vector (Vector UInt8 fontHeightPixels) 95),
        ∃ fb', tb.flush fb font = some fb' := by
  obtain ⟨c, rest, rfl⟩ := List.exists_cons_of_ne_nil hs
  obtain ⟨tb₁, first, shows₁⟩ := shows_first (N := N) hW c
  obtain ⟨tb, written, shows⟩ := Shows.writeStr hW rest _ tb₁ shows₁
  -- the first character decides whether a leading newline is dropped
  have dropped : dropLeadingNewline [c] ++ rest = dropLeadingNewline (c :: rest) := by
    unfold dropLeadingNewline
    by_cases newline : c = 10 <;> simp [newline]
  rw [dropped] at shows
  refine ⟨tb, ?_, shows.get.1, shows.get.2, fun fb font => flush_isSome font tb fb⟩
  rw [TextBuffer.writeStr, List.foldlM_cons, first]
  exact written

theorem writeStr_layout_wrapped :
    NeZero 4 ∧ 0 < 4 ∧ [97, 10, 98, 99, 100, 101, 102] ≠ [] ∧
      ∃ tb, (new 4 4).writeStr [97, 10, 98, 99, 100, 101, 102] = some tb ∧
        tb.buffer.len = min 4 (layout 10 4 (dropLeadingNewline [97, 10, 98, 99, 100, 101, 102])).length ∧
        (∀ i < tb.buffer.len, tb.buffer.get i =
          ((layout 10 4 (dropLeadingNewline [97, 10, 98, 99, 100, 101, 102])).reverse[i]?).map
            (padRow 4)) ∧
        ∀ (fb : VESAFramebuffer32Bit) (font : Vector (Vector UInt8 fontHeightPixels) 95),
          ∃ fb', tb.flush fb font = some fb' :=
  ⟨inferInstance, by decide, by decide,
    writeStr_layout 4 4 (by decide) [97, 10, 98, 99, 100, 101, 102] (by decide)⟩

/-- A newline as the first byte of the string creates the first line and no empty row before it:
the buffer has one line where the layout of the string has two rows. -/
theorem writeStr_leading_newline :
    ((new 4 4).writeStr [10]).map (fun tb => tb.buffer.len) = some 1 ∧
      min 4 (layout 10 4 [10]).length = 2 := by
  decide

end TextBuffer

end RustOs.Graphics
