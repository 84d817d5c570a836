import Mathlib.Data.List.Basic
import Mathlib.Algebra.Order.Group.Nat
import Mathlib.Data.Fin.Tuple.Basic

/-!
# Bytes at offsets

A byte-addressed store `Nat → UInt8` with reads and writes of ranges, splicing bytes into a
buffer, little-endian numbers, and codecs: a type laid out in a fixed number of bytes that
reads back what was written. What a later read sees is said by three kinds of lemma: a read of
the range just written, a read of a range apart from it, and a read inside it.
-/

/-! ## A byte store -/

namespace ByteStore

def read (m : Nat → UInt8) (off len : Nat) : List UInt8 := (List.range len).map fun i => m (off + i)

def write (m : Nat → UInt8) (off : Nat) (bytes : List UInt8) : Nat → UInt8 :=
  fun a => if off ≤ a ∧ a < off + bytes.length then bytes.getD (a - off) 0 else m a

variable {m : Nat → UInt8}

@[simp] theorem length_read (m : Nat → UInt8) (off len : Nat) : (read m off len).length = len := by
  simp [read]

theorem getElem_read {off len i : Nat} (hi : i < (read m off len).length) :
    (read m off len)[i] = m (off + i) := by
  simp [read]

theorem write_apply_of_lt {off a : Nat} {bytes : List UInt8} (ha : a < off) :
    write m off bytes a = m a := by
  simp only [write]
  rw [if_neg (by omega)]

theorem write_apply_of_le {off a : Nat} {bytes : List UInt8} (ha : off + bytes.length ≤ a) :
    write m off bytes a = m a := by
  simp only [write]
  rw [if_neg (by omega)]

theorem read_ext {m' : Nat → UInt8} {off len : Nat} (h : ∀ i < len, m' (off + i) = m (off + i)) :
    read m' off len = read m off len := by
  apply List.ext_getElem (by simp)
  intro i h1 h2
  rw [getElem_read, getElem_read, h i (by simpa using h1)]

theorem read_write_self (m : Nat → UInt8) (off : Nat) (bytes : List UInt8) :
    read (write m off bytes) off bytes.length = bytes := by
  apply List.ext_getElem (by simp)
  intro i h1 h2
  rw [getElem_read]
  simp only [write]
  rw [if_pos (by simp at h1; omega), Nat.add_sub_cancel_left]
  simp [h2]

theorem read_write_of_disjoint {off off' len : Nat} {bytes : List UInt8}
    (h : off' + len ≤ off ∨ off + bytes.length ≤ off') :
    read (write m off bytes) off' len = read m off' len := by
  apply read_ext
  intro i hi
  rcases h with h | h
  · exact write_apply_of_lt (by omega)
  · exact write_apply_of_le (by omega)

theorem read_write_inside {off off' len : Nat} {bytes : List UInt8} (h1 : off ≤ off')
    (h2 : off' + len ≤ off + bytes.length) :
    read (write m off bytes) off' len = ((bytes.drop (off' - off)).take len) := by
  apply List.ext_getElem (by simp; omega)
  intro i hi _
  rw [getElem_read]
  simp only [length_read] at hi
  simp only [write]
  rw [if_pos (by omega), List.getElem_take, List.getElem_drop,
    show off' + i - off = off' - off + i by omega]
  simp [show off' - off + i < bytes.length by omega]

theorem getD_read {off len i : Nat} (hi : i < len) : (read m off len).getD i 0 = m (off + i) := by
  simp [read, hi]

end ByteStore

/-! ## Splicing bytes into a buffer -/

namespace Splice

def splice (data : List UInt8) (off : Nat) (bytes : List UInt8) : List UInt8 :=
  data.take off ++ bytes ++ data.drop (off + bytes.length)

def slice (data : List UInt8) (lo len : Nat) : List UInt8 := (data.drop lo).take len

variable {data bytes : List UInt8} {off : Nat}

@[simp] theorem length_splice (h : off + bytes.length ≤ data.length) :
    (splice data off bytes).length = data.length := by
  simp only [splice, List.length_append, List.length_take, List.length_drop]
  omega

theorem slice_splice_self (h : off + bytes.length ≤ data.length) :
    slice (splice data off bytes) off bytes.length = bytes := by
  have hlen : (data.take off).length = off := by simp; omega
  simp only [slice, splice, List.append_assoc]
  rw [List.drop_left' hlen, List.take_left]

theorem slice_splice_of_disjoint {lo len : Nat} (h : off + bytes.length ≤ data.length)
    (hd : lo + len ≤ off ∨ off + bytes.length ≤ lo) :
    slice (splice data off bytes) lo len = slice data lo len := by
  apply List.ext_getElem
  · simp only [slice, List.length_take, List.length_drop, length_splice h]
  intro i h1 h2
  simp only [slice, List.length_take, List.length_drop] at h1 h2
  simp only [slice, List.getElem_take, List.getElem_drop, splice]
  rcases hd with hd | hd
  · rw [List.getElem_append_left (by simp; omega), List.getElem_append_left (by simp; omega),
      List.getElem_take]
  · rw [List.getElem_append_right (by simp; omega), List.getElem_drop]
    congr 1
    simp only [List.length_append, List.length_take]
    omega

@[simp] theorem splice_nil : splice data off [] = data := by
  simp [splice]

theorem splice_zero_of_length (h : bytes.length = data.length) : splice data 0 bytes = bytes := by
  simp [splice, h]

theorem splice_splice_append {more : List UInt8} (h : off + bytes.length ≤ data.length) :
    splice (splice data off bytes) (off + bytes.length) more = splice data off (bytes ++ more) := by
  have front : (data.take off ++ bytes).length = off + bytes.length := by simp; omega
  have back : (data.take off ++ bytes ++ data.drop (off + bytes.length)).drop
      (off + bytes.length + more.length) = data.drop (off + (bytes ++ more).length) := by
    rw [List.drop_append, List.drop_eq_nil_of_le (by rw [front]; omega), List.nil_append, front,
      List.drop_drop, List.length_append]
    congr 1
    omega
  simp only [splice]
  rw [List.take_left' front, back]
  simp only [List.append_assoc]

theorem getD_splice_of_lt {i : Nat} (hi : i < off) (hoff : off ≤ data.length) :
    (splice data off bytes).getD i 0 = data.getD i 0 := by
  simp only [splice, List.getD_eq_getElem?_getD, List.append_assoc]
  rw [List.getElem?_append_left (by simp; omega), List.getElem?_take_of_lt hi]

theorem getD_splice_of_ge {i : Nat} (hi : off + bytes.length ≤ i)
    (h : off + bytes.length ≤ data.length) :
    (splice data off bytes).getD i 0 = data.getD i 0 := by
  have hlen : (data.take off ++ bytes).length = off + bytes.length := by simp; omega
  simp only [splice, List.getD_eq_getElem?_getD]
  rw [List.getElem?_append_right (by omega), hlen, List.getElem?_drop,
    show off + bytes.length + (i - (off + bytes.length)) = i by omega]

end Splice

namespace ByteStore

open Splice

variable {m : Nat → UInt8}

theorem write_splice_read_apply {start len off : Nat} {bytes : List UInt8}
    (fits : off + bytes.length ≤ len) {a : Nat}
    (outside : a < start + off ∨ start + off + bytes.length ≤ a) :
    write m start (splice (read m start len) off bytes) a = m a := by
  have hlen : (read m start len).length = len := length_read m start len
  simp only [write]
  split
  · rename_i inside
    rw [length_splice (by omega)] at inside
    rcases outside with before | after
    · rw [getD_splice_of_lt (by omega) (by omega), getD_read (by omega),
        Nat.add_sub_cancel' inside.1]
    · rw [getD_splice_of_ge (by omega) (by omega), getD_read (by omega),
        Nat.add_sub_cancel' inside.1]
  · rfl

theorem read_write_splice {start len off : Nat} {bytes : List UInt8}
    (fits : off + bytes.length ≤ len) :
    read (write m start (splice (read m start len) off bytes)) (start + off) bytes.length =
      bytes := by
  have hlen : (read m start len).length = len := length_read m start len
  rw [read_write_inside (Nat.le_add_right start off) (by rw [length_splice (by omega)]; omega),
    Nat.add_sub_cancel_left]
  exact slice_splice_self (by omega)

end ByteStore

/-! ## Little-endian numbers -/

namespace LittleEndian

def leBytes : Nat → Nat → List UInt8
  | 0, _ => []
  | w + 1, x => UInt8.ofNat (x % 256) :: leBytes w (x / 256)

def ofLeBytes : List UInt8 → Nat
  | [] => 0
  | b :: bs => b.toNat + 256 * ofLeBytes bs

@[simp] theorem length_leBytes (w x : Nat) : (leBytes w x).length = w := by
  induction w generalizing x with
  | zero => rfl
  | succ w ih => simp [leBytes, ih]

theorem ofLeBytes_leBytes (w x : Nat) : ofLeBytes (leBytes w x) = x % 256 ^ w := by
  induction w generalizing x with
  | zero => simp [leBytes, ofLeBytes, Nat.mod_one]
  | succ w ih =>
      have h : x % 256 % 2 ^ 8 = x % 256 := Nat.mod_eq_of_lt (by omega)
      rw [leBytes, ofLeBytes, ih, UInt8.toNat_ofNat', h, pow_succ', Nat.mod_mul]

end LittleEndian

/-! ## Codecs -/

structure Codec (α : Type) where
  size : Nat
  encode : α → List UInt8
  decode : List UInt8 → α
  length_encode : ∀ a, (encode a).length = size
  decode_encode : ∀ a, decode (encode a) = a

namespace Codec

open LittleEndian Splice

variable {α β : Type}

def le (w : Nat) : Codec (Fin (256 ^ w)) where
  size := w
  encode x := leBytes w x.val
  decode bs := ⟨ofLeBytes bs % 256 ^ w, Nat.mod_lt _ (Nat.pow_pos (by decide))⟩
  length_encode _ := length_leBytes _ _
  decode_encode x := by
    apply Fin.ext
    simp only [ofLeBytes_leBytes, Nat.mod_eq_of_lt x.isLt]

def map (c : Codec α) (f : α → β) (g : β → α) (h : ∀ b, f (g b) = b) : Codec β where
  size := c.size
  encode b := c.encode (g b)
  decode bs := f (c.decode bs)
  length_encode b := c.length_encode (g b)
  decode_encode b := by simp only [c.decode_encode, h]

def prod (c₁ : Codec α) (c₂ : Codec β) : Codec (α × β) where
  size := c₁.size + c₂.size
  encode p := c₁.encode p.1 ++ c₂.encode p.2
  decode bs := (c₁.decode (bs.take c₁.size), c₂.decode (bs.drop c₁.size))
  length_encode p := by simp [c₁.length_encode, c₂.length_encode]
  decode_encode p := by
    have h := c₁.length_encode p.1
    simp only [← h, List.take_left, List.drop_left, c₁.decode_encode, c₂.decode_encode]

def pi (c : Codec α) : (n : Nat) → Codec (Fin n → α)
  | 0 => ⟨0, fun _ => [], fun _ => Fin.elim0, fun _ => rfl, fun _ => funext fun i => i.elim0⟩
  | n + 1 => (c.prod (pi c n)).map (fun p => Fin.cons p.1 p.2) (fun f => (f 0, Fin.tail f))
      (fun f => Fin.cons_self_tail f)

def vector (c : Codec α) (n : Nat) : Codec (Vector α n) :=
  (c.pi n).map Vector.ofFn (fun v i => v[i]) (fun _ => Vector.ofFn_getElem)

def u8 : Codec UInt8 :=
  (le 1).map (fun x => UInt8.ofNat x.val) (fun b => ⟨b.toNat, by simpa using b.toNat_lt⟩)
    (fun b => UInt8.ofNat_toNat)

def u16 : Codec UInt16 :=
  (le 2).map (fun x => UInt16.ofNat x.val) (fun b => ⟨b.toNat, by simpa using b.toNat_lt⟩)
    (fun b => UInt16.ofNat_toNat)

def u32 : Codec UInt32 :=
  (le 4).map (fun x => UInt32.ofNat x.val) (fun b => ⟨b.toNat, by simpa using b.toNat_lt⟩)
    (fun b => UInt32.ofNat_toNat)

def u64 : Codec UInt64 :=
  (le 8).map (fun x => UInt64.ofNat x.val) (fun b => ⟨b.toNat, by simpa using b.toNat_lt⟩)
    (fun b => UInt64.ofNat_toNat)

@[simp] theorem encode_u8 (v : UInt8) : u8.encode v = [v] := by
  show leBytes 1 v.toNat = [v]
  rw [leBytes, leBytes, Nat.mod_eq_of_lt v.toNat_lt, UInt8.ofNat_toNat]

@[simp] theorem size_prod (c₁ : Codec α) (c₂ : Codec β) : (c₁.prod c₂).size = c₁.size + c₂.size :=
  rfl

@[simp] theorem size_map (c : Codec α) (f : α → β) (g : β → α) (h : ∀ b, f (g b) = b) :
    (c.map f g h).size = c.size := rfl

/-! ### Values at an offset of a buffer -/

def getAt (c : Codec α) (data : List UInt8) (off : Nat) : Option α :=
  if off + c.size ≤ data.length then some (c.decode (slice data off c.size)) else none

def setAt (c : Codec α) (data : List UInt8) (off : Nat) (a : α) : Option (List UInt8) :=
  if off + c.size ≤ data.length then some (splice data off (c.encode a)) else none

variable (c : Codec α) {data data' : List UInt8} {off : Nat} {a : α}

theorem setAt_eq_some (h : c.setAt data off a = some data') :
    off + c.size ≤ data.length ∧ data' = splice data off (c.encode a) := by
  unfold setAt at h
  split at h
  · exact ⟨by assumption, (Option.some.inj h).symm⟩
  · cases h

theorem length_setAt (h : c.setAt data off a = some data') : data'.length = data.length := by
  obtain ⟨hfit, rfl⟩ := c.setAt_eq_some h
  exact length_splice (by rw [c.length_encode]; exact hfit)

theorem getAt_setAt_self (h : c.setAt data off a = some data') : c.getAt data' off = some a := by
  obtain ⟨hfit, rfl⟩ := c.setAt_eq_some h
  have hfit' : off + (c.encode a).length ≤ data.length := by rw [c.length_encode]; exact hfit
  unfold getAt
  rw [if_pos (by rw [length_splice hfit']; exact hfit), ← c.length_encode a,
    slice_splice_self hfit', c.decode_encode]

theorem getAt_setAt_of_disjoint {β : Type} (d : Codec β) {off' : Nat}
    (h : c.setAt data off a = some data')
    (hd : off' + d.size ≤ off ∨ off + c.size ≤ off') : d.getAt data' off' = d.getAt data off' := by
  obtain ⟨hfit, rfl⟩ := c.setAt_eq_some h
  have hfit' : off + (c.encode a).length ≤ data.length := by rw [c.length_encode]; exact hfit
  unfold getAt
  rw [length_splice hfit', slice_splice_of_disjoint hfit' (by rw [c.length_encode]; exact hd)]

theorem getAt_isSome_iff : (c.getAt data off).isSome ↔ off + c.size ≤ data.length := by
  unfold getAt
  split <;> simp_all

end Codec
