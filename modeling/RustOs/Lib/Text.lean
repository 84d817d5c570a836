import Mathlib

/-!
# Words, decimal numbers and ASCII bytes, as Rust's `str` reads them

`char::is_whitespace`, `str::split_whitespace`, `from_str_radix` in base 10 for an unsigned type
whose values are below `bound`, and `str::from_utf8` on bytes below `0x80`.

Each reader has its inverse on the texts it is meant for: words joined by spaces split back into
those words (`splitWhitespace_intercalate`), the decimal digits of a number below the bound read
back as it (`fromStrRadix10_toDigits`), and ASCII bytes decode to the characters they code
(`fromUTF8?_ascii`).
-/

namespace Text

section SplitOnP

variable {α : Type} {p : α → Bool}

theorem mem_of_mem_splitOnP {l piece : List α} (h : piece ∈ l.splitOnP p) :
    ∀ x ∈ piece, p x = false ∧ x ∈ l := by
  induction l generalizing piece with
  | nil =>
      intro x hx
      simp only [List.splitOnP_nil, List.mem_singleton] at h
      simp [h] at hx
  | cons a l ih =>
      rw [List.splitOnP_cons_eq_if_modifyHead] at h
      intro x hx
      split at h
      · -- `a` is a separator: `piece` is the empty piece in front of it or a piece of `l`
        simp only [List.mem_cons] at h
        rcases h with rfl | h
        · simp at hx
        · exact ⟨(ih h x hx).1, List.mem_cons_of_mem a (ih h x hx).2⟩
      · -- `a` joins the first piece of `l`
        rename_i keep
        obtain ⟨first, rest, split⟩ := List.ne_nil_iff_exists_cons.mp (List.splitOnP_ne_nil p l)
        rw [split, List.modifyHead_cons, List.mem_cons] at h
        rcases h with rfl | h
        · rcases List.mem_cons.mp hx with rfl | hx
          · exact ⟨by simpa using keep, List.mem_cons_self⟩
          · have inner := ih (split ▸ List.mem_cons_self) x hx
            exact ⟨inner.1, List.mem_cons_of_mem a inner.2⟩
        · have inner := ih (split ▸ List.mem_cons_of_mem first h) x hx
          exact ⟨inner.1, List.mem_cons_of_mem a inner.2⟩

theorem splitOnP_intercalate {sep : α} (hsep : p sep = true) {ls : List (List α)} (hls : ls ≠ [])
    (free : ∀ l ∈ ls, ∀ x ∈ l, p x = false) : ([sep].intercalate ls).splitOnP p = ls := by
  induction ls with
  | nil => exact absurd rfl hls
  | cons l ls ih =>
      cases ls with
      | nil => simpa using List.splitOnP_eq_singleton (free l List.mem_cons_self)
      | cons l' ls =>
          rw [List.intercalate_cons_cons, List.append_assoc, List.singleton_append,
            List.splitOnP_append_cons_of_forall_mem (free l List.mem_cons_self) sep hsep,
            ih (List.cons_ne_nil l' ls) fun m hm => free m (List.mem_cons_of_mem l hm)]

theorem mem_intercalate {sep : List α} {ls : List (List α)} {x : α} (h : x ∈ sep.intercalate ls) :
    x ∈ sep ∨ ∃ l ∈ ls, x ∈ l := by
  induction ls with
  | nil => simp at h
  | cons l ls ih =>
      cases ls with
      | nil => exact Or.inr ⟨l, List.mem_cons_self, by simpa using h⟩
      | cons l' ls =>
          rw [List.intercalate_cons_cons, List.mem_append, List.mem_append] at h
          rcases h with (h | h) | h
          · exact Or.inr ⟨l, List.mem_cons_self, h⟩
          · exact Or.inl h
          · rcases ih h with h | ⟨m, hm, hx⟩
            · exact Or.inl h
            · exact Or.inr ⟨m, List.mem_cons_of_mem l hm, hx⟩

end SplitOnP

section MapM

variable {α β : Type} {f : α → Option β}

theorem mapM_eq_some_of_forall {l : List α} (h : ∀ a ∈ l, f a ≠ none) : ∃ l', l.mapM f = some l' := by
  induction l with
  | nil => exact ⟨[], rfl⟩
  | cons a l ih =>
      obtain ⟨b, hb⟩ := Option.ne_none_iff_exists'.mp (h a List.mem_cons_self)
      obtain ⟨l', hl'⟩ := ih fun a' ha' => h a' (List.mem_cons_of_mem a ha')
      exact ⟨b :: l', by simp [List.mapM_cons, hb, hl']⟩

theorem mem_of_mapM_eq_some {l : List α} {l' : List β} (h : l.mapM f = some l') :
    ∀ b ∈ l', ∃ a ∈ l, f a = some b := by
  induction l generalizing l' with
  | nil =>
      simp only [List.mapM_nil, Option.pure_def, Option.some.injEq] at h
      simp [← h]
  | cons a l ih =>
      simp only [List.mapM_cons, Option.bind_eq_bind, Option.bind_eq_some_iff, Option.pure_def,
        Option.some.injEq] at h
      obtain ⟨b, hb, bs, hbs, rfl⟩ := h
      intro b' hb'
      rcases List.mem_cons.mp hb' with rfl | hb'
      · exact ⟨a, List.mem_cons_self, hb⟩
      · obtain ⟨a', ha', hf⟩ := ih hbs b' hb'
        exact ⟨a', List.mem_cons_of_mem a ha', hf⟩

end MapM

/-! ## Whitespace and words -/

def isWhitespace (c : Char) : Bool :=
  c = ' ' || ('\t' ≤ c && c ≤ '\r') ||
    (0x7f < c.toNat &&
      (c.toNat = 0x85 || c.toNat = 0xa0 || c.toNat = 0x1680 ||
        (0x2000 ≤ c.toNat && c.toNat ≤ 0x200a) || c.toNat = 0x2028 || c.toNat = 0x2029 ||
        c.toNat = 0x202f || c.toNat = 0x205f || c.toNat = 0x3000))

def splitWhitespace (s : String) : List String :=
  ((s.toList.splitOnP isWhitespace).filter fun piece => !piece.isEmpty).map String.ofList

def IsWord (w : String) : Prop := w.toList ≠ [] ∧ ∀ c ∈ w.toList, isWhitespace c = false

instance : DecidablePred IsWord := fun w =>
  decidable_of_iff (!w.toList.isEmpty && w.toList.all fun c => !isWhitespace c)
    (by simp [IsWord])

theorem isWhitespace_of_lt {c : Char} (hlo : 0x20 < c.toNat) (hhi : c.toNat < 0x7f) :
    isWhitespace c = false := by
  have space : c ≠ ' ' := by
    rintro rfl
    exact absurd hlo (by decide)
  have control : ¬c ≤ '\r' := by
    rw [Char.le_def, UInt32.le_iff_toNat_le]
    change ¬c.toNat ≤ 13
    omega
  simp [isWhitespace, space, control, show ¬0x7f < c.toNat by omega]

theorem isWhitespace_of_isDigit {c : Char} (h : c.isDigit) : isWhitespace c = false := by
  have range : 48 ≤ c.toNat ∧ c.toNat ≤ 57 := by
    simpa [Char.isDigit, Char.le_def, UInt32.le_iff_toNat_le] using h
  exact isWhitespace_of_lt (by omega) (by omega)

theorem isWord_of_mem_splitWhitespace {s w : String} (h : w ∈ splitWhitespace s) : IsWord w := by
  obtain ⟨piece, kept, rfl⟩ := List.mem_map.mp h
  obtain ⟨split, nonempty⟩ := List.mem_filter.mp kept
  refine ⟨by simpa using nonempty, fun c hc => ?_⟩
  rw [String.toList_ofList] at hc
  exact (mem_of_mem_splitOnP split c hc).1

theorem splitWhitespace_intercalate {ws : List String} (words : ∀ w ∈ ws, IsWord w) :
    splitWhitespace (" ".intercalate ws) = ws := by
  cases ws with
  | nil => rfl
  | cons w ws =>
      have free : ∀ l ∈ (w :: ws).map String.toList, ∀ c ∈ l, isWhitespace c = false := by
        simp only [List.mem_map]
        rintro _ ⟨v, hv, rfl⟩
        exact (words v hv).2
      have kept : ((w :: ws).map String.toList).filter (fun piece => !piece.isEmpty) =
          (w :: ws).map String.toList := by
        refine List.filter_eq_self.mpr ?_
        simp only [List.mem_map]
        rintro _ ⟨v, hv, rfl⟩
        simpa using (words v hv).1
      rw [splitWhitespace, String.toList_intercalate, show " ".toList = [' '] from rfl,
        splitOnP_intercalate rfl (by simp) free, kept, List.map_map]
      simp

theorem splitWhitespace_join {ws : List String} (words : ∀ w ∈ ws, IsWord w) :
    splitWhitespace (String.join (ws.map (· ++ " "))) = ws := by
  have pieces : ∀ vs : List String, (∀ w ∈ vs, IsWord w) →
      (String.join (vs.map (· ++ " "))).toList.splitOnP isWhitespace =
        vs.map String.toList ++ [[]] := by
    intro vs hvs
    induction vs with
    | nil => rfl
    | cons v vs ih =>
        have hv := hvs v List.mem_cons_self
        rw [List.map_cons, String.join_cons, String.toList_append, String.toList_append,
          show " ".toList = [' '] from rfl, List.append_assoc, List.singleton_append,
          List.splitOnP_append_cons_of_forall_mem hv.2 ' ' rfl,
          ih fun w hw => hvs w (List.mem_cons_of_mem v hw)]
        rfl
  rw [splitWhitespace, pieces ws words, List.filter_append, List.map_append]
  have kept : (ws.map String.toList).filter (fun piece => !piece.isEmpty) = ws.map String.toList := by
    refine List.filter_eq_self.mpr ?_
    simp only [List.mem_map]
    rintro _ ⟨v, hv, rfl⟩
    simpa using (words v hv).1
  rw [kept, List.map_map]
  simp

/-! ## Decimal numbers -/

def toDigit (c : Char) : Option Nat := if c.isDigit then some (c.toNat - '0'.toNat) else none

def accumulate (bound result : Nat) : List Char → Option Nat
  | [] => some result
  | c :: digits =>
      match toDigit c with
      | none => none
      | some x =>
          if bound ≤ result * 10 then none
          else if bound ≤ result * 10 + x then none
          else accumulate bound (result * 10 + x) digits

def fromStrRadix10 (bound : Nat) (src : List Char) : Option Nat :=
  match src with
  | [] => none
  | ['+'] | ['-'] => none
  | '+' :: digits => accumulate bound 0 digits
  | digits => accumulate bound 0 digits

theorem le_ofDigitChars (l : List Char) (init : Nat) : init ≤ Nat.ofDigitChars 10 l init := by
  rw [Nat.ofDigitChars_eq_ofDigitChars_zero]
  have : init ≤ 10 ^ l.length * init := Nat.le_mul_of_pos_left init (Nat.pow_pos (by decide))
  omega

theorem accumulate_digits {bound : Nat} {digits : List Char} (all : ∀ c ∈ digits, c.isDigit)
    {result : Nat} (fits : Nat.ofDigitChars 10 digits result < bound) :
    accumulate bound result digits = some (Nat.ofDigitChars 10 digits result) := by
  induction digits generalizing result with
  | nil => rfl
  | cons c digits ih =>
      rw [Nat.ofDigitChars_cons] at fits ⊢
      have next := le_ofDigitChars digits (10 * result + (c.toNat - '0'.toNat))
      have digit : toDigit c = some (c.toNat - '0'.toNat) := by
        simp [toDigit, all c List.mem_cons_self]
      rw [accumulate, digit]
      simp only
      rw [if_neg (by omega), if_neg (by omega), Nat.mul_comm result 10]
      exact ih (fun d hd => all d (List.mem_cons_of_mem c hd)) fits

theorem fromStrRadix10_toDigits {bound n : Nat} (fits : n < bound) :
    fromStrRadix10 bound (Nat.toDigits 10 n) = some n := by
  have all : ∀ c ∈ Nat.toDigits 10 n, c.isDigit := fun c hc =>
    Nat.isDigit_of_mem_toDigits (by decide) (by decide) hc
  obtain ⟨c, cs, digits⟩ := List.ne_nil_iff_exists_cons.mp (Nat.toDigits_ne_nil (b := 10) (n := n))
  have first : c.isDigit := all c (digits ▸ List.mem_cons_self)
  have plus : c ≠ '+' := fun h => by simp [h] at first
  have minus : c ≠ '-' := fun h => by simp [h] at first
  have read : fromStrRadix10 bound (c :: cs) = accumulate bound 0 (c :: cs) := by
    cases cs <;> simp [fromStrRadix10, plus, minus]
  rw [digits, read, accumulate_digits (digits ▸ all), ← digits, Nat.ofDigitChars_ten_toDigits]
  rwa [← digits, Nat.ofDigitChars_ten_toDigits]

/-! ## ASCII bytes -/

theorem utf8EncodeChar_ofUInt8 {b : UInt8} (ascii : b < 128) :
    String.utf8EncodeChar (Char.ofUInt8 b) = [b] := by
  have small : ¬127 < b.toNat := Nat.not_lt.mpr (Nat.le_pred_of_lt (UInt8.lt_iff_toNat_lt.mp ascii))
  simp [Char.ofUInt8, String.utf8EncodeChar, small]

theorem ofUInt8_toUInt8 {ch : Char} (h : ch.toNat < 256) : Char.ofUInt8 ch.toUInt8 = ch := by
  apply Char.ext
  apply UInt32.toNat_inj.mp
  simp only [Char.ofUInt8, Char.toUInt8, UInt8.toNat_toUInt32, UInt32.toNat_toUInt8]
  change ch.toNat % 256 = ch.toNat
  omega

theorem fromUTF8?_ascii {bytes : List UInt8} (ascii : ∀ b ∈ bytes, b < 128) :
    String.fromUTF8? bytes.toByteArray = some (String.ofList (bytes.map Char.ofUInt8)) := by
  have flat : (bytes.map Char.ofUInt8).flatMap String.utf8EncodeChar = bytes := by
    induction bytes with
    | nil => rfl
    | cons b bytes ih =>
        rw [List.map_cons, List.flatMap_cons, utf8EncodeChar_ofUInt8 (ascii b List.mem_cons_self),
          ih fun b' hb' => ascii b' (List.mem_cons_of_mem b hb')]
        rfl
  have encode : bytes.toByteArray = (bytes.map Char.ofUInt8).utf8Encode := by
    rw [List.utf8Encode, flat]
  have valid : bytes.toByteArray.IsValidUTF8 := .intro _ encode
  rw [String.fromUTF8?, dif_pos valid]
  simp only [String.fromUTF8, String.ofList, encode]

theorem fromUTF8?_toByteArray (s : String) : String.fromUTF8? s.toByteArray = some s := by
  rw [String.fromUTF8?, dif_pos s.isValidUTF8]
  rfl

end Text
