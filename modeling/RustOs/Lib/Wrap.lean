import Mathlib.Data.List.ModifyLast

/-!
# Wrapping a list into rows

A text is cut at every separator into pieces (`List.splitOn`), and each piece into rows of `W`
elements, all full but the last (`rows`); an empty piece is one empty row. `layout` is the rows
of the whole text, in order.

`wrapStep` is what one more element does to the rows: a separator opens an empty row, and any
other element extends the last row, or opens a new one after a full row (`extend`).
`layout_append_singleton` says that the step computes the layout of the longer text, so a writer
that takes the elements one at a time produces the layout (`foldl_wrapStep`).
-/

namespace Wrap

variable {α : Type*} {W : Nat}

def rowsAux (W : Nat) : Nat → List α → List (List α)
  | 0, l => [l]
  | fuel + 1, l => if l.length ≤ W then [l] else l.take W :: rowsAux W fuel (l.drop W)

def rows (W : Nat) (l : List α) : List (List α) := rowsAux W l.length l

def extend (W : Nat) (rs : List (List α)) (a : α) : List (List α) :=
  if rs.getLast?.map List.length = some W then rs ++ [[a]] else rs.modifyLast (· ++ [a])

def wrapStep [BEq α] (sep : α) (W : Nat) (rs : List (List α)) (a : α) : List (List α) :=
  if a == sep then rs ++ [[]] else extend W rs a

def layout [BEq α] (sep : α) (W : Nat) (l : List α) : List (List α) :=
  (l.splitOn sep).flatMap (rows W)

/-! ## Rows -/

theorem rowsAux_congr (hW : 0 < W) :
    ∀ fuel fuel' (l : List α), l.length ≤ fuel → l.length ≤ fuel' →
      rowsAux W fuel l = rowsAux W fuel' l
  | 0, 0, _, _, _ => rfl
  | 0, _ + 1, l, short, _ => by
      rw [List.length_eq_zero_iff.mp (Nat.le_zero.mp short)]
      simp [rowsAux]
  | _ + 1, 0, l, _, short => by
      rw [List.length_eq_zero_iff.mp (Nat.le_zero.mp short)]
      simp [rowsAux]
  | fuel + 1, fuel' + 1, l, enough, enough' => by
      simp only [rowsAux]
      split
      · rfl
      · rw [rowsAux_congr hW fuel fuel' (l.drop W) (by simp; omega) (by simp; omega)]

theorem rows_eq (hW : 0 < W) (l : List α) :
    rows W l = if l.length ≤ W then [l] else l.take W :: rows W (l.drop W) := by
  rw [rows]
  cases hl : l.length with
  | zero =>
      rw [List.length_eq_zero_iff.mp hl]
      simp [rowsAux]
  | succ n =>
      rw [rowsAux]
      by_cases fits : n + 1 ≤ W
      · rw [if_pos (by omega), if_pos fits]
      · rw [if_neg (by omega), if_neg fits, rows,
          rowsAux_congr hW n _ (l.drop W) (by simp; omega) (Nat.le_refl _)]

theorem rows_nil : rows W ([] : List α) = [[]] := rfl

theorem modifyLast_singleton (f : α → α) (x : α) : [x].modifyLast f = [f x] :=
  List.modifyLast_concat f x []

theorem modifyLast_cons (f : α → α) (x : α) {rs : List α} (h : rs ≠ []) :
    (x :: rs).modifyLast f = x :: rs.modifyLast f :=
  List.modifyLast_append_of_right_ne_nil f [x] rs h

theorem rows_ne_nil (hW : 0 < W) (l : List α) : rows W l ≠ [] := by
  rw [rows_eq hW]
  split <;> simp

/-! ## One more element -/

theorem extend_append {A B : List (List α)} (hB : B ≠ []) (a : α) :
    extend W (A ++ B) a = A ++ extend W B a := by
  have last : (A ++ B).getLast? = B.getLast? := by
    obtain ⟨B', b, rfl⟩ := (List.eq_nil_or_concat B).resolve_left hB
    rw [List.concat_eq_append, ← List.append_assoc, List.getLast?_concat, List.getLast?_concat]
  unfold extend
  rw [last]
  split
  · rw [List.append_assoc]
  · rw [List.modifyLast_append_of_right_ne_nil _ _ _ hB]

theorem extend_singleton (r : List α) (a : α) :
    extend W [r] a = if r.length = W then [r, [a]] else [r ++ [a]] := by
  unfold extend
  by_cases full : r.length = W
  · simp [full]
  · rw [if_neg (by simpa using full), if_neg full, modifyLast_singleton]

theorem rows_append_singleton (hW : 0 < W) (a : α) :
    ∀ n (l : List α), l.length ≤ n → rows W (l ++ [a]) = extend W (rows W l) a
  | 0, l, short => by
      rw [List.length_eq_zero_iff.mp (Nat.le_zero.mp short), rows_nil, extend_singleton,
        if_neg (by simp; omega)]
      rw [rows_eq hW, if_pos (by simp; omega)]
  | n + 1, l, short => by
      rw [rows_eq hW (l ++ [a]), rows_eq hW l, List.length_append, List.length_singleton]
      by_cases fits : l.length + 1 ≤ W
      · rw [if_pos fits, if_pos (by omega), extend_singleton, if_neg (by omega)]
      by_cases full : l.length = W
      · -- the piece fills its row, and the new element opens the next one
        rw [if_neg fits, if_pos (by omega), extend_singleton, if_pos full,
          List.take_append_of_le_length (by omega), List.take_of_length_le (by omega),
          List.drop_append_of_le_length (by omega), List.drop_of_length_le (by omega),
          List.nil_append, rows_eq hW [a], if_pos (by simp; omega)]
      · rw [if_neg fits, if_neg (by omega), List.take_append_of_le_length (by omega),
          List.drop_append_of_le_length (by omega),
          rows_append_singleton hW a n (l.drop W) (by simp; omega)]
        exact (extend_append (A := [l.take W]) (rows_ne_nil hW _) a).symm

theorem splitOnP_append_singleton (p : α → Bool) {a : α} (ha : p a = false) :
    ∀ l : List α, (l ++ [a]).splitOnP p = (l.splitOnP p).modifyLast (· ++ [a])
  | [] => by
      rw [List.nil_append, List.splitOnP_cons_eq_if_modifyHead, if_neg (by simp [ha]),
        List.splitOnP_nil, List.modifyHead_cons, modifyLast_singleton]
      rfl
  | x :: l => by
      have rest := List.splitOnP_ne_nil p l
      rw [List.cons_append, List.splitOnP_cons_eq_if_modifyHead, List.splitOnP_cons_eq_if_modifyHead,
        splitOnP_append_singleton p ha l]
      split
      · exact (List.modifyLast_append_of_right_ne_nil _ [[]] _ rest).symm
      · -- the first piece grows at the front, the last at the back
        obtain ⟨first, pieces, hsplit⟩ := List.exists_cons_of_ne_nil rest
        rw [hsplit]
        cases pieces with
        | nil =>
            rw [modifyLast_singleton, List.modifyHead_cons, List.modifyHead_cons, modifyLast_singleton,
              List.cons_append]
        | cons second pieces =>
            rw [List.modifyHead_cons, modifyLast_cons _ _ (List.cons_ne_nil _ _),
              modifyLast_cons _ _ (List.cons_ne_nil _ _), List.modifyHead_cons]

variable [BEq α] [LawfulBEq α]

theorem layout_append_singleton (hW : 0 < W) (sep : α) (l : List α) (a : α) :
    layout sep W (l ++ [a]) = wrapStep sep W (layout sep W l) a := by
  unfold layout wrapStep
  rw [List.splitOn_eq_splitOnP, List.splitOn_eq_splitOnP]
  by_cases isSep : (a == sep) = true
  · rw [if_pos isSep, List.splitOnP_append_cons (p := fun x => x == sep) l [] isSep, List.splitOnP_nil,
      List.flatMap_append, List.flatMap_singleton]
    rfl
  · rw [if_neg isSep]
    have pieces := List.splitOnP_ne_nil (· == sep) l
    obtain ⟨init, last, hsplit⟩ := (List.eq_nil_or_concat _).resolve_left pieces
    rw [splitOnP_append_singleton _ (by simpa using isSep), hsplit, List.concat_eq_append,
      List.modifyLast_concat, List.flatMap_append, List.flatMap_append, List.flatMap_singleton,
      List.flatMap_singleton, rows_append_singleton hW a _ last (Nat.le_refl _),
      extend_append (rows_ne_nil hW last)]

theorem foldl_wrapStep (hW : 0 < W) (sep : α) :
    ∀ (s l : List α), s.foldl (wrapStep sep W) (layout sep W l) = layout sep W (l ++ s)
  | [], l => by rw [List.foldl_nil, List.append_nil]
  | a :: s, l => by
      rw [List.foldl_cons, ← layout_append_singleton hW, foldl_wrapStep hW sep s,
        List.append_assoc, List.singleton_append]

end Wrap
