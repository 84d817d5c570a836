import Mathlib.Data.List.Basic
import RustOs.Lib.Text

/-!
# File paths

`vfs/path.rs`: a `FilePath` is an absolute flag and a list of components, each non-empty and
without `/`. `as_string` writes a `/` for an absolute path and joins the components with `/`;
`parse` splits on `/`, drops the empty pieces, and refuses a relative path without a component.

On the paths `parse` returns, those that are absolute or have a component, the two are inverse:
`parse (as_string p)` is `p`, so a path `parse` returned is parsed back from its string
(`parse_asString`).
-/

namespace RustOs.Vfs

/-- `FilePathComponent`: only `new` builds one, so it is not empty and has no `/`. -/
structure FilePathComponent where
  val : String
  nonempty : val.toList ≠ []
  noSlash : '/' ∉ val.toList

namespace FilePathComponent

/-- `new`: the assertion that there is no `/` panics, and an empty string is `None`. -/
def new (s : String) : Option (Option FilePathComponent) :=
  if noSlash : '/' ∈ s.toList then none
  else if empty : s.toList = [] then some none
  else some (some ⟨s, empty, noSlash⟩)

def asStr (c : FilePathComponent) : String := c.val

end FilePathComponent

structure FilePath where
  absolute : Bool
  components : List FilePathComponent

namespace FilePath

def asString (p : FilePath) : String :=
  (if p.absolute then "/" else "") ++ "/".intercalate (p.components.map FilePathComponent.asStr)

/-- `parse`: an absolute path starts with `/`, and the pieces between `/`s that are not empty
are the components. -/
def parse (s : String) : Option (Option FilePath) := do
  let absolute := s.toList.head? == some '/'
  let pieces := (s.toList.splitOn '/').filter fun piece => !piece.isEmpty
  let components ← pieces.mapM fun piece => FilePathComponent.new (String.ofList piece)
  let components := components.filterMap id
  if !absolute && components.isEmpty then some none
  else some (some ⟨absolute, components⟩)

/-! ## `parse` undoes `as_string` -/

def pieces (p : FilePath) : List (List Char) := p.components.map fun c => c.val.toList

theorem toList_asString (p : FilePath) :
    p.asString.toList = (if p.absolute then ['/'] else []) ++ ['/'].intercalate p.pieces := by
  cases absolute : p.absolute <;>
    simp [asString, pieces, absolute, FilePathComponent.asStr, Function.comp_def]

theorem not_mem_of_mem_pieces {p : FilePath} {piece : List Char} (h : piece ∈ p.pieces) :
    '/' ∉ piece ∧ piece ≠ [] := by
  obtain ⟨c, -, rfl⟩ := List.mem_map.mp h
  exact ⟨c.noSlash, c.nonempty⟩

theorem filter_splitOn_asString {p : FilePath} (h : p.absolute = true ∨ p.components ≠ []) :
    (p.asString.toList.splitOn '/').filter (fun piece => !piece.isEmpty) = p.pieces := by
  have noSlash : ∀ piece ∈ p.pieces, '/' ∉ piece := fun _ hp => (not_mem_of_mem_pieces hp).1
  have kept : p.pieces.filter (fun piece => !piece.isEmpty) = p.pieces :=
    List.filter_eq_self.mpr fun piece hp => by
      simpa using (not_mem_of_mem_pieces hp).2
  rw [toList_asString]
  by_cases none : p.components = []
  · -- the root path
    have absolute : p.absolute = true := h.resolve_right (not_not.mpr none)
    have empty : p.pieces = [] := by simp [pieces, none]
    rw [absolute, empty]
    rfl
  · have nonempty : p.pieces ≠ [] := by simpa [pieces] using none
    cases p.absolute with
    | false =>
        rw [if_neg Bool.false_ne_true, List.nil_append, List.splitOn_intercalate '/' noSlash nonempty,
          kept]
    | true =>
        rw [if_pos rfl, List.singleton_append, List.splitOn, List.splitOnP_cons_eq_if_modifyHead,
          if_pos (beq_self_eq_true '/'), ← List.splitOn, List.splitOn_intercalate '/' noSlash nonempty,
          List.filter_cons_of_neg (by simp), kept]

theorem absolute_asString {p : FilePath} (h : p.absolute = true ∨ p.components ≠ []) :
    (p.asString.toList.head? == some '/') = p.absolute := by
  rw [toList_asString]
  cases absolute : p.absolute with
  | true => rfl
  | false =>
      obtain ⟨c, cs, components⟩ := List.ne_nil_iff_exists_cons.mp (by simpa [absolute] using h)
      obtain ⟨x, xs, chars⟩ := List.ne_nil_iff_exists_cons.mp c.nonempty
      have first : x ≠ '/' := fun same => c.noSlash (by rw [chars, same]; exact List.mem_cons_self)
      have head : (['/'].intercalate p.pieces).head? = some x := by
        cases cs with
        | nil => simp [pieces, components, chars]
        | cons c' cs => simp [pieces, components, chars, List.intercalate_cons_cons]
      simp [head, first]

theorem mapM_new_pieces (p : FilePath) :
    p.pieces.mapM (fun piece => FilePathComponent.new (String.ofList piece)) =
      some (p.components.map some) := by
  have made : ∀ c : FilePathComponent, FilePathComponent.new (String.ofList c.val.toList) =
      some (some c) := by
    intro c
    rw [String.ofList_toList]
    unfold FilePathComponent.new
    rw [dif_neg c.noSlash, dif_neg c.nonempty]
  rw [pieces, List.mapM_map]
  simp only [Function.comp_def, made]
  exact List.mapM_pure

theorem parse_asString_eq {p : FilePath} (h : p.absolute = true ∨ p.components ≠ []) :
    parse p.asString = some (some p) := by
  have kept : ¬(!p.absolute && p.components.isEmpty) = true := by
    cases h with
    | inl absolute => simp [absolute]
    | inr nonempty => simp [nonempty]
  simp only [parse, filter_splitOn_asString h, absolute_asString h, mapM_new_pieces, bind,
    Option.bind_some, List.filterMap_map, Function.comp_def, id, List.filterMap_some, if_neg kept]

theorem parsed {s : String} {q : FilePath} (h : parse s = some (some q)) :
    q.absolute = true ∨ q.components ≠ [] := by
  simp only [parse, bind, Option.bind_eq_some_iff] at h
  obtain ⟨components, -, h⟩ := h
  split at h
  · cases h
  · rename_i kept
    cases Option.some.inj (Option.some.inj h)
    by_cases absolute : (s.toList.head? == some '/') = true
    · exact Or.inl absolute
    · refine Or.inr fun empty => kept ?_
      simp only at empty
      rw [Bool.not_eq_true] at absolute
      rw [absolute, empty]
      rfl

/-- `parse` undoes `as_string` on every path that is absolute or has a component, and so on
every path `parse` returns. -/
theorem parse_asString :
    (∀ p : FilePath, p.absolute = true ∨ p.components ≠ [] → parse p.asString = some (some p)) ∧
      ∀ (s : String) (q : FilePath), parse s = some (some q) → parse q.asString = some (some q) :=
  ⟨fun _ h => parse_asString_eq h, fun _ _ h => parse_asString_eq (parsed h)⟩

def sysTasksPath : FilePath :=
  ⟨true, [⟨"sys", by decide, by decide⟩, ⟨"tasks", by decide, by decide⟩]⟩

def relativePath : FilePath := ⟨false, [⟨"a", by decide, by decide⟩, ⟨"b.txt", by decide, by decide⟩]⟩

/-- The root path, an absolute path with components and a relative one. -/
theorem parse_asString_paths :
    parse (FilePath.asString ⟨true, []⟩) = some (some ⟨true, []⟩) ∧
    sysTasksPath.asString = "/sys/tasks" ∧ parse sysTasksPath.asString = some (some sysTasksPath) ∧
    relativePath.asString = "a/b.txt" ∧ parse relativePath.asString = some (some relativePath) :=
  ⟨parse_asString.1 ⟨true, []⟩ (Or.inl rfl), by decide, parse_asString.1 sysTasksPath (Or.inl rfl),
    by decide, parse_asString.1 relativePath (Or.inr (List.cons_ne_nil _ _))⟩

/-! ## What `parse` reads -/

theorem not_mem_of_mem_pieces_filter {s : String} {piece : List Char}
    (h : piece ∈ (s.toList.splitOn '/').filter fun piece => !piece.isEmpty) :
    ∀ c ∈ piece, c ≠ '/' ∧ c ∈ s.toList := by
  intro c hc
  have split := Text.mem_of_mem_splitOnP (List.mem_filter.mp h).1 c hc
  exact ⟨by simpa using split.1, split.2⟩

theorem parse_ne_none (s : String) : parse s ≠ none := by
  have made : ∀ piece ∈ (s.toList.splitOn '/').filter (fun piece => !piece.isEmpty),
      FilePathComponent.new (String.ofList piece) ≠ none := by
    intro piece hp
    have noSlash : '/' ∉ piece := fun mem => (not_mem_of_mem_pieces_filter hp '/' mem).1 rfl
    unfold FilePathComponent.new
    rw [dif_neg (by rwa [String.toList_ofList])]
    split <;> simp
  obtain ⟨components, made⟩ := Text.mapM_eq_some_of_forall made
  simp only [parse, bind, made, Option.bind_some]
  split <;> simp

theorem mem_pieces_of_parse {s : String} {q : FilePath} (h : parse s = some (some q)) :
    ∀ piece ∈ q.pieces, ∀ c ∈ piece, c ≠ '/' ∧ c ∈ s.toList := by
  simp only [parse, bind, Option.bind_eq_some_iff] at h
  obtain ⟨components, made, h⟩ := h
  split at h
  · cases h
  · cases Option.some.inj (Option.some.inj h)
    intro piece hp
    obtain ⟨component, hc, rfl⟩ := List.mem_map.mp hp
    obtain ⟨raw, hraw, new⟩ :=
      Text.mem_of_mapM_eq_some made (some component) (by simpa using hc)
    unfold FilePathComponent.new at new
    split at new
    · cases new
    · split at new
      · cases new
      · cases Option.some.inj (Option.some.inj new)
        rw [String.toList_ofList]
        exact not_mem_of_mem_pieces_filter hraw

theorem mem_asString_of_parse {s : String} {q : FilePath} (h : parse s = some (some q)) :
    ∀ c ∈ q.asString.toList, c = '/' ∨ c ∈ s.toList := by
  intro c hc
  rw [toList_asString, List.mem_append] at hc
  rcases hc with hc | hc
  · left
    split at hc <;> simp_all
  · rcases Text.mem_intercalate hc with hc | ⟨piece, hp, hc⟩
    · exact Or.inl (List.mem_singleton.mp hc)
    · exact Or.inr (mem_pieces_of_parse h piece hp c hc).2

end FilePath

end RustOs.Vfs
