import EntitySelection.Extractor
import EntitySelection.Proofs.Text.Blank

/-!
# Names on a path

A path is cut at its dots, and what is empty between them is left out. So blanks around a path do
not matter (`segments_strip`), and a path has no name on it exactly when it is nothing but dots
(`segments_eq_nil_iff`). Any other path has an extractor (`field_eq_ok_iff`), which gives a number
or null whatever it is asked (`exists_number_of_field`).
-/

namespace EntitySelection

namespace Path

theorem pieces_ne_nil (cs : List Char) : pieces cs ≠ [] := by
  cases cs with
  | nil => simp [pieces]
  | cons c cs =>
    rw [pieces, List.foldr_cons]
    split <;> split <;> simp

/-- A dot starts a new piece; any other character goes to the first one. -/
theorem pieces_cons (c : Char) (cs : List Char) : ∃ piece rest, pieces cs = piece :: rest ∧
    pieces (c :: cs) = if c = '.' then [] :: piece :: rest else (c :: piece) :: rest := by
  obtain ⟨piece, rest, h⟩ := List.exists_cons_of_ne_nil (pieces_ne_nil cs)
  refine ⟨piece, rest, h, ?_⟩
  rw [pieces] at h
  rw [pieces, List.foldr_cons, h]

/-- The characters of the pieces are those of the text without its dots. -/
theorem flatten_pieces (cs : List Char) : (pieces cs).flatten = cs.filter (· ≠ '.') := by
  induction cs with
  | nil => rfl
  | cons c cs ih =>
    obtain ⟨piece, rest, hpieces, hcons⟩ := pieces_cons c cs
    rw [hpieces] at ih
    by_cases hc : c = '.'
    · rw [hcons, if_pos hc, List.flatten_cons, List.nil_append, ih]
      simp [hc]
    · rw [hcons, if_neg hc, List.filter_cons_of_pos (by simpa using hc), ← ih]
      rfl

/-- A dot ends one piece and starts another. -/
theorem pieces_append_dot (cs ds : List Char) : pieces (cs ++ '.' :: ds) = pieces cs ++ pieces ds := by
  induction cs with
  | nil =>
    obtain ⟨piece, rest, hpieces, hcons⟩ := pieces_cons '.' ds
    rw [List.nil_append, hcons, if_pos rfl, hpieces]
    rfl
  | cons c cs ih =>
    obtain ⟨piece, rest, hpieces, hcons⟩ := pieces_cons c cs
    obtain ⟨piece', rest', hpieces', hcons'⟩ := pieces_cons c (cs ++ '.' :: ds)
    rw [ih, hpieces, List.cons_append] at hpieces'
    obtain ⟨rfl, rfl⟩ := List.cons.inj hpieces'
    rw [List.cons_append, hcons', hcons]
    split <;> rfl

theorem pieces_of_not_mem {cs : List Char} (h : '.' ∉ cs) : pieces cs = [cs] := by
  induction cs with
  | nil => rfl
  | cons c cs ih =>
    rw [List.mem_cons, not_or] at h
    obtain ⟨piece, rest, hpieces, hcons⟩ := pieces_cons c cs
    rw [ih h.2] at hpieces
    obtain ⟨rfl, rfl⟩ := List.cons.inj hpieces
    rw [hcons, if_neg (Ne.symm h.1)]

/-! ## The names of a text -/

/-- The pieces of a text that are not empty. -/
def namesOf (cs : List Char) : List String :=
  ((pieces cs).filter (!·.isEmpty)).map String.ofList

theorem segments_eq (path : String) :
    segments path = namesOf (Text.trim Text.isBlank path.toList) := rfl

theorem namesOf_append_dot (cs ds : List Char) :
    namesOf (cs ++ '.' :: ds) = namesOf cs ++ namesOf ds := by
  rw [namesOf, pieces_append_dot, List.filter_append, List.map_append]
  rfl

theorem namesOf_eq_nil_iff {cs : List Char} : namesOf cs = [] ↔ ∀ c ∈ cs, c = '.' := by
  have hempty (ps : List (List Char)) : ps.filter (!·.isEmpty) = [] ↔ ps.flatten = [] := by
    simp [List.filter_eq_nil_iff]
  rw [namesOf, List.map_eq_nil_iff, hempty, flatten_pieces, List.filter_eq_nil_iff]
  simp

theorem namesOf_of_not_mem {cs : List Char} (h : '.' ∉ cs) (hne : cs ≠ []) :
    namesOf cs = [String.ofList cs] := by
  rw [namesOf, pieces_of_not_mem h]
  simp [hne]

/-- Dots in front of a text change nothing. -/
theorem namesOf_dots_append {dots : List Char} (h : ∀ c ∈ dots, c = '.') (cs : List Char) :
    namesOf (dots ++ cs) = namesOf cs := by
  induction dots with
  | nil => rfl
  | cons c dots ih =>
    obtain ⟨rfl, hdots⟩ := List.forall_mem_cons.1 h
    exact (namesOf_append_dot [] (dots ++ cs)).trans (ih hdots)

theorem segments_strip (path : String) : segments (Text.strip path) = segments path := by
  simp [segments, Text.strip, Text.trim_trim]

/-- A path without a name on it is nothing but dots. -/
theorem segments_eq_nil_iff {path : String} :
    segments path = [] ↔ ∀ c ∈ Text.trim Text.isBlank path.toList, c = '.' := by
  rw [segments_eq, namesOf_eq_nil_iff]

end Path

/-! ## Field extractors -/

namespace Extractor

variable {path : String} {x : Extractor} {f : Failure}

theorem field_eq_ok_iff : field path = .ok x ↔
    Path.segments path ≠ [] ∧ x = ofSegments (Path.segments path) := by
  unfold field
  cases hsegments : Path.segments path with
  | nil => simp
  | cons name rest => simp [eq_comm]

theorem field_eq_error_iff : field path = .error f ↔ Path.segments path = [] ∧ f = .emptyPath := by
  unfold field
  cases hsegments : Path.segments path with
  | nil => simp [eq_comm]
  | cons name rest => simp

theorem exists_field_iff : (∃ x, field path = .ok x) ↔ Path.segments path ≠ [] := by
  simp [field_eq_ok_iff]

theorem exists_number_of_field (h : field path = .ok x) (entity : Value) :
    ∃ n, x entity = .ok (optionalNumber n) := by
  obtain ⟨-, rfl⟩ := field_eq_ok_iff.1 h
  exact ⟨_, rfl⟩

end Extractor

end EntitySelection
