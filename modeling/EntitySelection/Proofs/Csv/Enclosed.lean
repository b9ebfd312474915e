import EntitySelection.Csv
import EntitySelection.Proofs.Text.Line
import Mathlib.Logic.Basic

/-!
# Tables of enclosed fields

A table is written with every field in quotation marks, the marks in it doubled (`tableText`).

**Theorem (`records_tableText`).** Its records are read as they were written, whatever stands in
their fields, if no field is too long for the reader.

**Theorem (`unifyNewlines_tableText`).** A reader of text that unifies line ends gives the table
whose fields have their line ends unified.

A field with line feeds goes over several lines. The reader of records takes one line at a time; it
is first shown to be a `scan` of the characters (`recordsFrom_linesFrom`), and an enclosed field is
then one piece of what is scanned (`scan_enclosed`).
-/

namespace EntitySelection.Csv

variable {fields : List String} {cs current rest : List Char} {n : Nat} {place : Place}

/-! ## Writing -/

/-- A character of an enclosed field. -/
def doubled (c : Char) : List Char := if c = '"' then ['"', '"'] else [c]

/-- A field in quotation marks. -/
def enclosed (s : String) : List Char := '"' :: (s.toList.flatMap doubled ++ ['"'])

/-- A record on a line, its fields enclosed. -/
def recordText (fields : List String) : List Char :=
  [','].intercalate (fields.map enclosed) ++ ['\n']

/-- A table with its fields enclosed. -/
def tableText (records : List (List String)) : String := String.ofList (records.flatMap recordText)

theorem recordText_singleton (s : String) : recordText [s] = enclosed s ++ ['\n'] := by
  simp [recordText]

theorem recordText_cons_cons (s t : String) (fields : List String) :
    recordText (s :: t :: fields) = enclosed s ++ ',' :: recordText (t :: fields) := by
  simp [recordText]

theorem getLast?_flatMap_recordText (records : List (List String)) :
    records.flatMap recordText = [] ∨ (records.flatMap recordText).getLast? = some '\n' := by
  induction records with
  | nil => exact .inl rfl
  | cons fields records ih =>
    right
    rw [List.flatMap_cons, recordText, List.append_assoc, List.singleton_append,
      List.getLast?_append, List.getLast?_cons]
    rcases ih with ih | ih <;> rw [ih] <;> rfl

/-! ## Unified line ends -/

/-- A text as a reader with unified line ends gives it. -/
def unified (s : String) : String := String.ofList (Text.unifyNewlines s.toList)

theorem unifyNewlines_doubled (cs : List Char) :
    Text.unifyNewlines (cs.flatMap doubled) = (Text.unifyNewlines cs).flatMap doubled := by
  fun_induction Text.unifyNewlines cs with
  | case1 => rfl
  | case2 cs ih =>
    rw [List.flatMap_cons, List.flatMap_cons, List.flatMap_cons, ← ih]
    rfl
  | case3 cs hcs ih =>
    rw [List.flatMap_cons, List.flatMap_cons, ← ih]
    refine Text.unifyNewlines_return ?_
    cases cs with
    | nil => simp
    | cons c cs =>
      have hc : c ≠ '\n' := fun h => hcs cs (by rw [h])
      by_cases hquote : c = '"' <;> simp [doubled, hquote, hc]
  | case4 c cs hboth hc ih =>
    rw [List.flatMap_cons, List.flatMap_cons, Text.unifyNewlines_append_left, ih]
    by_cases hquote : c = '"' <;> simp [doubled, hquote, Ne.symm hc]

/-- A quotation mark stands between the line ends of an enclosed field and what follows it. -/
theorem unifyNewlines_enclosed (s : String) (rest : List Char) :
    Text.unifyNewlines (enclosed s ++ rest) = enclosed (unified s) ++ Text.unifyNewlines rest := by
  rw [enclosed, List.cons_append, List.append_assoc, Text.unifyNewlines_cons (by decide),
    Text.unifyNewlines_append (by simp), unifyNewlines_doubled, List.singleton_append,
    Text.unifyNewlines_cons (by decide), enclosed, unified, String.toList_ofList]
  simp

theorem unifyNewlines_recordText (fields : List String) (rest : List Char) :
    Text.unifyNewlines (recordText fields ++ rest) =
      recordText (fields.map unified) ++ Text.unifyNewlines rest := by
  induction fields with
  | nil => exact Text.unifyNewlines_cons (by decide)
  | cons s fields ih =>
    cases fields with
    | nil =>
      rw [List.map_singleton, recordText_singleton, recordText_singleton, List.append_assoc,
        unifyNewlines_enclosed, List.singleton_append, Text.unifyNewlines_cons (by decide),
        List.append_assoc, List.singleton_append]
    | cons t fields =>
      rw [List.map_cons, List.map_cons, recordText_cons_cons, recordText_cons_cons,
        List.append_assoc, List.cons_append, unifyNewlines_enclosed,
        Text.unifyNewlines_cons (by decide), ih, List.append_assoc, List.cons_append,
        List.map_cons]

/-- **The unified text of a table** is the table of the unified fields. -/
theorem unifyNewlines_tableText (records : List (List String)) :
    Text.unifyNewlines (tableText records).toList =
      (tableText (records.map (·.map unified))).toList := by
  rw [tableText, tableText, String.toList_ofList, String.toList_ofList]
  induction records with
  | nil => rfl
  | cons fields records ih =>
    rw [List.flatMap_cons, unifyNewlines_recordText, ih, List.map_cons, List.flatMap_cons]

theorem return_not_mem_unified (s : String) : '\r' ∉ (unified s).toList := by
  rw [unified, String.toList_ofList]
  exact Text.return_not_mem_unifyNewlines s.toList

theorem unified_eq_self_iff {s : String} : unified s = s ↔ '\r' ∉ s.toList := by
  constructor
  · intro h
    rw [← h]
    exact return_not_mem_unified s
  · intro h
    rw [unified, Text.unifyNewlines_of_not_mem h, String.ofList_toList]

/-! ## Reading character by character -/

/-- The records of the characters of a table whose last line has an end. -/
def scan (r : Reading) : List Char → Option (List (List String))
  | [] => some (if r.place = .inQuotes then [(r.save .recordEnd).fields.reverse] else [])
  | c :: cs => (r.step c).bind fun r =>
    if c = '\n' then
      if r.endLine.place = .inQuotes then scan r.endLine cs
      else (scan {} cs).map (r.endLine.fields.reverse :: ·)
    else scan r cs

theorem Reading.line_append (r : Reading) (cs ds : List Char) :
    r.line (cs ++ ds) = (r.line cs).bind (·.line ds) := by
  induction cs generalizing r with
  | nil => rfl
  | cons c cs ih =>
    rw [List.cons_append, line, line, Option.bind_assoc]
    exact congrArg _ (funext ih)

theorem Reading.line_singleton (r : Reading) (c : Char) : r.line [c] = r.step c := by
  rw [line]
  cases r.step c <;> rfl

theorem recordsFrom_cons (r : Reading) (l : String) (ls : List String) :
    recordsFrom r (l :: ls) = (r.line l.toList).bind fun r =>
      if r.endLine.place = .inQuotes then recordsFrom r.endLine ls
      else (recordsFrom {} ls).map (r.endLine.fields.reverse :: ·) := by
  rw [recordsFrom]
  simp only [Option.bind_eq_bind, Option.map_eq_bind]
  rfl

/-- **Line by line is character by character**, where the last line has an end. -/
theorem recordsFrom_linesFrom (r : Reading)
    (h : current = [] ∧ cs = [] ∨ cs.getLast? = some '\n') :
    recordsFrom r ((Text.linesFrom current cs).map String.ofList) =
      (r.line current.reverse).bind (scan · cs) := by
  induction cs generalizing r current with
  | nil =>
    obtain ⟨rfl, -⟩ | h := h
    · rfl
    · cases h
  | cons c cs ih =>
    by_cases hc : c = '\n'
    · subst hc
      have hcs : ([] : List Char) = [] ∧ cs = [] ∨ cs.getLast? = some '\n' := by
        cases cs with
        | nil => exact .inl ⟨rfl, rfl⟩
        | cons d ds => simpa using h
      rw [Text.linesFrom, if_pos rfl, List.map_cons, recordsFrom_cons, String.toList_ofList,
        List.reverse_cons, Reading.line_append, Option.bind_assoc]
      simp only [Reading.line_singleton]
      simp only [scan, if_true, ih _ hcs, List.reverse_nil, Reading.line, Option.bind_some]
    · have hcs : cs.getLast? = some '\n' := by
        cases cs with
        | nil => simp [hc] at h
        | cons d ds => simpa using h
      rw [Text.linesFrom, if_neg hc, ih r (.inr hcs), List.reverse_cons, Reading.line_append,
        Option.bind_assoc]
      simp [Reading.line_singleton, scan, hc]

/-- **A table is scanned.** -/
theorem records_eq_scan (table : List (List String)) :
    records ((Text.lines (tableText table).toList).map String.ofList) =
      scan {} (tableText table).toList := by
  rw [records, Text.lines, tableText, String.toList_ofList, recordsFrom_linesFrom]
  · rfl
  · rcases getLast?_flatMap_recordText table with h | h
    · exact .inl ⟨rfl, h⟩
    · exact .inr h

/-! ## Enclosed fields -/

/-- A character that an enclosed field goes on with. A line that ends in it does not end the
record. -/
theorem scan_add_inQuotes {c : Char}
    (h : Reading.step ⟨place, fields, current, n⟩ c =
      Reading.add .inQuotes c ⟨place, fields, current, n⟩) (rest : List Char) :
    scan ⟨place, fields, current, n⟩ (c :: rest) =
      if n < fieldLimit then scan ⟨.inQuotes, fields, c :: current, n + 1⟩ rest else none := by
  rw [scan, h, Reading.add]
  by_cases hn : n < fieldLimit
  · rw [if_neg (Nat.not_le.2 hn), if_pos hn]
    exact ite_self _
  · rw [if_pos (Nat.not_lt.1 hn), if_neg hn]
    rfl

theorem scan_doubled (c : Char) (rest : List Char) :
    scan ⟨.inQuotes, fields, current, n⟩ (doubled c ++ rest) =
      if n < fieldLimit then scan ⟨.inQuotes, fields, c :: current, n + 1⟩ rest else none := by
  by_cases hquote : c = '"'
  · subst hquote
    have hfirst : scan ⟨.inQuotes, fields, current, n⟩ ('"' :: '"' :: rest) =
        scan ⟨.afterQuote, fields, current, n⟩ ('"' :: rest) := rfl
    rw [doubled, if_pos rfl, List.cons_append, List.singleton_append, hfirst]
    exact scan_add_inQuotes rfl rest
  · have hstep : Reading.step ⟨.inQuotes, fields, current, n⟩ c =
        Reading.add .inQuotes c ⟨.inQuotes, fields, current, n⟩ := if_neg hquote
    rw [doubled, if_neg hquote, List.singleton_append, scan_add_inQuotes hstep]

/-- **The text of an enclosed field.** -/
theorem scan_flatMap_doubled (hn : n ≤ fieldLimit) (cs rest : List Char) :
    scan ⟨.inQuotes, fields, current, n⟩ (cs.flatMap doubled ++ rest) =
      if n + cs.length ≤ fieldLimit then
        scan ⟨.inQuotes, fields, cs.reverse ++ current, n + cs.length⟩ rest
      else none := by
  induction cs generalizing current n with
  | nil => simp [hn]
  | cons c cs ih =>
    rw [List.flatMap_cons, List.append_assoc, scan_doubled]
    by_cases hlt : n < fieldLimit
    · have hnext : n + 1 ≤ fieldLimit := hlt
      rw [if_pos hlt, ih hnext, List.length_cons, List.reverse_cons, List.append_assoc,
        List.singleton_append, Nat.add_assoc, Nat.add_comm 1]
    · have hlong : ¬ n + (c :: cs).length ≤ fieldLimit := by
        rw [List.length_cons]
        omega
      rw [if_neg hlt, if_neg hlong]

/-- Where a field starts. -/
def starting (place : Place) (fields : List String) : Reading :=
  { place := place, fields := fields }

/-- **An enclosed field**, up to the mark that ends it. -/
theorem scan_enclosed (hplace : place = .recordStart ∨ place = .fieldStart) (s : String)
    (rest : List Char) :
    scan (starting place fields) (enclosed s ++ rest) =
      if s.length ≤ fieldLimit then
        scan ⟨.afterQuote, fields, s.toList.reverse, s.length⟩ rest
      else none := by
  have hopen : (starting place fields).step '"' = some ⟨.inQuotes, fields, [], 0⟩ := by
    rcases hplace with rfl | rfl <;> rfl
  rw [enclosed, List.cons_append, List.append_assoc, scan, hopen, Option.bind_some,
    if_neg (by decide), scan_flatMap_doubled (Nat.zero_le _), Nat.zero_add, String.length_toList,
    List.append_nil]
  rfl

theorem scan_comma (rest : List Char) :
    scan ⟨.afterQuote, fields, current, n⟩ (',' :: rest) =
      scan (starting .fieldStart (String.ofList current.reverse :: fields)) rest := rfl

theorem scan_feed (rest : List Char) :
    scan ⟨.afterQuote, fields, current, n⟩ ('\n' :: rest) =
      (scan {} rest).map ((fields.reverse ++ [String.ofList current.reverse]) :: ·) := by
  have hfields : (String.ofList current.reverse :: fields).reverse =
      fields.reverse ++ [String.ofList current.reverse] := List.reverse_cons
  rw [← hfields]
  rfl

/-- No field is too long. -/
def Fits (fields : List String) : Prop := ∀ s ∈ fields, s.length ≤ fieldLimit

instance (fields : List String) : Decidable (Fits fields) :=
  inferInstanceAs (Decidable (∀ s ∈ fields, s.length ≤ fieldLimit))

/-- **An enclosed record.** -/
theorem scan_recordText (hplace : place = .recordStart ∨ place = .fieldStart)
    {before after : List String} (hne : after ≠ []) (rest : List Char) :
    scan (starting place before) (recordText after ++ rest) =
      if Fits after then (scan {} rest).map ((before.reverse ++ after) :: ·) else none := by
  induction after generalizing place before with
  | nil => exact absurd rfl hne
  | cons s after ih =>
    cases after with
    | nil =>
      rw [recordText_singleton, List.append_assoc, scan_enclosed hplace, List.singleton_append,
        scan_feed, List.reverse_reverse, String.ofList_toList]
      exact if_congr (by simp [Fits]) rfl rfl
    | cons t after =>
      rw [recordText_cons_cons, List.append_assoc, List.cons_append, scan_enclosed hplace,
        scan_comma, List.reverse_reverse, String.ofList_toList,
        ih (.inr rfl) (List.cons_ne_nil _ _), List.reverse_cons, List.append_assoc,
        List.singleton_append, ← ite_and]
      exact if_congr (by simp [Fits]) rfl rfl

/-- **A table is read as it is written**, if no field is too long. -/
theorem records_tableText {table : List (List String)} (hne : ∀ fields ∈ table, fields ≠ []) :
    records ((Text.lines (tableText table).toList).map String.ofList) =
      if ∀ fields ∈ table, Fits fields then some table else none := by
  rw [records_eq_scan, tableText, String.toList_ofList]
  induction table with
  | nil => rfl
  | cons fields table ih =>
    obtain ⟨hfields, htable⟩ := List.forall_mem_cons.1 hne
    rw [List.flatMap_cons]
    change scan (starting .recordStart []) _ = _
    rw [scan_recordText (.inl rfl) hfields, ih htable]
    simp only [List.forall_mem_cons]
    by_cases hfits : Fits fields
    · by_cases hrest : ∀ fields ∈ table, Fits fields
      · rw [if_pos hfits, if_pos hrest, if_pos ⟨hfits, hrest⟩]
        rfl
      · rw [if_pos hfits, if_neg hrest, if_neg fun h => hrest h.2]
        rfl
    · rw [if_neg hfits, if_neg fun h => hfits h.1]

end EntitySelection.Csv
