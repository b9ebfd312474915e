import EntitySelection.Proofs.Csv.Enclosed
import EntitySelection.Proofs.Dataset.Framing
import EntitySelection.Proofs.Json.RoundTrip
import Mathlib.Data.List.Induction

/-!
# Tables in a file

**Theorem (`load_table`).** A table whose fields are enclosed is loaded as one map for each row,
from the names of the columns to the fields. Line ends in names and fields are unified first, as
they are everywhere in a file: the maps are those of the rows exactly if there is no carriage return
in any name or field. No field may be longer than the reader takes.
-/

namespace EntitySelection.Dataset

open Csv (tableText unified Fits)

variable {names fields : List String} {rows : List (List String)} {pairs : List (Value × Value)}

/-- The fields of a row under the names of their columns. -/
def columns (names fields : List String) : List (Value × Value) :=
  (names.zip fields).map fun p => (.text p.1, .text p.2)

theorem row_of_length_eq (h : fields.length = names.length) :
    Csv.row names fields = .mapOf (columns names fields) := by
  rw [Csv.row, if_neg (by omega), List.drop_of_length_le (by omega)]
  simp only [List.map_nil, List.append_nil]
  rfl

/-! ## Keys -/

theorem key_of_mem_putEntry {key v : Value} {e : Value × Value}
    (h : e ∈ Value.putEntry pairs key v) : e.1 = key ∨ e.1 ∈ Named.names pairs := by
  induction pairs with
  | nil =>
    rw [Value.putEntry, List.mem_singleton] at h
    exact .inl (by rw [h])
  | cons p pairs ih =>
    rw [Value.putEntry] at h
    split at h
    · rcases List.mem_cons.1 h with rfl | hmem
      · exact .inr List.mem_cons_self
      · exact .inr (List.mem_cons_of_mem _ (List.mem_map_of_mem hmem))
    · rcases List.mem_cons.1 h with rfl | hmem
      · exact .inr List.mem_cons_self
      · exact (ih hmem).imp_right (List.mem_cons_of_mem _)

/-- The keys of a map are among those that it is made of. -/
theorem key_of_mem_entriesOf {e : Value × Value} (h : e ∈ Value.entriesOf pairs) :
    e.1 ∈ Named.names pairs := by
  induction pairs using List.reverseRecOn generalizing e with
  | nil => cases h
  | append_singleton pairs p ih =>
    rw [Value.entriesOf, List.foldl_concat] at h
    rw [Named.names_append]
    rcases key_of_mem_putEntry h with hkey | hkey
    · exact List.mem_append_right _ (by rw [hkey]; exact List.mem_cons_self)
    · obtain ⟨d, hd, hkey⟩ := List.mem_map.1 hkey
      exact List.mem_append_left _ (hkey ▸ ih hd)

theorem names_columns (h : fields.length = names.length) :
    Named.names (columns names fields) = names.map .text := by
  have hfst : (names.zip fields).map (Value.text ∘ Prod.fst) = names.map .text := by
    rw [← List.map_map, List.map_fst_zip h.ge]
  rw [Named.names, columns, List.map_map]
  exact hfst

theorem fields_of_columns_eq {fields' : List String} (h : fields.length = names.length)
    (h' : fields'.length = names.length) (heq : columns names fields = columns names fields') :
    fields = fields' := by
  have hzip : names.zip fields = names.zip fields' := by
    refine (List.map_injective_iff.2 ?_) heq
    intro p q hpq
    simpa [Prod.ext_iff] using hpq
  rw [← List.map_snd_zip h.le, hzip, List.map_snd_zip h'.le]

/-- Different names keep all their fields. -/
theorem mapOf_columns (hnodup : names.Nodup) (h : fields.length = names.length) :
    Value.mapOf (columns names fields) = .map (columns names fields) := by
  have hentries := @Json.entriesOf_entries ((names.zip fields).map fun p => (p.1, .text p.2)) (by
    rw [Named.names, List.map_map]
    exact (List.map_fst_zip h.ge).symm ▸ hnodup)
  rw [List.map_map] at hentries
  exact congrArg Value.map hentries

/-! ## Line ends -/

/-- There is no carriage return in the fields. -/
def NoReturn (fields : List String) : Prop := ∀ s ∈ fields, '\r' ∉ s.toList

instance (fields : List String) : Decidable (NoReturn fields) :=
  inferInstanceAs (Decidable (∀ s ∈ fields, '\r' ∉ s.toList))

theorem map_unified_eq_self_iff : fields.map unified = fields ↔ NoReturn fields := by
  have hself := List.map_inj_left (l := fields) (f := unified) (g := id)
  rw [List.map_id] at hself
  exact hself.trans (forall₂_congr fun s _ => Csv.unified_eq_self_iff)

/-- The names of an unchanged row are keys of what was loaded, where all line ends are unified. -/
theorem noReturn_names (h : fields.length = names.length)
    (heq : Value.mapOf (columns (names.map unified) (fields.map unified)) =
      .map (columns names fields)) : NoReturn names := by
  intro s hs
  have hentries : Value.entriesOf (columns (names.map unified) (fields.map unified)) =
      columns names fields := Value.map.inj heq
  have hkey : Value.text s ∈ Named.names (columns names fields) := by
    rw [names_columns h]
    exact List.mem_map_of_mem hs
  obtain ⟨e, he, hes⟩ := List.mem_map.1 hkey
  rw [← hentries] at he
  have hloaded := key_of_mem_entriesOf he
  rw [names_columns (by simpa), hes] at hloaded
  obtain ⟨t, ht, hts⟩ := List.mem_map.1 hloaded
  obtain ⟨u, -, rfl⟩ := List.mem_map.1 ht
  rw [← Value.text.inj hts]
  exact Csv.return_not_mem_unified u

/-- **A row is unchanged** exactly if nothing in it is. -/
theorem mapOf_unified_eq_iff (hnodup : names.Nodup) (h : fields.length = names.length) :
    Value.mapOf (columns (names.map unified) (fields.map unified)) = .map (columns names fields) ↔
      NoReturn names ∧ NoReturn fields := by
  constructor
  · intro heq
    have hnames := noReturn_names h heq
    rw [map_unified_eq_self_iff.2 hnames, mapOf_columns hnodup (by simpa)] at heq
    have hfields := fields_of_columns_eq (by simpa) h (Value.map.inj heq)
    exact ⟨hnames, map_unified_eq_self_iff.1 hfields⟩
  · intro hreturn
    rw [map_unified_eq_self_iff.2 hreturn.1, map_unified_eq_self_iff.2 hreturn.2,
      mapOf_columns hnodup h]

/-- **The rows are unchanged** exactly if there are none, or nothing in them is. -/
theorem maps_unified_eq_iff (hnodup : names.Nodup)
    (hwidth : ∀ fields ∈ rows, fields.length = names.length) :
    (rows.map fun fields => Value.mapOf (columns (names.map unified) (fields.map unified))) =
        rows.map (fun fields => .map (columns names fields)) ↔
      rows = [] ∨ ∀ fields ∈ names :: rows, NoReturn fields := by
  have hrow : ∀ fields ∈ rows, _ := fun fields hfields =>
    mapOf_unified_eq_iff hnodup (hwidth fields hfields)
  rw [List.map_inj_left, forall₂_congr hrow, List.forall_mem_cons]
  constructor
  · intro h
    refine or_iff_not_imp_left.2 fun hrows => ?_
    obtain ⟨fields, hfields⟩ := List.exists_mem_of_ne_nil rows hrows
    exact ⟨(h fields hfields).1, fun fields hfields => (h fields hfields).2⟩
  · rintro (rfl | ⟨hnames, hrows⟩) fields hfields
    · exact absurd hfields List.not_mem_nil
    · exact ⟨hnames, hrows fields hfields⟩

/-! ## Files -/

theorem ne_nil_of_width (hne : names ≠ [])
    (hwidth : ∀ fields ∈ rows, fields.length = names.length) : ∀ fields ∈ rows, fields ≠ [] := by
  intro fields hfields
  have hpos : 0 < fields.length := hwidth fields hfields ▸ List.length_pos_of_ne_nil hne
  exact List.ne_nil_of_length_pos hpos

/-- The entities of a table, each row by itself. -/
theorem rows_eq (hne : names ≠ []) (hwidth : ∀ fields ∈ rows, fields.length = names.length) :
    Csv.rows (names :: rows) = rows.map fun fields => .mapOf (columns names fields) := by
  have hrows : ∀ fields ∈ rows, (!fields.isEmpty) = true := by
    simpa using ne_nil_of_width hne hwidth
  rw [Csv.rows, List.filter_eq_self.2 hrows]
  exact List.map_congr_left fun fields hfields => row_of_length_eq (hwidth fields hfields)

theorem readTable_table (hne : names ≠ [])
    (hwidth : ∀ fields ∈ rows, fields.length = names.length) :
    readTable ((Text.lines (tableText (names :: rows)).toList).map String.ofList) none =
      if ∀ fields ∈ names :: rows, Fits fields then
        .ok (rows.map fun fields => .mapOf (columns names fields))
      else .error (.fieldTooLong Csv.fieldLimit) := by
  have hrecords := Csv.records_tableText (List.forall_mem_cons.2 ⟨hne, ne_nil_of_width hne hwidth⟩)
  by_cases hfits : ∀ fields ∈ names :: rows, Fits fields
  · rw [if_pos hfits] at hrecords ⊢
    rw [← rows_eq hne hwidth]
    simp only [readTable, hrecords]
  · rw [if_neg hfits] at hrecords ⊢
    simp only [readTable, hrecords]

/-- **A table in a file** is read with the line ends in its fields unified. -/
theorem read_table (hne : names ≠ []) (hwidth : ∀ fields ∈ rows, fields.length = names.length) :
    read .table (Text.Utf8.encode (tableText (names :: rows))) =
      if ∀ fields ∈ names :: rows, Fits (fields.map unified) then
        .ok (rows.map fun fields => .mapOf (columns (names.map unified) (fields.map unified)))
      else .error (.fieldTooLong Csv.fieldLimit) := by
  have hunified : ∀ fields ∈ rows.map (·.map unified),
      fields.length = (names.map unified).length := by
    simpa using hwidth
  rw [read, Text.readLines_encode, Csv.unifyNewlines_tableText, List.map_cons]
  dsimp only
  rw [readTable_table (by simpa) hunified, List.map_map, ← List.map_cons]
  simp only [List.forall_mem_map]
  rfl

/-- **A table is loaded** as the maps of its rows with unified line ends. These are the maps of its
rows exactly if there is no carriage return in any of them. -/
theorem load_table {files : Files} {path : String}
    (hformat : Format.ofSuffix? (pathSuffix (tidyPath path)) = some .table)
    (hfile : files.read (tidyPath path) = .ok (Text.Utf8.encode (tableText (names :: rows))))
    (hne : names ≠ []) (hnodup : names.Nodup)
    (hwidth : ∀ fields ∈ rows, fields.length = names.length) :
    load files path =
      (if ∀ fields ∈ names :: rows, Fits (fields.map unified) then
        .ok (rows.map fun fields => .mapOf (columns (names.map unified) (fields.map unified)))
      else .error (.fieldTooLong Csv.fieldLimit)) ∧
    (load files path = .ok (rows.map fun fields => .map (columns names fields)) ↔
      (∀ fields ∈ names :: rows, Fits (fields.map unified)) ∧
        (rows = [] ∨ ∀ fields ∈ names :: rows, NoReturn fields)) := by
  have hload : load files path = _ := (load_of_read hformat hfile).trans (read_table hne hwidth)
  refine ⟨hload, ?_⟩
  rw [hload]
  by_cases hfits : ∀ fields ∈ names :: rows, Fits (fields.map unified)
  · rw [if_pos hfits, Except.ok.injEq, maps_unified_eq_iff hnodup hwidth]
    exact (and_iff_right hfits).symm
  · rw [if_neg hfits]
    exact iff_of_false (fun h => by cases h) fun h => hfits h.1

/-- Names and rows with marks, commas and line feeds in them, and empty ones. -/
def shipNames : List String := ["a \"b\",\nc", ""]

def shipRows : List (List String) := [["\n\"\"", ","], ["", "x,\n\n\"y"]]

/-- A table at one path. -/
def tableFiles (table : List (List String)) : Files := fun path =>
  if path = "ships.csv" then .file (Text.Utf8.encode (tableText table)) else .absent

theorem tableFiles_read (table : List (List String)) :
    (tableFiles table).read (tidyPath "./ships.csv") =
      .ok (Text.Utf8.encode (tableText table)) := by
  have hnull : Files.hasNull (tidyPath "./ships.csv") = false := by decide +kernel
  rw [Files.read, hnull, if_neg Bool.false_ne_true, tableFiles, if_pos (by decide +kernel)]
  rfl

theorem ships_format :
    Format.ofSuffix? (pathSuffix (tidyPath "./ships.csv")) = some .table := by decide +kernel

theorem load_table_ships :
    Format.ofSuffix? (pathSuffix (tidyPath "./ships.csv")) = some .table ∧
    (tableFiles (shipNames :: shipRows)).read (tidyPath "./ships.csv") =
      .ok (Text.Utf8.encode (tableText (shipNames :: shipRows))) ∧
    shipNames ≠ [] ∧ shipNames.Nodup ∧ (∀ fields ∈ shipRows, fields.length = shipNames.length) ∧
    load (tableFiles (shipNames :: shipRows)) "./ships.csv" =
      .ok (shipRows.map fun fields => .map (columns shipNames fields)) := by
  have hne : shipNames ≠ [] := by decide
  have hnodup : shipNames.Nodup := by decide
  have hwidth : ∀ fields ∈ shipRows, fields.length = shipNames.length := by decide
  refine ⟨ships_format, tableFiles_read _, hne, hnodup, hwidth, ?_⟩
  obtain ⟨-, hiff⟩ := load_table ships_format (tableFiles_read _) hne hnodup hwidth
  refine hiff.2 ⟨by decide +kernel, .inr ?_⟩
  decide +kernel

/-- A carriage return in a field is loaded as a line feed. -/
theorem load_return :
    load (tableFiles [["name", "mass"], ["x\ry", "5"]]) "./ships.csv" =
      .ok [.map (columns ["name", "mass"] ["x\ny", "5"])] := by
  rw [load_of_read ships_format (tableFiles_read _), read_table (by decide) (by decide),
    if_pos (by decide +kernel)]
  rfl

/-- Not every table is loaded unchanged. -/
theorem not_load_unchanged : ¬ ∀ (files : Files) (path : String) (names : List String)
    (rows : List (List String)),
    Format.ofSuffix? (pathSuffix (tidyPath path)) = some .table →
    files.read (tidyPath path) = .ok (Text.Utf8.encode (tableText (names :: rows))) →
    names ≠ [] → names.Nodup → (∀ fields ∈ rows, fields.length = names.length) →
    load files path = .ok (rows.map fun fields => .map (columns names fields)) := by
  intro h
  have hunchanged := h _ _ ["name", "mass"] [["x\ry", "5"]] ships_format (tableFiles_read _)
    (by decide) (by decide) (by decide)
  rw [load_return] at hunchanged
  obtain ⟨hmap, -⟩ := List.cons.inj (Except.ok.inj hunchanged)
  have hcolumns : columns ["name", "mass"] ["x\ny", "5"] = columns ["name", "mass"] ["x\ry", "5"] :=
    Value.map.inj hmap
  have hfields := fields_of_columns_eq (by decide) (by decide) hcolumns
  exact absurd hfields (by decide)

end EntitySelection.Dataset
