import EntitySelection.Dataset
import EntitySelection.Proofs.Json.Documents
import EntitySelection.Proofs.Success
import EntitySelection.Proofs.Text.Line

/-!
# Documents in a file

The same JSON documents can be kept in a file in several ways: one on each line, with blank lines
anywhere (`Framed`); as a list; or as a list in a map under one of the keys of a list (`Holds`).

**Theorem (`read_of_holds`).** However a file keeps them, its entities are what the documents are
read as, if no document has a line end in it.
-/

namespace EntitySelection.Dataset

open Json (AllSpace Wraps)

variable {ts : List String} {vs : List Value} {t key : String} {v : Value}
  {cs ds body mark rest : List Char}

/-! ## Lines -/

/-- There is no line end in the characters. -/
def OneLine (cs : List Char) : Prop := '\n' ∉ cs ∧ '\r' ∉ cs

instance (cs : List Char) : Decidable (OneLine cs) := inferInstanceAs (Decidable (_ ∧ _))

/-- A line end, and what comes after it: a carriage return before a line feed is no line end of its
own. -/
inductive LineEnd : List Char → List Char → Prop
  | feed (rest : List Char) : LineEnd ['\n'] rest
  | return {rest : List Char} (h : rest.head? ≠ some '\n') : LineEnd ['\r'] rest
  | both (rest : List Char) : LineEnd ['\r', '\n'] rest

theorem unifyNewlines_lineEnd (h : LineEnd mark rest) :
    Text.unifyNewlines (mark ++ rest) = '\n' :: Text.unifyNewlines rest := by
  cases h with
  | feed => exact Text.unifyNewlines_cons (by decide)
  | «return» h => exact Text.unifyNewlines_return h
  | both => rfl

/-- The lines of a file in its first line and the others. -/
theorem lines_lineEnd (hbody : OneLine body) (hmark : LineEnd mark rest) :
    Text.lines (Text.unifyNewlines (body ++ (mark ++ rest))) =
      (body ++ ['\n']) :: Text.lines (Text.unifyNewlines rest) := by
  rw [Text.unifyNewlines_append_left hbody.2, unifyNewlines_lineEnd hmark,
    Text.lines_append hbody.1]

theorem lines_oneLine (hbody : OneLine body) (hne : body ≠ []) :
    Text.lines (Text.unifyNewlines body) = [body] := by
  rw [Text.unifyNewlines_of_not_mem hbody.2, Text.lines_last hbody.1 hne]

/-- A file with a document on each line that is not blank. The last line may have no end. -/
inductive Framed : List String → List Char → Prop
  | lastText {t : String} (ht : OneLine t.toList) : Framed [t] t.toList
  | lastBlank {body : List Char} (hbody : OneLine body)
      (hblank : body.all Text.isBlank = true) : Framed [] body
  | text {t : String} {ts : List String} {mark rest : List Char} (ht : OneLine t.toList)
      (hmark : LineEnd mark rest) (h : Framed ts rest) : Framed (t :: ts) (t.toList ++ (mark ++ rest))
  | blank {ts : List String} {body mark rest : List Char} (hbody : OneLine body)
      (hblank : body.all Text.isBlank = true) (hmark : LineEnd mark rest)
      (h : Framed ts rest) : Framed ts (body ++ (mark ++ rest))

theorem isBlankText_ofList : Text.isBlankText (String.ofList cs) = cs.all Text.isBlank := by
  rw [Text.isBlankText, String.toList_ofList]

theorem readJson_eq_ok_iff : readJson t = .ok v ↔ Json.document t.toList = .ok v := by
  rw [← Json.read_eq_ok_iff, readJson]
  cases Json.read t <;> simp [Except.mapError]

/-- The lines that are not blank. -/
def textLines (cs : List Char) : List String :=
  ((Text.lines (Text.unifyNewlines cs)).map String.ofList).filter (!Text.isBlankText ·)

theorem textLines_lineEnd (hbody : OneLine body) (hmark : LineEnd mark rest) :
    textLines (body ++ (mark ++ rest)) =
      if body.all Text.isBlank then textLines rest
      else String.ofList (body ++ ['\n']) :: textLines rest := by
  have hfeed : (body ++ ['\n']).all Text.isBlank = body.all Text.isBlank := by
    rw [List.all_append]
    exact Bool.and_true _
  rw [textLines, lines_lineEnd hbody hmark, List.map_cons, List.filter_cons, isBlankText_ofList,
    hfeed]
  cases body.all Text.isBlank <;> rfl

theorem textLines_oneLine (hbody : OneLine body) :
    textLines body = if body.all Text.isBlank then [] else [String.ofList body] := by
  by_cases hne : body = []
  · subst hne
    rfl
  · rw [textLines, lines_oneLine hbody hne, List.map_cons, List.filter_cons, isBlankText_ofList]
    cases body.all Text.isBlank <;> rfl

theorem not_all_isBlank (h : Json.document cs = .ok v) : ¬ cs.all Text.isBlank = true := by
  obtain ⟨c, hc, hblank⟩ := Json.exists_not_blank h
  intro hall
  exact Bool.false_ne_true (hblank.symm.trans (List.all_eq_true.1 hall c hc))

/-- **Each line that is not blank is read as its document.** -/
theorem readJson_textLines (h : Framed ts cs)
    (hread : List.Forall₂ (fun t v => Json.document t.toList = .ok v) ts vs) :
    List.Forall₂ (fun l v => readJson l = .ok v) (textLines cs) vs := by
  induction h generalizing vs with
  | lastText ht =>
    obtain ⟨v, vs, hv, hvs, rfl⟩ := List.forall₂_cons_left_iff.1 hread
    obtain rfl := List.forall₂_nil_left_iff.1 hvs
    rw [textLines_oneLine ht, if_neg (not_all_isBlank hv), String.ofList_toList]
    exact .cons (readJson_eq_ok_iff.2 hv) .nil
  | lastBlank hbody hblank =>
    rw [textLines_oneLine hbody, if_pos hblank]
    rwa [List.forall₂_nil_left_iff] at hread ⊢
  | text ht hmark _ ih =>
    obtain ⟨v, vs, hv, hvs, rfl⟩ := List.forall₂_cons_left_iff.1 hread
    rw [textLines_lineEnd ht hmark, if_neg (not_all_isBlank hv)]
    refine .cons (readJson_eq_ok_iff.2 ?_) (ih hvs)
    rw [String.toList_ofList]
    exact Json.document_append_space hv (Json.allSpace_singleton rfl)
  | blank hbody hblank hmark _ ih =>
    rw [textLines_lineEnd hbody hmark, if_pos hblank]
    exact ih hread

/-! ## A list of documents -/

/-- The documents as the items of a list. -/
def listText (ts : List String) : List Char := Json.listOf (ts.map String.toList)

theorem return_not_mem_listText (h : ∀ t ∈ ts, OneLine t.toList) : '\r' ∉ listText ts := by
  have hfurther {css : List (List Char)} (hcss : ∀ cs ∈ css, '\r' ∉ cs) :
      '\r' ∉ Json.further [] css := by
    induction css with
    | nil => nofun
    | cons cs css ih =>
      obtain ⟨hcs, hcss⟩ := List.forall_mem_cons.1 hcss
      simp [Json.further, hcs, ih hcss]
  cases ts with
  | nil => decide
  | cons t ts =>
    obtain ⟨ht, hts⟩ := List.forall_mem_cons.1 h
    have hmore := hfurther (List.forall_mem_map.2 fun t ht => (hts t ht).2)
    simp [listText, Json.listOf, Json.intercalate_eq, ht.2, hmore]

theorem shape_of_listKey (h : key ∈ listKeys) :
    (Json.quoted key).toList.head? = some '"' ∧ '\r' ∉ (Json.quoted key).toList := by
  simp only [listKeys, List.mem_cons, List.not_mem_nil, or_false] at h
  rcases h with rfl | rfl | rfl <;> decide +kernel

theorem allSpace_unifyNewlines (h : AllSpace cs) : AllSpace (Text.unifyNewlines cs) := by
  intro c hc
  rcases Text.mem_unifyNewlines hc with rfl | hmem
  · rfl
  · exact h c hmem

/-- Unified line ends change the spaces of a map, and nothing else of it. -/
theorem wraps_unifyNewlines (hkey : key ∈ listKeys) (hcs : '\r' ∉ cs) (hhead : cs.head? = some '[')
    (h : Wraps key cs ds) : Wraps key cs (Text.unifyNewlines ds) := by
  obtain ⟨hquote, hname⟩ := shape_of_listKey hkey
  cases h with
  | mk hbefore hopening hnamed hafter hlast hbehind =>
    rw [Text.unifyNewlines_append (by simp), Text.unifyNewlines_cons (by decide),
      Text.unifyNewlines_append (by simp [hquote]), Text.unifyNewlines_append_left hname,
      Text.unifyNewlines_append (by simp), Text.unifyNewlines_cons (by decide),
      Text.unifyNewlines_append (by simp [hhead]), Text.unifyNewlines_append_left hcs,
      Text.unifyNewlines_append (by simp), Text.unifyNewlines_cons (by decide)]
    exact .mk (allSpace_unifyNewlines hbefore) (allSpace_unifyNewlines hopening)
      (allSpace_unifyNewlines hnamed) (allSpace_unifyNewlines hafter)
      (allSpace_unifyNewlines hlast) (allSpace_unifyNewlines hbehind)

theorem entities_listKey (h : key ∈ listKeys) (vs : List Value) :
    entities (.map [(.text key, .list vs)]) = .ok vs := by
  simp only [listKeys, List.mem_cons, List.not_mem_nil, or_false] at h
  rcases h with rfl | rfl | rfl <;> rfl

/-! ## Files -/

/-- The ways to keep documents in a file of a format. -/
inductive Holds (ts : List String) : Format → List Char → Prop
  | lines {cs : List Char} (h : Framed ts cs) : Holds ts .jsonLines cs
  | list : Holds ts .json (listText ts)
  | map {key : String} {cs : List Char} (hkey : key ∈ listKeys) (h : Wraps key (listText ts) cs) :
      Holds ts .json cs

/-- **Whatever way the documents are kept**, the file is read as the list of them. -/
theorem read_of_holds {format : Format} {s : String} (h : Holds ts format s.toList)
    (hlines : ∀ t ∈ ts, OneLine t.toList)
    (hread : List.Forall₂ (fun t v => Json.read t = .ok v) ts vs) :
    read format (Text.Utf8.encode s) = .ok vs := by
  simp only [Json.read_eq_ok_iff] at hread
  have hlist : Json.document (listText ts) = .ok (.list vs) :=
    Json.document_listOf (List.forall₂_map_left_iff.2 hread)
  have hreturn : '\r' ∉ listText ts := return_not_mem_listText hlines
  have hjson {v : Value} (hv : Json.document (Text.unifyNewlines s.toList) = .ok v) :
      read .json (Text.Utf8.encode s) = entities v := by
    rw [read, Text.readAll_encode]
    have htext : readJson (String.ofList (Text.unifyNewlines s.toList)) = .ok v := by
      rw [readJson_eq_ok_iff, String.toList_ofList, hv]
    simp [Except.mapError, bind, Except.bind, htext]
  generalize hcs : s.toList = cs at h hjson
  cases h with
  | lines h =>
    have hlines := readJson_textLines h hread
    rw [textLines, ← hcs] at hlines
    rw [read, Text.readLines_encode]
    simp only [readLines, mapM_eq_ok_iff.2 hlines]
    rfl
  | list =>
    rw [hjson (v := .list vs)]
    · rfl
    · rw [Text.unifyNewlines_of_not_mem hreturn, hlist]
  | map hkey h =>
    rw [hjson (Json.document_wraps (wraps_unifyNewlines hkey hreturn rfl h) hlist),
      entities_listKey hkey]

/-- The documents are kept in the file of a path. -/
inductive Stores (files : Files) (ts : List String) (path : String) : Prop
  | mk {format : Format} {s : String}
      (hformat : Format.ofSuffix? (pathSuffix (tidyPath path)) = some format)
      (hfile : files.read (tidyPath path) = .ok (Text.Utf8.encode s))
      (hholds : Holds ts format s.toList)

theorem isThere_of_read {files : Files} {path : String} {bytes : List UInt8}
    (h : files.read path = .ok bytes) : files.isThere path = true := by
  cases hnull : Files.hasNull path with
  | true => simp [Files.read, hnull] at h
  | false =>
    rw [Files.read, hnull, if_neg Bool.false_ne_true] at h
    rw [Files.isThere, hnull]
    cases hfile : files path with
    | file bytes => rfl
    | directory => rfl
    | _ => rw [hfile] at h; cases h

theorem load_of_read {files : Files} {path : String} {format : Format} {bytes : List UInt8}
    (hformat : Format.ofSuffix? (pathSuffix (tidyPath path)) = some format)
    (hfile : files.read (tidyPath path) = .ok bytes) : load files path = read format bytes := by
  rw [load, isThere_of_read hfile, hformat]
  simp only [hfile]
  rfl

/-- **Documents are loaded from where they are kept.** -/
theorem load_of_stores {files : Files} {path : String} (h : Stores files ts path)
    (hlines : ∀ t ∈ ts, OneLine t.toList)
    (hread : List.Forall₂ (fun t v => Json.read t = .ok v) ts vs) : load files path = .ok vs := by
  obtain ⟨hformat, hfile, hholds⟩ := h
  rw [load_of_read hformat hfile, read_of_holds hholds hlines hread]

/-- A path that leads to documents is not empty. -/
theorem Stores.path_ne_empty {files : Files} {path : String} (h : Stores files ts path) :
    path ≠ "" := by
  rintro rfl
  obtain ⟨hformat, -, -⟩ := h
  cases hformat

end EntitySelection.Dataset
