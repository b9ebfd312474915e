import EntitySelection.Command.Run
import EntitySelection.Proofs.Dataset.Framing

/-!
# The same documents in different files

**Theorem (`stored_alike`).** A list of JSON documents is loaded alike from every file that keeps it,
whether each document has its line or all of them stand in a list. A run of the command is the same
for all of these files.

A run depends on a dataset only by what is loaded from it (`run_of_load_eq`).
-/

namespace EntitySelection.Command

open Dataset (Stores OneLine)

variable {files : Files} {argv argv' : List String} {a : Arguments} {path path' : String}
  {ts : List String} {vs : List Value}

theorem selectWith_dataset (files : Files) (a : Arguments) (dataset : Option String) (log : String)
    (entities : List Value) (set : PredicateSet) :
    selectWith files { a with dataset := dataset } log entities set =
      selectWith files a log entities set := by
  unfold selectWith
  dsimp only

theorem select_of_load_eq (predicates : String)
    (hload : Dataset.load files path = Dataset.load files path') :
    select files { a with dataset := some path } path predicates =
      select files { a with dataset := some path' } path' predicates := by
  unfold select
  rw [hload]
  simp only [selectWith_dataset]

/-- Two runs that differ in their datasets only are the same if these are loaded alike. -/
theorem run_of_load_eq (hread : Arguments.read argv = .ok { a with dataset := some path })
    (hread' : Arguments.read argv' = .ok { a with dataset := some path' })
    (hpath : path ≠ "") (hpath' : path' ≠ "")
    (hload : Dataset.load files path = Dataset.load files path') :
    run files argv = run files argv' := by
  rw [run, run, hread, hread']
  dsimp only
  cases a.explain with
  | some raw => rfl
  | none =>
    cases a.predicates with
    | none => rfl
    | some predicates =>
      have hselect := select_of_load_eq (a := { a with predicates := some predicates, explain := none })
        predicates hload
      dsimp only
      rw [hselect, decide_eq_false hpath, decide_eq_false hpath']

/-- **The same documents, kept in any way, are the same dataset.** -/
theorem stored_alike (haccepted : List.Forall₂ (fun t v => Json.read t = .ok v) ts vs)
    (hlines : ∀ t ∈ ts, OneLine t.toList) :
    (∀ path, Stores files ts path → Dataset.load files path = .ok vs) ∧
    ∀ (a : Arguments) path path' argv argv', Stores files ts path → Stores files ts path' →
      Arguments.read argv = .ok { a with dataset := some path } →
      Arguments.read argv' = .ok { a with dataset := some path' } →
      run files argv = run files argv' := by
  have hload {path : String} (h : Stores files ts path) : Dataset.load files path = .ok vs :=
    Dataset.load_of_stores h hlines haccepted
  refine ⟨fun path => hload, ?_⟩
  intro a path path' argv argv' h h' hread hread'
  exact run_of_load_eq hread hread' h.path_ne_empty h'.path_ne_empty ((hload h).trans (hload h').symm)

/-- Two documents, one with a line separator in a text and one with a space before it. -/
def keptTexts : List String := ["\x7b\"id\": \"a\u2028b\", \"mass\": [5e0, -1]\x7d", " NaN"]

/-- The documents on lines among blank ones, and in a list under a key. -/
def keptLines : List Char :=
  ['\t'] ++ (['\r', '\n'] ++ (keptTexts[0].toList ++ (['\r'] ++ (keptTexts[1].toList ++
    (['\n'] ++ ['\u2003'])))))

def keptMap : List Char :=
  ['\r', '\n'] ++ '\x7b' :: ([] ++ ((Json.quoted "items").toList ++
    ([' '] ++ ':' :: ([] ++ (Dataset.listText keptTexts ++ (['\r'] ++ '\x7d' :: []))))))

def keptFiles : Files := fun path =>
  if path = "crates.ndjson" then .file (Text.Utf8.encode (String.ofList keptLines))
  else if path = "crates.json" then
    .file (Text.Utf8.encode (String.ofList (Dataset.listText keptTexts)))
  else if path = "keyed.json" then .file (Text.Utf8.encode (String.ofList keptMap))
  else if path = "rules.yaml" then
    .file "predicates: [\x7bname: heavy, attribute: id, query: '> 3'\x7d]".toUTF8.toList
  else .absent

theorem keptTexts_accepted :
    ∃ vs, List.Forall₂ (fun t v => Json.read t = .ok v) keptTexts vs := by
  have hok : (keptTexts.mapM Json.read).isOk = true := by decide +kernel
  cases hread : keptTexts.mapM Json.read with
  | error f => rw [hread] at hok; cases hok
  | ok vs => exact ⟨vs, mapM_eq_ok_iff.1 hread⟩

theorem keptTexts_oneLine : ∀ t ∈ keptTexts, OneLine t.toList := by decide +kernel

theorem keptLines_framed : Dataset.Framed keptTexts keptLines :=
  .blank (by decide) (by decide) (.both _) <|
    .text (keptTexts_oneLine _ (.head _)) (.return (by decide)) <|
    .text (keptTexts_oneLine _ (.tail _ (.head _))) (.feed _) <|
    .lastBlank (by decide) (by decide)

theorem keptMap_wraps : Json.Wraps "items" (Dataset.listText keptTexts) keptMap :=
  .mk (by decide) (by decide) (by decide) (by decide) (by decide) (by decide)

/-- A path that leads to a file of crates. -/
theorem keptFiles_stores {path : String} {format : Dataset.Format} {cs : List Char}
    (hformat : Dataset.Format.ofSuffix? (pathSuffix (tidyPath path)) = some format)
    (hfile : keptFiles.read (tidyPath path) = .ok (Text.Utf8.encode (String.ofList cs)))
    (h : Dataset.Holds keptTexts format cs) : Stores keptFiles keptTexts path :=
  .mk hformat hfile (by rwa [String.toList_ofList])

theorem stored_alike_kept : ∃ vs,
    List.Forall₂ (fun t v => Json.read t = .ok v) keptTexts vs ∧
    (∀ t ∈ keptTexts, OneLine t.toList) ∧
    (∀ path ∈ ["crates.ndjson", "crates.json", "keyed.json"],
      Stores keptFiles keptTexts path ∧ Dataset.load keptFiles path = .ok vs) ∧
    run keptFiles ["crates.ndjson", "rules.yaml"] = run keptFiles ["keyed.json", "rules.yaml"] := by
  obtain ⟨vs, hvs⟩ := keptTexts_accepted
  have hlines : Stores keptFiles keptTexts "crates.ndjson" :=
    keptFiles_stores rfl (by decide +kernel) (.lines keptLines_framed)
  have hlist : Stores keptFiles keptTexts "crates.json" :=
    keptFiles_stores rfl (by decide +kernel) .list
  have hmap : Stores keptFiles keptTexts "keyed.json" :=
    keptFiles_stores rfl (by decide +kernel) (.map (by decide) keptMap_wraps)
  obtain ⟨hload, hrun⟩ := @stored_alike keptFiles keptTexts vs hvs keptTexts_oneLine
  refine ⟨vs, hvs, keptTexts_oneLine, ?_, ?_⟩
  · simp only [List.forall_mem_cons]
    exact ⟨⟨hlines, hload _ hlines⟩, ⟨hlist, hload _ hlist⟩, ⟨hmap, hload _ hmap⟩, nofun⟩
  · exact hrun { predicates := "rules.yaml" } _ _ _ _ hlines hmap rfl rfl

end EntitySelection.Command
