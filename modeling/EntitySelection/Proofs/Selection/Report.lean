import EntitySelection.Proofs.Json.RoundTrip
import EntitySelection.Proofs.PredicateSet.Acceptance
import EntitySelection.Selection.Report

/-!
# Reports are told apart by their data

**Theorem (`check_toValue`).** A selection is found again by checking its report, if its results
stand under pairwise different ids: the data of a report keep everything that the selection says.

Such data are plain (`plain_toValue`), so a report that is written as JSON is read back, whatever
its ids, names and descriptions are made of.
-/

namespace EntitySelection

open Schema

namespace Schema.Check

variable {α : Type} {check : Check α} {toValue : α → Value}

theorem list_map {xs : List α} (h : ∀ x ∈ xs, check (toValue x) = .ok x) :
    list check (.list (xs.map toValue)) = .ok xs := by
  refine list_eq_ok_iff.2 ⟨_, rfl, ?_⟩
  rw [List.forall₂_map_left_iff, List.forall₂_same]
  exact h

theorem textEntries_map {es : List (String × α)} (h : ∀ e ∈ es, check (toValue e.2) = .ok e.2) :
    textEntries check (es.map fun e => (.text e.1, toValue e.2)) = .ok es := by
  induction es with
  | nil => rfl
  | cons e es ih =>
    obtain ⟨he, hes⟩ := List.forall_mem_cons.1 h
    simp [textEntries, he, ih hes, text, Checked.under, Checked.both, Checked.map]

theorem textMap_map {es : List (String × α)} (hnodup : (Named.names es).Nodup)
    (h : ∀ e ∈ es, check (toValue e.2) = .ok e.2) :
    textMap check (.map (es.map fun e => (.text e.1, toValue e.2))) = .ok es := by
  rw [textMap, textEntries_map h, Checked.map, Named.ofPairs_of_nodup hnodup]

end Schema.Check

theorem Outcome.check_toValue (o : Outcome) : Outcome.check o.toValue = .ok o := rfl

theorem EntityResult.check_toValue (e : EntityResult) : EntityResult.check e.toValue = .ok e := by
  obtain ⟨id, selected, outcomes⟩ := e
  have houtcomes : Check.list Outcome.check (.list (outcomes.map (·.toValue))) = .ok outcomes :=
    Check.list_map fun o _ => o.check_toValue
  refine Check.record_eq_ok_iff.2 ⟨_, rfl, ?_⟩
  refine Checked.seq_eq_ok_iff.2 ⟨_, _, ?_, Check.required_eq_ok_iff.2 ⟨_, rfl, houtcomes⟩, rfl⟩
  rfl

namespace Report

theorem check_texts (ss : List String) : Check.list Check.text (texts ss) = .ok ss :=
  Check.list_map fun _ _ => rfl

/-- **A selection is found again by checking its report.** -/
theorem check_toValue {r : Report} (hnodup : (Named.names r.results).Nodup) :
    check r.toValue = .ok r := by
  obtain ⟨mode, selected, rejected, notApplicable, results⟩ := r
  have hresults : Check.textMap EntityResult.check
      (.map (results.map fun p => (.text p.1, p.2.toValue))) = .ok results :=
    Check.textMap_map hnodup fun e _ => e.2.check_toValue
  have hfield {α : Type} {es : List (Value × Value)} {name : String} {default : α} {c : Check α}
      {v : Value} {a : α} (hentry : Value.entry? es name = some v) (hv : c v = .ok a) :
      Check.optional es name default c = .ok a :=
    Check.optional_eq_ok_iff.2 (.inr ⟨v, hentry, hv⟩)
  refine Check.record_eq_ok_iff.2 ⟨_, rfl, ?_⟩
  refine Checked.seq_eq_ok_iff.2 ⟨_, _, ?_, hfield rfl hresults, rfl⟩
  refine Checked.seq_eq_ok_iff.2 ⟨_, _, ?_, hfield rfl (check_texts notApplicable), rfl⟩
  refine Checked.seq_eq_ok_iff.2 ⟨_, _, ?_, hfield rfl (check_texts rejected), rfl⟩
  refine Checked.seq_eq_ok_iff.2 ⟨_, _, ?_, hfield rfl (check_texts selected), rfl⟩
  exact Checked.map_eq_ok_iff.2
    ⟨mode, Check.required_eq_ok_iff.2 ⟨_, rfl, mode.check_name⟩, rfl⟩

end Report

/-! ## Plain data -/

open Json

theorem Outcome.plain_toValue (o : Outcome) : Plain o.toValue := by
  refine Plain.map [("predicate", .text o.predicate), ("description", .text o.description),
    ("applicable", .flag o.applicable), ("passed", .flag o.passed)] (by simp) ?_
  simp [Plain.text, Plain.flag]

theorem EntityResult.plain_toValue (e : EntityResult) : Plain e.toValue := by
  have houtcomes : Plain (.list (e.outcomes.map (·.toValue))) :=
    Plain.list (List.forall_mem_map.2 fun o _ => o.plain_toValue)
  refine Plain.map [("entity_id", .text e.entityId), ("selected", .flag e.selected),
    ("outcomes", .list (e.outcomes.map (·.toValue)))] (by simp) ?_
  simp [Plain.text, Plain.flag, houtcomes]

namespace Report

theorem plain_texts (ss : List String) : Plain (texts ss) :=
  Plain.list (List.forall_mem_map.2 fun s _ => Plain.text s)

theorem plain_toValue {r : Report} (hnodup : (Named.names r.results).Nodup) :
    Plain r.toValue := by
  have hresults : Plain (.map (r.results.map fun p => (.text p.1, p.2.toValue))) := by
    have hentries : r.results.map (fun p => (Value.text p.1, p.2.toValue)) =
        (r.results.map fun p => (p.1, p.2.toValue)).map entryOf := by
      rw [List.map_map]
      rfl
    have hnames : Named.names (r.results.map fun p => (p.1, p.2.toValue)) =
        Named.names r.results := List.map_map
    rw [hentries]
    exact Plain.map _ (hnames ▸ hnodup) (List.forall_mem_map.2 fun p _ => p.2.plain_toValue)
  refine Plain.map [("match", .text r.mode.name), ("selected_ids", texts r.selectedIds),
    ("rejected_ids", texts r.rejectedIds), ("not_applicable_ids", texts r.notApplicableIds),
    ("results", .map (r.results.map fun p => (.text p.1, p.2.toValue)))] (by simp) ?_
  simp [Plain.text, plain_texts, hresults]

end Report

end EntitySelection
