import EntitySelection.Proofs.Selection.Outcome
import EntitySelection.Proofs.Selection.Table

/-!
# A selection accounts for every entity

**Theorem (`run_accounts`).** The three lists of ids of a finished selection part the ids of the
entities: none is lost, none occurs twice, and each list keeps the order of the entities. The
results stand under the same ids in the same order, each with one outcome for each predicate and
with the flag that its list asks for.

All of it is read off the rows of the selection (`run_eq_ok_iff`): the lists are rows filtered by
three conditions of which exactly one holds, and the ids of the rows are pairwise different.
-/

namespace EntitySelection.Selection

/-! ## Filtered rows -/

section Rows

variable {rows : List (String × List Outcome)} {a b : String × List Outcome → Bool}

theorem mem_names_filter {k : String} :
    k ∈ Named.names (rows.filter a) ↔ ∃ os, (k, os) ∈ rows ∧ a (k, os) = true := by
  simp [Named.names]

theorem names_filter_sublist : (Named.names (rows.filter a)).Sublist (Named.names rows) :=
  List.filter_sublist.map _

theorem eq_of_mem_rows {k : String} {os os' : List Outcome} (hnodup : (Named.names rows).Nodup)
    (h : (k, os) ∈ rows) (h' : (k, os') ∈ rows) : os = os' := by
  rw [← Named.lookup_eq_some_iff hnodup] at h h'
  exact Option.some.inj (h.symm.trans h')

/-- Conditions that exclude each other filter out different ids. -/
theorem names_filter_disjoint (hnodup : (Named.names rows).Nodup)
    (hab : ∀ row, a row = true → b row = false) :
    (Named.names (rows.filter a)).Disjoint (Named.names (rows.filter b)) := by
  intro k ha hb
  obtain ⟨os, hmem, ha⟩ := mem_names_filter.1 ha
  obtain ⟨os', hmem', hb⟩ := mem_names_filter.1 hb
  obtain rfl := eq_of_mem_rows hnodup hmem hmem'
  simp [hab _ ha] at hb

end Rows

/-- An entity is either not applicable, or selected or rejected. -/
theorem filter_perm (mode : MatchMode) (rows : List (String × List Outcome)) :
    (rows.filter (fun row => accepts mode row.2) ++ rows.filter (fun row => refuses mode row.2) ++
      rows.filter fun row => !isApplicable row.2).Perm rows := by
  have happ : (rows.filter (fun row => accepts mode row.2) ++
      rows.filter fun row => refuses mode row.2).Perm (rows.filter fun row => isApplicable row.2) := by
    have h := List.filter_append_perm (fun row : String × List Outcome => passes mode row.2)
      (rows.filter fun row => isApplicable row.2)
    simpa only [List.filter_filter, Bool.and_comm, accepts, refuses] using h
  exact (happ.append_right _).trans (List.filter_append_perm _ rows)

/-! ## The account -/

/-- What a selection by some predicates owes to the entities of the given ids. -/
structure Accounts (ps : List Predicate) (ids : List String) (s : Selection) : Prop where
  selected_nodup : s.selectedIds.Nodup
  rejected_nodup : s.rejectedIds.Nodup
  notApplicable_nodup : s.notApplicableIds.Nodup
  selected_rejected : s.selectedIds.Disjoint s.rejectedIds
  selected_notApplicable : s.selectedIds.Disjoint s.notApplicableIds
  rejected_notApplicable : s.rejectedIds.Disjoint s.notApplicableIds
  selected_sublist : s.selectedIds.Sublist ids
  rejected_sublist : s.rejectedIds.Sublist ids
  notApplicable_sublist : s.notApplicableIds.Sublist ids
  perm : (s.selectedIds ++ s.rejectedIds ++ s.notApplicableIds).Perm ids
  keys : Named.names s.results = ids
  keys_nodup : ids.Nodup
  entityId : ∀ k e, s.results.lookup k = some e → e.entityId = k
  predicates : ∀ k e, s.results.lookup k = some e →
    e.outcomes.map (·.predicate) = ps.map (·.name)
  selected_iff : ∀ k e, s.results.lookup k = some e → (e.selected = true ↔ k ∈ s.selectedIds)

variable {ps : List Predicate} {idField : String} {mode : MatchMode} {entities : List Value}

theorem lookup_results_table {reported mode : MatchMode} {rows : List (String × List Outcome)}
    (hnodup : (Named.names rows).Nodup) {k : String} {e : EntityResult} :
    (table reported mode rows).results.lookup k = some e ↔
      ∃ os, (k, os) ∈ rows ∧ e = resultOf mode k os := by
  rw [Named.lookup_eq_some_iff (by rwa [names_results_table])]
  simp only [table, List.mem_map, Prod.mk.injEq, Prod.exists]
  constructor
  · intro h
    obtain ⟨_, os, hmem, rfl, rfl⟩ := h
    exact ⟨os, hmem, rfl⟩
  · intro h
    obtain ⟨os, hmem, rfl⟩ := h
    exact ⟨k, os, hmem, rfl, rfl⟩

/-- The result of the entity at a place is made of its outcomes. -/
theorem exists_result {s : Selection} (h : run mode ps idField entities = .ok s) {i : Nat}
    {entity : Value} (hi : entities[i]? = some entity) :
    ∃ os, outcomes ps entity = .ok os ∧ s.results.lookup (entityId idField i entity) =
      some (resultOf mode (entityId idField i entity) os) := by
  obtain ⟨rows, hrows, hnodup, rfl⟩ := run_eq_ok_iff.1 h
  obtain ⟨os, hos, hrow⟩ := hrows.getElem? hi
  rw [Nat.zero_add] at hrow
  exact ⟨os, hos, (lookup_results_table hnodup).2 ⟨os, List.mem_of_getElem? hrow, rfl⟩⟩

theorem accounts_table {rows : List (String × List Outcome)} (reported : MatchMode)
    (hrows : Rows ps idField 0 entities rows) (hnodup : (Named.names rows).Nodup) :
    Accounts ps (ids idField entities) (table reported mode rows) := by
  rw [← hrows.names_eq]
  exact {
    selected_nodup := hnodup.sublist names_filter_sublist
    rejected_nodup := hnodup.sublist names_filter_sublist
    notApplicable_nodup := hnodup.sublist names_filter_sublist
    selected_rejected := names_filter_disjoint hnodup fun row h => by
      simp only [accepts, refuses, Bool.and_eq_true] at h ⊢
      simp [h.2]
    selected_notApplicable := names_filter_disjoint hnodup fun row h => by
      simp only [accepts, Bool.and_eq_true] at h
      simp [h.1]
    rejected_notApplicable := names_filter_disjoint hnodup fun row h => by
      simp only [refuses, Bool.and_eq_true] at h
      simp [h.1]
    selected_sublist := names_filter_sublist
    rejected_sublist := names_filter_sublist
    notApplicable_sublist := names_filter_sublist
    perm := by
      simpa [table, Named.names] using (filter_perm mode rows).map (·.1)
    keys := names_results_table reported mode rows
    keys_nodup := hnodup
    entityId := fun k e h => by
      obtain ⟨os, -, rfl⟩ := (lookup_results_table hnodup).1 h
      rfl
    predicates := fun k e h => by
      obtain ⟨os, hmem, rfl⟩ := (lookup_results_table hnodup).1 h
      obtain ⟨entity, -, hos⟩ := hrows.exists_entity hmem
      exact predicates_of_outcomes hos
    selected_iff := fun k e h => by
      obtain ⟨os, hmem, rfl⟩ := (lookup_results_table hnodup).1 h
      refine Iff.trans ?_ mem_names_filter.symm
      constructor
      · intro hsel
        exact ⟨os, hmem, hsel⟩
      · intro h
        obtain ⟨os', hmem', hsel⟩ := h
        obtain rfl := eq_of_mem_rows hnodup hmem hmem'
        exact hsel }

/-- **Nothing is lost and nothing occurs twice.** A selection that succeeds accounts for every
entity, and has as many results as there are entities. -/
theorem run_accounts {s : Selection} (h : run mode ps idField entities = .ok s) :
    Accounts ps (ids idField entities) s ∧ s.results.length = entities.length := by
  obtain ⟨rows, hrows, hnodup, rfl⟩ := run_eq_ok_iff.1 h
  exact ⟨accounts_table mode hrows hnodup, by simp [table, hrows.length_eq]⟩

/-- Passes where the mass is more than three. -/
def heavy : Predicate where
  name := "heavy"
  describe := .ok "> 3"
  applicable v := .ok (v.attribute? "mass").isSome
  test v := .ok (match v.attribute? "mass" with
    | some (.int n) => n > 3
    | _ => false)

/-- A heavy crate, a light one without an id, and one without a mass. -/
def crates : List Value := [
  .map [(.text "id", .text "a"), (.text "mass", .int 5)],
  .map [(.text "mass", .int 1)],
  .map [(.text "id", .text "c")]]

def heavyCrates : Selection := ⟨.all, ["a"], ["#1"], ["c"], [
  ("a", ⟨"a", true, [⟨"heavy", "> 3", true, true⟩]⟩),
  ("#1", ⟨"#1", false, [⟨"heavy", "> 3", true, false⟩]⟩),
  ("c", ⟨"c", false, [⟨"heavy", "> 3", false, false⟩]⟩)]⟩

theorem accounts_heavyCrates :
    run .all [heavy] "id" crates = .ok heavyCrates ∧
      Accounts [heavy] (ids "id" crates) heavyCrates ∧
      heavyCrates.results.length = crates.length := by
  have h : run .all [heavy] "id" crates = .ok heavyCrates := rfl
  exact ⟨h, run_accounts h⟩

end EntitySelection.Selection
