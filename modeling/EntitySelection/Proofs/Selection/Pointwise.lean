import EntitySelection.Proofs.Selection.Outcome
import EntitySelection.Proofs.Selection.Table

/-!
# Selections entity by entity

What becomes of an entity depends on nothing but the entity and the predicates: each list of ids
is the list of all ids, less those of the entities with another verdict (`run_pointwise`). Whether
a selection succeeds does not depend on the mode, nor on the order of the predicates
(`exists_run_iff`).
-/

namespace EntitySelection.Selection

variable {ps : List Predicate} {idField : String} {mode : MatchMode} {entities : List Value}
  {rows : List (String × List Outcome)}

/-! ## Entities with their ids -/

/-- The entities under their ids. -/
def labelled (idField : String) (entities : List Value) : List (String × Value) :=
  entities.mapIdx fun i e => (entityId idField i e, e)

theorem names_labelled : Named.names (labelled idField entities) = ids idField entities := by
  simp [Named.names, labelled, ids, List.mapIdx_eq_zipIdx_map]

theorem mem_of_mem_labelled {k : String} {entity : Value}
    (h : (k, entity) ∈ labelled idField entities) : entity ∈ entities := by
  obtain ⟨i, hi, h⟩ := List.mem_mapIdx.1 h
  exact (Prod.mk.inj h).2 ▸ List.getElem_mem hi

/-- The rows go along with the entities. -/
theorem Rows.forall₂ {position : Nat} (h : Rows ps idField position entities rows) :
    List.Forall₂ (fun (x : String × Value) (row : String × List Outcome) =>
        row.1 = x.1 ∧ outcomes ps x.2 = .ok row.2)
      (entities.mapIdx fun i e => (entityId idField (position + i) e, e)) rows := by
  induction h with
  | nil => exact .nil
  | @cons position entity rest os rows hos _ ih =>
    rw [List.mapIdx_cons]
    refine .cons ⟨rfl, hos⟩ ?_
    convert ih using 3 with i e
    rw [show position + 1 + i = position + (i + 1) by omega]

/-! ## Verdicts -/

/-- Whether an entity has outcomes of a kind. -/
def verdict (kind : List Outcome → Bool) (ps : List Predicate) (entity : Value) : Bool :=
  match outcomes ps entity with
  | .ok os => kind os
  | .error _ => false

theorem verdict_eq {kind : List Outcome → Bool} {entity : Value} {os : List Outcome}
    (h : outcomes ps entity = .ok os) : verdict kind ps entity = kind os := by
  rw [verdict, h]

/-- The ids of the entities with outcomes of a kind, in order. -/
def idsWhere (kind : List Outcome → Bool) (ps : List Predicate) (idField : String)
    (entities : List Value) : List String :=
  Named.names ((labelled idField entities).filter fun x => verdict kind ps x.2)

theorem Rows.names_filter (h : Rows ps idField 0 entities rows) (kind : List Outcome → Bool) :
    Named.names (rows.filter fun row => kind row.2) = idsWhere kind ps idField entities := by
  replace h := h.forall₂
  simp only [Nat.zero_add] at h
  rw [idsWhere, labelled]
  generalize (entities.mapIdx fun i e => (entityId idField i e, e)) = xs at h ⊢
  induction h with
  | nil => rfl
  | @cons x row xs rows hrow _ ih =>
    have hkind : verdict kind ps x.2 = kind row.2 := verdict_eq hrow.2
    rw [List.filter_cons, List.filter_cons, hkind]
    split
    · rw [Named.names_cons, Named.names_cons, ih, hrow.1]
    · exact ih

/-- **The lists of a selection.** Each holds the ids of the entities of its kind. -/
theorem run_pointwise {s : Selection} (h : run mode ps idField entities = .ok s) :
    s.selectedIds = idsWhere (accepts mode) ps idField entities ∧
      s.rejectedIds = idsWhere (refuses mode) ps idField entities ∧
      s.notApplicableIds = idsWhere (fun os => !isApplicable os) ps idField entities := by
  obtain ⟨rows, hrows, -, rfl⟩ := run_eq_ok_iff.1 h
  exact ⟨hrows.names_filter _, hrows.names_filter _,
    hrows.names_filter fun os => !isApplicable os⟩

/-- Whether an id is on a list is a question to its entity. -/
theorem mem_idsWhere_iff {kind : List Outcome → Bool} {k : String} {entity : Value}
    (hnodup : (ids idField entities).Nodup) (h : (k, entity) ∈ labelled idField entities) :
    k ∈ idsWhere kind ps idField entities ↔ verdict kind ps entity = true := by
  simp only [idsWhere, Named.names, List.mem_map, List.mem_filter, Prod.exists]
  constructor
  · intro hex
    obtain ⟨k, entity', ⟨h', hv⟩, rfl⟩ := hex
    rw [← names_labelled] at hnodup
    rw [← Named.lookup_eq_some_iff hnodup] at h h'
    obtain rfl := Option.some.inj (h.symm.trans h')
    exact hv
  · intro hv
    exact ⟨k, entity, ⟨h, hv⟩, rfl⟩

/-- A list is all ids, less those whose entities are of another kind. -/
theorem idsWhere_eq_filter {kind : List Outcome → Bool} {b : String → Bool}
    (h : ∀ k entity, (k, entity) ∈ labelled idField entities →
      (verdict kind ps entity = true ↔ b k = true)) :
    idsWhere kind ps idField entities = (ids idField entities).filter b := by
  rw [idsWhere, ← names_labelled, Named.names, Named.names, List.filter_map]
  congr 1
  refine List.filter_congr fun x hx => ?_
  rw [Bool.eq_iff_iff]
  exact h x.1 x.2 hx

theorem idsWhere_sublist {kind kind' : List Outcome → Bool} {qs : List Predicate}
    (h : ∀ entity ∈ entities, verdict kind ps entity = true → verdict kind' qs entity = true) :
    (idsWhere kind ps idField entities).Sublist (idsWhere kind' qs idField entities) := by
  refine List.Sublist.map _ ?_
  have hboth : (labelled idField entities).filter (fun x => verdict kind ps x.2) =
      ((labelled idField entities).filter fun x => verdict kind' qs x.2).filter
        fun x => verdict kind ps x.2 := by
    rw [List.filter_filter]
    refine List.filter_congr fun x hx => ?_
    rw [Bool.eq_iff_iff, Bool.and_eq_true]
    exact (and_iff_left_of_imp (h x.2 (mem_of_mem_labelled hx))).symm
  rw [hboth]
  exact List.filter_sublist

theorem idsWhere_congr {kind kind' : List Outcome → Bool} {qs : List Predicate}
    (h : ∀ entity ∈ entities, verdict kind ps entity = true ↔ verdict kind' qs entity = true) :
    idsWhere kind ps idField entities = idsWhere kind' qs idField entities := by
  refine congrArg Named.names (List.filter_congr fun x hx => ?_)
  rw [Bool.eq_iff_iff]
  exact h x.2 (mem_of_mem_labelled hx)

/-! ## Success -/

theorem exists_rows_iff {position : Nat} :
    (∃ rows, Rows ps idField position entities rows) ↔
      ∀ entity ∈ entities, ∃ os, outcomes ps entity = .ok os := by
  constructor
  · intro h entity hmem
    obtain ⟨rows, hrows⟩ := h
    obtain ⟨i, hi⟩ := List.mem_iff_getElem?.1 hmem
    obtain ⟨os, hos, -⟩ := hrows.getElem? hi
    exact ⟨os, hos⟩
  · intro h
    induction entities generalizing position with
    | nil => exact ⟨[], .nil position⟩
    | cons entity rest ih =>
      obtain ⟨os, hos⟩ := h entity List.mem_cons_self
      obtain ⟨rows, hrows⟩ : ∃ rows, Rows ps idField (position + 1) rest rows :=
        ih fun e he => h e (List.mem_cons_of_mem _ he)
      exact ⟨_, .cons hos hrows⟩

/-- **Success.** A selection succeeds when the ids are pairwise different and every predicate
has an outcome on every entity. -/
theorem exists_run_iff :
    (∃ s, run mode ps idField entities = .ok s) ↔
      (ids idField entities).Nodup ∧
        ∀ entity ∈ entities, ∀ p ∈ ps, ∃ o, outcome p entity = .ok o := by
  constructor
  · intro hex
    obtain ⟨s, h⟩ := hex
    obtain ⟨rows, hrows, hnodup, rfl⟩ := run_eq_ok_iff.1 h
    refine ⟨hrows.names_eq ▸ hnodup, fun entity hmem => ?_⟩
    exact exists_outcomes_iff.1 (exists_rows_iff.1 ⟨rows, hrows⟩ entity hmem)
  · intro hex
    obtain ⟨hnodup, h⟩ := hex
    obtain ⟨rows, hrows⟩ := exists_rows_iff.2 fun entity hmem =>
      exists_outcomes_iff.2 (h entity hmem)
    exact ⟨_, run_eq_ok_iff.2 ⟨rows, hrows, hrows.names_eq ▸ hnodup, rfl⟩⟩

end EntitySelection.Selection
