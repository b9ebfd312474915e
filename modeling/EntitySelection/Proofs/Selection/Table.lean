import EntitySelection.Proofs.Success
import EntitySelection.Selection
import Mathlib.Data.List.Nodup

/-!
# Selections as tables

A finished selection is determined by its *rows*: the id of each entity with its outcomes, in
the order of the entities. The three lists of ids and the results are read off the rows.

**Theorem (`run_eq_ok_iff`).** A selection succeeds exactly when every entity has outcomes and no
two entities have the same id. It is then the table of its rows.

The loop is followed one entity at a time: `step_table_iff` says what one step does to a table,
and `runFrom_table_iff` carries it along the entities.
-/

namespace EntitySelection.Selection

/-! ## Tables -/

/-- Whether an entity of these outcomes is selected. -/
def accepts (mode : MatchMode) (os : List Outcome) : Bool := isApplicable os && passes mode os

/-- Whether an entity of these outcomes is rejected. -/
def refuses (mode : MatchMode) (os : List Outcome) : Bool := isApplicable os && !passes mode os

/-- The result of an entity under a mode. -/
def resultOf (mode : MatchMode) (id : String) (os : List Outcome) : EntityResult :=
  ⟨id, accepts mode os, os⟩

/-- The selection of the given rows. -/
def table (reported mode : MatchMode) (rows : List (String × List Outcome)) : Selection where
  mode := reported
  selectedIds := Named.names (rows.filter fun row => accepts mode row.2)
  rejectedIds := Named.names (rows.filter fun row => refuses mode row.2)
  notApplicableIds := Named.names (rows.filter fun row => !isApplicable row.2)
  results := rows.map fun row => (row.1, resultOf mode row.1 row.2)

theorem table_nil (reported mode : MatchMode) : table reported mode [] = start reported := rfl

theorem names_results_table (reported mode : MatchMode) (rows : List (String × List Outcome)) :
    Named.names (table reported mode rows).results = Named.names rows := by
  simp [table, Named.names]

/-- Entering a new id adds a row. -/
theorem enter_table (reported mode : MatchMode) {rows : List (String × List Outcome)}
    {id : String} (os : List Outcome) (h : id ∉ Named.names rows) :
    (table reported mode rows).enter mode id os = table reported mode (rows ++ [(id, os)]) := by
  have hput (e : EntityResult) : Named.put (table reported mode rows).results id e =
      (table reported mode rows).results ++ [(id, e)] :=
    Named.put_of_not_mem e (by rwa [names_results_table])
  unfold enter
  rw [hput, hput]
  -- One branch for each of the three lists.
  by_cases ha : isApplicable os
  · by_cases hp : passes mode os
    · simp [table, resultOf, accepts, refuses, Named.names, ha, hp]
    · simp [table, resultOf, accepts, refuses, Named.names, ha, hp]
  · simp [table, resultOf, accepts, refuses, Named.names, ha]

/-! ## Rows -/

variable {ps : List Predicate} {idField : String}

/-- The rows of the entities from a position on. -/
inductive Rows (ps : List Predicate) (idField : String) :
    Nat → List Value → List (String × List Outcome) → Prop
  | nil (position : Nat) : Rows ps idField position [] []
  | cons {position : Nat} {entity : Value} {rest : List Value} {os : List Outcome}
      {rows : List (String × List Outcome)} :
      outcomes ps entity = .ok os → Rows ps idField (position + 1) rest rows →
      Rows ps idField position (entity :: rest)
        ((entityId idField position entity, os) :: rows)

/-- The ids of the entities, in order. -/
def ids (idField : String) (entities : List Value) : List String :=
  entities.mapIdx (entityId idField)

theorem Rows.names_eq_mapIdx {position : Nat} {entities : List Value}
    {rows : List (String × List Outcome)} (h : Rows ps idField position entities rows) :
    Named.names rows = entities.mapIdx fun i e => entityId idField (position + i) e := by
  induction h with
  | nil => rfl
  | @cons position entity rest os rows _ _ ih =>
    rw [List.mapIdx_cons, Named.names, List.map_cons]
    refine congrArg₂ List.cons rfl ?_
    rw [← Named.names, ih]
    congr 1
    funext i e
    congr 1
    omega

theorem Rows.names_eq {entities : List Value} {rows : List (String × List Outcome)}
    (h : Rows ps idField 0 entities rows) : Named.names rows = ids idField entities := by
  rw [h.names_eq_mapIdx]
  simp [ids]

theorem Rows.length_eq {position : Nat} {entities : List Value}
    {rows : List (String × List Outcome)} (h : Rows ps idField position entities rows) :
    rows.length = entities.length := by
  induction h with
  | nil => rfl
  | cons _ _ ih => simp [ih]

/-- The row of the entity at a place. -/
theorem Rows.getElem? {position i : Nat} {entities : List Value} {entity : Value}
    {rows : List (String × List Outcome)} (h : Rows ps idField position entities rows)
    (hi : entities[i]? = some entity) :
    ∃ os, outcomes ps entity = .ok os ∧
      rows[i]? = some (entityId idField (position + i) entity, os) := by
  induction h generalizing i with
  | nil => simp at hi
  | @cons position first rest os rows hos _ ih =>
    cases i with
    | zero =>
      obtain rfl : first = entity := by simpa using hi
      exact ⟨os, hos, rfl⟩
    | succ i =>
      obtain ⟨os', hos', hrow⟩ := ih (by simpa using hi)
      refine ⟨os', hos', ?_⟩
      rw [List.getElem?_cons_succ, hrow, show position + 1 + i = position + (i + 1) by omega]

/-- Every row is that of an entity. -/
theorem Rows.exists_entity {position : Nat} {entities : List Value} {row : String × List Outcome}
    {rows : List (String × List Outcome)} (h : Rows ps idField position entities rows)
    (hrow : row ∈ rows) : ∃ entity ∈ entities, outcomes ps entity = .ok row.2 := by
  induction h with
  | nil => simp at hrow
  | @cons position first rest os rows hos _ ih =>
    rcases List.mem_cons.1 hrow with rfl | hrow
    · exact ⟨first, List.mem_cons_self, hos⟩
    · obtain ⟨entity, hmem, he⟩ := ih hrow
      exact ⟨entity, List.mem_cons_of_mem _ hmem, he⟩

/-! ## The loop builds the table -/

/-- One step adds a row, unless its id is there already. -/
theorem step_table_iff (reported mode : MatchMode) {rows : List (String × List Outcome)}
    {position : Nat} {entity : Value} {t : Selection} :
    step mode ps idField (table reported mode rows) position entity = .ok t ↔
      entityId idField position entity ∉ Named.names rows ∧
        ∃ os, outcomes ps entity = .ok os ∧
          t = table reported mode (rows ++ [(entityId idField position entity, os)]) := by
  have hseen : (((table reported mode rows).results.lookup
      (entityId idField position entity)).isSome = true) ↔
      entityId idField position entity ∈ Named.names rows := by
    rw [Named.lookup_isSome_iff, names_results_table]
  unfold step
  by_cases hid : entityId idField position entity ∈ Named.names rows
  · rw [if_pos (hseen.2 hid)]
    simp [hid]
  · rw [if_neg fun h => hid (hseen.1 h), bind_eq_ok_iff]
    constructor
    · intro h
      obtain ⟨os, hos, ht⟩ := h
      exact ⟨hid, os, hos, by rw [← pure_eq_ok_iff.1 ht, enter_table reported mode os hid]⟩
    · intro h
      obtain ⟨-, os, hos, rfl⟩ := h
      exact ⟨os, hos, by rw [enter_table reported mode os hid]; rfl⟩

/-- A run from a table adds the rows of the entities. -/
theorem runFrom_table_iff (reported mode : MatchMode) {rows : List (String × List Outcome)}
    {position : Nat} {entities : List Value} {t : Selection} (hrows : (Named.names rows).Nodup) :
    runFrom mode ps idField (table reported mode rows) position entities = .ok t ↔
      ∃ more, Rows ps idField position entities more ∧ (Named.names (rows ++ more)).Nodup ∧
        t = table reported mode (rows ++ more) := by
  induction entities generalizing rows position t with
  | nil =>
    constructor
    · intro h
      refine ⟨[], .nil position, by simpa using hrows, ?_⟩
      rw [List.append_nil]
      exact (Except.ok.inj h).symm
    · intro h
      obtain ⟨more, hmore, -, rfl⟩ := h
      cases hmore
      simp [runFrom]
  | cons entity rest ih =>
    rw [runFrom, bind_eq_ok_iff]
    constructor
    · intro h
      obtain ⟨u, hu, ht⟩ := h
      obtain ⟨hid, os, hos, rfl⟩ := (step_table_iff reported mode).1 hu
      have hnext : (Named.names (rows ++ [(entityId idField position entity, os)])).Nodup := by
        rw [Named.names_append, Named.names_cons, Named.names_nil, List.nodup_append]
        refine ⟨hrows, List.nodup_singleton _, fun id hmem other hother => ?_⟩
        rintro rfl
        obtain rfl := List.mem_singleton.1 hother
        exact hid hmem
      obtain ⟨more, hmore, hnodup, rfl⟩ := (ih hnext).1 ht
      exact ⟨_, .cons hos hmore, by simpa using hnodup, by simp⟩
    · intro hex
      obtain ⟨more, hmore, hnodup, rfl⟩ := hex
      cases hmore with
      | @cons _ _ _ os more hos hmore =>
        rw [List.append_cons] at hnodup ⊢
        have hnext := (List.nodup_append.1 (Named.names_append _ more ▸ hnodup)).1
        have hid : entityId idField position entity ∉ Named.names rows := by
          rw [Named.names_append, Named.names_cons, Named.names_nil] at hnext
          exact fun h => (List.nodup_append.1 hnext).2.2 _ h _ List.mem_cons_self rfl
        exact ⟨_, (step_table_iff reported mode).2 ⟨hid, os, hos, rfl⟩,
          (ih hnext).2 ⟨more, hmore, hnodup, rfl⟩⟩

/-- **A selection is the table of its rows.** It succeeds when every entity has outcomes and no
two entities have the same id. -/
theorem run_eq_ok_iff {mode : MatchMode} {entities : List Value} {s : Selection} :
    run mode ps idField entities = .ok s ↔
      ∃ rows, Rows ps idField 0 entities rows ∧ (Named.names rows).Nodup ∧
        s = table mode mode rows := by
  have hnone : (Named.names ([] : List (String × List Outcome))).Nodup := by simp
  rw [run, ← table_nil mode mode]
  exact runFrom_table_iff mode mode hnone

end EntitySelection.Selection
