import EntitySelection.Proofs.Selection.Conservation
import Mathlib.Data.List.Perm.Basic

/-!
# Entities do not depend on their neighbours

**Theorem (`run_neighbours`).** Let every entity have an id of its own. Whether a selection fails
does not depend on the order of the entities. Where it succeeds, an entity has the same result in
every order, and each list of ids is put into the new order. A selection among two lists of
entities, one after the other, is made up of the selections among each.

An id of one's own does not depend on the position (`entityId_eq`), so the rows of a selection are
those of its entities one by one (`rows_iff_forall₂`). A new order of the entities is then a new
order of the rows, and two lists of entities have their rows one after the other. Whether the ids
are pairwise different depends on neither.
-/

namespace EntitySelection.Selection

variable {ps : List Predicate} {idField : String} {mode reported : MatchMode}
  {xs ys : List Value} {rows more : List (String × List Outcome)}

/-! ## Entities with an id of their own -/

/-- The entity has an id: its id field is there and is not null. -/
def Identified (idField : String) (entity : Value) : Prop :=
  ∃ v, entity.attribute? idField = some v ∧ v ≠ .null

theorem entityId_eq {entity : Value} (h : Identified idField entity) (i j : Nat) :
    entityId idField i entity = entityId idField j entity := by
  obtain ⟨v, hv, hne⟩ := h
  cases v with
  | null => exact absurd rfl hne
  | _ => simp [entityId, hv, Value.isNull]

/-- The id and the outcomes of an entity that has an id. -/
def IsRow (ps : List Predicate) (idField : String) (entity : Value)
    (row : String × List Outcome) : Prop :=
  row.1 = entityId idField 0 entity ∧ outcomes ps entity = .ok row.2

/-- Positions do not matter to the rows. -/
theorem rows_iff_forall₂ {position : Nat} (hid : ∀ entity ∈ xs, Identified idField entity) :
    Rows ps idField position xs rows ↔ List.Forall₂ (IsRow ps idField) xs rows := by
  constructor
  · intro h
    induction h with
    | nil => exact .nil
    | cons hos _ ih =>
      rw [List.forall_mem_cons] at hid
      exact .cons ⟨entityId_eq hid.1 _ 0, hos⟩ (ih hid.2)
  · intro h
    induction h generalizing position with
    | nil => exact .nil position
    | @cons entity row rest rows hrow _ ih =>
      rw [List.forall_mem_cons] at hid
      obtain ⟨hname, hos⟩ := hrow
      have hrow : row = (entityId idField position entity, row.2) :=
        Prod.ext (hname.trans (entityId_eq hid.1 0 position)) rfl
      rw [hrow]
      exact .cons hos (ih hid.2)

/-! ## Another order -/

/-- Ids of a list, in the order of another one. -/
def Reordered (order ks ls : List String) : Prop := ls.Perm ks ∧ ls = order.filter (· ∈ ks)

/-- What the selection `s` among the entities `xs` is for the same entities in the order `ys`. -/
structure Rearranges (idField : String) (xs ys : List Value) (s t : Selection) : Prop where
  same : ∀ i j entity, xs[i]? = some entity → ys[j]? = some entity →
    ∃ e, s.results.lookup (entityId idField i entity) = some e ∧
      t.results.lookup (entityId idField j entity) = some e
  results : t.results.Perm s.results
  keys : Named.names t.results = ids idField ys
  selected : Reordered (ids idField ys) s.selectedIds t.selectedIds
  rejected : Reordered (ids idField ys) s.rejectedIds t.rejectedIds
  notApplicable : Reordered (ids idField ys) s.notApplicableIds t.notApplicableIds

theorem reordered_names_filter (h : more.Perm rows) (hnodup : (Named.names more).Nodup)
    (a : String × List Outcome → Bool) :
    Reordered (Named.names more) (Named.names (rows.filter a)) (Named.names (more.filter a)) := by
  have hperm : (Named.names (more.filter a)).Perm (Named.names (rows.filter a)) :=
    (h.filter a).map _
  refine ⟨hperm, ?_⟩
  change (more.filter a).map Prod.fst = (more.map Prod.fst).filter _
  rw [List.filter_map]
  congr 1
  refine List.filter_congr fun row hrow => ?_
  rw [Bool.eq_iff_iff, Function.comp, decide_eq_true_iff, ← hperm.mem_iff, mem_names_filter]
  constructor
  · intro ha
    exact ⟨row.2, hrow, ha⟩
  · intro hex
    obtain ⟨os, hmem, ha⟩ := hex
    obtain rfl := eq_of_mem_rows hnodup hmem hrow
    exact ha

/-- Where a selection succeeds, it succeeds in every order. -/
theorem exists_run_of_perm (hid : ∀ entity ∈ xs, Identified idField entity) (hperm : ys.Perm xs)
    {s : Selection} (h : run mode ps idField xs = .ok s) :
    ∃ t, run mode ps idField ys = .ok t ∧ Rearranges idField xs ys s t := by
  obtain ⟨rows, hrows, hnodup, rfl⟩ := run_eq_ok_iff.1 h
  obtain ⟨more, hmore, hrowsPerm⟩ := List.perm_comp_forall₂ hperm ((rows_iff_forall₂ hid).1 hrows)
  have hrows' : Rows ps idField 0 ys more :=
    (rows_iff_forall₂ fun entity he => hid entity (hperm.mem_iff.1 he)).2 hmore
  have hnodup' : (Named.names more).Nodup := (hrowsPerm.map _).nodup_iff.2 hnodup
  have ht : run mode ps idField ys = .ok (table mode mode more) :=
    run_eq_ok_iff.2 ⟨more, hrows', hnodup', rfl⟩
  refine ⟨_, ht, ?_⟩
  exact {
    same := fun i j entity hi hj => by
      obtain ⟨os, hos, hs⟩ := exists_result h hi
      obtain ⟨os', hos', ht⟩ := exists_result ht hj
      obtain rfl := Except.ok.inj (hos.symm.trans hos')
      rw [entityId_eq (hid entity (List.mem_of_getElem? hi)) j i] at ht ⊢
      exact ⟨_, hs, ht⟩
    results := hrowsPerm.map _
    keys := (names_results_table mode mode more).trans hrows'.names_eq
    selected := hrows'.names_eq ▸ reordered_names_filter hrowsPerm hnodup' _
    rejected := hrows'.names_eq ▸ reordered_names_filter hrowsPerm hnodup' _
    notApplicable := hrows'.names_eq ▸ reordered_names_filter hrowsPerm hnodup' _ }

/-! ## One list after another -/

/-- The selection `u` is the selection `s` followed by the selection `t`. -/
structure Joins (s t u : Selection) : Prop where
  selected : u.selectedIds = s.selectedIds ++ t.selectedIds
  rejected : u.rejectedIds = s.rejectedIds ++ t.rejectedIds
  notApplicable : u.notApplicableIds = s.notApplicableIds ++ t.notApplicableIds
  results : u.results = s.results ++ t.results

theorem joins_table (rows more : List (String × List Outcome)) :
    Joins (table reported mode rows) (table reported mode more)
      (table reported mode (rows ++ more)) := by
  constructor <;> simp [table]

theorem exists_runs_of_append (hid : ∀ entity ∈ xs ++ ys, Identified idField entity)
    {u : Selection} (h : run mode ps idField (xs ++ ys) = .ok u) :
    ∃ s t, run mode ps idField xs = .ok s ∧ run mode ps idField ys = .ok t ∧ Joins s t u := by
  obtain ⟨both, hrows, hnodup, rfl⟩ := run_eq_ok_iff.1 h
  have hboth := (rows_iff_forall₂ hid).1 hrows
  -- The rows of the first list are as many as its entities.
  obtain ⟨rows, more, rfl, hfirst, hsecond⟩ : ∃ rows more, both = rows ++ more ∧
      List.Forall₂ (IsRow ps idField) xs rows ∧ List.Forall₂ (IsRow ps idField) ys more := by
    refine ⟨_, _, (List.take_append_drop xs.length both).symm, ?_, ?_⟩
    · simpa using List.forall₂_take xs.length hboth
    · simpa using List.forall₂_drop xs.length hboth
  rw [Named.names_append, List.nodup_append] at hnodup
  rw [List.forall_mem_append] at hid
  exact ⟨_, _, run_eq_ok_iff.2 ⟨rows, (rows_iff_forall₂ hid.1).2 hfirst, hnodup.1, rfl⟩,
    run_eq_ok_iff.2 ⟨more, (rows_iff_forall₂ hid.2).2 hsecond, hnodup.2.1, rfl⟩,
    joins_table rows more⟩

/-! ## Neighbours -/

/-- **An entity with an id does not depend on its neighbours.** Whether a selection fails does not
depend on the order, and neither does the result of an entity; selections among two lists are
joined into the selection among both. -/
theorem run_neighbours (hid : ∀ entity ∈ xs, Identified idField entity) :
    (∀ ys, ys.Perm xs →
      ((∃ f, run mode ps idField xs = .error f) ↔ ∃ f, run mode ps idField ys = .error f) ∧
        ∀ s t, run mode ps idField xs = .ok s → run mode ps idField ys = .ok t →
          Rearranges idField xs ys s t) ∧
      ∀ ys zs u, xs = ys ++ zs → run mode ps idField xs = .ok u →
        ∃ s t, run mode ps idField ys = .ok s ∧ run mode ps idField zs = .ok t ∧ Joins s t u := by
  refine ⟨fun ys hperm => ⟨?_, fun s t hs ht => ?_⟩, ?_⟩
  · have hid' : ∀ entity ∈ ys, Identified idField entity :=
      fun entity he => hid entity (hperm.mem_iff.1 he)
    rw [exists_error_iff, exists_error_iff, not_iff_not]
    constructor
    · intro h
      obtain ⟨s, hs⟩ := h
      obtain ⟨t, ht, -⟩ := exists_run_of_perm hid hperm hs
      exact ⟨t, ht⟩
    · intro h
      obtain ⟨t, ht⟩ := h
      obtain ⟨s, hs, -⟩ := exists_run_of_perm hid' hperm.symm ht
      exact ⟨s, hs⟩
  · obtain ⟨t', ht', hre⟩ := exists_run_of_perm hid hperm hs
    obtain rfl := Except.ok.inj (ht.symm.trans ht')
    exact hre
  · rintro ys zs u rfl hu
    exact exists_runs_of_append hid hu

/-- A crate of a name and a mass. -/
def crate (name : String) (mass : Int) : Value :=
  .map [(.text "id", .text name), (.text "mass", .int mass)]

/-- Two heavy crates with a light one between them. -/
def namedCrates : List Value := [crate "a" 5, crate "b" 1, crate "c" 4]

theorem neighbours_namedCrates :
    (∀ entity ∈ namedCrates, Identified "id" entity) ∧
      namedCrates.reverse.Perm namedCrates ∧
      ∃ s t, run .all [heavy] "id" namedCrates = .ok s ∧
        run .all [heavy] "id" namedCrates.reverse = .ok t ∧
        s.selectedIds = ["a", "c"] ∧ t.selectedIds = ["c", "a"] ∧
        Rearranges "id" namedCrates namedCrates.reverse s t ∧
        ∃ u v, run .all [heavy] "id" [crate "a" 5] = .ok u ∧
          run .all [heavy] "id" [crate "b" 1, crate "c" 4] = .ok v ∧ Joins u v s := by
  have hid : ∀ entity ∈ namedCrates, Identified "id" entity := by
    simp only [namedCrates, List.forall_mem_cons]
    exact ⟨⟨_, rfl, nofun⟩, ⟨_, rfl, nofun⟩, ⟨_, rfl, nofun⟩, nofun⟩
  have hperm := List.reverse_perm namedCrates
  obtain ⟨s, hs, hselected⟩ : ∃ s, run .all [heavy] "id" namedCrates = .ok s ∧
      s.selectedIds = ["a", "c"] := ⟨_, rfl, rfl⟩
  obtain ⟨t, ht, htselected⟩ : ∃ t, run .all [heavy] "id" namedCrates.reverse = .ok t ∧
      t.selectedIds = ["c", "a"] := ⟨_, rfl, rfl⟩
  exact ⟨hid, hperm, s, t, hs, ht, hselected, htselected,
    ((run_neighbours hid).1 _ hperm).2 s t hs ht, (run_neighbours hid).2 _ _ s rfl hs⟩

end EntitySelection.Selection
