import EntitySelection.Proofs.Selection.Conservation
import EntitySelection.Proofs.Selection.Pointwise

/-!
# Selections decompose over the predicates

**Theorem (`run_decomposes`).** For a list with at least one predicate, an entity is selected in
the mode "all" exactly when each predicate alone selects it, in the mode "any" exactly when one
of them alone does, and is not applicable exactly when it is not applicable to each of them alone.

So the order of the predicates does not matter, a further predicate can only shrink the selection
in the mode "all" and only grow it in the mode "any", and the first lies within the second.

The heart is that an inapplicable predicate never counts as passed (`applicable_of_passed`): where
all of at least one predicate pass, one applies, so the test for applicability changes nothing.
-/

namespace EntitySelection.Selection

variable {ps qs : List Predicate} {idField : String} {mode : MatchMode} {entities : List Value}

/-! ## Single predicates -/

/-- The entity passes the predicate. -/
def Passes (entity : Value) (p : Predicate) : Prop :=
  ∃ o, outcome p entity = .ok o ∧ o.passed = true

/-- The predicate applies to the entity. -/
def Applies (entity : Value) (p : Predicate) : Prop :=
  ∃ o, outcome p entity = .ok o ∧ o.applicable = true

/-- Every predicate has an outcome on the entity. -/
def Defined (entity : Value) (ps : List Predicate) : Prop :=
  ∀ p ∈ ps, ∃ o, outcome p entity = .ok o

theorem Passes.applies {entity : Value} {p : Predicate} (h : Passes entity p) :
    Applies entity p := by
  obtain ⟨o, ho, hpass⟩ := h
  exact ⟨o, ho, applicable_of_passed ho hpass⟩

section Verdicts

variable {entity : Value}

theorem Defined.exists_outcomes (h : Defined entity ps) : ∃ os, outcomes ps entity = .ok os :=
  exists_outcomes_iff.2 h

theorem verdict_isApplicable_iff (h : Defined entity ps) :
    verdict isApplicable ps entity = true ↔ ∃ p ∈ ps, Applies entity p := by
  obtain ⟨os, hos⟩ := h.exists_outcomes
  rw [verdict_eq hos, isApplicable_iff hos]
  rfl

theorem verdict_notApplicable_iff (h : Defined entity ps) :
    verdict (fun os => !isApplicable os) ps entity = true ↔ ∀ p ∈ ps, ¬ Applies entity p := by
  obtain ⟨os, hos⟩ := h.exists_outcomes
  have happ := verdict_isApplicable_iff h
  rw [verdict_eq hos] at happ ⊢
  simp only [Bool.not_eq_true', ← Bool.not_eq_true, happ, not_exists, not_and]

theorem all_passed_iff (h : Defined entity ps) {os : List Outcome}
    (hos : outcomes ps entity = .ok os) :
    os.all (·.passed) = true ↔ ∀ p ∈ ps, Passes entity p := by
  rw [List.all_eq_true]
  constructor
  · intro hall p hp
    obtain ⟨o, ho⟩ := h p hp
    exact ⟨o, ho, hall o ((mem_outcomes_iff hos).2 ⟨p, hp, ho⟩)⟩
  · intro hall o ho
    obtain ⟨p, hp, hpo⟩ := (mem_outcomes_iff hos).1 ho
    obtain ⟨o', ho', hpass⟩ := hall p hp
    obtain rfl := Except.ok.inj (hpo.symm.trans ho')
    exact hpass

theorem any_passed_iff {os : List Outcome} (hos : outcomes ps entity = .ok os) :
    os.any (·.passed) = true ↔ ∃ p ∈ ps, Passes entity p := by
  rw [List.any_eq_true]
  constructor
  · intro h
    obtain ⟨o, ho, hpass⟩ := h
    obtain ⟨p, hp, hpo⟩ := (mem_outcomes_iff hos).1 ho
    exact ⟨p, hp, o, hpo, hpass⟩
  · intro h
    obtain ⟨p, hp, o, hpo, hpass⟩ := h
    exact ⟨o, (mem_outcomes_iff hos).2 ⟨p, hp, hpo⟩, hpass⟩

/-- With at least one predicate, the mode "all" asks that each passes. -/
theorem verdict_accepts_all_iff (hne : ps ≠ []) (h : Defined entity ps) :
    verdict (accepts .all) ps entity = true ↔ ∀ p ∈ ps, Passes entity p := by
  obtain ⟨os, hos⟩ := h.exists_outcomes
  have happ := verdict_isApplicable_iff h
  rw [verdict_eq hos] at happ ⊢
  rw [accepts, Bool.and_eq_true, happ, passes, all_passed_iff h hos]
  refine and_iff_right_of_imp fun hall => ?_
  obtain ⟨p, hp⟩ := List.exists_mem_of_ne_nil ps hne
  exact ⟨p, hp, (hall p hp).applies⟩

theorem verdict_accepts_any_iff (h : Defined entity ps) :
    verdict (accepts .any) ps entity = true ↔ ∃ p ∈ ps, Passes entity p := by
  obtain ⟨os, hos⟩ := h.exists_outcomes
  have happ := verdict_isApplicable_iff h
  rw [verdict_eq hos] at happ ⊢
  rw [accepts, Bool.and_eq_true, happ, passes, any_passed_iff hos]
  refine and_iff_right_of_imp ?_
  intro h
  obtain ⟨p, hp, hpass⟩ := h
  exact ⟨p, hp, hpass.applies⟩

/-- A single predicate selects the same entities in both modes. -/
theorem verdict_accepts_single_iff {p : Predicate} (h : Defined entity [p]) :
    verdict (accepts mode) [p] entity = true ↔ Passes entity p := by
  cases mode with
  | all => simpa using verdict_accepts_all_iff (List.cons_ne_nil p []) h
  | any => simpa using verdict_accepts_any_iff h

theorem verdict_refuses_iff (h : Defined entity ps) :
    verdict (refuses mode) ps entity = true ↔
      (∃ p ∈ ps, Applies entity p) ∧ ¬ verdict (accepts mode) ps entity = true := by
  obtain ⟨os, hos⟩ := h.exists_outcomes
  have happ := verdict_isApplicable_iff h
  rw [verdict_eq hos] at happ
  rw [verdict_eq hos, verdict_eq hos, ← happ]
  simp only [refuses, accepts, Bool.and_eq_true, Bool.not_eq_true']
  cases isApplicable os <;> simp

end Verdicts

/-! ## Whole selections -/

/-- How selections by several predicates are made up of those by each alone. -/
structure Decomposes (ids : List String) (ps : List Predicate) (all any : Selection)
    (single : Predicate → Selection) : Prop where
  selected_all : all.selectedIds = ids.filter fun k => ∀ p ∈ ps, k ∈ (single p).selectedIds
  selected_any : any.selectedIds = ids.filter fun k => ∃ p ∈ ps, k ∈ (single p).selectedIds
  notApplicable_all :
    all.notApplicableIds = ids.filter fun k => ∀ p ∈ ps, k ∈ (single p).notApplicableIds
  notApplicable_any :
    any.notApplicableIds = ids.filter fun k => ∀ p ∈ ps, k ∈ (single p).notApplicableIds

/-- Selections with the same three lists. -/
def SameIds (s t : Selection) : Prop :=
  s.selectedIds = t.selectedIds ∧ s.rejectedIds = t.rejectedIds ∧
    s.notApplicableIds = t.notApplicableIds

section Success

variable {s : Selection}

theorem ids_nodup_of_run (h : run mode ps idField entities = .ok s) :
    (ids idField entities).Nodup :=
  (exists_run_iff.1 ⟨s, h⟩).1

theorem defined_of_run (h : run mode ps idField entities = .ok s) :
    ∀ entity ∈ entities, Defined entity ps :=
  (exists_run_iff.1 ⟨s, h⟩).2

/-- Where a selection succeeds, so does any other that asks no further predicate. -/
theorem exists_run_of_subset (h : run mode ps idField entities = .ok s)
    (hsub : ∀ q ∈ qs, q ∈ ps) (m : MatchMode) : ∃ t, run m qs idField entities = .ok t :=
  exists_run_iff.2 ⟨ids_nodup_of_run h,
    fun entity hmem q hq => defined_of_run h entity hmem q (hsub q hq)⟩

theorem decomposes {all any : Selection} {single : Predicate → Selection} (hne : ps ≠ [])
    (hall : run .all ps idField entities = .ok all)
    (hany : run .any ps idField entities = .ok any)
    (hsingle : ∀ p ∈ ps, run mode [p] idField entities = .ok (single p)) :
    Decomposes (ids idField entities) ps all any single := by
  have hnodup := ids_nodup_of_run hall
  have hdef := defined_of_run hall
  have hdef₁ : ∀ entity ∈ entities, ∀ p ∈ ps, Defined entity [p] := fun entity hmem p hp q hq =>
    hdef entity hmem q (List.mem_singleton.1 hq ▸ hp)
  -- Each single list, asked for one id.
  have hselected : ∀ k entity, (k, entity) ∈ labelled idField entities → ∀ p ∈ ps,
      (k ∈ (single p).selectedIds ↔ Passes entity p) := fun k entity hmem p hp => by
    rw [(run_pointwise (hsingle p hp)).1, mem_idsWhere_iff hnodup hmem]
    exact verdict_accepts_single_iff (hdef₁ entity (mem_of_mem_labelled hmem) p hp)
  have hnot : ∀ k entity, (k, entity) ∈ labelled idField entities → ∀ p ∈ ps,
      (k ∈ (single p).notApplicableIds ↔ ¬ Applies entity p) := fun k entity hmem p hp => by
    rw [(run_pointwise (hsingle p hp)).2.2, mem_idsWhere_iff hnodup hmem,
      verdict_notApplicable_iff (hdef₁ entity (mem_of_mem_labelled hmem) p hp)]
    simp
  have hnone : idsWhere (fun os => !isApplicable os) ps idField entities =
      (ids idField entities).filter fun k => ∀ p ∈ ps, k ∈ (single p).notApplicableIds :=
    idsWhere_eq_filter fun k entity hmem => by
      rw [verdict_notApplicable_iff (hdef entity (mem_of_mem_labelled hmem)), decide_eq_true_eq]
      exact forall₂_congr fun p hp => (hnot k entity hmem p hp).symm
  exact {
    selected_all := by
      rw [(run_pointwise hall).1]
      refine idsWhere_eq_filter fun k entity hmem => ?_
      rw [verdict_accepts_all_iff hne (hdef entity (mem_of_mem_labelled hmem)),
        decide_eq_true_eq]
      exact forall₂_congr fun p hp => (hselected k entity hmem p hp).symm
    selected_any := by
      rw [(run_pointwise hany).1]
      refine idsWhere_eq_filter fun k entity hmem => ?_
      rw [verdict_accepts_any_iff (hdef entity (mem_of_mem_labelled hmem)), decide_eq_true_eq]
      exact exists_congr fun p => and_congr_right fun hp => (hselected k entity hmem p hp).symm
    notApplicable_all := (run_pointwise hall).2.2.trans hnone
    notApplicable_any := (run_pointwise hany).2.2.trans hnone }

/-- The mode "all" with more predicates selects no further entity. -/
theorem selectedIds_all_sublist {t : Selection} (hne : ps ≠ []) (hsub : ∀ p ∈ ps, p ∈ qs)
    (hs : run .all ps idField entities = .ok s) (ht : run .all qs idField entities = .ok t) :
    t.selectedIds.Sublist s.selectedIds := by
  rw [(run_pointwise hs).1, (run_pointwise ht).1]
  refine idsWhere_sublist fun entity hmem hv => ?_
  have hne' : qs ≠ [] := by
    obtain ⟨p, hp⟩ := List.exists_mem_of_ne_nil ps hne
    exact List.ne_nil_of_mem (hsub p hp)
  have hall := (verdict_accepts_all_iff hne' (defined_of_run ht entity hmem)).1 hv
  exact (verdict_accepts_all_iff hne (defined_of_run hs entity hmem)).2
    fun p hp => hall p (hsub p hp)

/-- The mode "any" with more predicates loses no selected entity. -/
theorem selectedIds_any_sublist {t : Selection} (hsub : ∀ p ∈ ps, p ∈ qs)
    (hs : run .any ps idField entities = .ok s) (ht : run .any qs idField entities = .ok t) :
    s.selectedIds.Sublist t.selectedIds := by
  rw [(run_pointwise hs).1, (run_pointwise ht).1]
  refine idsWhere_sublist fun entity hmem hv => ?_
  obtain ⟨p, hp, hpass⟩ := (verdict_accepts_any_iff (defined_of_run hs entity hmem)).1 hv
  exact (verdict_accepts_any_iff (defined_of_run ht entity hmem)).2 ⟨p, hsub p hp, hpass⟩

theorem selectedIds_all_sublist_any {t : Selection} (hne : ps ≠ [])
    (hs : run .all ps idField entities = .ok s) (ht : run .any ps idField entities = .ok t) :
    s.selectedIds.Sublist t.selectedIds := by
  rw [(run_pointwise hs).1, (run_pointwise ht).1]
  refine idsWhere_sublist fun entity hmem hv => ?_
  have hall := (verdict_accepts_all_iff hne (defined_of_run hs entity hmem)).1 hv
  obtain ⟨p, hp⟩ := List.exists_mem_of_ne_nil ps hne
  exact (verdict_accepts_any_iff (defined_of_run ht entity hmem)).2 ⟨p, hp, hall p hp⟩

/-- The lists depend on which predicates there are, not on their order. -/
theorem sameIds_of_mem_iff {t : Selection} (hne : ps ≠ []) (hsame : ∀ p, p ∈ ps ↔ p ∈ qs)
    (hs : run mode ps idField entities = .ok s) (ht : run mode qs idField entities = .ok t) :
    SameIds s t := by
  have hne' : qs ≠ [] := by
    obtain ⟨p, hp⟩ := List.exists_mem_of_ne_nil ps hne
    exact List.ne_nil_of_mem ((hsame p).1 hp)
  have hsdef := defined_of_run hs
  have htdef := defined_of_run ht
  have haccepts : ∀ entity ∈ entities,
      verdict (accepts mode) ps entity = true ↔ verdict (accepts mode) qs entity = true := by
    intro entity hmem
    cases mode with
    | all =>
      rw [verdict_accepts_all_iff hne (hsdef entity hmem),
        verdict_accepts_all_iff hne' (htdef entity hmem)]
      simp only [hsame]
    | any =>
      rw [verdict_accepts_any_iff (hsdef entity hmem),
        verdict_accepts_any_iff (htdef entity hmem)]
      simp only [hsame]
  obtain ⟨hs₁, hs₂, hs₃⟩ := run_pointwise hs
  obtain ⟨ht₁, ht₂, ht₃⟩ := run_pointwise ht
  refine ⟨?_, ?_, ?_⟩
  · rw [hs₁, ht₁]
    exact idsWhere_congr haccepts
  · rw [hs₂, ht₂]
    refine idsWhere_congr fun entity hmem => ?_
    rw [verdict_refuses_iff (hsdef entity hmem), verdict_refuses_iff (htdef entity hmem),
      haccepts entity hmem]
    simp only [hsame]
  · rw [hs₃, ht₃]
    refine idsWhere_congr fun entity hmem => ?_
    rw [verdict_notApplicable_iff (hsdef entity hmem),
      verdict_notApplicable_iff (htdef entity hmem)]
    simp only [hsame]

end Success

/-- **Selections decompose.** Where a selection by at least one predicate succeeds, it succeeds
in both modes, for each predicate alone, for every order of the predicates, and is made up of the
selections by each predicate alone. Further predicates shrink it in the mode "all" and grow it
in the mode "any", and the mode "all" selects within the mode "any". -/
theorem run_decomposes {s : Selection} (hne : ps ≠ [])
    (h : run mode ps idField entities = .ok s) :
    ∃ all any, run .all ps idField entities = .ok all ∧ run .any ps idField entities = .ok any ∧
      (∀ m, ∃ single : Predicate → Selection,
        (∀ p ∈ ps, run m [p] idField entities = .ok (single p)) ∧
          Decomposes (ids idField entities) ps all any single) ∧
      (∀ m qs, qs.Perm ps → ∃ t u, run m ps idField entities = .ok t ∧
        run m qs idField entities = .ok u ∧ SameIds t u) ∧
      (∀ qs t, (∀ p ∈ ps, p ∈ qs) → run .all qs idField entities = .ok t →
        t.selectedIds.Sublist all.selectedIds) ∧
      (∀ qs t, (∀ p ∈ ps, p ∈ qs) → run .any qs idField entities = .ok t →
        any.selectedIds.Sublist t.selectedIds) ∧
      all.selectedIds.Sublist any.selectedIds := by
  obtain ⟨all, hall⟩ := exists_run_of_subset h (fun _ hp => hp) .all
  obtain ⟨any, hany⟩ := exists_run_of_subset h (fun _ hp => hp) .any
  refine ⟨all, any, hall, hany, fun m => ?_, fun m qs hperm => ?_, ?_, ?_, ?_⟩
  · have hexists : ∀ p, ∃ t, p ∈ ps → run m [p] idField entities = .ok t := fun p => by
      by_cases hp : p ∈ ps
      · obtain ⟨t, ht⟩ := exists_run_of_subset h (fun q hq => List.mem_singleton.1 hq ▸ hp) m
        exact ⟨t, fun _ => ht⟩
      · exact ⟨start m, fun hp' => absurd hp' hp⟩
    choose single hsingle using hexists
    exact ⟨single, hsingle, decomposes hne hall hany hsingle⟩
  · obtain ⟨t, ht⟩ := exists_run_of_subset h (fun _ hp => hp) m
    obtain ⟨u, hu⟩ := exists_run_of_subset h (fun _ hq => hperm.mem_iff.1 hq) m
    exact ⟨t, u, ht, hu, sameIds_of_mem_iff hne (fun _ => hperm.mem_iff.symm) ht hu⟩
  · exact fun qs t hsub ht => selectedIds_all_sublist hne hsub hall ht
  · exact fun qs t hsub ht => selectedIds_any_sublist hsub hany ht
  · exact selectedIds_all_sublist_any hne hall hany

/-- Passes where there is an id. It applies everywhere. -/
def tagged : Predicate := .presence (fun v => .ok ((v.attribute? "id").getD .null)) "tagged"

/-- The crate without a mass is selected by one of two predicates, and the other one does not
apply to it. -/
theorem decomposes_taggedCrates :
    [heavy, tagged] ≠ [] ∧
      ∃ all any, run .all [heavy, tagged] "id" crates = .ok all ∧
        run .any [heavy, tagged] "id" crates = .ok any ∧
        all.selectedIds = ["a"] ∧ any.selectedIds = ["a", "c"] ∧
        ∃ single : Predicate → Selection,
          (∀ p ∈ [heavy, tagged], run .all [p] "id" crates = .ok (single p)) ∧
            Decomposes (ids "id" crates) [heavy, tagged] all any single := by
  have hne : [heavy, tagged] ≠ [] := List.cons_ne_nil _ _
  obtain ⟨s, h, hselected⟩ : ∃ s, run .any [heavy, tagged] "id" crates = .ok s ∧
      s.selectedIds = ["a", "c"] := ⟨_, rfl, rfl⟩
  obtain ⟨all, any, hall, hany, hdec, -⟩ := run_decomposes hne h
  obtain ⟨t, ht, htselected⟩ : ∃ t, run .all [heavy, tagged] "id" crates = .ok t ∧
      t.selectedIds = ["a"] := ⟨_, rfl, rfl⟩
  obtain rfl := Except.ok.inj (hany.symm.trans h)
  obtain rfl := Except.ok.inj (hall.symm.trans ht)
  exact ⟨hne, all, any, hall, hany, htselected, hselected, hdec .all⟩

end EntitySelection.Selection
