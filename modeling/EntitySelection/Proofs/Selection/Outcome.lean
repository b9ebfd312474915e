import EntitySelection.Proofs.Success
import EntitySelection.Selection

/-!
# Outcomes of one entity

An outcome records what a predicate answered: its name, its description, whether it applies and,
only where it applies, whether the entity passes (`outcome_eq_ok_iff`). An entity has one outcome
for each predicate, in order (`outcomes_eq_ok_iff`).
-/

namespace EntitySelection.Selection

variable {p : Predicate} {ps qs : List Predicate} {entity : Value} {o : Outcome}
  {os : List Outcome}

theorem outcome_eq_ok_iff : outcome p entity = .ok o ↔
    o.predicate = p.name ∧ p.describe = .ok o.description ∧
      p.applicable entity = .ok o.applicable ∧
      (if o.applicable then p.test entity = .ok o.passed else o.passed = false) := by
  have hpassed (applicable passed : Bool) : passedWhere applicable p entity = .ok passed ↔
      (if applicable then p.test entity = .ok passed else passed = false) := by
    cases applicable <;> simp [passedWhere]
  unfold outcome
  simp only [bind_eq_ok_iff, hpassed]
  constructor
  · intro h
    obtain ⟨applicable, happ, description, hdesc, passed, hpass, ho⟩ := h
    obtain rfl := pure_eq_ok_iff.1 ho
    exact ⟨rfl, hdesc, happ, hpass⟩
  · intro h
    obtain ⟨hname, hdesc, happ, hpass⟩ := h
    exact ⟨_, happ, _, hdesc, _, hpass, by rw [← hname]; rfl⟩

/-- A predicate passes only where it applies. -/
theorem applicable_of_passed (h : outcome p entity = .ok o) (hp : o.passed = true) :
    o.applicable = true := by
  obtain ⟨-, -, -, hpass⟩ := outcome_eq_ok_iff.1 h
  by_contra hna
  rw [if_neg hna] at hpass
  simp [hp] at hpass

theorem outcomes_eq_ok_iff :
    outcomes ps entity = .ok os ↔ List.Forall₂ (fun p o => outcome p entity = .ok o) ps os :=
  mapM_eq_ok_iff

theorem predicates_of_outcomes (h : outcomes ps entity = .ok os) :
    os.map (·.predicate) = ps.map (·.name) := by
  replace h := outcomes_eq_ok_iff.1 h
  induction h with
  | nil => rfl
  | cons ho _ ih =>
    rw [List.map_cons, List.map_cons, ih, (outcome_eq_ok_iff.1 ho).1]

/-- The outcomes are those of the predicates, whatever their order and number. -/
theorem mem_outcomes_iff (h : outcomes ps entity = .ok os) :
    o ∈ os ↔ ∃ p ∈ ps, outcome p entity = .ok o := by
  replace h := outcomes_eq_ok_iff.1 h
  induction h with
  | nil => simp
  | @cons p first ps os hfirst _ ih =>
    refine (List.mem_cons.trans (or_congr_right ih)).trans ?_
    constructor
    · intro h
      rcases h with rfl | ⟨q, hq, ho⟩
      · exact ⟨p, List.mem_cons_self, hfirst⟩
      · exact ⟨q, List.mem_cons_of_mem _ hq, ho⟩
    · intro h
      obtain ⟨q, hq, ho⟩ := h
      rcases List.mem_cons.1 hq with rfl | hq
      · exact .inl (Except.ok.inj (ho.symm.trans hfirst))
      · exact .inr ⟨q, hq, ho⟩

/-- An entity has outcomes when it has one for each predicate. -/
theorem exists_outcomes_iff :
    (∃ os, outcomes ps entity = .ok os) ↔ ∀ p ∈ ps, ∃ o, outcome p entity = .ok o :=
  exists_mapM_iff

theorem isApplicable_iff (h : outcomes ps entity = .ok os) :
    isApplicable os = true ↔ ∃ p ∈ ps, ∃ o, outcome p entity = .ok o ∧ o.applicable = true := by
  rw [isApplicable, List.any_eq_true]
  constructor
  · intro hex
    obtain ⟨o, ho, happ⟩ := hex
    obtain ⟨p, hp, hpo⟩ := (mem_outcomes_iff h).1 ho
    exact ⟨p, hp, o, hpo, happ⟩
  · intro hex
    obtain ⟨p, hp, o, hpo, happ⟩ := hex
    exact ⟨o, (mem_outcomes_iff h).2 ⟨p, hp, hpo⟩, happ⟩

end EntitySelection.Selection
