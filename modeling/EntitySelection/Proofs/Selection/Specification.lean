import EntitySelection.Proofs.PredicateSet.Building
import EntitySelection.Proofs.Registry.History
import EntitySelection.Proofs.Selection.Conservation
import EntitySelection.Proofs.Selection.Pointwise

/-!
# What a configured selection must be

**Theorem (`select_fulfils`).** A selection by an accepted predicate set has, for each entity, one
outcome for each configured predicate, and the outcome is what the configuration says: the name
without the blanks around it, the query in canonical form, applicable where the extractor of the
attribute gives a value, and passed where the comparison last registered for the comparator of
the query holds of the number of that value. The entity is put on one of the three lists as its
outcomes and the mode of the set ask.

The specification (`Chosen`, `Fulfils`, `AsksPassed`) names neither the predicates that the set is
turned into nor the loop over the entities. The proof follows the way of one outcome: from the
data to the accepted configuration (`config_of_check`), to its predicate (`build_eq_ok_iff`), to
the outcome of that predicate (`outcome_numeric`).
-/

namespace EntitySelection

/-! ## From a configuration to an outcome -/

namespace Selection

/-- The outcome of a numeric predicate. -/
theorem outcome_numeric {r : Registry} {q : Query} {x : Extractor} {name : String}
    {entity : Value} {o : Outcome} (h : outcome (.numeric r q.draft x name) entity = .ok o) :
    o.predicate = name ∧ q.describe r = .ok o.description ∧
      (o.applicable = true ↔ ∃ v, x entity = .ok v ∧ v ≠ .null) ∧
      (o.passed = true ↔ o.applicable = true ∧ ∃ v c f, x entity = .ok v ∧
        v.toNumber = .ok c ∧ r.comparisonOf? q.comparator = some f ∧ f c q.against = true) := by
  obtain ⟨hname, hdesc, happ, hpass⟩ := outcome_eq_ok_iff.1 h
  obtain ⟨v, hv, hnull⟩ := map_eq_ok_iff.1 happ
  refine ⟨hname, hdesc, ?_, ?_⟩
  · simp [← hnull, hv, ← Value.isNull_eq_true_iff]
  · cases ha : o.applicable with
    | false =>
      rw [ha] at hpass
      simpa using hpass
    | true =>
      have hv' : v.isNull = false := by simpa [ha] using hnull
      rw [ha, if_pos rfl] at hpass
      -- The test is the comparison that the registry holds, on the number of the value.
      replace hpass : (x entity).bind (fun v => if v.isNull then .ok false else
          q.draft.evaluate r v) = .ok o.passed := hpass
      rw [hv] at hpass
      simp only [Except.bind, hv', Bool.false_eq_true, if_false, Query.Draft.evaluate,
        Query.draft] at hpass
      cases hc : v.toNumber with
      | error fault => simp [hc] at hpass
      | ok c =>
        rw [hc] at hpass
        replace hpass : r.evaluate (.known q.comparator) c q.against = .ok o.passed := hpass
        have hcomparison : (Operator.known q.comparator).comparator?.bind r.comparisonOf? =
            r.comparisonOf? q.comparator := rfl
        rw [Registry.evaluate, hcomparison] at hpass
        cases hf : r.comparisonOf? q.comparator with
        | none => simp [hf] at hpass
        | some f =>
          rw [hf] at hpass
          have hpassed : f c q.against = o.passed := Except.ok.inj hpass
          simp [hv, hc, hpassed]

/-! ## The specification -/

/-- The comparison that a log registers last for a comparator. -/
def lastComparison? (log : List Registration) (c : Comparator) : Option Comparison :=
  (Registry.lastFor? (Registry.empty.accepted log) c).map (·.comparison)

/-- What the outcome of a configured predicate on an entity must be, under the registry of a
log and a catalogue. -/
def Fulfils (log : List Registration) (k : Catalogue) (entity : Value)
    (name attr query : String) (o : Outcome) : Prop :=
  o.predicate = Text.strip name ∧
    ∃ q x, Query.parse (Registry.empty.replay log) query = .ok q ∧
      q.describe (Registry.empty.replay log) = .ok o.description ∧ k.Chosen attr x ∧
      (o.applicable = true ↔ ∃ v, x entity = .ok v ∧ v ≠ .null) ∧
      (o.passed = true ↔ o.applicable = true ∧ ∃ v c f, x entity = .ok v ∧
        v.toNumber = .ok c ∧ lastComparison? log q.comparator = some f ∧
        f c q.against = true)

/-- Some predicate applies. -/
def SomeApplicable (os : List Outcome) : Prop := ∃ o ∈ os, o.applicable = true

/-- The outcomes pass as the mode asks. -/
def AsksPassed (mode : MatchMode) (os : List Outcome) : Prop :=
  match mode with
  | .all => ∀ o ∈ os, o.passed = true
  | .any => ∃ o ∈ os, o.passed = true

theorem isApplicable_iff_some {os : List Outcome} :
    isApplicable os = true ↔ SomeApplicable os := by
  simp [isApplicable, SomeApplicable]

theorem passes_iff {mode : MatchMode} {os : List Outcome} :
    passes mode os = true ↔ AsksPassed mode os := by
  cases mode <;> simp [passes, AsksPassed]

/-- The list that an entity of these outcomes belongs on. -/
structure Listed (s : Selection) (id : String) (os : List Outcome) : Prop where
  notApplicable : id ∈ s.notApplicableIds ↔ ¬ SomeApplicable os
  selected : id ∈ s.selectedIds ↔ SomeApplicable os ∧ AsksPassed s.mode os
  rejected : id ∈ s.rejectedIds ↔ SomeApplicable os ∧ ¬ AsksPassed s.mode os

/-! ## Configured selections -/

variable {log : List Registration} {k : Catalogue} {ps : List Predicate} {idField : String}
  {entities : List Value}

theorem fulfils_of_outcome {item entity : Value} {c : PredicateConfig} {p : Predicate}
    {o : Outcome} (hcheck : PredicateConfig.check (Registry.empty.replay log) item = .ok c)
    (hbuild : c.build k (Registry.empty.replay log) = .ok p) (ho : outcome p entity = .ok o) :
    ∃ name attr query, PredicateConfig.Writes item name attr query ∧
      Fulfils log k entity name attr query o := by
  obtain ⟨name, attr, hwrites, hname, hne, hattr, -, -⟩ := PredicateConfig.config_of_check hcheck
  obtain ⟨x, q, hx, hq, rfl⟩ := PredicateConfig.build_eq_ok_iff.1 hbuild
  obtain ⟨hpredicate, hdesc, happ, hpass⟩ := outcome_numeric ho
  rw [Predicate.nameOr, if_neg hne] at hpredicate
  rw [Registry.comparisonOf?_replay] at hpass
  exact ⟨name, attr, c.query, hwrites, hpredicate.trans hname, q, x, hq, hdesc,
    Catalogue.chosen_of_resolve (hattr ▸ hx), happ, hpass⟩

/-- Items, configurations, predicates and outcomes go along with each other. -/
theorem fulfils_of_outcomes {items : List Value} {entity : Value} {cs : List PredicateConfig}
    {os : List Outcome}
    (hchecks : List.Forall₂
      (fun item c => PredicateConfig.check (Registry.empty.replay log) item = .ok c) items cs)
    (hbuild : List.Forall₂ (fun c p => c.build k (Registry.empty.replay log) = .ok p) cs ps)
    (hos : List.Forall₂ (fun p o => outcome p entity = .ok o) ps os) :
    List.Forall₂ (fun item o => ∃ name attr query, PredicateConfig.Writes item name attr query ∧
      Fulfils log k entity name attr query o) items os := by
  induction hchecks generalizing ps os with
  | nil =>
    cases hbuild
    cases hos
    exact .nil
  | cons hcheck _ ih =>
    cases hbuild with
    | cons hp hbuild =>
      cases hos with
      | cons ho hos => exact .cons (fulfils_of_outcome hcheck hp ho) (ih hbuild hos)

theorem mode_of_run {mode : MatchMode} {s : Selection} (h : run mode ps idField entities = .ok s) :
    s.mode = mode := by
  obtain ⟨rows, -, -, rfl⟩ := run_eq_ok_iff.1 h
  rfl

theorem mem_labelled {i : Nat} {entity : Value} (h : entities[i]? = some entity) :
    (entityId idField i entity, entity) ∈ labelled idField entities := by
  refine List.mem_of_getElem? (i := i) ?_
  rw [labelled, List.getElem?_mapIdx, h]
  rfl

/-- The result of an entity, and the list that its id is on. -/
theorem listed_of_run {mode : MatchMode} {s : Selection}
    (h : run mode ps idField entities = .ok s) {i : Nat} {entity : Value}
    (hi : entities[i]? = some entity) :
    ∃ os, outcomes ps entity = .ok os ∧
      s.results.lookup (entityId idField i entity) =
        some (resultOf mode (entityId idField i entity) os) ∧
      Listed s (entityId idField i entity) os := by
  obtain ⟨os, hos, hresult⟩ := exists_result h hi
  have hids : (ids idField entities).Nodup := (exists_run_iff.1 ⟨s, h⟩).1
  obtain ⟨hsel, hrej, hnot⟩ := run_pointwise h
  refine ⟨os, hos, hresult, ?_, ?_, ?_⟩
  · rw [hnot, mem_idsWhere_iff hids (mem_labelled hi), verdict_eq hos, ← isApplicable_iff_some]
    simp
  · rw [hsel, mem_idsWhere_iff hids (mem_labelled hi), verdict_eq hos, mode_of_run h,
      ← isApplicable_iff_some, ← passes_iff, accepts, Bool.and_eq_true]
  · rw [hrej, mem_idsWhere_iff hids (mem_labelled hi), verdict_eq hos, mode_of_run h,
      ← isApplicable_iff_some, ← passes_iff, refuses]
    simp

/-- **A configured selection is what its configuration says.** -/
theorem select_fulfils {data : Value} {set : PredicateSet} {s : Selection}
    (haccepted : PredicateSet.ofValue (Registry.empty.replay log) data = .ok set)
    (hselect : set.select k (Registry.empty.replay log) idField entities = .ok s) :
    ∃ es items, data = .map es ∧ Value.entry? es "predicates" = some (.list items) ∧
      PredicateSet.Asks es s.mode ∧
      ∀ i entity, entities[i]? = some entity →
        ∃ e, s.results.lookup (entityId idField i entity) = some e ∧
          List.Forall₂ (fun item o => ∃ name attr query,
            PredicateConfig.Writes item name attr query ∧
              Fulfils log k entity name attr query o) items e.outcomes ∧
          Listed s (entityId idField i entity) e.outcomes := by
  obtain ⟨es, items, hdata, hitems, hmode, -, hchecks⟩ := PredicateSet.set_of_value haccepted
  obtain ⟨ps, hbuild, hrun⟩ := bind_eq_ok_iff.1 hselect
  replace hbuild := mapM_eq_ok_iff.1 hbuild
  refine ⟨es, items, hdata, hitems, mode_of_run hrun ▸ hmode, fun i entity hi => ?_⟩
  obtain ⟨os, hos, hlookup, hlisted⟩ := listed_of_run hrun hi
  exact ⟨_, hlookup, fulfils_of_outcomes hchecks hbuild (outcomes_eq_ok_iff.1 hos), hlisted⟩

/-- `>` is first registered with the wrong comparison. -/
def correctedLog : List Registration := [
  ⟨.greater, [">"], .lesser, none⟩, ⟨.greater, [">", "over"], .greater, none⟩]

def surplusItems : List Value := [.map [(.text "name", .text " surplus "),
  (.text "attribute", .text " mass"), (.text "query", .text ">0")]]

def surplusData : Value :=
  .map [(.text "match", .text "any"), (.text "predicates", .list surplusItems)]

def surplus : PredicateSet := ⟨.any, [⟨"surplus", "mass", ">0", none⟩]⟩

/-- A load of mass one. -/
def load : Value := .map [(.text "id", .text "a"),
  (.text "mass", .float (.signed false ⟨1023 <<< 52, by omega⟩))]

/-- The second load has mass minus one, and the third has no mass. -/
def loads : List Value := [load,
  .map [(.text "mass", .float (.signed true ⟨1023 <<< 52, by omega⟩))],
  .map [(.text "id", .text "c")]]

theorem fulfils_surplus :
    PredicateSet.ofValue (Registry.empty.replay correctedLog) surplusData = .ok surplus ∧
      ∃ s, surplus.select .empty (Registry.empty.replay correctedLog) "id" loads = .ok s ∧
        s.selectedIds = ["a"] ∧ s.rejectedIds = ["#1"] ∧ s.notApplicableIds = ["c"] ∧
        ∃ e, s.results.lookup "a" = some e ∧
          List.Forall₂ (fun item o => ∃ name attr query,
            PredicateConfig.Writes item name attr query ∧
              Fulfils correctedLog .empty load name attr query o) surplusItems e.outcomes ∧
          Listed s "a" e.outcomes := by
  have haccepted :
      PredicateSet.ofValue (Registry.empty.replay correctedLog) surplusData = .ok surplus := rfl
  obtain ⟨s, hselect, hlists⟩ : ∃ s,
      surplus.select .empty (Registry.empty.replay correctedLog) "id" loads = .ok s ∧
        s.selectedIds = ["a"] ∧ s.rejectedIds = ["#1"] ∧ s.notApplicableIds = ["c"] :=
    ⟨_, rfl, rfl, rfl, rfl⟩
  obtain ⟨es, items, hdata, hitems, -, h⟩ := select_fulfils haccepted hselect
  cases hdata
  cases hitems
  exact ⟨haccepted, s, hselect, hlists.1, hlists.2.1, hlists.2.2, h 0 _ rfl⟩

end Selection

end EntitySelection
