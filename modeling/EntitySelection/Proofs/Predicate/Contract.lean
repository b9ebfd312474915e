import EntitySelection.Proofs.Comparison.Coherence
import EntitySelection.Proofs.Extractor.Composition
import EntitySelection.Proofs.Predicate.Field
import EntitySelection.Proofs.Registry.Agreement

/-!
# The contract of a predicate

A predicate is asked first whether it applies to an entity. Whoever asks for the test all the same
must get a plain no where it does not apply, and no other failure than the one that the first
question met.

**Theorem (`numeric_contract`).** A numeric predicate keeps the contract, whatever its extractor
gives or fails with. If it reads a field and its comparator is registered, it answers both questions
about every entity. A number that is none makes it apply, and passes none of the six comparisons.

Both answers of a predicate that reads a field are settled by the number at the end of the path
(`applicable_ofSegments`, `test_ofSegments`).
-/

namespace EntitySelection

theorem Comparison.comparison_nan (k : Comparator) (a : Binary64) :
    k.comparison .nan a = false := by
  cases k with
  | equal => exact (equal_nan a).1
  | notEqual => exact (notEqual_nan a).1
  | greater | lesser | greaterOrEqual | lessOrEqual => cases a <;> rfl

/-- Null and flags are not what is not a number. -/
theorem Extractor.leafNumber_of_nan {v : Value} (h : v.toNumber = .ok .nan) :
    leafNumber v = some .nan := by
  cases v with
  | null => cases h
  | flag b => cases b <;> cases h
  | int | float | text | bytes | moment | list | map | object =>
    rw [leafNumber, h]
    · rfl
    · nofun
    · nofun

namespace Predicate

/-- Where a predicate does not apply, the test says no without a failure; where asking whether it
applies fails, the test fails in the same way; and the test says yes only where it applies. -/
structure KeepsContract (p : Predicate) (entity : Value) : Prop where
  inapplicable : p.applicable entity = .ok false → p.test entity = .ok false
  failing : ∀ f, p.applicable entity = .error f → p.test entity = .error f
  passing : p.test entity = .ok true → p.applicable entity = .ok true

section Numeric

variable (r : Registry) (d : Query.Draft) (x : Extractor) (names : List String) (name : String)
  (entity : Value)

theorem numeric_keepsContract : KeepsContract (.numeric r d x name) entity := by
  have happlicable := numeric_applicable r d x name entity
  have htest := numeric_test r d x name entity
  cases hx : x entity with
  | error f =>
    rw [hx] at happlicable htest
    constructor
    case inapplicable =>
      intro h
      cases happlicable.symm.trans h
    case failing =>
      intro g h
      rw [htest, ← h, happlicable]
      rfl
    case passing =>
      intro h
      cases htest.symm.trans h
  | ok v =>
    rw [hx] at happlicable htest
    constructor
    case inapplicable =>
      intro h
      have hnull : v.isNull = true := by simpa using Except.ok.inj (happlicable.symm.trans h)
      rw [htest, Except.bind, hnull]
      rfl
    case failing =>
      intro g h
      cases happlicable.symm.trans h
    case passing =>
      intro h
      have hnull : v.isNull = false := by
        by_contra hnot
        rw [htest, Except.bind, if_pos (Bool.of_not_eq_false hnot)] at h
        cases h
      rw [happlicable, Except.map, hnull]
      rfl

theorem applicable_ofSegments : (numeric r d (.ofSegments names) name).applicable entity =
    .ok (Extractor.fieldNumber names entity).isSome := by
  rw [numeric_applicable, Extractor.ofSegments]
  cases Extractor.fieldNumber names entity <;> rfl

theorem test_ofSegments : (numeric r d (.ofSegments names) name).test entity =
    match Extractor.fieldNumber names entity with
    | some y => r.evaluate d.operator y d.against
    | none => .ok false := by
  rw [numeric_test, Extractor.ofSegments]
  cases Extractor.fieldNumber names entity <;> rfl

end Numeric

/-- The path leads to something that is read as no number. -/
def LeadsToNan (path : String) (entity : Value) : Prop :=
  ∃ names leaf, Path.Spells path names ∧ Path.Reaches entity names leaf ∧ leaf.toNumber = .ok .nan

/-- The answers of a predicate about what is not a number. -/
theorem nan_answers {r : Registry} {d : Query.Draft} {c : Comparator} {path name : String}
    {x : Extractor} {entity : Value} (hop : d.operator.comparator? = some c)
    (hx : Extractor.field path = .ok x) (hnan : LeadsToNan path entity) :
    (numeric r d x name).applicable entity = .ok true ∧
      ∀ k : Comparator, r.comparisonOf? c = some k.comparison →
        (numeric r d x name).test entity = .ok false := by
  obtain ⟨names, leaf, hnames, hleaf, hnan⟩ := hnan
  obtain ⟨-, rfl⟩ := Extractor.field_eq_ok_iff.1 hx
  rw [Path.spells_iff.1 hnames]
  have hnumber : Extractor.fieldNumber names entity = some .nan := by
    rw [Extractor.fieldNumber, Path.walk_of_reaches hleaf, Option.bind_some,
      Extractor.leafNumber_of_nan hnan]
  constructor
  · rw [applicable_ofSegments, hnumber]
    rfl
  · intro k hk
    rw [test_ofSegments, hnumber]
    simp only [Registry.evaluate, hop, Option.bind_some, hk, Comparison.comparison_nan]

/-- **Numeric predicates keep the contract**, and those over a field never fail. -/
theorem numeric_contract (d : Query.Draft) (name : String) :
    (∀ r x entity, KeepsContract (.numeric r d x name) entity) ∧
    ∀ steps r c path x, r = Registry.empty.fillAll steps → d.operator.comparator? = some c →
      c ∈ r.comparators → Extractor.field path = .ok x → ∀ entity,
        (∃ b, (numeric r d x name).applicable entity = .ok b) ∧
        (∃ b, (numeric r d x name).test entity = .ok b) ∧
        (LeadsToNan path entity → (numeric r d x name).applicable entity = .ok true ∧
          ∀ k : Comparator, r.comparisonOf? c = some k.comparison →
            (numeric r d x name).test entity = .ok false) := by
  refine ⟨fun r x entity => numeric_keepsContract r d x name entity, ?_⟩
  intro steps r c path x hr hop hc hx entity
  obtain ⟨log, rfl⟩ : ∃ log, r = Registry.empty.replay log :=
    hr ▸ Registry.exists_log_fillAll Registry.empty steps
  have hreads : ReadsField (.numeric (Registry.empty.replay log) d x name) := .numeric hx hop hc
  obtain ⟨happlicable, htest⟩ := hreads.answers.2 entity
  exact ⟨happlicable, htest, nan_answers hop hx⟩

/-- A probe that reads nothing that is a number. -/
def probe : Value := .map [(.text "reading", .object [("value", .text " NaN ")])]

theorem contract_probe :
    Comparator.notEqual ∈ (Registry.empty.fillAll [.defaults]).comparators ∧
      LeadsToNan "reading.value" probe ∧
      ∃ x, Extractor.field "reading.value" = .ok x ∧
        (numeric (.fillAll .empty [.defaults]) ⟨.known .notEqual, .zero⟩ x "odd").applicable
          probe = .ok true ∧
        (numeric (.fillAll .empty [.defaults]) ⟨.known .notEqual, .zero⟩ x "odd").test
          probe = .ok false := by
  have hc : Comparator.notEqual ∈ (Registry.empty.fillAll [.defaults]).comparators := by decide
  have hnan : LeadsToNan "reading.value" probe :=
    ⟨["reading", "value"], .text " NaN ", Path.spells_iff.2 rfl, Path.walk_eq_some_iff.1 rfl, rfl⟩
  have hx : Extractor.field "reading.value" = .ok (.ofSegments ["reading", "value"]) := rfl
  obtain ⟨-, -, hanswers⟩ :=
    (numeric_contract ⟨.known .notEqual, .zero⟩ "odd").2 [.defaults] _ _ _ _ rfl rfl hc hx probe
  exact ⟨hc, hnan, _, hx, (hanswers hnan).1, (hanswers hnan).2 .notEqual rfl⟩

end Predicate

end EntitySelection
