import EntitySelection.Predicate
import EntitySelection.Proofs.Extractor.Segments
import EntitySelection.Proofs.Registry.Log
import EntitySelection.Proofs.Success

/-!
# Predicates that read a field

A field extractor gives a number or null on every entity, and a registry writes and applies every
comparator that it has. So a predicate that reads a field, and compares it by a registered
comparator if it compares it, answers every question about every entity (`ReadsField.answers`).
-/

namespace EntitySelection

/-- A registry writes and applies the comparators that it has. -/
theorem Registry.Consistent.answers {r : Registry} (hr : r.Consistent) {op : Operator}
    {c : Comparator} (hop : op.comparator? = some c) (hc : c ∈ r.comparators) :
    (∃ token, r.canonical op = .ok token) ∧ ∀ x y, ∃ b, r.evaluate op x y = .ok b := by
  have hcanonical : (r.canonicalOf? c).isSome := Named.lookup_isSome_iff.2 hc
  obtain ⟨token, htoken⟩ := Option.isSome_iff_exists.1 hcanonical
  obtain ⟨f, hf⟩ := Option.isSome_iff_exists.1 ((hr.comparison_iff c).2 hcanonical)
  have hkey : op.notKey? = none := by
    cases op with
    | known => rfl
    | unchecked v => cases v <;> first | rfl | cases hop
  refine ⟨⟨token, ?_⟩, fun x y => ⟨f x y, ?_⟩⟩
  · simp [Registry.canonical, hkey, hop, htoken]
  · simp [Registry.evaluate, hop, hf]

namespace Predicate

section Answers

variable (r : Registry) (d : Query.Draft) (x : Extractor) (name : String) (entity : Value)

theorem numeric_describe : (numeric r d x name).describe =
    (r.canonical d.operator).map fun token => token ++ " " ++ d.against.text := rfl

theorem numeric_applicable : (numeric r d x name).applicable entity =
    (x entity).map (!·.isNull) := rfl

theorem numeric_test : (numeric r d x name).test entity =
    (x entity).bind fun v => if v.isNull then .ok false else d.evaluate r v := rfl

theorem presence_test : (presence x name).test entity = (x entity).map (!·.isNull) := rfl

end Answers

/-- A predicate that reads a field of an entity. If it compares the field, it does so by a
comparator that is registered. -/
inductive ReadsField : Predicate → Prop
  | numeric {log : List Registration} {d : Query.Draft} {c : Comparator} {path name : String}
      {x : Extractor} : Extractor.field path = .ok x → d.operator.comparator? = some c →
      c ∈ (Registry.empty.replay log).comparators →
      ReadsField (.numeric (Registry.empty.replay log) d x name)
  | presence {path name : String} {x : Extractor} : Extractor.field path = .ok x →
      ReadsField (.presence x name)

theorem ReadsField.answers {p : Predicate} (h : ReadsField p) :
    (∃ d, p.describe = .ok d) ∧
      ∀ entity, (∃ b, p.applicable entity = .ok b) ∧ ∃ b, p.test entity = .ok b := by
  cases h with
  | presence hx =>
    refine ⟨⟨_, rfl⟩, fun entity => ⟨⟨_, rfl⟩, ?_⟩⟩
    obtain ⟨n, hn⟩ := Extractor.exists_number_of_field hx entity
    rw [presence_test, hn]
    exact ⟨_, rfl⟩
  | @numeric log d c path name x hx hop hc =>
    obtain ⟨⟨token, htoken⟩, hevaluate⟩ := (Registry.consistent_replay log).answers hop hc
    refine ⟨?_, fun entity => ?_⟩
    · rw [numeric_describe, htoken]
      exact ⟨_, rfl⟩
    · obtain ⟨n, hn⟩ := Extractor.exists_number_of_field hx entity
      rw [numeric_applicable, numeric_test, hn]
      refine ⟨⟨_, rfl⟩, ?_⟩
      cases n with
      | none => exact ⟨false, rfl⟩
      | some y => exact hevaluate y d.against

end Predicate

end EntitySelection
