import EntitySelection.Proofs.Comparison.Tolerance
import EntitySelection.Proofs.Registry.Agreement
import EntitySelection.Proofs.Registry.History
import EntitySelection.Query

/-!
# Equal queries

Queries are equal when their comparators are the same and their operands have equal values, so that
`0.0` and `-0.0` make equal queries.

**Theorem (`evaluate_eq_of_same`).** With a registry whose comparisons are built in, whatever
comparators they are registered for, equal queries give the same answer to every candidate: the same
truth value, or the same failure.

A built-in comparison depends on its operand through the key alone (`comparison_congr`). For the
order this is by definition; for equality the operand goes into a sum and a difference, and there
the sign of a zero only ever decides about the sign of a zero. Other comparisons may tell the zeros
apart. A registry has none if it was filled with built-in comparisons only (`builtIn_fillAll`).
-/

namespace EntitySelection

namespace Comparison

open Binary64

/-- Of its operand a comparison uses the key. -/
theorem comparison_congr (k : Comparator) (c : Binary64) {x y : Binary64} (h : x.key = y.key) :
    k.comparison c x = k.comparison c y := by
  cases k with
  | equal =>
    show (distance c x).lt (tolerance c x) = (distance c y).lt (tolerance c y)
    rw [distance_congr c h, tolerance_congr c h]
  | notEqual =>
    show (tolerance c x).lt (distance c x) = (tolerance c y).lt (distance c y)
    rw [distance_congr c h, tolerance_congr c h]
  | greater =>
    show x.lt c = y.lt c
    simp only [lt, related, h]
  | lesser =>
    show c.lt x = c.lt y
    simp only [lt, related, h]
  | greaterOrEqual =>
    show x.le c = y.le c
    simp only [le, related, h]
  | lessOrEqual =>
    show c.le x = c.le y
    simp only [le, related, h]

end Comparison

namespace Registry

variable {r s : Registry} {q : Registration} {f : Comparison}

/-- The comparisons of a registry are among the six built-in ones, for whatever comparators. -/
def BuiltIn (r : Registry) : Prop :=
  ∀ c f, r.comparisonOf? c = some f → ∃ k, f = Comparator.comparison k

theorem builtIn_empty : BuiltIn empty := nofun

theorem BuiltIn.register (h : BuiltIn r) (hq : ∃ k, q.comparison = Comparator.comparison k)
    (hs : r.register q = .ok s) : BuiltIn s := by
  obtain ⟨first, -, -, rfl⟩ := register_eq_ok_iff.1 hs
  intro c f hf
  rw [comparisonOf?_enter] at hf
  split at hf
  · obtain rfl := Option.some.inj hf
    exact hq
  · exact h c f hf

theorem BuiltIn.registerAll {qs : List Registration} (h : BuiltIn r)
    (hqs : ∀ q ∈ qs, ∃ k, q.comparison = Comparator.comparison k) :
    BuiltIn (r.registerAll qs).1 := by
  induction qs generalizing r with
  | nil => exact h
  | cons q qs ih =>
    rw [List.forall_mem_cons] at hqs
    rw [Registry.registerAll]
    cases hs : r.register q with
    | ok s => exact ih (h.register hqs.1 hs) hqs.2
    | error failure => exact h

theorem builtIn_default (hq : q ∈ defaultRegistrations) :
    ∃ k, q.comparison = Comparator.comparison k := by
  simp only [defaultRegistrations, List.mem_cons, List.not_mem_nil, or_false] at hq
  rcases hq with rfl | rfl | rfl | rfl | rfl | rfl
  · exact ⟨.equal, rfl⟩
  · exact ⟨.notEqual, rfl⟩
  · exact ⟨.greater, rfl⟩
  · exact ⟨.lesser, rfl⟩
  · exact ⟨.greaterOrEqual, rfl⟩
  · exact ⟨.lessOrEqual, rfl⟩

/-- A step that asks for a built-in comparison, or for the defaults, brings in no other. -/
theorem BuiltIn.fill {step : Filling} (h : BuiltIn r)
    (hstep : ∀ q, step = .request q → ∃ k, q.comparison = Comparator.comparison k) :
    BuiltIn (r.fill step) := by
  cases step with
  | request q =>
    show BuiltIn (r.attempt q)
    rw [attempt]
    cases hs : r.register q with
    | ok s => exact h.register (hstep q rfl) hs
    | error failure => exact h
  | defaults =>
    rw [Registry.fill, loadDefaults_fst]
    exact h.registerAll fun q hq => builtIn_default hq

theorem BuiltIn.fillAll {steps : List Filling} (h : BuiltIn r)
    (hsteps : ∀ q, .request q ∈ steps → ∃ k, q.comparison = Comparator.comparison k) :
    BuiltIn (r.fillAll steps) := by
  induction steps generalizing r with
  | nil => exact h
  | cons step steps ih =>
    refine ih (h.fill fun q hq => hsteps q ?_) fun q hq => hsteps q (List.mem_cons_of_mem _ hq)
    rw [hq]
    exact List.mem_cons_self

/-- A registry that was filled with built-in comparisons has no others. -/
theorem builtIn_fillAll {steps : List Filling}
    (hsteps : ∀ q, .request q ∈ steps → ∃ k, q.comparison = Comparator.comparison k) :
    BuiltIn (empty.fillAll steps) :=
  builtIn_empty.fillAll hsteps

/-- Operands with one key are evaluated alike. -/
theorem evaluate_congr (h : BuiltIn r) (c : Comparator) (candidate : Binary64) {x y : Binary64}
    (hxy : x.key = y.key) :
    r.evaluate (.known c) candidate x = r.evaluate (.known c) candidate y := by
  rw [evaluate_known, evaluate_known]
  cases hf : r.comparisonOf? c with
  | none => rfl
  | some f =>
    obtain ⟨k, rfl⟩ := h c f hf
    exact congrArg Except.ok (Comparison.comparison_congr k candidate hxy)

end Registry

namespace Query

open Registry

variable {r : Registry} {p q : Query}

/-- Equal queries have the same comparator, and operands with the same key. -/
theorem same_iff : p.same q = true ↔
    p.comparator = q.comparator ∧ p.against.sameValue q.against = true := by
  rw [same, Bool.and_eq_true, beq_iff_eq]

/-- **Equal queries are interchangeable.** A query is interchangeable with itself even if its
operand is not a number, and so equal to none. -/
theorem evaluate_eq_of_same (hr : BuiltIn r) (h : p.same q = true ∨ p = q) (candidate : Value) :
    p.evaluate r candidate = q.evaluate r candidate := by
  rcases h with hsame | rfl
  · obtain ⟨hc, hvalue⟩ := same_iff.1 hsame
    have hkey := Binary64.key_eq_of_sameValue hvalue
    cases hnumber : candidate.toNumber with
    | error fault => simp only [evaluate, Draft.evaluate, hnumber]
    | ok x =>
      calc p.evaluate r candidate
          = r.evaluate (.known p.comparator) x p.against := by
            simp only [evaluate, Draft.evaluate, hnumber]
            rfl
        _ = r.evaluate (.known q.comparator) x q.against := by
            rw [hc]
            exact evaluate_congr hr q.comparator x hkey
        _ = q.evaluate r candidate := by
            simp only [evaluate, Draft.evaluate, hnumber]
            rfl
  · rfl

/-- The defaults, and equality for another comparator. -/
def crossedSteps : List Filling := [.defaults, .request ⟨.greater, ["near"], .equal, none⟩]

/-- Zero and negative zero are different operands of equal queries. -/
theorem evaluate_eq_zeros : BuiltIn (Registry.empty.fillAll crossedSteps) ∧
    (Query.mk .greater .zero).same ⟨.greater, Binary64.zero.neg⟩ = true ∧
    Query.mk .greater .zero ≠ ⟨.greater, Binary64.zero.neg⟩ ∧
    ((Query.mk .greater .zero).evaluate (Registry.empty.fillAll crossedSteps)
      (.text "-0.0")).toOption = some true ∧
    (Query.mk .greater .zero).evaluate (Registry.empty.fillAll crossedSteps) (.text "-0.0") =
      (Query.mk .greater Binary64.zero.neg).evaluate (Registry.empty.fillAll crossedSteps)
        (.text "-0.0") := by
  have hbuiltIn : BuiltIn (Registry.empty.fillAll crossedSteps) := by
    refine builtIn_fillAll fun q hq => ?_
    obtain rfl : q = ⟨.greater, ["near"], .equal, none⟩ := by simpa [crossedSteps] using hq
    exact ⟨.equal, rfl⟩
  have hsame : (Query.mk .greater .zero).same ⟨.greater, Binary64.zero.neg⟩ = true := by decide
  exact ⟨hbuiltIn, hsame, by decide, by decide +kernel,
    evaluate_eq_of_same hbuiltIn (.inl hsame) _⟩

end Query

end EntitySelection
