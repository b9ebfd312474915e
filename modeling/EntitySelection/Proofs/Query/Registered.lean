import EntitySelection.Proofs.Query.Grammar
import EntitySelection.Proofs.Query.RoundTrip
import EntitySelection.Proofs.Registry.History

/-!
# Queries for comparators that are not registered

A token of a text is bound, and a comparator that a token is bound to is registered. But a text
without a token is read as a query for equality, and a registry may have no token for equality.

**Theorem (`registered_iff`).** A query that was read can be evaluated and written exactly when its
text starts with a bound token, or some token is bound to equality. Otherwise it is a query for
equality, and evaluating it fails with the failure that stands for what reading never gives
(`Unregistered`). A registry with one other comparator is enough for that
(`unregistered_three`).
-/

namespace EntitySelection

namespace Query

open Text

/-- A registry can evaluate a query on every number, and write it. -/
structure Registered (r : Registry) (q : Query) : Prop where
  evaluate : ∀ x, ∃ b, r.evaluate (.known q.comparator) x q.against = .ok b
  describe : ∃ text, q.describe r = .ok text

/-- A query for equality that a registry can neither evaluate nor write. -/
structure Unregistered (r : Registry) (q : Query) : Prop where
  comparator : q.comparator = .equal
  evaluate : ∀ x, r.evaluate (.known q.comparator) x q.against =
    .error (.noComparison (.known .equal))
  describe : q.describe r = .error (.notRegistered (.known .equal) r.comparators)

/-- Some bound token is the start of a text, behind blanks. -/
def StartsWithToken (r : Registry) (raw : String) : Prop :=
  ∃ t c, r.lookup t = some c ∧ t.toList <+: trimStart isBlank raw.toList

section Consistent

variable {r : Registry} {q : Query} {raw t : String}

theorem registered_of_lookup (hr : r.Consistent) (hl : r.lookup t = some q.comparator) :
    Registered r q := by
  have hcanonical := hr.canonical_of_lookup t _ hl
  obtain ⟨f, hf⟩ := Option.isSome_iff_exists.1 ((hr.comparison_iff _).2 hcanonical)
  obtain ⟨token, htoken⟩ := Option.isSome_iff_exists.1 hcanonical
  constructor
  case evaluate =>
    intro x
    refine ⟨f x q.against, ?_⟩
    rw [Registry.evaluate_known, hf]
  case describe => exact ⟨_, describe_eq htoken q.against⟩

/-- Without a token for equality there is no canonical token and no comparison either. -/
theorem unregistered_of_lookup (hr : r.Consistent) (hc : q.comparator = .equal)
    (hnone : ∀ t, r.lookup t ≠ some .equal) : Unregistered r q := by
  have hcanonical : r.canonicalOf? .equal = none := by
    cases htoken : r.canonicalOf? .equal with
    | none => rfl
    | some token => exact absurd (hr.lookup_canonical _ _ htoken) (hnone token)
  have hcomparison : r.comparisonOf? .equal = none := by
    rw [← Option.not_isSome_iff_eq_none, hr.comparison_iff, hcanonical]
    simp
  constructor
  case comparator => exact hc
  case evaluate =>
    intro x
    rw [hc, Registry.evaluate_known, hcomparison]
  case describe =>
    have hdescribe : q.describe r =
        (r.canonical (.known q.comparator)).map fun token => token ++ " " ++ q.against.text := rfl
    rw [hdescribe, hc, Registry.canonical_of_none hcanonical]
    rfl

theorem Unregistered.not_registered (h : Unregistered r q) : ¬ Registered r q := by
  intro hregistered
  obtain ⟨text, htext⟩ := hregistered.describe
  rw [h.describe] at htext
  cases htext

/-- A query that was read is registered, or its text has no token and equality has none either. -/
theorem registered_or_of_parse (hr : r.Consistent) (h : parse r raw = .ok q) :
    Registered r q ∧ (StartsWithToken r raw ∨ ∃ t, r.lookup t = some .equal) ∨
      Unregistered r q ∧ ¬ StartsWithToken r raw ∧ ∀ t, r.lookup t ≠ some .equal := by
  obtain ⟨rest, hleads⟩ := leads_of_parse hr.ne_empty h
  generalize hc : q.comparator = c at hleads
  cases hleads with
  | @token t _ _ hl hcs _ =>
    have hstart : StartsWithToken r raw := ⟨t, c, hl, rest, hcs.symm⟩
    exact .inl ⟨registered_of_lookup hr (hc ▸ hl), .inl hstart⟩
  | bare hnone =>
    by_cases hequal : ∃ t, r.lookup t = some .equal
    · obtain ⟨t, ht⟩ := hequal
      exact .inl ⟨registered_of_lookup hr (hc ▸ ht), .inr ⟨t, ht⟩⟩
    · have hfree : ∀ t, r.lookup t ≠ some .equal := not_exists.1 hequal
      refine .inr ⟨unregistered_of_lookup hr hc hfree, ?_, hfree⟩
      rintro ⟨t, d, hl, hprefix⟩
      exact hnone t d hl hprefix

end Consistent

/-- **A query that was read is registered**, unless its text has no token and equality has none
either; then it can neither be evaluated nor written. -/
theorem registered_iff {log : List Registration} {raw : String} {q : Query}
    (h : parse (Registry.empty.replay log) raw = .ok q) :
    (Registered (Registry.empty.replay log) q ↔
        StartsWithToken (Registry.empty.replay log) raw ∨
          ∃ t, (Registry.empty.replay log).lookup t = some .equal) ∧
      (¬ Registered (Registry.empty.replay log) q →
        Unregistered (Registry.empty.replay log) q) := by
  rcases registered_or_of_parse (Registry.consistent_replay log) h with
    ⟨hregistered, htoken⟩ | ⟨hunregistered, hstart, hfree⟩
  · exact ⟨iff_of_true hregistered htoken, fun hnot => absurd hregistered hnot⟩
  · refine ⟨iff_of_false hunregistered.not_registered ?_, fun _ => hunregistered⟩
    rintro (htoken | ⟨t, ht⟩)
    · exact hstart htoken
    · exact hfree t ht

/-- A registry with one comparator. -/
def greaterLog : List Registration := [⟨.greater, [">"], .greater, none⟩]

theorem registered_greater : ∃ q, parse (Registry.empty.replay greaterLog) ">3" = .ok q ∧
    Registered (Registry.empty.replay greaterLog) q := by
  have hparse : ∃ q, parse (Registry.empty.replay greaterLog) ">3" = .ok q := ⟨_, rfl⟩
  have hstart : StartsWithToken (Registry.empty.replay greaterLog) ">3" :=
    ⟨">", .greater, rfl, ['3'], rfl⟩
  obtain ⟨q, hq⟩ := hparse
  exact ⟨q, hq, (registered_iff hq).1.2 (.inl hstart)⟩

/-- The registry reads a number as a query that it can neither evaluate nor write. -/
theorem unregistered_three : ∃ q, parse (Registry.empty.replay greaterLog) "3" = .ok q ∧
    Unregistered (Registry.empty.replay greaterLog) q ∧
    ¬ Registered (Registry.empty.replay greaterLog) q := by
  have hparse : ∃ q, parse (Registry.empty.replay greaterLog) "3" = .ok q ∧
      q.comparator = .equal := ⟨_, rfl, rfl⟩
  obtain ⟨q, hq, hc⟩ := hparse
  have hunregistered : Unregistered (Registry.empty.replay greaterLog) q := by
    refine unregistered_of_lookup (Registry.consistent_replay greaterLog) hc fun t ht => ?_
    have hmem : t ∈ [">"] := Named.mem_names_of_mem (Named.mem_of_lookup ht)
    obtain rfl := List.mem_singleton.1 hmem
    cases ht
  exact ⟨q, hq, hunregistered, hunregistered.not_registered⟩

end Query

end EntitySelection
