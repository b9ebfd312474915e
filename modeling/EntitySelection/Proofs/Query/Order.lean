import EntitySelection.Proofs.Query.Grammar
import EntitySelection.Proofs.Registry.Requests

/-!
# The order of requests

**Theorem (`registerAll_perm`).** Requests that fill a registry from nothing are all accepted
exactly when each is well-formed and each two agree. They are then accepted in every other order
too, and the registries that two orders give bind the same tokens, have the same comparators, and
read every text as the same query (`SameReading`).

Being accepted is a matter of single requests and of pairs (`exists_registerAll_iff`), which no
order changes. What is bound is a matter of the history as a set (`Reflects`), and of what is bound
a reading uses only the tokens that the text starts with (`splitToken_congr`).
-/

namespace EntitySelection

namespace Query

open Registry

/-- Two registries bind the same tokens and have the same comparators, and queries are read
alike. -/
structure SameReading (r s : Registry) : Prop where
  lookup : ∀ t, r.lookup t = s.lookup t
  tokens : r.tokens = s.tokens
  maxTokenLength : r.maxTokenLength = s.maxTokenLength
  comparators : ∀ c, c ∈ r.comparators ↔ c ∈ s.comparators
  parse : ∀ raw, parse r raw = parse s raw

variable {r s : Registry} {past past' qs qs' : List Registration}

/-- Registries with the same bindings read every text alike. -/
theorem parse_of_lookup (hr : Consistent r) (hs : Consistent s)
    (h : ∀ t, r.lookup t = s.lookup t) (raw : String) : parse r raw = parse s raw := by
  refine parse_congr (splitToken_congr hr.ne_empty hs.ne_empty fun t c _ => ?_)
  rw [h t]

theorem sameReading_of_perm (h : Reflects past r) (h' : Reflects past' s) (hr : Consistent r)
    (hs : Consistent s) (hperm : past.Perm past') : SameReading r s := by
  have hlookup : ∀ t, r.lookup t = s.lookup t := by
    intro t
    apply Option.ext
    intro c
    rw [h.lookup_iff, h'.lookup_iff]
    simp only [hperm.mem_iff]
  have htokens : ∀ t, t ∈ r.tokens ↔ t ∈ s.tokens := by
    intro t
    rw [mem_tokens_iff, mem_tokens_iff, hlookup t]
  constructor
  case lookup => exact hlookup
  case tokens => exact tokens_congr h.nodup h'.nodup htokens
  case maxTokenLength => exact maxTokenLength_congr htokens
  case comparators =>
    intro c
    rw [h.comparators, h'.comparators, List.mem_eraseDups, List.mem_eraseDups]
    exact (hperm.map _).mem_iff
  case parse => exact parse_of_lookup hr hs hlookup

/-- From nothing, requests are accepted when they are well-formed and agree. -/
theorem exists_registerAll_empty_iff : (∃ s, Registry.empty.registerAll qs = (s, none)) ↔
    (∀ q ∈ qs, WellFormed q) ∧ qs.Pairwise Agree := by
  rw [exists_registerAll_iff]
  simp only [not_conflicts_empty, not_false_eq_true, and_true]

/-- **The order of requests does not matter**, neither for whether they are all accepted nor for
what is read then. -/
theorem registerAll_perm (qs : List Registration) :
    ((∃ s, Registry.empty.registerAll qs = (s, none)) ↔
      (∀ q ∈ qs, WellFormed q) ∧ qs.Pairwise Agree) ∧
    ∀ qs' s, qs.Perm qs' → Registry.empty.registerAll qs = (s, none) →
      ∃ s', Registry.empty.registerAll qs' = (s', none) ∧ SameReading s s' := by
  refine ⟨exists_registerAll_empty_iff, fun qs' s hperm hs => ?_⟩
  obtain ⟨hwell, hpairs⟩ := exists_registerAll_empty_iff.1 ⟨s, hs⟩
  have hother : ∃ s', Registry.empty.registerAll qs' = (s', none) := by
    refine exists_registerAll_empty_iff.2 ⟨fun q hq => hwell q (hperm.mem_iff.2 hq), ?_⟩
    exact (hperm.pairwise_iff Agree.symm).1 hpairs
  obtain ⟨s', hs'⟩ := hother
  have hreflects := reflects_empty.registerAll hs
  have hreflects' := reflects_empty.registerAll hs'
  exact ⟨s', hs', sameReading_of_perm hreflects hreflects' (consistent_empty.registerAll hs)
    (consistent_empty.registerAll hs') hperm⟩

end Query

end EntitySelection
