import EntitySelection.Proofs.Registry.Log

/-!
# The tables of a registry agree

A registry is filled in steps. A step is a request or the loading of the defaults, and either may
fail; the defaults may fail midway, and leave what they registered before.

**Theorem (`tablesAgree_fillAll`).** After any steps the four tables agree: bound tokens are not
empty and have no blanks around them; the comparators with a canonical token are those with a
comparison, and tokens and descriptions belong to these only; and a canonical token leads back to
its comparator. So a registry is valid, which is a question to the comparisons alone, exactly when
every comparator has a token, a canonical token and a comparison.

Loading the defaults is a log too, of as many of the default requests as were accepted
(`exists_log_fillAll`), so that all of this follows from consistency after every log.
-/

namespace EntitySelection.Registry

/-! ## Filling -/

/-- A step in which a registry is filled. -/
inductive Filling where
  | request (q : Registration)
  | defaults

/-- The registry after a step. -/
def fill (r : Registry) : Filling → Registry
  | .request q => r.attempt q
  | .defaults => r.loadDefaults.1

/-- The registry after steps, one after the other. -/
def fillAll (r : Registry) (steps : List Filling) : Registry := steps.foldl fill r

theorem attempt_of_register {r s : Registry} {q : Registration} (h : r.register q = .ok s) :
    r.attempt q = s := by
  rw [attempt, h]

/-- Requests that stop at the first failure are a log that ends before it. -/
theorem exists_log_registerAll (r : Registry) (qs : List Registration) :
    ∃ log, (r.registerAll qs).1 = r.replay log := by
  induction qs generalizing r with
  | nil => exact ⟨[], rfl⟩
  | cons q qs ih =>
    rw [registerAll]
    cases hq : r.register q with
    | ok s =>
      obtain ⟨log, hlog⟩ := ih s
      refine ⟨q :: log, ?_⟩
      rw [replay_cons, attempt_of_register hq]
      exact hlog
    | error f => exact ⟨[], rfl⟩

theorem loadDefaults_fst (r : Registry) :
    r.loadDefaults.1 = (r.registerAll defaultRegistrations).1 := by
  unfold loadDefaults
  obtain ⟨s, failure⟩ := r.registerAll defaultRegistrations
  cases failure with
  | some f => rfl
  | none => cases hs : s.validate <;> simp [hs]

theorem exists_log_fill (r : Registry) (step : Filling) : ∃ log, r.fill step = r.replay log := by
  cases step with
  | request q => exact ⟨[q], rfl⟩
  | defaults =>
    rw [fill, loadDefaults_fst]
    exact exists_log_registerAll r defaultRegistrations

/-- However a registry was filled, some log fills it in the same way. -/
theorem exists_log_fillAll (r : Registry) (steps : List Filling) :
    ∃ log, r.fillAll steps = r.replay log := by
  induction steps generalizing r with
  | nil => exact ⟨[], rfl⟩
  | cons step steps ih =>
    obtain ⟨log, hlog⟩ := exists_log_fill r step
    obtain ⟨more, hmore⟩ := ih (r.fill step)
    refine ⟨log ++ more, ?_⟩
    rw [replay_append, ← hlog]
    exact hmore

/-! ## Agreement -/

variable {r : Registry}

theorem missing_eq_nil_iff : r.missing = [] ↔ ∀ c, (r.comparisonOf? c).isSome := by
  rw [missing, List.filter_eq_nil_iff]
  constructor
  · intro h c
    simpa [Option.isSome_iff_ne_none] using h c (Comparator.mem_all c)
  · intro h c _
    simpa [Option.isSome_iff_ne_none] using h c

theorem validate_eq_ok_iff : r.validate = .ok () ↔ ∀ c, (r.comparisonOf? c).isSome := by
  rw [← missing_eq_nil_iff, validate]
  by_cases h : r.missing = [] <;> simp [h]

/-- The four tables agree, and being valid says all of them. -/
structure TablesAgree (r : Registry) : Prop where
  token : ∀ t ∈ Named.names r.bindings, t ≠ "" ∧ Text.strip t = t
  canonical_iff : ∀ c, (r.canonicalOf? c).isSome ↔ (r.comparisonOf? c).isSome
  bound : ∀ t c, r.lookup t = some c → (r.canonicalOf? c).isSome ∧ (r.comparisonOf? c).isSome
  described : ∀ c, (r.descriptionOf? c).isSome →
    (r.canonicalOf? c).isSome ∧ (r.comparisonOf? c).isSome
  lookup_canonical : ∀ c t, r.canonicalOf? c = some t → r.lookup t = some c
  canonical_injective : ∀ c d t, r.canonicalOf? c = some t → r.canonicalOf? d = some t → c = d
  validate_iff : r.validate = .ok () ↔ ∀ c, (∃ t, r.lookup t = some c) ∧
    (r.canonicalOf? c).isSome ∧ (r.comparisonOf? c).isSome

theorem Consistent.tablesAgree (h : Consistent r) : TablesAgree r := by
  have hboth : ∀ c, (r.canonicalOf? c).isSome →
      (r.canonicalOf? c).isSome ∧ (r.comparisonOf? c).isSome :=
    fun c hc => ⟨hc, (h.comparison_iff c).2 hc⟩
  constructor
  case token =>
    intro t ht
    obtain ⟨c, hc⟩ := Option.isSome_iff_exists.1 (Named.lookup_isSome_iff.2 ht)
    exact isToken_iff.1 (h.isToken t c hc)
  case canonical_iff => exact fun c => (h.comparison_iff c).symm
  case bound => exact fun t c hl => hboth c (h.canonical_of_lookup t c hl)
  case described => exact fun c hd => hboth c (h.canonical_of_description c hd)
  case lookup_canonical => exact h.lookup_canonical
  case canonical_injective =>
    intro c d t hc hd
    have hlookup := h.lookup_canonical c t hc
    rw [h.lookup_canonical d t hd] at hlookup
    exact (Option.some.inj hlookup).symm
  case validate_iff =>
    rw [validate_eq_ok_iff]
    constructor
    · intro hall c
      have hcanonical := (h.comparison_iff c).1 (hall c)
      obtain ⟨t, ht⟩ := Option.isSome_iff_exists.1 hcanonical
      exact ⟨⟨t, h.lookup_canonical c t ht⟩, hboth c hcanonical⟩
    · intro hall c
      exact (hall c).2.2

/-- **However a registry was filled, its tables agree.** -/
theorem tablesAgree_fillAll (steps : List Filling) : TablesAgree (empty.fillAll steps) := by
  obtain ⟨log, hlog⟩ := exists_log_fillAll empty steps
  rw [hlog]
  exact (consistent_replay log).tablesAgree

end EntitySelection.Registry
