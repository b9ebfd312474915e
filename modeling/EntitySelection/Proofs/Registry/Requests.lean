import EntitySelection.Proofs.Registry.Agreement
import EntitySelection.Proofs.Registry.History

/-!
# Requests one after the other

Requests are made one after the other, up to the first that is refused.

**What a request needs of itself and of the registry.** It is *well-formed* when it has tokens and
all of them can be tokens. It *conflicts* with a registry that has bound one of its tokens to
another comparator.

**What requests need of each other.** Two requests *agree* when no token stands in both, unless
they are for the same comparator.

**Theorem (`exists_registerAll_iff`).** All requests are accepted exactly when each is well-formed,
none conflicts with the registry as it was at first, and each two agree. None of this depends on
the order of the requests.

A request adds its own tokens to the bound ones and no others. So a request conflicts behind another
one if it did before, or if the two do not agree (`conflicts_register_iff`), and a list of requests
adds all their tokens (`lookup_registerAll_iff`) and all of them to the history
(`Reflects.registerAll`).
-/

namespace EntitySelection.Registry

/-- A request that has tokens, all of which can be tokens. -/
structure WellFormed (q : Registration) : Prop where
  hasTokens : q.tokens ≠ []
  isToken : ∀ t ∈ q.tokens, t ≠ "" ∧ Text.strip t = t

/-- A token of the request is bound to another comparator. -/
def Conflicts (r : Registry) (q : Registration) : Prop :=
  ∃ t ∈ q.tokens, ∃ d, r.lookup t = some d ∧ d ≠ q.comparator

/-- No token stands in both requests, unless they are for the same comparator. -/
def Agree (p q : Registration) : Prop :=
  ∀ t ∈ p.tokens, t ∈ q.tokens → p.comparator = q.comparator

variable {r s : Registry} {p q : Registration} {qs past : List Registration} {f : Failure}

theorem Agree.symm (h : Agree p q) : Agree q p := fun t hq hp => (h t hp hq).symm

theorem not_conflicts_empty (q : Registration) : ¬ Conflicts empty q := by
  rintro ⟨t, -, d, hl, -⟩
  cases hl

/-! ## One request -/

theorem exists_register_iff : (∃ s, r.register q = .ok s) ↔ WellFormed q ∧ ¬ Conflicts r q := by
  constructor
  · rintro ⟨s, hs⟩
    obtain ⟨first, hfirst, hbind, -⟩ := register_eq_ok_iff.1 hs
    constructor
    · constructor
      case hasTokens =>
        intro hnil
        simp [hnil] at hfirst
      case isToken => exact fun t ht => isToken_iff.1 (hbind t ht).1
    · rintro ⟨t, ht, d, hl, hd⟩
      exact hd ((hbind t ht).2 d hl)
  · rintro ⟨hq, hfree⟩
    obtain ⟨first, rest, htokens⟩ := List.exists_cons_of_ne_nil hq.hasTokens
    have hfirst : q.tokens.head? = some first := by rw [htokens, List.head?_cons]
    refine ⟨_, register_eq_ok_iff.2 ⟨first, hfirst, fun t ht => ?_, rfl⟩⟩
    refine ⟨isToken_iff.2 (hq.isToken t ht), fun d hl => ?_⟩
    by_contra hd
    exact hfree ⟨t, ht, d, hl, hd⟩

/-- A request conflicts after another one if it did before, or if the two do not agree. -/
theorem conflicts_register_iff (hs : r.register q = .ok s) :
    Conflicts s p ↔ Conflicts r p ∨ ¬ Agree q p := by
  constructor
  · rintro ⟨t, ht, d, hl, hd⟩
    rcases (lookup_register_iff hs).1 hl with hold | ⟨htq, rfl⟩
    · exact .inl ⟨t, ht, d, hold, hd⟩
    · exact .inr fun hagree => hd (hagree t htq ht)
  · rintro (⟨t, ht, d, hl, hd⟩ | hdiffer)
    · exact ⟨t, ht, d, lookup_register hs hl, hd⟩
    · simp only [Agree, not_forall] at hdiffer
      obtain ⟨t, htq, htp, hne⟩ := hdiffer
      exact ⟨t, htp, q.comparator, (lookup_register_iff hs).2 (.inr ⟨htq, rfl⟩), hne⟩

/-! ## Several requests -/

theorem registerAll_cons_eq_none_iff : r.registerAll (q :: qs) = (s, none) ↔
    ∃ m, r.register q = .ok m ∧ m.registerAll qs = (s, none) := by
  rw [registerAll]
  cases r.register q <;> simp

theorem registerAll_cons_eq_some_iff : r.registerAll (q :: qs) = (s, some f) ↔
    r.register q = .error f ∧ r = s ∨ ∃ m, r.register q = .ok m ∧ m.registerAll qs = (s, some f) := by
  rw [registerAll]
  cases r.register q <;> simp [and_comm]

theorem exists_failure_iff :
    (∃ f, (r.registerAll qs).2 = some f) ↔ ¬ ∃ s, r.registerAll qs = (s, none) := by
  obtain ⟨s, failure⟩ := r.registerAll qs
  cases failure <;> simp

/-- **All requests are accepted** when each could be the first, and each two agree. -/
theorem exists_registerAll_iff : (∃ s, r.registerAll qs = (s, none)) ↔
    (∀ q ∈ qs, WellFormed q ∧ ¬ Conflicts r q) ∧ qs.Pairwise Agree := by
  induction qs generalizing r with
  | nil => simp [registerAll]
  | cons q qs ih =>
    rw [List.forall_mem_cons, List.pairwise_cons, ← exists_register_iff]
    constructor
    · rintro ⟨s, hs⟩
      obtain ⟨m, hm, hrest⟩ := registerAll_cons_eq_none_iff.1 hs
      obtain ⟨hall, hpairs⟩ := ih.1 ⟨s, hrest⟩
      refine ⟨⟨⟨m, hm⟩, fun p hp => ?_⟩, fun p hp => ?_, hpairs⟩
      · refine ⟨(hall p hp).1, fun hconflict => (hall p hp).2 ?_⟩
        exact (conflicts_register_iff hm).2 (.inl hconflict)
      · by_contra hdiffer
        exact (hall p hp).2 ((conflicts_register_iff hm).2 (.inr hdiffer))
    · rintro ⟨⟨⟨m, hm⟩, hall⟩, hagree, hpairs⟩
      have hrest : ∃ s, m.registerAll qs = (s, none) := by
        refine ih.2 ⟨fun p hp => ⟨(hall p hp).1, fun hconflict => ?_⟩, hpairs⟩
        rcases (conflicts_register_iff hm).1 hconflict with hold | hdiffer
        · exact (hall p hp).2 hold
        · exact hdiffer (hagree p hp)
      obtain ⟨s, hs⟩ := hrest
      exact ⟨s, registerAll_cons_eq_none_iff.2 ⟨m, hm, hs⟩⟩

/-- A failure is that of the first request that is refused, and leaves the registry before it. -/
theorem registerAll_eq_some_iff : r.registerAll qs = (s, some f) ↔
    ∃ before q after, qs = before ++ q :: after ∧ r.registerAll before = (s, none) ∧
      s.register q = .error f := by
  induction qs generalizing r with
  | nil => simp [registerAll]
  | cons q qs ih =>
    rw [registerAll_cons_eq_some_iff]
    constructor
    · rintro (⟨hq, rfl⟩ | ⟨m, hm, hrest⟩)
      · exact ⟨[], q, qs, rfl, rfl, hq⟩
      · obtain ⟨before, p, after, rfl, hbefore, hp⟩ := ih.1 hrest
        exact ⟨q :: before, p, after, rfl, registerAll_cons_eq_none_iff.2 ⟨m, hm, hbefore⟩, hp⟩
    · rintro ⟨before, p, after, hsplit, hbefore, hp⟩
      cases before with
      | nil =>
        obtain ⟨rfl, rfl⟩ := List.cons.inj hsplit
        obtain ⟨rfl, -⟩ := Prod.mk.inj hbefore
        exact .inl ⟨hp, rfl⟩
      | cons first before =>
        obtain ⟨rfl, rfl⟩ := List.cons.inj hsplit
        obtain ⟨m, hm, hrest⟩ := registerAll_cons_eq_none_iff.1 hbefore
        exact .inr ⟨m, hm, ih.2 ⟨before, p, after, rfl, hrest, hp⟩⟩

/-- After requests the tokens are the old ones and theirs. -/
theorem lookup_registerAll_iff {t : String} {c : Comparator} (hs : r.registerAll qs = (s, none)) :
    s.lookup t = some c ↔
      r.lookup t = some c ∨ ∃ q ∈ qs, t ∈ q.tokens ∧ q.comparator = c := by
  induction qs generalizing r with
  | nil =>
    obtain ⟨rfl, -⟩ := Prod.mk.inj hs
    simp
  | cons q qs ih =>
    obtain ⟨m, hm, hrest⟩ := registerAll_cons_eq_none_iff.1 hs
    rw [ih hrest, lookup_register_iff hm, or_assoc, List.exists_mem_cons_iff]

/-- Accepted requests go to the end of the history. -/
theorem Reflects.registerAll (h : Reflects past r) (hs : r.registerAll qs = (s, none)) :
    Reflects (past ++ qs) s := by
  induction qs generalizing past r with
  | nil =>
    obtain ⟨rfl, -⟩ := Prod.mk.inj hs
    rwa [List.append_nil]
  | cons q qs ih =>
    obtain ⟨m, hm, hrest⟩ := registerAll_cons_eq_none_iff.1 hs
    have hnext := ih (h.register hm) hrest
    rwa [List.append_assoc] at hnext

/-- What holds at first, and is kept by every accepted request, holds after several. -/
theorem registerAll_induction {holds : Registry → Prop} (hs : r.registerAll qs = (s, none))
    (h : holds r) (hstep : ∀ s q t, holds s → s.register q = .ok t → holds t) : holds s := by
  obtain ⟨log, hlog⟩ := exists_log_registerAll r qs
  rw [hs] at hlog
  obtain rfl : s = r.replay log := hlog
  exact replay_induction log h hstep

theorem Consistent.registerAll (h : Consistent r) (hs : r.registerAll qs = (s, none)) :
    Consistent s :=
  registerAll_induction hs h fun _ _ _ => Consistent.register

end EntitySelection.Registry
