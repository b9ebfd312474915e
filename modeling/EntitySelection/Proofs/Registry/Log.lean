import EntitySelection.Proofs.Success
import EntitySelection.Registry

/-!
# Registries and their logs

A registry is filled by a log of requests, of which some may be refused. `register_eq_ok_iff` says
when a request is accepted and what it does then; everything below goes through it.

**Consistency (`consistent_replay`).** However a registry was filled: every bound token can be
bound; the canonical token of a comparator is bound to it; and a comparator that a token is bound
to, or that has a description, has a canonical token and a comparison.
-/

namespace EntitySelection.Registry

/-! ## One request -/

theorem lookup_bindTokens (bindings : List (String × Comparator)) (c : Comparator)
    (tokens : List String) (t : String) :
    (bindTokens bindings c tokens).lookup t =
      if t ∈ tokens then some c else bindings.lookup t := by
  induction tokens generalizing bindings with
  | nil => simp [bindTokens]
  | cons first rest ih =>
    have hstep : bindTokens bindings c (first :: rest) =
        bindTokens (Named.put bindings first c) c rest := rfl
    rw [hstep, ih, Named.lookup_put]
    by_cases hfirst : t = first
    · simp [hfirst]
    · simp [hfirst]

theorem isToken_iff {t : String} : isToken t = true ↔ t ≠ "" ∧ Text.strip t = t := by
  simp [isToken]

/-- A token that can be bound to a comparator is free or bound to it already. -/
theorem refusal?_eq_none_iff {r : Registry} {c : Comparator} {t : String} :
    r.refusal? c t = none ↔ isToken t = true ∧ ∀ d, r.lookup t = some d → d = c := by
  unfold refusal?
  by_cases ht : isToken t = true
  · rw [if_neg (by simp [ht])]
    cases hl : r.lookup t with
    | none => simp [ht]
    | some d =>
      by_cases hd : d = c
      · simp [ht, hd]
      · simp [hd]
  · rw [if_pos (by simpa using ht)]
    simp [ht]

/-- A request is accepted when it has tokens and all of them can be bound. -/
theorem register_eq_ok_iff {r s : Registry} {q : Registration} :
    r.register q = .ok s ↔ ∃ first, q.tokens.head? = some first ∧
      (∀ t ∈ q.tokens, isToken t = true ∧ ∀ d, r.lookup t = some d → d = q.comparator) ∧
      s = r.enter first q := by
  simp only [← refusal?_eq_none_iff, ← List.findSome?_eq_none_iff]
  unfold register
  cases htokens : q.tokens with
  | nil => simp
  | cons first rest =>
    simp only [List.head?_cons, Option.some.injEq, exists_eq_left']
    cases hfind : List.findSome? (r.refusal? q.comparator) (first :: rest) with
    | some f => simp
    | none => simp [eq_comm]

/-- The description that a request gives. An empty one is none. -/
def describes? (q : Registration) : Option String := q.description.filter (· ≠ "")

section Enter

variable (r : Registry) (first : String) (q : Registration)

theorem names_bindTokens_nodup {bindings : List (String × Comparator)}
    (h : (Named.names bindings).Nodup) (c : Comparator) (tokens : List String) :
    (Named.names (bindTokens bindings c tokens)).Nodup := by
  induction tokens generalizing bindings with
  | nil => exact h
  | cons t tokens ih => exact ih (Named.names_put_nodup h t c)

theorem lookup_enter (t : String) :
    (r.enter first q).lookup t = if t ∈ q.tokens then some q.comparator else r.lookup t :=
  lookup_bindTokens r.bindings q.comparator q.tokens t

theorem canonicalOf?_enter (c : Comparator) :
    (r.enter first q).canonicalOf? c =
      if c = q.comparator then some ((r.canonicalOf? c).getD first) else r.canonicalOf? c := by
  unfold canonicalOf? enter
  rw [Named.lookup_putNew]
  by_cases hc : c = q.comparator <;> simp [hc]

theorem comparisonOf?_enter (c : Comparator) :
    (r.enter first q).comparisonOf? c =
      if c = q.comparator then some q.comparison else r.comparisonOf? c := by
  unfold comparisonOf? enter
  rw [Named.lookup_put]
  by_cases hc : c = q.comparator <;> simp [hc]

theorem descriptionOf?_enter (c : Comparator) :
    (r.enter first q).descriptionOf? c =
      if c = q.comparator then (describes? q).or (r.descriptionOf? c)
      else r.descriptionOf? c := by
  have hlookup : (r.enter first q).descriptionOf? c =
      (redescribe r.descriptions q.comparator q.description).lookup c := rfl
  rw [hlookup, describes?]
  cases q.description with
  | none => simp [redescribe, descriptionOf?]
  | some d =>
    by_cases hd : d = ""
    · simp [redescribe, descriptionOf?, hd, Option.filter]
    · by_cases hc : c = q.comparator
      · simp [redescribe, hd, hc, Named.lookup_put_self, Option.filter]
      · simp [redescribe, descriptionOf?, hd, hc, Named.lookup_put]

end Enter

/-! ## Logs -/

/-- The registry after a request; one that is refused changes nothing. -/
def attempt (r : Registry) (q : Registration) : Registry :=
  match r.register q with
  | .ok s => s
  | .error _ => r

/-- The registry after the requests of a log. -/
def replay (r : Registry) (log : List Registration) : Registry := log.foldl attempt r

/-- The requests of a log that are not refused. -/
def accepted (r : Registry) : List Registration → List Registration
  | [] => []
  | q :: log => match r.register q with
    | .ok s => q :: accepted s log
    | .error _ => accepted r log

theorem replay_cons (r : Registry) (q : Registration) (log : List Registration) :
    r.replay (q :: log) = (r.attempt q).replay log := rfl

theorem replay_append (r : Registry) (log more : List Registration) :
    r.replay (log ++ more) = (r.replay log).replay more := List.foldl_append

/-- What holds at first, and is kept by every accepted request, holds after every log. -/
theorem replay_induction {holds : Registry → Prop} {r : Registry} (log : List Registration)
    (h : holds r) (hstep : ∀ s q t, holds s → s.register q = .ok t → holds t) :
    holds (r.replay log) := by
  induction log generalizing r with
  | nil => exact h
  | cons q log ih =>
    rw [replay_cons]
    refine ih ?_
    unfold attempt
    split
    · next hq => exact hstep r q _ h hq
    · exact h

/-! ## Consistency -/

/-- The four tables agree. -/
structure Consistent (r : Registry) : Prop where
  isToken : ∀ t c, r.lookup t = some c → isToken t = true
  lookup_canonical : ∀ c t, r.canonicalOf? c = some t → r.lookup t = some c
  canonical_of_lookup : ∀ t c, r.lookup t = some c → (r.canonicalOf? c).isSome
  comparison_iff : ∀ c, (r.comparisonOf? c).isSome ↔ (r.canonicalOf? c).isSome
  canonical_of_description : ∀ c, (r.descriptionOf? c).isSome → (r.canonicalOf? c).isSome

theorem Consistent.ne_empty {r : Registry} (h : Consistent r) (t : String) (c : Comparator)
    (hl : r.lookup t = some c) : t ≠ "" :=
  (isToken_iff.1 (h.isToken t c hl)).1

theorem consistent_empty : Consistent empty where
  isToken _ _ h := nomatch h
  lookup_canonical _ _ h := nomatch h
  canonical_of_lookup _ _ h := nomatch h
  comparison_iff _ := Iff.rfl
  canonical_of_description _ h := nomatch h

/-- A comparator has a canonical token after a request if it had one before, or is asked for. -/
theorem canonicalOf?_enter_isSome (r : Registry) (first : String) (q : Registration)
    (c : Comparator) : ((r.enter first q).canonicalOf? c).isSome ↔
      c = q.comparator ∨ (r.canonicalOf? c).isSome := by
  rw [canonicalOf?_enter]
  by_cases hc : c = q.comparator <;> simp [hc]

theorem Consistent.register {r s : Registry} {q : Registration} (h : Consistent r)
    (hs : r.register q = .ok s) : Consistent s := by
  obtain ⟨first, hfirst, hbind, rfl⟩ := register_eq_ok_iff.1 hs
  have hfirst : first ∈ q.tokens := List.mem_of_head? hfirst
  refine ⟨fun t c hl => ?_, fun c t hc => ?_, fun t c hl => ?_, fun c => ?_, fun c hd => ?_⟩
  · rw [lookup_enter] at hl
    split at hl
    · next ht => exact (hbind t ht).1
    · exact h.isToken t c hl
  · rw [canonicalOf?_enter] at hc
    rw [lookup_enter]
    split at hc
    · -- The canonical token is an old one of this comparator, or the first new one.
      next hcq =>
      subst hcq
      split
      · rfl
      · next ht =>
        cases hold : r.canonicalOf? q.comparator with
        | none =>
          obtain rfl : first = t := by simpa [hold] using hc
          exact absurd hfirst ht
        | some u =>
          obtain rfl : u = t := by simpa [hold] using hc
          exact h.lookup_canonical _ _ hold
    · next hcq =>
      have hl := h.lookup_canonical c t hc
      split
      · next ht => exact absurd ((hbind t ht).2 c hl) hcq
      · exact hl
  · rw [canonicalOf?_enter_isSome]
    rw [lookup_enter] at hl
    split at hl
    · exact .inl (Option.some.inj hl).symm
    · exact .inr (h.canonical_of_lookup t c hl)
  · rw [canonicalOf?_enter_isSome, comparisonOf?_enter]
    by_cases hcq : c = q.comparator
    · simp [hcq]
    · simpa [hcq] using h.comparison_iff c
  · rw [canonicalOf?_enter_isSome]
    by_cases hcq : c = q.comparator
    · exact .inl hcq
    · rw [descriptionOf?_enter, if_neg hcq] at hd
      exact .inr (h.canonical_of_description c hd)

/-- **Consistency.** The tables agree after every log. -/
theorem consistent_replay (log : List Registration) : Consistent (empty.replay log) :=
  replay_induction log consistent_empty fun _ _ _ => Consistent.register

end EntitySelection.Registry
