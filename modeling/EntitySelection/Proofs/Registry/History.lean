import EntitySelection.Proofs.Registry.Log
import EntitySelection.Proofs.Registry.Tokens

/-!
# A registry is the history of what it accepted

**Theorem (`answers_replay`).** After any log of requests, a registry answers as the history of
the accepted ones says (`Answers`), and nothing that comes later takes a token from its comparator
or gives a comparator another canonical token.

Each table keeps something else of the history: the bindings keep all of it, the canonical tokens
the first request for each comparator, the comparisons the last one, and the descriptions the last
one that describes. `Reflects` says so of the tables. An accepted request carries it on to the
history with that request at its end (`Reflects.register`), and so it holds after every log
(`Reflects.replay`).
-/

namespace EntitySelection.Registry

/-! ## What a history says -/

section Histories

/-- The first request of a history for a comparator. -/
def firstFor? (past : List Registration) (c : Comparator) : Option Registration :=
  past.find? (·.comparator = c)

/-- The last request of a log for a comparator. -/
def lastFor? (log : List Registration) (c : Comparator) : Option Registration :=
  (log.filter (·.comparator = c)).getLast?

/-- The descriptions that a history gives a comparator, from the first to the last. -/
def descriptionsFor (past : List Registration) (c : Comparator) : List String :=
  (past.filter (·.comparator = c)).filterMap describes?

variable (past : List Registration) (q : Registration) (c : Comparator)

theorem firstFor?_concat : firstFor? (past ++ [q]) c =
    (firstFor? past c).or (if c = q.comparator then some q else none) := by
  rw [firstFor?, List.find?_append]
  by_cases hc : c = q.comparator
  · simp [firstFor?, hc]
  · simp [firstFor?, hc, Ne.symm hc]

theorem lastFor?_append (more : List Registration) : lastFor? (past ++ more) c =
    (lastFor? more c).or (lastFor? past c) := by
  rw [lastFor?, List.filter_append, List.getLast?_append]
  rfl

theorem lastFor?_concat : lastFor? (past ++ [q]) c =
    if c = q.comparator then some q else lastFor? past c := by
  rw [lastFor?_append]
  by_cases hc : c = q.comparator
  · simp [lastFor?, hc]
  · simp [lastFor?, hc, Ne.symm hc]

theorem descriptionsFor_append (more : List Registration) : descriptionsFor (past ++ more) c =
    descriptionsFor past c ++ descriptionsFor more c := by
  rw [descriptionsFor, List.filter_append, List.filterMap_append]
  rfl

theorem descriptionsFor_concat : descriptionsFor (past ++ [q]) c =
    descriptionsFor past c ++ (if c = q.comparator then (describes? q).toList else []) := by
  rw [descriptionsFor_append]
  by_cases hc : c = q.comparator
  · cases hd : describes? q <;> simp [descriptionsFor, hc, hd]
  · simp [descriptionsFor, hc, Ne.symm hc]

theorem eraseDups_concat (cs : List Comparator) :
    (cs ++ [c]).eraseDups = if c ∈ cs then cs.eraseDups else cs.eraseDups ++ [c] := by
  rw [List.eraseDups_append, List.removeAll]
  by_cases hc : c ∈ cs <;> simp [hc, List.eraseDups_cons]

theorem lastFor?_eq_none_iff : lastFor? past c = none ↔ ∀ q ∈ past, q.comparator ≠ c := by
  simp [lastFor?]

end Histories

/-! ## The tables -/

/-- The tables hold what the history says. -/
structure Reflects (past : List Registration) (r : Registry) : Prop where
  hasTokens : ∀ q ∈ past, q.tokens ≠ []
  lookup_iff : ∀ t c, r.lookup t = some c ↔ ∃ q ∈ past, t ∈ q.tokens ∧ q.comparator = c
  nodup : (Named.names r.bindings).Nodup
  canonical : ∀ c, r.canonicalOf? c = (firstFor? past c).bind (·.tokens.head?)
  comparison : ∀ c, r.comparisonOf? c = (lastFor? past c).map (·.comparison)
  description : ∀ c, r.descriptionOf? c = (descriptionsFor past c).getLast?
  comparators : r.comparators = (past.map (·.comparator)).eraseDups

theorem reflects_empty : Reflects [] empty where
  hasTokens _ hq := absurd hq List.not_mem_nil
  lookup_iff _ _ := by simp [lookup, empty]
  nodup := List.nodup_nil
  canonical _ := rfl
  comparison _ := rfl
  description _ := rfl
  comparators := rfl

variable {past log : List Registration} {r s : Registry} {q : Registration} {first : String}

/-- A token keeps its comparator, since a request for another comparator would be refused. -/
theorem lookup_register {t : String} {c : Comparator} (hs : r.register q = .ok s)
    (hl : r.lookup t = some c) : s.lookup t = some c := by
  obtain ⟨first, -, hbind, rfl⟩ := register_eq_ok_iff.1 hs
  rw [lookup_enter]
  by_cases ht : t ∈ q.tokens
  · rw [if_pos ht, (hbind t ht).2 c hl]
  · rw [if_neg ht, hl]

/-- After a request the tokens are the old ones and its own. -/
theorem lookup_register_iff {t : String} {c : Comparator} (hs : r.register q = .ok s) :
    s.lookup t = some c ↔ r.lookup t = some c ∨ t ∈ q.tokens ∧ q.comparator = c := by
  constructor
  · intro hl
    obtain ⟨first, -, -, rfl⟩ := register_eq_ok_iff.1 hs
    rw [lookup_enter] at hl
    by_cases ht : t ∈ q.tokens
    · rw [if_pos ht] at hl
      exact .inr ⟨ht, Option.some.inj hl⟩
    · rw [if_neg ht] at hl
      exact .inl hl
  · rintro (hold | ⟨ht, rfl⟩)
    · exact lookup_register hs hold
    · obtain ⟨first, -, -, rfl⟩ := register_eq_ok_iff.1 hs
      rw [lookup_enter, if_pos ht]

theorem canonicalOf?_register {t : String} {c : Comparator} (hs : r.register q = .ok s)
    (hc : r.canonicalOf? c = some t) : s.canonicalOf? c = some t := by
  obtain ⟨first, -, -, rfl⟩ := register_eq_ok_iff.1 hs
  rw [canonicalOf?_enter, hc]
  by_cases hcq : c = q.comparator <;> simp [hcq]

theorem comparators_enter : (r.enter first q).comparators =
    if q.comparator ∈ r.comparators then r.comparators else r.comparators ++ [q.comparator] :=
  Named.names_putNew r.canonicals q.comparator first

/-- **One request.** What is accepted goes to the end of the history. -/
theorem Reflects.register (h : Reflects past r) (hs : r.register q = .ok s) :
    Reflects (past ++ [q]) s := by
  have hlookup := fun t c => lookup_register_iff (t := t) (c := c) hs
  obtain ⟨first, hfirst, -, rfl⟩ := register_eq_ok_iff.1 hs
  have htokens : q.tokens ≠ [] := by
    intro hnil
    simp [hnil] at hfirst
  constructor
  case hasTokens =>
    intro p hp
    rcases List.mem_append.1 hp with hold | hnew
    · exact h.hasTokens p hold
    · rw [List.mem_singleton.1 hnew]
      exact htokens
  case lookup_iff =>
    intro t c
    rw [hlookup, h.lookup_iff]
    simp only [List.mem_append, List.mem_singleton, or_and_right, exists_or, exists_eq_left]
  case nodup => exact names_bindTokens_nodup h.nodup _ _
  case canonical =>
    intro c
    rw [canonicalOf?_enter, firstFor?_concat, h.canonical]
    by_cases hc : c = q.comparator
    · -- An earlier request for the comparator has tokens, so its first token stays.
      cases hp : firstFor? past c with
      | none => simp [hc, hfirst]
      | some p =>
        have hne := h.hasTokens p (List.mem_of_find?_eq_some hp)
        obtain ⟨t, ht⟩ := Option.isSome_iff_exists.1 (List.isSome_head?.2 hne)
        simp [hc, ht]
    · simp [hc]
  case comparison =>
    intro c
    rw [comparisonOf?_enter, lastFor?_concat, h.comparison]
    by_cases hc : c = q.comparator <;> simp [hc]
  case description =>
    intro c
    rw [descriptionOf?_enter, descriptionsFor_concat, h.description]
    by_cases hc : c = q.comparator
    · cases hd : describes? q <;> simp [hc]
    · simp [hc]
  case comparators =>
    rw [comparators_enter, List.map_append, List.map_singleton, eraseDups_concat, h.comparators]
    simp only [List.mem_eraseDups]

/-- **A log.** The history grows by the requests that are accepted. -/
theorem Reflects.replay (h : Reflects past r) (log : List Registration) :
    Reflects (past ++ r.accepted log) (r.replay log) := by
  induction log generalizing past r with
  | nil =>
    rw [accepted, List.append_nil]
    exact h
  | cons q log ih =>
    rw [replay_cons, accepted, attempt]
    cases hq : r.register q with
    | ok s =>
      have hnext := ih (h.register hq)
      rwa [List.append_assoc] at hnext
    | error f => exact ih h

theorem reflects_replay (log : List Registration) :
    Reflects (empty.accepted log) (empty.replay log) :=
  reflects_empty.replay log

/-- **The last word.** A comparator has the comparison of the last accepted request for it. -/
theorem comparisonOf?_replay (log : List Registration) (c : Comparator) :
    (empty.replay log).comparisonOf? c =
      (lastFor? (empty.accepted log) c).map (·.comparison) :=
  (reflects_replay log).comparison c

/-! ## What a registry answers -/

section Known

variable {r : Registry} {c : Comparator}

theorem canonical_of_some {t : String} (h : r.canonicalOf? c = some t) :
    r.canonical (.known c) = .ok t := by
  simp [canonical, Operator.notKey?, Operator.comparator?, h]

theorem canonical_of_none (h : r.canonicalOf? c = none) :
    r.canonical (.known c) = .error (.notRegistered (.known c) r.comparators) := by
  simp [canonical, Operator.notKey?, Operator.comparator?, h]

theorem evaluate_known (x y : Binary64) : r.evaluate (.known c) x y = match r.comparisonOf? c with
    | some f => .ok (f x y)
    | none => .error (.noComparison (.known c)) := rfl

theorem describe_known : r.describe (.known c) = .ok (r.descriptionOf? c) := rfl

end Known

/-- The answers of a registry are those of the history. -/
structure Answers (past : List Registration) (r : Registry) : Prop where
  lookup_iff : ∀ t c, r.lookup t = some c ↔ ∃ q ∈ past, t ∈ q.tokens ∧ q.comparator = c
  tokens_sorted : r.tokens.Pairwise (· < ·)
  mem_tokens_iff : ∀ t, t ∈ r.tokens ↔ ∃ q ∈ past, t ∈ q.tokens
  length_le : ∀ t ∈ r.tokens, t.length ≤ r.maxTokenLength
  length_eq : (∃ t ∈ r.tokens, t.length = r.maxTokenLength) ∨ r.tokens = [] ∧ r.maxTokenLength = 0
  canonical : ∀ c q, firstFor? past c = some q →
    ∃ t rest, q.tokens = t :: rest ∧ r.canonical (.known c) = .ok t
  evaluate : ∀ c q x y, lastFor? past c = some q →
    r.evaluate (.known c) x y = .ok (q.comparison x y)
  noComparison_iff : ∀ c x y, r.evaluate (.known c) x y = .error (.noComparison (.known c)) ↔
    ∀ q ∈ past, q.comparator ≠ c
  describe : ∀ c, r.describe (.known c) = .ok (descriptionsFor past c).getLast?
  comparators : r.comparators = (past.map (·.comparator)).eraseDups

theorem Reflects.answers (h : Reflects past r) : Answers past r := by
  constructor
  case lookup_iff => exact h.lookup_iff
  case tokens_sorted => exact tokens_pairwise h.nodup
  case mem_tokens_iff =>
    intro t
    simp [Registry.mem_tokens_iff, h.lookup_iff]
  case length_le =>
    intro t ht
    obtain ⟨c, hc⟩ := Registry.mem_tokens_iff.1 ht
    exact length_le_maxTokenLength hc
  case length_eq => exact exists_length_eq_maxTokenLength
  case canonical =>
    intro c q hq
    have hne := h.hasTokens q (List.mem_of_find?_eq_some hq)
    obtain ⟨t, rest, htokens⟩ := List.exists_cons_of_ne_nil hne
    refine ⟨t, rest, htokens, ?_⟩
    have hcanonical : r.canonicalOf? c = some t := by
      rw [h.canonical, hq, Option.bind_some, htokens, List.head?_cons]
    exact canonical_of_some hcanonical
  case evaluate =>
    intro c q x y hq
    rw [evaluate_known, h.comparison, hq]
    rfl
  case noComparison_iff =>
    intro c x y
    rw [evaluate_known, h.comparison, ← lastFor?_eq_none_iff]
    cases lastFor? past c <;> simp
  case describe =>
    intro c
    rw [describe_known, h.description]
  case comparators => exact h.comparators

/-- **A registry answers as its history says**, and what comes later changes no binding and no
canonical token. -/
theorem answers_replay (log : List Registration) :
    Answers (empty.accepted log) (empty.replay log) ∧
      ∀ more, (∀ t c, (empty.replay log).lookup t = some c →
          (empty.replay (log ++ more)).lookup t = some c) ∧
        ∀ c t, (empty.replay log).canonical (.known c) = .ok t →
          (empty.replay (log ++ more)).canonical (.known c) = .ok t := by
  refine ⟨(reflects_replay log).answers, fun more => ⟨?_, ?_⟩⟩
  · intro t c hl
    rw [replay_append]
    exact replay_induction more hl fun _ _ _ hold hs => lookup_register hs hold
  · intro c t hc
    have hkept : ∀ s : Registry, s.canonical (.known c) = .ok t ↔ s.canonicalOf? c = some t := by
      intro s
      cases hs : s.canonicalOf? c with
      | none => simp [canonical_of_none hs]
      | some u => simp [canonical_of_some hs]
    rw [hkept] at hc ⊢
    rw [replay_append]
    exact replay_induction more hc fun _ _ _ hold hs => canonicalOf?_register hs hold

end EntitySelection.Registry
