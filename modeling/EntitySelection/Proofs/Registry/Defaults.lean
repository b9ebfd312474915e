import EntitySelection.Proofs.Registry.Atomic
import EntitySelection.Proofs.Registry.Requests

/-!
# Loading the defaults

The default requests are well-formed and agree with each other, so that only a token that the
registry has bound to another comparator can stop them.

**Theorem (`loadDefaults_fillAll`).** However a registry was filled, loading the defaults fails
exactly when a default token is bound to another comparator than its own. It then stops at the
first request with such a token, behind the requests before it. When it succeeds, the registry is
valid, it has all the bindings and canonical tokens that it had, and the default tokens,
comparisons and descriptions (`Loaded`). Loading them again changes nothing.

The defaults go to the end of the history of the registry (`Reflects.registerAll`), where they have
the last word on each of the six comparators. A request that has left its marks everywhere is
*settled*, and to make it again changes nothing (`register_of_settled`).
-/

namespace EntitySelection.Registry

variable {r s : Registry} {p q : Registration} {qs past : List Registration} {f : Failure}

/-! ## The default requests -/

instance : Decidable (WellFormed q) :=
  decidable_of_iff (q.tokens ≠ [] ∧ ∀ t ∈ q.tokens, t ≠ "" ∧ Text.strip t = t)
    ⟨fun h => ⟨h.1, h.2⟩, fun h => ⟨h.1, h.2⟩⟩

instance : DecidableRel Agree := fun p q =>
  inferInstanceAs (Decidable (∀ t ∈ p.tokens, t ∈ q.tokens → p.comparator = q.comparator))

theorem wellFormed_default : ∀ q ∈ defaultRegistrations, WellFormed q := by decide

theorem agree_default : defaultRegistrations.Pairwise Agree := by decide

theorem exists_default (c : Comparator) : ∃ q ∈ defaultRegistrations, q.comparator = c := by
  cases c <;> decide

theorem lastFor?_default :
    ∀ q ∈ defaultRegistrations, lastFor? defaultRegistrations q.comparator = some q := by
  simp [defaultRegistrations, lastFor?]

theorem descriptionsFor_default : ∀ q ∈ defaultRegistrations,
    (descriptionsFor defaultRegistrations q.comparator).getLast? = q.description := by
  decide

/-! ## Requests that change nothing -/

/-- A request has left its marks in all the tables. -/
structure Settled (s : Registry) (q : Registration) : Prop where
  lookup : ∀ t ∈ q.tokens, s.lookup t = some q.comparator
  canonical : (s.canonicalOf? q.comparator).isSome
  comparison : s.comparisonOf? q.comparator = some q.comparison
  description : ∀ d, describes? q = some d → s.descriptionOf? q.comparator = some d

theorem bindTokens_of_lookup {bindings : List (String × Comparator)} {c : Comparator}
    {tokens : List String} (h : ∀ t ∈ tokens, bindings.lookup t = some c) :
    bindTokens bindings c tokens = bindings := by
  induction tokens with
  | nil => rfl
  | cons t tokens ih =>
    rw [List.forall_mem_cons] at h
    show bindTokens (Named.put bindings t c) c tokens = bindings
    rw [Named.put_of_lookup h.1, ih h.2]

theorem enter_of_settled (h : Settled s q) (first : String) : s.enter first q = s := by
  have hcanonicals : Named.putNew s.canonicals q.comparator first = s.canonicals := by
    obtain ⟨t, ht⟩ := Option.isSome_iff_exists.1 h.canonical
    rw [Named.putNew, show s.canonicals.lookup q.comparator = some t from ht]
  have hdescriptions : redescribe s.descriptions q.comparator q.description = s.descriptions := by
    cases hd : q.description with
    | none => rfl
    | some d =>
      rw [redescribe]
      by_cases hempty : d = ""
      · rw [if_pos hempty]
      · rw [if_neg hempty]
        exact Named.put_of_lookup (h.description d (by simp [describes?, hd, hempty]))
  rw [enter, bindTokens_of_lookup h.lookup, hcanonicals, Named.put_of_lookup h.comparison,
    hdescriptions]

/-- A settled request is accepted again, and changes nothing. -/
theorem register_of_settled (hq : WellFormed q) (h : Settled s q) : s.register q = .ok s := by
  have hfree : ¬ Conflicts s q := by
    rintro ⟨t, ht, d, hl, hd⟩
    rw [h.lookup t ht] at hl
    exact hd (Option.some.inj hl).symm
  obtain ⟨m, hm⟩ := exists_register_iff.2 ⟨hq, hfree⟩
  obtain ⟨first, -, -, rfl⟩ := register_eq_ok_iff.1 hm
  rwa [enter_of_settled h] at hm

theorem registerAll_of_settled (h : ∀ q ∈ qs, WellFormed q ∧ Settled s q) :
    s.registerAll qs = (s, none) := by
  induction qs with
  | nil => rfl
  | cons q qs ih =>
    rw [List.forall_mem_cons] at h
    exact registerAll_cons_eq_none_iff.2 ⟨s, register_of_settled h.1.1 h.1.2, ih h.2⟩

/-! ## The registry with the defaults -/

/-- What a registry `r` becomes when the defaults are loaded. -/
structure Loaded (r s : Registry) : Prop where
  valid : s.validate = .ok ()
  lookup_default : ∀ q ∈ defaultRegistrations, ∀ t ∈ q.tokens, s.lookup t = some q.comparator
  lookup : ∀ t c, r.lookup t = some c → s.lookup t = some c
  canonical : ∀ c t, r.canonicalOf? c = some t → s.canonicalOf? c = some t
  answers : ∀ c, ∃ q ∈ defaultRegistrations, q.comparator = c ∧
    s.comparisonOf? c = some q.comparison ∧ s.descriptionOf? c = q.description
  again : s.loadDefaults = (s, none)

section Loaded

variable (h : Reflects past r) (hs : r.registerAll defaultRegistrations = (s, none))
include h hs

/-- Each comparator has the comparison and the description of its default request. -/
theorem answers_of_loaded (hq : q ∈ defaultRegistrations) :
    s.comparisonOf? q.comparator = some q.comparison ∧
      s.descriptionOf? q.comparator = q.description := by
  have hreflects := h.registerAll hs
  constructor
  · rw [hreflects.comparison, lastFor?_append, lastFor?_default q hq]
    rfl
  · rw [hreflects.description, descriptionsFor_append, List.getLast?_append,
      descriptionsFor_default q hq]
    have hdescribed : ∀ q ∈ defaultRegistrations, q.description.isSome := by decide
    exact Option.or_of_isSome (hdescribed q hq)

theorem validate_of_loaded : s.validate = .ok () := by
  rw [validate_eq_ok_iff]
  intro c
  obtain ⟨q, hq, rfl⟩ := exists_default c
  rw [(answers_of_loaded h hs hq).1]
  rfl

theorem settled_of_loaded (hr : Consistent r) (hq : q ∈ defaultRegistrations) : Settled s q := by
  have hreflects := h.registerAll hs
  have hanswers := answers_of_loaded h hs hq
  have hmem : q ∈ past ++ defaultRegistrations := List.mem_append_right past hq
  constructor
  case lookup => exact fun t ht => (hreflects.lookup_iff t _).2 ⟨q, hmem, ht, rfl⟩
  case canonical =>
    rw [← (hr.registerAll hs).comparison_iff, hanswers.1]
    rfl
  case comparison => exact hanswers.1
  case description =>
    intro d hd
    rw [hanswers.2]
    exact (Option.filter_eq_some_iff.1 hd).1

/-- The registry is valid, so that loading the defaults is nothing but to make the requests. -/
theorem loadDefaults_of_registerAll : r.loadDefaults = (s, none) := by
  rw [loadDefaults, hs]
  simp only [validate_of_loaded h hs]

theorem loaded_of_registerAll (hr : Consistent r) : Loaded r s := by
  have hsettled := fun q hq => settled_of_loaded (q := q) h hs hr hq
  constructor
  case valid => exact validate_of_loaded h hs
  case lookup_default => exact fun q hq => (hsettled q hq).lookup
  case lookup => exact fun t c hl => (lookup_registerAll_iff hs).2 (.inl hl)
  case canonical =>
    exact fun c t hc => registerAll_induction hs hc fun _ _ _ hold hm => canonicalOf?_register hm hold
  case answers =>
    intro c
    obtain ⟨q, hq, rfl⟩ := exists_default c
    exact ⟨q, hq, rfl, answers_of_loaded h hs hq⟩
  case again =>
    have hself := registerAll_of_settled fun q hq => ⟨wellFormed_default q hq, hsettled q hq⟩
    exact loadDefaults_of_registerAll (h.registerAll hs) hself

end Loaded

/-! ## Defaults that cannot be loaded -/

/-- The defaults stop at a request with a token that is bound to another comparator in `r`. No
request before it has one, and all of them were made. -/
def StopsAtConflict (r s : Registry) (f : Failure) : Prop :=
  ∃ before q after, defaultRegistrations = before ++ q :: after ∧
    (∀ p ∈ before, ¬ Conflicts r p) ∧ r.registerAll before = (s, none) ∧
    ∃ t ∈ q.tokens, ∃ d, r.lookup t = some d ∧ d ≠ q.comparator ∧ f = .tokenTaken t d q.comparator

/-- A well-formed request is refused for a token that is bound to another comparator. -/
theorem taken_of_refused (hq : WellFormed q) (h : Refused r q f) :
    ∃ t ∈ q.tokens, ∃ d, r.lookup t = some d ∧ d ≠ q.comparator ∧
      f = .tokenTaken t d q.comparator := by
  cases h with
  | noTokens hnil => exact absurd hnil hq.hasTokens
  | @token before after t _ hsplit _ ht =>
    have hmem : t ∈ q.tokens := by simp [hsplit]
    have htoken : isToken t = true := isToken_iff.2 (hq.isToken t hmem)
    cases ht with
    | empty hempty => exact absurd hempty (hq.isToken t hmem).1
    | blank hx hend =>
      rw [not_isToken_iff.2 (.inr ⟨_, hx, hend⟩)] at htoken
      cases htoken
    | taken hl hd => exact ⟨t, hmem, _, hl, hd, rfl⟩

theorem stopsAtConflict_of_registerAll (hr : Consistent r)
    (hs : r.registerAll defaultRegistrations = (s, some f)) : StopsAtConflict r s f := by
  obtain ⟨before, q, after, hsplit, hbefore, hq⟩ := registerAll_eq_some_iff.1 hs
  have hwell : WellFormed q := wellFormed_default q (by simp [hsplit])
  have hagree : ∀ p ∈ before, Agree p q := by
    have hpairs := hsplit ▸ agree_default
    exact fun p hp => (List.pairwise_append.1 hpairs).2.2 p hp q List.mem_cons_self
  refine ⟨before, q, after, hsplit, ?_, hbefore, ?_⟩
  · exact fun p hp => ((exists_registerAll_iff.1 ⟨s, hbefore⟩).1 p hp).2
  · -- The token is bound already in `r`, since the requests before agree with this one.
    have hrefused := (register_eq_error_iff (hr.registerAll hbefore)).1 hq
    obtain ⟨t, ht, d, hl, hd, hf⟩ := taken_of_refused hwell hrefused
    rcases (lookup_registerAll_iff hbefore).1 hl with hold | ⟨p, hp, htp, rfl⟩
    · exact ⟨t, ht, d, hold, hd, hf⟩
    · exact absurd (hagree p hp t htp ht) hd

/-! ## Loading -/

/-- The defaults are loaded, or else a token that is bound to another comparator stops them. -/
structure LoadsDefaults (r : Registry) : Prop where
  fails_iff : (∃ f, r.loadDefaults.2 = some f) ↔ ∃ q ∈ defaultRegistrations, Conflicts r q
  failed : ∀ s f, r.loadDefaults = (s, some f) → StopsAtConflict r s f
  loaded : ∀ s, r.loadDefaults = (s, none) → Loaded r s

/-- The defaults are loaded exactly when no token of theirs is bound to another comparator. -/
theorem exists_registerAll_default_iff : (∃ s, r.registerAll defaultRegistrations = (s, none)) ↔
    ∀ q ∈ defaultRegistrations, ¬ Conflicts r q := by
  rw [exists_registerAll_iff]
  constructor
  · exact fun h q hq => (h.1 q hq).2
  · exact fun h => ⟨fun q hq => ⟨wellFormed_default q hq, h q hq⟩, agree_default⟩

theorem loadDefaults_eq (h : Reflects past r) :
    r.loadDefaults = r.registerAll defaultRegistrations := by
  cases hs : r.registerAll defaultRegistrations with
  | mk s failure =>
    cases failure with
    | none => exact loadDefaults_of_registerAll h hs
    | some f => rw [loadDefaults, hs]

/-- **Loading the defaults into any registry.** -/
theorem loadDefaults_fillAll (steps : List Filling) : LoadsDefaults (empty.fillAll steps) := by
  obtain ⟨log, hlog⟩ := exists_log_fillAll empty steps
  rw [hlog]
  have hr := consistent_replay log
  have h := reflects_replay log
  generalize empty.replay log = r at *
  have heq := loadDefaults_eq h
  constructor
  case fails_iff =>
    rw [heq, exists_failure_iff, exists_registerAll_default_iff]
    simp only [not_forall, not_not, exists_prop]
  case failed =>
    intro s f hs
    rw [heq] at hs
    exact stopsAtConflict_of_registerAll hr hs
  case loaded =>
    intro s hs
    rw [heq] at hs
    exact loaded_of_registerAll h hs hr

/-- The fifth request is refused for its second token. -/
example : (empty.replay [⟨.greater, ["=>"], .greater, none⟩]).loadDefaults.2 =
    some (.tokenTaken "=>" .greater .greaterOrEqual) := rfl

end EntitySelection.Registry
