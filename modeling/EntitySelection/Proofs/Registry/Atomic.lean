import EntitySelection.Proofs.Registry.Log
import EntitySelection.Proofs.Text.Blank
import EntitySelection.Registry.Procedure

/-!
# A registration is all or nothing

A token *offends* when it is empty, has a blank at one of its ends, or is bound to a comparator
other than the one it is asked for.

**Theorem (`register_atomic`).** However a registry was filled, a request is refused exactly when
it names no token or one of its tokens offends. The failure is that of the first token that
offends, and a refused request leaves all tables as they were, although they change one by one.

The tables change only after all tokens were checked, and checking changes nothing
(`run_checkTokens`). So the procedure leaves what `Registry.register` gives, or else the registry
that it found (`run_register`).
-/

namespace EntitySelection.Registry

open Text

/-! ## The procedure -/

namespace Procedure

theorem run_checkToken (c : Comparator) (t : String) (r : Registry) :
    (checkToken c t).run r = match r.refusal? c t with
      | some f => .error f r
      | none => .ok () r := by
  rw [checkToken, EStateM.run_bind, EStateM.run_get]
  cases hrefusal : r.refusal? c t <;> simp only [hrefusal] <;> rfl

/-- The checks end at the first token that is refused, and change nothing. -/
theorem run_checkTokens (c : Comparator) (tokens : List String) (r : Registry) :
    (tokens.forM (checkToken c)).run r = match tokens.findSome? (r.refusal? c) with
      | some f => .error f r
      | none => .ok () r := by
  induction tokens with
  | nil => rfl
  | cons t tokens ih =>
    rw [List.forM_eq_forM, List.forM_cons, EStateM.run_bind, run_checkToken, List.findSome?_cons]
    cases r.refusal? c t with
    | some f => rfl
    | none => exact ih

theorem run_bindTokens (c : Comparator) (tokens : List String) (r : Registry) :
    (tokens.forM (bindToken c)).run r =
      .ok () { r with bindings := bindTokens r.bindings c tokens } := by
  induction tokens generalizing r with
  | nil => rfl
  | cons t tokens ih =>
    show (tokens.forM (bindToken c)).run { r with bindings := Named.put r.bindings t c } = _
    rw [ih]
    rfl

/-- **The procedure is atomic.** It leaves the registry after the request, or the one before. -/
theorem run_register (q : Registration) (r : Registry) :
    (register q).run r = match r.register q with
      | .ok s => .ok () s
      | .error f => .error f r := by
  unfold register Registry.register
  cases htokens : q.tokens with
  | nil => rfl
  | cons first rest =>
    simp only [EStateM.run_bind, run_checkTokens]
    cases hfind : List.findSome? (r.refusal? q.comparator) (first :: rest) with
    | some f => rfl
    | none =>
      simp only [run_bindTokens, EStateM.run_modify]
      rw [enter, htokens]

end Procedure

/-! ## Offending tokens -/

/-- How a token offends that is asked for a comparator. -/
inductive Offence (r : Registry) (c : Comparator) (t : String) : Failure → Prop
  | empty (ht : t = "") : Offence r c t (.invalidToken t)
  | blank {x : Char} (hx : isBlank x = true)
      (hend : t.toList.head? = some x ∨ t.toList.getLast? = some x) :
      Offence r c t (.invalidToken t)
  | taken {d : Comparator} (hl : r.lookup t = some d) (hd : d ≠ c) :
      Offence r c t (.tokenTaken t d c)

/-- Why a request is refused. -/
inductive Refused (r : Registry) (q : Registration) : Failure → Prop
  | noTokens (h : q.tokens = []) : Refused r q (.noTokens q.comparator)
  | token {before after : List String} {t : String} {f : Failure}
      (hsplit : q.tokens = before ++ t :: after)
      (hbefore : ∀ u ∈ before, ∀ g, ¬ Offence r q.comparator u g)
      (ht : Offence r q.comparator t f) : Refused r q f

variable {r : Registry} {c : Comparator} {t : String} {f : Failure} {q : Registration}

theorem not_isToken_iff : isToken t = false ↔ t = "" ∨
    ∃ x, isBlank x = true ∧ (t.toList.head? = some x ∨ t.toList.getLast? = some x) := by
  rw [← Bool.not_eq_true, isToken_iff, strip_eq_self_iff, not_and_or, not_not, not_forall]
  refine or_congr_right (exists_congr fun x => ?_)
  rw [Classical.not_imp, Bool.not_eq_false, and_comm]

/-- A token is refused when it offends. A bound token offends only by what it is bound to, so it
does not matter that it is looked up after it was checked for blanks. -/
theorem refusal?_eq_some_iff (hr : Consistent r) : r.refusal? c t = some f ↔ Offence r c t f := by
  unfold refusal?
  by_cases ht : isToken t = true
  · rw [if_neg (by simp [ht])]
    constructor
    · intro h
      split at h
      · next d hl =>
        split at h
        · cases h
        · next hd =>
          obtain rfl := Option.some.inj h
          exact .taken hl hd
      · cases h
    · intro h
      cases h with
      | empty hempty =>
        rw [not_isToken_iff.2 (.inl hempty)] at ht
        cases ht
      | blank hx hend =>
        rw [not_isToken_iff.2 (.inr ⟨_, hx, hend⟩)] at ht
        cases ht
      | taken hl hd => simp [hl, hd]
  · rw [if_pos (by simpa using ht)]
    constructor
    · intro h
      obtain rfl := Option.some.inj h
      rcases not_isToken_iff.1 (Bool.eq_false_iff.2 ht) with hempty | ⟨x, hx, hend⟩
      · exact .empty hempty
      · exact .blank hx hend
    · intro h
      cases h with
      | empty _ => rfl
      | blank _ _ => rfl
      | taken hl _ => exact absurd (hr.isToken t _ hl) ht

theorem refusal?_eq_none_iff_not_offence (hr : Consistent r) :
    r.refusal? c t = none ↔ ∀ f, ¬ Offence r c t f := by
  simp only [← refusal?_eq_some_iff hr]
  exact Option.eq_none_iff_forall_ne_some

/-! ## Refused requests -/

theorem register_eq_error_iff (hr : Consistent r) : r.register q = .error f ↔ Refused r q f := by
  unfold register
  cases htokens : q.tokens with
  | nil =>
    constructor
    · intro h
      obtain rfl := Except.error.inj h
      exact .noTokens htokens
    · intro h
      cases h with
      | noTokens _ => rfl
      | token hsplit _ _ => simp [htokens] at hsplit
  | cons first rest =>
    have hfind : List.findSome? (r.refusal? q.comparator) (first :: rest) = some f ↔
        Refused r q f := by
      rw [← htokens, List.findSome?_eq_some_iff]
      constructor
      · intro h
        obtain ⟨before, t, after, hsplit, ht, hbefore⟩ := h
        refine .token hsplit (fun u hu => ?_) ((refusal?_eq_some_iff hr).1 ht)
        exact (refusal?_eq_none_iff_not_offence hr).1 (hbefore u hu)
      · intro h
        cases h with
        | noTokens hnil => simp [hnil] at htokens
        | token hsplit hbefore ht =>
          refine ⟨_, _, _, hsplit, (refusal?_eq_some_iff hr).2 ht, fun u hu => ?_⟩
          exact (refusal?_eq_none_iff_not_offence hr).2 (hbefore u hu)
    rw [← hfind]
    cases List.findSome? (r.refusal? q.comparator) (first :: rest) <;> simp

/-- Some token of a request that offends is the first one. -/
theorem exists_refused_iff (hr : Consistent r) : (∃ f, Refused r q f) ↔
    q.tokens = [] ∨ ∃ t ∈ q.tokens, ∃ f, Offence r q.comparator t f := by
  constructor
  · intro h
    obtain ⟨f, hf⟩ := h
    cases hf with
    | noTokens hnil => exact .inl hnil
    | @token before after t _ hsplit _ ht => exact .inr ⟨t, by simp [hsplit], f, ht⟩
  · rintro (hnil | ⟨t, ht, f, hf⟩)
    · exact ⟨_, .noTokens hnil⟩
    · -- A request that is accepted has no offending token.
      simp only [← register_eq_error_iff hr, exists_error_iff, register_eq_ok_iff]
      rintro ⟨s, first, -, hbind, -⟩
      have hnone := (refusal?_eq_none_iff (r := r)).2 (hbind t ht)
      rw [(refusal?_eq_some_iff hr).2 hf] at hnone
      cases hnone

/-- A request is carried out as a whole, or refused for a reason and not at all. -/
structure Atomic (r : Registry) (q : Registration) : Prop where
  refused_iff : (∃ f, r.register q = .error f) ↔
    q.tokens = [] ∨ ∃ t ∈ q.tokens, ∃ f, Offence r q.comparator t f
  error_iff : ∀ f, r.register q = .error f ↔ Refused r q f
  run_error_iff : ∀ f s, (Procedure.register q).run r = .error f s ↔ Refused r q f ∧ s = r
  run_ok_iff : ∀ s, (Procedure.register q).run r = .ok () s ↔ r.register q = .ok s

/-- **A registration is all or nothing**, and fails with the first token that offends. -/
theorem register_atomic (log : List Registration) (q : Registration) :
    Atomic (empty.replay log) q := by
  have hr := consistent_replay log
  constructor
  case refused_iff =>
    simp only [register_eq_error_iff hr]
    exact exists_refused_iff hr
  case error_iff => exact fun f => register_eq_error_iff hr
  case run_error_iff =>
    intro f s
    rw [Procedure.run_register, ← register_eq_error_iff hr]
    cases (empty.replay log).register q <;> simp [eq_comm]
  case run_ok_iff =>
    intro s
    rw [Procedure.run_register]
    cases (empty.replay log).register q <;> simp

end EntitySelection.Registry
