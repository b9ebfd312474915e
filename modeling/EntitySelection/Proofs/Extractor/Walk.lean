import EntitySelection.Extractor

/-!
# Following the names on a path

Names lead from a value to another one (`Reaches`), unless an attribute on the way is missing or
null (`Breaks`). It is one or the other (`breaks_iff`), and walking tells which
(`walk_eq_some_iff`, `walk_eq_none_iff`). To follow names and then more of them is to go on from
where the first ones lead (`walk_append`).
-/

namespace EntitySelection.Path

/-- The names lead from a value to another. -/
inductive Reaches : Value → List String → Value → Prop
  | here (v : Value) : Reaches v [] v
  | step {v next w : Value} {name : String} {rest : List String} :
      v.attribute? name = some next → next ≠ .null → Reaches next rest w →
      Reaches v (name :: rest) w

/-- An attribute on the way is missing or null. -/
inductive Breaks : Value → List String → Prop
  | missing {v : Value} {name : String} {rest : List String} :
      v.attribute? name = none → Breaks v (name :: rest)
  | null {v : Value} {name : String} {rest : List String} :
      v.attribute? name = some .null → Breaks v (name :: rest)
  | step {v next : Value} {name : String} {rest : List String} :
      v.attribute? name = some next → next ≠ .null → Breaks next rest →
      Breaks v (name :: rest)

variable {v w next : Value} {name : String} {names rest : List String}

theorem walk_of_missing (h : v.attribute? name = none) : walk v (name :: rest) = none := by
  rw [walk, h]

theorem walk_of_null (h : v.attribute? name = some .null) : walk v (name :: rest) = none := by
  rw [walk, h]
  rfl

theorem walk_of_attribute (h : v.attribute? name = some next) (hnull : next ≠ .null) :
    walk v (name :: rest) = walk next rest := by
  have hfalse : next.isNull = false := by
    rw [← Bool.not_eq_true, Value.isNull_eq_true_iff]
    exact hnull
  rw [walk, h]
  simp only [hfalse, Bool.false_eq_true, if_false]

theorem walk_of_reaches (h : Reaches v names w) : walk v names = some w := by
  induction h with
  | here v => rfl
  | step hnext hnull _ ih => rw [walk_of_attribute hnext hnull, ih]

theorem walk_of_breaks (h : Breaks v names) : walk v names = none := by
  induction h with
  | missing hmissing => exact walk_of_missing hmissing
  | null hnull => exact walk_of_null hnull
  | step hnext hnull _ ih => rw [walk_of_attribute hnext hnull, ih]

/-- Names break off or lead somewhere. -/
theorem breaks_or_reaches (v : Value) (names : List String) :
    Breaks v names ∨ ∃ w, Reaches v names w := by
  induction names generalizing v with
  | nil => exact .inr ⟨v, .here v⟩
  | cons name rest ih =>
    cases hnext : v.attribute? name with
    | none => exact .inl (.missing hnext)
    | some next =>
      by_cases hnull : next = .null
      · subst hnull
        exact .inl (.null hnext)
      · rcases ih next with hbreaks | ⟨w, hreaches⟩
        · exact .inl (.step hnext hnull hbreaks)
        · exact .inr ⟨w, .step hnext hnull hreaches⟩

theorem walk_eq_some_iff : walk v names = some w ↔ Reaches v names w := by
  refine ⟨fun h => ?_, walk_of_reaches⟩
  rcases breaks_or_reaches v names with hbreaks | ⟨w', hreaches⟩
  · rw [walk_of_breaks hbreaks] at h
    cases h
  · rw [walk_of_reaches hreaches] at h
    obtain rfl := Option.some.inj h
    exact hreaches

theorem walk_eq_none_iff : walk v names = none ↔ Breaks v names := by
  refine ⟨fun h => ?_, walk_of_breaks⟩
  rcases breaks_or_reaches v names with hbreaks | ⟨w, hreaches⟩
  · exact hbreaks
  · rw [walk_of_reaches hreaches] at h
    cases h

theorem breaks_iff : Breaks v names ↔ ¬ ∃ w, Reaches v names w := by
  simp only [← walk_eq_some_iff, ← walk_eq_none_iff]
  cases walk v names <;> simp

theorem walk_append (v : Value) (names more : List String) :
    walk v (names ++ more) = (walk v names).bind (walk · more) := by
  rcases breaks_or_reaches v names with hbreaks | ⟨w, hreaches⟩
  · rw [walk_of_breaks hbreaks, Option.bind_none]
    induction hbreaks with
    | missing hmissing => exact walk_of_missing hmissing
    | null hnull => exact walk_of_null hnull
    | step hnext hnull _ ih => rw [List.cons_append, walk_of_attribute hnext hnull, ih]
  · rw [walk_of_reaches hreaches, Option.bind_some]
    induction hreaches with
    | here v => rfl
    | step hnext hnull _ ih => rw [List.cons_append, walk_of_attribute hnext hnull, ih]

end EntitySelection.Path
