import EntitySelection.Proofs.Predicate.Field
import EntitySelection.Proofs.Selection.Pointwise

/-!
# The first offence ends a selection

An entity *offends* when its id is that of an earlier entity, or when a predicate fails on it.

**Theorem (`run_offence`).** A selection fails exactly when some entity offends, and then with the
failure of the first that does: that of the repeated id, if its id is one, and otherwise that of
the first predicate that fails on it. Predicates that read a field and compare it by a registered
comparator never fail (`not_failsOn_of_readsField`), so with them only the ids decide.

A run that fails is a run that succeeds up to an entity, and a step that fails there
(`runFrom_eq_error_iff`). The run before it leaves the table of the entities so far, whose ids are
those that the step asks about.
-/

namespace EntitySelection.Selection

variable {ps : List Predicate} {idField : String} {mode : MatchMode} {entities : List Value}
  {entity : Value} {f : Failure} {k : Nat}

/-! ## Predicates that fail -/

/-- A predicate fails on an entity: asked whether it applies, asked for its description or, where
it applies, asked whether the entity passes. It is asked in this order. -/
inductive FailsOn (p : Predicate) (entity : Value) : Failure → Prop
  | applicable {f : Failure} : p.applicable entity = .error f → FailsOn p entity f
  | describe {b : Bool} {f : Failure} :
      p.applicable entity = .ok b → p.describe = .error f → FailsOn p entity f
  | test {d : String} {f : Failure} : p.applicable entity = .ok true → p.describe = .ok d →
      p.test entity = .error f → FailsOn p entity f

/-- The failure of the first predicate that fails on an entity. -/
def FirstFailure (ps : List Predicate) (entity : Value) (f : Failure) : Prop :=
  ∃ before p after, ps = before ++ p :: after ∧
    (∀ q ∈ before, ∀ g, ¬ FailsOn q entity g) ∧ FailsOn p entity f

theorem outcome_eq_error_iff {p : Predicate} :
    outcome p entity = .error f ↔ FailsOn p entity f := by
  have hpassed (b : Bool) : passedWhere b p entity = .error f ↔
      b = true ∧ p.test entity = .error f := by
    cases b <;> simp [passedWhere]
  have hpure (o : Outcome) : (pure o : Except Failure Outcome) ≠ .error f := by
    intro h
    cases h
  unfold outcome
  simp only [bind_eq_error_iff, hpassed, hpure, and_false, exists_false, or_false]
  constructor
  · rintro (happ | ⟨b, happ, hdesc | ⟨d, hdesc, rfl, htest⟩⟩)
    · exact .applicable happ
    · exact .describe happ hdesc
    · exact .test happ hdesc htest
  · intro h
    cases h with
    | applicable happ => exact .inl happ
    | describe happ hdesc => exact .inr ⟨_, happ, .inl hdesc⟩
    | test happ hdesc htest => exact .inr ⟨_, happ, .inr ⟨_, hdesc, rfl, htest⟩⟩

theorem exists_outcome_iff {p : Predicate} :
    (∃ o, outcome p entity = .ok o) ↔ ∀ g, ¬ FailsOn p entity g := by
  simp only [← outcome_eq_error_iff]
  rw [← not_iff_not, ← exists_error_iff]
  push Not
  rfl

theorem outcomes_eq_error_iff : outcomes ps entity = .error f ↔ FirstFailure ps entity f := by
  simp only [outcomes, mapM_eq_error_iff, exists_outcome_iff, outcome_eq_error_iff, FirstFailure]

/-! ## Entities that offend -/

/-- The id of the entity at a position is that of an earlier entity. -/
def Repeats (idField : String) (entities : List Value) (k : Nat) : Prop :=
  ∃ j d e, j < k ∧ entities[j]? = some d ∧ entities[k]? = some e ∧
    entityId idField j d = entityId idField k e

/-- The entity at a position ends a selection that comes to it. -/
def Offends (ps : List Predicate) (idField : String) (entities : List Value) (k : Nat) : Prop :=
  Repeats idField entities k ∨
    ∃ entity, entities[k]? = some entity ∧ ∃ p ∈ ps, ∃ f, FailsOn p entity f

/-- How the entity at a position ends a selection. -/
inductive Offence (ps : List Predicate) (idField : String) (entities : List Value) (k : Nat) :
    Failure → Prop
  | repeated {entity : Value} : entities[k]? = some entity → Repeats idField entities k →
      Offence ps idField entities k (.duplicateId (entityId idField k entity) k)
  | failed {entity : Value} {f : Failure} : entities[k]? = some entity →
      ¬ Repeats idField entities k → FirstFailure ps entity f → Offence ps idField entities k f

theorem getElem?_ids (i : Nat) :
    (ids idField entities)[i]? = entities[i]?.map (entityId idField i) := by
  rw [ids, List.getElem?_mapIdx]

theorem repeats_iff : Repeats idField entities k ↔ k < entities.length ∧
    ∃ j < k, (ids idField entities)[j]? = (ids idField entities)[k]? := by
  simp only [Repeats, getElem?_ids]
  constructor
  · rintro ⟨j, d, e, hjk, hj, hk, heq⟩
    obtain ⟨hlt, -⟩ := List.getElem?_eq_some_iff.1 hk
    exact ⟨hlt, j, hjk, by rw [hj, hk, Option.map_some, Option.map_some, heq]⟩
  · rintro ⟨hlt, j, hjk, heq⟩
    have hj := List.getElem?_eq_getElem (Nat.lt_trans hjk hlt)
    have hk := List.getElem?_eq_getElem hlt
    rw [hj, hk] at heq
    exact ⟨j, _, _, hjk, hj, hk, Option.some.inj heq⟩

theorem ids_nodup_iff : (ids idField entities).Nodup ↔ ∀ k, ¬ Repeats idField entities k := by
  have hlength : (ids idField entities).length = entities.length := List.length_mapIdx
  rw [List.nodup_iff_getElem?_ne_getElem?, hlength]
  simp only [repeats_iff]
  constructor
  · rintro h k ⟨hlt, j, hjk, heq⟩
    exact h j k hjk hlt heq
  · intro h j k hjk hlt heq
    exact h k ⟨hlt, j, hjk, heq⟩

/-- **Success.** A selection succeeds when no entity offends. -/
theorem exists_run_iff_not_offends :
    (∃ s, run mode ps idField entities = .ok s) ↔ ∀ k, ¬ Offends ps idField entities k := by
  rw [exists_run_iff, ids_nodup_iff]
  simp only [exists_outcome_iff, Offends, not_or, not_exists, not_and, forall_and]
  refine and_congr_right fun _ => ?_
  constructor
  · intro h k entity hk
    exact h entity (List.mem_of_getElem? hk)
  · intro h entity hmem
    obtain ⟨k, hk⟩ := List.mem_iff_getElem?.1 hmem
    exact h k entity hk

/-- Entities from a position on do not matter to those before it. -/
theorem offends_take_iff {j : Nat} :
    Offends ps idField (entities.take k) j ↔ j < k ∧ Offends ps idField entities j := by
  by_cases hjk : j < k
  · have hsame : ∀ i, i ≤ j → (entities.take k)[i]? = entities[i]? := fun i hi => by
      rw [List.getElem?_take, if_pos (Nat.lt_of_le_of_lt hi hjk)]
    simp only [Offends, Repeats, hsame j (Nat.le_refl j), hjk, true_and]
    refine or_congr_left ?_
    constructor
    · rintro ⟨i, d, e, hij, hd, he, heq⟩
      exact ⟨i, d, e, hij, hsame i (Nat.le_of_lt hij) ▸ hd, he, heq⟩
    · rintro ⟨i, d, e, hij, hd, he, heq⟩
      exact ⟨i, d, e, hij, (hsame i (Nat.le_of_lt hij)).trans hd, he, heq⟩
  · have hnone : (entities.take k)[j]? = none := by
      rw [List.getElem?_take, if_neg hjk]
    simp only [Offends, Repeats, hnone, hjk, reduceCtorEq, false_and, and_false, exists_false,
      or_false]

/-! ## The loop up to its failure -/

/-- A run that fails succeeds up to an entity, and fails at the step of that entity. -/
theorem runFrom_eq_error_iff {s : Selection} {position : Nat} :
    runFrom mode ps idField s position entities = .error f ↔
      ∃ k entity t, entities[k]? = some entity ∧
        runFrom mode ps idField s position (entities.take k) = .ok t ∧
        step mode ps idField t (position + k) entity = .error f := by
  induction entities generalizing s position with
  | nil => simp [runFrom]
  | cons first rest ih =>
    rw [runFrom, bind_eq_error_iff]
    constructor
    · rintro (hfirst | ⟨u, hu, hrest⟩)
      · exact ⟨0, first, s, rfl, rfl, hfirst⟩
      · obtain ⟨k, entity, t, hk, ht, hstep⟩ := ih.1 hrest
        refine ⟨k + 1, entity, t, hk, ?_, ?_⟩
        · rw [List.take_succ_cons, runFrom, bind_eq_ok_iff]
          exact ⟨u, hu, ht⟩
        · rwa [show position + (k + 1) = position + 1 + k by omega]
    · rintro ⟨k, entity, t, hk, ht, hstep⟩
      cases k with
      | zero =>
        obtain rfl : first = entity := by simpa using hk
        obtain rfl : s = t := by simpa [runFrom] using ht
        exact .inl hstep
      | succ k =>
        rw [List.take_succ_cons, runFrom, bind_eq_ok_iff] at ht
        obtain ⟨u, hu, ht⟩ := ht
        refine .inr ⟨u, hu, ih.2 ⟨k, entity, t, hk, ht, ?_⟩⟩
        rwa [show position + 1 + k = position + (k + 1) by omega]

theorem mem_ids_take_iff (hk : entities[k]? = some entity) :
    entityId idField k entity ∈ ids idField (entities.take k) ↔ Repeats idField entities k := by
  simp only [List.mem_iff_getElem?, getElem?_ids, List.getElem?_take, Option.map_eq_some_iff]
  constructor
  · rintro ⟨j, d, hd, heq⟩
    split at hd
    · next hjk => exact ⟨j, d, entity, hjk, hd, hk, heq⟩
    · cases hd
  · rintro ⟨j, d, e, hjk, hd, he, heq⟩
    obtain rfl := Option.some.inj (hk.symm.trans he)
    exact ⟨j, d, by rw [if_pos hjk, hd], heq⟩

/-- The step that follows a run. -/
theorem step_eq_error_iff {t : Selection} (hk : entities[k]? = some entity)
    (ht : run mode ps idField (entities.take k) = .ok t) :
    step mode ps idField t k entity = .error f ↔ Offence ps idField entities k f := by
  obtain ⟨rows, hrows, -, rfl⟩ := run_eq_ok_iff.1 ht
  have hseen : (((table mode mode rows).results.lookup (entityId idField k entity)).isSome = true) ↔
      Repeats idField entities k := by
    rw [Named.lookup_isSome_iff, names_results_table, hrows.names_eq, mem_ids_take_iff hk]
  have hpure (s : Selection) : (pure s : Except Failure Selection) ≠ .error f := nofun
  unfold step
  by_cases hrepeats : Repeats idField entities k
  · rw [if_pos (hseen.2 hrepeats)]
    constructor
    · intro h
      obtain rfl := Except.error.inj h
      exact .repeated hk hrepeats
    · intro h
      cases h with
      | repeated hk' _ =>
        obtain rfl := Option.some.inj (hk.symm.trans hk')
        rfl
      | failed _ hnot _ => exact absurd hrepeats hnot
  · rw [if_neg fun h => hrepeats (hseen.1 h), bind_eq_error_iff]
    simp only [hpure, and_false, exists_false, or_false, outcomes_eq_error_iff]
    constructor
    · intro h
      exact .failed hk hrepeats h
    · intro h
      cases h with
      | repeated _ hrepeats' => exact absurd hrepeats' hrepeats
      | failed hk' _ hfirst =>
        obtain rfl := Option.some.inj (hk.symm.trans hk')
        exact hfirst

/-- A selection fails with the first offence. -/
theorem run_eq_error_iff : run mode ps idField entities = .error f ↔
    ∃ k, Offence ps idField entities k f ∧ ∀ j < k, ¬ Offends ps idField entities j := by
  have hbefore (k : Nat) : (∃ t, run mode ps idField (entities.take k) = .ok t) ↔
      ∀ j < k, ¬ Offends ps idField entities j := by
    simp only [exists_run_iff_not_offends, offends_take_iff, not_and]
  rw [run, runFrom_eq_error_iff]
  simp only [Nat.zero_add]
  refine exists_congr fun k => ?_
  rw [← hbefore]
  constructor
  · rintro ⟨entity, t, hk, ht, hstep⟩
    exact ⟨(step_eq_error_iff hk ht).1 hstep, t, ht⟩
  · rintro ⟨hoffence, t, ht⟩
    obtain ⟨entity, hk⟩ : ∃ entity, entities[k]? = some entity := by
      cases hoffence with
      | repeated hk _ => exact ⟨_, hk⟩
      | failed hk _ _ => exact ⟨_, hk⟩
    exact ⟨entity, t, hk, ht, (step_eq_error_iff hk ht).2 hoffence⟩

/-! ## The first offence -/

theorem not_failsOn_of_readsField {p : Predicate} (hp : p.ReadsField) : ¬ FailsOn p entity f := by
  obtain ⟨⟨d, hdesc⟩, hanswers⟩ := hp.answers
  obtain ⟨⟨b, happ⟩, c, htest⟩ := hanswers entity
  intro h
  cases h with
  | applicable h => cases happ.symm.trans h
  | describe _ h => cases hdesc.symm.trans h
  | test _ _ h => cases htest.symm.trans h

/-- **The first offence ends a selection.** It fails exactly when some entity offends, with the
offence of the first that does. Where the predicates read fields, only a repeated id offends. -/
theorem run_offence (mode : MatchMode) (ps : List Predicate) (idField : String)
    (entities : List Value) :
    ((∃ f, run mode ps idField entities = .error f) ↔ ∃ k, Offends ps idField entities k) ∧
      (∀ f, run mode ps idField entities = .error f ↔
        ∃ k, Offence ps idField entities k f ∧ ∀ j < k, ¬ Offends ps idField entities j) ∧
      (∀ id k, (Failure.duplicateId id k).message =
        "Duplicate entity id '" ++ id ++ "' at position " ++ toString k) ∧
      ((∀ p ∈ ps, p.ReadsField) →
        ((∃ f, run mode ps idField entities = .error f) ↔
          ∃ k, Repeats idField entities k)) := by
  have hfails : (∃ f, run mode ps idField entities = .error f) ↔
      ∃ k, Offends ps idField entities k := by
    rw [exists_error_iff, exists_run_iff_not_offends]
    push Not
    rfl
  refine ⟨hfails, fun f => run_eq_error_iff, fun _ _ => rfl, fun hfields => hfails.trans ?_⟩
  refine exists_congr fun k => or_iff_left ?_
  rintro ⟨entity, -, p, hp, f, hf⟩
  exact not_failsOn_of_readsField (hfields p hp) hf

/-- Passes where the mass is more than zero. -/
def massive : Predicate := .numeric (Registry.empty.replay Registry.defaultRegistrations)
  ⟨.known .greater, .zero⟩ (Extractor.ofSegments ["mass"]) "massive"

/-- The id of the third is a number, and that of the first is the same number as a text. -/
def twins : List Value :=
  [.map [(.text "id", .text "7")], .map [(.text "mass", .float .zero)], .map [(.text "id", .int 7)]]

theorem offence_twins : (∀ p ∈ [massive], p.ReadsField) ∧ Repeats "id" twins 2 ∧
    (∃ f, run .any [massive] "id" twins = .error f) ∧
    run .any [massive] "id" twins = .error (.duplicateId "7" 2) := by
  have hfields : ∀ p ∈ [massive], p.ReadsField := by
    intro p hp
    obtain rfl := List.mem_singleton.1 hp
    have hfield : Extractor.field "mass" = .ok (Extractor.ofSegments ["mass"]) := rfl
    exact .numeric hfield rfl (by decide)
  have hrepeats : Repeats "id" twins 2 := ⟨0, _, _, by decide, rfl, rfl, rfl⟩
  exact ⟨hfields, hrepeats, ((run_offence _ _ _ _).2.2.2 hfields).2 ⟨2, hrepeats⟩, rfl⟩

end EntitySelection.Selection
