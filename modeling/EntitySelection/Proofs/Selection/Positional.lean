import EntitySelection.Proofs.Numeral.Decimal
import EntitySelection.Proofs.Selection.Neighbours
import EntitySelection.Proofs.Selection.Offence

/-!
# Entities that go by their position

An entity without an id goes by its position, with a `#` before it. Such ids differ from each
other, and the `#` keeps them apart from ids that are numbers. An entity may all the same have a
text that starts with a `#` for an id.

**Theorem (`run_positional`).** Let the ids that entities have of their own be pairwise different.
If none of them is the id of another entity's position (`Clashes`), a selection never ends with a
repeated id, and every entity has a result of its own. If one is, every selection fails, and for
the repeated id unless a predicate fails. Two entities are enough for that (`clash_hash`).
-/

namespace EntitySelection.Selection

variable {ps : List Predicate} {idField : String} {mode : MatchMode} {entities : List Value}
  {k : Nat}

/-- The id of an entity that has none of its own. -/
def positionalId (k : Nat) : String := "#" ++ toString k

theorem positionalId_injective : Function.Injective positionalId := by
  intro j k h
  rw [positionalId, positionalId, ← String.toList_inj, String.toList_append, String.toList_append,
    List.append_cancel_left_eq] at h
  change (Nat.repr j).toList = (Nat.repr k).toList at h
  rw [Nat.toList_repr, Nat.toList_repr] at h
  rw [← Numeral.digitsValue_toDigits j, h, Numeral.digitsValue_toDigits]

theorem entityId_of_not_identified {e : Value} (h : ¬ Identified idField e) (k : Nat) :
    entityId idField k e = positionalId k := by
  unfold entityId
  split
  · next v hv =>
    split
    · rfl
    · next hnull => exact absurd ⟨v, hv, by rintro rfl; exact hnull rfl⟩ h
  · rfl

/-- The ids that entities have of their own are pairwise different. -/
def OwnIdsDiffer (idField : String) (entities : List Value) : Prop :=
  ∀ j k d e, j < k → entities[j]? = some d → entities[k]? = some e →
    Identified idField d → Identified idField e → entityId idField j d ≠ entityId idField k e

/-- The own id of an entity is that of a position where an entity has none. -/
def Clashes (idField : String) (entities : List Value) : Prop :=
  ∃ j k d e, entities[j]? = some d ∧ entities[k]? = some e ∧ Identified idField d ∧
    ¬ Identified idField e ∧ entityId idField j d = positionalId k

/-- An id that is repeated is that of a position. -/
theorem positional_of_repeats (hown : OwnIdsDiffer idField entities)
    (h : Repeats idField entities k) :
    Clashes idField entities ∧
      ∀ e, entities[k]? = some e → ∃ i, entityId idField k e = positionalId i := by
  obtain ⟨j, d, e, hjk, hd, he, heq⟩ := h
  have hentity : ∀ e', entities[k]? = some e' → e = e' := fun e' he' =>
    Option.some.inj (he.symm.trans he')
  by_cases hidd : Identified idField d
  · by_cases hide : Identified idField e
    · exact absurd heq (hown j k d e hjk hd he hidd hide)
    · have hid := entityId_of_not_identified hide k
      exact ⟨⟨j, k, d, e, hd, he, hidd, hide, heq.trans hid⟩,
        fun e' he' => ⟨k, hentity e' he' ▸ hid⟩⟩
  · have hid := entityId_of_not_identified hidd j
    by_cases hide : Identified idField e
    · exact ⟨⟨k, j, e, d, he, hd, hide, hidd, heq.symm.trans hid⟩,
        fun e' he' => ⟨j, hentity e' he' ▸ heq.symm.trans hid⟩⟩
    · rw [hid, entityId_of_not_identified hide] at heq
      exact absurd (positionalId_injective heq) (Nat.ne_of_lt hjk)

theorem repeats_of_clashes (h : Clashes idField entities) : ∃ k, Repeats idField entities k := by
  obtain ⟨j, k, d, e, hd, he, hidd, hide, heq⟩ := h
  rw [← entityId_of_not_identified hide k] at heq
  rcases Nat.lt_trichotomy j k with hjk | rfl | hkj
  · exact ⟨k, j, d, e, hjk, hd, he, heq⟩
  · obtain rfl := Option.some.inj (hd.symm.trans he)
    exact absurd hidd hide
  · exact ⟨j, k, e, d, hkj, he, hd, heq.symm⟩

/-- **Positions as ids.** Where the ids of their own differ and none is that of a position in use,
only predicates end a selection, and every entity has its own result. Otherwise it fails. -/
theorem run_positional (hown : OwnIdsDiffer idField entities) :
    (¬ Clashes idField entities →
      (∀ f, run mode ps idField entities = .error f →
        ∃ entity ∈ entities, FirstFailure ps entity f) ∧
      ∀ s, run mode ps idField entities = .ok s →
        Named.names s.results = ids idField entities ∧ (ids idField entities).Nodup) ∧
      (Clashes idField entities →
        (∃ f, run mode ps idField entities = .error f) ∧
        ((∀ entity ∈ entities, ∀ p ∈ ps, ∀ g, ¬ FailsOn p entity g) →
          ∃ i k, run mode ps idField entities = .error (.duplicateId (positionalId i) k))) := by
  refine ⟨fun hfree => ⟨fun f hf => ?_, fun s hs => ?_⟩, fun hclash => ?_⟩
  · obtain ⟨k, hoffence, -⟩ := run_eq_error_iff.1 hf
    cases hoffence with
    | repeated _ hrepeats => exact absurd (positional_of_repeats hown hrepeats).1 hfree
    | failed hk _ hfirst => exact ⟨_, List.mem_of_getElem? hk, hfirst⟩
  · have haccounts := (run_accounts hs).1
    exact ⟨haccounts.keys, haccounts.keys_nodup⟩
  · obtain ⟨k, hrepeats⟩ := repeats_of_clashes hclash
    have hfails : ∃ f, run mode ps idField entities = .error f := by
      rw [exists_error_iff, exists_run_iff_not_offends]
      exact fun h => h k (.inl hrepeats)
    refine ⟨hfails, fun hanswers => ?_⟩
    obtain ⟨f, hf⟩ := hfails
    obtain ⟨k, hoffence, -⟩ := run_eq_error_iff.1 hf
    cases hoffence with
    | repeated hk hrepeats =>
      obtain ⟨i, hi⟩ := (positional_of_repeats hown hrepeats).2 _ hk
      exact ⟨i, k, hi ▸ hf⟩
    | failed hk _ hfirst =>
      obtain ⟨before, p, after, rfl, -, hp⟩ := hfirst
      have hmem : p ∈ before ++ p :: after := List.mem_append_right before List.mem_cons_self
      exact absurd hp (hanswers _ (List.mem_of_getElem? hk) p hmem _)

/-- A crate of a mass, without a name. -/
def unnamed (mass : Int) : Value := .map [(.text "mass", .int mass)]

theorem not_identified_unnamed (mass : Int) : ¬ Identified "id" (unnamed mass) := by
  rintro ⟨v, hv, -⟩
  simp [unnamed, Value.attribute?, Value.entry?, Value.isText] at hv

/-- Where only one of two entities has an id, own ids differ. -/
theorem ownIdsDiffer_of_first {d e : Value} (he : ¬ Identified idField e) :
    OwnIdsDiffer idField [d, e] := by
  intro j k _ e' hjk _ hk _ hide
  obtain ⟨hlt, -⟩ := List.getElem?_eq_some_iff.1 hk
  obtain rfl : k = 1 := by
    simp only [List.length_cons, List.length_nil] at hlt
    omega
  obtain rfl : e = e' := Option.some.inj hk
  exact absurd hide he

/-- A crate whose name is a number, and one without a name. -/
def zeroCrates : List Value := [crate "0" 5, unnamed 1]

theorem positional_zeroCrates :
    OwnIdsDiffer "id" zeroCrates ∧ ¬ Clashes "id" zeroCrates ∧
      ∃ s, run .all [heavy] "id" zeroCrates = .ok s ∧
        Named.names s.results = ids "id" zeroCrates ∧ (ids "id" zeroCrates).Nodup := by
  have hown : OwnIdsDiffer "id" zeroCrates := ownIdsDiffer_of_first (not_identified_unnamed 1)
  have hfree : ¬ Clashes "id" zeroCrates := by
    rintro ⟨j, k, d, e, hd, -, hidd, -, heq⟩
    match j, hd with
    | 0, hd =>
      obtain rfl := Option.some.inj hd
      exact absurd (congrArg (·.toList.head?) heq) (by simp [positionalId]; decide)
    | 1, hd =>
      obtain rfl := Option.some.inj hd
      exact not_identified_unnamed 1 hidd
  have hrun : ∃ s, run .all [heavy] "id" zeroCrates = .ok s := ⟨_, rfl⟩
  obtain ⟨s, hs⟩ := hrun
  exact ⟨hown, hfree, s, hs, ((run_positional hown).1 hfree).2 s hs⟩

/-- A name that starts with a `#` is the id of the other crate's position. -/
theorem clash_hash : OwnIdsDiffer "id" [crate "#1" 5, unnamed 1] ∧
    run .all [heavy] "id" [crate "#1" 5, unnamed 1] = .error (.duplicateId "#1" 1) :=
  ⟨ownIdsDiffer_of_first (not_identified_unnamed 1), rfl⟩

end EntitySelection.Selection
