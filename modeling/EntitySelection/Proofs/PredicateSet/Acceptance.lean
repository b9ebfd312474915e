import EntitySelection.PredicateSet
import EntitySelection.Proofs.Schema.Checked
import EntitySelection.Proofs.Success
import EntitySelection.Proofs.Text.Blank

/-!
# Accepted predicate sets

What is known of data that are accepted as a predicate set. The data of a configured predicate
hold a name, an attribute and a query (`Writes`); an accepted predicate keeps the query as it is
and the other two without the blanks around them, neither of which is blank
(`config_of_check`). The set has one predicate for each item of the list, in order, no two of one
name, and the mode that is given or else "all" (`ofValue_eq_ok_iff`).
-/

namespace EntitySelection

open Schema

/-- A mode is found again by its name. -/
theorem MatchMode.check_name (m : MatchMode) : MatchMode.check (.text m.name) = .ok m := by
  cases m <;> rfl

namespace PredicateConfig

/-- The data of a configured predicate hold this name, attribute and query. -/
def Writes (v : Value) (name attr query : String) : Prop :=
  ∃ es, v = .map es ∧
    (∃ w, Value.entry? es "name" = some w ∧ Check.text w = .ok name) ∧
    (∃ w, Value.entry? es "attribute" = some w ∧ Check.text w = .ok attr) ∧
    (∃ w, Value.entry? es "query" = some w ∧ Check.text w = .ok query)

theorem notBlank_eq_ok_iff {v : Value} {s : String} :
    notBlank v = .ok s ↔ ∃ t, Check.text v = .ok t ∧ Text.strip t ≠ "" ∧ s = Text.strip t := by
  unfold notBlank
  rw [Checked.andThen_eq_ok_iff]
  refine exists_congr fun t => and_congr_right fun _ => ?_
  split
  · next h => simp [h]
  · next h => simp [h, eq_comm]

theorem queryText_eq_ok_iff {r : Registry} {v : Value} {s : String} :
    queryText r v = .ok s ↔ Check.text v = .ok s ∧ ∃ q, Query.parse r s = .ok q := by
  unfold queryText
  rw [Checked.andThen_eq_ok_iff]
  constructor
  · intro hex
    obtain ⟨t, ht, h⟩ := hex
    split at h
    · next q hq =>
      obtain rfl : t = s := by simpa using h
      exact ⟨ht, q, hq⟩
    · simp at h
  · intro h
    obtain ⟨hs, q, hq⟩ := h
    exact ⟨s, hs, by rw [hq]⟩

/-- An accepted predicate and the data that it comes from. -/
theorem config_of_check {r : Registry} {v : Value} {c : PredicateConfig}
    (h : check r v = .ok c) :
    ∃ name attr, Writes v name attr c.query ∧ c.name = Text.strip name ∧ c.name ≠ "" ∧
      c.attr = Text.strip attr ∧ c.attr ≠ "" ∧ ∃ q, Query.parse r c.query = .ok q := by
  obtain ⟨es, rfl, hfields⟩ := Check.record_eq_ok_iff.1 h
  obtain ⟨_, description, hthree, -, rfl⟩ := Checked.seq_eq_ok_iff.1 hfields
  obtain ⟨_, query, htwo, hquery, rfl⟩ := Checked.seq_eq_ok_iff.1 hthree
  obtain ⟨_, attr, hone, hattr, rfl⟩ := Checked.seq_eq_ok_iff.1 htwo
  obtain ⟨name, hname, rfl⟩ := Checked.map_eq_ok_iff.1 hone
  obtain ⟨vn, hvn, hname⟩ := Check.required_eq_ok_iff.1 hname
  obtain ⟨va, hva, hattr⟩ := Check.required_eq_ok_iff.1 hattr
  obtain ⟨vq, hvq, hquery⟩ := Check.required_eq_ok_iff.1 hquery
  obtain ⟨tn, htn, hn, rfl⟩ := notBlank_eq_ok_iff.1 hname
  obtain ⟨ta, hta, ha, rfl⟩ := notBlank_eq_ok_iff.1 hattr
  obtain ⟨htq, q, hq⟩ := queryText_eq_ok_iff.1 hquery
  exact ⟨tn, ta, ⟨es, rfl, ⟨vn, hvn, htn⟩, ⟨va, hva, hta⟩, vq, hvq, htq⟩,
    rfl, hn, rfl, ha, q, hq⟩

end PredicateConfig

namespace PredicateSet

/-- The mode that the entries of a predicate set ask for: "all" unless one is given. -/
def Asks (es : List (Value × Value)) (mode : MatchMode) : Prop :=
  (Value.entry? es "match" = none ∧ mode = .all) ∨
    ∃ v, Value.entry? es "match" = some v ∧ MatchMode.check v = .ok mode

theorem firstRepeated?_eq_none_iff {seen names : List String} :
    firstRepeated? seen names = none ↔ names.Nodup ∧ ∀ s ∈ names, s ∉ seen := by
  induction names generalizing seen with
  | nil => simp [firstRepeated?]
  | cons s rest ih =>
    rw [firstRepeated?, List.contains_eq_mem, List.nodup_cons, List.forall_mem_cons]
    by_cases hs : s ∈ seen
    · simp [hs]
    · simp only [hs, decide_false, Bool.false_eq_true, if_false, ih, List.mem_cons, not_or]
      constructor
      · intro h
        obtain ⟨hnodup, hall⟩ := h
        exact ⟨⟨fun hmem => (hall s hmem).1 rfl, hnodup⟩, not_false, fun t ht => (hall t ht).2⟩
      · intro h
        obtain ⟨⟨hnot, hnodup⟩, -, hall⟩ := h
        exact ⟨hnodup, fun t ht => ⟨fun heq => hnot (heq ▸ ht), hall t ht⟩⟩

/-- A set has a predicate, and no two of its names are the same. -/
theorem distinct_eq_ok_iff {cs cs' : List PredicateConfig} :
    distinct cs = .ok cs' ↔ cs = cs' ∧ cs ≠ [] ∧ (cs.map (·.name)).Nodup := by
  have hnone : firstRepeated? [] (cs.map (·.name)) = none ↔ (cs.map (·.name)).Nodup := by
    simp [firstRepeated?_eq_none_iff]
  rw [← hnone, distinct]
  by_cases hempty : cs = []
  · simp [hempty]
  · rw [if_neg (by simpa using hempty)]
    cases firstRepeated? [] (cs.map (·.name)) with
    | none => simp [hempty]
    | some name => simp

theorem checkPredicates_eq_ok_iff {r : Registry} {v : Value} {cs : List PredicateConfig} :
    checkPredicates r v = .ok cs ↔ ∃ items, v = .list items ∧
      List.Forall₂ (fun item c => PredicateConfig.check r item = .ok c) items cs ∧
      cs ≠ [] ∧ (cs.map (·.name)).Nodup := by
  rw [checkPredicates, Checked.andThen_eq_ok_iff]
  simp only [Check.list_eq_ok_iff, distinct_eq_ok_iff]
  constructor
  · intro h
    obtain ⟨_, ⟨items, rfl, hitems⟩, rfl, hdistinct⟩ := h
    exact ⟨items, rfl, hitems, hdistinct⟩
  · intro h
    obtain ⟨items, rfl, hitems, hdistinct⟩ := h
    exact ⟨cs, ⟨items, rfl, hitems⟩, rfl, hdistinct⟩

/-- **Acceptance.** Data are accepted as a set when they are a map of a mode and a list, each item
of the list is accepted as a predicate, and the predicates differ in their names. -/
theorem ofValue_eq_ok_iff {r : Registry} {v : Value} {set : PredicateSet} :
    ofValue r v = .ok set ↔ ∃ es items, v = .map es ∧
      Value.entry? es "predicates" = some (.list items) ∧ Asks es set.mode ∧
      List.Forall₂ (fun item c => PredicateConfig.check r item = .ok c) items set.predicates ∧
      set.predicates ≠ [] ∧ (set.predicates.map (·.name)).Nodup := by
  have hcheck : ofValue r v = .ok set ↔ check r v = .ok set := by
    unfold ofValue
    cases check r v <;> simp [Checked.toExcept]
  rw [hcheck, check, Check.record_eq_ok_iff]
  constructor
  · intro h
    obtain ⟨es, rfl, hfields⟩ := h
    obtain ⟨_, cs, hone, hcs, rfl⟩ := Checked.seq_eq_ok_iff.1 hfields
    obtain ⟨mode, hmode, rfl⟩ := Checked.map_eq_ok_iff.1 hone
    obtain ⟨vp, hvp, hcs⟩ := Check.required_eq_ok_iff.1 hcs
    obtain ⟨items, rfl, hitems, hdistinct⟩ := checkPredicates_eq_ok_iff.1 hcs
    exact ⟨es, items, rfl, hvp, Check.optional_eq_ok_iff.1 hmode, hitems, hdistinct⟩
  · intro h
    obtain ⟨es, items, rfl, hvp, hmode, hitems, hdistinct⟩ := h
    have hcs : checkPredicates r (.list items) = .ok set.predicates :=
      checkPredicates_eq_ok_iff.2 ⟨items, rfl, hitems, hdistinct⟩
    refine ⟨es, rfl, Checked.seq_eq_ok_iff.2 ⟨mk set.mode, set.predicates, ?_, ?_, rfl⟩⟩
    · exact Checked.map_eq_ok_iff.2 ⟨set.mode, Check.optional_eq_ok_iff.2 hmode, rfl⟩
    · exact Check.required_eq_ok_iff.2 ⟨_, hvp, hcs⟩

/-- An accepted set and the data that it comes from. -/
theorem set_of_value {r : Registry} {v : Value} {set : PredicateSet}
    (h : ofValue r v = .ok set) :
    ∃ es items, v = .map es ∧ Value.entry? es "predicates" = some (.list items) ∧
      Asks es set.mode ∧ set.predicates ≠ [] ∧
      List.Forall₂ (fun item c => PredicateConfig.check r item = .ok c) items set.predicates := by
  obtain ⟨es, items, hv, hpredicates, hmode, hitems, hne, -⟩ := ofValue_eq_ok_iff.1 h
  exact ⟨es, items, hv, hpredicates, hmode, hne, hitems⟩

/-- Every predicate of an accepted set is that of an accepted item. -/
theorem exists_check_of_mem {r : Registry} {v : Value} {set : PredicateSet}
    (h : ofValue r v = .ok set) {c : PredicateConfig} (hc : c ∈ set.predicates) :
    ∃ item, PredicateConfig.check r item = .ok c := by
  obtain ⟨-, items, -, -, -, hitems, -⟩ := ofValue_eq_ok_iff.1 h
  obtain ⟨i, hi, rfl⟩ := List.getElem_of_mem hc
  exact ⟨items.get ⟨i, hitems.length_eq ▸ hi⟩, hitems.get _ hi⟩

end PredicateSet

end EntitySelection
