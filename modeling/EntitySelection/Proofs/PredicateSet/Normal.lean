import EntitySelection.Proofs.PredicateSet.Records

/-!
# Accepted sets are in normal form

A set is in *normal form* when it has a predicate, all of its predicates are valid and have neither
their name nor their attribute within blanks, and no two of them have the same name (`Normal`).

**Theorem (`ofValue_toValue`).** Whatever the data were that a set was accepted from, the set is
accepted again from its own data, and selects as before.

What is accepted is in normal form (`normal_of_value`): the blanks are gone that were there, and
bytes have become texts. The data of a set list its predicates as records, and records in normal
form are accepted as they are (`ofValue_toValue_of_normal`).
-/

namespace EntitySelection

open Schema Text

theorem PredicateConfig.normal_of_check {r : Registry} {v : Value} {c : PredicateConfig}
    (h : check r v = .ok c) : c.stripped = c ∧ Valid r c := by
  obtain ⟨name, attr, -, hname, hname', hattr, hattr', hparses⟩ := config_of_check h
  have hstrip : strip c.name = c.name ∧ strip c.attr = c.attr := by
    rw [hname, hattr, strip_strip, strip_strip]
    exact ⟨rfl, rfl⟩
  constructor
  · rw [stripped, hstrip.1, hstrip.2]
  · refine ⟨strip_ne_empty_iff.1 ?_, strip_ne_empty_iff.1 ?_, hparses⟩
    · rwa [hstrip.1]
    · rwa [hstrip.2]

namespace PredicateSet

open PredicateConfig

variable {r : Registry} {v : Value} {set : PredicateSet}

/-- A set of the form in which sets are accepted. -/
structure Normal (r : Registry) (set : PredicateSet) : Prop where
  ne_nil : set.predicates ≠ []
  stripped : ∀ c ∈ set.predicates, c.stripped = c
  valid : ∀ c ∈ set.predicates, Valid r c
  nodup : (set.predicates.map (·.name)).Nodup

theorem normal_of_value (h : ofValue r v = .ok set) : Normal r set := by
  have hnormal : ∀ c ∈ set.predicates, c.stripped = c ∧ Valid r c := by
    intro c hc
    obtain ⟨item, hitem⟩ := exists_check_of_mem h hc
    exact normal_of_check hitem
  obtain ⟨-, -, -, -, -, -, hne, hnodup⟩ := ofValue_eq_ok_iff.1 h
  exact ⟨hne, fun c hc => (hnormal c hc).1, fun c hc => (hnormal c hc).2, hnodup⟩

/-- A set in normal form is accepted from its own data, as it is. -/
theorem ofValue_toValue_of_normal (h : Normal r set) : ofValue r set.toValue = .ok set := by
  have hstripped : set.predicates.map (·.stripped) = set.predicates :=
    List.map_congr_left h.stripped |>.trans set.predicates.map_id
  have hnames : strippedNames set.predicates = set.predicates.map (·.name) := by
    rw [strippedNames]
    exact List.map_congr_left fun c hc => congrArg PredicateConfig.name (h.stripped c hc)
  have hissues : issues r set.predicates = [] :=
    issues_eq_nil_iff.2 ⟨h.ne_nil, h.valid, hnames ▸ h.nodup⟩
  rw [ofValue_of_lists (lists_toValue set), if_pos hissues, hstripped]

/-- **Checking again changes nothing.** -/
theorem ofValue_toValue (h : ofValue r v = .ok set) :
    ofValue r set.toValue = .ok set ∧
      ∀ again, ofValue r set.toValue = .ok again → ∀ k s idField entities,
        again.select k s idField entities = set.select k s idField entities := by
  have hset := ofValue_toValue_of_normal (normal_of_value h)
  refine ⟨hset, fun again hagain k s idField entities => ?_⟩
  rw [hset] at hagain
  rw [Except.ok.inj hagain]

/-- The mode and the name are given in bytes, the latter with a blank, and there is a further entry. -/
def untidyData : Value := .map [(.text "match", .bytes [0x61, 0x6e, 0x79]),
  (.text "predicates", .list [.map [(.text "name", .bytes [0x68, 0x65, 0x61, 0x76, 0x79, 0x20]),
    (.text "attribute", .text " mass"), (.text "query", .text " >0"), (.text "note", .int 1)]])]

def tidied : PredicateSet := ⟨.any, [⟨"heavy", "mass", " >0", none⟩]⟩

theorem ofValue_tidied :
    ofValue .default untidyData = .ok tidied ∧ ofValue .default tidied.toValue = .ok tidied ∧
      ∀ again, ofValue .default tidied.toValue = .ok again → ∀ k s idField entities,
        again.select k s idField entities = tidied.select k s idField entities := by
  have h : ofValue .default untidyData = .ok tidied := rfl
  exact ⟨h, ofValue_toValue h⟩

end PredicateSet

end EntitySelection
