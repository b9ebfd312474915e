import EntitySelection.Proofs.PredicateSet.Acceptance
import EntitySelection.Proofs.Schema.Issues

/-!
# Predicate sets of records

A *record* holds a name, an attribute and a query as texts, and perhaps a description (`Holds`).
It is *valid* when neither its name nor its attribute is blank and its query can be read.

**Theorem (`ofValue_records`).** Data that list records are accepted as a set exactly when there is
a record, all of them are valid, and no two names are the same once the blanks around them are
gone. The set has the records in their order, with stripped names and attributes and with the
queries as they are. Data that are not accepted have an issue for each field that is in the way, by
record and then in the order name, attribute, query. If no field is, they have a single issue, which
is that there is no record, or that the name of a record repeats an earlier one; it is then the
first such record (`Refused`).

All issues of a record are known (`check_of_holds`), hence those of the list of records, and behind
those the issues of the list as such (`check_of_lists`).
-/

namespace EntitySelection

open Schema Checked Text

/-! ## One record -/

namespace PredicateConfig

variable {r : Registry} {es : List (Value × Value)} {v : Value} {c : PredicateConfig}

/-- A map holds the texts of a configured predicate. What else is in it does not count. -/
inductive Holds : Value → PredicateConfig → Prop
  | record {es : List (Value × Value)} {c : PredicateConfig}
      (hname : Value.entry? es "name" = some (.text c.name))
      (hattr : Value.entry? es "attribute" = some (.text c.attr))
      (hquery : Value.entry? es "query" = some (.text c.query))
      (hdescription : Value.entry? es "description" = c.description.map .text ∨
        c.description = none ∧ Value.entry? es "description" = some .null) :
      Holds (.map es) c

theorem holds_toValue (c : PredicateConfig) : Holds c.toValue c := by
  refine .record rfl rfl rfl ?_
  cases hd : c.description with
  | none => exact .inr ⟨rfl, by simp [Value.entry?, Value.isText]⟩
  | some d => exact .inl (by simp [Value.entry?, Value.isText])

structure Valid (r : Registry) (c : PredicateConfig) : Prop where
  name : ∃ x ∈ c.name.toList, isBlank x = false
  attr : ∃ x ∈ c.attr.toList, isBlank x = false
  parses : ∃ q, Query.parse r c.query = .ok q

/-- The record as it is accepted. -/
def stripped (c : PredicateConfig) : PredicateConfig :=
  { c with name := strip c.name, attr := strip c.attr }

def blankIssues (field s : String) : List Issue :=
  if isBlankText s then [⟨[.field field], .refused "must not be blank"⟩] else []

def queryIssues (r : Registry) (query : String) : List Issue :=
  match Query.parse r query with
  | .ok _ => []
  | .error bad => [⟨[.field "query"], .refused bad.message⟩]

/-- The issues of a record: one for each field that is in the way. -/
def issues (r : Registry) (c : PredicateConfig) : List Issue :=
  blankIssues "name" c.name ++ blankIssues "attribute" c.attr ++ queryIssues r c.query

theorem blankIssues_eq_nil_iff {field s : String} :
    blankIssues field s = [] ↔ ∃ x ∈ s.toList, isBlank x = false := by
  rw [← strip_ne_empty_iff, Ne, strip_eq_empty_iff, blankIssues]
  split <;> simp [*]

theorem queryIssues_eq_nil_iff {query : String} :
    queryIssues r query = [] ↔ ∃ q, Query.parse r query = .ok q := by
  unfold queryIssues
  cases Query.parse r query <;> simp

theorem issues_eq_nil_iff : c.issues r = [] ↔ Valid r c := by
  rw [issues, List.append_eq_nil_iff, List.append_eq_nil_iff, blankIssues_eq_nil_iff,
    blankIssues_eq_nil_iff, queryIssues_eq_nil_iff, and_assoc]
  exact ⟨fun h => ⟨h.1, h.2.1, h.2.2⟩, fun h => ⟨h.name, h.attr, h.parses⟩⟩

theorem required_notBlank {field s : String} (h : Value.entry? es field = some (.text s)) :
    Check.required es field notBlank = ofIssues (strip s) (blankIssues field s) := by
  simp only [Check.required, h, notBlank, blankIssues, Check.text, andThen, strip_eq_empty_iff]
  split <;> rfl

theorem required_queryText {query : String} (h : Value.entry? es "query" = some (.text query)) :
    Check.required es "query" (queryText r) = ofIssues query (queryIssues r query) := by
  simp only [Check.required, h, queryText, queryIssues, Check.text, andThen]
  cases Query.parse r query <;> rfl

/-- **The check of a record.** -/
theorem check_of_holds (h : Holds v c) : check r v = ofIssues c.stripped (c.issues r) := by
  cases h with
  | @record es c hname hattr hquery hdescription =>
    have hoptional : Check.optional es "description" none (Check.nullable Check.text) =
        ofIssues c.description [] := by
      refine Check.optional_eq_ok_iff.2 ?_
      rcases hdescription with hentry | ⟨hnone, hnull⟩
      · cases hd : c.description with
        | none => exact .inl ⟨by rw [hentry, hd]; rfl, rfl⟩
        | some d => exact .inr ⟨.text d, by rw [hentry, hd]; rfl, rfl⟩
      · exact .inr ⟨.null, hnull, by rw [hnone]; rfl⟩
    simp only [check, Check.record, required_notBlank hname, required_notBlank hattr,
      required_queryText hquery, hoptional, map_ofIssues, seq_ofIssues, List.append_nil]
    rfl

end PredicateConfig

/-! ## The list of records -/

namespace PredicateSet

open PredicateConfig

variable {r : Registry} {cs : List PredicateConfig} {mode : MatchMode} {data : Value}
  {is : List Issue}

/-- Data list these records, and ask for this mode. -/
inductive Lists : Value → MatchMode → List PredicateConfig → Prop
  | set {es : List (Value × Value)} {items : List Value} {mode : MatchMode}
      {cs : List PredicateConfig}
      (hpredicates : Value.entry? es "predicates" = some (.list items)) (hmode : Asks es mode)
      (hitems : List.Forall₂ Holds items cs) : Lists (.map es) mode cs

theorem lists_toValue (set : PredicateSet) : Lists set.toValue set.mode set.predicates := by
  refine .set rfl (.inr ⟨_, rfl, set.mode.check_name⟩) ?_
  rw [List.forall₂_map_left_iff, List.forall₂_same]
  exact fun c _ => holds_toValue c

/-- The names of records, as they are accepted. -/
def strippedNames (cs : List PredicateConfig) : List String := cs.map fun c => strip c.name

/-- The issues of records, each under the place of its record. -/
def recordIssues (r : Registry) (cs : List PredicateConfig) : List Issue :=
  (cs.mapIdx fun i c => (c.issues r).map (·.under (.index i))).flatten

/-- Why records are not accepted as a set. -/
inductive Refused (r : Registry) (cs : List PredicateConfig) : List Issue → Prop
  | fields (h : recordIssues r cs ≠ []) :
      Refused r cs ((recordIssues r cs).map (·.under (.field "predicates")))
  | empty (h : cs = []) : Refused r cs
      [⟨[.field "predicates"], .refused "PredicateSet must contain at least one predicate"⟩]
  | repeated {before after : List PredicateConfig} {c : PredicateConfig}
      (hvalid : ∀ c ∈ cs, Valid r c) (hsplit : cs = before ++ c :: after)
      (hbefore : (strippedNames before).Nodup) (hc : strip c.name ∈ strippedNames before) :
      Refused r cs [⟨[.field "predicates"],
        .refused ("Duplicate predicate name '" ++ strip c.name ++ "'")⟩]

/-- What becomes of records that are checked as a set. -/
structure Verdict (r : Registry) (mode : MatchMode) (cs : List PredicateConfig)
    (outcome : Except Failure PredicateSet) : Prop where
  accepts_iff : (∃ set, outcome = .ok set) ↔
    cs ≠ [] ∧ (∀ c ∈ cs, Valid r c) ∧ (strippedNames cs).Nodup
  accepted : ∀ set, outcome = .ok set → set = ⟨mode, cs.map (·.stripped)⟩
  refused : ∀ f, outcome = .error f → ∃ is, f = .invalid ⟨"PredicateSet", is⟩ ∧ Refused r cs is

theorem recordIssues_eq_nil_iff : recordIssues r cs = [] ↔ ∀ c ∈ cs, Valid r c := by
  simp only [recordIssues, List.flatten_eq_nil_iff, List.forall_mem_iff_getElem,
    List.length_mapIdx, List.getElem_mapIdx, List.map_eq_nil_iff, issues_eq_nil_iff]

/-! ## The list as such -/

/-- The issues of a list of predicates of these names. -/
def listIssues (names : List String) : List Issue :=
  if names.isEmpty then [⟨[], .refused "PredicateSet must contain at least one predicate"⟩]
  else match firstRepeated? [] names with
    | some name => [⟨[], .refused ("Duplicate predicate name '" ++ name ++ "'")⟩]
    | none => []

theorem distinct_eq (cs : List PredicateConfig) :
    distinct cs = ofIssues cs (listIssues (cs.map (·.name))) := by
  rw [distinct, listIssues, List.isEmpty_map]
  split
  · rfl
  · cases firstRepeated? [] (cs.map (·.name)) <;> rfl

/-- The first name that is repeated has not been repeated before. -/
theorem exists_split_of_firstRepeated? {seen names : List String} {s : String}
    (h : firstRepeated? seen names = some s) : ∃ before after, names = before ++ s :: after ∧
      before.Nodup ∧ (∀ t ∈ before, t ∉ seen) ∧ (s ∈ before ∨ s ∈ seen) := by
  induction names generalizing seen with
  | nil => cases h
  | cons t rest ih =>
    rw [firstRepeated?, List.contains_eq_mem] at h
    by_cases ht : t ∈ seen
    · obtain rfl : t = s := by simpa [ht] using h
      exact ⟨[], rest, rfl, List.nodup_nil, List.forall_mem_nil _, .inr ht⟩
    · rw [if_neg (by simpa using ht)] at h
      obtain ⟨before, after, rfl, hnodup, hall, hs⟩ := ih h
      have hnew : t ∉ before := fun hmem => hall t hmem List.mem_cons_self
      refine ⟨t :: before, after, rfl, List.nodup_cons.2 ⟨hnew, hnodup⟩, ?_, ?_⟩
      · intro u hu
        rcases List.mem_cons.1 hu with rfl | hu
        · exact ht
        · exact fun hmem => hall u hu (List.mem_cons_of_mem t hmem)
      · rcases hs with hs | hs
        · exact .inl (List.mem_cons_of_mem t hs)
        · rcases List.mem_cons.1 hs with rfl | hs
          · exact .inl List.mem_cons_self
          · exact .inr hs

/-- All that the names of a list can come to. -/
theorem listIssues_cases (names : List String) :
    (names = [] ∧ listIssues names =
        [⟨[], .refused "PredicateSet must contain at least one predicate"⟩]) ∨
      (∃ before s after, names = before ++ s :: after ∧ before.Nodup ∧ s ∈ before ∧
        listIssues names = [⟨[], .refused ("Duplicate predicate name '" ++ s ++ "'")⟩]) ∨
      names ≠ [] ∧ names.Nodup ∧ listIssues names = [] := by
  by_cases hempty : names = []
  · exact .inl ⟨hempty, by rw [hempty]; rfl⟩
  · rw [listIssues, if_neg (by simpa using hempty)]
    cases hrepeated : firstRepeated? [] names with
    | none => exact .inr (.inr ⟨hempty, (firstRepeated?_eq_none_iff.1 hrepeated).1, rfl⟩)
    | some s =>
      obtain ⟨before, after, hsplit, hnodup, -, hs⟩ := exists_split_of_firstRepeated? hrepeated
      have hmem : s ∈ before := hs.resolve_right List.not_mem_nil
      exact .inr (.inl ⟨before, s, after, hsplit, hnodup, hmem, rfl⟩)

theorem listIssues_eq_nil_iff {names : List String} :
    listIssues names = [] ↔ names ≠ [] ∧ names.Nodup := by
  rcases listIssues_cases names with
    ⟨hnil, his⟩ | ⟨before, s, after, hsplit, -, hmem, his⟩ | ⟨hne, hnodup, his⟩
  · rw [his]
    simp [hnil]
  · have hnot : ¬ names.Nodup := by
      rw [hsplit, List.nodup_append]
      exact fun h => h.2.2 s hmem s List.mem_cons_self rfl
    simp [his, hnot]
  · simp [hne, hnodup, his]

/-! ## The set -/

/-- The issues of a set: those of its records, or else those of the list. -/
def issues (r : Registry) (cs : List PredicateConfig) : List Issue :=
  (if recordIssues r cs = [] then listIssues (strippedNames cs) else recordIssues r cs).map
    (·.under (.field "predicates"))

/-- **The check of a set.** -/
theorem check_of_lists (h : Lists data mode cs) :
    check r data = ofIssues ⟨mode, cs.map (·.stripped)⟩ (issues r cs) := by
  cases h with
  | @set es items mode cs hpredicates hmode hitems =>
    have hoptional : Check.optional es "match" MatchMode.all MatchMode.check = ofIssues mode [] :=
      Check.optional_eq_ok_iff.2 hmode
    have hlist := Check.list_ofIssues (hitems.imp fun _ _ hitem => check_of_holds (r := r) hitem)
    have hdistinct : distinct (cs.map (·.stripped)) =
        ofIssues (cs.map (·.stripped)) (listIssues (strippedNames cs)) := by
      rw [distinct_eq, List.map_map]
      rfl
    have hcheck : checkPredicates r (.list items) = _ := hlist ▸ andThen_ofIssues hdistinct
    rw [check, Check.record, hoptional, Check.required_ofIssues hpredicates hcheck, map_ofIssues,
      seq_ofIssues]
    rfl

theorem issues_eq_nil_iff :
    issues r cs = [] ↔ cs ≠ [] ∧ (∀ c ∈ cs, Valid r c) ∧ (strippedNames cs).Nodup := by
  rw [← recordIssues_eq_nil_iff, issues, List.map_eq_nil_iff]
  by_cases hrecords : recordIssues r cs = []
  · rw [if_pos hrecords, listIssues_eq_nil_iff, strippedNames, Ne, List.map_eq_nil_iff]
    simp [hrecords]
  · rw [if_neg hrecords]
    simp [hrecords]

/-- Issues of a set are issues of its records, or it has no record or a repeated name. -/
theorem refused_issues (h : issues r cs ≠ []) : Refused r cs (issues r cs) := by
  rw [issues] at h ⊢
  by_cases hrecords : recordIssues r cs = []
  · rw [if_pos hrecords] at h ⊢
    rcases listIssues_cases (strippedNames cs) with
      ⟨hnil, his⟩ | ⟨names, s, names', hsplit, hnodup, hmem, his⟩ | ⟨-, -, his⟩
    · rw [his]
      exact .empty (List.map_eq_nil_iff.1 hnil)
    · obtain ⟨before, rest, rfl, rfl, hrest⟩ := List.map_eq_append_iff.1 hsplit
      obtain ⟨c, after, rfl, rfl, -⟩ := List.map_eq_cons_iff.1 hrest
      rw [his]
      exact .repeated (recordIssues_eq_nil_iff.1 hrecords) rfl hnodup hmem
    · simp [his] at h
  · rw [if_neg hrecords]
    exact .fields hrecords

/-- A set is accepted when nothing is wrong with its records. -/
theorem ofValue_of_lists (h : Lists data mode cs) :
    ofValue r data = if issues r cs = [] then .ok ⟨mode, cs.map (·.stripped)⟩
      else .error (.invalid ⟨"PredicateSet", issues r cs⟩) := by
  rw [ofValue, check_of_lists h, toExcept_ofIssues]
  by_cases hissues : issues r cs = []
  · rw [if_pos hissues, if_pos hissues]
  · rw [if_neg hissues, if_neg hissues]
    rfl

/-- **Records checked as a set** are accepted in normal form, or all that is wrong with them is
reported. -/
theorem ofValue_records (r : Registry) (h : Lists data mode cs) :
    Verdict r mode cs (ofValue r data) := by
  rw [ofValue_of_lists h]
  by_cases hissues : issues r cs = []
  · rw [if_pos hissues]
    constructor
    case accepts_iff => exact iff_of_true ⟨_, rfl⟩ (issues_eq_nil_iff.1 hissues)
    case accepted => exact fun set hset => (Except.ok.inj hset).symm
    case refused => exact fun f hf => nomatch hf
  · rw [if_neg hissues]
    constructor
    case accepts_iff =>
      refine iff_of_false ?_ (mt issues_eq_nil_iff.2 hissues)
      intro hset
      obtain ⟨set, hset⟩ := hset
      cases hset
    case accepted => exact fun set hset => nomatch hset
    case refused =>
      intro f hf
      exact ⟨_, (Except.error.inj hf).symm, refused_issues hissues⟩

/-- The first record has two fields in the way and the second has one. The third repeats a name. -/
def troubled : PredicateSet := ⟨.all, [⟨" ", "mass", ">= x", none⟩,
  ⟨"b", "\t", "> 1", some "light"⟩, ⟨"b ", "mass", "> 1", none⟩]⟩

theorem records_troubled :
    Lists troubled.toValue .all troubled.predicates ∧
      Verdict .default .all troubled.predicates (ofValue .default troubled.toValue) ∧
      ofValue .default troubled.toValue = .error (.invalid ⟨"PredicateSet", [
        ⟨[.field "predicates", .index 0, .field "name"], .refused "must not be blank"⟩,
        ⟨[.field "predicates", .index 0, .field "query"],
          .refused "Malformed comparison query '>= x': 'x' is not a number"⟩,
        ⟨[.field "predicates", .index 1, .field "attribute"], .refused "must not be blank"⟩]⟩) := by
  have h : Lists troubled.toValue .all troubled.predicates := lists_toValue troubled
  exact ⟨h, ofValue_records .default h, rfl⟩

end PredicateSet

end EntitySelection
