import EntitySelection.Proofs.Extractor.Segments
import EntitySelection.Proofs.PredicateSet.Acceptance
import EntitySelection.Proofs.Registry.Log

/-!
# Predicates of accepted sets

An accepted set is turned into predicates one configuration at a time: the extractor of the
attribute is found (`resolve_eq_ok_iff`) and the query is read again (`build_eq_ok_iff`).

**Theorem (`exists_build_iff`).** The predicates of an accepted set can be built exactly when each
of its attributes has an extractor of its own or is more than dots. They are then one for each
configuration, in order, each with the query that its text gives. Otherwise building fails for
want of a path, and for no other reason.

Reading the queries never fails, since they were read when the set was accepted. Attributes are
only checked for blanks then, and a path of dots is not blank (`unbuildable_dots`).
-/

namespace EntitySelection

/-! ## The extractor of an attribute -/

namespace Catalogue

variable {k : Catalogue} {attr : String} {x : Extractor}

/-- The extractor that an attribute stands for: the one kept under the attribute, stripped and in
lower case, if there is one, and otherwise the one of the path. -/
inductive Chosen (k : Catalogue) (attr : String) : Extractor → Prop
  | kept {x : Extractor} :
      k.entries.lookup (Text.lowercase (Text.strip attr)) = some x → Chosen k attr x
  | path {x : Extractor} :
      k.entries.lookup (Text.lowercase (Text.strip attr)) = none →
      Extractor.field attr = .ok x → Chosen k attr x

/-- An extractor is kept under the attribute. -/
def Keeps (k : Catalogue) (attr : String) : Prop :=
  ∃ x, k.entries.lookup (Text.lowercase (Text.strip attr)) = some x

theorem resolve_eq_ok_iff : k.resolve attr = .ok x ↔ k.Chosen attr x := by
  have hfind : k.find? attr = k.entries.lookup (Text.lowercase (Text.strip attr)) := rfl
  unfold resolve
  constructor
  · intro h
    split at h
    · next y hy =>
      obtain rfl := Except.ok.inj h
      exact .kept (hfind ▸ hy)
    · next hnone => exact .path (hfind ▸ hnone) h
  · intro h
    cases h with
    | kept hkept => rw [hfind, hkept]
    | path hnone hfield => rw [hfind, hnone, hfield]

/-- Blanks around a path do not matter. -/
theorem field_strip (path : String) : Extractor.field (Text.strip path) = Extractor.field path := by
  rw [Extractor.field, Extractor.field, Path.segments_strip]

theorem chosen_of_resolve (h : k.resolve (Text.strip attr) = .ok x) : k.Chosen attr x := by
  have hstrip := Text.strip_strip attr
  cases resolve_eq_ok_iff.1 h with
  | kept hkept =>
    rw [hstrip] at hkept
    exact .kept hkept
  | path hnone hfield =>
    rw [hstrip] at hnone
    rw [field_strip] at hfield
    exact .path hnone hfield

/-- An attribute has an extractor if one is kept under it or it is a path. -/
theorem exists_resolve_iff :
    (∃ x, k.resolve attr = .ok x) ↔ k.Keeps attr ∨ Path.segments attr ≠ [] := by
  rw [← Extractor.exists_field_iff]
  simp only [resolve_eq_ok_iff]
  constructor
  · intro h
    obtain ⟨x, hx⟩ := h
    cases hx with
    | kept hkept => exact .inl ⟨x, hkept⟩
    | path _ hfield => exact .inr ⟨x, hfield⟩
  · intro h
    cases hlookup : k.entries.lookup (Text.lowercase (Text.strip attr)) with
    | some x => exact ⟨x, .kept hlookup⟩
    | none =>
      obtain ⟨y, hy⟩ | ⟨x, hfield⟩ := h
      · simp [hlookup] at hy
      · exact ⟨x, .path hlookup hfield⟩

theorem eq_emptyPath_of_resolve {f : Failure} (h : k.resolve attr = .error f) : f = .emptyPath := by
  unfold resolve at h
  split at h
  · simp at h
  · exact (Extractor.field_eq_error_iff.1 h).2

end Catalogue

/-! ## One configuration -/

namespace PredicateConfig

variable {k : Catalogue} {r : Registry} {c : PredicateConfig} {p : Predicate}

theorem build_eq_ok_iff :
    c.build k r = .ok p ↔ ∃ x q, k.resolve c.attr = .ok x ∧ Query.parse r c.query = .ok q ∧
      p = .numeric r q.draft x (Predicate.nameOr Predicate.numericKind c.name) := by
  unfold build
  rw [bind_eq_ok_iff]
  refine exists_congr fun x => ?_
  constructor
  · intro hex
    obtain ⟨hx, h⟩ := hex
    split at h
    · next q hq => exact ⟨q, hx, hq, (pure_eq_ok_iff.1 h).symm⟩
    · simp at h
  · intro h
    obtain ⟨q, hx, hq, rfl⟩ := h
    exact ⟨hx, by rw [hq]; rfl⟩

/-- Where the query can be read, only the attribute can stand in the way. -/
theorem resolve_of_build_eq_error {q : Query} {f : Failure} (hq : Query.parse r c.query = .ok q)
    (h : c.build k r = .error f) : k.resolve c.attr = .error f := by
  unfold build at h
  cases hx : k.resolve c.attr with
  | error g =>
    obtain rfl : g = f := by simpa [hx, bind, Except.bind] using h
    rfl
  | ok x => simp [hx, hq, bind, Except.bind, pure, Except.pure] at h

/-- What an accepted configuration holds. -/
structure Accepted (r : Registry) (c : PredicateConfig) : Prop where
  name_ne : c.name ≠ ""
  attr_stripped : Text.strip c.attr = c.attr
  parses : ∃ q, Query.parse r c.query = .ok q

/-- The predicate of a configuration: it has the name, reads the attribute and compares with the
query of the text. -/
def Builds (k : Catalogue) (r : Registry) (c : PredicateConfig) (p : Predicate) : Prop :=
  ∃ x q, k.Chosen c.attr x ∧ Query.parse r c.query = .ok q ∧ p = .numeric r q.draft x c.name

theorem Accepted.builds (hc : Accepted r c) (h : c.build k r = .ok p) : Builds k r c p := by
  obtain ⟨x, q, hx, hq, rfl⟩ := build_eq_ok_iff.1 h
  refine ⟨x, q, Catalogue.resolve_eq_ok_iff.1 hx, hq, ?_⟩
  rw [Predicate.nameOr, if_neg hc.name_ne]

/-- A stripped attribute is a path unless it is nothing but dots. -/
theorem Accepted.segments_ne_nil_iff (hc : Accepted r c) :
    Path.segments c.attr ≠ [] ↔ ∃ ch ∈ c.attr.toList, ch ≠ '.' := by
  have htrim : Text.trim Text.isBlank c.attr.toList = c.attr.toList := by
    have h := congrArg String.toList hc.attr_stripped
    rwa [Text.strip, String.toList_ofList] at h
  rw [Ne, Path.segments_eq_nil_iff, htrim]
  push Not
  rfl

theorem Accepted.exists_predicate_iff (hc : Accepted r c) :
    (∃ p, c.build k r = .ok p) ↔ k.Keeps c.attr ∨ ∃ ch ∈ c.attr.toList, ch ≠ '.' := by
  rw [← hc.segments_ne_nil_iff, ← Catalogue.exists_resolve_iff]
  obtain ⟨q, hq⟩ := hc.parses
  simp only [build_eq_ok_iff]
  constructor
  · intro h
    obtain ⟨_, x, _, hx, -, -⟩ := h
    exact ⟨x, hx⟩
  · intro h
    obtain ⟨x, hx⟩ := h
    exact ⟨_, x, q, hx, hq, rfl⟩

end PredicateConfig

/-! ## Accepted sets -/

namespace PredicateSet

open PredicateConfig

variable {k : Catalogue} {log : List Registration}

theorem accepted_of_value {r : Registry} {v : Value} {set : PredicateSet}
    (h : ofValue r v = .ok set) : ∀ c ∈ set.predicates, Accepted r c := by
  intro c hc
  obtain ⟨item, hcheck⟩ := exists_check_of_mem h hc
  obtain ⟨name, attr, -, -, hne, hattr, -, hparses⟩ := config_of_check hcheck
  exact ⟨hne, by rw [hattr, Text.strip_strip], hparses⟩

/-- **An accepted set can be built** where each attribute has an extractor of its own or is more
than dots. -/
theorem exists_build_iff {data : Value} {set : PredicateSet}
    (haccepted : ofValue (Registry.empty.replay log) data = .ok set) :
    ((∃ ps, set.build k (Registry.empty.replay log) = .ok ps) ↔
        ∀ c ∈ set.predicates, k.Keeps c.attr ∨ ∃ ch ∈ c.attr.toList, ch ≠ '.') ∧
      (∀ ps, set.build k (Registry.empty.replay log) = .ok ps →
        List.Forall₂ (Builds k (Registry.empty.replay log)) set.predicates ps) ∧
      ∀ f, set.build k (Registry.empty.replay log) = .error f → f = .emptyPath := by
  have hset := accepted_of_value haccepted
  refine ⟨?_, fun ps hps => ?_, fun f hf => ?_⟩
  · rw [build, exists_mapM_iff]
    exact forall₂_congr fun c hc => (hset c hc).exists_predicate_iff
  · have hboth := (List.forall₂_and_left _ _).2 ⟨hset, mapM_eq_ok_iff.1 hps⟩
    exact hboth.imp fun c p h => h.1.builds h.2
  · obtain ⟨c, hc, hbuild⟩ := exists_mem_of_mapM_eq_error hf
    obtain ⟨q, hq⟩ := (hset c hc).parses
    exact Catalogue.eq_emptyPath_of_resolve (resolve_of_build_eq_error hq hbuild)

def dotsData : Value := .map [(.text "predicates", .list [.map [(.text "name", .text "dots"),
  (.text "attribute", .text " . "), (.text "query", .text "> 0")]])]

def dots : PredicateSet := ⟨.all, [⟨"dots", ".", "> 0", none⟩]⟩

/-- A catalogue that keeps an extractor under a dot. -/
def dotKept : Catalogue := ⟨[(".", fun _ => .ok .null)]⟩

theorem builds_dots_kept :
    ofValue (Registry.empty.replay Registry.defaultRegistrations) dotsData = .ok dots ∧
      ∃ ps, dots.build dotKept (Registry.empty.replay Registry.defaultRegistrations) = .ok ps ∧
        List.Forall₂ (Builds dotKept (Registry.empty.replay Registry.defaultRegistrations))
          dots.predicates ps := by
  have haccepted :
      ofValue (Registry.empty.replay Registry.defaultRegistrations) dotsData = .ok dots := rfl
  obtain ⟨hexists, hbuilds, -⟩ := exists_build_iff (k := dotKept) haccepted
  obtain ⟨ps, hps⟩ := hexists.2 fun c hc => by
    obtain rfl := List.mem_singleton.1 hc
    exact .inl ⟨_, rfl⟩
  exact ⟨haccepted, ps, hps, hbuilds ps hps⟩

/-- Nothing is kept under the dot: the set is accepted all the same, and cannot be built. -/
theorem unbuildable_dots :
    ofValue (Registry.empty.replay Registry.defaultRegistrations) dotsData = .ok dots ∧
      dots.build .empty (Registry.empty.replay Registry.defaultRegistrations) =
        .error .emptyPath :=
  ⟨rfl, rfl⟩

end PredicateSet

end EntitySelection
