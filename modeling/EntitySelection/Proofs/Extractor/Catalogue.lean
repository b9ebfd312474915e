import EntitySelection.Proofs.Extractor.Segments
import EntitySelection.Proofs.Text.Blank
import Mathlib.Data.List.Induction

/-!
# Catalogues and their logs

A catalogue is filled by a log of requests to keep an extractor under a name. A request is refused
if its name is blank, and changes nothing then. Otherwise the name is normalized, that is, stripped
and put in lower case.

**Theorem (`remembers_replay`).** After any log a catalogue holds, under each normalized name, the
extractor of the last request for it, and answers so however the name is spelled. It resolves an
attribute to the extractor that it holds for it, or else to that of the path, so that only a path
without a name on it is refused.

Asking whether a name is held, getting it and resolving it each normalize the name anew. That they
agree comes down to one table, which is followed request by request (`lookup_replay`).
-/

namespace EntitySelection

namespace Text

theorem lowerChar_ne_nil (c : Char) : lowerChar c ≠ [] := by
  unfold lowerChar
  split
  · simp
  · split <;> simp

/-- Lower case may make a text longer, but never makes it vanish. -/
theorem lowercase_eq_empty_iff {s : String} : lowercase s = "" ↔ s = "" := by
  rw [lowercase, ← String.toList_inj, ← String.toList_inj, String.toList_ofList]
  cases s.toList with
  | nil => simp [lowerAfter]
  | cons c cs =>
    have hform : lowerAfter [] (c :: cs) ≠ [] := by
      rw [lowerAfter]
      refine List.append_ne_nil_of_left_ne_nil ?_ _
      split
      · split <;> simp
      · exact lowerChar_ne_nil c
    simpa using hform

end Text

namespace Catalogue

/-! ## One request -/

/-- A request to keep an extractor under a name. -/
structure Filing where
  name : String
  extractor : Extractor

/-- A request that is not refused, and is for a normalized name. -/
def Filing.Under (q : Filing) (key : String) : Prop :=
  Text.isBlankText q.name = false ∧ normalize q.name = key

instance (q : Filing) (key : String) : Decidable (q.Under key) :=
  inferInstanceAs (Decidable (_ ∧ _))

variable {k l : Catalogue} {name key : String} {x : Extractor} {q : Filing} {log : List Filing}

theorem normalize_eq_empty_iff : normalize name = "" ↔ Text.isBlankText name = true := by
  rw [normalize, Text.lowercase_eq_empty_iff, Text.strip_eq_empty_iff]

theorem register_of_blank (h : Text.isBlankText name = true) (k : Catalogue) (x : Extractor) :
    k.register name x = .error .blankExtractorName := by
  rw [register, if_pos (normalize_eq_empty_iff.2 h)]

theorem register_of_not_blank (h : Text.isBlankText name = false) (k : Catalogue) (x : Extractor) :
    k.register name x = .ok ⟨Named.put k.entries (normalize name) x⟩ := by
  refine if_neg fun hempty => ?_
  rw [normalize_eq_empty_iff, h] at hempty
  cases hempty

/-! ## Logs -/

/-- The catalogue after a request; one that is refused changes nothing. -/
def attempt (k : Catalogue) (q : Filing) : Catalogue :=
  match k.register q.name q.extractor with
  | .ok l => l
  | .error _ => k

/-- The catalogue after the requests of a log. -/
def replay (k : Catalogue) (log : List Filing) : Catalogue := log.foldl attempt k

/-- The last request of a log for a normalized name. -/
def lastUnder? (log : List Filing) (key : String) : Option Filing :=
  (log.filter (·.Under key)).getLast?

theorem replay_concat (k : Catalogue) (log : List Filing) (q : Filing) :
    k.replay (log ++ [q]) = (k.replay log).attempt q := by
  rw [replay, replay, List.foldl_append, List.foldl_cons, List.foldl_nil]

theorem lastUnder?_concat (log : List Filing) (q : Filing) (key : String) :
    lastUnder? (log ++ [q]) key = if q.Under key then some q else lastUnder? log key := by
  rw [lastUnder?, List.filter_append]
  by_cases hq : q.Under key <;> simp [lastUnder?, hq]

theorem lastUnder?_isSome_iff : (lastUnder? log key).isSome ↔ ∃ q ∈ log, q.Under key := by
  simp [lastUnder?]

theorem lookup_attempt (k : Catalogue) (q : Filing) (key : String) :
    (k.attempt q).entries.lookup key =
      if q.Under key then some q.extractor else k.entries.lookup key := by
  rw [attempt]
  cases hblank : Text.isBlankText q.name with
  | true =>
    rw [register_of_blank hblank, if_neg]
    simp [Filing.Under, hblank]
  | false =>
    rw [register_of_not_blank hblank]
    rw [Named.lookup_put]
    simp only [Filing.Under, hblank, true_and, beq_iff_eq, eq_comm (a := key)]

/-- **The last word.** Under a normalized name is the extractor of the last request for it. -/
theorem lookup_replay (log : List Filing) (key : String) :
    (empty.replay log).entries.lookup key = (lastUnder? log key).map (·.extractor) := by
  induction log using List.reverseRecOn with
  | nil => rfl
  | append_singleton log q ih =>
    rw [replay_concat, lookup_attempt, lastUnder?_concat, ih]
    split <;> rfl

theorem names_attempt_nodup (h : k.names.Nodup) (q : Filing) : (k.attempt q).names.Nodup := by
  rw [attempt]
  cases hblank : Text.isBlankText q.name with
  | true =>
    rw [register_of_blank hblank]
    exact h
  | false =>
    rw [register_of_not_blank hblank]
    exact Named.names_put_nodup h _ _

theorem names_replay_nodup (log : List Filing) : (empty.replay log).names.Nodup := by
  induction log using List.reverseRecOn with
  | nil => exact List.nodup_nil
  | append_singleton log q ih =>
    rw [replay_concat]
    exact names_attempt_nodup ih q

theorem mem_names_replay_iff : key ∈ (empty.replay log).names ↔ ∃ q ∈ log, q.Under key := by
  rw [← lastUnder?_isSome_iff, ← Option.isSome_map, ← lookup_replay]
  exact Named.lookup_isSome_iff.symm

/-! ## What a catalogue answers -/

/-- Resolving asks whether the name is held, and then gets it. -/
theorem resolve_eq (k : Catalogue) (name : String) : k.resolve name =
    if k.contains (.text name) then k.get name else Extractor.field name := by
  rw [resolve, contains, get]
  cases k.find? name <;> rfl

/-- The answers of a catalogue are those of the log. -/
structure Remembers (log : List Filing) (k : Catalogue) : Prop where
  contains_iff : ∀ v, k.contains v = true ↔
    ∃ name, v = .text name ∧ ∃ q ∈ log, q.Under (normalize name)
  get : ∀ name q, lastUnder? log (normalize name) = some q → k.get name = .ok q.extractor
  get_unknown : ∀ name, (¬ ∃ q ∈ log, q.Under (normalize name)) →
    ∃ names listed, k.get name = .error (.unknownExtractor name names) ∧
      (Failure.unknownExtractor name names).message =
        "Extractor '" ++ name ++ "' not found. Available: " ++ Value.joined ", " listed ∧
      listed.Pairwise (· < ·) ∧ ∀ key, key ∈ listed ↔ ∃ q ∈ log, q.Under key
  agree : ∀ name, k.resolve name =
    if k.contains (.text name) then k.get name else Extractor.field name
  resolve : ∀ name, k.resolve name = match lastUnder? log (normalize name) with
    | some q => .ok q.extractor
    | none => Extractor.field name
  resolve_error : ∀ name f, k.resolve name = .error f → f = .emptyPath
  blank : ∀ name x, Text.isBlankText name = true →
    k.register name x = .error .blankExtractorName ∧ empty.replay (log ++ [⟨name, x⟩]) = k
  notBlank : ∀ name x, Text.isBlankText name = false →
    k.register name x = .ok (empty.replay (log ++ [⟨name, x⟩]))

/-- **A catalogue remembers the last request for each name.** -/
theorem remembers_replay (log : List Filing) : Remembers log (empty.replay log) := by
  have hfind (name : String) : (empty.replay log).find? name =
      (lastUnder? log (normalize name)).map (·.extractor) := lookup_replay log _
  have hresolve (name : String) : (empty.replay log).resolve name =
      match lastUnder? log (normalize name) with
      | some q => .ok q.extractor
      | none => Extractor.field name := by
    rw [resolve, hfind]
    cases lastUnder? log (normalize name) <;> rfl
  constructor
  case contains_iff =>
    intro v
    cases v with
    | text name => simp [contains, hfind, lastUnder?_isSome_iff]
    | null | flag | int | float | bytes | moment | list | map | object => simp [contains]
  case get =>
    intro name q hq
    rw [Catalogue.get, hfind, hq]
    rfl
  case get_unknown =>
    intro name hnone
    refine ⟨_, sortedNames (empty.replay log).names, ?_, rfl, ?_, fun key => ?_⟩
    · rw [← lastUnder?_isSome_iff, Option.not_isSome_iff_eq_none] at hnone
      rw [Catalogue.get, hfind, hnone]
      rfl
    · exact sortedNames_pairwise (names_replay_nodup log)
    · rw [mem_sortedNames, mem_names_replay_iff]
  case agree => exact resolve_eq _
  case resolve => exact hresolve
  case resolve_error =>
    intro name f hf
    rw [hresolve] at hf
    split at hf
    · cases hf
    · exact (Extractor.field_eq_error_iff.1 hf).2
  case blank =>
    intro name x hblank
    rw [replay_concat, attempt, register_of_blank hblank]
    exact ⟨rfl, rfl⟩
  case notBlank =>
    intro name x hblank
    rw [replay_concat, attempt, register_of_not_blank hblank]

end Catalogue

end EntitySelection
