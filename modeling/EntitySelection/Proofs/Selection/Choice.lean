import EntitySelection.Proofs.PredicateSet.Acceptance
import EntitySelection.Proofs.Selection.Decomposition
import EntitySelection.Selection.Choice

/-!
# The mode that is recorded and the mode that is applied

A mode may be given as data: by its name, as a text or in bytes (`MatchMode.check_eq_ok_iff`). A
selection records the mode that the data stand for, but applies the data as they are, and bytes are
not the name of a mode.

**Theorem (`runChoice_recorded`).** Unless the mode is given by bytes that spell "all", a selection
that succeeds is the selection by the mode that it records. Bytes that spell "all" are the one case
in which the two modes differ (`applied_eq_iff`): they record "all" and select by "any"
(`runChoice_of_spellsAll`).

The recorded mode plays no part in a run: recording another one commutes with each step, and
with all of them (`runFrom_record`). So a selection by a choice is the selection by the applied
mode, with the recorded mode written over its own (`runChoice_eq`).
-/

namespace EntitySelection

open Schema

/-! ## Modes as data -/

namespace MatchMode

theorem ofName?_eq_some_iff {s : String} {m : MatchMode} : ofName? s = some m ↔ s = m.name := by
  unfold ofName?
  cases m with
  | all => by_cases h : s = "all" <;> simp [h, name]
  | any => by_cases h : s = "all" <;> simp [h, name]

/-- Data stand for a mode when they are its name, as a text or in bytes. -/
theorem check_eq_ok_iff {v : Value} {m : MatchMode} : check v = .ok m ↔
    v = .text m.name ∨ ∃ bs, v = .bytes bs ∧ Text.Utf8.decode bs = .ok m.name := by
  have hwritten : check v = .ok m ↔ (Check.written? v).join = some m.name := by
    unfold check Check.choice
    cases (Check.written? v).join with
    | none => simp
    | some s =>
      rw [Option.bind_some, Option.some_inj, ← ofName?_eq_some_iff]
      cases ofName? s <;> simp
  rw [hwritten]
  cases v with
  | text s => simp [Check.written?]
  | bytes bs => cases h : Text.Utf8.decode bs <;> simp [Check.written?, h, Except.toOption]
  | _ => simp [Check.written?]

end MatchMode

namespace ModeChoice

variable {choice : ModeChoice} {m : MatchMode}

/-- Bytes that spell "all": they are recorded as that mode, but are not its name. -/
def SpellsAll (choice : ModeChoice) : Prop :=
  ∃ bs, choice = .data (.bytes bs) ∧ Text.Utf8.decode bs = .ok MatchMode.all.name

theorem recorded_eq_ok_iff : choice.recorded = .ok m ↔ choice = .mode m ∨
    choice = .data (.text m.name) ∨
      ∃ bs, choice = .data (.bytes bs) ∧ Text.Utf8.decode bs = .ok m.name := by
  cases choice with
  | mode m' => simp [recorded]
  | data v => simp [recorded, Checked.under_eq_ok_iff, MatchMode.check_eq_ok_iff]

/-- **The recorded mode is the applied one,** except for bytes that spell "all". -/
theorem applied_eq_iff (h : choice.recorded = .ok m) :
    choice.applied = m ↔ ¬ choice.SpellsAll := by
  rcases recorded_eq_ok_iff.1 h with rfl | rfl | ⟨bs, rfl, hbs⟩
  · simp [applied, SpellsAll]
  · cases m <;> simp [applied, SpellsAll, Value.isText, MatchMode.name]
  · cases m <;> simp [applied, SpellsAll, Value.isText, hbs, MatchMode.name]

end ModeChoice

/-! ## Recording another mode -/

namespace Selection

variable {mode m : MatchMode} {ps : List Predicate} {idField : String} {choice : ModeChoice}

/-- The selection, recorded under a mode. -/
def record (m : MatchMode) (s : Selection) : Selection := { s with mode := m }

theorem enter_record (s : Selection) (id : String) (os : List Outcome) :
    (record m s).enter mode id os = record m (s.enter mode id os) := by
  unfold enter
  by_cases happlicable : isApplicable os
  · by_cases hpasses : passes mode os
    · simp [record, happlicable, hpasses]
    · simp [record, happlicable, hpasses]
  · simp [record, happlicable]

/-- A step does not look at the recorded mode. -/
theorem step_record (s : Selection) (position : Nat) (entity : Value) :
    step mode ps idField (record m s) position entity =
      (step mode ps idField s position entity).map (record m) := by
  simp only [step, enter_record]
  rw [show (record m s).results = s.results from rfl]
  split
  · rfl
  · cases outcomes ps entity <;> rfl

theorem runFrom_record (s : Selection) (position : Nat) (entities : List Value) :
    runFrom mode ps idField (record m s) position entities =
      (runFrom mode ps idField s position entities).map (record m) := by
  induction entities generalizing s position with
  | nil => rfl
  | cons entity rest ih =>
    rw [runFrom, runFrom, step_record]
    cases step mode ps idField s position entity with
    | error f => rfl
    | ok t => exact ih t (position + 1)

/-! ## Selections by a choice -/

variable {entities : List Value} {s : Selection}

/-- A selection by data for a mode: only the recorded mode differs from that by the applied mode. -/
theorem runChoice_eq (hrecorded : choice.recorded = .ok m) :
    runChoice choice ps idField entities =
      (run choice.applied ps idField entities).map (record m) := by
  rw [runChoice, hrecorded]
  exact runFrom_record (start choice.applied) 0 entities

theorem recorded_of_runChoice (h : runChoice choice ps idField entities = .ok s) :
    choice.recorded = .ok s.mode := by
  cases hrecorded : choice.recorded with
  | failed is => simp [runChoice, hrecorded, Checked.toExcept] at h
  | ok m =>
    rw [runChoice_eq hrecorded] at h
    obtain ⟨t, -, rfl⟩ := map_eq_ok_iff.1 h
    rfl

/-- **The reported mode is the one applied,** unless it is given by bytes that spell "all". -/
theorem runChoice_recorded (hchoice : ¬ choice.SpellsAll)
    (h : runChoice choice ps idField entities = .ok s) :
    runChoice (.mode s.mode) ps idField entities = .ok s := by
  have hrecorded := recorded_of_runChoice h
  have happlied : choice.applied = s.mode := (ModeChoice.applied_eq_iff hrecorded).2 hchoice
  calc runChoice (.mode s.mode) ps idField entities
      = (run s.mode ps idField entities).map (record s.mode) := runChoice_eq rfl
    _ = (run choice.applied ps idField entities).map (record s.mode) := by rw [happlied]
    _ = runChoice choice ps idField entities := (runChoice_eq hrecorded).symm
    _ = .ok s := h

/-- The mode "any" may be given in bytes. -/
theorem recorded_bytesAny :
    ¬ ModeChoice.SpellsAll (.data (.bytes [0x61, 0x6e, 0x79])) ∧
      ∃ s, runChoice (.data (.bytes [0x61, 0x6e, 0x79])) [heavy, tagged] "id" crates = .ok s ∧
        s.mode = .any ∧ s.selectedIds = ["a", "c"] ∧
        runChoice (.mode s.mode) [heavy, tagged] "id" crates = .ok s := by
  have hchoice : ¬ ModeChoice.SpellsAll (.data (.bytes [0x61, 0x6e, 0x79])) := by
    intro h
    obtain ⟨bs, hbs, hall⟩ := h
    cases hbs
    exact absurd hall (by decide)
  obtain ⟨s, h, hmode, hselected⟩ : ∃ s,
      runChoice (.data (.bytes [0x61, 0x6e, 0x79])) [heavy, tagged] "id" crates = .ok s ∧
        s.mode = .any ∧ s.selectedIds = ["a", "c"] := ⟨_, rfl, rfl, rfl⟩
  exact ⟨hchoice, s, h, hmode, hselected, runChoice_recorded hchoice h⟩

/-- Bytes that spell "all" record that mode, and select by the mode "any". -/
theorem runChoice_of_spellsAll (h : choice.SpellsAll) :
    runChoice choice ps idField entities = (run .any ps idField entities).map (record .all) := by
  obtain ⟨bs, rfl, hbs⟩ := h
  exact runChoice_eq (ModeChoice.recorded_eq_ok_iff.2 (.inr (.inr ⟨bs, rfl, hbs⟩)))

/-- The crate without a mass does not pass both predicates, but is selected. -/
theorem misapplied_bytesAll :
    ∃ s t, runChoice (.data (.bytes [0x61, 0x6c, 0x6c])) [heavy, tagged] "id" crates = .ok s ∧
      s.mode = .all ∧ runChoice (.mode .all) [heavy, tagged] "id" crates = .ok t ∧
      s.selectedIds = ["a", "c"] ∧ t.selectedIds = ["a"] ∧
      s.rejectedIds = ["#1"] ∧ t.rejectedIds = ["#1", "c"] :=
  ⟨_, _, rfl, rfl, rfl, rfl, rfl, rfl, rfl⟩

end Selection

end EntitySelection
