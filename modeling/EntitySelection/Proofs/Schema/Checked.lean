import EntitySelection.Schema.Checked
import Mathlib.Data.List.Forall2

/-!
# Data that pass a check

What the parts of an accepted piece of data are: each combination of checks succeeds exactly when
its parts do.
-/

namespace EntitySelection.Schema

namespace Checked

variable {α β : Type}

@[simp] theorem problem_ne_ok {p : Problem} {a : α} : problem p ≠ ok a := nofun

theorem map_eq_ok_iff {x : Checked α} {f : α → β} {b : β} :
    f <$> x = .ok b ↔ ∃ a, x = .ok a ∧ f a = b := by
  change map f x = .ok b ↔ _
  cases x <;> simp [map]

theorem seq_eq_ok_iff {f : Checked (α → β)} {x : Checked α} {b : β} :
    f <*> x = .ok b ↔ ∃ g a, f = .ok g ∧ x = .ok a ∧ g a = b := by
  change map (fun p => p.1 p.2) (both f x) = .ok b ↔ _
  cases f <;> cases x <;> simp [map, both]

theorem under_eq_ok_iff {s : Step} {x : Checked α} {a : α} :
    x.under s = .ok a ↔ x = .ok a := by
  cases x <;> simp [under]

theorem andThen_eq_ok_iff {x : Checked α} {f : α → Checked β} {b : β} :
    x.andThen f = .ok b ↔ ∃ a, x = .ok a ∧ f a = .ok b := by
  cases x <;> simp [andThen]

end Checked

namespace Check

variable {α : Type}

theorem record_eq_ok_iff {model : String} {fields : List (Value × Value) → Checked α} {v : Value}
    {a : α} : record model fields v = .ok a ↔ ∃ es, v = .map es ∧ fields es = .ok a := by
  cases v <;> simp [record]

theorem required_eq_ok_iff {es : List (Value × Value)} {name : String} {check : Check α} {a : α} :
    required es name check = .ok a ↔ ∃ v, Value.entry? es name = some v ∧ check v = .ok a := by
  unfold required
  cases Value.entry? es name with
  | none => simp
  | some v => simp [Checked.under_eq_ok_iff]

/-- A field with a default is missing, or passes the check. -/
theorem optional_eq_ok_iff {es : List (Value × Value)} {name : String} {default : α}
    {check : Check α} {a : α} :
    optional es name default check = .ok a ↔
      (Value.entry? es name = none ∧ a = default) ∨
        ∃ v, Value.entry? es name = some v ∧ check v = .ok a := by
  unfold optional
  cases Value.entry? es name with
  | none => simp [eq_comm]
  | some v => simp [Checked.under_eq_ok_iff]

theorem itemsFrom_eq_ok_iff {check : Check α} {position : Nat} {vs : List Value} {as : List α} :
    itemsFrom check position vs = .ok as ↔ List.Forall₂ (fun v a => check v = .ok a) vs as := by
  induction vs generalizing position as with
  | nil => simp [itemsFrom, eq_comm]
  | cons v vs ih =>
    rw [List.forall₂_cons_left_iff]
    refine Checked.map_eq_ok_iff.trans ?_
    simp only [Prod.exists, Checked.both_eq_ok, Checked.under_eq_ok_iff, ih]
    constructor
    · intro h
      obtain ⟨a, as, ⟨ha, has⟩, rfl⟩ := h
      exact ⟨a, as, ha, has, rfl⟩
    · intro h
      obtain ⟨a, as, ha, has, rfl⟩ := h
      exact ⟨a, as, ⟨ha, has⟩, rfl⟩

theorem list_eq_ok_iff {check : Check α} {v : Value} {as : List α} :
    list check v = .ok as ↔
      ∃ vs, v = .list vs ∧ List.Forall₂ (fun v a => check v = .ok a) vs as := by
  cases v <;> simp [list, itemsFrom_eq_ok_iff]

end Check

end EntitySelection.Schema
