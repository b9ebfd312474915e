import EntitySelection.Proofs.Schema.Checked
import EntitySelection.Workshop.Item

/-!
# Assignments to a mod

An assignment is accepted when the value stands for one of the kind that the property takes
(`Fits`, `exists_assign_iff`). It then changes its own property (`fits_of_assign`) and no other
(`get_of_assign`). A refused value is reported as issues of the field that it was meant for
(`invalid_of_assign`).

A mod is always fit to be checked: its data pass the check of its model and give the mod again
(`check_toValue`).
-/

namespace EntitySelection.Workshop

open Schema

variable {m after : ModInfo} {p : Property} {v : Value} {f : Failure}

/-- An id is a whole number that is not negative, taken as it is. -/
theorem ModItem.checkId_eq_ok_iff {n : Nat} : checkId v = .ok n ↔ Check.int v = .ok (n : Int) := by
  rw [checkId, Check.atLeast]
  cases Check.int v with
  | failed is => simp [Checked.andThen, Checked.map]
  | ok i =>
    by_cases hi : 0 ≤ i
    · simp only [Checked.andThen, if_pos hi, Checked.map, Checked.ok.injEq]
      omega
    · simp only [Checked.andThen, if_neg hi, Checked.problem, Checked.map, Checked.ok.injEq,
        reduceCtorEq, false_iff]
      omega

/-- The value that a property takes when `v` is assigned to it. -/
inductive Fits : Property → Value → Value → Prop
  | name {v : Value} {s : String} : Check.text v = .ok s → Fits .name v (.text s)
  | friendlyName {v : Value} {s : String} : Check.text v = .ok s → Fits .friendlyName v (.text s)
  | publishedFileId {v : Value} {n : Int} : Check.int v = .ok n → 0 ≤ n →
      Fits .publishedFileId v (.int n)
  | isDependency {v : Value} {b : Bool} : Check.flag v = .ok b → Fits .isDependency v (.flag b)
  | description {v : Value} : Fits .description v v

/-! ## One field -/

section Field

variable {α : Type} {field : String} {check : Check α} {set : α → ModInfo}

theorem assignField_eq_ok_iff :
    ModInfo.assignField field check v set = .ok after ↔ ∃ a, check v = .ok a ∧ set a = after := by
  unfold ModInfo.assignField
  cases check v <;> simp [Checked.under, Checked.toExcept]

/-- A refused value has issues, all of them with the field. -/
theorem invalid_of_assignField (h : ModInfo.assignField field check v set = .error f) :
    ∃ issues, f = .invalid ⟨ModItem.modelName, issues⟩ ∧
      ∀ i ∈ issues, i.path.head? = some (.field field) := by
  unfold ModInfo.assignField at h
  cases hcheck : check v with
  | ok a => simp [hcheck, Checked.under, Checked.toExcept] at h
  | failed issues =>
    refine ⟨issues.map (·.under (.field field)), ?_, ?_⟩
    · simpa [hcheck, Checked.under, Checked.toExcept, eq_comm] using h
    · simp [Issue.under]

end Field

/-! ## Any property -/

/-- The field of a mod's data that a property is, if it is one. -/
def Property.field? : Property → Option String
  | name => some "name"
  | friendlyName => some "friendly_name"
  | publishedFileId => some "published_file_id"
  | isDependency => some "is_dependency"
  | description => none

/-- An accepted value becomes that of its property. -/
theorem fits_of_assign (h : m.assign p v = .ok after) : Fits p v (after.get p) := by
  cases p with
  | name =>
    obtain ⟨s, hs, rfl⟩ := assignField_eq_ok_iff.1 h
    exact .name hs
  | friendlyName =>
    obtain ⟨s, hs, rfl⟩ := assignField_eq_ok_iff.1 h
    exact .friendlyName hs
  | publishedFileId =>
    obtain ⟨n, hn, rfl⟩ := assignField_eq_ok_iff.1 h
    exact .publishedFileId (ModItem.checkId_eq_ok_iff.1 hn) (Int.natCast_nonneg n)
  | isDependency =>
    obtain ⟨b, hb, rfl⟩ := assignField_eq_ok_iff.1 h
    exact .isDependency hb
  | description =>
    obtain rfl := Except.ok.inj h
    exact .description

/-- The other properties stay as they are. -/
theorem get_of_assign {q : Property} (h : m.assign p v = .ok after) (hq : q ≠ p) :
    after.get q = m.get q := by
  cases p with
  | description =>
    obtain rfl := Except.ok.inj h
    cases q <;> first | rfl | contradiction
  | _ =>
    obtain ⟨_, -, rfl⟩ := assignField_eq_ok_iff.1 h
    cases q <;> first | rfl | contradiction

/-- A value is accepted when the property can take it. -/
theorem exists_assign_iff : (∃ after, m.assign p v = .ok after) ↔ ∃ w, Fits p v w := by
  constructor
  · intro h
    obtain ⟨after, h⟩ := h
    exact ⟨_, fits_of_assign h⟩
  · intro h
    obtain ⟨w, h⟩ := h
    cases h with
    | name hs => exact ⟨_, assignField_eq_ok_iff.2 ⟨_, hs, rfl⟩⟩
    | friendlyName hs => exact ⟨_, assignField_eq_ok_iff.2 ⟨_, hs, rfl⟩⟩
    | publishedFileId hn hle =>
      obtain ⟨n, rfl⟩ := Int.eq_ofNat_of_zero_le hle
      exact ⟨_, assignField_eq_ok_iff.2 ⟨n, ModItem.checkId_eq_ok_iff.2 hn, rfl⟩⟩
    | isDependency hb => exact ⟨_, assignField_eq_ok_iff.2 ⟨_, hb, rfl⟩⟩
    | description => exact ⟨_, rfl⟩

theorem invalid_of_assign (h : m.assign p v = .error f) :
    ∃ field issues, p.field? = some field ∧ f = .invalid ⟨ModItem.modelName, issues⟩ ∧
      ∀ i ∈ issues, i.path.head? = some (.field field) := by
  cases p with
  | description => simp [ModInfo.assign] at h
  | _ =>
    obtain ⟨issues, hf, hissues⟩ := invalid_of_assignField h
    exact ⟨_, issues, rfl, hf, hissues⟩

/-! ## Mods as data -/

/-- A mod passes its own check. -/
theorem check_toValue (item : ModItem) : ModItem.check item.toValue = .ok item := by
  obtain ⟨name, friendlyName, publishedFileId, isDependency⟩ := item
  have hid : ModItem.checkId (.int publishedFileId) = .ok publishedFileId :=
    ModItem.checkId_eq_ok_iff.2 rfl
  have hfields : ModItem.check (ModItem.toValue ⟨name, friendlyName, publishedFileId, isDependency⟩) =
      ModItem.mk <$> Checked.ok name <*> .ok friendlyName <*>
        (ModItem.checkId (.int publishedFileId)).under (.field "published_file_id") <*>
        .ok isDependency := rfl
  rw [hfields, hid]
  rfl

end EntitySelection.Workshop
