import EntitySelection.Proofs.Schema.Checked

/-!
# What is wrong with a piece of data

Checks of the parts of a piece of data are combined without losing an issue. Where it is known of
each part what it gives and which issues it has (`ofIssues`), the same is known of the whole: what
it gives is made of what the parts give, and its issues are those of the parts, one part after the
other and each a step further down.
-/

namespace EntitySelection.Schema

namespace Checked

variable {α β : Type} {a : α} {is : List Issue}

/-- The check of a piece of data that gives `a`, unless there are issues. -/
def ofIssues (a : α) : List Issue → Checked α
  | [] => .ok a
  | first :: rest => .failed (first :: rest)

theorem map_ofIssues (f : α → β) (a : α) (is : List Issue) :
    f <$> ofIssues a is = ofIssues (f a) is := by
  cases is <;> rfl

theorem both_ofIssues (a : α) (b : β) (is js : List Issue) :
    both (ofIssues a is) (ofIssues b js) = ofIssues (a, b) (is ++ js) := by
  cases is with
  | nil => cases js <;> rfl
  | cons first rest => cases js <;> simp [ofIssues, both]

theorem seq_ofIssues (f : α → β) (a : α) (is js : List Issue) :
    ofIssues f is <*> ofIssues a js = ofIssues (f a) (is ++ js) := by
  show map (fun p => p.1 p.2) (both (ofIssues f is) (ofIssues a js)) = _
  rw [both_ofIssues]
  exact map_ofIssues (fun p : (α → β) × α => p.1 p.2) (f, a) (is ++ js)

theorem under_ofIssues (s : Step) (a : α) (is : List Issue) :
    (ofIssues a is).under s = ofIssues a (is.map (·.under s)) := by
  cases is <;> rfl

/-- A further check is made only where there are no issues so far. -/
theorem andThen_ofIssues {f : α → Checked β} {b : β} {js : List Issue}
    (h : f a = ofIssues b js) :
    (ofIssues a is).andThen f = ofIssues b (if is = [] then js else is) := by
  cases is with
  | nil => exact h
  | cons first rest => rfl

theorem toExcept_ofIssues (model : String) (a : α) (is : List Issue) :
    (ofIssues a is).toExcept model = if is = [] then .ok a else .error ⟨model, is⟩ := by
  cases is <;> rfl

end Checked

namespace Check

open Checked

variable {α ι : Type} {check : Check α} {es : List (Value × Value)} {name : String} {v : Value}
  {a : α} {is : List Issue}

theorem required_ofIssues (hv : Value.entry? es name = some v) (h : check v = ofIssues a is) :
    required es name check = ofIssues a (is.map (·.under (.field name))) := by
  rw [required, hv, ← under_ofIssues, ← h]

/-- The issues of a list are those of its items, from the first to the last. -/
theorem itemsFrom_ofIssues {given : ι → α} {issues : ι → List Issue} {vs : List Value}
    {xs : List ι} (h : List.Forall₂ (fun v x => check v = ofIssues (given x) (issues x)) vs xs)
    (position : Nat) :
    itemsFrom check position vs = ofIssues (xs.map given)
      (xs.mapIdx fun i x => (issues x).map (·.under (.index (position + i : Nat)))).flatten := by
  induction h generalizing position with
  | nil => rfl
  | @cons v x vs xs hv _ ih =>
    have hplace (i : Nat) : position + 1 + i = position + (i + 1) := by omega
    rw [itemsFrom, hv, under_ofIssues, ih, both_ofIssues]
    simp only [hplace, List.mapIdx_cons, List.flatten_cons, List.map_cons, Nat.add_zero]
    exact map_ofIssues (fun p : α × List α => p.1 :: p.2) _ _

theorem list_ofIssues {given : ι → α} {issues : ι → List Issue} {vs : List Value} {xs : List ι}
    (h : List.Forall₂ (fun v x => check v = ofIssues (given x) (issues x)) vs xs) :
    list check (.list vs) = ofIssues (xs.map given)
      (xs.mapIdx fun i x => (issues x).map (·.under (.index i))).flatten := by
  rw [list, itemsFrom_ofIssues h]
  simp only [Nat.zero_add]

end Check

end EntitySelection.Schema
