import EntitySelection.Schema.Issue
import EntitySelection.Value.Basic

/-!
# Checking data against a model

A check gives the checked data or all issues found: checks of several fields are combined so
that an issue of one does not hide those of the others.
-/

namespace EntitySelection.Schema

/-- Checked data, or what is wrong with them. -/
inductive Checked (α : Type) where
  | ok (a : α)
  | failed (issues : List Issue)
  deriving DecidableEq, Repr

namespace Checked

def map {α β : Type} (f : α → β) : Checked α → Checked β
  | ok a => ok (f a)
  | failed is => failed is

/-- Combines two checks; the issues of the first come first. -/
def both {α β : Type} : Checked α → Checked β → Checked (α × β)
  | ok a, ok b => ok (a, b)
  | ok _, failed js => failed js
  | failed is, ok _ => failed is
  | failed is, failed js => failed (is ++ js)

instance : Functor Checked where
  map f := map f

instance : Applicative Checked where
  pure := ok
  seq f x := (both f (x ())).map fun p => p.1 p.2

/-- Data with a single problem. -/
def problem {α : Type} (p : Problem) : Checked α := failed [⟨[], p⟩]

/-- The check of a piece of data one step further down. -/
def under {α : Type} (s : Step) : Checked α → Checked α
  | ok a => ok a
  | failed is => failed (is.map (·.under s))

/-- A further check of checked data. -/
def andThen {α β : Type} (x : Checked α) (f : α → Checked β) : Checked β :=
  match x with
  | ok a => f a
  | failed is => failed is

/-- Checked data, or why they do not fit the model of a name. -/
def toExcept {α : Type} (model : String) : Checked α → Except Invalid α
  | ok a => .ok a
  | failed is => .error ⟨model, is⟩

theorem both_eq_ok {α β : Type} {x : Checked α} {y : Checked β} {a : α} {b : β} :
    both x y = ok (a, b) ↔ x = ok a ∧ y = ok b := by
  cases x <;> cases y <;> simp [both]

end Checked

/-- A check of a value. -/
abbrev Check (α : Type) := Value → Checked α

namespace Check

/-- The items of a list from a position on. -/
def itemsFrom {α : Type} (check : Check α) (position : Nat) : List Value → Checked (List α)
  | [] => .ok []
  | v :: vs =>
    (((check v).under (.index position)).both (itemsFrom check (position + 1) vs)).map
      fun p => p.1 :: p.2

/-- A list of items. -/
def list {α : Type} (check : Check α) : Check (List α)
  | .list vs => itemsFrom check 0 vs
  | _ => .problem .listType

/-- A record: a map of the model of a name. -/
def record {α : Type} (model : String) (fields : List (Value × Value) → Checked α) : Check α
  | .map entries => fields entries
  | _ => .problem (.modelType model)

/-- A field that must be there. -/
def required {α : Type} (entries : List (Value × Value)) (name : String) (check : Check α) :
    Checked α :=
  match Value.entry? entries name with
  | some v => (check v).under (.field name)
  | none => .failed [⟨[.field name], .missing⟩]

/-- A field with a default. -/
def optional {α : Type} (entries : List (Value × Value)) (name : String) (default : α)
    (check : Check α) : Checked α :=
  match Value.entry? entries name with
  | some v => (check v).under (.field name)
  | none => .ok default

/-- Null, or data that pass a check. -/
def nullable {α : Type} (check : Check α) : Check (Option α)
  | .null => .ok none
  | v => (check v).map some

end Check

end EntitySelection.Schema
