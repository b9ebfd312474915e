import EntitySelection.Binary64.Basic
import EntitySelection.Value.Moment

/-!
# Values

The data that entities, predicate files and models are made of. A map keeps its entries in the
order in which their keys came; its keys may be values of any kind. An object has named
attributes instead.

**Attributes.** `attribute?` reads an attribute by its name: an entry of a map under that text,
an attribute of an object, and the parts that every number has. The methods of built-in values, and
the attributes that values have only by reflection, are not modelled.
-/

namespace EntitySelection

/-- A piece of data. -/
inductive Value where
  | null
  | flag (b : Bool)
  | int (n : Int)
  | float (x : Binary64)
  | text (s : String)
  | bytes (bs : List UInt8)
  | moment (m : Moment)
  | list (items : List Value)
  | map (entries : List (Value × Value))
  | object (attributes : List (String × Value))

namespace Value

instance : Inhabited Value := ⟨null⟩

def isNull : Value → Bool
  | null => true
  | _ => false

theorem isNull_eq_true_iff {v : Value} : v.isNull = true ↔ v = null := by
  cases v <;> simp [isNull]

/-- The whole number that a flag counts as. -/
def flagInt (b : Bool) : Int := if b then 1 else 0

/-- The name of a kind of value, as messages give it. -/
def typeName : Value → String
  | null => "NoneType"
  | flag _ => "bool"
  | int _ => "int"
  | float _ => "float"
  | text _ => "str"
  | bytes _ => "bytes"
  | moment (.day _) => "datetime.date"
  | moment (.time ..) => "datetime.datetime"
  | list _ => "list"
  | map _ => "dict"
  | object _ => "types.SimpleNamespace"

/-- Whether a value can be a key: all but collections and objects can. -/
def isKey : Value → Bool
  | list _ | map _ | object _ => false
  | _ => true

/-- Whether a value is the given text. -/
def isText (v : Value) (s : String) : Bool :=
  match v with
  | text t => t == s
  | _ => false

/-! ## Attributes -/

/-- The entry of a map under a text. -/
def entry? (entries : List (Value × Value)) (name : String) : Option Value :=
  (entries.find? (·.1.isText name)).map (·.2)

/-- A part of a whole number: it is a fraction and a complex number too. -/
def intPart? (n : Int) (name : String) : Option Value :=
  if name = "real" || name = "numerator" then some (int n)
  else if name = "imag" then some (int 0)
  else if name = "denominator" then some (int 1)
  else none

/-- The attribute of a value under a name, methods and reflective attributes of built-in values left
out. -/
def attribute? (v : Value) (name : String) : Option Value :=
  match v with
  | map entries => entry? entries name
  | object attributes => attributes.lookup name
  | int n => intPart? n name
  | flag b => intPart? (flagInt b) name
  | float x =>
    if name = "real" then some (float x)
    else if name = "imag" then some (float .zero)
    else none
  | _ => none

end Value

end EntitySelection
