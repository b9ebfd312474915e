import EntitySelection.Named
import EntitySelection.Value.Basic

/-!
# Equal values and keys

Numbers are equal when their values are, whatever their kind: `1`, `1.0` and true are the same
key. A map holds each key once: a repeated key keeps its first place and takes its last value.
-/

namespace EntitySelection

/-- Whether a number is the given whole number. -/
def Binary64.isInt (x : Binary64) (n : Int) : Bool := x.units? == some (n * Magnitude.unitsPerOne)

namespace Value

/-- A number as a whole number, if it is of a whole kind. -/
def wholeKind? : Value → Option Int
  | flag b => some (flagInt b)
  | int n => some n
  | _ => none

/-- Equality of values that can be keys. -/
def sameKey (v w : Value) : Bool :=
  match v.wholeKind?, w.wholeKind? with
  | some m, some n => m == n
  | some m, none => match w with
    | float y => y.isInt m
    | _ => false
  | none, some n => match v with
    | float x => x.isInt n
    | _ => false
  | none, none => match v, w with
    | null, null => true
    | float x, float y => x.sameValue y
    | text s, text t => s == t
    | bytes a, bytes b => a == b
    | moment a, moment b => a.same b
    | _, _ => false

/-- The entry of a map under a key. -/
def entryAt? (entries : List (Value × Value)) (key : Value) : Option Value :=
  (entries.find? (·.1.sameKey key)).map (·.2)

/-- Puts a value under a key: in the place of the key, or at the end. -/
def putEntry (entries : List (Value × Value)) (key value : Value) : List (Value × Value) :=
  match entries with
  | [] => [(key, value)]
  | (k, v) :: rest =>
    if k.sameKey key then (k, value) :: rest else (k, v) :: putEntry rest key value

/-- The entries of a list of keys and values, the last value of a key winning. -/
def entriesOf (pairs : List (Value × Value)) : List (Value × Value) :=
  pairs.foldl (fun entries p => putEntry entries p.1 p.2) []

/-- The map of a list of keys and values. -/
def mapOf (pairs : List (Value × Value)) : Value := map (entriesOf pairs)

/-- The object of a list of names and values, the last value of a name winning. -/
def objectOf (pairs : List (String × Value)) : Value :=
  object (Named.ofPairs pairs)

mutual

/-- Equality of any two values. -/
def same : Value → Value → Bool
  | list xs, list ys => sameItems xs ys
  | map es, map fs => es.length == fs.length && entriesWithin es fs
  | object as, object bs => as.length == bs.length && attributesWithin as bs
  | v, w => v.sameKey w

def sameItems : List Value → List Value → Bool
  | [], [] => true
  | x :: xs, y :: ys => same x y && sameItems xs ys
  | _, _ => false

def entriesWithin : List (Value × Value) → List (Value × Value) → Bool
  | [], _ => true
  | (k, v) :: es, fs =>
    (match entryAt? fs k with
      | some w => same v w
      | none => false) && entriesWithin es fs

def attributesWithin : List (String × Value) → List (String × Value) → Bool
  | [], _ => true
  | (k, v) :: as, bs =>
    (match bs.lookup k with
      | some w => same v w
      | none => false) && attributesWithin as bs

end

end Value

end EntitySelection
