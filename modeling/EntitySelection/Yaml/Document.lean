import EntitySelection.Value.Key
import EntitySelection.Yaml.Node
import EntitySelection.Yaml.Scalar
import EntitySelection.Yaml.Token.Stream

/-!
# Values of documents

`read` gives the value of a text that holds one document or none.

**Merging.** A mapping takes over the entries of the mappings under its merge keys. They come
before its own entries, which win over them; of several mappings in a list the earlier win.

**Order of faults.** Values are built level by level: a collection first, then everything in it.
So of several faults that of the outermost level is reported, and of one level the first. A
`Staged` result carries the level at which it failed.
-/

namespace EntitySelection.Yaml

/-- A result, or the fault that comes first and its level. -/
inductive Staged (α : Type) where
  | ok (a : α)
  | failed (level : Nat) (fault : Fault)

namespace Staged

def map {α β : Type} (f : α → β) : Staged α → Staged β
  | ok a => ok (f a)
  | failed l e => failed l e

/-- Both results, or the fault of the outer level, the first one if the levels are equal. -/
def both {α β : Type} : Staged α → Staged β → Staged (α × β)
  | ok a, ok b => ok (a, b)
  | ok _, failed l e => failed l e
  | failed l e, ok _ => failed l e
  | failed l e, failed m f => if m < l then failed m f else failed l e

/-- A result that fails at a level. -/
def ofExcept {α : Type} (level : Nat) : Except Fault α → Staged α
  | .ok a => ok a
  | .error e => failed level e

def toExcept {α : Type} : Staged α → Except Fault α
  | ok a => .ok a
  | failed _ e => .error e

end Staged

namespace Node

mutual

/-- Whether everything under a merge key is a mapping or a list of mappings, and all of them can
be merged themselves. -/
def isSource : Node → Bool
  | scalar .. => false
  | sequence _ items => areSources items
  | mapping _ entries => canMerge entries

def areSources : List Node → Bool
  | [] => true
  | n :: ns => (match n with
    | mapping _ entries => canMerge entries
    | _ => false) && areSources ns

/-- Whether a mapping with some entries can be merged. -/
def canMerge : List (Node × Node) → Bool
  | [] => true
  | (k, v) :: es => (k.tag != .merge || isSource v) && canMerge es

end

/-- The text of a node under the tag of a scalar: that of a scalar, or the default value of a
mapping. -/
def scalarText? : Node → Option String
  | scalar _ text => some text
  | sequence .. => none
  | mapping _ entries => default? entries
where
  default? : List (Node × Node) → Option String
    | [] => none
    | (k, v) :: es => if k.tag = .default then scalarText? v else default? es

/-- Whether a tag is that of a collection. -/
def isCollectionTag : Tag → Bool
  | .sequence | .mapping | .set | .pairs => true
  | _ => false

/-- The value of a node under the tag of a scalar. -/
def scalarValue (n : Node) : Except Fault Value :=
  match n.scalarText? with
  | some s => Scalar.value n.tag s
  | none => malformed

/-- The value of a key at a level. A collection is no key; the mark of a default is a text. -/
def keyValue (level : Nat) (n : Node) : Staged Value :=
  if isCollectionTag n.tag then .failed level .malformed
  else if n.tag = .default then .ofExcept level (match n with
    | scalar _ text => .ok (.text text)
    | _ => malformed)
  else .ofExcept level n.scalarValue

/-- The pair of a key and a value as it stands in a list of pairs. -/
def pair (p : Value × Value) : Value := .list [p.1, p.2]

mutual

/-- The value of a node at a level. -/
def toValue (level : Nat) : Node → Staged Value
  | scalar tag text =>
    if isCollectionTag tag then .failed (level + 1) .malformed
    else .ofExcept level (Scalar.value tag text)
  | sequence tag items =>
    if tag = .sequence then (itemValues (level + 1) items).map .list
    else if tag = .pairs then (pairValues (level + 1) items).map fun ps => .list (ps.map pair)
    else .failed (if isCollectionTag tag then level + 1 else level) .malformed
  | mapping tag entries =>
    if tag = .mapping || tag = .set then
      if canMerge entries then
        ((merged (level + 1) entries).both (own (level + 1) entries)).map fun (ms, es) =>
          if tag = .set then .list ((Value.entriesOf (ms ++ es)).map (·.1))
          else .mapOf (ms ++ es)
      else .failed (level + 1) .malformed
    else if isCollectionTag tag then .failed (level + 1) .malformed
    else .ofExcept level (scalarValue (mapping tag entries))

def itemValues (level : Nat) : List Node → Staged (List Value)
  | [] => .ok []
  | n :: ns => ((toValue level n).both (itemValues level ns)).map fun (v, vs) => v :: vs

/-- The pairs of a list of mappings of one entry each. -/
def pairValues (level : Nat) : List Node → Staged (List (Value × Value))
  | [] => .ok []
  | mapping _ [(k, v)] :: ns =>
    (((toValue level k).both (toValue level v)).both (pairValues level ns)).map
      fun (p, ps) => p :: ps
  | _ :: _ => .failed level .malformed

/-- The entries of a mapping that are not merged into it. -/
def own (level : Nat) : List (Node × Node) → Staged (List (Value × Value))
  | [] => .ok []
  | (k, v) :: es =>
    if k.tag = .merge then own level es
    else (((keyValue level k).both (toValue level v)).both (own level es)).map
      fun (p, ps) => p :: ps

/-- The entries that are merged into a mapping. -/
def merged (level : Nat) : List (Node × Node) → Staged (List (Value × Value))
  | [] => .ok []
  | (k, v) :: es =>
    if k.tag = .merge then ((source level v).both (merged level es)).map fun (ps, qs) => ps ++ qs
    else merged level es

/-- The entries of what stands under a merge key. -/
def source (level : Nat) : Node → Staged (List (Value × Value))
  | scalar .. => .failed level .malformed
  | sequence _ items => sources level items
  | mapping _ entries =>
    ((merged level entries).both (own level entries)).map fun (ms, es) => ms ++ es

/-- The entries of a list of mappings, the last mapping first. -/
def sources (level : Nat) : List Node → Staged (List (Value × Value))
  | [] => .ok []
  | n :: ns => ((source level n).both (sources level ns)).map fun (ps, qs) => qs ++ ps

end

end Node

/-- The nodes of a text, if it holds a document. -/
def nodeOf? (cs : List Char) : Except Fault (Option Node) := do
  if !cs.all isAllowed then malformed
  let ts ← Token.ofText cs
  match Tree.document ts with
  | none => malformed
  | some none => .ok none
  | some (some tree) => match Node.ofTree? [] tree with
    | some (n, _) => .ok (some n)
    | none => malformed

/-- The value of a text; a text without a document has the value null. -/
def read (s : String) : Except Fault Value := do
  match ← nodeOf? s.toList with
  | none => .ok .null
  | some n => (n.toValue 0).toExcept

end EntitySelection.Yaml
