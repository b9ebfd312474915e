import EntitySelection.Yaml.Tag
import EntitySelection.Yaml.Tree

/-!
# Nodes of a document

A node is a tree in which every node has its tag and every alias is replaced by the node of its
anchor. An anchor must come before its aliases, and no two nodes may share one.

**Nodes that hold themselves.** An alias may stand inside the node of its anchor. Such a node is
unrolled: it holds a copy of itself, which holds a copy with an empty collection in its place.
-/

namespace EntitySelection.Yaml

inductive Node where
  | scalar (tag : Tag) (text : String)
  | sequence (tag : Tag) (items : List Node)
  | mapping (tag : Tag) (entries : List (Node × Node))

namespace Node

def tag : Node → Tag
  | scalar t _ | sequence t _ | mapping t _ => t

/-- The nodes of the anchors so far, latest first. -/
abbrev Anchors := List (String × Node)

/-- The tag of a node, or the one it gets where none is written. -/
def tagOr (fallback : Tag) (ps : Properties) : Tag :=
  match ps.tag with
  | none => fallback
  | some t => if t = "!" then fallback else .ofAddress t

/-- The tag of a scalar: by its form if it is plain or marked as untagged. -/
def scalarTag (ps : Properties) (plain : Bool) (text : String) : Tag :=
  let untagged := if plain || ps.tag = some "!" then Tag.ofPlain text else .text
  tagOr untagged ps

/-- Whether a new node may have an anchor. -/
def isFree (anchors : Anchors) (anchor : Option String) : Bool :=
  anchor.all fun a => (anchors.lookup a).isNone

/-- The anchors after a node. -/
def bind (anchors : Anchors) (anchor : Option String) (n : Node) : Anchors :=
  match anchor with
  | some a => (a, n) :: anchors
  | none => anchors

mutual

/-- Whether an alias occurs in a tree. -/
def mentions (anchor : String) : Tree → Bool
  | .alias name => name == anchor
  | .scalar .. => false
  | .sequence _ items => itemsMention anchor items
  | .mapping _ entries => entriesMention anchor entries

def itemsMention (anchor : String) : List Tree → Bool
  | [] => false
  | t :: ts => mentions anchor t || itemsMention anchor ts

def entriesMention (anchor : String) : List (Tree × Tree) → Bool
  | [] => false
  | (k, v) :: es => mentions anchor k || mentions anchor v || entriesMention anchor es

end

/-- Builds a node that may hold itself: `build` is given what stands for the node inside it. -/
def unrolled (anchors : Anchors) (anchor : Option String) (holdsItself : Bool) (hollow : Node)
    (build : Anchors → Option (Node × Anchors)) : Option (Node × Anchors) := do
  let inside (n : Node) : Option (Node × Anchors) := build (bind anchors anchor n)
  let (n, after) ← inside hollow
  if holdsItself then
    let (n, _) ← inside n
    let (n, after) ← inside n
    some (n, bind after anchor n)
  else some (n, bind after anchor n)

mutual

/-- The node of a tree, and the anchors after it. -/
def ofTree? (anchors : Anchors) : Tree → Option (Node × Anchors)
  | .alias name => (anchors.lookup name).map (·, anchors)
  | .scalar ps plain text =>
    if isFree anchors ps.anchor then
      let n := scalar (scalarTag ps plain text) text
      some (n, bind anchors ps.anchor n)
    else none
  | .sequence ps items =>
    if isFree anchors ps.anchor then
      let tag := tagOr .sequence ps
      unrolled anchors ps.anchor (ps.anchor.any (itemsMention · items)) (sequence tag [])
        fun inside => (ofItems? inside items).map fun (ns, after) => (sequence tag ns, after)
    else none
  | .mapping ps entries =>
    if isFree anchors ps.anchor then
      let tag := tagOr .mapping ps
      unrolled anchors ps.anchor (ps.anchor.any (entriesMention · entries)) (mapping tag [])
        fun inside => (ofEntries? inside entries).map fun (es, after) => (mapping tag es, after)
    else none

def ofItems? (anchors : Anchors) : List Tree → Option (List Node × Anchors)
  | [] => some ([], anchors)
  | t :: ts => do
    let (n, anchors) ← ofTree? anchors t
    let (ns, anchors) ← ofItems? anchors ts
    some (n :: ns, anchors)

def ofEntries? (anchors : Anchors) : List (Tree × Tree) → Option (List (Node × Node) × Anchors)
  | [] => some ([], anchors)
  | (k, v) :: es => do
    let (k, anchors) ← ofTree? anchors k
    let (v, anchors) ← ofTree? anchors v
    let (es, anchors) ← ofEntries? anchors es
    some ((k, v) :: es, anchors)

end

end Node

end EntitySelection.Yaml
