import EntitySelection.Yaml.Fault
import EntitySelection.Yaml.Token

/-!
# Trees of a document

A tree is a document as it is written: scalars, sequences and mappings with their tags and
anchors, and aliases. An entry, a key or a value that is left out is an empty plain scalar.

The readers below take tokens and give the rest of them; `fuel` bounds the depth of their calls,
for which a few calls for each token suffice.
-/

namespace EntitySelection.Yaml

/-- What stands before a node. -/
structure Properties where
  anchor : Option String := none
  tag : Option String := none
  deriving DecidableEq, Repr

inductive Tree where
  | alias (name : String)
  | scalar (properties : Properties) (plain : Bool) (text : String)
  | sequence (properties : Properties) (items : List Tree)
  | mapping (properties : Properties) (entries : List (Tree × Tree))

/-- The addresses that handles of tags stand for. -/
abbrev Handles := List (String × String)

/-- The handles of every document. -/
def defaultHandles : Handles := [("!", "!"), ("!!", "tag:yaml.org,2002:")]

/-- The tag of a name. -/
def TagName.resolve? (handles : Handles) : TagName → Option String
  | full name => some name
  | short handle suffix => (handles.lookup handle).map (· ++ suffix)

namespace Tree

/-- The scalar that stands for what is left out. -/
def empty : Tree := .scalar {} true ""

/-- Whether one of some tokens comes next. The end counts as none of them. -/
def nextIn (ts : List Token) (choices : List Token) : Bool := ts.head?.any choices.contains

/-- An anchor and a tag, in either order, before a node. -/
def properties? (handles : Handles) (ts : List Token) : Option (Properties × List Token) :=
  match ts with
  | .anchor a :: .tag n :: ts => (n.resolve? handles).map fun t => (⟨a, t⟩, ts)
  | .tag n :: .anchor a :: ts => (n.resolve? handles).map fun t => (⟨a, t⟩, ts)
  | .anchor a :: ts => some (⟨a, none⟩, ts)
  | .tag n :: ts => (n.resolve? handles).map fun t => (⟨none, t⟩, ts)
  | ts => some ({}, ts)

/-- Where a node stands: in a flow collection, as an item of a block collection, or as a key or
value of a block mapping, where a sequence needs no indentation of its own. -/
inductive Position where
  | flow
  | block
  | entry
  deriving DecidableEq, Repr

mutual

/-- Reads a node. -/
def node (handles : Handles) (position : Position) : Nat → List Token → Option (Tree × List Token)
  | 0, _ => none
  | _ + 1, .alias name :: ts => some (.alias name, ts)
  | fuel + 1, ts => do
    let (ps, ts) ← properties? handles ts
    match ts with
    | .scalar plain text :: ts => some (.scalar ps plain text, ts)
    | .flowSequenceStart :: ts =>
      let (items, ts) ← flowItems handles true fuel ts
      some (.sequence ps items, ts)
    | .flowMappingStart :: ts =>
      let (entries, ts) ← flowEntries handles true fuel ts
      some (.mapping ps entries, ts)
    | ts =>
      if position = .entry && nextIn ts [.blockEntry] then
        let (items, ts) ← looseItems handles fuel ts
        some (.sequence ps items, ts)
      else if position ≠ .flow && nextIn ts [.blockSequenceStart] then
        let (items, ts) ← blockItems handles fuel ts.tail
        some (.sequence ps items, ts)
      else if position ≠ .flow && nextIn ts [.blockMappingStart] then
        let (entries, ts) ← blockEntries handles fuel ts.tail
        some (.mapping ps entries, ts)
      else if ps = {} then none
      else some (.scalar ps true "", ts)

/-- Reads a node, which is left out if one of some tokens comes next. -/
def nodeUnless (handles : Handles) (position : Position) (choices : List Token) :
    Nat → List Token → Option (Tree × List Token)
  | 0, _ => none
  | fuel + 1, ts =>
    if nextIn ts choices then some (empty, ts) else node handles position fuel ts

/-- Reads the items of a block sequence and its end. -/
def blockItems (handles : Handles) : Nat → List Token → Option (List Tree × List Token)
  | 0, _ => none
  | fuel + 1, .blockEntry :: ts => do
    let (item, ts) ← nodeUnless handles .block [.blockEntry, .blockEnd] fuel ts
    let (items, ts) ← blockItems handles fuel ts
    some (item :: items, ts)
  | _ + 1, .blockEnd :: ts => some ([], ts)
  | _ + 1, _ => none

/-- Reads the items of a block sequence without an indentation of its own. -/
def looseItems (handles : Handles) : Nat → List Token → Option (List Tree × List Token)
  | 0, _ => none
  | fuel + 1, .blockEntry :: ts => do
    let (item, ts) ← nodeUnless handles .block [.blockEntry, .key, .value, .blockEnd] fuel ts
    let (items, ts) ← looseItems handles fuel ts
    some (item :: items, ts)
  | _ + 1, ts => some ([], ts)

/-- Reads the value after a key, or leaves it out. -/
def valueUnless (handles : Handles) (position : Position) (choices : List Token) :
    Nat → List Token → Option (Tree × List Token)
  | 0, _ => none
  | fuel + 1, .value :: ts => nodeUnless handles position choices fuel ts
  | _ + 1, ts => some (empty, ts)

/-- Reads the entries of a block mapping and its end. -/
def blockEntries (handles : Handles) : Nat → List Token → Option (List (Tree × Tree) × List Token)
  | 0, _ => none
  | fuel + 1, .key :: ts => do
    let stops := [.key, .value, .blockEnd]
    let (k, ts) ← nodeUnless handles .entry stops fuel ts
    let (v, ts) ← valueUnless handles .entry stops fuel ts
    let (entries, ts) ← blockEntries handles fuel ts
    some ((k, v) :: entries, ts)
  | _ + 1, .blockEnd :: ts => some ([], ts)
  | _ + 1, _ => none

/-- Reads the items of a flow sequence and its end. A key makes an item a mapping of one entry. -/
def flowItems (handles : Handles) (first : Bool) :
    Nat → List Token → Option (List Tree × List Token)
  | 0, _ => none
  | _ + 1, .flowSequenceEnd :: ts => some ([], ts)
  | fuel + 1, ts => do
    let ts ← if first then some ts else if nextIn ts [.flowEntry] then some ts.tail else none
    match ts with
    | .flowSequenceEnd :: ts => some ([], ts)
    | .key :: ts =>
      let stops := [.flowEntry, .flowSequenceEnd]
      let (k, ts) ← nodeUnless handles .flow (.value :: stops) fuel ts
      let (v, ts) ← valueUnless handles .flow stops fuel ts
      let (items, ts) ← flowItems handles false fuel ts
      some (.mapping {} [(k, v)] :: items, ts)
    | ts =>
      let (item, ts) ← node handles .flow fuel ts
      let (items, ts) ← flowItems handles false fuel ts
      some (item :: items, ts)

/-- Reads the entries of a flow mapping and its end. A node without a key indicator is a key
without a value. -/
def flowEntries (handles : Handles) (first : Bool) :
    Nat → List Token → Option (List (Tree × Tree) × List Token)
  | 0, _ => none
  | _ + 1, .flowMappingEnd :: ts => some ([], ts)
  | fuel + 1, ts => do
    let ts ← if first then some ts else if nextIn ts [.flowEntry] then some ts.tail else none
    match ts with
    | .flowMappingEnd :: ts => some ([], ts)
    | .key :: ts =>
      let stops := [.flowEntry, .flowMappingEnd]
      let (k, ts) ← nodeUnless handles .flow (.value :: stops) fuel ts
      let (v, ts) ← valueUnless handles .flow stops fuel ts
      let (entries, ts) ← flowEntries handles false fuel ts
      some ((k, v) :: entries, ts)
    | ts =>
      let (k, ts) ← node handles .flow fuel ts
      let (entries, ts) ← flowEntries handles false fuel ts
      some ((k, empty) :: entries, ts)

end

/-! ## Documents -/

/-- Reads the directives of a document: at most one version, which must be the first, and one
address for each handle. -/
def directives (versioned : Bool) (handles : Handles) :
    List Token → Option (Handles × List Token)
  | .directive (.version major) :: ts =>
    if versioned || major != 1 then none else directives true handles ts
  | .directive (.tag handle address) :: ts =>
    if (handles.lookup handle).isSome then none
    else directives versioned ((handle, address) :: handles) ts
  | .directive .other :: ts => directives versioned handles ts
  | ts => some (handles ++ defaultHandles, ts)

/-- The fuel for reading tokens. -/
def fuelFor (ts : List Token) : Nat := 4 * ts.length + 4

/-- What stands between the marks of a document. -/
def content (handles : Handles) (ts : List Token) : Option (Tree × List Token) :=
  match ts with
  | [] | .directive _ :: _ | .documentStart :: _ | .documentEnd :: _ => some (empty, ts)
  | ts => node handles .block (fuelFor ts) ts

/-- Reads the only document of a text; there may be none. -/
def document (ts : List Token) : Option (Option Tree) :=
  match ts with
  | [] => some none
  | .directive _ :: _ | .documentStart :: _ => do
    let (handles, ts) ← directives false [] ts
    if nextIn ts [.documentStart] then
      let (tree, ts) ← content handles ts.tail
      if ts.all (· == .documentEnd) then some (some tree) else none
    else none
  | ts => do
    let (tree, ts) ← node defaultHandles .block (fuelFor ts) ts
    if ts.all (· == .documentEnd) then some (some tree) else none

end Tree

end EntitySelection.Yaml
