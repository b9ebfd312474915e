import EntitySelection.Yaml.Cursor

/-!
# Block scalars

A block scalar is the indented text below its header. The header says how it is indented, if
the first line does not show it, and what becomes of the line breaks at its end: one of them is
kept, or none, or all. In a *folded* scalar a break between two lines that start with text is
read as a space.
-/

namespace EntitySelection.Yaml

/-- What becomes of the line breaks at the end of a block scalar. -/
inductive Chomping where
  | clip
  | strip
  | keep
  deriving DecidableEq, Repr

/-- The header of a block scalar. -/
structure BlockHeader where
  chomping : Chomping := .clip
  /-- The further indentation of the text, if it is stated. -/
  increment : Option Nat := none

def chomping? : Char → Option Chomping
  | '+' => some .keep
  | '-' => some .strip
  | _ => none

/-- The digit of an indentation, which is not zero. -/
def increment? (c : Char) : Option Nat :=
  if c.isDigit then some (c.toNat - '0'.toNat) else none

/-- The indicators of a header, in either order. -/
def headerIndicators (cs : List Char) : BlockHeader × Nat :=
  match cs with
  | [] => ({}, 0)
  | a :: rest =>
    let b := rest.head?
    match chomping? a, increment? a with
    | some ch, _ => match b.bind increment? with
      | some n => (⟨ch, some n⟩, 2)
      | none => (⟨ch, none⟩, 1)
    | none, some n => match b.bind chomping? with
      | some ch => (⟨ch, some n⟩, 2)
      | none => (⟨.clip, some n⟩, 1)
    | none, none => ({}, 0)

/-- The header of a block scalar and the end of its line. -/
def Cursor.blockHeader (p : Cursor) : Except Fault (BlockHeader × Cursor) := do
  let (header, width) := headerIndicators p.rest
  let q := p.skip width
  if header.increment = some 0 || !spaceOrBreakFollows q.rest then malformed
  else .ok (header, ← q.endLine)

/-- Breaks with spaces among them, and the largest column of a space. -/
def leadingBreaks : Nat → Cursor → List Char × Nat × Cursor
  | 0, p => ([], 0, p)
  | steps + 1, p =>
    let q := p.skipSpaces
    let width := if q.column > p.column then q.column else 0
    match q.lineBreak? with
    | some (b, r) =>
      let (more, widest, r) := leadingBreaks steps r
      (b :: more, max width widest, r)
    | none => ([], width, q)

/-- The place after the spaces up to a column. -/
def skipIndent (indent : Nat) : Nat → Cursor → Cursor
  | 0, p => p
  | steps + 1, p =>
    if p.column < indent && p.rest.head? = some ' ' then skipIndent indent steps p.next else p

/-- Breaks with indentation among them. -/
def indentedBreaks (indent : Nat) : Nat → Cursor → List Char × Cursor
  | 0, p => ([], p)
  | steps + 1, p =>
    let q := skipIndent indent indent p
    match q.lineBreak? with
    | some (b, r) =>
      let (more, r) := indentedBreaks indent steps r
      (b :: more, r)
    | none => ([], q)

/-- Whether a line starts with text. -/
def startsWithText (cs : List Char) : Bool :=
  match cs with
  | [] => true
  | c :: _ => c != ' ' && c != '\t'

/-- What a break between two lines is read as, given the breaks after it. -/
def joinLines (folded : Bool) (lineBreak : Option Char) (textAround : Bool) (breaks : List Char) :
    List Char :=
  if folded && lineBreak == some '\n' && textAround then (if breaks.isEmpty then [' '] else [])
  else lineBreak.toList

/-- What is kept of the breaks at the end. -/
def chompedEnd (chomping : Chomping) (lineBreak : Option Char) (breaks : List Char) : List Char :=
  match chomping with
  | .strip => []
  | .clip => lineBreak.toList
  | .keep => lineBreak.toList ++ breaks

/-- The lines of a block scalar, the first of them after some breaks. -/
def blockLines (folded : Bool) (chomping : Chomping) (indent : Nat) (breaks : List Char)
    (lineBreak : Option Char) : Nat → Cursor → List Char × Cursor
  | 0, p => ([], p)
  | steps + 1, p =>
    if p.column = indent && !p.rest.isEmpty then
      let (line, q) := p.span (!isBreak ·)
      let (lineBreak, q) := match q.lineBreak? with
        | some (b, r) => (some b, r)
        | none => (none, q)
      let (after, q) := indentedBreaks indent q.rest.length.succ q
      let joint :=
        if q.column = indent && !q.rest.isEmpty then
          joinLines folded lineBreak (startsWithText p.rest && startsWithText q.rest) after
        else []
      let (more, r) := blockLines folded chomping indent after lineBreak steps q
      (breaks ++ line ++ joint ++ more, r)
    else (chompedEnd chomping lineBreak breaks, p)

/-- Reads a block scalar from its indicator on, inside a collection indented by `outer`. -/
def Cursor.block (folded : Bool) (outer : Int) (p : Cursor) : Except Fault (List Char × Cursor) := do
  let (header, q) ← p.next.blockHeader
  let least := (max (outer + 1) 1).toNat
  match header.increment with
  | some n =>
    let indent := least + n - 1
    let (breaks, q) := indentedBreaks indent q.rest.length.succ q
    .ok (blockLines folded header.chomping indent breaks none q.rest.length.succ q)
  | none =>
    let (breaks, widest, q) := leadingBreaks q.rest.length.succ q
    .ok (blockLines folded header.chomping (max least widest) breaks none q.rest.length.succ q)

end EntitySelection.Yaml
