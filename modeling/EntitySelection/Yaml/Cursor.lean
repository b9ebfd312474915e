import EntitySelection.Yaml.Fault
import EntitySelection.Yaml.Character

/-!
# Places in a text

A cursor is a place in a text: what is left to read, the number of characters before it, and
its line and column. The byte order mark takes no column.
-/

namespace EntitySelection.Yaml

/-- A place in a text. -/
structure Cursor where
  rest : List Char
  index : Nat := 0
  line : Nat := 0
  column : Nat := 0

namespace Cursor

/-- Whether a character ends a line before the given text. -/
def endsLine (c : Char) (rest : List Char) : Bool :=
  if c = '\r' then rest.head? != some '\n' else isBreak c

/-- The place after the next character. -/
def next (p : Cursor) : Cursor :=
  match p.rest with
  | [] => p
  | c :: rest =>
    if endsLine c rest then ⟨rest, p.index + 1, p.line + 1, 0⟩
    else ⟨rest, p.index + 1, p.line, if c = Text.byteOrderMark then p.column else p.column + 1⟩

/-- The place after `n` characters. -/
def skip : Nat → Cursor → Cursor
  | 0, p => p
  | n + 1, p => skip n p.next

/-- The characters of a class, and the place after them. -/
def span (accepts : Char → Bool) (p : Cursor) : List Char × Cursor :=
  let word := p.rest.takeWhile accepts
  (word, p.skip word.length)

def skipSpaces (p : Cursor) : Cursor := (p.span (· == ' ')).2

/-- The place after a comment, if there is one. -/
def skipComment (p : Cursor) : Cursor :=
  if p.rest.head? = some '#' then (p.span (!isBreak ·)).2 else p

/-- A line break and the place after it. All breaks but two are read as a line feed. -/
def lineBreak? (p : Cursor) : Option (Char × Cursor) :=
  match p.rest with
  | '\r' :: '\n' :: _ => some ('\n', p.skip 2)
  | c :: _ =>
    if isBreak c then some (if c == '\u2028' || c == '\u2029' then c else '\n', p.next) else none
  | [] => none

/-- The place after the rest of a line that holds no more than a comment. -/
def endLine (p : Cursor) : Except Fault Cursor :=
  let p := p.skipSpaces.skipComment
  match p.lineBreak? with
  | some (_, q) => .ok q
  | none => if p.rest.isEmpty then .ok p else malformed

/-- The place of the next token, and whether a line ended before it; `steps` bounds the number
of lines. -/
def toToken : Nat → Cursor → Cursor × Bool
  | 0, p => (p, false)
  | steps + 1, p =>
    let p := p.skipSpaces.skipComment
    match p.lineBreak? with
    | some (_, q) => ((toToken steps q).1, true)
    | none => (p, false)

end Cursor

end EntitySelection.Yaml
