import EntitySelection.Text.Utf8
import EntitySelection.Yaml.Cursor
import EntitySelection.Yaml.Token

/-!
# Names, tags and directives

Reading the names of anchors and aliases, the tags and the directives of a YAML text. Each
reader takes the place where the piece starts and gives the place after it.
-/

namespace EntitySelection.Yaml

open Text (Utf8.decode)

namespace Cursor

/-- A name. -/
def name (p : Cursor) : Except Fault (String × Cursor) :=
  let (word, q) := p.span isNameChar
  if word.isEmpty then malformed else .ok (String.ofList word, q)

/-- What may follow the name of an anchor. -/
def afterAnchor (cs : List Char) : Bool :=
  gapFollows cs || match cs with
    | [] => true
    | c :: _ => "?:,]\x7d%@\x60".toList.contains c

/-- The name of an anchor or an alias, after its indicator. -/
def anchorName (p : Cursor) : Except Fault (String × Cursor) := do
  let (name, q) ← p.next.name
  if afterAnchor q.rest then .ok (name, q) else malformed

/-! ## Tags -/

/-- Bytes written as a percent sign and two hexadecimal digits each. -/
def escapedBytes : List Char → Except Fault (List UInt8 × List Char)
  | '%' :: a :: b :: cs =>
    match Text.hexNumber? [a, b] with
    | some n => do
      let (bytes, rest) ← escapedBytes cs
      .ok (UInt8.ofNat n :: bytes, rest)
    | none => malformed
  | '%' :: _ => malformed
  | cs => .ok ([], cs)

/-- The address of a tag, with its escapes replaced; `steps` bounds the number of its parts. -/
def addressFrom : Nat → List Char → Except Fault (List Char × List Char)
  | 0, _ => malformed
  | steps + 1, cs =>
    let word := cs.takeWhile fun c => isTagChar c && c != '%'
    let rest := cs.dropWhile fun c => isTagChar c && c != '%'
    if rest.head? = some '%' then do
      let (bytes, rest) ← escapedBytes rest
      match Utf8.decode bytes with
      | .ok s =>
        let (more, rest) ← addressFrom steps rest
        .ok (word ++ s.toList ++ more, rest)
      | .error _ => malformed
    else .ok (word, rest)

/-- The place where only `rest` is left of a text. -/
def skipTo (rest : List Char) (p : Cursor) : Cursor := p.skip (p.rest.length - rest.length)

/-- The address of a tag. -/
def address (p : Cursor) : Except Fault (String × Cursor) := do
  let (cs, rest) ← addressFrom (p.rest.length + 1) p.rest
  if rest.length = p.rest.length then malformed else .ok (String.ofList cs, p.skipTo rest)

/-- The handle of a tag: a name between exclamation marks, or one or two of the marks. -/
def handle (p : Cursor) : Except Fault (String × Cursor) :=
  match p.rest with
  | '!' :: cs =>
    if cs.head? = some ' ' then .ok ("!", p.next)
    else
      let word := cs.takeWhile isNameChar
      if (cs.dropWhile isNameChar).head? = some '!' then
        .ok (String.ofList ('!' :: word ++ ['!']), p.skip (word.length + 2))
      else malformed
  | _ => malformed

/-- Whether the tag after an exclamation mark has a handle with a second one. -/
def hasSecondMark (cs : List Char) : Bool :=
  (cs.takeWhile fun c => c != ' ' && !isBreak c).contains '!'

/-- The name of a tag. -/
def tagName (p : Cursor) : Except Fault (TagName × Cursor) :=
  match p.next.rest with
  | '<' :: _ => do
    let (name, q) ← (p.skip 2).address
    if q.rest.head? = some '>' then .ok (.full name, q.next) else malformed
  | cs =>
    if gapFollows cs then .ok (.full "!", p.next)
    else do
      let (handle, q) ← if hasSecondMark cs then p.handle else .ok ("!", p.next)
      let (suffix, q) ← q.address
      .ok (.short handle suffix, q)

/-- A tag, which a space or a break must follow. -/
def tag (p : Cursor) : Except Fault (TagName × Cursor) := do
  let (name, q) ← p.tagName
  if spaceOrBreakFollows q.rest then .ok (name, q) else malformed

/-! ## Directives -/

def number (p : Cursor) : Except Fault (Nat × Cursor) :=
  let (digits, q) := p.span Char.isDigit
  match (String.ofList digits).toNat? with
  | some n => .ok (n, q)
  | none => malformed

/-- The version of a version directive; only its first part matters. -/
def version (p : Cursor) : Except Fault (Directive × Cursor) := do
  let (major, q) ← p.skipSpaces.number
  if q.rest.head? = some '.' then
    let (_, q) ← q.next.number
    if spaceOrBreakFollows q.rest then .ok (.version major, q) else malformed
  else malformed

/-- The handle and the address of a tag directive. -/
def tagDirective (p : Cursor) : Except Fault (Directive × Cursor) := do
  let (handle, q) ← p.skipSpaces.handle
  if q.rest.head? = some ' ' then
    let (address, q) ← q.skipSpaces.address
    if spaceOrBreakFollows q.rest then .ok (.tag handle address, q) else malformed
  else malformed

/-- A directive and the end of its line. -/
def directive (p : Cursor) : Except Fault (Directive × Cursor) := do
  let (name, q) ← p.next.name
  if spaceOrBreakFollows q.rest then
    let (d, q) ←
      if name = "YAML" then q.version
      else if name = "TAG" then q.tagDirective
      else .ok (.other, (q.span (!isBreak ·)).2)
    .ok (d, ← q.endLine)
  else malformed

end Cursor

end EntitySelection.Yaml
