import EntitySelection.Yaml.Cursor

/-!
# Plain scalars

A plain scalar is text without quotation marks. It ends at a colon or a comment that a gap sets
apart, in a flow collection also at the indicators of one, and where a line is indented less
than its surroundings. A single line break in it is read as a space; of several breaks the first
is left out.
-/

namespace EntitySelection.Yaml

/-- An indicator of a flow collection. -/
def isFlowIndicator (c : Char) : Bool := ",?[]\x7b\x7d".toList.contains c

/-- Whether a plain scalar stops before a character; `rest` follows it. -/
def stopsPlain (inFlow : Bool) (c : Char) (rest : List Char) : Bool :=
  isGap c ||
    (c == ':' && (gapFollows rest ||
      (inFlow && (rest.head?.any fun d => d != '?' && isFlowIndicator d)))) ||
    (inFlow && isFlowIndicator c)

/-- The part of a plain scalar up to a gap. -/
def plainWord (inFlow : Bool) : List Char → List Char
  | [] => []
  | c :: rest => if stopsPlain inFlow c rest then [] else c :: plainWord inFlow rest

/-- The text that a line break and the breaks after it are read as. -/
def foldBreaks (first : Char) (others : List Char) : List Char :=
  if first != '\n' then first :: others
  else if others.isEmpty then [' ']
  else others

/-- Breaks with spaces among them up to a text or a mark between documents, which gives none. -/
def plainBreaks : Nat → Cursor → Option (List Char) × Cursor
  | 0, p => (none, p)
  | steps + 1, p =>
    if documentMarkFollows p.rest then (none, p)
    else
      match p.skipSpaces.lineBreak? with
      | some (b, q) =>
        let (more, r) := plainBreaks steps q
        (more.map (b :: ·), r)
      | none => (some [], p.skipSpaces)

/-- A gap inside a plain scalar. -/
structure PlainGap where
  /-- What the gap is read as; nothing if the scalar ends here. -/
  text : List Char
  after : Cursor
  /-- Whether there is a line break in it. -/
  broken : Bool

def plainGap (p : Cursor) : PlainGap :=
  let (spaces, q) := p.span (· == ' ')
  match q.lineBreak? with
  | some (b, r) =>
    let (breaks, r) := plainBreaks r.rest.length.succ r
    ⟨(breaks.map (foldBreaks b)).getD [], r, true⟩
  | none => ⟨spaces, q, false⟩

/-- A plain scalar. -/
structure PlainScalar where
  text : List Char
  after : Cursor
  /-- Whether a line break ends it. -/
  broken : Bool

/-- The rest of a plain scalar after the gap `before`; `steps` bounds the number of its words. -/
def plainFrom (inFlow : Bool) (indent : Int) (before : PlainGap) : Nat → PlainScalar
  | 0 => ⟨[], before.after, before.broken⟩
  | steps + 1 =>
    let p := before.after
    let word := if p.rest.head? = some '#' then [] else plainWord inFlow p.rest
    if word.isEmpty then ⟨[], p, before.broken⟩
    else
      let gap := plainGap (p.skip word.length)
      if gap.text.isEmpty || gap.after.rest.head? = some '#' ||
          (!inFlow && gap.after.column < indent) then
        ⟨before.text ++ word, gap.after, gap.broken⟩
      else
        let more := plainFrom inFlow indent gap steps
        ⟨before.text ++ word ++ more.text, more.after, more.broken⟩

/-- Reads a plain scalar whose lines are indented by at least `indent`. -/
def Cursor.plain (inFlow : Bool) (indent : Int) (p : Cursor) : PlainScalar :=
  plainFrom inFlow indent ⟨[], p, false⟩ p.rest.length.succ

end EntitySelection.Yaml
