import EntitySelection.Yaml.Token.Block
import EntitySelection.Yaml.Token.Plain
import EntitySelection.Yaml.Token.Property
import EntitySelection.Yaml.Token.Quoted

/-!
# From text to tokens

**Indentation.** Outside flow collections the column of a line decides which collections it
continues: a deeper entry or key opens one, a shallower line closes those that are deeper.

**Keys.** A key needs no indicator, so it shows as a key only at the colon after it. Until then
the place before it is remembered as the *candidate* of its flow level; a candidate on an earlier
line or too far back is dropped. At the colon, the tokens for the key are put in at that place.
A candidate at the indentation of its mapping is *required*: nothing but a key can stand there.
-/

namespace EntitySelection.Yaml

/-- A place where a key may start. -/
structure Candidate where
  /-- The number of tokens before it. -/
  position : Nat
  required : Bool
  index : Nat
  line : Nat
  column : Nat

/-- The greatest length of a key that is not marked as one. -/
def keyLimit : Nat := 1024

/-- Whether a candidate can no longer be the start of a key that ends at a place. -/
def Candidate.isStale (k : Candidate) (p : Cursor) : Bool :=
  k.line != p.line || p.index - k.index > keyLimit

/-- A text that has been turned into tokens up to a place. -/
structure Reading where
  cursor : Cursor
  /-- The indentation of the innermost block collection, -1 outside all. -/
  indent : Int := -1
  /-- The indentations of the collections around it, innermost first. -/
  outer : List Int := []
  /-- Whether a key may start here. -/
  keyAllowed : Bool := true
  /-- The candidate of the innermost flow level. -/
  candidate : Option Candidate := none
  /-- The candidates of the levels around it, one for each open flow collection. -/
  candidates : List (Option Candidate) := []
  /-- The tokens, last first. -/
  tokens : List Token := []

namespace Reading

def inFlow (r : Reading) : Bool := !r.candidates.isEmpty

def push (t : Token) (r : Reading) : Reading := { r with tokens := t :: r.tokens }

def goTo (p : Cursor) (r : Reading) : Reading := { r with cursor := p }

/-- Puts tokens, given last first, before the token at a position. -/
def insertAt (position : Nat) (ts : List Token) (r : Reading) : Reading :=
  let newer := r.tokens.length - position
  { r with tokens := r.tokens.take newer ++ ts ++ r.tokens.drop newer }

/-! ## Indentation -/

/-- Closes the block collections that are deeper than a column. -/
def closeTo (column : Int) (indent : Int) (outer : List Int) (tokens : List Token) :
    Int × List Int × List Token :=
  match outer with
  | [] => (indent, [], tokens)
  | o :: os =>
    if column < indent then closeTo column o os (.blockEnd :: tokens) else (indent, outer, tokens)

def unwind (column : Int) (r : Reading) : Reading :=
  if r.inFlow then r
  else
    let (indent, outer, tokens) := closeTo column r.indent r.outer r.tokens
    { r with indent := indent, outer := outer, tokens := tokens }

/-- Opens a block collection at a column, unless the innermost one is there already. -/
def openAt (column : Nat) (r : Reading) : Option Reading :=
  if r.indent < column then some { r with indent := column, outer := r.indent :: r.outer } else none

/-! ## Candidates -/

def isRequired (k : Option Candidate) : Bool := k.any (·.required)

/-- Drops the candidate of the innermost level, which must not be required. -/
def dropCandidate (r : Reading) : Except Fault Reading :=
  if isRequired r.candidate then malformed else .ok { r with candidate := none }

/-- Drops the stale candidates of all levels, none of which must be required. -/
def dropStale (r : Reading) : Except Fault Reading :=
  let stale (k : Option Candidate) : Bool := k.any (·.isStale r.cursor)
  if (r.candidate :: r.candidates).any fun k => stale k && isRequired k then malformed
  else
    let keep (k : Option Candidate) : Option Candidate := k.filter (!·.isStale r.cursor)
    .ok { r with candidate := keep r.candidate, candidates := r.candidates.map keep }

/-- Remembers the current place as a candidate, if a key may start here. -/
def markCandidate (r : Reading) : Except Fault Reading :=
  if r.keyAllowed then do
    let r ← r.dropCandidate
    let p := r.cursor
    let required := !r.inFlow && r.indent == p.column
    .ok { r with
      candidate := some ⟨r.tokens.length, required, p.index, p.line, p.column⟩ }
  else .ok r

/-! ## Tokens -/

/-- Reads a token that may be the start of a key, and after which none may start. -/
def startingKey (read : Cursor → Except Fault (Token × Cursor)) (r : Reading) :
    Except Fault Reading := do
  let r ← r.markCandidate
  let (t, p) ← read r.cursor
  .ok ({ r with keyAllowed := false }.goTo p |>.push t)

def readAnchor (p : Cursor) : Except Fault (Token × Cursor) :=
  p.anchorName.map fun (name, q) => (.anchor name, q)

def readAlias (p : Cursor) : Except Fault (Token × Cursor) :=
  p.anchorName.map fun (name, q) => (.alias name, q)

def readTag (p : Cursor) : Except Fault (Token × Cursor) :=
  p.tag.map fun (name, q) => (.tag name, q)

def readQuotedScalar (double : Bool) (p : Cursor) : Except Fault (Token × Cursor) :=
  (readQuoted double p.rest).map fun (text, rest) =>
    (.scalar false (String.ofList text), p.skipTo rest)

/-- A directive or a mark between documents: it ends all collections. -/
def betweenDocuments (r : Reading) : Except Fault Reading := do
  let r ← (r.unwind (-1)).dropCandidate
  .ok { r with keyAllowed := false }

def directive (r : Reading) : Except Fault Reading := do
  let r ← r.betweenDocuments
  let (d, p) ← r.cursor.directive
  .ok (r.goTo p |>.push (.directive d))

def documentMark (t : Token) (r : Reading) : Except Fault Reading := do
  let r ← r.betweenDocuments
  .ok (r.goTo (r.cursor.skip 3) |>.push t)

def openFlow (t : Token) (r : Reading) : Except Fault Reading := do
  let r ← r.markCandidate
  .ok ({ r with
    keyAllowed := true
    candidate := none
    candidates := r.candidate :: r.candidates }.goTo r.cursor.next |>.push t)

def closeFlow (t : Token) (r : Reading) : Except Fault Reading := do
  let r ← r.dropCandidate
  match r.candidates with
  | [] => malformed
  | k :: ks =>
    .ok ({ r with keyAllowed := false, candidate := k, candidates := ks }.goTo r.cursor.next
      |>.push t)

def flowEntry (r : Reading) : Except Fault Reading := do
  let r ← r.dropCandidate
  .ok ({ r with keyAllowed := true }.goTo r.cursor.next |>.push .flowEntry)

/-- Opens the block collection of an indicator at the current place, if it is not open. -/
def openHere (t : Token) (r : Reading) : Except Fault Reading :=
  if r.inFlow then .ok r
  else if r.keyAllowed then
    .ok (match r.openAt r.cursor.column with
      | some r => r.push t
      | none => r)
  else malformed

def blockEntry (r : Reading) : Except Fault Reading := do
  let r ← (← r.openHere .blockSequenceStart).dropCandidate
  .ok ({ r with keyAllowed := true }.goTo r.cursor.next |>.push .blockEntry)

/-- The indicator of a key or of a value without a candidate. -/
def indicator (t : Token) (r : Reading) : Except Fault Reading := do
  let r ← (← r.openHere .blockMappingStart).dropCandidate
  .ok ({ r with keyAllowed := !r.inFlow }.goTo r.cursor.next |>.push t)

/-- A colon: it makes the candidate a key. -/
def value (r : Reading) : Except Fault Reading :=
  match r.candidate with
  | none => r.indicator .value
  | some k =>
    let r := { r with candidate := none, keyAllowed := false }
    let opened := if r.inFlow then none else r.openAt k.column
    let r := match opened with
      | some r => r.insertAt k.position [.key, .blockMappingStart]
      | none => r.insertAt k.position [.key]
    .ok (r.goTo r.cursor.next |>.push .value)

def blockScalar (folded : Bool) (r : Reading) : Except Fault Reading := do
  let r ← r.dropCandidate
  let (text, p) ← r.cursor.block folded r.indent
  .ok ({ r with keyAllowed := true }.goTo p |>.push (.scalar false (String.ofList text)))

def plainScalar (r : Reading) : Except Fault Reading := do
  let r ← r.markCandidate
  let s := r.cursor.plain r.inFlow (r.indent + 1)
  .ok ({ r with keyAllowed := s.broken }.goTo s.after |>.push (.scalar true (String.ofList s.text)))

/-- Indicators, which cannot start a plain scalar. -/
def isIndicator (c : Char) : Bool := "-?:,[]\x7b\x7d#&*!|>'\"%@\x60".toList.contains c

/-- Whether a plain scalar starts with a character; `rest` follows it. -/
def startsPlain (inFlow : Bool) (c : Char) (rest : List Char) : Bool :=
  !(isGap c || isIndicator c) ||
    (!gapFollows rest && (c == '-' || (!inFlow && (c == '?' || c == ':'))))

/-- Reads the token that starts with a character; `rest` follows it. -/
def token (r : Reading) (c : Char) (rest : List Char) : Except Fault Reading :=
  let atLineStart := r.cursor.column == 0
  if c = '%' && atLineStart then r.directive
  else if atLineStart && markFollows startMark (c :: rest) then r.documentMark .documentStart
  else if atLineStart && markFollows endMark (c :: rest) then r.documentMark .documentEnd
  else if c = '[' then r.openFlow .flowSequenceStart
  else if c = '\x7b' then r.openFlow .flowMappingStart
  else if c = ']' then r.closeFlow .flowSequenceEnd
  else if c = '\x7d' then r.closeFlow .flowMappingEnd
  else if c = ',' then r.flowEntry
  else if c = '-' && gapFollows rest then r.blockEntry
  else if c = '?' && (r.inFlow || gapFollows rest) then r.indicator .key
  else if c = ':' && (r.inFlow || gapFollows rest) then r.value
  else if c = '*' then r.startingKey readAlias
  else if c = '&' then r.startingKey readAnchor
  else if c = '!' then r.startingKey readTag
  else if c = '|' && !r.inFlow then r.blockScalar false
  else if c = '>' && !r.inFlow then r.blockScalar true
  else if c = '\'' then r.startingKey (readQuotedScalar false)
  else if c = '"' then r.startingKey (readQuotedScalar true)
  else if startsPlain r.inFlow c rest then r.plainScalar
  else malformed

/-- Goes to the next token. -/
def toToken (r : Reading) : Reading :=
  let p := r.cursor
  let p := if p.index = 0 && p.rest.head? = some Text.byteOrderMark then p.next else p
  let (p, broken) := p.toToken p.rest.length.succ
  { r with cursor := p, keyAllowed := r.keyAllowed || (broken && !r.inFlow) }

/-- The tokens of a text; `steps` bounds the number of those that are still to read. -/
def finish : Nat → Reading → Except Fault (List Token)
  | 0, _ => malformed
  | steps + 1, r => do
    let r ← r.toToken.dropStale
    let r := r.unwind r.cursor.column
    match r.cursor.rest with
    | [] =>
      let r ← (r.unwind (-1)).dropCandidate
      .ok r.tokens.reverse
    | c :: rest => finish steps (← r.token c rest)

end Reading

/-- The tokens of a text. -/
def Token.ofText (cs : List Char) : Except Fault (List Token) :=
  Reading.finish cs.length.succ { cursor := { rest := cs } }

end EntitySelection.Yaml
