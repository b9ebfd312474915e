import EntitySelection.Yaml.Token.Plain

/-!
# Quoted scalars

Between apostrophes only a doubled apostrophe is special; between quotation marks a backslash
escapes characters and line breaks. Line breaks are read as in plain scalars.
-/

namespace EntitySelection.Yaml

/-- The character that a letter stands for after a backslash. -/
def namedEscape? (c : Char) : Option Char :=
  match c with
  | '0' => some '\x00'
  | 'a' => some '\x07'
  | 'b' => some '\x08'
  | 't' | '\t' => some '\t'
  | 'n' => some '\n'
  | 'v' => some '\x0b'
  | 'f' => some '\x0c'
  | 'r' => some '\r'
  | 'e' => some '\x1b'
  | ' ' => some ' '
  | '"' => some '"'
  | '\\' => some '\\'
  | '/' => some '/'
  | 'N' => some '\x85'
  | '_' => some '\xa0'
  | 'L' => some '\u2028'
  | 'P' => some '\u2029'
  | _ => none

/-- The number of digits of the escape of a code point. -/
def escapeWidth? (c : Char) : Option Nat :=
  if c = 'x' then some 2 else if c = 'u' then some 4 else if c = 'U' then some 8 else none

/-- A line break at the start of a text, read as `Cursor.lineBreak?` reads it. -/
def splitBreak? (cs : List Char) : Option (Char × List Char) :=
  match cs with
  | '\r' :: '\n' :: rest => some ('\n', rest)
  | c :: rest =>
    if isBreak c then some (if c == '\u2028' || c == '\u2029' then c else '\n', rest) else none
  | [] => none

/-- Breaks with spaces and tabs among them; a mark between documents must not stand there. -/
def quotedBreaks : Nat → List Char → Except Fault (List Char × List Char)
  | 0, _ => malformed
  | steps + 1, cs =>
    if documentMarkFollows cs then malformed
    else
      let rest := cs.dropWhile fun c => c == ' ' || c == '\t'
      match splitBreak? rest with
      | some (b, rest) => do
        let (more, rest) ← quotedBreaks steps rest
        .ok (b :: more, rest)
      | none => .ok ([], rest)

/-- A gap inside a quoted scalar: what it is read as, and the text after it. -/
def quotedGap (cs : List Char) : Except Fault (List Char × List Char) :=
  let spaces := cs.takeWhile fun c => c == ' ' || c == '\t'
  let rest := cs.drop spaces.length
  match splitBreak? rest with
  | some (b, rest) => do
    let (breaks, rest) ← quotedBreaks rest.length.succ rest
    .ok (foldBreaks b breaks, rest)
  | none => .ok (spaces, rest)

/-- An escape after its backslash: what it stands for, and the text after it. -/
def escape (cs : List Char) : Except Fault (List Char × List Char) :=
  match splitBreak? cs with
  | some (_, rest) => quotedBreaks rest.length.succ rest
  | none =>
    match cs with
    | [] => malformed
    | c :: rest =>
      match namedEscape? c, escapeWidth? c with
      | some d, _ => .ok ([d], rest)
      | none, some width =>
        let digits := rest.take width
        match Text.hexNumber? digits with
        | some n =>
          if digits.length < width then malformed
          else if n < 0x110000 then .ok ([Char.ofNat n], rest.drop width)
          else .error (.codePoint n)
        | none => malformed
      | none, none => malformed

/-- The next piece of a quoted scalar and the text after it. There is none at the closing mark,
after which the text goes on. -/
def quotedPiece (double : Bool) (cs : List Char) :
    Except Fault (Option (List Char) × List Char) :=
  match cs with
  | [] => malformed
  | c :: rest =>
    if isGap c then (quotedGap cs).map fun (text, rest) => (some text, rest)
    else if double then
      if c = '"' then .ok (none, rest)
      else if c = '\\' then (escape rest).map fun (text, rest) => (some text, rest)
      else .ok (some [c], rest)
    else if c = '\'' then
      match rest with
      | '\'' :: rest => .ok (some [c], rest)
      | _ => .ok (none, rest)
    else .ok (some [c], rest)

/-- The rest of a quoted scalar; `steps` bounds the number of its pieces. -/
def quotedFrom (double : Bool) : Nat → List Char → Except Fault (List Char × List Char)
  | 0, _ => malformed
  | steps + 1, cs => do
    match ← quotedPiece double cs with
    | (none, rest) => .ok ([], rest)
    | (some text, rest) =>
      let (more, rest) ← quotedFrom double steps rest
      .ok (text ++ more, rest)

/-- Reads a quoted scalar from its opening mark on. Gives the text after it as well. -/
def readQuoted (double : Bool) (cs : List Char) : Except Fault (List Char × List Char) :=
  quotedFrom double cs.length.succ cs.tail

end EntitySelection.Yaml
