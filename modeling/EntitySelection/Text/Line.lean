import EntitySelection.Text.Utf8

/-!
# Lines of a text file

A text file may end its lines by a line feed, a carriage return or both; all of them are read
as one line feed. A reader that goes line by line takes the file in chunks: it sees the lines
of a chunk before it sees a fault in a later one.
-/

namespace EntitySelection.Text

/-- The mark that may stand at the start of a file. -/
def byteOrderMark : Char := '\ufeff'

/-- Every line end as one line feed. -/
def unifyNewlines : List Char → List Char
  | [] => []
  | '\r' :: '\n' :: cs => '\n' :: unifyNewlines cs
  | '\r' :: cs => '\n' :: unifyNewlines cs
  | c :: cs => c :: unifyNewlines cs

/-- The lines of a text, each with its line feed; `current` is the line so far, reversed. -/
def linesFrom (current : List Char) : List Char → List (List Char)
  | [] => if current.isEmpty then [] else [current.reverse]
  | c :: cs =>
    if c = '\n' then (c :: current).reverse :: linesFrom [] cs else linesFrom (c :: current) cs

def lines (cs : List Char) : List (List Char) := linesFrom [] cs

/-- Bytes that a reader takes from a file at once. -/
def chunkSize : Nat := 8192

/-- The text of a file up to the first fault, chunk by chunk, and that fault, placed from the
start of its chunk. `pending` are the bytes of a character that the last chunk has cut. -/
def decodeChunks (pending : List UInt8) : List (List UInt8) → List Char × Option Utf8.Fault
  | [] => match Utf8.decodePrefix pending with
    | (_, some f) => ([], some f)
    | (cs, none) => (cs, none)
  | chunk :: rest =>
    let bytes := pending ++ chunk
    match Utf8.decodePrefix bytes with
    | (cs, none) =>
      let r := decodeChunks [] rest
      (cs ++ r.1, r.2)
    | (cs, some f) =>
      if f.kind = .unexpectedEnd then
        let r := decodeChunks (bytes.drop f.offset) rest
        (cs ++ r.1, r.2)
      else ([], some f)

/-- The pieces of `n` bytes of a file; `count` bounds their number. -/
def chunks (n : Nat) : Nat → List UInt8 → List (List UInt8)
  | 0, _ => []
  | count + 1, bs => if bs.isEmpty then [] else bs.take n :: chunks n count (bs.drop n)

/-- What reading a file line by line gives: the lines before the first fault, and that fault.
A line that the fault cuts is not given. -/
def readLines (bytes : List UInt8) : List String × Option Utf8.Fault :=
  let (cs, fault) := decodeChunks [] (chunks chunkSize bytes.length bytes)
  let whole := match fault with
    | none => cs
    | some _ => (cs.reverse.dropWhile fun c => c != '\n' && c != '\r').reverse
  ((lines (unifyNewlines whole)).map String.ofList, fault)

/-- The whole text of a file. -/
def readAll (bytes : List UInt8) : Except Utf8.Fault String :=
  (Utf8.decode bytes).map fun s => String.ofList (unifyNewlines s.toList)

end EntitySelection.Text
