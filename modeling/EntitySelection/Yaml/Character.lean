import EntitySelection.Text.Digit
import EntitySelection.Text.Line

/-!
# Characters of YAML

The characters that a YAML text may hold, and the classes that its grammar names. A *break* ends
a line; a *gap* is a space, a tab or a break. The tests named `…Follows` look at the start of a
text, and the end of the text counts as a break.
-/

namespace EntitySelection.Yaml

/-- A character that a text may hold. -/
def isAllowed (c : Char) : Bool :=
  let n := c.toNat
  n == 0x09 || n == 0x0a || n == 0x0d || (0x20 ≤ n && n ≤ 0x7e) || n == 0x85 ||
    (0xa0 ≤ n && n ≤ 0xd7ff) || (0xe000 ≤ n && n ≤ 0xfffd) || 0x10000 ≤ n

def isBreak (c : Char) : Bool :=
  c == '\n' || c == '\r' || c == '\x85' || c == '\u2028' || c == '\u2029'

def isGap (c : Char) : Bool := c == ' ' || c == '\t' || isBreak c

def gapFollows : List Char → Bool
  | [] => true
  | c :: _ => isGap c

/-- A gap without tabs. -/
def spaceOrBreakFollows : List Char → Bool
  | [] => true
  | c :: _ => c == ' ' || isBreak c

/-- Whether a text starts with a mark that a gap follows. -/
def markFollows (mark : List Char) (cs : List Char) : Bool :=
  mark.isPrefixOf cs && gapFollows (cs.drop mark.length)

def startMark : List Char := ['-', '-', '-']

def endMark : List Char := ['.', '.', '.']

/-- Whether a line starts with a mark between documents. -/
def documentMarkFollows (cs : List Char) : Bool := markFollows startMark cs || markFollows endMark cs

/-- A character of a name: a letter or digit of ASCII, a hyphen or an underscore. -/
def isNameChar (c : Char) : Bool := c.isAlphanum || c == '-' || c == '_'

/-- A character that may stand in the address of a tag. -/
def isTagChar (c : Char) : Bool := c.isAlphanum || "-;/?:@&=+$,_.!~*'()[]%".toList.contains c

end EntitySelection.Yaml
