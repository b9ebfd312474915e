/-!
# Blanks

Two classes of characters that stand around a text. *Space* is the property White_Space of
Unicode; a numeral may stand between spaces. A *blank* is a space or one of the four
information separators; names, tokens and queries are stripped of blanks.

Main statement: every space is a blank (`isBlank_of_isSpace`).
-/

namespace EntitySelection.Text

/-- The property White_Space of Unicode. -/
def isSpace (c : Char) : Bool :=
  let n := c.toNat
  (0x09 ≤ n && n ≤ 0x0d) || n == 0x20 || n == 0x85 || n == 0xa0 || n == 0x1680 ||
    (0x2000 ≤ n && n ≤ 0x200a) || n == 0x2028 || n == 0x2029 || n == 0x202f || n == 0x205f ||
    n == 0x3000

/-- A space or an information separator. -/
def isBlank (c : Char) : Bool := isSpace c || (0x1c ≤ c.toNat && c.toNat ≤ 0x1f)

theorem isBlank_of_isSpace {c : Char} (h : isSpace c = true) : isBlank c = true := by
  simp [isBlank, h]

def trimStart (p : Char → Bool) (cs : List Char) : List Char := cs.dropWhile p

def trimEnd (p : Char → Bool) (cs : List Char) : List Char := (cs.reverse.dropWhile p).reverse

def trim (p : Char → Bool) (cs : List Char) : List Char := trimEnd p (trimStart p cs)

/-- The text without the blanks at its ends. -/
def strip (s : String) : String := String.ofList (trim isBlank s.toList)

/-- Whether there is nothing but blanks in the text. -/
def isBlankText (s : String) : Bool := s.toList.all isBlank

end EntitySelection.Text
