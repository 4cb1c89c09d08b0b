import RequestRouter.Text.Span

/-!
# White space

Spaces, line and paragraph ends, tabulators, and the four information separators. `trim` removes
them at both ends of a text.
-/

namespace RequestRouter.Text

/-- The white space characters. -/
def blankSpans : Spans :=
  [(0x9, 0xD), (0x1C, 0x20), (0x85, 0x85), (0xA0, 0xA0), (0x1680, 0x1680), (0x2000, 0x200A),
   (0x2028, 0x2029), (0x202F, 0x202F), (0x205F, 0x205F), (0x3000, 0x3000)]

def isBlank (code : Nat) : Bool := blankSpans.has code

/-- White space among the first 128 codes, without the information separators. -/
def isAsciiBlank (code : Nat) : Bool := (9 ≤ code && code ≤ 13) || code == 32

/-- A text without the white space at its start. -/
def trimLeft (text : List Char) : List Char := text.dropWhile fun c => isBlank c.toNat

/-- A text without the white space at its ends. -/
def trim (text : List Char) : List Char := (trimLeft (trimLeft text).reverse).reverse

end RequestRouter.Text
