import RequestRouter.Text.Printable

/-!
# Quoted text

How a text is shown inside a message. It stands between apostrophes, or between quotation marks when
it holds an apostrophe and no quotation mark. The delimiter and the backslash are escaped, as is
every character that cannot be printed: three of them by a letter, the others by their code with
two, four or eight hexadecimal digits. Behind a backslash that is read, some letters more stand for a
control character each, and a backslash for itself.
-/

namespace RequestRouter.Text

/-- The `width` lowest hexadecimal digits of `code`. -/
def hexDigits : Nat → Nat → List Char
  | 0, _ => []
  | width + 1, code => hexDigits width (code / 16) ++ [Nat.digitChar (code % 16)]

def quoteChar (delimiter c : Char) : List Char :=
  if c == delimiter || c == '\\' then ['\\', c]
  else if c == '\n' then ['\\', 'n']
  else if c == '\r' then ['\\', 'r']
  else if c == '\t' then ['\\', 't']
  else if isPrintable c.toNat then [c]
  else if c.toNat < 0x100 then '\\' :: 'x' :: hexDigits 2 c.toNat
  else if c.toNat < 0x10000 then '\\' :: 'u' :: hexDigits 4 c.toNat
  else '\\' :: 'U' :: hexDigits 8 c.toNat

def delimiterOf (text : List Char) : Char :=
  if text.contains '\'' && !text.contains '"' then '"' else '\''

/-- A text as it is shown inside a message. -/
def quoteChars (text : List Char) : List Char :=
  let delimiter := delimiterOf text
  delimiter :: text.flatMap (quoteChar delimiter) ++ [delimiter]

def quote (text : String) : String := String.ofList (quoteChars text.toList)

/-- The code of the character that a letter behind a backslash stands for. -/
def controlOf? : Char → Option Nat
  | 'a' => some 7
  | 'b' => some 8
  | 'f' => some 12
  | 'n' => some 10
  | 'r' => some 13
  | 't' => some 9
  | 'v' => some 11
  | '\\' => some 92
  | _ => none

end RequestRouter.Text
