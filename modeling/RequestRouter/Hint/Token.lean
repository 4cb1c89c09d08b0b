import RequestRouter.Text.Quoted

/-!
# Tokens of text hints

A text hint is an expression. It is cut into tokens first, and a text that cannot be cut ends in a
token that tells why.
-/

namespace RequestRouter.Hint

/-- A number that is written. -/
inductive Number
  | whole (n : Nat)
  /-- More decimal digits than are converted. -/
  | tooLong (digits : Nat)
  /-- A number with a fraction, an exponent or an imaginary unit, as it is written. -/
  | inexact (written : String) (imaginary : Bool)
  deriving DecidableEq, Repr

/-- A text between marks, before its escapes are resolved. -/
structure Quotation where
  bytes : Bool
  /-- Escapes stand for themselves. -/
  raw : Bool
  /-- Expressions may stand in braces. -/
  formatted : Bool
  body : List Char
  deriving DecidableEq, Repr

/-- The ways in which whole numbers are written, and the imaginary unit behind a number. -/
inductive Numeration
  | binary
  | octal
  | decimal
  | hexadecimal
  | imaginary
  deriving DecidableEq, Repr

def Numeration.title : Numeration → String
  | .binary => "binary"
  | .octal => "octal"
  | .decimal => "decimal"
  | .hexadecimal => "hexadecimal"
  | .imaginary => "imaginary"

/-- Why a text cannot be cut into tokens. -/
inductive LexicalFault
  | badNumber (numeration : Numeration)
  | badDigit (digit : Char) (numeration : Numeration)
  | leadingZeros
  /-- A quoted text does not end; `line` is where this was noticed. -/
  | openQuote (long : Bool) (line : Nat)
  /-- A bracket is closed that was not opened. -/
  | strayBracket (closing : Char)
  /-- A bracket is closed by one of another kind; `line` is given if it was opened on another. -/
  | wrongBracket (closing opening : Char) (line : Option Nat)
  | openBracket (opening : Char)
  | tooDeep
  /-- A backslash in front of something else than a line end. -/
  | strayBackslash
  /-- The text ends behind a backslash and a line end. -/
  | cutOff
  | badCharacter (c : Char)
  | unprintable (c : Char)
  deriving DecidableEq, Repr

/-- The code of a character, in at least four hexadecimal digits. -/
def codeText (c : Char) : String :=
  let digits := (Nat.toDigits 16 c.toNat).map Char.toUpper
  "U+" ++ String.ofList (List.replicate (4 - digits.length) '0' ++ digits)

def LexicalFault.message : LexicalFault → String
  | .badNumber numeration => s!"invalid {numeration.title} literal"
  | .badDigit digit numeration => s!"invalid digit '{digit}' in {numeration.title} literal"
  | .leadingZeros => "leading zeros in decimal integer literals are not permitted; " ++
    "use an 0o prefix for octal integers"
  | .openQuote false line => s!"unterminated string literal (detected at line {line})"
  | .openQuote true line => s!"unterminated triple-quoted string literal (detected at line {line})"
  | .strayBracket closing => s!"unmatched '{closing}'"
  | .wrongBracket closing opening line =>
    s!"closing parenthesis '{closing}' does not match opening parenthesis '{opening}'" ++
      match line with
      | some line => s!" on line {line}"
      | none => ""
  | .openBracket opening => s!"'{opening}' was never closed"
  | .tooDeep => "too many nested parentheses"
  | .strayBackslash => "unexpected character after line continuation character"
  | .cutOff => "unexpected EOF while parsing"
  | .badCharacter c => s!"invalid character '{c}' ({codeText c})"
  | .unprintable c => s!"invalid non-printable character {codeText c}"

/-- Faults that are told even if the tokens before them make no expression. -/
def LexicalFault.isUrgent : LexicalFault → Bool
  | .openBracket _ | .strayBackslash | .cutOff => false
  | _ => true

inductive Token
  | name (s : String)
  | keyword (s : String)
  | number (n : Number)
  | quoted (q : Quotation)
  | sign (s : String)
  | lineEnd
  /-- A line that stands further right than the ones before. -/
  | indent
  | dedent
  /-- The end of the text. -/
  | finish
  /-- The text cannot be cut from here on. -/
  | broken (fault : LexicalFault)
  deriving DecidableEq, Repr

/-- A token with its place. -/
structure Lexeme where
  token : Token
  /-- The line that it starts on. -/
  line : Nat
  /-- The number of brackets that are open behind it. -/
  depth : Nat
  deriving DecidableEq, Repr

/-- Words that are no names. -/
def keywords : List String :=
  ["False", "None", "True", "and", "as", "assert", "async", "await", "break", "class", "continue",
    "def", "del", "elif", "else", "except", "finally", "for", "from", "global", "if", "import",
    "in", "is", "lambda", "nonlocal", "not", "or", "pass", "raise", "return", "try", "while",
    "with", "yield"]

end RequestRouter.Hint
