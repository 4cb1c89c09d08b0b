import RequestRouter.Text.Blank
import RequestRouter.Text.Digit

/-!
# Whole numbers written in decimal

A numeral is an optional sign and a run of digits of any scripts, where one underscore may stand
between two digits. White space around it is ignored, the four information separators apart. A run
of more than 4300 digits is refused before it is converted.
-/

namespace RequestRouter.Text

/-- Why a text is not read as a whole number. -/
inductive NumeralFault
  | malformed
  | tooLong (digits : Nat)
  deriving DecidableEq, Repr

/-- The greatest number of digits that is converted. -/
def maxNumeralDigits : Nat := 4300

/-- White space that may surround a numeral. -/
def isNumeralBlank (c : Char) : Bool :=
  isBlank c.toNat && !(28 ≤ c.toNat && c.toNat ≤ 31)

/-- The digits at the start of a text and what follows them; `after` tells whether a digit stands
just before. There must be a digit on both sides of each underscore. -/
def digitRun : (after : Bool) → List Char → Option (List Nat × List Char)
  | after, [] => if after then some ([], []) else none
  | after, c :: rest =>
    if c == '_' then
      if after then digitRun false rest else none
    else match digitValue? c.toNat with
      | some d => (digitRun true rest).map fun (digits, rest') => (d :: digits, rest')
      | none => if after then some ([], c :: rest) else none

/-- The number with the given decimal digits. -/
def ofDigits (digits : List Nat) : Nat := digits.foldl (fun n d => n * 10 + d) 0

def takeSign : List Char → Bool × List Char
  | '-' :: rest => (true, rest)
  | '+' :: rest => (false, rest)
  | rest => (false, rest)

/-- The whole number that a text writes. -/
def readInt (text : List Char) : Except NumeralFault Int :=
  let (negative, rest) := takeSign (text.dropWhile isNumeralBlank)
  match digitRun false rest with
  | none => .error .malformed
  | some (digits, rest) =>
    if maxNumeralDigits < digits.length then .error (.tooLong digits.length)
    else if rest.all isNumeralBlank then
      .ok (if negative then -(ofDigits digits : Int) else ofDigits digits)
    else .error .malformed

/-- The greatest number of characters that a refused text is shown with. -/
def maxShownLiteral : Nat := 200

/-- What is said about a text, shown as `shown`, that is not a numeral. -/
def NumeralFault.message (shown : String) : NumeralFault → String
  | .malformed =>
    "invalid literal for int() with base 10: " ++ String.ofList (shown.toList.take maxShownLiteral)
  | .tooLong digits =>
    s!"Exceeds the limit ({maxNumeralDigits} digits) for integer string conversion: value has " ++
      s!"{digits} digits; use sys.set_int_max_str_digits() to increase the limit"

end RequestRouter.Text
