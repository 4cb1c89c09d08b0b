import RequestRouter.Hint.Token
import RequestRouter.Text.Digit

/-!
# Numbers as they are written

A number is whole, in one of four numerations, or has a fraction, an exponent or an imaginary unit.
Single underscores may stand between digits. A name must not follow a number at once, unless it is
one of a few words.
-/

namespace RequestRouter.Hint

/-- A character that may stand inside a name, as far as can be told without tables. -/
def inName (c : Char) : Bool := c.isAlphanum || c == '_' || 128 ≤ c.toNat

namespace Number

/-- Digits with single underscores between them, and what follows; the text in front of which a
digit is missing. `due` tells whether a digit has to come. -/
def digits (valid : Char → Bool) :
    (due : Bool) → List Char → Except (List Char) (List Char × List Char)
  | due, [] => if due then .error [] else .ok ([], [])
  | due, c :: rest =>
    if valid c then (digits valid false rest).map fun (found, rest) => (c :: found, rest)
    else if due then .error (c :: rest)
    else if c == '_' then digits valid true rest
    else .ok ([], c :: rest)

/-- Decimal digits behind a digit. -/
def decimals (text : List Char) : Except LexicalFault (List Char × List Char) :=
  match digits Char.isDigit false text with
  | .ok found => .ok found
  | .error _ => .error (.badNumber .decimal)

/-- What follows a number may do so: no name, or a word that may. -/
def endsHere (rest : List Char) : Bool :=
  match rest with
  | 'i' :: c :: _ => ['f', 'n', 's'].contains c
  | rest =>
    let word := rest.takeWhile inName
    word.isEmpty || ["and", "else", "for", "or"].contains (String.ofList word)

/-- The numeration that a letter behind a nought announces, with its base. -/
def numeration? (c : Char) : Option (Numeration × Nat) :=
  if c == 'x' || c == 'X' then some (.hexadecimal, 16)
  else if c == 'o' || c == 'O' then some (.octal, 8)
  else if c == 'b' || c == 'B' then some (.binary, 2)
  else none

def isDigitOf (base : Nat) (c : Char) : Bool :=
  if base == 16 then Text.isHexDigit c else c.isDigit && Text.hexValue c < base

/-- The number behind the announcement of a numeration. -/
def readBased (numeration : Numeration) (base : Nat) (text : List Char) :
    Except LexicalFault (Number × List Char) :=
  let misplaced : List Char → LexicalFault
    | c :: _ => if c.isDigit then .badDigit c numeration else .badNumber numeration
    | [] => .badNumber numeration
  let text := if text.head? == some '_' then text.drop 1 else text
  match digits (isDigitOf base) true text with
  | .error rest => .error (misplaced rest)
  | .ok (found, rest) =>
    if rest.head?.any Char.isDigit then .error (misplaced rest)
    else if endsHere rest then .ok (.whole (Text.ofBase base found), rest)
    else .error (.badNumber numeration)

/-- The fraction at the start of a text, with its point. -/
def fraction : List Char → Except LexicalFault (List Char × List Char)
  | '.' :: rest => do
    if rest.head?.any Char.isDigit then
      let (found, rest) ← decimals rest
      return ('.' :: found, rest)
    else return (['.'], rest)
  | rest => return ([], rest)

/-- The exponent at the start of a text, with its letter. A letter that starts a word which may
follow a number is none. -/
def exponent : List Char → Except LexicalFault (List Char × List Char)
  | [] => return ([], [])
  | letter :: rest => do
    if letter == 'e' || letter == 'E' then
      let signed := rest.head?.any fun c => c == '+' || c == '-'
      let (sign, digits) := if signed then (rest.take 1, rest.drop 1) else ([], rest)
      if digits.head?.any Char.isDigit then
        let (found, rest) ← decimals digits
        return (letter :: sign ++ found, rest)
      else if !signed && endsHere (letter :: rest) then return ([], letter :: rest)
      else throw (.badNumber .decimal)
    else return ([], letter :: rest)

/-- The greatest number of decimal digits that is converted. -/
def maxDigits : Nat := 4300

/-- The whole number that decimal digits write; noughts in front are refused. -/
def ofDecimals (found : List Char) : Except LexicalFault Number :=
  if found.head? == some '0' && found.any (· != '0') then .error .leadingZeros
  else if maxDigits < found.length then .ok (.tooLong found.length)
  else .ok (.whole (Text.ofBase 10 found))

/-- A number in decimal digits. -/
def readDecimal (text : List Char) : Except LexicalFault (Number × List Char) := do
  let (before, rest) ← decimals text
  let (fraction, rest) ← fraction rest
  let (exponent, rest) ← exponent rest
  let further := fraction ++ exponent
  let written := String.ofList (before ++ further)
  if rest.head?.any fun c => c == 'j' || c == 'J' then
    if endsHere (rest.drop 1) then return (.inexact (written ++ "j") true, rest.drop 1)
    else throw (.badNumber .imaginary)
  else
    let number ← if further.isEmpty then ofDecimals before else pure (.inexact written false)
    if endsHere rest then return (number, rest) else throw (.badNumber .decimal)

/-- The number at the start of a text that starts with a digit, or with a point and a digit. -/
def read (text : List Char) : Except LexicalFault (Number × List Char) :=
  match text with
  | '0' :: c :: rest =>
    match numeration? c with
    | some (numeration, base) => readBased numeration base rest
    | none => readDecimal text
  | _ => readDecimal text

end Number

end RequestRouter.Hint
