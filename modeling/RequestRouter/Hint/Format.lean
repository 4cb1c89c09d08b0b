import RequestRouter.Hint.Token

/-!
# Formatted texts

A formatted text has fields in braces between pieces of text. A field is an expression, the letter
of a conversion behind an exclamation mark, and a layout behind a colon, which may hold fields in
turn. Doubled braces stand for themselves.
-/

namespace RequestRouter.Hint

/-- Why a formatted text cannot be cut into fields. -/
inductive FormatFault
  | strayBrace
  | openField
  | emptyField
  | backslash
  | remark
  | openQuote
  | strayBracket (c : Char)
  | wrongBracket (closing opening : Char)
  | badConversion
  | tooDeep
  deriving DecidableEq, Repr

def FormatFault.message : FormatFault → String
  | .strayBrace => "f-string: single '\x7d' is not allowed"
  | .openField => "f-string: expecting '\x7d'"
  | .emptyField => "f-string: empty expression not allowed"
  | .backslash => "f-string expression part cannot include a backslash"
  | .remark => "f-string expression part cannot include '#'"
  | .openQuote => "f-string: unterminated string"
  | .strayBracket c => s!"f-string: unmatched '{c}'"
  | .wrongBracket closing opening =>
    s!"f-string: closing parenthesis '{closing}' does not match opening parenthesis '{opening}'"
  | .badConversion => "f-string: invalid conversion character: expected 's', 'r', or 'a'"
  | .tooDeep => "f-string: expressions nested too deeply"

/-- A part of a formatted text, before its expressions are read. -/
inductive FormatPart
  | text (body : List Char)
  | field (expression : List Char) (conversion : Option Char) (layout : List FormatPart)

namespace FormatPart

/-- The place in the expression of a field: the mark of the quotation that is open, with the number
of marks that end it, and the brackets that are open. -/
structure Inside where
  quote : Option (Char × Nat) := none
  brackets : List Char := []

def opening (closing : Char) : Char :=
  if closing == ')' then '(' else if closing == ']' then '[' else '\x7b'

/-- The number of marks in a row, three at most, that start a quotation: one or three. -/
def marksAt (mark : Char) (text : List Char) : Nat :=
  if text.take 3 == [mark, mark, mark] then 3 else 1

/-- What a character in the expression of a field does. -/
inductive Effect
  /-- So many characters belong to the expression, and the place behind them is given. -/
  | take (count : Nat) (inside : Inside)
  /-- The expression ends in front of the character. -/
  | ends
  | fails (fault : FormatFault)

/-- What the first character of a text does at a place in the expression of a field. -/
def effect (inside : Inside) (c : Char) (rest : List Char) : Effect :=
  if c == '\\' then .fails .backslash
  else match inside.quote with
    | some (mark, count) =>
      if (List.replicate count mark).isPrefixOf (c :: rest) then
        .take count { inside with quote := none }
      else .take 1 inside
    | none =>
      if c == '\'' || c == '"' then
        let count := marksAt c (c :: rest)
        .take count { inside with quote := some (c, count) }
      else if "([\x7b".toList.contains c then
        .take 1 { inside with brackets := c :: inside.brackets }
      else if c == '#' then .fails .remark
      else if inside.brackets.isEmpty && "!:\x7d=<>".toList.contains c then
        if "!=<>".toList.contains c && rest.head? == some '=' then .take 2 inside
        else if c == '<' || c == '>' then .take 1 inside
        else .ends
      else if ")]\x7d".toList.contains c then
        match inside.brackets with
        | [] => .fails (.strayBracket c)
        | first :: others =>
          if first == opening c then .take 1 { inside with brackets := others }
          else .fails (.wrongBracket c first)
      else .take 1 inside

/-- What is wrong with a place where the text ends. -/
def Inside.fault (inside : Inside) : FormatFault :=
  if inside.quote.isSome then .openQuote
  else match inside.brackets with
    | c :: _ => .strayBracket c
    | [] => .openField

/-- The expression at the start of a field, and what follows it; `taken` characters are taken
already. -/
def expression (inside : Inside) : (taken : Nat) → List Char →
    Except FormatFault (List Char × List Char)
  | _, [] => .error inside.fault
  | taken + 1, c :: rest => (expression inside taken rest).map fun (e, rest) => (c :: e, rest)
  | 0, c :: rest =>
    match effect inside c rest with
    | .take count inside =>
      (expression inside (count - 1) rest).map fun (e, rest) => (c :: e, rest)
    | .ends => .ok ([], c :: rest)
    | .fails fault => .error fault

/-- The conversion at the start of a text, behind an exclamation mark. -/
def conversion : List Char → Except FormatFault (Option Char × List Char)
  | '!' :: c :: rest =>
    if ['s', 'r', 'a'].contains c then .ok (some c, rest) else .error .badConversion
  | ['!'] => .error .openField
  | rest => .ok (none, rest)

/-- What may follow an expression that is shown together with its value: an equals sign. -/
def withoutEquals : List Char → List Char
  | '=' :: rest => rest.dropWhile fun c => c == ' ' || c == '\t' || c == '\n'
  | rest => rest

/-- The text up to a brace, single braces of a pair taken as one character, and what follows. -/
def plain (inLayout : Bool) : List Char → Except FormatFault (List Char × List Char)
  | [] => .ok ([], [])
  | '\x7b' :: '\x7b' :: rest =>
    if inLayout then .ok ([], '\x7b' :: '\x7b' :: rest)
    else (plain inLayout rest).map fun (before, rest) => ('\x7b' :: before, rest)
  | '\x7d' :: '\x7d' :: rest =>
    if inLayout then .ok ([], '\x7d' :: '\x7d' :: rest)
    else (plain inLayout rest).map fun (before, rest) => ('\x7d' :: before, rest)
  | c :: rest =>
    if c == '\x7b' then .ok ([], c :: rest)
    else if c == '\x7d' then if inLayout then .ok ([], c :: rest) else .error .strayBrace
    else (plain inLayout rest).map fun (before, rest) => (c :: before, rest)

/-- How deep fields can stand in layouts of fields. -/
def maxLevel : Nat := 2

/-- The parts of a formatted text, or of the layout of a field at some level, and what follows the
layout. Each field and each text takes a character at least, so `fuel` need not be greater than the
number of characters. -/
def parts : (fuel level : Nat) → List Char → Except FormatFault (List FormatPart × List Char)
  | 0, _, rest => .ok ([], rest)
  | fuel + 1, level, rest => do
    let (before, rest) ← plain (level != 0) rest
    let here := if before.isEmpty then [] else [.text before]
    match rest with
    | '\x7b' :: rest =>
      if maxLevel ≤ level then throw .tooDeep
      let (e, rest) ← expression {} 0 rest
      if e.all fun c => c == ' ' || c == '\t' || c == '\n' || c == '\x0c' || c == '\r' then
        throw .emptyField
      let (conversion, rest) ← conversion (withoutEquals rest)
      let (layout, rest) ←
        match rest with
        | ':' :: rest => parts fuel (level + 1) rest
        | rest => pure ([], rest)
      match rest with
      | '\x7d' :: rest =>
        let (more, rest) ← parts fuel level rest
        return (here ++ .field e conversion layout :: more, rest)
      | _ => throw .openField
    | rest => return (here, rest)

def ofBody (body : List Char) : Except FormatFault (List FormatPart) :=
  (parts (body.length + 1) 0 body).map (·.1)

end FormatPart

end RequestRouter.Hint
