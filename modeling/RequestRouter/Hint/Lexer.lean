import RequestRouter.Hint.Number
import RequestRouter.Text.Identifier
import RequestRouter.Text.PlainForm

/-!
# Cutting text hints into tokens

Line ends count outside of brackets only. Blank lines and remarks behind a number sign are dropped.
The cutting ends with the text or with the first thing that is no token.
-/

namespace RequestRouter.Hint

/-- The place that has been reached. -/
structure Cursor where
  rest : List Char
  line : Nat := 1
  /-- The brackets that are open, innermost first, with the lines they were opened on. -/
  brackets : List (Char × Nat) := []
  /-- The indentations of the lines around, innermost first. -/
  indents : List Nat := [0]
  /-- Nothing of the line has been looked at. -/
  fresh : Bool := true

/-- What is found at a place. -/
inductive Cut
  /-- Nothing that counts. -/
  | nothing (next : Cursor)
  | token (token : Token) (line : Nat) (next : Cursor)
  /-- The last token. -/
  | last (token : Token) (line : Nat)

namespace Cursor

/-- The place behind a piece of text. -/
def behind (c : Cursor) (piece rest : List Char) : Cursor :=
  { c with rest, line := c.line + piece.count '\n', fresh := false }

def found (c : Cursor) (token : Token) (rest : List Char) : Cut :=
  .token token c.line (c.behind [] rest)

def fails (c : Cursor) (fault : LexicalFault) : Cut := .last (.broken fault) c.line

def isLineBlank (c : Char) : Bool := c == ' ' || c == '\t' || c == '\x0c'

/-- The column that blanks lead to. -/
def column (blanks : List Char) : Nat :=
  blanks.foldl (fun n c => if c == ' ' then n + 1 else if c == '\t' then (n / 8 + 1) * 8 else 0) 0

/-- The rest of the line, without its end. -/
def lineRest (text : List Char) : List Char := text.takeWhile (· != '\n')

/-- The start of a line: lines without tokens are dropped, and the indentation of others is
compared with that of the lines around, outside of brackets. -/
def startLine (c : Cursor) : Cut :=
  let rest := c.rest.dropWhile isLineBlank
  let here := { c with rest, fresh := false }
  if rest.head?.any fun d => d == '#' || d == '\n' then
    match rest.dropWhile (· != '\n') with
    | [] => .nothing { here with rest := [] }
    | _ :: rest => .nothing { c with rest, line := c.line + 1 }
  else if !c.brackets.isEmpty then .nothing here
  else
    let column := column (c.rest.takeWhile isLineBlank)
    let indent := c.indents.headD 0
    if column == indent then .nothing here
    else if indent < column then .token .indent c.line { here with indents := column :: c.indents }
    else .token .dedent c.line { here with indents := c.indents.dropWhile (column < ·) }

/-- The character that makes a name none: one that cannot stand at its place in a name. -/
def misplaced? : List Char → Option Char
  | [] => none
  | c :: rest =>
    if !Text.identifierStartSpans.has c.toNat then some c
    else rest.find? fun d => !Text.identifierSpans.has d.toNat

/-- What a word is that has characters of any scripts. -/
def wordToken (word : List Char) : Token :=
  let s := String.ofList word
  if keywords.contains s then .keyword s
  else match if word.all (·.toNat < 128) then none else misplaced? word with
    | some c => .broken (if Text.isPrintable c.toNat then .badCharacter c else .unprintable c)
    | none => .name (String.ofList (Text.plain word))

/-- The letters that may stand in front of a quoted text. -/
def quotationLetters : List (List Char) :=
  [[], ['b'], ['r'], ['u'], ['f'], ['b', 'r'], ['r', 'b'], ['f', 'r'], ['r', 'f']]

/-- The letters in front of a quoted text, with what they mean. -/
def quotation? (letters : List Char) : Option Quotation :=
  let letters := letters.map Char.toLower
  if quotationLetters.contains letters then
    some ⟨letters.contains 'b', letters.contains 'r', letters.contains 'f', []⟩
  else none

/-- The text up to the mark that ends it, a run of `length` equal characters, and what follows. A
character behind a backslash ends nothing. Only a long quotation goes over line ends. -/
def quotedBody (mark : Char) (length : Nat) : List Char → Except (List Char) (List Char × List Char)
  | [] => .error []
  | '\\' :: c :: rest =>
    (quotedBody mark length rest).map fun (body, rest) => ('\\' :: c :: body, rest)
  | c :: rest =>
    if (List.replicate length mark).isPrefixOf (c :: rest) then .ok ([], rest.drop (length - 1))
    else if length == 1 && c == '\n' then .error (c :: rest)
    else (quotedBody mark length rest).map fun (body, rest) => (c :: body, rest)

/-- A quoted text, whose first mark is `mark`, behind letters in front of it. `last` is the number
of the last line. -/
def quoted (c : Cursor) (last : Nat) (q : Quotation) (letters : List Char) (mark : Char)
    (rest : List Char) : Cut :=
  let long := rest.take 2 == [mark, mark]
  let length := if long then 3 else 1
  let text := if long then rest.drop 2 else rest
  match quotedBody mark length text with
  | .ok (body, rest) =>
    .token (.quoted { q with body := body }) c.line (c.behind (letters ++ body) rest)
  | .error [] => c.fails (.openQuote long last)
  | .error stop =>
    let read := text.take (text.length - stop.length)
    c.fails (.openQuote long (c.line + read.count '\n'))

/-- A word, or a quoted text with letters in front. -/
def word (c : Cursor) (last : Nat) : Cut :=
  let letters := c.rest.takeWhile inName
  let rest := c.rest.dropWhile inName
  let plainWord := c.found (wordToken letters) rest
  match rest with
  | mark :: behind =>
    if mark == '\'' || mark == '"' then
      match quotation? letters with
      | some q => c.quoted last q letters mark behind
      | none => plainWord
    else plainWord
  | [] => plainWord

/-- Signs of several characters, the longest first. -/
def longSigns : List String :=
  ["**=", "//=", ">>=", "<<=", "...", "!=", "%=", "&=", "**", "*=", "+=", "-=", "->", "//", "/=",
    ":=", "<<", "<=", "<>", "==", ">=", ">>", "@=", "^=", "|="]

def openingOf (closing : Char) : Char :=
  if closing == ')' then '(' else if closing == ']' then '[' else '\x7b'

/-- The greatest number of brackets that can be open at once. -/
def maxDepth : Nat := 200

def close (c : Cursor) (closing : Char) (rest : List Char) : Cut :=
  match c.brackets with
  | [] => c.fails (.strayBracket closing)
  | (opening, line) :: others =>
    if opening == openingOf closing then
      { c with brackets := others }.found (.sign (String.ofList [closing])) rest
    else c.fails (.wrongBracket closing opening (if line == c.line then none else some line))

def sign (c : Cursor) (first : Char) (rest : List Char) : Cut :=
  let one := Token.sign (String.ofList [first])
  match longSigns.find? fun s => s.toList.isPrefixOf (first :: rest) with
  | some s => c.found (.sign s) (rest.drop (s.length - 1))
  | none =>
    if "([\x7b".toList.contains first then
      if maxDepth ≤ c.brackets.length then c.fails .tooDeep
      else { c with brackets := (first, c.line) :: c.brackets }.found one rest
    else if ")]\x7d".toList.contains first then c.close first rest
    else if Text.isPrintable first.toNat then c.found one rest
    else c.fails (.unprintable first)

/-- What follows a backslash at the end of a line. -/
def continueLine (c : Cursor) (last : Nat) : List Char → Cut
  | ['\n'] => .last (.broken .cutOff) last
  | '\n' :: rest => .nothing { c with rest, line := c.line + 1 }
  | _ => c.fails .strayBackslash

/-- What is found inside a line; `last` is the number of the last line. -/
def cutInside (c : Cursor) (last : Nat) : Cut :=
  match c.rest with
  | [] =>
    match c.brackets with
    | [] => .last .finish last
    | (opening, line) :: _ => .last (.broken (.openBracket opening)) line
  | d :: rest =>
    if isLineBlank d then .nothing { c with rest }
    else if d == '#' then .nothing { c with rest := rest.dropWhile (· != '\n') }
    else if d == '\n' then
      let next := { c with rest, line := c.line + 1, fresh := true }
      if c.brackets.isEmpty then .token .lineEnd c.line next else .nothing next
    else if d == '\\' then c.continueLine last rest
    else if d == '\'' || d == '"' then c.quoted last ⟨false, false, false, []⟩ [] d rest
    else if d.isDigit || (d == '.' && rest.head?.any Char.isDigit) then
      match Number.read c.rest with
      | .ok (n, rest) => c.found (.number n) rest
      | .error fault => c.fails fault
    else if inName d then c.word last
    else c.sign d rest

def cut (c : Cursor) (last : Nat) : Cut := if c.fresh then c.startLine else c.cutInside last

/-- The tokens from a place on. Each step takes a character at least or starts a line, so `fuel`
need not be greater than the number of characters and lines. -/
def lexemes (last : Nat) : (fuel : Nat) → Cursor → List Lexeme
  | 0, _ => []
  | fuel + 1, c =>
    match c.cut last with
    | .nothing next => lexemes last fuel next
    | .token (.broken fault) line _ => [⟨.broken fault, line, c.brackets.length⟩]
    | .token token line next => ⟨token, line, next.brackets.length⟩ :: lexemes last fuel next
    | .last token line => [⟨token, line, c.brackets.length⟩]

end Cursor

/-- The number of lines of a text; a line end at the very end starts no further line. -/
def lineCount (text : List Char) : Nat :=
  text.count '\n' + if text.getLast?.all (· == '\n') then 0 else 1

def withPlainLineEnds : List Char → List Char
  | '\r' :: '\n' :: rest => '\n' :: withPlainLineEnds rest
  | '\r' :: rest => '\n' :: withPlainLineEnds rest
  | c :: rest => c :: withPlainLineEnds rest
  | [] => []

def lexemesOf (text : List Char) : List Lexeme :=
  let text := withPlainLineEnds text
  Cursor.lexemes (lineCount text) (2 * text.length + 2) { rest := text }

end RequestRouter.Hint
