import RequestRouter.Text.Digit
import RequestRouter.Text.CharacterName
import RequestRouter.Text.Quoted

/-!
# Quoted texts and what they stand for

A backslash stands for nothing in front of a line end, and for a character in front of a mark, of
some letters, of octal digits, or of a code or a name. In front of anything else it stands for
itself. Quoted bytes know neither codes of more than two digits nor names.
-/

namespace RequestRouter.Hint

inductive EscapeProblem
  /-- Too few digits follow; `form` is what should have been written. -/
  | truncated (form : String)
  | beyondCharacters
  | malformedName
  | unknownName
  deriving DecidableEq, Repr

def EscapeProblem.message : EscapeProblem → String
  | .truncated form => "truncated " ++ form ++ " escape"
  | .beyondCharacters => "illegal Unicode character"
  | .malformedName => "malformed \\N character escape"
  | .unknownName => "unknown Unicode character name"

inductive EscapeFault
  /-- An escape that lasts from one position to another makes no character. -/
  | character (first last : Nat) (problem : EscapeProblem)
  /-- An escape makes no byte. -/
  | byte (position : Nat)
  /-- A character among quoted bytes is no single byte. -/
  | foreign
  deriving DecidableEq, Repr

def EscapeFault.message : EscapeFault → String
  | .character first last problem =>
    s!"(unicode error) 'unicodeescape' codec can't decode bytes in position {first}-{last}: " ++
      problem.message
  | .byte position => "(value error) invalid \\x escape at position " ++ toString position
  | .foreign => "bytes can only contain ASCII literal characters"

namespace Literal

/-- The characters behind a backslash that are taken as they are. -/
def isMark (c : Char) : Bool := c == '\'' || c == '"'

/-- An escape by code: the backslash stands at `position`, the letter and the code follow. -/
def byCode (position count : Nat) (form : String) (rest : List Char) :
    Except EscapeFault (List Char × Nat) :=
  let found := (rest.take count).takeWhile Text.isHexDigit
  let fails := EscapeFault.character position (position + 1 + found.length)
  if found.length < count then .error (fails (.truncated form))
  else if 0x10FFFF < Text.ofBase 16 found then .error (fails .beyondCharacters)
  else .ok ([Char.ofNat (Text.ofBase 16 found)], count + 1)

/-- An escape by name: the backslash stands at `position`, the letter is followed by `rest`. -/
def byName (position : Nat) (rest : List Char) : Except EscapeFault (List Char × Nat) :=
  match rest with
  | '\x7b' :: behind =>
    let name := behind.takeWhile (· != '\x7d')
    let last := position + 2 + name.length
    if name.length == behind.length then .error (.character position last .malformedName)
    else if name.isEmpty then .error (.character position (position + 2) .malformedName)
    else match Text.characterNamed? (String.ofList name) with
      | some code => .ok ([Char.ofNat code], name.length + 3)
      | none => .error (.character position (last + 1) .unknownName)
  | _ => .error (.character position (position + 1) .malformedName)

/-- The octal digits at the start of a text, three at most. -/
def octal (text : List Char) : List Char := (text.take 3).takeWhile Text.isOctalDigit

/-- What a backslash at a position and the text behind it stand for, and how much of that text it
takes. -/
def ofEscape (position : Nat) : List Char → Except EscapeFault (List Char × Nat)
  | [] => .ok (['\\'], 0)
  | c :: rest =>
    if c == '\n' then .ok ([], 1)
    else if isMark c then .ok ([c], 1)
    else if Text.isOctalDigit c then
      let digits := octal (c :: rest)
      .ok ([Char.ofNat (Text.ofBase 8 digits)], digits.length)
    else match Text.controlOf? c with
      | some code => .ok ([Char.ofNat code], 1)
      | none =>
        if c == 'x' then byCode position 2 "\\xXX" rest
        else if c == 'u' then byCode position 4 "\\uXXXX" rest
        else if c == 'U' then byCode position 8 "\\UXXXXXXXX" rest
        else if c == 'N' then byName position rest
        else .ok (['\\', c], 1)

/-- The places that a character takes when positions are counted: one of the first 128 takes one,
others as many as their code does when it is escaped. -/
def places (c : Char) : Nat := if c.toNat < 128 then 1 else 10

/-- A text with its escapes resolved. `position` is where the text starts, and `skip` characters
belong to the escape in front of it. -/
def unescape : (position skip : Nat) → List Char → Except EscapeFault (List Char)
  | _, _, [] => .ok []
  | position, skip + 1, c :: rest => unescape (position + places c) skip rest
  | position, 0, c :: rest =>
    if c == '\\' then do
      let (characters, taken) ← ofEscape position rest
      return characters ++ (← unescape (position + 1) taken rest)
    else (unescape (position + places c) 0 rest).map (c :: ·)

/-- What a backslash and the text behind it stand for among quoted bytes. -/
def ofByteEscape (position : Nat) : List Char → Except EscapeFault (List Nat × Nat)
  | [] => .ok ([92], 0)
  | c :: rest =>
    if c == '\n' then .ok ([], 1)
    else if isMark c then .ok ([c.toNat], 1)
    else if Text.isOctalDigit c then
      let digits := octal (c :: rest)
      .ok ([Text.ofBase 8 digits % 256], digits.length)
    else match Text.controlOf? c with
      | some code => .ok ([code], 1)
      | none =>
        if c == 'x' then
          let digits := (rest.take 2).takeWhile Text.isHexDigit
          if digits.length < 2 then .error (.byte position)
          else .ok ([Text.ofBase 16 digits], 3)
        else .ok ([92, c.toNat], 1)

def unescapeBytes : (position skip : Nat) → List Char → Except EscapeFault (List Nat)
  | _, _, [] => .ok []
  | position, skip + 1, _ :: rest => unescapeBytes (position + 1) skip rest
  | position, 0, c :: rest =>
    if c == '\\' then do
      let (codes, taken) ← ofByteEscape position rest
      return codes ++ (← unescapeBytes (position + 1) taken rest)
    else (unescapeBytes (position + 1) 0 rest).map (c.toNat :: ·)

def text (raw : Bool) (body : List Char) : Except EscapeFault (List Char) :=
  if raw then .ok body else unescape 0 0 body

def bytes (raw : Bool) (body : List Char) : Except EscapeFault (List UInt8) := do
  if body.any fun c => 128 ≤ c.toNat then throw .foreign
  let codes ← if raw then pure (body.map Char.toNat) else unescapeBytes 0 0 body
  return codes.map UInt8.ofNat

/-- Without a backslash a text stands for itself. -/
theorem unescape_of_no_backslash (position : Nat) (body : List Char) (h : '\\' ∉ body) :
    unescape position 0 body = .ok body := by
  induction body generalizing position with
  | nil => rfl
  | cons c rest ih =>
    simp only [List.mem_cons, not_or] at h
    have hc : (c == '\\') = false := by simp [Ne.symm h.1]
    simp [unescape, hc, ih _ h.2, Except.map]

end Literal

end RequestRouter.Hint
