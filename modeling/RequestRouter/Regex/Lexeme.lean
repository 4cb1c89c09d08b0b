import RequestRouter.Regex.Cause

/-!
# The units of an expression text

A backslash and the character after it form one unit, every other character is a unit by itself.
`lexemes` cuts a text into units; a backslash that ends the text is left over and reported apart.
The readers here take a fixed small thing off the front of the units and return what is left.
-/

namespace RequestRouter

/-- A unit of an expression text. -/
inductive Lexeme
  | char (c : Char)
  /-- A backslash and the character after it. -/
  | pair (c : Char)
  deriving DecidableEq, Repr

namespace Lexeme

def chars : Lexeme → List Char
  | .char c => [c]
  | .pair c => ['\\', c]

/-- The number of characters of a unit. -/
def width : Lexeme → Nat
  | .char _ => 1
  | .pair _ => 2

def text (unit : Lexeme) : String := String.ofList unit.chars

end Lexeme

/-- What is left of an expression text. -/
abbrev Units := List Lexeme

namespace Units

/-- The number of characters of some units. -/
def width (units : Units) : Nat := units.foldr (fun unit rest => unit.width + rest) 0

def chars (units : Units) : List Char := units.flatMap Lexeme.chars

/-- The units of a text, and whether a lone backslash ends it. -/
def ofChars : List Char → Units × Bool
  | [] => ([], false)
  | ['\\'] => ([], true)
  | '\\' :: c :: rest => let (units, lone) := ofChars rest; (.pair c :: units, lone)
  | c :: rest => let (units, lone) := ofChars rest; (.char c :: units, lone)

/-- Cutting a text into units loses nothing. -/
theorem chars_ofChars (text : List Char) :
    (ofChars text).1.chars ++ (if (ofChars text).2 then ['\\'] else []) = text := by
  fun_induction ofChars text with
  | case1 => rfl
  | case2 => rfl
  | case3 c rest units lone cut ih => simpa [chars, Lexeme.chars, cut] using ih
  | case4 c rest _ _ units lone cut ih => simpa [chars, Lexeme.chars, cut] using ih

/-- The width of some units is the number of their characters. -/
theorem length_chars (units : Units) : units.chars.length = units.width := by
  induction units with
  | nil => rfl
  | cons unit rest ih =>
    simp only [chars, width, List.flatMap_cons, List.length_append, List.foldr_cons] at ih ⊢
    rw [ih]
    cases unit <;> rfl

end Units

/-- A result together with what is left of the text, or the halt. -/
abbrev Reading (α : Type) := Except Halt (α × Units)

/-- Halts at the front of `rest`, meaning the place `back` characters before it. -/
def haltAt {α : Type} (rest : Units) (back : Nat) (cause : Cause) : Except Halt α :=
  .error ⟨.malformed cause, rest.width, back⟩

namespace Units

/-- Up to `count` characters of a class from the front. -/
def takeUpTo (among : Char → Bool) : (count : Nat) → Units → List Char × Units
  | count + 1, .char c :: rest =>
    if among c then
      let (taken, rest') := takeUpTo among count rest
      (c :: taken, rest')
    else ([], .char c :: rest)
  | _, rest => ([], rest)

/-- All characters of a class from the front. -/
def takeAll (among : Char → Bool) : Units → List Char × Units
  | .char c :: rest =>
    if among c then
      let (taken, rest') := takeAll among rest
      (c :: taken, rest')
    else ([], .char c :: rest)
  | rest => ([], rest)

/-- What is taken and what is left make up the units. -/
theorem takeAll_append (among : Char → Bool) (units : Units) :
    (takeAll among units).1.map Lexeme.char ++ (takeAll among units).2 = units := by
  fun_induction takeAll among units with
  | case1 c rest _ taken rest' cut ih => simpa [cut] using ih
  | case2 => rfl
  | case3 => rfl

/-- Takes one character if it comes next. -/
def accept (c : Char) : Units → Option Units
  | .char d :: rest => if d == c then some rest else none
  | _ => none

/-- The characters up to a terminator, which is taken too. -/
def splitName (terminator : Char) : Units → List Char × Option Units
  | [] => ([], none)
  | unit :: rest =>
    if unit == .char terminator then ([], some rest)
    else
      let (name, rest') := splitName terminator rest
      (unit.chars ++ name, rest')

/-- A name that is not empty, up to its terminator. -/
def readName (terminator : Char) (kind : String) (units : Units) : Reading (List Char) :=
  match splitName terminator units with
  | ([], none) => haltAt [] 0 (.missingName kind)
  | (name, none) => haltAt [] name.length (.unterminatedName terminator)
  | ([], some rest) => haltAt rest 1 (.missingName kind)
  | (name, some rest) => .ok (name, rest)

end Units

end RequestRouter
