import RequestRouter.Regex.Flags
import RequestRouter.Text.Digit
import RequestRouter.Text.CharacterName
import RequestRouter.Text.Quoted

/-!
# Escapes

What a backslash and the character after it stand for. Inside a bracketed class an escape is a
member of the class; elsewhere it is a character, a class, an anchor, or the text of a group.
-/

namespace RequestRouter

namespace Escape

/-- The text of an escape with the characters taken after it. -/
def shown (c : Char) (more : List Char) : String := String.ofList ('\\' :: c :: more)

/-- Halts for the whole escape with the characters taken after it. -/
def halt {α : Type} (rest : Units) (c : Char) (more : List Char) (cause : String → Cause) :
    Except Halt α :=
  haltAt rest (2 + more.length) (cause (shown c more))

/-- The letters that stand for a named class. -/
def class? (ascii : Bool) : Char → Option ClassItem
  | 'd' => some (.named .digit false ascii)
  | 'D' => some (.named .digit true ascii)
  | 's' => some (.named .blank false ascii)
  | 'S' => some (.named .blank true ascii)
  | 'w' => some (.named .word false ascii)
  | 'W' => some (.named .word true ascii)
  | _ => none

/-- The letters that stand for an anchor. -/
def anchor? (ascii : Bool) : Char → Option Anchor
  | 'A' => some .textStart
  | 'Z' => some .textEnd
  | 'b' => some (.wordEdge false ascii)
  | 'B' => some (.wordEdge true ascii)
  | _ => none

/-- A code written with exactly `count` hexadecimal digits. -/
def readHex (c : Char) (count : Nat) (rest : Units) : Reading Nat :=
  let (digits, rest) := rest.takeUpTo Text.isHexDigit count
  if digits.length < count then halt rest c digits .incompleteEscape
  else
    let code := Text.ofBase 16 digits
    if 0x10FFFF < code then halt rest c digits .badEscape else .ok (code, rest)

def readNamed (rest : Units) : Except Halt (Nat × Units) :=
  match rest.accept '{' with
  | none => haltAt rest 0 .missingBrace
  | some rest => do
    let (name, rest) ← rest.readName '}' "character name"
    match Text.characterNamed? (String.ofList name) with
    | some code => .ok (code, rest)
    | none => haltAt rest (name.length + 4) (.unknownCharacter (String.ofList name))

/-- The escapes that give one character by its code or name; `none` for any other. -/
def readCode? (c : Char) (rest : Units) : Option (Reading Nat) :=
  match c with
  | 'x' => some (readHex c 2 rest)
  | 'u' => some (readHex c 4 rest)
  | 'U' => some (readHex c 8 rest)
  | 'N' => some (readNamed rest)
  | _ => none

/-- A character that stands for itself after a backslash; letters are reserved. -/
def readPlain (c : Char) (rest : Units) : Reading Nat :=
  if Text.isAsciiLetter c.toNat then halt rest c [] .badEscape else .ok (c.toNat, rest)

def readInClass (ascii : Bool) (c : Char) (rest : Units) : Reading ClassItem :=
  match Text.controlOf? c, class? ascii c, readCode? c rest with
  | some code, _, _ => .ok (.single code, rest)
  | _, some item, _ => .ok (item, rest)
  | _, _, some reading => reading.map fun (code, rest) => (.single code, rest)
  | _, _, _ =>
    if Text.isOctalDigit c then
      let (more, rest) := rest.takeUpTo Text.isOctalDigit 2
      let code := Text.ofBase 8 (c :: more)
      if 0o377 < code then halt rest c more .octalTooLarge else .ok (.single code, rest)
    else if c.isDigit then halt rest c [] .badEscape
    else (readPlain c rest).map fun (code, rest) => (.single code, rest)

/-- What an escape outside of classes stands for. -/
inductive Meaning
  | code (code : Nat)
  | item (item : ClassItem)
  | anchor (anchor : Anchor)
  /-- A reference to a group, with the width of the escape. -/
  | group (number width : Nat)
  deriving DecidableEq, Repr

/-- An escape that starts with a digit other than zero: three octal digits are a code, otherwise up
to two digits are the number of a group. -/
def readNumber (c : Char) (rest : Units) : Reading Meaning :=
  match rest with
  | .char d :: rest' =>
    if !d.isDigit then .ok (.group (Text.hexValue c) 2, rest)
    else match rest' with
      | .char e :: rest'' =>
        if Text.isOctalDigit c && Text.isOctalDigit d && Text.isOctalDigit e then
          let code := Text.ofBase 8 [c, d, e]
          if 0o377 < code then halt rest'' c [d, e] .octalTooLarge else .ok (.code code, rest'')
        else .ok (.group (Text.ofBase 10 [c, d]) 3, rest')
      | _ => .ok (.group (Text.ofBase 10 [c, d]) 3, rest')
  | _ => .ok (.group (Text.hexValue c) 2, rest)

def readOutside (ascii : Bool) (c : Char) (rest : Units) : Reading Meaning :=
  match anchor? ascii c, class? ascii c, Text.controlOf? c with
  | some anchor, _, _ => .ok (.anchor anchor, rest)
  | _, some item, _ => .ok (.item item, rest)
  | _, _, some code => .ok (.code code, rest)
  | _, _, _ =>
    match readCode? c rest with
    | some reading => reading.map fun (code, rest) => (.code code, rest)
    | none =>
      if c == '0' then
        let (more, rest) := rest.takeUpTo Text.isOctalDigit 2
        .ok (.code (Text.ofBase 8 more), rest)
      else if c.isDigit then readNumber c rest
      else (readPlain c rest).map fun (code, rest) => (.code code, rest)

end Escape

end RequestRouter
