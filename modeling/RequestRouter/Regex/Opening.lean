import RequestRouter.Regex.Flags
import RequestRouter.Text.Identifier

/-!
# How a parenthesis opens

A parenthesis opens a numbered group unless a question mark follows it. What stands after the
question mark tells the other kinds of groups apart; three of them, a comment, flags for the whole
expression and the text of a named group, are complete with their header.
-/

namespace RequestRouter

/-- The header of a parenthesis. -/
inductive Opening
  | capture
  | named (name : List Char)
  | scoped (on off : List Flag)
  | atomic
  | look (behind negated : Bool)
  /-- A choice by whether a group, given by name or number, took part. -/
  | test (name : List Char)
  | comment
  | flags (on : List Flag)
  | again (name : List Char)
  deriving DecidableEq, Repr

namespace Opening

/-- What follows a comment, `none` if it has no end. -/
def skipComment : Units → Option Units
  | [] => none
  | unit :: rest => if unit == .char ')' then some rest else skipComment rest

/-- A group name that must be an identifier. -/
def readGroupName (terminator : Char) (rest : Units) : Except Halt (List Char × Units) := do
  let (name, rest) ← rest.readName terminator "group name"
  if Text.isIdentifier name then return (name, rest)
  else haltAt rest (name.length + 1) (.badGroupName (String.ofList name))

/-- Halts at a unit, already taken, that opens no kind of group. -/
def unknown (before : String) (unit : Lexeme) (rest : Units) : Reading Opening :=
  haltAt rest (unit.width + before.length + 1) (.unknownExtension (before ++ unit.text))

/-- The header after `(?P`. -/
def readNamed (rest : Units) : Except Halt (Opening × Units) :=
  match rest with
  | .char '<' :: rest => do
    let (name, rest) ← readGroupName '>' rest
    return (.named name, rest)
  | .char '=' :: rest => do
    let (name, rest) ← readGroupName ')' rest
    return (.again name, rest)
  | [] => haltAt [] 0 .unexpectedEnd
  | unit :: rest => unknown "P" unit rest

/-- The header after `(?<`. -/
def readBehind (rest : Units) : Reading Opening :=
  match rest with
  | .char '=' :: rest => .ok (.look true false, rest)
  | .char '!' :: rest => .ok (.look true true, rest)
  | [] => haltAt [] 0 .unexpectedEnd
  | unit :: rest => unknown "<" unit rest

/-- The header after `(?`; `left` characters follow the parenthesis. -/
def readExtended (left : Nat) (rest : Units) : Except Halt (Opening × Units) :=
  match rest with
  | [] => haltAt [] 0 .unexpectedEnd
  | .char 'P' :: rest => readNamed rest
  | .char ':' :: rest => .ok (.scoped [] [], rest)
  | .char '#' :: rest =>
    match skipComment rest with
    | some rest => .ok (.comment, rest)
    | none => haltAt [] (left + 1) .unterminatedComment
  | .char '=' :: rest => .ok (.look false false, rest)
  | .char '!' :: rest => .ok (.look false true, rest)
  | .char '<' :: rest => readBehind rest
  | .char '(' :: rest => do
    let (name, rest) ← Units.readName ')' "group name" rest
    return (.test name, rest)
  | .char '>' :: rest => .ok (.atomic, rest)
  | .char '-' :: rest => (Flag.readHyphen [] rest).map ofChange
  | unit :: rest =>
    match unit with
    | .char c =>
      match Flag.ofChar? c with
      | some flag => (Flag.readOn [] flag rest).map ofChange
      | none => unknown "" unit rest
    | .pair _ => unknown "" unit rest
where
  ofChange : FlagChange × Units → Opening × Units
    | (.whole on, rest) => (.flags on, rest)
    | (.scoped on off, rest) => (.scoped on off, rest)

def read (rest : Units) : Reading Opening :=
  match rest.accept '?' with
  | some after => readExtended rest.width after
  | none => .ok (.capture, rest)

end Opening

end RequestRouter
