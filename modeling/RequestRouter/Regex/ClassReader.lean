import RequestRouter.Regex.Escape
import RequestRouter.Regex.CharTest

/-!
# Bracketed classes

A class runs to the first closing bracket that is not its first member. A hyphen between two single
characters makes a range; after a named class or in front of the closing bracket it is a member.
-/

namespace RequestRouter.ClassReader

/-- One member, not yet part of a range: its unit is `unit` and follows nothing. -/
def readMember (ascii : Bool) (unit : Lexeme) (rest : Units) : Reading ClassItem :=
  match unit with
  | .char c => .ok (.single c.toNat, rest)
  | .pair c => Escape.readInClass ascii c rest

/-- The range between two members; `first` and `last` are the units they began with. -/
def rangeOf (first last : Lexeme) (low high : ClassItem) (rest : Units) : Reading ClassItem :=
  let bad :=
    haltAt rest (first.width + 1 + last.width) (.badRange first.text last.text)
  match low, high with
  | .single a, .single b => if b < a then bad else .ok (.range a b, rest)
  | _, _ => bad

/-- Halts because the text ends inside a class whose bracket had `left` characters after it. -/
def unterminated {α : Type} (left : Nat) : Except Halt α :=
  haltAt [] (left + 1) .unterminatedClass

/-- The members after those in `items`, up to the closing bracket. Every member takes at least one
unit, so the number of units is enough fuel. -/
def readMembers (ascii : Bool) (left : Nat) :
    (fuel : Nat) → (items : List ClassItem) → Units → Except Halt (List ClassItem × Units)
  | 0, _, _ => unterminated left
  | fuel + 1, items, rest =>
    match rest with
    | [] => unterminated left
    | unit :: rest =>
      if unit == .char ']' && !items.isEmpty then .ok (items, rest)
      else do
        let (low, rest) ← readMember ascii unit rest
        match rest with
        | .char '-' :: rest =>
          match rest with
          | [] => unterminated left
          | .char ']' :: rest => .ok (items ++ [low, .single 45], rest)
          | last :: rest =>
            let (high, rest) ← readMember ascii last rest
            let (range, rest) ← rangeOf unit last low high rest
            readMembers ascii left fuel (items ++ [range]) rest
        | _ => readMembers ascii left fuel (items ++ [low]) rest

/-- The test for some members; a single character needs no class. -/
def testOf (folding : Folding) (complement : Bool) (items : List ClassItem) : CharTest :=
  match items.eraseDups with
  | [.single code] => .literal folding complement code
  | items => .classOf folding complement items

/-- A class whose opening bracket has been taken. -/
def read (folding : Folding) (ascii : Bool) (rest : Units) : Except Halt (CharTest × Units) :=
  let left := rest.width
  let (complement, rest) :=
    match rest.accept '^' with
    | some rest => (true, rest)
    | none => (false, rest)
  do
    let (items, rest) ← readMembers ascii left (rest.length + 1) [] rest
    return (testOf folding complement items, rest)

end RequestRouter.ClassReader
