import RequestRouter.Regex.Basic
import RequestRouter.Regex.Lexeme

/-!
# Quantifiers

How often a term is repeated: one of three signs, or bounds in braces. Braces that hold no bounds
are ordinary characters. A question mark or a plus sign after the quantifier changes the order in
which repetitions are tried.
-/

namespace RequestRouter

structure Bounds where
  least : Nat
  most : Option Nat
  deriving DecidableEq, Repr

namespace Bounds

/-- Counts from here on do not fit. -/
def tooLarge : Nat := 4294967295

/-- The greatest number of digits of a count that is converted. -/
def maxDigits : Nat := 4300

/-- The count with the given digits, `none` if there are no digits. -/
def ofDigits (digits : List Char) (rest : Units) : Except Halt (Option Nat) :=
  if digits.isEmpty then .ok none
  else if maxDigits < digits.length then .error ⟨.countTooLong digits.length, rest.width, 0⟩
  else
    let count := digits.foldl (fun n c => n * 10 + (c.toNat - 48)) 0
    if tooLarge ≤ count then .error ⟨.countTooLarge, rest.width, 0⟩ else .ok (some count)

/-- The digits of the two bounds after an opening brace and what follows the closing one; a single
bound is both. `none` if the brace opens no bounds. -/
def split (rest : Units) : Option (List Char × List Char × Units) :=
  let (low, rest) := rest.takeAll Char.isDigit
  let (high, rest) :=
    match rest.accept ',' with
    | some rest => rest.takeAll Char.isDigit
    | none => (low, rest)
  (rest.accept '}').map fun rest => (low, high, rest)

/-- Bounds after an opening brace, `none` if the brace is an ordinary character. -/
def readBraced (after : Units) : Except Halt (Option (Bounds × Units)) :=
  if (after.accept '}').isSome then .ok none
  else match split after with
    | none => .ok none
    | some (low, high, rest) => do
      let least ← ofDigits low rest
      let most ← ofDigits high rest
      let least := least.getD 0
      if most.any (· < least) then
        haltAt rest (after.width - rest.width) .minExceedsMax
      else return some (⟨least, most⟩, rest)

/-- The quantifier that a character begins: its bounds and what follows, `none` if the character is
no quantifier. -/
def read? (c : Char) (rest : Units) : Except Halt (Option (Bounds × Units)) :=
  match c with
  | '?' => .ok (some (⟨0, some 1⟩, rest))
  | '*' => .ok (some (⟨0, none⟩, rest))
  | '+' => .ok (some (⟨1, none⟩, rest))
  | '{' => readBraced rest
  | _ => .ok none

end Bounds

namespace Greed

/-- The order of repetition that follows a quantifier. -/
def read (rest : Units) : Greed × Units :=
  match rest with
  | .char '?' :: rest => (.lazy, rest)
  | .char '+' :: rest => (.possessive, rest)
  | rest => (.greedy, rest)

def operator : Greed → String
  | .greedy => "MAX_REPEAT"
  | .lazy => "MIN_REPEAT"
  | .possessive => "POSSESSIVE_REPEAT"

end Greed

end RequestRouter
