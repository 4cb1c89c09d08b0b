import RequestRouter.Regex.Basic
import RequestRouter.Text.Blank
import RequestRouter.Text.Digit
import RequestRouter.Text.LetterCase
import RequestRouter.Text.Word

/-!
# Tests on one character

Up to case, a letter stands for every character with the same small letter, and for those whose
small letters share its capital. A class that holds no cased letter is compared as it is written;
otherwise its members are spread over their case variants and the small letter of the character is
looked up. Members beyond the first 65536 codes are not spread: a single one is compared as written
and a range is tried with the small and the capital letter.
-/

namespace RequestRouter

open Text

namespace Folding

/-- Small letters that share a capital, by families. -/
def families : List (List Nat) :=
  [[0x69, 0x131], [0x73, 0x17F], [0xB5, 0x3BC], [0x345, 0x3B9, 0x1FBE], [0x390, 0x1FD3],
   [0x3B0, 0x1FE3], [0x3B2, 0x3D0], [0x3B5, 0x3F5], [0x3B8, 0x3D1], [0x3BA, 0x3F0],
   [0x3C0, 0x3D6], [0x3C1, 0x3F1], [0x3C2, 0x3C3], [0x3C6, 0x3D5], [0x432, 0x1C80],
   [0x434, 0x1C81], [0x43E, 0x1C82], [0x441, 0x1C83], [0x442, 0x1C84, 0x1C85], [0x44A, 0x1C86],
   [0x463, 0x1C87], [0x1C88, 0xA64B], [0x1E61, 0x1E9B], [0xFB05, 0xFB06]]

/-- The small letters with the same capital as a small letter, itself among them. -/
def family (small : Nat) : List Nat :=
  match families.find? fun members => members.contains small with
  | some members => members
  | none => [small]

/-- The small letter of a code. -/
def small : Folding → Nat → Nat
  | .exact, code => code
  | .ascii, code => asciiLowerCode code
  | .unicode, code => lowerCode code

/-- The code has case variants. -/
def cased : Folding → Nat → Bool
  | .exact, _ => false
  | .ascii, code => asciiLowerCode code != code || (97 ≤ code && code ≤ 122)
  | .unicode, code => lowerCode code != code || upperCode code != code

/-- The small letters that a small letter stands for. -/
def kin : Folding → Nat → List Nat
  | .unicode, small => family small
  | _, small => [small]

def same (folding : Folding) (given code : Nat) : Bool :=
  if folding.cased given then (folding.kin (folding.small given)).contains (folding.small code)
  else code == given

/-- Codes beyond this one are not spread over their case variants. -/
def lastSpread : Nat := 0xFFFF

/-- A code between `first` and `last` lies in a run of letters. -/
def meetsRun (first last : Nat) (run : CaseRun) : Bool :=
  let start :=
    if first ≤ run.first then run.first
    else run.first + (first - run.first + (run.step - 1)) / run.step * run.step
  start ≤ min last run.last

/-- Some code between `first` and `last` has case variants. -/
def casedWithin : Folding → Nat → Nat → Bool
  | .exact, _, _ => false
  | .ascii, first, last =>
    (first ≤ 90 && 65 ≤ last) || (first ≤ 122 && 97 ≤ last)
  | .unicode, first, last =>
    lowerRuns.any (meetsRun first last) || upperRuns.any (meetsRun first last)

/-- The codes with a given small letter. -/
def capitals : Folding → Nat → List Nat
  | .exact, small => [small]
  | .ascii, small =>
    if asciiLowerCode small != small then []
    else if 97 ≤ small && small ≤ 122 then [small, small - 32] else [small]
  | .unicode, small => capitalsOf small

end Folding

def Category.has : (ascii : Bool) → Category → Nat → Bool
  | false, .digit, code => isDigit code
  | false, .blank, code => isBlank code
  | false, .word, code => isWord code
  | true, .digit, code => isAsciiDigit code
  | true, .blank, code => isAsciiBlank code
  | true, .word, code => isAsciiWord code

namespace ClassItem

/-- A member makes the class be compared up to case. -/
def folds (folding : Folding) : ClassItem → Bool
  | .single code => Folding.lastSpread < folding.small code || folding.cased code
  | .range first last => Folding.lastSpread < last || folding.casedWithin first last
  | .named .. => false

def has : ClassItem → Nat → Bool
  | .single member, code => code == member
  | .range first last, code => first ≤ code && code ≤ last
  | .named category complement ascii, code => category.has ascii code != complement

/-- Membership of a small letter in a member that is spread over its case variants. -/
def hasFolded (folding : Folding) : ClassItem → Nat → Bool
  | .single member, small =>
    if Folding.lastSpread < folding.small member then small == member
    else (folding.kin (folding.small member)).contains small
  | .range first last, small =>
    (folding.kin small).any (fun letter =>
      (folding.capitals letter).any fun code =>
        first ≤ code && code ≤ min last Folding.lastSpread) ||
    Folding.lastSpread < last &&
      ((first ≤ small && small ≤ last) || (first ≤ upperCode small && upperCode small ≤ last))
  | .named category complement ascii, small => category.has ascii small != complement

end ClassItem

namespace CharTest

/-- The test on a class, compared up to case only if a member has case variants. -/
def classOf (folding : Folding) (complement : Bool) (items : List ClassItem) : CharTest :=
  .oneOf (if items.any (·.folds folding) then folding else .exact) complement items

/-- A character, by its code, passes a test. -/
def holds : CharTest → Nat → Bool
  | .any newline, code => newline || code != 10
  | .literal folding complement given, code => folding.same given code != complement
  | .oneOf .exact complement items, code => items.any (·.has code) != complement
  | .oneOf folding complement items, code =>
    items.any (·.hasFolded folding (folding.small code)) != complement

end CharTest

end RequestRouter
