import RequestRouter.Hint.Meaning
import RequestRouter.Value.Shown

/-!
# Meanings inside messages

Inside the brackets of a type hint a class is shown by its name alone. Values that only their place
in memory tells apart are shown without it.
-/

namespace RequestRouter.Hint.Meaning

/-- The least number of decimal places that a number is written with, up to `fuel` further ones. -/
def decimalPlaces (r : Rat) : (fuel places : Nat) → Nat
  | 0, places => places
  | fuel + 1, places =>
    if (r * 10 ^ places).den == 1 then places else decimalPlaces r fuel (places + 1)

/-- Digits without the noughts at their end. -/
def withoutNoughts (digits : List Char) : List Char :=
  (digits.reverse.dropWhile (· == '0')).reverse

/-- A number with a fraction as it is shown: in plain form, or by its exponent if it is very great
or very small. -/
def shownInexact (r : Rat) : String :=
  let places := decimalPlaces r 40 0
  let scaled := (r * 10 ^ places).floor.natAbs
  let digits := (toString scaled).toList
  let sign := if r < 0 then "-" else ""
  let exponent : Int := digits.length - 1 - places
  let written :=
    if r == 0 then "0.0"
    else if -4 ≤ exponent && exponent < 16 then
      let padded := List.replicate (places + 1 - digits.length) '0' ++ digits
      let (front, fraction) := padded.splitAt (padded.length - places)
      String.ofList front ++ "." ++ if fraction.isEmpty then "0" else String.ofList fraction
    else
      let (front, fraction) := (withoutNoughts digits).splitAt 1
      let point := if fraction.isEmpty then "" else "." ++ String.ofList fraction
      let width := if exponent.natAbs < 10 then "0" else ""
      let side := if exponent < 0 then "-" else "+"
      String.ofList front ++ point ++ "e" ++ side ++ width ++ toString exponent.natAbs
  sign ++ written

def between (opening closing : String) (parts : List String) : String :=
  opening ++ ", ".intercalate parts ++ closing

def isNoneType : Meaning → Bool
  | .type c => c.number == noneType.number
  | _ => false

mutual

/-- A meaning as it is shown inside a message. -/
def shown : Meaning → String
  | .nothing => "None"
  | .truth b => if b then "True" else "False"
  | .whole n => toString n
  | .inexact r false => shownInexact r
  | .inexact r true => String.ofList ((shownInexact r).toList.takeWhile (· != '.')) ++ "j"
  | .text s => Text.quote s
  | .bytes bs => Value.quoteBytes bs
  | .ellipsis => "Ellipsis"
  | .items .list row => between "[" "]" (shownAll row)
  | .items .tuple [m] => "(" ++ shown m ++ ",)"
  | .items .tuple row => between "(" ")" (shownAll row)
  | .items .set [] => "set()"
  | .items .set row => between "\x7b" "\x7d" (shownAll row)
  | .items .frozen [] => "frozenset()"
  | .items .frozen row => between "frozenset(\x7b" "\x7d)" (shownAll row)
  | .items (.passing c) _ => "<" ++ c.name ++ " object>"
  | .entries row => between "\x7b" "\x7d" (shownEntries row)
  | .range first last step =>
    if step == 1 then s!"range({first}, {last})" else s!"range({first}, {last}, {step})"
  | .slice first last step => between "slice(" ")" [shown first, shown last, shown step]
  | .type c => "<class '" ++ placed c ++ "'>"
  | .generic c [] => placed c ++ "[()]"
  | .generic c arguments => between (placed c ++ "[") "]" (shownAsArguments arguments)
  | .union .bars members => " | ".intercalate (shownAsAlternatives members)
  | .union .listed members =>
    let parts := shownAsMembers members
    match members.map isNoneType, parts with
    | [true, _], [_, part] | [false, true], [part, _] => between "typing.Optional[" "]" [part]
    | _, parts => between "typing.Union[" "]" parts
  | .reference s => "ForwardRef(" ++ Text.quote s ++ ")"
  | .form f => f.shown
  | .function name => "<built-in function " ++ name ++ ">"
  | .method f _ => "<function " ++ f.qualname ++ ">"
  | .detached c name => s!"<method {Text.quote name} of {Text.quote c.name} objects>"
  | .attached of name => s!"<built-in method {name} of {of.typeName} object>"
  | .closure .. => "<function <lambda>>"
  | .stream .. => "<generator object <genexpr>>"
  | .instance v => v.shown
  | .thing c => "<" ++ c.name ++ " object>"

def shownAll : List Meaning → List String
  | [] => []
  | m :: rest => shown m :: shownAll rest

def shownEntries : List (Meaning × Meaning) → List String
  | [] => []
  | (k, v) :: rest => (shown k ++ ": " ++ shown v) :: shownEntries rest

def shownAsArguments : List Meaning → List String
  | [] => []
  | .type c :: rest => placed c :: shownAsArguments rest
  | .ellipsis :: rest => "..." :: shownAsArguments rest
  | .function name :: rest => name :: shownAsArguments rest
  | .method f _ :: rest => f.qualname :: shownAsArguments rest
  | m :: rest => shown m :: shownAsArguments rest

def shownAsAlternatives : List Meaning → List String
  | [] => []
  | .type c :: rest =>
    (if c.number == noneType.number then "None" else placed c) :: shownAsAlternatives rest
  | m :: rest => shown m :: shownAsAlternatives rest

def shownAsMembers : List Meaning → List String
  | [] => []
  | .type c :: rest => placed c :: shownAsMembers rest
  | .ellipsis :: rest => "..." :: shownAsMembers rest
  | .closure .. :: rest => "<lambda>" :: shownAsMembers rest
  | .method f none :: rest => f.name :: shownAsMembers rest
  | m :: rest => shown m :: shownAsMembers rest

end

/-- A meaning as the text it is turned into. -/
def plain : Meaning → String
  | .text s => s
  | m => m.shown

end RequestRouter.Hint.Meaning
