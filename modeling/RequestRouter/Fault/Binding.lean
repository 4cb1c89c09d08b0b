import RequestRouter.Text.Quoted

/-!
# Problems of calls

What can be wrong with the arguments of a call, and how it is told. Numbers of arguments include the
receiver of a method, which no caller writes.
-/

namespace RequestRouter

/-- Why the arguments of a call do not fit. -/
inductive BindingProblem
  /-- Nothing can be passed at all. -/
  | noArguments
  | tooMany (least most given named : Nat)
  | missing (names : List String)
  | missingNamed (names : List String)
  | unexpected (name : String)
  | repeated (name : String)
  /-- Names were used for parameters that are passed by position only. -/
  | unnamed (names : List String)
  deriving DecidableEq, Repr

namespace BindingProblem

/-- The ending of a noun that is counted. -/
def ending (count : Nat) : String := if count == 1 then "" else "s"

def enumeration (names : List String) : String :=
  match names.map Text.quote with
  | [] => ""
  | [a] => a
  | [a, b] => a ++ " and " ++ b
  | names => ", ".intercalate names.dropLast ++ ", and " ++ names.getLast?.getD ""

def missingText (manner : String) (names : List String) : String :=
  s!" missing {names.length} required {manner} argument{ending names.length}: {enumeration names}"

/-- What is said about a problem with calling `callee`. -/
def message (callee : String) (problem : BindingProblem) : String :=
  callee ++ "()" ++
  match problem with
  | .noArguments => " takes no arguments"
  | .tooMany least most given named =>
    let range := if least == most then toString most else s!"from {least} to {most}"
    let plural := if least == most then ending most else "s"
    let extra :=
      if named == 0 then ""
      else s!" positional argument{ending given} (and {named} keyword-only argument{ending named})"
    let verb := if given == 1 && named == 0 then "was" else "were"
    s!" takes {range} positional argument{plural} but {given}{extra} {verb} given"
  | .missing names => missingText "positional" names
  | .missingNamed names => missingText "keyword-only" names
  | .unexpected name => " got an unexpected keyword argument " ++ Text.quote name
  | .repeated name => " got multiple values for argument " ++ Text.quote name
  | .unnamed names =>
    -- these names stand between one pair of marks
    " got some positional-only arguments passed as keyword arguments: " ++
      Text.quote (", ".intercalate names)

end BindingProblem

end RequestRouter
