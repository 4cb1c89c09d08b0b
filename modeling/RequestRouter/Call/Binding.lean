import RequestRouter.Entries
import RequestRouter.Fault.Binding
import RequestRouter.Handler.Function

/-!
# Binding arguments to parameters

Arguments by position go to the parameters that take them in order, arguments by name to the
parameters of those names. What is left over goes to the parameters that collect it, or is an error;
parameters without an argument take their defaults, or are missing. Arguments by name are looked at
first, then the number of those by position, then what is missing.
-/

namespace RequestRouter.Binding

abbrev Formals := List (Formal Class Value)

def positionals (formals : Formals) : Formals := formals.filter (·.passing.takesPosition)

def hasPassing (formals : Formals) (passing : Passing) : Bool :=
  formals.any (·.passing == passing)

/-- The parameters that arguments by position go to, with these arguments. -/
def byPosition (formals : Formals) (values : List Value) : Entries String Value :=
  ((positionals formals).map (·.name)).zip values

/-- The error of a name that no parameter takes: if names were used for parameters that are passed
by position only, it is about all of them. -/
def strangeName (formals : Formals) (named : Entries String Value) (name : String) :
    BindingProblem :=
  match (formals.filter fun f => f.passing == .byPosition && named.has f.name).map (·.name) with
  | [] => .unexpected name
  | names => .unnamed names

/-- Adds the arguments by name to those `bound` so far; the second table collects those that no
parameter is named for. `all` are all arguments by name. -/
def byName (formals : Formals) (all : Entries String Value) :
    (bound extra : Entries String Value) → Entries String Value →
      Except BindingProblem (Entries String Value × Entries String Value)
  | bound, extra, [] => .ok (bound, extra)
  | bound, extra, (name, value) :: rest =>
    if formals.any fun f => f.passing.takesName && f.name == name then
      if bound.has name then .error (.repeated name)
      else byName formals all (bound.put name value) extra rest
    else if hasPassing formals .restByName then
      byName formals all bound (extra.put name value) rest
    else .error (strangeName formals all name)

def unfilled (formals : Formals) (bound : Entries String Value) : Formals :=
  formals.filter fun f => f.default.isNone && !bound.has f.name

/-- The error of too many arguments by position; `implicit` of them are not written by callers. -/
def surplus (formals : Formals) (implicit given : Nat) (bound : Entries String Value) :
    BindingProblem :=
  let most := (positionals formals).length + implicit
  let optional := ((positionals formals).filter (·.default.isSome)).length
  let named := (formals.filter fun f => f.passing == .byName && bound.has f.name).length
  .tooMany (most - optional) most (given + implicit) named

def valueOf (bound extra : Entries String Value) (rest : List Value) (f : Formal Class Value) :
    Value :=
  match f.passing with
  | .restByPosition => .list rest
  | .restByName => .pairs extra
  | _ => (bound.get? f.name).getD (f.default.getD .null)

/-- The values of all parameters for given arguments; `implicit` arguments by position are not
written by callers and have been bound already. -/
def bind (formals : Formals) (implicit : Nat) (values : List Value)
    (named : Entries String Value) : Except BindingProblem (Entries String Value) := do
  let rest := values.drop (positionals formals).length
  let (bound, extra) ← byName formals named (byPosition formals values) [] named
  if !rest.isEmpty && !hasPassing formals .restByPosition then
    throw (surplus formals implicit values.length bound)
  let missing := unfilled (positionals formals) bound
  if !missing.isEmpty then throw (.missing (missing.map (·.name)))
  let missing := unfilled (formals.filter (·.passing == .byName)) bound
  if !missing.isEmpty then throw (.missingNamed (missing.map (·.name)))
  return formals.map fun f => (f.name, valueOf bound extra rest f)

end RequestRouter.Binding
