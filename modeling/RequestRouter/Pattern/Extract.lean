import RequestRouter.Entries
import RequestRouter.Pattern.Compile

/-!
# Values of path parameters

The texts that the groups of a match took are handed out by content: each parameter in order of
declaration claims the first of the texts still there that its fragment accepts.
-/

namespace RequestRouter

/-- The first value that is accepted, and the others. -/
def claim (accepts : List Char → Except MatchFault Bool) :
    List (List Char) → Except MatchFault (Option (List Char × List (List Char)))
  | [] => .ok none
  | value :: rest => do
    if ← accepts value then return some (value, rest)
    else
      match ← claim accepts rest with
      | some (claimed, others) => return some (claimed, value :: others)
      | none => return none

/-- Hands values out to parameters, writing to the entries so far. -/
def handOut : List Parameter → (pool : List (List Char)) → Entries (List Char) (List Char) →
    Except MatchFault (Entries (List Char) (List Char))
  | [], _, entries => .ok entries
  | p :: rest, pool, entries => do
    match ← claim p.accepts pool with
    | some (value, pool) => handOut rest pool (entries.put p.name value)
    | none => handOut rest pool entries

namespace CompiledPattern

/-- The method is accepted and the path matches; no methods stand for all of them. The path is only
looked at if the method is accepted. -/
def accepts (compiled : CompiledPattern) (methods : List String) (method : String)
    (path : List Char) : Except MatchFault Bool :=
  if methods.isEmpty || methods.contains method then
    (compiled.fullMatch path).map Option.isSome
  else .ok false

/-- The texts that the groups take from a path, `none` if it does not match. -/
def groups (compiled : CompiledPattern) (path : List Char) :
    Except MatchFault (Option (List (Option (List Char)))) :=
  (compiled.fullMatch path).map fun marks => marks.map (compiled.regex.captures path.toArray)

/-- The values of the parameters in a path; groups that took no part have none to hand out. -/
def extract (compiled : CompiledPattern) (path : List Char) :
    Except MatchFault (Entries (List Char) (List Char)) := do
  match ← compiled.groups path with
  | none => return []
  | some groups => handOut compiled.parameters (groups.filterMap id) []

end CompiledPattern

end RequestRouter
