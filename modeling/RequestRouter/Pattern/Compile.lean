import RequestRouter.Pattern.Fragment
import RequestRouter.Pattern.Placeholder
import RequestRouter.Regex.Verbatim

/-!
# Compiling a route pattern

A pattern becomes one anchored expression. Literal text stands for itself, a placeholder for its
fragment, and an optional placeholder for its fragment or nothing; it then also takes the slash in
front of it, so that `/a/{?b}` matches `/a`. In strict mode every brace must belong to a
placeholder, names must differ, and fragments must be usable.
-/

namespace RequestRouter

inductive PatternFault
  | emptyName
  | strayBrace
  | duplicate (name : List Char)
  | badFragment (fragment name : List Char) (problem : FragmentProblem)
  | malformed (error : ReadError)
  deriving DecidableEq, Repr

def PatternFault.message : PatternFault → String
  | .emptyName => "placeholder with an empty name"
  | .strayBrace =>
    "unbalanced brace or malformed placeholder " ++
      "(expected \x7bname\x7d, \x7b?name\x7d or \x7bname:(regex)\x7d)"
  | .duplicate name => "duplicate parameter " ++ Text.quote (String.ofList name)
  | .badFragment fragment name problem =>
    "invalid fragment " ++ Text.quote (String.ofList fragment) ++ " for " ++
      Text.quote (String.ofList name) ++ ": " ++ problem.message
  | .malformed error => "expression does not compile (" ++ error.message ++ ")"

/-- Why a pattern does not compile: it is at fault, or a number or a flag in an expression does not
fit. -/
inductive CompileError
  | invalid (pattern : List Char) (fault : PatternFault)
  | host (error : ReadError)
  deriving DecidableEq, Repr

/-- A route pattern with its expression. -/
structure CompiledPattern where
  pattern : List Char
  expression : List Char
  parameters : List Parameter
  regex : Expression
  deriving DecidableEq, Repr

namespace CompiledPattern

def fullMatch (compiled : CompiledPattern) (path : List Char) : Except MatchFault (Option Marks) :=
  compiled.regex.fullMatch path.toArray

/-- A fragment that keeps to itself inside a larger expression. -/
def enclosed (fragment : List Char) : List Char :=
  if isSingleGroup fragment then fragment else "(?:".toList ++ fragment ++ [')']

def segmentExpression (segment : Segment) : List Char :=
  let fragment := enclosed segment.parameter.fragment
  if segment.parameter.optional && segment.literal.getLast? == some '/' then
    verbatim segment.literal.dropLast ++ "(?:/".toList ++ fragment ++ ")?".toList
  else if segment.parameter.optional then
    verbatim segment.literal ++ "(?:".toList ++ fragment ++ ")?".toList
  else verbatim segment.literal ++ fragment

/-- The expression between the anchors. -/
def body (cut : Cut) : List Char := cut.segments.flatMap segmentExpression ++ verbatim cut.tail

def expressionOf (cut : Cut) : List Char := '^' :: body cut ++ ['$']

/-- The checks on each parameter in turn, `seen` being the names before it. -/
def checkParameters (pattern : List Char) : (seen : List (List Char)) → List Parameter →
    Except CompileError Unit
  | _, [] => .ok ()
  | seen, p :: rest =>
    if seen.contains p.name then .error (.invalid pattern (.duplicate p.name))
    else match fragmentProblem p.fragment with
      | .error error => .error (.host error)
      | .ok (some problem) => .error (.invalid pattern (.badFragment p.fragment p.name problem))
      | .ok none => checkParameters pattern (p.name :: seen) rest

/-- The checks of strict mode. -/
def validate (pattern : List Char) (cut : Cut) : Except CompileError Unit :=
  if Placeholder.nameless.occursIn pattern.toArray then .error (.invalid pattern .emptyName)
  else if cut.literals.any (fun c => c == '{' || c == '}') then
    .error (.invalid pattern .strayBrace)
  else checkParameters pattern [] cut.parameters

/-- Compiles a route pattern; `fallback` is the fragment of placeholders that give none. -/
def compile (pattern fallback : List Char) (strict : Bool) : Except CompileError CompiledPattern :=
  let cut := Cut.ofPattern pattern fallback
  do
    if strict then validate pattern cut
    let expression := expressionOf cut
    match Expression.read expression with
    | .ok regex => return { pattern, expression, parameters := cut.parameters, regex }
    | .error error =>
      if error.isMalformed then .error (.invalid pattern (.malformed error))
      else .error (.host error)

end CompiledPattern

end RequestRouter
