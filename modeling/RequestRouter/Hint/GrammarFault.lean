import RequestRouter.Hint.Format
import RequestRouter.Hint.Literal
import RequestRouter.Text.Numeral

/-!
# Why a text hint is no term

Some mistakes are told by what was probably meant; all others are only told by their line.
-/

namespace RequestRouter.Hint

/-- What is wrong with the parameters of a function without a name. -/
inductive ParameterProblem
  | defaultOrder
  | bareStar
  | leadingSlash
  | secondSlash
  | slashBehindStar
  | secondStar
  | behindNamedRest
  | brackets
  | restDefault
  | namedRestDefault
  deriving DecidableEq, Repr

def ParameterProblem.message : ParameterProblem → String
  | .defaultOrder => "non-default argument follows default argument"
  | .bareStar => "named arguments must follow bare *"
  | .leadingSlash => "at least one argument must precede /"
  | .secondSlash => "/ may appear only once"
  | .slashBehindStar => "/ must be ahead of *"
  | .secondStar => "* argument may appear only once"
  | .behindNamedRest => "arguments cannot follow var-keyword argument"
  | .brackets => "Lambda expression parameters cannot be parenthesized"
  | .restDefault => "var-positional argument cannot have default value"
  | .namedRestDefault => "var-keyword argument cannot have default value"

/-- Why a text is no term. -/
inductive GrammarFault
  | lexical (fault : LexicalFault)
  | escape (fault : EscapeFault)
  | format (fault : FormatFault)
  /-- The expression of a field is none. -/
  | field (fault : GrammarFault)
  /-- Texts and bytes stand side by side. -/
  | mixedQuotations
  | tooManyDigits (digits : Nat)
  | malformed
  | indented
  | missingComma
  | missingElse
  | missingCallBrackets (name : String)
  /-- An equals sign stands where a comparison or an assignment could be meant. -/
  | equalsSign
  /-- An equals sign follows what nothing can be assigned to. -/
  | assignedHere (kind : String)
  | assigned (kind : String)
  | assignedTerm (kind : String)
  | assignedArgument
  | starred
  | doubleStarred
  | bareStream
  | positionalBehindNamed (spread : Bool)
  | spreadBehindNamed
  | spreadElement
  | spreadEntry
  | bareTargets
  | missingColon
  | missingValue
  | starredValue
  | parameters (problem : ParameterProblem)
  | outsideFunction (word : String)
  | outsideAsync (word : String)
  | asyncClause
  /-- A comprehension gives a value to a name that it runs through values by. -/
  | rebound (name : String)
  /-- A value is given to a name where a comprehension takes its values from. -/
  | assignedSource
  | repeatedParameter (name : String)
  | repeatedArgument (name : String)
  deriving DecidableEq, Repr

namespace GrammarFault

def message : GrammarFault → String
  | .lexical fault => fault.message
  | .escape fault => fault.message
  | .format fault => fault.message
  | .field (.lexical fault) => fault.message
  | .field fault => "f-string: " ++ fault.message
  | .mixedQuotations => "cannot mix bytes and nonbytes literals"
  | .tooManyDigits digits =>
    (Text.NumeralFault.tooLong digits).message "" ++
      " - Consider hexadecimal for huge integer literals to avoid decimal conversion limits."
  | .malformed => "invalid syntax"
  | .indented => "unexpected indent"
  | .missingComma => "invalid syntax. Perhaps you forgot a comma?"
  | .missingElse => "expected 'else' after 'if' expression"
  | .missingCallBrackets name =>
    "Missing parentheses in call to " ++ Text.quote name ++ ". Did you mean " ++ name ++ "(...)?"
  | .equalsSign => "invalid syntax. Maybe you meant '==' or ':=' instead of '='?"
  | .assignedHere kind =>
    "cannot assign to " ++ kind ++ " here. Maybe you meant '==' instead of '='?"
  | .assigned kind => "cannot assign to " ++ kind
  | .assignedTerm kind => "cannot use assignment expressions with " ++ kind
  | .assignedArgument => "expression cannot contain assignment, perhaps you meant \"==\"?"
  | .starred => "cannot use starred expression here"
  | .doubleStarred => "cannot use double starred expression here"
  | .bareStream => "Generator expression must be parenthesized"
  | .positionalBehindNamed spread =>
    "positional argument follows keyword argument" ++ if spread then " unpacking" else ""
  | .spreadBehindNamed => "iterable argument unpacking follows keyword argument unpacking"
  | .spreadElement => "iterable unpacking cannot be used in comprehension"
  | .spreadEntry => "dict unpacking cannot be used in dict comprehension"
  | .bareTargets => "did you forget parentheses around the comprehension target?"
  | .missingColon => "':' expected after dictionary key"
  | .missingValue => "expression expected after dictionary key and ':'"
  | .starredValue => "cannot use a starred expression in a dictionary value"
  | .parameters problem => problem.message
  | .outsideFunction word => Text.quote word ++ " outside function"
  | .outsideAsync word => Text.quote word ++ " outside async function"
  | .asyncClause => "asynchronous comprehension outside of an asynchronous function"
  | .rebound name =>
    "assignment expression cannot rebind comprehension iteration variable " ++ Text.quote name
  | .assignedSource =>
    "assignment expression cannot be used in a comprehension iterable expression"
  | .repeatedParameter name =>
    "duplicate argument " ++ Text.quote name ++ " in function definition"
  | .repeatedArgument name => "keyword argument repeated: " ++ name

end GrammarFault

/-- A fault with the line that it is told about. -/
structure Malformed where
  fault : GrammarFault
  line : Nat
  deriving DecidableEq, Repr

/-- What is said about a text that is no term. -/
def Malformed.message (m : Malformed) : String :=
  s!"{m.fault.message} (<string>, line {m.line})"

end RequestRouter.Hint
