import RequestRouter.Fault.Kind
import RequestRouter.Hint.GrammarFault

/-!
# Why a text hint has no value

A text may be no term, or a term that has no value. What a term would do with values that it cannot
do is told by the names of their classes.
-/

namespace RequestRouter.Hint

/-- What cannot be done with values of some classes. -/
inductive TypeProblem
  /-- Values of two classes are not joined by a sign. -/
  | operands (sign left right : String)
  /-- A sign does not stand in front of a value of a class. -/
  | operand (sign of : String)
  /-- Values of two classes are in no order. -/
  | unordered (sign left right : String)
  /-- A value has no parts in brackets. -/
  | noParts (typeName : String)
  /-- A class takes no arguments in brackets. -/
  | noArguments (className : String)
  /-- There is nothing left in a type hint that arguments could stand for. -/
  | notGeneric (shown : String)
  | badPosition (row typeName : String)
  /-- A text takes no position of a class. -/
  | badTextPosition (typeName : String)
  | unhashable (typeName : String)
  /-- Something other than one type hint is made optional. -/
  | notOne (shown : String)
  /-- Something that is no type hint is made a member of a union. -/
  | notMember (shown : String)
  /-- A form with arguments stands where it has no meaning. -/
  | misplaced (shown : String)
  /-- A form that takes arguments stands without them. -/
  | bareForm (shown : String)
  | noMembers
  /-- A form has no instances. -/
  | formInstance (shown : String)
  /-- A row is only continued by one of its class. -/
  | notContinued (row typeName : String)
  | notContinuedBytes (typeName row : String)
  /-- A row is repeated by a whole number only. -/
  | notRepeated (typeName : String)
  | notIterable (typeName : String)
  | notSpread (typeName : String)
  | notMapping (typeName : String)
  /-- An argument of a call is spread that has no items. -/
  | argumentNotSpread (callee typeName : String)
  | argumentNotMapping (callee typeName : String)
  /-- Only texts are looked for in a text. -/
  | notSought (typeName : String)
  | notUnpacked (typeName : String)
  /-- A value takes no layout. -/
  | noLayout (typeName : String)
  /-- Not all values were put into a text. -/
  | leftOver
  /-- The number of arguments that a function takes. -/
  | takes (callee count : String) (given : Nat)
  | expected (callee count : String) (given : Nat)
  /-- A function takes values of other classes than the given one. -/
  | argument (text : String)
  | notClassTest (callee words : String)
  deriving DecidableEq, Repr

def TypeProblem.message : TypeProblem → String
  | .operands sign left right =>
    s!"unsupported operand type(s) for {sign}: {Text.quote left} and {Text.quote right}"
  | .operand sign of => s!"bad operand type for unary {sign}: {Text.quote of}"
  | .unordered sign left right =>
    s!"{Text.quote sign} not supported between instances of {Text.quote left} and " ++
      Text.quote right
  | .noParts typeName => Text.quote typeName ++ " object is not subscriptable"
  | .noArguments className => "type " ++ Text.quote className ++ " is not subscriptable"
  | .notGeneric shown => shown ++ " is not a generic class"
  | .badPosition row typeName => s!"{row} indices must be integers or slices, not {typeName}"
  | .badTextPosition typeName =>
    "string indices must be integers, not " ++ Text.quote typeName
  | .unhashable typeName => "unhashable type: " ++ Text.quote typeName
  | .notOne shown => s!"typing.Optional requires a single type. Got {shown}."
  | .notMember shown => s!"Union[arg, ...]: each arg must be a type. Got {shown}."
  | .misplaced shown => shown ++ " is not valid as type argument"
  | .bareForm shown => s!"Plain {shown} is not valid as type argument"
  | .noMembers => "Cannot take a Union of no types."
  | .formInstance shown => "Cannot instantiate " ++ shown
  | .notContinued row typeName => s!"can only concatenate {row} (not \"{typeName}\") to {row}"
  | .notContinuedBytes typeName row => s!"can't concat {typeName} to {row}"
  | .notRepeated typeName =>
    "can't multiply sequence by non-int of type " ++ Text.quote typeName
  | .notIterable typeName => Text.quote typeName ++ " object is not iterable"
  | .notSpread typeName => "Value after * must be an iterable, not " ++ typeName
  | .notMapping typeName => Text.quote typeName ++ " object is not a mapping"
  | .argumentNotSpread callee typeName =>
    s!"{callee} argument after * must be an iterable, not {typeName}"
  | .argumentNotMapping callee typeName =>
    s!"{callee} argument after ** must be a mapping, not {typeName}"
  | .notSought typeName => "'in <string>' requires string as left operand, not " ++ typeName
  | .notUnpacked typeName => s!"cannot unpack non-iterable {typeName} object"
  | .noLayout typeName => s!"unsupported format string passed to {typeName}.__format__"
  | .leftOver => "not all arguments converted during string formatting"
  | .takes callee count given => s!"{callee}() takes {count} ({given} given)"
  | .expected callee count given => s!"{callee} expected {count}, got {given}"
  | .argument text => text
  | .notClassTest callee words => s!"{callee}() arg {words}"

/-- Why a text hint has no value. -/
inductive TermFault
  | malformed (m : Malformed)
  | nullCharacter
  | unknownName (name : String)
  /-- A form has no such attribute. -/
  | noMember (name : String)
  | typed (problem : TypeProblem)
  | outOfRange (row : String)
  /-- There is no last item to take. -/
  | emptyRow
  | missingKey (shown : String)
  /-- A number is divided by nought, in the words for the way it is done. -/
  | zeroDivisor (words : String)
  | negativeShift
  /-- A value is of the right class and still none that is taken. -/
  | badValue (words : String)
  | tooFew (expected : Nat) (given : Nat) (least : Bool)
  | tooMany (expected : Nat)
  /-- A text that stands inside a form is no term. -/
  | reference (text : String)
  | nothingLeft
  | noneGiven (callee : String)
  /-- Terms lie inside terms without an end. -/
  | tooDeep
  deriving DecidableEq, Repr

namespace TermFault

def message : TermFault → String
  | .malformed m => m.message
  | .nullCharacter => "source code string cannot contain null bytes"
  | .unknownName name => "name " ++ Text.quote name ++ " is not defined"
  | .noMember name => name
  | .typed problem => problem.message
  | .outOfRange row => row ++ " out of range"
  | .emptyRow => "pop from empty list"
  | .missingKey shown => shown
  | .zeroDivisor words => words
  | .negativeShift => "negative shift count"
  | .badValue words => words
  | .tooFew expected given least =>
    let atLeast := if least then "at least " else ""
    s!"not enough values to unpack (expected {atLeast}{expected}, got {given})"
  | .tooMany expected => s!"too many values to unpack (expected {expected})"
  | .reference text => "Forward reference must be an expression -- got " ++ Text.quote text
  | .nothingLeft => ""
  | .noneGiven callee => callee ++ "() arg is an empty sequence"
  | .tooDeep => "maximum recursion depth exceeded"

def kind : TermFault → PlainKind
  | .malformed m => if m.fault = .indented then .indentation else .grammar
  | .nullCharacter | .negativeShift | .badValue _ | .tooFew .. | .tooMany _ | .noneGiven _ =>
    .value
  | .unknownName _ => .name
  | .noMember _ => .member
  | .typed _ => .type
  | .outOfRange _ | .emptyRow => .index
  | .missingKey _ => .key
  | .zeroDivisor _ => .zeroDivision
  | .reference _ => .grammar
  | .nothingLeft => .exhausted
  | .tooDeep => .recursion

end TermFault

end RequestRouter.Hint
