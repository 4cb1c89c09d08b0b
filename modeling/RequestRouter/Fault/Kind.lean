/-!
# Kinds of faults

A fault is of a kind, and kinds descend from kinds: who handles a kind handles all that descend
from it.
-/

namespace RequestRouter

/-- Kinds of faults that carry nothing but the arguments they were stated with. -/
inductive PlainKind
  /-- Any fault of routing. -/
  | general
  | configuration
  | type
  | value
  | lookup
  | key
  | runtime
  | member
  | unicode
  | name
  /-- A text hint that is no expression. -/
  | grammar
  | overflow
  /-- A module that cannot be found. -/
  | module
  /-- A text that is no regular expression. -/
  | expression
  /-- A place outside of a row. -/
  | index
  | zeroDivision
  /-- A text hint that starts too far to the right. -/
  | indentation
  /-- Calls inside calls without an end. -/
  | recursion
  /-- Nothing is left of what is handed out one by one. -/
  | exhausted
  /-- Something that should not be possible. -/
  | system
  deriving DecidableEq, Repr

inductive FaultKind
  | plain (kind : PlainKind)
  | pattern
  | http
  | noRoute
  | handlerNotFound
  | contract
  | conversion
  | serviceNotFound
  deriving DecidableEq, Repr

def PlainKind.title : PlainKind → String
  | .general => "DistrouteError"
  | .configuration => "ConfigurationError"
  | .type => "TypeError"
  | .value => "ValueError"
  | .lookup => "LookupError"
  | .key => "KeyError"
  | .runtime => "RuntimeError"
  | .member => "AttributeError"
  | .unicode => "UnicodeError"
  | .name => "NameError"
  | .grammar => "SyntaxError"
  | .overflow => "OverflowError"
  | .module => "ModuleNotFoundError"
  | .expression => "re.error"
  | .index => "IndexError"
  | .zeroDivision => "ZeroDivisionError"
  | .indentation => "IndentationError"
  | .recursion => "RecursionError"
  | .exhausted => "StopIteration"
  | .system => "SystemError"

namespace FaultKind

def title : FaultKind → String
  | .plain kind => kind.title
  | .pattern => "PatternSyntaxError"
  | .http => "HTTPError"
  | .noRoute => "NoRouteMatchedError"
  | .handlerNotFound => "HandlerNotFoundError"
  | .contract => "HandlerContractViolationError"
  | .conversion => "ParameterConversionError"
  | .serviceNotFound => "ServiceNotFoundError"

def plainKinds : List PlainKind :=
  [.general, .configuration, .type, .value, .lookup, .key, .runtime, .member, .unicode, .name,
    .grammar, .overflow, .module, .expression, .index, .zeroDivision, .indentation, .recursion,
    .exhausted, .system]

/-- All kinds. -/
def all : List FaultKind :=
  plainKinds.map .plain ++
    [.pattern, .http, .noRoute, .handlerNotFound, .contract, .conversion, .serviceNotFound]

def titled? (title : String) : Option FaultKind := all.find? (·.title == title)

def parents : FaultKind → List FaultKind
  | .plain .configuration => [.plain .general]
  | .plain .key | .plain .index => [.plain .lookup]
  | .plain .unicode => [.plain .value]
  | .plain .indentation => [.plain .grammar]
  | .plain .recursion => [.plain .runtime]
  | .plain _ => []
  | .pattern => [.plain .configuration]
  | .http => [.plain .general]
  | .noRoute => [.http]
  | .handlerNotFound => [.plain .general, .plain .lookup]
  | .contract => [.plain .general, .plain .type]
  | .conversion => [.plain .general, .plain .value]
  | .serviceNotFound => [.plain .general, .plain .lookup]

/-- Faults of one kind are also of another: it is that kind, a parent or a parent's parent, and no
line of descent is longer. -/
def isA (kind other : FaultKind) : Bool :=
  kind == other || kind.parents.any fun parent => parent == other || parent.parents.contains other

/-- The kinds that faults of routing are told by, most general first, and the three they share with
other faults. -/
def listed : List FaultKind :=
  [.plain .general, .plain .configuration, .pattern, .http, .noRoute, .handlerNotFound, .contract,
    .conversion, .serviceNotFound, .plain .lookup, .plain .type, .plain .value]

end FaultKind

end RequestRouter
