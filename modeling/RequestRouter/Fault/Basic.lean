import RequestRouter.Fault.Binding
import RequestRouter.Fault.Kind
import RequestRouter.Message.Url
import RequestRouter.Pattern.Compile
import RequestRouter.Hint.TermFault
import RequestRouter.Value.Shown

/-!
# Faults

What can go wrong while routes are registered and requests are answered. Each constructor names a
cause and holds what the cause is about; the wording is in `Fault.message`.
-/

namespace RequestRouter

inductive ConfigurationProblem
  /-- The methods of a route are one text. -/
  | methodsText (methods : String)
  /-- Something is registered after the first request. -/
  | frozen
  /-- A handler reference does not name a type and a method. -/
  | badReference (text : String)
  /-- A handler is neither a reference nor something that can be called. -/
  | badHandler (typeName : String)
  /-- A controller name belongs to another class. -/
  | nameTaken (name owner : String)
  | badFragment (fragment : String) (problem : FragmentProblem)
  deriving DecidableEq, Repr

def ConfigurationProblem.message : ConfigurationProblem → String
  | .methodsText methods =>
    s!"methods must be a collection of method names, got the string {Text.quote methods}. " ++
      s!"Use methods=[{Text.quote methods}]."
  | .frozen =>
    "Cannot register routes after the router has started dispatching. " ++
      "Register routes and controllers before the first request."
  | .badReference text =>
    "Handler reference " ++ Text.quote text ++ " must have the form 'Type@method'"
  | .badHandler typeName =>
    "Handler must be a callable or a 'Type@method' string, got " ++ typeName
  | .nameTaken name owner =>
    "Controller name " ++ Text.quote name ++ " is already registered to " ++ owner
  | .badFragment fragment problem =>
    "default_fragment " ++ Text.quote fragment ++ " " ++ problem.message

inductive ImportFault
  | unknown (name : String)
  /-- The module around it holds no modules. -/
  | notPackage (name parent : String)
  /-- A relative name has nothing to be relative to. -/
  | relative (name : String)
  | noName
  deriving DecidableEq, Repr

def ImportFault.message : ImportFault → String
  | .unknown name => "No module named " ++ Text.quote name
  | .notPackage name parent =>
    "No module named " ++ Text.quote name ++ "; " ++ Text.quote parent ++ " is not a package"
  | .relative name =>
    "the 'package' argument is required to perform a relative import for " ++ Text.quote name
  | .noName => "Empty module name"

def ImportFault.kind : ImportFault → PlainKind
  | .unknown _ | .notPackage .. => .module
  | .relative _ => .type
  | .noName => .value

/-- How a value is used as what it is not. -/
inductive Misuse
  /-- A value has no such attribute. -/
  | noAttribute (typeName member : String)
  /-- A class has no such attribute. -/
  | noClassAttribute (name member : String)
  | noModuleAttribute (name member : String)
  /-- A value is no text or number that a whole number could be read from. -/
  | notNumeric (typeName : String)
  /-- A class of contracts has no instances of its own. -/
  | contractInstance
  /-- The class of no value in particular has no instances of its own. -/
  | anyInstance
  /-- No instance test can be made. -/
  | anyTest
  | contractTest
  /-- A value cannot be called, in the words used when it is inspected or called. -/
  | notInspectable (shown : String)
  | notCallable (typeName : String)
  /-- A value holds nothing that could be looked for or counted in it. -/
  | notIterable (typeName : String)
  | noLength (typeName : String)
  deriving DecidableEq, Repr

def Misuse.message : Misuse → String
  | .noAttribute typeName member =>
    Text.quote typeName ++ " object has no attribute " ++ Text.quote member
  | .noClassAttribute name member =>
    "type object " ++ Text.quote name ++ " has no attribute " ++ Text.quote member
  | .noModuleAttribute name member =>
    "module " ++ Text.quote name ++ " has no attribute " ++ Text.quote member
  | .notNumeric typeName =>
    "int() argument must be a string, a bytes-like object or a real number, not " ++
      Text.quote typeName
  | .contractInstance => "Protocols cannot be instantiated"
  | .anyInstance => "Any cannot be instantiated"
  | .anyTest => "typing.Any cannot be used with isinstance()"
  | .contractTest =>
    "Instance and class checks can only be used with @runtime_checkable protocols"
  | .notInspectable shown => shown ++ " is not a callable object"
  | .notCallable typeName => Text.quote typeName ++ " object is not callable"
  | .notIterable typeName => "argument of type " ++ Text.quote typeName ++ " is not iterable"
  | .noLength typeName => "object of type " ++ Text.quote typeName ++ " has no len()"

def Misuse.kind : Misuse → PlainKind
  | .noAttribute .. | .noClassAttribute .. | .noModuleAttribute .. => .member
  | _ => .type

inductive Fault
  /-- A fault stated by a handler, a constructor or a factory. -/
  | stated (kind : PlainKind) (arguments : List Value)
  | configuration (problem : ConfigurationProblem)
  | pattern (text detail : String)
  | http (status : Int) (detail : String)
  | noRoute (method path : String)
  | handlerNotFound (typeName methodName : String)
  | contract (handler : String) (result : Value)
  /-- A path value cannot be made into an instance of the class; `cause` is the kind of fault that
  the class answered with. -/
  | conversion (name : String) (target : Class) (value : String) (cause : Option FaultKind)
  | serviceNotFound (key : String)
  | binding (callee : String) (problem : BindingProblem)
  | numeral (text : String) (fault : Text.NumeralFault)
  | expression (error : ReadError)
  /-- A group closes before it opens. -/
  | crossedMarks
  | hint (fault : Hint.TermFault)
  | misuse (what : Misuse)
  | address (fault : UrlFault)
  | importing (fault : ImportFault)

namespace Fault

def kindOfError : ReadError → PlainKind
  | .malformed .. => .expression
  | .countTooLarge => .overflow
  | .countTooLong _ | .rivalAlphabets => .value

def kind : Fault → FaultKind
  | .stated kind _ => .plain kind
  | .configuration _ => .plain .configuration
  | .pattern .. => .pattern
  | .http .. => .http
  | .noRoute .. => .noRoute
  | .handlerNotFound .. => .handlerNotFound
  | .contract .. => .contract
  | .conversion .. => .conversion
  | .serviceNotFound _ => .serviceNotFound
  | .binding .. => .plain .type
  | .numeral .. => .plain .value
  | .expression error => .plain (kindOfError error)
  | .crossedMarks => .plain .system
  | .hint fault => .plain fault.kind
  | .misuse what => .plain what.kind
  | .address _ => .plain .value
  | .importing fault => .plain fault.kind

def isA (fault : Fault) (kind : FaultKind) : Bool := fault.kind.isA kind

/-- What is said when no route is found. -/
def noRouteDetail (method path : String) : String :=
  "No route matches " ++ method ++ " " ++ Text.quote path

/-- A status with its detail, if there is any. -/
def statusText (status : Int) (detail : String) : String :=
  if detail.isEmpty then toString status else s!"{status}: {detail}"

/-- What is said about a fault. A missing key is shown quoted, to tell it from other text. -/
def message : Fault → String
  | .stated _ [] => ""
  | .stated .key [v] => v.shown
  | .stated _ [v] => v.plain
  | .stated _ arguments => Value.shownTuple arguments
  | .configuration problem => problem.message
  | .pattern text detail => "Invalid route pattern " ++ Text.quote text ++ ": " ++ detail
  | .http status detail => statusText status detail
  | .noRoute method path => statusText 404 (noRouteDetail method path)
  | .handlerNotFound typeName methodName => s!"Handler {typeName}@{methodName} not found"
  | .contract handler result => handler ++ " must return a response object, got " ++ result.typeName
  | .conversion name target value _ =>
    s!"Cannot convert path parameter {name}={Text.quote value} to {target.qualname}"
  | .serviceNotFound key => "No service registered for " ++ Text.quote key
  | .binding callee problem => problem.message callee
  | .numeral text fault => fault.message (Text.quote text)
  | .expression error => error.message
  | .crossedMarks =>
    "The span of capturing group is wrong, please report a bug for the re module."
  | .hint fault => fault.message
  | .misuse what => what.message
  | .address fault => fault.message
  | .importing fault => fault.message

/-- The status and detail of a fault that answers a request. -/
def status? : Fault → Option (Int × String)
  | .http status detail => some (status, detail)
  | .noRoute method path => some (404, noRouteDetail method path)
  | _ => none

/-- What a fault is about, by name. -/
def fields : Fault → Entries String Value
  | .pattern text detail => [("pattern", .text text), ("detail", .text detail)]
  | .http status detail => [("detail", .text detail), ("status", .int status)]
  | .noRoute method path =>
    [("detail", .text (noRouteDetail method path)), ("status", .int 404), ("method", .text method),
      ("path", .text path)]
  | .handlerNotFound typeName methodName =>
    [("type_name", .text typeName), ("method_name", .text methodName)]
  | .contract handler result => [("handler_name", .text handler), ("result", result)]
  | .conversion name target value _ =>
    [("name", .text name), ("target", .type target), ("value", .text value)]
  | .serviceNotFound key => [("key", .text key)]
  | fault =>
    if fault.kind = .plain .member || fault.kind = .plain .name then [("name", .null)]
    else if fault.kind = .plain .module then [("path", .null), ("name", .null)]
    else []

/-- Two faults stated apart are equal: faults that answer a request are, if they are of one kind and
agree on status and detail, and others never are. -/
def equals (a b : Fault) : Bool :=
  a.kind == b.kind && a.status?.isSome && a.status? == b.status?

/-- The fault of a pattern that does not compile. -/
def ofCompileError : CompileError → Fault
  | .invalid text fault => .pattern (String.ofList text) fault.message
  | .host error => .expression error

def ofMatchFault : MatchFault → Fault
  | .unreadable error => .expression error
  | .crossedMarks => .crossedMarks

end Fault

end RequestRouter
