import RequestRouter.Value.Shown

/-!
# Events

What happens while requests are answered, as far as it can be seen from outside: handler bodies that
start, instances that are made, questions to a recording lookup, and records written to the logs.
-/

namespace RequestRouter

inductive LogName
  | routing
  | injection
  deriving DecidableEq, Repr

def LogName.text : LogName → String
  | .routing => "distroute.routing"
  | .injection => "distroute.injection"

inductive LogRecord
  | registered (methods pattern handler expression : String)
  | frozen (routes : Nat)
  | unmatched (method path : String)
  | invoking (handler method path : String) (values : Entries String String)
  | unknownController (name : String)
  | discarded (key parameter typeName expected : String)
  deriving DecidableEq, Repr

namespace LogRecord

def log : LogRecord → LogName
  | .unknownController _ | .discarded .. => .injection
  | _ => .routing

def message : LogRecord → String
  | .registered methods pattern handler expression =>
    s!"Registered {methods} {pattern} -> {handler} ({expression})"
  | .frozen routes => s!"Router frozen with {routes} route(s)"
  | .unmatched method path => s!"No route matches {method} {path}"
  | .invoking handler method path values =>
    let shown := Value.shown (.pairs (values.map fun (name, value) => (name, .text value)))
    s!"Invoking {handler} for {method} {path} with {shown}"
  | .unknownController name => "Unknown controller " ++ Text.quote name
  | .discarded key parameter typeName expected =>
    s!"Discarding service {Text.quote key} for parameter {Text.quote parameter}: " ++
      s!"{typeName} is not a {expected}"

end LogRecord

/-- A question to a lookup. -/
inductive Query
  | has (key : String)
  | get (key : String)
  deriving DecidableEq, Repr

/-- A handler body that started, with its arguments and what its receiver keeps. -/
structure Run where
  handler : String
  arguments : Entries String Value
  receiver : Option (Entries String Value) := none

inductive Event
  | started (run : Run)
  | constructed (c : Class)
  | asked (query : Query)
  | logged (record : LogRecord)

namespace Event

def run? : Event → Option Run
  | .started run => some run
  | _ => none

def query? : Event → Option Query
  | .asked query => some query
  | _ => none

def record? : Event → Option LogRecord
  | .logged record => some record
  | _ => none

end Event

end RequestRouter
