import RequestRouter.Dispatch.Router
import RequestRouter.Routing.Verb

/-!
# Operations on a router

What a program can do with its router, in any order: register, by hand or by a decorator, change the
base pattern, freeze, and look requests up. An operation succeeds with a reply or fails; either way
the world it leaves behind is the one that the next operation finds.
-/

namespace RequestRouter

/-- The four ways of looking a request up. -/
inductive LookupForm
  | find
  | match
  | answer
  /-- Answers, and waits for the answer. -/
  | await
  deriving DecidableEq, Repr

/-- An operation on the router of the world. -/
inductive Operation
  | map (methods : Methods) (pattern : String) (handler : Target) (name : Option String)
  | verb (word : Verb) (pattern : String) (handler : Target) (name : Option String)
  /-- Makes a decorator, which registers nothing until it is applied. -/
  | decorator (methods : Methods) (pattern : String) (name : Option String)
  /-- Applies a decorator, which may have been made at any time. -/
  | decorate (decorator : Decorator) (handler : Target)
  | controller (c : Class) (name : Option String)
  | setBase (base : String)
  | enter (extension : String)
  /-- Leaves a group that was entered under a base pattern. -/
  | leave (base : String)
  | freeze
  | lookUp (form : LookupForm) (method path : String)

/-- What an operation or a step answers. -/
inductive Reply
  | nothing
  | truth (b : Bool)
  | truths (bs : List Bool)
  | index (n : Nat)
  | route (route : Route)
  | routes (routes : List Route)
  | matched (index : Nat) (pattern : String) (values : Entries String String)
  | controllers (names : List String)
  | value (v : Value)

def LookupForm.run (form : LookupForm) (method path : String) : Action Reply :=
  match form with
  | .find => do
    let (place, _) ← findRoute method path
    return .index place
  | .match => do
    let found ← matchRoute method path
    return .matched found.place found.route.pattern found.values
  | .answer => return .value (← dispatch method path)
  | .await => return .value (← adispatch method path)

namespace Operation

def run : Operation → Action Reply
  | .map methods pattern handler name => return .route (← registerRoute methods pattern handler name)
  | .verb word pattern handler name =>
    return .route (← registerRoute (.names word.methods) pattern handler name)
  | .decorator methods pattern name => do
    let _ ← Action.ofExcept (Decorator.make pattern methods name)
    return .nothing
  | .decorate made handler => do
    let _ ← made.apply handler
    return .truth true
  | .controller c name => do
    registerController c name
    return .truth true
  | .setBase base => do
    modifyRouter (·.setBase base)
    return .value (.text (← get).router.base)
  | .enter extension => do
    modifyRouter (·.enter extension)
    return .nothing
  | .leave base => do
    modifyRouter (·.setBase base)
    return .nothing
  | .freeze => do
    freezeRouter
    return .nothing
  | .lookUp form method path => form.run method path

/-- The world after operations, done one after another whether they fail or not. -/
def runAll (operations : List Operation) (world : World) : World :=
  operations.foldl (fun world operation => (operation.run.run world).2) world

/-- The operation registers a route or a controller. -/
def registers : Operation → Bool
  | .map .. | .verb .. | .decorate .. | .controller .. => true
  | _ => false

/-- The operation freezes the router: all lookups do, whether they find a route or not. -/
def freezes : Operation → Bool
  | .freeze | .lookUp .. => true
  | _ => false

end Operation

end RequestRouter
