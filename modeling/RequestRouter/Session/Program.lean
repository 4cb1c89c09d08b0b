import RequestRouter.Session.Operation

/-!
# Programs that register routes

A program registers routes, sets the base pattern, works inside groups, fails, and handles failures
of its parts, to any depth. It has a plain meaning as an action (`Program.exec`), a run that keeps an
account of its calls and groups (`Program.run`), and a flat meaning (`Program.flatten`), in which no
router occurs: each call stands under the base pattern that the text of the program gives it.
-/

namespace RequestRouter

/-- A call that registers a route. -/
inductive RouteCall
  | map (methods : Methods) (pattern : String) (handler : Target) (name : Option String)
  | verb (word : Verb) (pattern : String) (handler : Target) (name : Option String)
  /-- A decorator, made and applied. -/
  | route (methods : Methods) (pattern : String) (handler : Target) (name : Option String)
  /-- A decorator that was made before. -/
  | decorate (decorator : Decorator) (handler : Target)

namespace RouteCall

def methods : RouteCall → Methods
  | .map methods .. | .route methods .. => methods
  | .verb word .. => .names word.methods
  | .decorate decorator _ => .names decorator.methods

/-- The pattern as it is written, without the base pattern. -/
def pattern : RouteCall → String
  | .map _ pattern .. | .verb _ pattern .. | .route _ pattern .. => pattern
  | .decorate decorator _ => decorator.pattern

def handler : RouteCall → Target
  | .map _ _ handler _ | .verb _ _ handler _ | .route _ _ handler _ | .decorate _ handler => handler

def name : RouteCall → Option String
  | .map _ _ _ name | .verb _ _ _ name | .route _ _ _ name => name
  | .decorate decorator _ => decorator.name

def run : RouteCall → Action Route
  | .map methods pattern handler name => registerRoute methods pattern handler name
  | .verb word pattern handler name => registerRoute (.names word.methods) pattern handler name
  | .route methods pattern handler name => do
    let decorator ← Action.ofExcept (Decorator.make pattern methods name)
    decorator.apply handler
  | .decorate decorator handler => decorator.apply handler

/-- What the call answers under a base pattern, as long as the router is open. -/
def outcome (config : Config) (base : String) (call : RouteCall) : Except Fault Route := do
  let methods ← call.methods.check
  Route.make { methods, pattern := base ++ call.pattern, handler := call.handler, name := call.name,
               defaultFragment := config.defaultFragment, strict := config.strictPatterns }

end RouteCall

/-- A program that registers routes. It may fail on its own account with any fault that is not a
response to a request. -/
inductive Program
  | done
  | call (what : RouteCall)
  | setBase (base : String)
  | fail (fault : Fault) (own : fault.isA .http = false)
  /-- The second part is not come to if the first one fails. -/
  | seq (first rest : Program)
  | group (extension : String) (body : Program)
  /-- Failures of the body that are expected are handled. -/
  | rescue (body : Program) (expected : Fault → Bool) (handler : Program)

/-! ## Running programs -/

/-- A call that was made, with the router before and after it. -/
structure CallRecord where
  call : RouteCall
  before : Router
  result : Except Fault Route
  after : Router

/-- The route that a call returned, if it returned. -/
def CallRecord.route? (record : CallRecord) : Option Route := record.result.toOption

/-- A group that was left, with the calls made in it and the router before and after it. -/
structure GroupRecord where
  before : Router
  calls : List CallRecord
  result : Except Fault Unit
  after : Router

/-- What a program did: its calls as they were made, its groups as they were left, and how it
ended. -/
structure Account where
  calls : List CallRecord := []
  groups : List GroupRecord := []
  outcome : Except Fault Unit := .ok ()

/-- One account after another. -/
def Account.append (first rest : Account) : Account :=
  { calls := first.calls ++ rest.calls, groups := first.groups ++ rest.groups,
    outcome := rest.outcome }

/-- Makes a call and keeps an account of it. -/
def RouteCall.record (call : RouteCall) : StateM World Account := do
  let before := (← get).router
  let result ← call.run.run
  return { calls := [⟨call, before, result, (← get).router⟩], outcome := result.map fun _ => () }

namespace Program

/-- What a program does to the world. -/
def exec : Program → Action Unit
  | .done => return ()
  | .call what => do let _ ← what.run
  | .setBase base => modifyRouter (·.setBase base)
  | .fail fault _ => throw fault
  | .seq first rest => do
    first.exec
    rest.exec
  | .group extension body => inGroup extension body.exec
  | .rescue body expected handler =>
    tryCatch body.exec fun fault => if expected fault then handler.exec else throw fault

/-- Runs a program and keeps an account of it. -/
def run : Program → StateM World Account
  | .done => return {}
  | .call what => what.record
  | .setBase base => do
    modify fun world => { world with router := world.router.setBase base }
    return {}
  | .fail fault _ => return { outcome := .error fault }
  | .seq first rest => do
    let account ← first.run
    match account.outcome with
    | .ok () => return account.append (← rest.run)
    | .error _ => return account
  | .group extension body => do
    let before := (← get).router
    let account ← insideGroup extension body.run
    let left : GroupRecord := ⟨before, account.calls, account.outcome, (← get).router⟩
    return { account with groups := account.groups ++ [left] }
  | .rescue body expected handler => do
    let account ← body.run
    match account.outcome with
    | .ok () => return account
    | .error fault =>
      if expected fault then return account.append (← handler.run) else return account

end Program

/-! ## The flat meaning of a program -/

/-- Where a part of a program stands: behind a base pattern that encloses it or was set last, and in
the groups that have been entered since. -/
structure BaseScope where
  origin : String
  /-- Of the groups, the outermost first. -/
  extensions : List String := []

namespace BaseScope

/-- The base pattern in force. -/
def base (scope : BaseScope) : String := scope.origin ++ String.join scope.extensions

def enter (scope : BaseScope) (extension : String) : BaseScope :=
  { scope with extensions := scope.extensions ++ [extension] }

end BaseScope

/-- A call as the text of a program gives it: where it stands, and what it answers there. -/
structure FlatCall where
  call : RouteCall
  scope : BaseScope
  result : Except Fault Route

/-- What a program comes to: its calls in order, the scope behind it and how it ends. -/
structure Flat where
  calls : List FlatCall := []
  scope : BaseScope
  outcome : Except Fault Unit := .ok ()

namespace Flat

/-- The routes of the calls that returned, in the order of the calls. -/
def routes (flat : Flat) : List Route := flat.calls.filterMap fun call => call.result.toOption

/-- One part of a program after another. -/
def append (first rest : Flat) : Flat :=
  { calls := first.calls ++ rest.calls, scope := rest.scope, outcome := rest.outcome }

end Flat

/-- The flat meaning of a program in a scope. What stands behind a group stands in the scope of the
group itself, whatever was set inside it and however it ended. -/
def Program.flatten (config : Config) : Program → BaseScope → Flat
  | .done, scope => { scope }
  | .call what, scope =>
    let result := what.outcome config scope.base
    { calls := [⟨what, scope, result⟩], scope, outcome := result.map fun _ => () }
  | .setBase base, _ => { scope := ⟨base, []⟩ }
  | .fail fault _, scope => { scope, outcome := .error fault }
  | .seq first rest, scope =>
    let flat := first.flatten config scope
    match flat.outcome with
    | .ok () => flat.append (rest.flatten config flat.scope)
    | .error _ => flat
  | .group extension body, scope =>
    { body.flatten config (scope.enter extension) with scope }
  | .rescue body expected handler, scope =>
    let flat := body.flatten config scope
    match flat.outcome with
    | .ok () => flat
    | .error fault =>
      if expected fault then flat.append (handler.flatten config flat.scope) else flat

end RequestRouter
