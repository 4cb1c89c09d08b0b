import RequestRouter.Handler.Function
import RequestRouter.Call.Construct

/-!
# Calling

Calling a function binds its arguments and runs its script; calling an asynchronous function only
binds them, and its body runs when the result is waited for. So a call returns a value, or something
that can be waited for: a suspended computation, whose work has not begun, or a deferred value.
-/

namespace RequestRouter

/-! ## What calls return -/

/-- A computation that has not begun. -/
inductive Pending
  | body (f : Function) (receiver : Option Value) (arguments : Entries String Value)
  | recipe (recipe : Recipe)

inductive Returned
  | value (v : Value)
  | suspended (pending : Pending)
  | deferred (recipe : Recipe)

namespace Returned

def suspendedClass : Class := Class.builtin 13 "coroutine"

def deferredClass : Class := Class.builtin 14 "Deferred"

/-- What is returned, seen as a value. -/
def view : Returned → Value
  | .value v => v
  | .suspended _ => .object suspendedClass []
  | .deferred _ => .object deferredClass []

def isAwaitable : Returned → Bool
  | .value _ => false
  | _ => true

end Returned

/-! ## Calls -/

/-- Registers a route with the router of the world, and logs it. -/
def registerRoute (methods : Methods) (pattern : String) (handler : Target) (name : Option String) :
    Action Route := do
  let (route, router) ← Action.ofExcept ((← get).router.map methods pattern handler name)
  modify fun world => { world with router }
  Action.log (.registered (route.methodsText ",") route.pattern route.handler.displayName
    route.expression)
  return route

def modifyRouter (change : Router → Router) : Action Unit :=
  modify fun world => { world with router := change world.router }

def registerController (c : Class) (name : Option String) : Action Unit := do
  let router ← Action.ofExcept ((← get).router.register c name)
  modifyRouter fun _ => router

/-- Registers a class with the registry itself, which does not ask whether the router is frozen. -/
def enrollController (c : Class) (name : Option String) : Action Unit := do
  let controllers ← Action.ofExcept ((← get).router.controllers.register c name)
  modifyRouter fun router => { router with controllers }

/-- Makes a registration from inside a handler. -/
def Registration.run : Registration → Action Unit
  | .route methods pattern reference name => do
    let _ ← registerRoute (.names methods) pattern (.callee (.value (.text reference))) name
  | .controller handle name => do registerController (← Action.classNamed handle) name

/-- The response that a handler answers with when it only names something. -/
def Response.naming (name : String) : Value := .response { body := .text name }

def Script.run (script : Script) (name : String) (receiver : Option Value)
    (arguments : Entries String Value) : Action Returned :=
  match script with
  | .echo => return .value (Response.naming name)
  | .give recipe => return .value (← recipe.build)
  | .fail kind recipes => failWith kind recipes
  | .deferred recipe => return .deferred recipe
  | .suspended recipe => return .suspended (.recipe recipe)
  | .registerAll registrations => do
    registrations.forM Registration.run
    return .value (Response.naming "registered")
  | .compute f => return .value (← Action.ofExcept (f (receiver.getD .null) arguments))

def Value.keeps : Value → Entries String Value
  | .object _ fields => fields
  | _ => []

namespace Function

def start (f : Function) (receiver : Option Value) (arguments : Entries String Value) :
    Action Returned := do
  if f.recorded then
    Action.emit (.started ⟨f.name, arguments, receiver.map Value.keeps⟩)
  f.script.run f.name receiver arguments

def call (f : Function) (receiver : Option Value) (values : List Value)
    (named : Entries String Value) : Action Returned := do
  let implicit := if receiver.isSome then 1 else 0
  let arguments ← bindFor f.qualname f.formals implicit values named
  if f.isAsync then return .suspended (.body f receiver arguments)
  f.start receiver arguments

end Function

def Callee.call (callee : Callee) (values : List Value) (named : Entries String Value) :
    Action Returned :=
  match callee with
  | .function f => f.call none values named
  | .method f receiver => f.call (some receiver) values named
  | .object _ f => f.call none values named
  | .type c | .value (.type c) => return .value (← c.construct values named)
  | .value v => throw (.misuse (.notCallable v.typeName))

/-- Waits for what a call returned, once: what can be waited for in turn is the result. -/
def Returned.await : Returned → Action Returned
  | .value v => return .value v
  | .suspended (.recipe recipe) | .deferred recipe => return .value (← recipe.build)
  | .suspended (.body f receiver arguments) => f.start receiver arguments

end RequestRouter
