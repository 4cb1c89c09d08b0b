import RequestRouter.Argument.Prepare

/-!
# Invoking routes

The handler of a route is called with arguments from the path, from services and from defaults, and
must answer with a response. The asynchronous form waits once for an answer that can be waited for.
-/

namespace RequestRouter

/-- An answer must have the shape of a response. It is passed on as it is. -/
def checkResponse (handler : HandlerRef) (answer : Returned) : Action Value :=
  if answer.view.supportsResponse then return answer.view
  else throw (.contract handler.displayName answer.view)

namespace Route

def prepare (route : Route) (method path : String) (lookup : Option Lookup)
    (registry : Option Registry) : Action Prepared := do
  let values ← Action.ofExcept (route.extract path)
  Action.log (.invoking route.handler.displayName method path values)
  route.handler.prepare values lookup registry

def invoke (route : Route) (method path : String) (lookup : Option Lookup)
    (registry : Option Registry) : Action Value := do
  let answer ← (← route.prepare method path lookup registry).call
  checkResponse route.handler answer

/-- Calls the handler for a request, and waits for its answer. -/
def ainvoke (route : Route) (method path : String) (lookup : Option Lookup)
    (registry : Option Registry) : Action Value := do
  let answer ← (← route.prepare method path lookup registry).call
  let answer ← if answer.isAwaitable then answer.await else pure answer
  checkResponse route.handler answer

end Route

end RequestRouter
