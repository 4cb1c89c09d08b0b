import RequestRouter.Fault.Basic

/-!
# Stating a fault

A fault is stated by its kind and its arguments, which must fit the kind.
-/

namespace RequestRouter.Fault

/-- The problem with arguments for parameters of which the first `least` are required. -/
def argumentProblem (names : List String) (least : Nat) (given : Nat) : BindingProblem :=
  if names.length < given then .tooMany (least + 1) (names.length + 1) (given + 1) 0
  else .missing ((names.take least).drop given)

/-- The names of the parameters of a kind, and how many of them are required. -/
def parameters : FaultKind → List String × Nat
  | .plain _ => ([], 0)
  | .pattern => (["pattern", "detail"], 2)
  | .http => (["status", "detail"], 1)
  | .noRoute => (["method", "path"], 2)
  | .handlerNotFound => (["type_name", "method_name"], 2)
  | .contract => (["handler_name", "result"], 2)
  | .conversion => (["name", "target", "value"], 3)
  | .serviceNotFound => (["key"], 1)

/-- The fault of a kind with given arguments, or the fault of stating it with arguments that do not
fit. -/
def ofArguments (kind : FaultKind) (arguments : List Value) : Fault :=
  match kind, arguments with
  | .plain kind, arguments => .stated kind arguments
  | .pattern, [.text t, .text detail] => .pattern t detail
  | .http, [.int status] => .http status ""
  | .http, [.int status, .text detail] => .http status detail
  | .noRoute, [.text method, .text path] => .noRoute method path
  | .handlerNotFound, [.text typeName, .text methodName] => .handlerNotFound typeName methodName
  | .contract, [.text handler, result] => .contract handler result
  | .conversion, [.text name, .type target, .text value] => .conversion name target value none
  | .serviceNotFound, [.text key] => .serviceNotFound key
  | kind, arguments =>
    let (names, least) := parameters kind
    .binding (kind.title ++ ".__init__") (argumentProblem names least arguments.length)

/-- States a fault; arguments that do not fit end in the fault of stating it. -/
def stating (kind : FaultKind) (arguments : List Value) : Except Fault Fault :=
  let made := ofArguments kind arguments
  if made.kind == kind then .ok made else .error made

end RequestRouter.Fault
