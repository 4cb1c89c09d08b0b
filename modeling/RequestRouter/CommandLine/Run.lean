import RequestRouter.CommandLine.Arguments
import RequestRouter.CommandLine.Report
import RequestRouter.CommandLine.Target

/-!
# Running commands

A command resolves its target first. A target that cannot be found or is no router is reported, and
so is a request that no route accepts; other faults are passed on.
-/

namespace RequestRouter

namespace CommandLine

/-- Faults of targets that are reported. -/
def isReported (fault : Fault) : Bool :=
  fault.isA (.plain .module) || fault.isA (.plain .member) || fault.isA (.plain .type)

def listRoutes : Action Console := return .print (Report.table (← get).router.routes)

/-- Shows which route a request hits. -/
def showMatch (method path : String) : Action Console := do
  match ← Action.attempt (matchRoute method path) with
  | .ok found => return .print (Report.found found.route found.values)
  | .error (.noRoute method path) =>
    return .fail 1 ("No match: " ++ Fault.noRouteDetail method path ++ "\n")
  | .error fault => throw fault

end CommandLine

namespace Environment

open CommandLine

variable {Obj : Type} (environment : Environment Obj)

def withRouter (target : String) (action : Action Console) : Action Console := do
  match ← Action.attempt (environment.resolve target) with
  | .ok router =>
    modifyRouter fun _ => router
    action
  | .error fault =>
    if isReported fault then return .fail 1 ("Error: " ++ fault.message ++ "\n") else throw fault

def runCommand : Command → Action Console
  | .routes target => environment.withRouter target listRoutes
  | .match target method path => environment.withRouter target (showMatch method path)

def run (arguments : List String) : Action Console :=
  match read arguments with
  | .ok command => environment.runCommand command
  | .error (.console console) => return console
  | .error .strayDivider =>
    throw (.stated .value [.text "not enough values to unpack (expected 1, got 0)"])

end Environment

namespace CommandLine

def Command.run (modules : Modules) (command : Command) : Action Console :=
  modules.environment.runCommand command

def run (modules : Modules) (arguments : List String) : Action Console :=
  modules.environment.run arguments

/-- Runs the program among described modules, and keeps its outcome. -/
def tryRun (classes : List ClassPlan) (modules : List (String × List (String × ThingPlan)))
    (arguments : List String) : Action (Except Fault Console) := do
  defineClasses classes
  let modules ← modules.mapM fun (name, plans) => return (name, ← ThingPlan.buildEntries plans)
  Action.attempt (run modules arguments)

end CommandLine

end RequestRouter
