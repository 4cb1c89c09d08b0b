import RequestRouter.CommandLine.Run
import RequestRouter.Proofs.Pattern.Faults
import RequestRouter.Proofs.World.Handlers

/-!
# The first route that accepts a request

Routes are asked in the order in which they were registered. One that does not accept the request is
passed; the first that is not passed decides, for all ways of looking the request up
(`World.selects_first`): finding and matching, answering with and without waiting, and the command
that shows a match. They all look at the same route and at the same values (`World.Leads`).
-/

namespace RequestRouter

/-! ## Routes and requests -/

namespace Route

variable {route : Route} {method path : String}

/-- The method is one of the methods of the route; no methods stand for all of them. -/
def Admits (route : Route) (method : String) : Prop :=
  route.methods = [] ∨ method ∈ route.methods

/-- The method is admitted, and the expression matches the whole path. -/
def Accepts (route : Route) (method path : String) : Prop :=
  route.Admits method ∧ ∃ marks, route.compiled.fullMatch path.toList = .ok (some marks)

/-- The method is not admitted, or the expression does not match the path. -/
def Passes (route : Route) (method path : String) : Prop :=
  route.Admits method → route.compiled.fullMatch path.toList = .ok none

/-- The method is admitted, and the match of the path leaves crossed marks. -/
def Crosses (route : Route) (method path : String) : Prop :=
  route.Admits method ∧ route.compiled.fullMatch path.toList = .error .crossedMarks

theorem accepts_of_admits (h : route.Admits method) : route.accepts method path =
    ((route.compiled.fullMatch path.toList).map Option.isSome).mapError .ofMatchFault := by
  rw [accepts, CompiledPattern.accepts, if_pos]
  rcases h with hempty | hmem
  · rw [hempty]
    rfl
  · simp [hmem]

theorem accepts_eq_true (h : route.Accepts method path) :
    route.accepts method path = .ok true := by
  obtain ⟨hadmits, marks, hmatch⟩ := h
  rw [accepts_of_admits hadmits, hmatch]
  rfl

theorem accepts_eq_error (h : route.Crosses method path) :
    route.accepts method path = .error .crossedMarks := by
  obtain ⟨hadmits, hmatch⟩ := h
  rw [accepts_of_admits hadmits, hmatch]
  rfl

theorem accepts_eq_false (h : route.Passes method path) :
    route.accepts method path = .ok false := by
  by_cases hadmits : route.Admits method
  · rw [accepts_of_admits hadmits, h hadmits]
    rfl
  · rw [accepts, CompiledPattern.accepts, if_neg]
    · rfl
    · intro hmethod
      apply hadmits
      rcases Bool.or_eq_true_iff.mp hmethod with hempty | hmem
      · exact .inl (List.isEmpty_iff.mp hempty)
      · exact .inr (List.contains_iff_mem.mp hmem)

/-- A request is accepted by a route, or passed, or its match leaves crossed marks. -/
theorem accepts_or_passes_or_crosses (route : Route) (method path : String) :
    route.Accepts method path ∨ route.Passes method path ∨ route.Crosses method path := by
  by_cases hadmits : route.Admits method
  · cases hmatch : route.compiled.fullMatch path.toList with
    | error fault =>
      obtain rfl := Expression.eq_crossedMarks_of_fullMatch hmatch
      exact .inr (.inr ⟨hadmits, hmatch⟩)
    | ok found =>
      cases found with
      | none => exact .inr (.inl fun _ => hmatch)
      | some marks => exact .inl ⟨hadmits, marks, hmatch⟩
  · exact .inr (.inl fun h => absurd h hadmits)

/-- A route that is made in strict mode for all methods. -/
theorem exists_make {pattern : String} {compiled : CompiledPattern}
    (h : CompiledPattern.compile pattern.toList RequestRouter.defaultFragment true =
      .ok compiled) :
    ∃ route, make { pattern, handler := .ref (.method "Shop" "show") } = .ok route ∧
      (∀ p ∈ route.parameters, Readable p.fragment) ∧ route.Admits "GET" ∧
      route.compiled = compiled := by
  rw [← @String.toList_ofList RequestRouter.defaultFragment] at h
  refine ⟨_, make_of_compile rfl h, CompiledPattern.readable_of_compile h rfl, ?_, rfl⟩
  exact .inl (by simp [methodSet])

theorem exists_make_accepts : ∃ route,
    make { pattern := "/{y}", handler := .ref (.method "Shop" "show") } = .ok route ∧
      (∀ p ∈ route.parameters, Readable p.fragment) ∧ route.Accepts "GET" "/abb" := by
  obtain ⟨compiled, hcompile, hmatch⟩ := CompiledPattern.exists_compile_single
  obtain ⟨route, hmake, hread, hadmits, rfl⟩ := exists_make hcompile
  exact ⟨route, hmake, hread, hadmits, hmatch⟩

theorem exists_make_crosses : ∃ route,
    make { pattern := "/{x:((?:(a)|b)*+)}", handler := .ref (.method "Shop" "show") } =
      .ok route ∧
      (∀ p ∈ route.parameters, Readable p.fragment) ∧ route.Crosses "GET" "/abb" := by
  obtain ⟨compiled, hcompile, hmatch⟩ := CompiledPattern.exists_compile_crossed
  obtain ⟨route, hmake, hread, hadmits, rfl⟩ := exists_make hcompile
  exact ⟨route, hmake, hread, hadmits, hmatch⟩

end Route

/-! ## The first route that is not passed -/

section First

variable {method path : String} {before rest : List Route} {place : Nat}

/-- Routes that are passed only count for the places of the others. -/
theorem Router.firstOf_append (h : ∀ r ∈ before, r.Passes method path) :
    firstOf method path place (before ++ rest) =
      firstOf method path (place + before.length) rest := by
  induction before generalizing place with
  | nil => rfl
  | cons r before ih =>
    obtain ⟨hr, hbefore⟩ := List.forall_mem_cons.mp h
    rw [List.cons_append, firstOf, Route.accepts_eq_false hr]
    show firstOf method path (place + 1) (before ++ rest) = _
    rw [ih hbefore, List.length_cons, Nat.add_right_comm, Nat.add_assoc]

theorem exists_split_of_not_passes {routes : List Route}
    (h : ¬ ∀ r ∈ routes, r.Passes method path) : ∃ before route after,
      routes = before ++ route :: after ∧ (∀ r ∈ before, r.Passes method path) ∧
        ¬ route.Passes method path := by
  induction routes with
  | nil =>
    exfalso
    apply h
    intro r hr
    cases hr
  | cons r rest ih =>
    by_cases hr : r.Passes method path
    · have hrest : ¬ ∀ r ∈ rest, r.Passes method path := by
        intro hrest
        exact h (List.forall_mem_cons.mpr ⟨hr, hrest⟩)
      obtain ⟨before, route, after, rfl, hbefore, hroute⟩ := ih hrest
      exact ⟨r :: before, route, after, rfl, List.forall_mem_cons.mpr ⟨hr, hbefore⟩, hroute⟩
    · exact ⟨[], r, rest, rfl, fun r hr => (nomatch hr), hr⟩

end First

theorem World.routes_frozen (world : World) :
    world.frozen.router.routes = world.router.routes := by
  cases h : world.router.frozen with
  | true => rw [frozen_of_frozen h]
  | false => rw [frozen_of_open h, Router.freeze]

/-- Freezing a router starts no handler. -/
theorem World.started_frozen (world : World) :
    world.frozen.trace.filterMap Event.run? = world.trace.filterMap Event.run? := by
  cases h : world.router.frozen with
  | true => rw [frozen_of_frozen h]
  | false => simp [frozen_of_open h, Event.run?]

section Find

variable {world : World} {method path : String} {before : List Route}

theorem run_findRoute : (findRoute method path).run world =
    (findFrozen method path).run world.frozen := by
  rw [findRoute_eq, Action.run_bind_ok (run_freezeRouter world)]

theorem run_findFrozen_of_found {found : Nat × Route}
    (h : world.router.first? method path = .ok (some found)) :
    (findFrozen method path).run world = (.ok found, world) := by
  rw [findFrozen, Action.run_bind_ok Action.run_get, Action.run_bind_ok (Action.run_ofExcept h)]
  rfl

theorem run_findFrozen_of_error {fault : Fault}
    (h : world.router.first? method path = .error fault) :
    (findFrozen method path).run world = (.error fault, world) := by
  rw [findFrozen, Action.run_bind_ok Action.run_get]
  exact Action.run_bind_error (Action.run_ofExcept h)

theorem run_findFrozen_of_none (h : world.router.first? method path = .ok none) :
    (findFrozen method path).run world = (.error (.noRoute method path),
      { world with trace := world.trace ++ [.logged (.unmatched method path)] }) := by
  rw [findFrozen, Action.run_bind_ok Action.run_get, Action.run_bind_ok (Action.run_ofExcept h)]
  rfl

theorem run_findRoute_of_accepts {route : Route} {after : List Route}
    (hroutes : world.router.routes = before ++ route :: after)
    (hbefore : ∀ r ∈ before, r.Passes method path) (hroute : route.Accepts method path) :
    (findRoute method path).run world = (.ok (before.length, route), world.frozen) := by
  rw [run_findRoute]
  apply run_findFrozen_of_found
  rw [Router.first?, world.routes_frozen, hroutes, Router.firstOf_append hbefore, Router.firstOf,
    Route.accepts_eq_true hroute, Nat.zero_add]
  rfl

theorem run_findRoute_of_crosses {route : Route} {after : List Route}
    (hroutes : world.router.routes = before ++ route :: after)
    (hbefore : ∀ r ∈ before, r.Passes method path) (hroute : route.Crosses method path) :
    (findRoute method path).run world = (.error .crossedMarks, world.frozen) := by
  rw [run_findRoute]
  apply run_findFrozen_of_error
  rw [Router.first?, world.routes_frozen, hroutes, Router.firstOf_append hbefore, Router.firstOf,
    Route.accepts_eq_error hroute]
  rfl

theorem run_findRoute_of_passes (h : ∀ r ∈ world.router.routes, r.Passes method path) :
    (findRoute method path).run world = (.error (.noRoute method path),
      { world.frozen with
        trace := world.frozen.trace ++ [.logged (.unmatched method path)] }) := by
  rw [run_findRoute]
  apply run_findFrozen_of_none
  have hall : Router.firstOf method path 0 (world.router.routes ++ []) =
      Router.firstOf method path (0 + world.router.routes.length) [] := Router.firstOf_append h
  rw [List.append_nil] at hall
  rw [Router.first?, world.routes_frozen, hall, Router.firstOf]

end Find

/-! ## What all lookups lead to -/

/-- Answers a request with the handler of a match, and waits for the answer if it is asked to. -/
def RouteMatch.answer (found : RouteMatch) (method path : String) (await : Bool) (world : World) :
    Action Value := do
  Action.log (.invoking found.route.handler.displayName method path found.values)
  let prepared ← found.route.handler.prepare found.values
    (world.router.supply.map Supply.lookup) world.router.controllers
  let answer ← prepared.call
  let answer ← if await && answer.isAwaitable then answer.await else pure answer
  checkResponse found.route.handler answer

namespace CommandLine

/-- Puts the router that a target names into the world. -/
def openTarget (modules : Modules) (target : String) : Action Unit := do
  let router ← Target.resolve modules target
  modifyRouter fun _ => router

/-- What the command prints that shows a match, and the status that it exits with if there is none.
-/
def shownMatch : Except Fault RouteMatch → Except Fault Console
  | .ok found => .ok (.print (Report.found found.route found.values))
  | .error (.noRoute method path) =>
    .ok (.fail 1 ("No match: " ++ Fault.noRouteDetail method path ++ "\n"))
  | .error fault => .error fault

theorem run_withRouter {modules : Modules} {target : String} {action : Action Console}
    {earlier world : World} (h : (openTarget modules target).run earlier = (.ok (), world)) :
    (modules.environment.withRouter target action).run earlier = action.run world := by
  rw [openTarget, Target.resolve, Action.run_bind] at h
  generalize hresolve : (modules.environment.resolve target).run earlier = outcome at h
  obtain ⟨result, after⟩ := outcome
  rw [Environment.withRouter, Action.run_bind_ok (Action.run_attempt hresolve)]
  cases result with
  | error fault => cases h
  | ok router =>
    have hmodify : (modifyRouter fun _ => router).run after = (.ok (), world) := h
    exact Action.run_bind_ok hmodify

theorem run_showMatch {method path : String} {world after : World}
    {outcome : Except Fault RouteMatch}
    (h : (matchRoute method path).run world = (outcome, after)) :
    (showMatch method path).run world = (shownMatch outcome, after) := by
  rw [showMatch, Action.run_bind_ok (Action.run_attempt h)]
  unfold shownMatch
  cases outcome with
  | ok found => rfl
  | error fault => cases fault <;> rfl

end CommandLine

/-- All that looks a request up comes to one outcome in one world: a route with the values that its
handler is prepared with, or a fault. No handler has started until then. -/
structure World.Leads (world : World) (method path : String) (outcome : Except Fault RouteMatch)
    (after : World) : Prop where
  matched : (matchRoute method path).run world = (outcome, after)
  answered : (dispatch method path).run world =
    (Action.ofExcept outcome >>= fun found => found.answer method path false after).run after
  awaited : (adispatch method path).run world =
    (Action.ofExcept outcome >>= fun found => found.answer method path true after).run after
  shown : ∀ modules target earlier,
    (CommandLine.openTarget modules target).run earlier = (.ok (), world) →
      (CommandLine.Command.run modules (.match target method path)).run earlier =
        (CommandLine.shownMatch outcome, after)
  unstarted : after.trace.filterMap Event.run? = world.trace.filterMap Event.run?

namespace World.Leads

variable {world after : World} {method path : String}

theorem of_found {place : Nat} {route : Route}
    (h : (findRoute method path).run world = (.ok (place, route), after))
    (hquiet : after.trace.filterMap Event.run? = world.trace.filterMap Event.run?) :
    world.Leads method path ((route.extract path).map fun values => ⟨place, route, values⟩)
      after := by
  have hmatched : (matchRoute method path).run world =
      ((route.extract path).map fun values => ⟨place, route, values⟩, after) := by
    rw [matchRoute, Action.run_bind_ok h]
    cases hvalues : route.extract path with
    | error fault => exact Action.run_bind_error (Action.run_ofExcept hvalues)
    | ok values => exact Action.run_bind_ok (Action.run_ofExcept hvalues)
  refine ⟨hmatched, ?_, ?_, fun modules target earlier hopen => ?_, hquiet⟩
  · rw [dispatch_eq, Action.run_bind_ok h, Action.run_bind_ok Action.run_get, Route.invoke,
      Route.prepare]
    cases route.extract path <;> rfl
  · rw [adispatch_eq, Action.run_bind_ok h, Action.run_bind_ok Action.run_get, Route.ainvoke,
      Route.prepare]
    cases route.extract path <;> rfl
  · rw [CommandLine.Command.run, Environment.runCommand, CommandLine.run_withRouter hopen]
    exact CommandLine.run_showMatch hmatched

theorem of_error {fault : Fault}
    (h : (findRoute method path).run world = (.error fault, after))
    (hquiet : after.trace.filterMap Event.run? = world.trace.filterMap Event.run?) :
    world.Leads method path (.error fault) after := by
  have hmatched : (matchRoute method path).run world = (.error fault, after) :=
    Action.run_bind_error h
  refine ⟨hmatched, ?_, ?_, fun modules target earlier hopen => ?_, hquiet⟩
  · rw [dispatch_eq, Action.run_bind_error h]
    rfl
  · rw [adispatch_eq, Action.run_bind_error h]
    rfl
  · rw [CommandLine.Command.run, Environment.runCommand, CommandLine.run_withRouter hopen]
    exact CommandLine.run_showMatch hmatched

end World.Leads

/-- All that looks a request up comes to one route at one place, and to the values that it extracts
from the path. -/
structure World.Selects (world : World) (method path : String) (place : Nat) (route : Route) :
    Prop where
  found : (findRoute method path).run world = (.ok (place, route), world.frozen)
  leads : world.Leads method path
    ((route.extract path).map fun values => ⟨place, route, values⟩) world.frozen

/-- All that looks a request up fails with one fault. -/
structure World.Fails (world : World) (method path : String) (fault : Fault) (after : World) :
    Prop where
  found : (findRoute method path).run world = (.error fault, after)
  leads : world.Leads method path (.error fault) after

/-! ## The first match -/

section FirstMatch

variable {world : World} {method path : String} {before after : List Route} {route : Route}

theorem World.selects_of_accepts (hroutes : world.router.routes = before ++ route :: after)
    (hbefore : ∀ r ∈ before, r.Passes method path) (hroute : route.Accepts method path) :
    world.Selects method path before.length route := by
  have hfind := run_findRoute_of_accepts hroutes hbefore hroute
  exact ⟨hfind, .of_found hfind world.started_frozen⟩

theorem World.fails_of_crosses (hroutes : world.router.routes = before ++ route :: after)
    (hbefore : ∀ r ∈ before, r.Passes method path) (hroute : route.Crosses method path) :
    world.Fails method path .crossedMarks world.frozen := by
  have hfind := run_findRoute_of_crosses hroutes hbefore hroute
  exact ⟨hfind, .of_error hfind world.started_frozen⟩

/-- The world after a request that no route accepts. -/
def World.unmatched (world : World) (method path : String) : World :=
  { world.frozen with trace := world.frozen.trace ++ [.logged (.unmatched method path)] }

theorem World.fails_of_passes (h : ∀ r ∈ world.router.routes, r.Passes method path) :
    world.Fails method path (.noRoute method path) (world.unmatched method path) := by
  have hfind := run_findRoute_of_passes h
  refine ⟨hfind, .of_error hfind ?_⟩
  simp [World.unmatched, World.started_frozen, Event.run?]

/-- With orderly fragments a route has an answer for every request. -/
theorem Route.not_crosses_of_orderly {plan : RoutePlan} (h : Route.make plan = .ok route)
    (hread : ∀ p ∈ route.parameters, Readable p.fragment)
    (horderly : ∀ p ∈ route.parameters, Orderly p.fragment) : ¬ route.Crosses method path := by
  intro hcrosses
  obtain ⟨found, hfound⟩ := CompiledPattern.exists_fullMatch_of_orderly (compile_of_make h) hread
    horderly path.toList
  rw [hcrosses.2] at hfound
  cases hfound

end FirstMatch

/-- Where all fragments can be read by themselves, every way of looking a request up comes to the
first route that does not pass it. If this route accepts the request, it is selected with its
values, and so it is in any router that has other routes behind it, and in front of it fewer routes
or further ones that pass the request. If its match leaves crossed marks, all lookups fail with that
fault, as they do if the extraction of its values leaves some; with orderly fragments neither
happens. If all routes pass the request, all lookups fail because there is no route for it. -/
theorem World.selects_first {world : World}
    (hread : ∀ route ∈ world.router.routes, ∀ p ∈ route.parameters, Readable p.fragment)
    (method path : String) :
    (∀ before route after, world.router.routes = before ++ route :: after →
      (∀ r ∈ before, r.Passes method path) →
        (route.Accepts method path → world.Selects method path before.length route ∧
          ∀ (other : World) (before' after' : List Route),
            other.router.routes = before' ++ route :: after' →
              (∀ r ∈ before', r ∈ before ∨ r.Passes method path) →
                other.Selects method path before'.length route) ∧
        (route.Crosses method path → world.Fails method path .crossedMarks world.frozen) ∧
        (∀ fault, route.extract path = .error fault → fault = .crossedMarks) ∧
        ∀ plan, Route.make plan = .ok route → (∀ p ∈ route.parameters, Orderly p.fragment) →
          ¬ route.Crosses method path ∧ ∃ values, route.extract path = .ok values) ∧
    ((∀ r ∈ world.router.routes, r.Passes method path) →
      world.Fails method path (.noRoute method path) (world.unmatched method path) ∧
        (Fault.noRoute method path).status? = some (404, Fault.noRouteDetail method path)) ∧
    ((∀ r ∈ world.router.routes, r.Passes method path) ∨ ∃ before route after,
      world.router.routes = before ++ route :: after ∧ (∀ r ∈ before, r.Passes method path) ∧
        (route.Accepts method path ∨ route.Crosses method path)) := by
  refine ⟨fun before route after hroutes hbefore => ?_, fun h => ⟨fails_of_passes h, rfl⟩, ?_⟩
  · have hmem : route ∈ world.router.routes := by
      rw [hroutes]
      exact List.mem_append_right _ List.mem_cons_self
    have hread := hread route hmem
    refine ⟨fun hroute => ⟨selects_of_accepts hroutes hbefore hroute, ?_⟩,
      fails_of_crosses hroutes hbefore, ?_, ?_⟩
    · intro other before' after' hother hbefore'
      refine selects_of_accepts hother (fun r hr => ?_) hroute
      rcases hbefore' r hr with hold | hnew
      · exact hbefore r hold
      · exact hnew
    · intro fault hfault
      exact Route.eq_crossedMarks_of_extract hread hfault
    · intro plan hplan horderly
      exact ⟨Route.not_crosses_of_orderly hplan hread horderly,
        Route.exists_extract_of_orderly hplan hread horderly path⟩
  · by_cases hpasses : ∀ r ∈ world.router.routes, r.Passes method path
    · exact .inl hpasses
    · obtain ⟨before, route, after, hroutes, hbefore, hroute⟩ := exists_split_of_not_passes hpasses
      refine .inr ⟨before, route, after, hroutes, hbefore, ?_⟩
      rcases route.accepts_or_passes_or_crosses method path with h | h | h
      · exact .inl h
      · exact absurd h hroute
      · exact .inr h

/-- A router with one route, and a request that this accepts. -/
theorem World.selects_first_single : ∃ route,
    Route.make { pattern := "/{y}", handler := .ref (.method "Shop" "show") } = .ok route ∧
      (∀ p ∈ route.parameters, Readable p.fragment) ∧ route.Accepts "GET" "/abb" ∧
      ({ router := { routes := [route] } } : World).Selects "GET" "/abb" 0 route := by
  obtain ⟨route, hmake, hread, haccepts⟩ := Route.exists_make_accepts
  let world : World := { router := { routes := [route] } }
  have hreads : ∀ r ∈ world.router.routes, ∀ p ∈ r.parameters, Readable p.fragment := by
    intro r hr
    rw [List.mem_singleton.mp hr]
    exact hread
  obtain ⟨hfirst, -⟩ := World.selects_first hreads "GET" "/abb"
  obtain ⟨hselected, -⟩ := hfirst [] route [] rfl fun r hr => (nomatch hr)
  exact ⟨route, hmake, hread, haccepts, (hselected haccepts).1⟩

/-- The second of two routes is the first that accepts the request, and no lookup selects it: the
match of the first one leaves crossed marks. -/
theorem World.not_selects_first : ∃ first second,
    Route.make { pattern := "/{x:((?:(a)|b)*+)}", handler := .ref (.method "Shop" "show") } =
      .ok first ∧
    Route.make { pattern := "/{y}", handler := .ref (.method "Shop" "show") } = .ok second ∧
    (∀ route ∈ [first, second], ∀ p ∈ route.parameters, Readable p.fragment) ∧
    ¬ first.Accepts "GET" "/abb" ∧ second.Accepts "GET" "/abb" ∧
    ∀ world : World, world.router.routes = [first, second] →
      (findRoute "GET" "/abb").run world = (.error .crossedMarks, world.frozen) := by
  obtain ⟨first, hfirst, hreadFirst, hcrosses⟩ := Route.exists_make_crosses
  obtain ⟨second, hsecond, hreadSecond, haccepts⟩ := Route.exists_make_accepts
  refine ⟨first, second, hfirst, hsecond, ?_, ?_, haccepts, fun world hroutes => ?_⟩
  · exact List.forall_mem_cons.mpr ⟨hreadFirst, List.forall_mem_singleton.mpr hreadSecond⟩
  · rintro ⟨-, marks, hmatch⟩
    rw [hcrosses.2] at hmatch
    cases hmatch
  · have hbefore : ∀ r ∈ ([] : List Route), r.Passes "GET" "/abb" := fun r hr => (nomatch hr)
    exact run_findRoute_of_crosses hroutes hbefore hcrosses

end RequestRouter
