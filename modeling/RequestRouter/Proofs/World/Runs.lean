import RequestRouter.Call.Run

/-!
# Running actions step by step

A sequence runs its first action and goes on from the world behind it, or ends there if the action
fails (`Action.run_bind`). Registering a route is one such sequence, and it is the router that
decides how it ends.
-/

namespace RequestRouter

/-- What a class does. -/
def World.bodyOf (world : World) (c : Class) : ClassBody :=
  (world.bodies.get? c.number).getD .empty

namespace Action

variable {α β : Type} {world after : World}

theorem run_bodyOf (c : Class) : (bodyOf c).run world = (.ok (world.bodyOf c), world) := rfl

theorem run_bind {x : Action α} {f : α → Action β} : (x >>= f).run world =
    match x.run world with
    | (.ok a, after) => (f a).run after
    | (.error fault, after) => (.error fault, after) := by
  show (x >>= f) world = _
  simp only [bind, ExceptT.bind, ExceptT.mk, StateT.bind, ExceptT.run]
  generalize x world = outcome
  obtain ⟨_ | _, after⟩ := outcome <;> rfl

theorem run_bind_ok {x : Action α} {f : α → Action β} {a : α}
    (h : x.run world = (.ok a, after)) : (x >>= f).run world = (f a).run after := by
  rw [run_bind, h]

theorem run_bind_error {x : Action α} {f : α → Action β} {fault : Fault}
    (h : x.run world = (.error fault, after)) :
    (x >>= f).run world = (.error fault, after) := by
  rw [run_bind, h]

/-- A failure is handled in the world behind it. -/
theorem run_tryCatch {x : Action α} {f : Fault → Action α} : (tryCatch x f).run world =
    match x.run world with
    | (.ok a, after) => (.ok a, after)
    | (.error fault, after) => (f fault).run after := by
  show (tryCatch x f) world = _
  simp only [tryCatch, tryCatchThe, MonadExceptOf.tryCatch, ExceptT.tryCatch, ExceptT.mk, bind,
    StateT.bind, ExceptT.run]
  generalize x world = outcome
  obtain ⟨_ | _, after⟩ := outcome <;> rfl

theorem run_get : (get : Action World).run world = (.ok world, world) := rfl

theorem run_ofExcept {result outcome : Except Fault α} (h : result = outcome) :
    (ofExcept result).run world = (outcome, world) := by
  rw [← h]
  rfl

/-- A sequence that succeeds has run both of its parts. -/
theorem run_bind_eq_ok {x : Action α} {f : α → Action β} {b : β} {final : World}
    (h : (x >>= f).run world = (.ok b, final)) :
    ∃ a after, x.run world = (.ok a, after) ∧ (f a).run after = (.ok b, final) := by
  rw [run_bind] at h
  cases hx : x.run world with
  | mk result after =>
    rw [hx] at h
    cases result with
    | ok a => exact ⟨a, after, rfl, h⟩
    | error fault => cases h

/-- An attempt goes on from a failure, in the world behind it. -/
theorem run_attempt {x : Action α} {outcome : Except Fault α} (h : x.run world = (outcome, after)) :
    (attempt x).run world = (.ok outcome, after) := by
  have hrun : (attempt x).run world = (.ok (x.run world).1, (x.run world).2) := rfl
  rw [hrun, h]

end Action

/-! ## Registrations -/

section Registrations

variable {world : World} {methods : Methods} {pattern : String} {handler : Target}
  {name : Option String}

/-- The record of a registered route. -/
def Route.registered (route : Route) : LogRecord :=
  .registered (route.methodsText ",") route.pattern route.handler.displayName route.expression

theorem run_registerRoute_of_error {fault : Fault}
    (h : world.router.map methods pattern handler name = .error fault) :
    (registerRoute methods pattern handler name).run world = (.error fault, world) := by
  rw [registerRoute, Action.run_bind_ok Action.run_get]
  exact Action.run_bind_error (Action.run_ofExcept h)

theorem run_registerRoute_of_ok {route : Route} {router : Router}
    (h : world.router.map methods pattern handler name = .ok (route, router)) :
    (registerRoute methods pattern handler name).run world =
      (.ok route, { world with router, trace := world.trace ++ [.logged route.registered] }) := by
  rw [registerRoute, Action.run_bind_ok Action.run_get,
    Action.run_bind_ok (Action.run_ofExcept h)]
  rfl

variable {c : Class}

theorem run_registerController_of_error {fault : Fault}
    (h : world.router.register c name = .error fault) :
    (registerController c name).run world = (.error fault, world) := by
  rw [registerController, Action.run_bind_ok Action.run_get]
  exact Action.run_bind_error (Action.run_ofExcept h)

theorem run_registerController_of_ok {router : Router}
    (h : world.router.register c name = .ok router) :
    (registerController c name).run world = (.ok (), { world with router }) := by
  rw [registerController, Action.run_bind_ok Action.run_get,
    Action.run_bind_ok (Action.run_ofExcept h)]
  rfl

end Registrations

namespace Router

variable {router after : Router} {methods : Methods} {pattern : String} {handler : Target}
  {name : Option String}

theorem map_of_frozen (h : router.frozen = true) :
    router.map methods pattern handler name = .error (.configuration .frozen) := by
  rw [map, checkOpen, if_pos h]
  rfl

theorem register_of_frozen (h : router.frozen = true) (c : Class) :
    router.register c name = .error (.configuration .frozen) := by
  rw [register, checkOpen, if_pos h]
  rfl

/-- A registered route stands behind the others, and nothing else has changed. -/
theorem of_map_ok {route : Route} (h : router.map methods pattern handler name = .ok (route, after)) :
    router.frozen = false ∧ after = { router with routes := router.routes ++ [route] } := by
  cases hfrozen : router.frozen with
  | true =>
    rw [map_of_frozen hfrozen] at h
    cases h
  | false =>
    refine ⟨rfl, ?_⟩
    rw [map, checkOpen, hfrozen] at h
    cases hmethods : methods.check with
    | error fault =>
      rw [hmethods] at h
      cases h
    | ok all =>
      rw [hmethods] at h
      cases hmake : Route.make (router.plan all pattern handler name) with
      | error fault =>
        simp only [bind, Except.bind, hmake, Bool.false_eq_true, if_false] at h
        cases h
      | ok made =>
        simp only [bind, Except.bind, hmake, Bool.false_eq_true, if_false] at h
        cases h
        rfl

/-- A registered controller changes the registry of an open router and nothing else. -/
theorem of_register_ok {c : Class} (h : router.register c name = .ok after) :
    router.frozen = false ∧ ∃ controllers, after = { router with controllers } := by
  cases hfrozen : router.frozen with
  | true =>
    rw [register_of_frozen hfrozen] at h
    cases h
  | false =>
    refine ⟨rfl, ?_⟩
    rw [register, checkOpen, hfrozen] at h
    cases hregister : router.controllers.register c name with
    | error fault =>
      simp only [bind, Except.bind, hregister, Bool.false_eq_true, if_false] at h
      cases h
    | ok controllers =>
      simp only [bind, Except.bind, hregister, Bool.false_eq_true, if_false] at h
      cases h
      exact ⟨controllers, rfl⟩

end Router

end RequestRouter
