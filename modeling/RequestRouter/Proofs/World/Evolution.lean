import RequestRouter.Proofs.World.Laws

/-!
# How the router of a world evolves

Whatever is done in a world, its router only moves on: routes are added behind those that are there,
and once the router is frozen it stays so, with the routes that it has. The record of freezing is
written when the router freezes and at no other time. `World.Evolves` states this of two worlds, and
`Evolves` of an action and the worlds before and after it, whether it fails or not. It is a law of
actions (`evolution`).
-/

namespace RequestRouter

namespace World

/-- The numbers of routes that the records of freezing tell, in order. -/
def freezings (world : World) : List Nat := world.trace.filterMap Event.frozenRoutes?

/-- One world comes after another one: its router has moved on, and nothing was taken from the
trace. -/
structure Evolves (before after : World) : Prop where
  frozen : before.router.frozen = true → after.router.frozen = true
  routes : before.router.routes <+: after.router.routes
  settled : before.router.frozen = true → after.router.routes = before.router.routes
  trace : before.trace <+: after.trace
  /-- The record is written exactly if the router freezes on the way. -/
  freezings : after.freezings = before.freezings ++
    if before.router.frozen = false ∧ after.router.frozen = true then
      [after.router.routes.length] else []

namespace Evolves

variable {first second third : World}

theorem refl (world : World) : world.Evolves world where
  frozen := id
  routes := List.prefix_refl _
  settled _ := rfl
  trace := List.prefix_refl _
  freezings := by
    cases world.router.frozen <;> simp

theorem trans (h : first.Evolves second) (h' : second.Evolves third) : first.Evolves third where
  frozen hfrozen := h'.frozen (h.frozen hfrozen)
  routes := h.routes.trans h'.routes
  settled hfrozen := by
    rw [h'.settled (h.frozen hfrozen), h.settled hfrozen]
  trace := h.trace.trans h'.trace
  freezings := by
    rw [h'.freezings, h.freezings, List.append_assoc]
    -- the router froze before the second world, after it, or not at all
    cases hfirst : first.router.frozen with
    | true =>
      simp [h.frozen hfirst]
    | false =>
      cases hsecond : second.router.frozen with
      | true => simp [h'.frozen hsecond, h'.settled hsecond]
      | false => simp

/-- A world whose router has the same routes and is frozen if the other is, and whose trace goes on
without a record of freezing. -/
theorem of_same (hfrozen : second.router.frozen = first.router.frozen)
    (hroutes : second.router.routes = first.router.routes) (events : List Event)
    (htrace : second.trace = first.trace ++ events)
    (hquiet : events.filterMap Event.frozenRoutes? = []) : first.Evolves second where
  frozen h := hfrozen.trans h
  routes := by
    simpa only [hroutes] using List.prefix_refl first.router.routes
  settled _ := hroutes
  trace := by
    rw [htrace]
    exact List.prefix_append _ _
  freezings := by
    have hsame : ¬ (first.router.frozen = false ∧ second.router.frozen = true) := by
      rw [hfrozen]
      simp
    rw [if_neg hsame, World.freezings, htrace, List.filterMap_append, hquiet]
    rfl

end Evolves

end World

/-! ## Actions -/

/-- A route is only added to an open router, and behind the routes that are there. -/
theorem World.evolves_registerRoute (methods : Methods) (pattern : String) (handler : Target)
    (name : Option String) (world : World) :
    world.Evolves ((registerRoute methods pattern handler name).run world).2 := by
  cases hmap : world.router.map methods pattern handler name with
  | error fault =>
    rw [run_registerRoute_of_error hmap]
    exact .refl world
  | ok result =>
    obtain ⟨route, router⟩ := result
    obtain ⟨hopen, rfl⟩ := Router.of_map_ok hmap
    rw [run_registerRoute_of_ok hmap]
    exact
      { frozen := id
        routes := List.prefix_append _ _
        settled := fun hfrozen => by
          rw [hopen] at hfrozen
          cases hfrozen
        trace := List.prefix_append _ _
        freezings := by
          simp [World.freezings, hopen, Event.frozenRoutes?, Route.registered] }

theorem World.evolves_registerController (c : Class) (name : Option String) (world : World) :
    world.Evolves ((registerController c name).run world).2 := by
  cases hregister : world.router.register c name with
  | error fault =>
    rw [run_registerController_of_error hregister]
    exact .refl world
  | ok router =>
    obtain ⟨-, controllers, rfl⟩ := Router.of_register_ok hregister
    rw [run_registerController_of_ok hregister]
    exact .of_same rfl rfl [] (List.append_nil _).symm rfl

/-- The world evolves through an action, whether it fails or not. -/
def evolution : Law where
  holds x := ∀ world : World, world.Evolves (x.run world).2
  holds_pure _ := fun world => .refl world
  holds_bind := by
    intro α β x f hx hf world
    rw [Action.run_bind]
    have hx := hx world
    generalize x.run world = outcome at hx
    obtain ⟨result, after⟩ := outcome
    cases result with
    | ok a => exact hx.trans (hf a after)
    | error fault => exact hx
  holds_throw _ := fun world => .refl world
  holds_tryCatch := by
    intro α x handle hx hhandle world
    rw [Action.run_tryCatch]
    have hx := hx world
    generalize x.run world = outcome at hx
    obtain ⟨result, after⟩ := outcome
    cases result with
    | ok a => exact hx
    | error fault => exact hx.trans (hhandle fault after)
  holds_read hf _ := fun world => hf world world
  holds_count := by
    intro change h world
    obtain ⟨made, container, hchange⟩ := h.counted world
    show world.Evolves (change world)
    rw [hchange]
    exact .of_same rfl rfl [] (List.append_nil _).symm rfl
  holds_emit := fun {event} h _ => .of_same rfl rfl [event] rfl (by simp [h])
  holds_registerRoute := World.evolves_registerRoute
  holds_registerController := World.evolves_registerController

/-- The world evolves through an action. -/
abbrev Evolves {α : Type} (x : Action α) : Prop := evolution.Keeps x

theorem Evolves.of_run {α : Type} {x : Action α}
    (h : ∀ world : World, world.Evolves (x.run world).2) : Evolves x := h

theorem Evolves.run {α : Type} {x : Action α} (h : Evolves x) (world : World) :
    world.Evolves (x.run world).2 := h world

end RequestRouter
