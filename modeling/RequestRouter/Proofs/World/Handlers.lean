import RequestRouter.Dispatch.Router
import RequestRouter.Proofs.World.Evolution
import RequestRouter.Proofs.World.Hints

/-!
# Lookups let the router evolve

A lookup freezes the router and then asks its routes. Preparing and calling the handler may ask
services, make a controller and read hints; all of this is made of calls, so that the router that the
lookup has frozen keeps its routes whatever the handler does. If the handler tries to register
something, its request fails (`World.Starts.dispatch_of_registers`).
-/

namespace RequestRouter

variable {L : Law}

/-! ## Services -/

theorem keeps_factory {factory : Factory} {key : ServiceKey} : L.Keeps (factory.run key) := by
  have hcounts : World.Counts fun world =>
      { world with container := world.container.afterCall key factory } :=
    { counted := fun world => ⟨world.made, _, rfl⟩, untraced := fun _ _ => rfl }
  have hcounted : ∀ value : Value, L.Keeps (do
      modify fun world => { world with container := world.container.afterCall key factory }
      return value : Action Value) :=
    fun value => .bind (.count hcounts) fun _ => .pure _
  cases factory with
  | make recipe => exact .bind (keeps_build recipe) hcounted
  | instantiate name =>
    exact .bind keeps_classNamed fun _ => .bind keeps_construct hcounted
  | counter count => exact .bind (.pure _) hcounted
  | fail kind arguments => exact .bind keeps_failWith hcounted

theorem keeps_containerGet {key : ServiceKey} : L.Keeps (Container.get key) := by
  refine .read (fun world => ?_) fun _ _ => rfl
  split
  · exact .pure _
  · exact keeps_factory
  · exact .throw _

namespace Lookup

/-- Whatever a lookup is asked keeps a law. -/
structure Steady (L : Law) (lookup : Lookup) : Prop where
  has : ∀ key, L.Keeps (lookup.has key)
  get : ∀ key, L.Keeps (lookup.get key)

theorem steady_container : container.Steady L where
  has _ := .read (fun _ => .pure _) fun _ _ => rfl
  get _ := keeps_containerGet

theorem steady_table (values : Entries String Value) : (table values).Steady L where
  has _ := .pure _
  get key := by
    unfold table
    dsimp only
    split
    · exact .pure _
    · exact .throw _

theorem Steady.recorded {lookup : Lookup} (h : lookup.Steady L) : lookup.recorded.Steady L where
  has _ := .bind (.emit rfl) fun _ => h.has _
  get _ := .bind (.emit rfl) fun _ => h.get _

end Lookup

theorem Supply.steady_lookup (supply : Supply) : supply.lookup.Steady L := by
  cases supply with
  | container => exact Lookup.steady_container
  | recording values => exact (Lookup.steady_table values).recorded

/-! ## Arguments -/

theorem keeps_formal {formal : Formal Class Value} : L.Keeps formal.evaluate := by
  unfold Formal.evaluate
  split
  · exact .bind Hint.keeps_hintOf fun _ => .pure _
  · exact .pure _

theorem keeps_slotsOf {formals : List (Formal Class Value)} : L.Keeps (slotsOf formals) := by
  have hformals : L.Keeps (formals.mapM Formal.evaluate) := .mapM (fun _ => keeps_formal) formals
  exact .bind (hformals []) fun _ => .pure _

theorem keeps_formals {callee : Callee} : L.Keeps callee.formals := by
  unfold Callee.formals
  split
  · exact .pure _
  · exact .pure _
  · exact .pure _
  · exact .bind keeps_bodyOf fun _ => .pure _
  · exact .bind keeps_bodyOf fun _ => .pure _
  · exact .throw _

theorem keeps_slots {callee : Callee} : L.Keeps callee.slots :=
  .bind keeps_formals fun _ => keeps_slotsOf

theorem keeps_convert {name : String} {target : Class} {raw : String} :
    L.Keeps (convert name target raw) :=
  .tryCatch keeps_construct fun _ => .ite (.throw _) (.throw _)

theorem keeps_testInstance {v : Value} {c : Class} : L.Keeps (v.testInstance c) := by
  unfold Value.testInstance
  split
  · exact .pure _
  · exact .throw _

section Resolution

variable {lookup : Option Lookup} (hlookup : ∀ found ∈ lookup, found.Steady L)

theorem keeps_service {found : Lookup} (h : found.Steady L) {name : String} {target : Class} :
    L.Keeps (found.service name target) := by
  have hkey : L.Keeps (found.keyFor name target) :=
    .bind (h.has _) fun _ => .ite (.pure _) <| .bind (h.has _) fun _ => .ite (.pure _) (.pure _)
  refine .bind hkey fun key => ?_
  split
  · exact .pure _
  · refine .bind (h.get _) fun value => .ite (.pure _) ?_
    refine .bind keeps_testInstance fun _ => .ite (.pure _) ?_
    exact .bind (.emit rfl) fun _ => .pure _

include hlookup

theorem keeps_fallback {slot : Slot} : L.Keeps (slot.fallback lookup) := by
  unfold Slot.fallback
  split
  · refine .bind (keeps_service (hlookup _ rfl)) fun value => ?_
    dsimp only
    split
    · exact .pure _
    · exact .pure _
  · refine .bind (.pure _) fun value => ?_
    dsimp only
    split
    · exact .pure _
    · exact .pure _

theorem keeps_resolve {slot : Slot} {values : Entries String String} :
    L.Keeps (slot.resolve lookup values) := by
  unfold Slot.resolve
  split
  · exact keeps_fallback hlookup
  · split
    · exact .pure _
    · exact keeps_convert

theorem keeps_resolveFrom {values : Entries String String} (slots : List Slot)
    {arguments : Arguments} : L.Keeps (resolveFrom lookup values arguments slots) := by
  induction slots generalizing arguments with
  | nil => exact .pure _
  | cons slot rest ih => exact .bind (keeps_resolve hlookup) fun _ => ih

/-! ## Handlers -/

omit hlookup in
theorem keeps_registryResolve {registry : Registry} {typeName methodName : String} :
    L.Keeps (registry.resolve typeName methodName) := by
  unfold Registry.resolve
  split
  · exact .bind (.emit rfl) fun _ => .throw _
  · refine .bind (.bind keeps_bodyOf fun body => ?_) fun _ => .ite (.pure _) (.throw _)
    split
    · exact .pure _
    · exact .pure _

omit hlookup in
theorem keeps_attributeOf {c : Class} {controller : Value} {name : String} :
    L.Keeps (c.attributeOf controller name) := by
  refine .bind keeps_bodyOf fun body => ?_
  split
  · exact .pure _
  · exact .throw _

theorem keeps_constructFrom {c : Class} : L.Keeps (c.constructFrom lookup) := by
  refine .bind keeps_slots fun slots => ?_
  exact .bind (keeps_resolveFrom hlookup slots) fun _ => keeps_construct

theorem keeps_locate {ref : HandlerRef} {registry : Option Registry} :
    L.Keeps (ref.locate lookup registry) := by
  unfold HandlerRef.locate
  split
  · exact .pure _
  · split
    · exact .throw _
    · refine .bind keeps_registryResolve fun c => ?_
      exact .bind (keeps_constructFrom hlookup) fun _ => keeps_attributeOf

theorem keeps_handlerPrepare {ref : HandlerRef} {values : Entries String String}
    {registry : Option Registry} : L.Keeps (ref.prepare values lookup registry) := by
  refine .bind (keeps_locate hlookup) fun target => .bind keeps_slots fun slots => ?_
  exact .bind (keeps_resolveFrom hlookup slots) fun _ => .pure _

variable {route : Route} {method path : String} {registry : Option Registry}

theorem keeps_routePrepare : L.Keeps (route.prepare method path lookup registry) := by
  refine .bind (.ofExcept _) fun values => .bind (.emit rfl) fun _ => ?_
  exact keeps_handlerPrepare hlookup

omit hlookup in
theorem keeps_checkResponse {handler : HandlerRef} {answer : Returned} :
    L.Keeps (checkResponse handler answer) := .ite (.pure _) (.throw _)

theorem keeps_invoke : L.Keeps (route.invoke method path lookup registry) := by
  refine .bind (keeps_routePrepare hlookup) fun prepared => ?_
  exact .bind keeps_call fun _ => keeps_checkResponse

theorem keeps_ainvoke : L.Keeps (route.ainvoke method path lookup registry) := by
  refine .bind (keeps_routePrepare hlookup) fun prepared => .bind keeps_call fun answer => ?_
  split
  · exact .bind keeps_await fun _ => keeps_checkResponse
  · exact .bind (.pure _) fun _ => keeps_checkResponse

end Resolution

/-! ## Lookups -/

/-- The world right after its router was frozen; the first time, this is recorded. -/
def World.frozen (world : World) : World :=
  if world.router.frozen then world
  else { world with
    router := world.router.freeze,
    trace := world.trace ++ [.logged (.frozen world.router.routes.length)] }

theorem World.frozen_of_open {world : World} (h : world.router.frozen = false) : world.frozen =
    { world with
      router := world.router.freeze,
      trace := world.trace ++ [.logged (.frozen world.router.routes.length)] } := by
  rw [frozen, h]
  rfl

theorem World.frozen_of_frozen {world : World} (h : world.router.frozen = true) :
    world.frozen = world := if_pos h

theorem World.frozen_frozen (world : World) : world.frozen.router.frozen = true := by
  cases h : world.router.frozen with
  | true => rwa [frozen_of_frozen h]
  | false => rw [frozen_of_open h, Router.freeze]

theorem run_freezeRouter (world : World) : freezeRouter.run world = (.ok (), world.frozen) := by
  rw [freezeRouter, Action.run_bind_ok Action.run_get, World.frozen]
  dsimp only
  cases world.router.frozen with
  | true => rfl
  | false => rfl

/-- This is where the record of freezing is written, and only by a router that was open. -/
theorem evolves_freezeRouter : Evolves freezeRouter := by
  apply Evolves.of_run
  intro world
  rw [run_freezeRouter]
  cases hfrozen : world.router.frozen with
  | true =>
    rw [World.frozen_of_frozen hfrozen]
    exact .refl world
  | false =>
    rw [World.frozen_of_open hfrozen]
    exact
      { frozen := fun _ => rfl
        routes := List.prefix_refl _
        settled := fun _ => rfl
        trace := List.prefix_append _ _
        freezings := by
          simp [World.freezings, hfrozen, Event.frozenRoutes?, Router.freeze] }

variable {method path : String}

/-- What finding a route does once the router is frozen. -/
def findFrozen (method path : String) : Action (Nat × Route) := do
  match ← Action.ofExcept ((← get).router.first? method path) with
  | some found => return found
  | none =>
    Action.log (.unmatched method path)
    throw (.noRoute method path)

theorem findRoute_eq : findRoute method path = freezeRouter >>= fun _ => findFrozen method path :=
  rfl

theorem keeps_findFrozen : L.Keeps (findFrozen method path) := by
  refine .read (fun world => .bind (.ofExcept _) fun found => ?_) fun _ _ => rfl
  split
  · exact .pure _
  · exact .bind (.emit rfl) fun _ => .throw _

theorem evolves_findRoute : Evolves (findRoute method path) :=
  .bind evolves_freezeRouter fun _ => keeps_findFrozen

theorem evolves_matchRoute : Evolves (matchRoute method path) :=
  .bind evolves_findRoute fun _ => .bind (.ofExcept _) fun _ => .pure _

/-- The services of a router are looked up in the world. -/
theorem steady_supply {supply : Option Supply} :
    ∀ found ∈ supply.map Supply.lookup, found.Steady L := by
  intro found hfound
  obtain ⟨supply, -, rfl⟩ := Option.map_eq_some_iff.mp hfound
  exact supply.steady_lookup

/-- The services and the controllers are those of the world that the lookup has left. -/
theorem dispatch_eq : dispatch method path = findRoute method path >>= fun found => get >>=
    fun world => found.2.invoke method path (world.router.supply.map Supply.lookup)
      world.router.controllers := by
  refine bind_congr fun found => ?_
  funext world
  rfl

theorem adispatch_eq : adispatch method path = findRoute method path >>= fun found => get >>=
    fun world => found.2.ainvoke method path (world.router.supply.map Supply.lookup)
      world.router.controllers := by
  refine bind_congr fun found => ?_
  funext world
  rfl

theorem evolves_dispatch : Evolves (dispatch method path) := by
  rw [dispatch_eq]
  refine .bind evolves_findRoute fun found => .read (fun world => ?_) fun _ _ => rfl
  exact keeps_invoke steady_supply

theorem evolves_adispatch : Evolves (adispatch method path) := by
  rw [adispatch_eq]
  refine .bind evolves_findRoute fun found => .read (fun world => ?_) fun _ _ => rfl
  exact keeps_ainvoke steady_supply

/-! ## Handlers that register

The body of a handler may register routes and controllers, and it is run by a lookup. A lookup
freezes the router before anything else, so whatever a body registers is refused, and the request
that it answers fails. -/

/-! ### Frozen routers refuse registrations -/

section Frozen

variable {world : World} (hfrozen : world.router.frozen = true)

include hfrozen

theorem run_registerRoute_of_frozen {methods : Methods} {pattern : String} {handler : Target}
    {name : Option String} : (registerRoute methods pattern handler name).run world =
      (.error (.configuration .frozen), world) :=
  run_registerRoute_of_error (Router.map_of_frozen hfrozen)

theorem run_registerController_of_frozen {c : Class} {name : Option String} :
    (registerController c name).run world = (.error (.configuration .frozen), world) :=
  run_registerController_of_error (Router.register_of_frozen hfrozen c)

end Frozen

/-- The world knows the class that a registration names, if it names one. -/
def Registration.Known (world : World) : Registration → Prop
  | .route .. => True
  | .controller handle _ => (world.scope.get? handle).isSome = true

theorem Registration.run_of_frozen {world : World} (hfrozen : world.router.frozen = true)
    {registration : Registration} (hknown : registration.Known world) :
    registration.run.run world = (.error (.configuration .frozen), world) := by
  cases registration with
  | route methods pattern reference name =>
    exact Action.run_bind_error (run_registerRoute_of_frozen hfrozen)
  | controller handle name =>
    obtain ⟨c, hc⟩ := Option.isSome_iff_exists.mp hknown
    have hnamed : (Action.classNamed handle).run world = (.ok c, world) := by
      rw [Action.classNamed, Action.run_bind_ok Action.run_get, hc]
      rfl
    rw [Registration.run, Action.run_bind_ok hnamed]
    exact run_registerController_of_frozen hfrozen

/-- A body that registers something fails at its first registration, and nothing has happened but its
start. -/
theorem Function.start_of_frozen {world : World} (hfrozen : world.router.frozen = true)
    {f : Function} {first : Registration} {rest : List Registration}
    (hscript : f.script = .registerAll (first :: rest)) (hknown : first.Known world)
    (receiver : Option Value) (arguments : Entries String Value) :
    ∃ after, (f.start receiver arguments).run world = (.error (.configuration .frozen), after) ∧
      after.router = world.router := by
  have hbody : ∀ world : World, world.router.frozen = true → first.Known world →
      (f.script.run f.name receiver arguments).run world =
        (.error (.configuration .frozen), world) := by
    intro world hfrozen hknown
    rw [hscript]
    refine Action.run_bind_error ?_
    exact Action.run_bind_error (Registration.run_of_frozen hfrozen hknown)
  unfold Function.start
  split
  · let event := Event.started ⟨f.name, arguments, receiver.map Value.keeps⟩
    have hstarted : first.Known { world with trace := world.trace ++ [event] } := by
      cases first with
      | route => trivial
      | controller => exact hknown
    exact ⟨{ world with trace := world.trace ++ [event] }, hbody _ hfrozen hstarted, rfl⟩
  · exact ⟨world, hbody world hfrozen hknown, rfl⟩

/-! ### Bodies of handlers -/

/-- The function that a callee calls, with the receiver. -/
def Callee.function? : Callee → Option (Function × Option Value)
  | .function f | .object _ f => some (f, none)
  | .method f receiver => some (f, some receiver)
  | _ => none

theorem Callee.call_of_function {callee : Callee} {f : Function} {receiver : Option Value}
    (h : callee.function? = some (f, receiver)) (values : List Value)
    (named : Entries String Value) : callee.call values named = f.call receiver values named := by
  cases callee with
  | function g | object label g | method g v =>
    cases h
    rfl
  | type c => cases h
  | value v => cases h

/-- A request has found its route, the call of the handler is prepared, and its arguments are bound:
what comes next is the body of the function, in the world that has been reached. -/
structure World.Starts (world : World) (method path : String) (f : Function)
    (receiver : Option Value) (arguments : Entries String Value) (reached : World) : Prop where
  exists_prepared : ∃ place route found prepared,
    (findRoute method path).run world = (.ok (place, route), found) ∧
    (route.prepare method path (found.router.supply.map Supply.lookup)
      found.router.controllers).run found = (.ok prepared, reached) ∧
    prepared.target.function? = some (f, receiver) ∧
    Binding.bind f.formals (if receiver.isSome then 1 else 0) prepared.arguments.positional
      prepared.arguments.named = .ok arguments

namespace World.Starts

variable {world reached : World} {method path : String} {f : Function} {receiver : Option Value}
  {arguments : Entries String Value}

/-- Nothing that leads to the body is done before the router is frozen. -/
theorem evolves (h : world.Starts method path f receiver arguments reached) :
    world.frozen.Evolves reached := by
  obtain ⟨place, route, found, prepared, hfound, hprepared, -, -⟩ := h.exists_prepared
  have hfind : world.frozen.Evolves found := by
    have hrest : RequestRouter.Evolves (findFrozen method path) := keeps_findFrozen
    have hrest := hrest world.frozen
    rw [findRoute_eq, Action.run_bind_ok (run_freezeRouter world)] at hfound
    rw [hfound] at hrest
    exact hrest
  have hprepare : RequestRouter.Evolves (route.prepare method path
      (found.router.supply.map Supply.lookup) found.router.controllers) :=
    keeps_routePrepare steady_supply
  have hprepare := hprepare found
  rw [hprepared] at hprepare
  exact hfind.trans hprepare

/-- The outcome of a body that fails is the outcome of the request, awaited or not. -/
theorem dispatch_of_error (h : world.Starts method path f receiver arguments reached)
    {fault : Fault} {final : World} (hbody : (f.start receiver arguments).run reached =
      (.error fault, final)) :
    (adispatch method path).run world = (.error fault, final) ∧
      (f.isAsync = false → (dispatch method path).run world = (.error fault, final)) := by
  obtain ⟨place, route, found, prepared, hfound, hprepared, hfunction, hbind⟩ := h.exists_prepared
  have hbound : (bindFor f.qualname f.formals (if receiver.isSome then 1 else 0)
      prepared.arguments.positional prepared.arguments.named).run reached =
        (.ok arguments, reached) := by
    rw [bindFor, hbind]
    rfl
  have hcall : (prepared.call).run reached =
      if f.isAsync then (.ok (.suspended (.body f receiver arguments)), reached)
      else (.error fault, final) := by
    rw [Prepared.call, Callee.call_of_function hfunction, Function.call]
    rw [Action.run_bind_ok hbound]
    cases f.isAsync with
    | true => rfl
    | false => exact hbody
  refine ⟨?_, fun hsync => ?_⟩
  · rw [adispatch_eq, Action.run_bind_ok hfound, Action.run_bind_ok Action.run_get]
    rw [Route.ainvoke, Action.run_bind_ok hprepared]
    cases hasync : f.isAsync with
    | true =>
      rw [hasync] at hcall
      rw [Action.run_bind_ok hcall]
      exact Action.run_bind_error hbody
    | false =>
      rw [hasync] at hcall
      exact Action.run_bind_error hcall
  · rw [hsync] at hcall
    rw [dispatch_eq, Action.run_bind_ok hfound, Action.run_bind_ok Action.run_get]
    rw [Route.invoke, Action.run_bind_ok hprepared]
    exact Action.run_bind_error hcall

/-- A handler that registers something fails, and the router is as its body found it. -/
theorem dispatch_of_registers (h : world.Starts method path f receiver arguments reached)
    {registration : Registration} {rest : List Registration}
    (hscript : f.script = .registerAll (registration :: rest))
    (hknown : registration.Known reached) :
    ∃ final, final.router = reached.router ∧
      (adispatch method path).run world = (.error (.configuration .frozen), final) ∧
      (f.isAsync = false →
        (dispatch method path).run world = (.error (.configuration .frozen), final)) := by
  have hfrozen := h.evolves.frozen world.frozen_frozen
  obtain ⟨final, hbody, hrouter⟩ :=
    Function.start_of_frozen hfrozen hscript hknown receiver arguments
  exact ⟨final, hrouter, h.dispatch_of_error hbody⟩

end World.Starts

end RequestRouter
