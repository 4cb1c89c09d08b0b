import RequestRouter.Proofs.World.Handlers
import RequestRouter.Session.Operation

/-!
# Frozen for ever

Operations come in any order, and handlers may register while they are being called. From the first
lookup on, or the first explicit freeze, the router keeps its routes and refuses whatever would be
registered, and the record of freezing has been written once (`Operation.settled_runAll`).

The argument has two halves. The world evolves through every operation (`Operation.evolves_run`), so
it does so through all of a run; and an operation that freezes does this before anything else
(`Operation.exists_freeze_bind`), so whatever it leads to is met by a frozen router.
-/

namespace RequestRouter

theorem Operation.run_of_frozen {world : World} (hfrozen : world.router.frozen = true)
    {operation : Operation} (h : operation.registers = true) :
    operation.run.run world = (.error (.configuration .frozen), world) := by
  cases operation with
  | map methods pattern handler name =>
    exact Action.run_bind_error (run_registerRoute_of_frozen hfrozen)
  | verb word pattern handler name =>
    exact Action.run_bind_error (run_registerRoute_of_frozen hfrozen)
  | decorate made handler => exact Action.run_bind_error (run_registerRoute_of_frozen hfrozen)
  | controller c name => exact Action.run_bind_error (run_registerController_of_frozen hfrozen)
  | decorator | setBase | enter | leave | freeze | lookUp => cases h

/-! ## What freezes -/

/-- What a router that has been frozen with some routes is like for ever. -/
structure World.Settled (all : List Route) (world : World) : Prop where
  frozen : world.router.frozen = true
  routes : world.router.routes = all
  /-- The record of freezing stands in the trace once. -/
  record : world.freezings = [all.length]
  refuses : ∀ operation : Operation, operation.registers = true →
    operation.run.run world = (.error (.configuration .frozen), world)

theorem World.Settled.of_frozen {all : List Route} {world : World}
    (hfrozen : world.router.frozen = true) (hroutes : world.router.routes = all)
    (hrecord : world.freezings = [all.length]) : world.Settled all where
  frozen := hfrozen
  routes := hroutes
  record := hrecord
  refuses _ h := Operation.run_of_frozen hfrozen h

theorem World.Settled.evolves {all : List Route} {world later : World}
    (h : world.Settled all) (hlater : world.Evolves later) : later.Settled all := by
  refine .of_frozen (hlater.frozen h.frozen) ?_ ?_
  · rw [hlater.settled h.frozen, h.routes]
  · rw [hlater.freezings, h.record, h.frozen]
    simp

/-- Either the router freezes now and the record is written, or both happened before. -/
theorem World.settled_frozen {world : World} (h : world.freezings =
    if world.router.frozen then [world.router.routes.length] else []) :
    world.frozen.Settled world.router.routes := by
  cases hfrozen : world.router.frozen with
  | true =>
    rw [hfrozen] at h
    rw [World.frozen_of_frozen hfrozen]
    exact .of_frozen hfrozen rfl h
  | false =>
    rw [hfrozen] at h
    rw [World.frozen_of_open hfrozen]
    refine .of_frozen rfl rfl ?_
    simp only [World.freezings] at h
    simp [World.freezings, h, Event.frozenRoutes?]

namespace Operation

theorem evolves_lookUp {form : LookupForm} {method path : String} :
    Evolves (form.run method path) := by
  cases form with
  | find => exact .bind evolves_findRoute fun _ => .pure _
  | «match» => exact .bind evolves_matchRoute fun _ => .pure _
  | answer => exact .bind evolves_dispatch fun _ => .pure _
  | await => exact .bind evolves_adispatch fun _ => .pure _

theorem evolves_modifyRouter {change : Router → Router}
    (h : ∀ router, (change router).frozen = router.frozen ∧ (change router).routes = router.routes) :
    Evolves (modifyRouter change) := by
  intro world
  obtain ⟨hfrozen, hroutes⟩ := h world.router
  exact .of_same hfrozen hroutes [] (List.append_nil _).symm rfl

/-- The step: whatever the operation is, and whether it fails or not. -/
theorem evolves_run (operation : Operation) : Evolves operation.run := by
  cases operation with
  | map | verb | decorate => exact .bind keeps_registerRoute fun _ => .pure _
  | decorator => exact .bind (.ofExcept _) fun _ => .pure _
  | controller => exact .bind keeps_registerController fun _ => .pure _
  | setBase =>
    refine .bind (evolves_modifyRouter fun _ => ⟨rfl, rfl⟩) fun _ => ?_
    exact .read (fun _ => .pure _) fun _ _ => rfl
  | enter | leave =>
    exact .bind (evolves_modifyRouter fun _ => ⟨rfl, rfl⟩) fun _ => .pure _
  | freeze => exact .bind evolves_freezeRouter fun _ => .pure _
  | lookUp => exact evolves_lookUp

/-- The run, by induction on the operations. -/
theorem evolves_runAll (operations : List Operation) (world : World) :
    world.Evolves (runAll operations world) := by
  induction operations generalizing world with
  | nil => exact .refl world
  | cons operation rest ih => exact (evolves_run operation world).trans (ih _)

theorem runAll_append (front back : List Operation) (world : World) :
    runAll (front ++ back) world = runAll back (runAll front world) := List.foldl_append

/-- Freezing is the first thing that a lookup does. -/
theorem exists_freeze_bind {operation : Operation} (h : operation.freezes = true) :
    ∃ rest : Action Reply, operation.run = (freezeRouter >>= fun _ => rest) ∧ Evolves rest := by
  have hfind : ∀ (method path : String) (f : Nat × Route → Action Reply), (∀ a, Evolves (f a)) →
      ∃ rest : Action Reply, (findRoute method path >>= f) = (freezeRouter >>= fun _ => rest) ∧
        Evolves rest := by
    intro method path f hf
    exact ⟨_, by rw [findRoute_eq, bind_assoc], .bind keeps_findFrozen hf⟩
  cases operation with
  | freeze => exact ⟨pure .nothing, rfl, .pure _⟩
  | lookUp form method path =>
    cases form with
    | find => exact hfind method path _ fun _ => .pure _
    | «match» =>
      simp only [run, LookupForm.run, matchRoute, bind_assoc]
      exact hfind method path _ fun _ => .bind (.ofExcept _) fun _ => .pure _
    | answer =>
      simp only [run, LookupForm.run, dispatch_eq, bind_assoc]
      refine hfind method path _ fun _ => .read (fun _ => ?_) fun _ _ => rfl
      exact .bind (keeps_invoke steady_supply) fun _ => .pure _
    | await =>
      simp only [run, LookupForm.run, adispatch_eq, bind_assoc]
      refine hfind method path _ fun _ => .read (fun _ => ?_) fun _ _ => rfl
      exact .bind (keeps_ainvoke steady_supply) fun _ => .pure _
  | map | verb | decorator | decorate | controller | setBase | enter | leave => cases h

/-- Everything that a lookup does is done in a world whose router is frozen. -/
theorem frozen_evolves {operation : Operation} (h : operation.freezes = true) (world : World) :
    world.frozen.Evolves (operation.run.run world).2 := by
  obtain ⟨rest, hrun, hrest⟩ := exists_freeze_bind h
  rw [hrun, Action.run_bind_ok (run_freezeRouter world)]
  exact hrest world.frozen

/-- Only lookups and the explicit freeze close a router. -/
theorem open_run {operation : Operation} (h : operation.freezes = false) {world : World}
    (hopen : world.router.frozen = false) :
    (operation.run.run world).2.router.frozen = false := by
  have hroute : ∀ methods pattern handler name (f : Route → Reply),
      ((do return f (← registerRoute methods pattern handler name) : Action Reply).run
        world).2.router.frozen = false := by
    intro methods pattern handler name f
    cases hmap : world.router.map methods pattern handler name with
    | error fault =>
      rw [Action.run_bind_error (run_registerRoute_of_error hmap)]
      exact hopen
    | ok result =>
      obtain ⟨route, router⟩ := result
      rw [Action.run_bind_ok (run_registerRoute_of_ok hmap)]
      obtain ⟨-, rfl⟩ := Router.of_map_ok hmap
      exact hopen
  cases operation with
  | map | verb | decorate => exact hroute _ _ _ _ _
  | decorator methods pattern name =>
    simp only [run]
    cases Decorator.make pattern methods name with
    | error fault => exact hopen
    | ok made => exact hopen
  | controller c name =>
    cases hregister : world.router.register c name with
    | error fault =>
      rw [run, Action.run_bind_error (run_registerController_of_error hregister)]
      exact hopen
    | ok router =>
      rw [run, Action.run_bind_ok (run_registerController_of_ok hregister)]
      obtain ⟨-, controllers, rfl⟩ := Router.of_register_ok hregister
      exact hopen
  | setBase | enter | leave => exact hopen
  | freeze | lookUp => cases h

theorem open_runAll {operations : List Operation}
    (h : ∀ operation ∈ operations, operation.freezes = false) {world : World}
    (hopen : world.router.frozen = false) : (runAll operations world).router.frozen = false := by
  induction operations generalizing world with
  | nil => exact hopen
  | cons operation rest ih =>
    obtain ⟨hfirst, hrest⟩ := List.forall_mem_cons.mp h
    exact ih hrest (open_run hfirst hopen)

/-- The record is there exactly if the router is frozen. -/
theorem freezings_runAll {world : World} (hopen : world.router.frozen = false)
    (hsilent : world.freezings = []) (operations : List Operation) :
    (runAll operations world).freezings =
      if (runAll operations world).router.frozen then
        [(runAll operations world).router.routes.length] else [] := by
  rw [(evolves_runAll operations world).freezings, hsilent, hopen]
  simp

/-- For an open router that has not been frozen before, and all operations in any order: until one
of them freezes it, the router stays open and no record is written. The first one that freezes it,
whether it fails or not, settles for ever which routes there are: at every moment from then on, both
between operations and inside of them, the routes are the same, whatever would register something
fails and changes nothing, and the record has been written once. A handler that registers something
while it answers a request fails with the same fault, and the router is as it was. -/
theorem settled_runAll {world : World} (hopen : world.router.frozen = false)
    (hsilent : world.freezings = []) (before : List Operation) {first : Operation}
    (hfirst : first.freezes = true) (after : List Operation) :
    ((∀ operation ∈ before, operation.freezes = false) →
      (runAll before world).router.frozen = false ∧ (runAll before world).freezings = []) ∧
    (runAll before world).frozen.Evolves (runAll (before ++ first :: after) world) ∧
    (∀ moment, (runAll before world).frozen.Evolves moment →
      moment.Settled (runAll before world).router.routes) ∧
    ∀ {asked : World} {method path : String} {f : Function} {receiver : Option Value}
      {arguments : Entries String Value} {reached : World},
      asked.Starts method path f receiver arguments reached →
        ∀ registration rest, f.script = .registerAll (registration :: rest) →
          registration.Known reached → asked.frozen.Evolves reached ∧
            ∃ final, final.router = reached.router ∧
              (adispatch method path).run asked = (.error (.configuration .frozen), final) ∧
              (f.isAsync = false →
                (dispatch method path).run asked = (.error (.configuration .frozen), final)) := by
  have hrecord := freezings_runAll hopen hsilent before
  refine ⟨fun hbefore => ?_, ?_, fun moment hmoment => ?_, fun hstarts registration rest => ?_⟩
  · have hopen := open_runAll hbefore hopen
    rw [hopen] at hrecord
    exact ⟨hopen, hrecord⟩
  · rw [runAll_append]
    exact (frozen_evolves hfirst _).trans (evolves_runAll after _)
  · exact (World.settled_frozen hrecord).evolves hmoment
  · exact fun hscript hknown => ⟨hstarts.evolves, hstarts.dispatch_of_registers hscript hknown⟩

/-- A registration of a handler that registers a route itself. -/
def registersLate : Operation :=
  .verb .get "/a" (.callee (.function
    { number := 0, name := "handler", qualname := "handler", formals := [],
      script := .register "/late" })) none

/-- A request is answered by a handler that comes too late, and so does the operation after it. -/
theorem settled_runAll_registersLate :
    (runAll ([registersLate] ++ lookUp .answer "GET" "/a" :: [registersLate]) {}).Settled
      (runAll [registersLate] {}).router.routes ∧
    (runAll [registersLate] {}).router.routes.length = 1 ∧
    (match ((dispatch "GET" "/a").run (runAll [registersLate] {})).1 with
      | .error (.configuration .frozen) => true
      | _ => false) = true := by
  have hopen : ({} : World).router.frozen = false := rfl
  have hlookup : (lookUp .answer "GET" "/a").freezes = true := rfl
  obtain ⟨-, hlater, hsettled, -⟩ :=
    settled_runAll hopen rfl [registersLate] hlookup [registersLate]
  exact ⟨hsettled _ hlater, by decide +kernel, by decide +kernel⟩

end Operation

end RequestRouter
