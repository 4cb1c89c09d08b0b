import RequestRouter.Proofs.World.Runs

/-!
# Laws of actions

Reading hints, asking services, making instances and calling handlers are all put together from few
kinds of steps. What holds of these steps and is handed on by sequences and handlers of failures
(`Law`) holds of everything that is made of them; `L.Keeps` says that an action, or an action that
carries a state of its own, keeps the law `L`. The rules for choices and loops are the same for all
monads over `Action`, see `Law.Over`. In this way calls keep every law (`keeps_call`).

Two laws say what calls leave alone. No call changes what a class does (`stable`): classes are defined
between requests only. And no call looks at the trace (`untraced`): with something else in front of
it, the outcome is the same and so is what is added.
-/

namespace RequestRouter

/-- The number of routes that a record of freezing tells. -/
def Event.frozenRoutes? : Event → Option Nat
  | .logged (.frozen routes) => some routes
  | _ => none

namespace World

/-- The world with another trace. -/
def withTrace (world : World) (trace : List Event) : World := { world with trace }

/-- A change that is no more than counting: instances that are made, and calls of factories. -/
structure Counts (change : World → World) : Prop where
  counted : ∀ world, ∃ made container, change world = { world with made, container }
  untraced : ∀ world trace, change (world.withTrace trace) = (change world).withTrace trace

end World

/-- A property that all calls have: it holds of their steps, and sequences hand it on. What a step
reads of the world is never its trace. -/
structure Law where
  holds : {α : Type} → Action α → Prop
  holds_pure : ∀ {α : Type} (a : α), holds (pure a)
  holds_bind : ∀ {α β : Type} {x : Action α} {f : α → Action β},
    holds x → (∀ a, holds (f a)) → holds (x >>= f)
  holds_throw : ∀ {α : Type} (fault : Fault), holds (throw fault : Action α)
  holds_tryCatch : ∀ {α : Type} {x : Action α} {handle : Fault → Action α},
    holds x → (∀ fault, holds (handle fault)) → holds (tryCatch x handle)
  holds_read : ∀ {α : Type} {f : World → Action α}, (∀ world, holds (f world)) →
    (∀ world trace, f (world.withTrace trace) = f world) → holds (get >>= f)
  holds_count : ∀ {change : World → World}, World.Counts change → holds (modify change)
  holds_emit : ∀ {event : Event}, event.frozenRoutes? = none → holds (Action.emit event)
  holds_registerRoute : ∀ (methods : Methods) (pattern : String) (handler : Target)
    (name : Option String), holds (registerRoute methods pattern handler name)
  holds_registerController : ∀ (c : Class) (name : Option String), holds (registerController c name)

namespace Law

/-- A monad over `Action`, of whose actions it can be said that they keep a law. -/
class Over (L : Law) (m : Type → Type) [Monad m] where
  holds {α : Type} : m α → Prop
  holds_pure {α : Type} (a : α) : holds (pure a)
  holds_bind {α β : Type} {x : m α} {f : α → m β} :
    holds x → (∀ a, holds (f a)) → holds (x >>= f)

/-- An action keeps a law. -/
def Keeps (L : Law) {m : Type → Type} [Monad m] [L.Over m] {α : Type} (x : m α) : Prop :=
  Over.holds L x

variable {L : Law}

instance : L.Over Action where
  holds := L.holds
  holds_pure := L.holds_pure
  holds_bind := L.holds_bind

instance {σ : Type} {m : Type → Type} [Monad m] [L.Over m] : L.Over (StateT σ m) where
  holds x := ∀ state, L.Keeps (x.run state)
  holds_pure a := fun state => Over.holds_pure (a, state)
  holds_bind hx hf := fun state => Over.holds_bind (hx state) fun (a, after) => hf a after

namespace Keeps

section Rules

variable {m : Type → Type} [Monad m] [L.Over m] {α β γ : Type}

theorem pure (a : α) : L.Keeps (pure a : m α) := Over.holds_pure a

theorem bind {x : m α} {f : α → m β} (hx : L.Keeps x) (hf : ∀ a, L.Keeps (f a)) :
    L.Keeps (x >>= f) := Over.holds_bind hx hf

theorem ite {condition : Prop} [Decidable condition] {x y : m α} (hx : L.Keeps x)
    (hy : L.Keeps y) : L.Keeps (if condition then x else y) := by
  split
  · exact hx
  · exact hy

theorem map [LawfulMonad m] {x : m α} (f : α → β) (hx : L.Keeps x) : L.Keeps (f <$> x) := by
  rw [← bind_pure_comp]
  exact hx.bind fun a => .pure _

theorem mapM [LawfulMonad m] {f : α → m β} (hf : ∀ a, L.Keeps (f a)) (row : List α) :
    L.Keeps (row.mapM f) := by
  induction row with
  | nil => exact .pure _
  | cons a rest ih =>
    rw [List.mapM_cons]
    exact (hf a).bind fun b => ih.bind fun bs => .pure _

theorem forM {f : α → m PUnit} (hf : ∀ a, L.Keeps (f a)) (row : List α) :
    L.Keeps (row.forM f) := by
  induction row with
  | nil => exact .pure _
  | cons a rest ih =>
    exact (hf a).bind fun _ => ih

theorem foldlM {f : β → α → m β} (hf : ∀ b a, L.Keeps (f b a)) (row : List α) (b : β) :
    L.Keeps (row.foldlM f b) := by
  induction row generalizing b with
  | nil => exact .pure _
  | cons a rest ih =>
    rw [List.foldlM_cons]
    exact (hf b a).bind fun c => ih c

theorem allM {f : α → m Bool} (hf : ∀ a, L.Keeps (f a)) (row : List α) : L.Keeps (row.allM f) := by
  induction row with
  | nil => exact .pure _
  | cons a rest ih =>
    unfold List.allM
    refine (hf a).bind fun b => ?_
    cases b with
    | true => exact ih
    | false => exact .pure _

theorem optionMapM [LawfulMonad m] {f : α → m β} (hf : ∀ a, L.Keeps (f a)) (a : Option α) :
    L.Keeps (a.mapM f) := by
  cases a with
  | none => exact .pure _
  | some a => exact map some (hf a)

end Rules

/-! ## Steps of actions -/

variable {α β : Type}

theorem throw (fault : Fault) : L.Keeps (throw fault : Action α) := L.holds_throw fault

theorem read {f : World → Action α} (hf : ∀ world, L.Keeps (f world))
    (huntraced : ∀ world trace, f (world.withTrace trace) = f world) : L.Keeps (get >>= f) :=
  L.holds_read hf huntraced

theorem ofExcept (result : Except Fault α) : L.Keeps (Action.ofExcept result) := by
  cases result with
  | ok a => exact L.holds_pure a
  | error fault => exact L.holds_throw fault

theorem count {change : World → World} (h : World.Counts change) :
    L.Keeps (modify change : Action Unit) := L.holds_count h

theorem emit {event : Event} (h : event.frozenRoutes? = none) : L.Keeps (Action.emit event) :=
  L.holds_emit h

theorem tryCatch {x : Action α} {handle : Fault → Action α} (hx : L.Keeps x)
    (hhandle : ∀ fault, L.Keeps (handle fault)) : L.Keeps (tryCatch x handle) :=
  L.holds_tryCatch hx hhandle

theorem lift {σ : Type} {x : Action α} (hx : L.Keeps x) :
    L.Keeps (liftM x : StateT σ Action α) :=
  fun _ => hx.bind fun _ => .pure _

end Keeps

end Law

/-! ## What calls leave alone -/

/-- What classes do stays as it is. -/
def stable : Law where
  holds x := ∀ world, (x.run world).2.bodies = world.bodies
  holds_pure _ := fun _ => rfl
  holds_bind := by
    intro α β x f hx hf world
    rw [Action.run_bind]
    have hx := hx world
    generalize x.run world = outcome at hx
    obtain ⟨result, after⟩ := outcome
    cases result with
    | ok a => exact (hf a after).trans hx
    | error fault => exact hx
  holds_throw _ := fun _ => rfl
  holds_tryCatch := by
    intro α x handle hx hhandle world
    rw [Action.run_tryCatch]
    have hx := hx world
    generalize x.run world = outcome at hx
    obtain ⟨result, after⟩ := outcome
    cases result with
    | ok a => exact hx
    | error fault => exact (hhandle fault after).trans hx
  holds_read hf _ := fun world => hf world world
  holds_count := by
    intro change h world
    obtain ⟨made, container, hchange⟩ := h.counted world
    show (change world).bodies = _
    rw [hchange]
  holds_emit _ := fun _ => rfl
  holds_registerRoute := by
    intro methods pattern handler name world
    cases hmap : world.router.map methods pattern handler name with
    | error fault => rw [run_registerRoute_of_error hmap]
    | ok result => rw [run_registerRoute_of_ok hmap]
  holds_registerController := by
    intro c name world
    cases hregister : world.router.register c name with
    | error fault => rw [run_registerController_of_error hregister]
    | ok router => rw [run_registerController_of_ok hregister]

namespace World

/-- The world with events in front of its trace. -/
def withFront (world : World) (events : List Event) : World :=
  world.withTrace (events ++ world.trace)

end World

/-- An action does the same whatever stands in front of the trace. -/
def untraced : Law where
  holds x := ∀ world events, x.run (world.withFront events) =
    ((x.run world).1, (x.run world).2.withFront events)
  holds_pure _ := fun _ _ => rfl
  holds_bind := by
    intro α β x f hx hf world events
    rw [Action.run_bind, Action.run_bind, hx world events]
    generalize x.run world = outcome
    obtain ⟨result, after⟩ := outcome
    cases result with
    | ok a => exact hf a after events
    | error fault => rfl
  holds_throw _ := fun _ _ => rfl
  holds_tryCatch := by
    intro α x handle hx hhandle world events
    rw [Action.run_tryCatch, Action.run_tryCatch, hx world events]
    generalize x.run world = outcome
    obtain ⟨result, after⟩ := outcome
    cases result with
    | ok a => rfl
    | error fault => exact hhandle fault after events
  holds_read := by
    intro α f hf huntraced world events
    show (f (world.withFront events)).run (world.withFront events) = _
    rw [World.withFront, huntraced]
    exact hf world world events
  holds_count := by
    intro change h world events
    show (Except.ok (), change (world.withFront events)) =
      (Except.ok (), (change world).withFront events)
    obtain ⟨made, container, hchange⟩ := h.counted world
    rw [World.withFront, h.untraced, World.withFront, hchange]
  holds_emit := by
    intro event _ world events
    show (Except.ok (), { world with trace := events ++ world.trace ++ [event] }) =
      (Except.ok (), { world with trace := events ++ (world.trace ++ [event]) })
    rw [List.append_assoc]
  holds_registerRoute := by
    intro methods pattern handler name world events
    have hrouter : (world.withFront events).router = world.router := rfl
    cases hmap : world.router.map methods pattern handler name with
    | error fault =>
      rw [run_registerRoute_of_error hmap]
      exact run_registerRoute_of_error hmap
    | ok result =>
      obtain ⟨route, router⟩ := result
      rw [run_registerRoute_of_ok hmap, run_registerRoute_of_ok (hrouter ▸ hmap)]
      simp only [World.withFront, World.withTrace, List.append_assoc]
  holds_registerController := by
    intro c name world events
    cases hregister : world.router.register c name with
    | error fault =>
      rw [run_registerController_of_error hregister]
      exact run_registerController_of_error hregister
    | ok router =>
      rw [run_registerController_of_ok hregister]
      exact run_registerController_of_ok hregister

/-! ## Calls keep laws

A call can do much to a world: it makes instances, it runs the script of a handler, and the script
may register routes and controllers. All of it is made of the steps that a law is about. -/

section Calls

variable {L : Law} {c : Class} {name : Option String} {values : List Value}
  {named : Entries String Value}

theorem keeps_registerRoute {methods : Methods} {pattern : String} {handler : Target} :
    L.Keeps (registerRoute methods pattern handler name) :=
  L.holds_registerRoute methods pattern handler name

theorem keeps_registerController : L.Keeps (registerController c name) :=
  L.holds_registerController c name

/-! ### Making instances and values -/

theorem keeps_classNamed {name : String} : L.Keeps (Action.classNamed name) := by
  refine .read (fun world => ?_) fun _ _ => rfl
  split
  · exact .pure _
  · exact .throw _

theorem keeps_bodyOf : L.Keeps (Action.bodyOf c) := .read (fun _ => .pure _) fun _ _ => rfl

theorem keeps_nextSerial : L.Keeps Action.nextSerial := by
  refine .read (fun world => .bind (.count ?_) fun _ => .pure _) fun _ _ => rfl
  exact { counted := fun other => ⟨_, other.container, rfl⟩, untraced := fun _ _ => rfl }

theorem keeps_bindFor {callee : String} {formals : Binding.Formals} {implicit : Nat} :
    L.Keeps (bindFor callee formals implicit values named) := by
  unfold bindFor
  split
  · exact .pure _
  · exact .throw _

theorem keeps_making {arguments : Entries String Value} {making : Making} :
    L.Keeps (making.run c arguments) := by
  cases making with
  | counted state =>
    exact .bind (.ofExcept _) fun _ => .bind keeps_nextSerial fun _ => .pure _
  | keeping fields => exact .bind (.ofExcept _) fun _ => .pure _
  | failing fault => exact .throw _

theorem keeps_construct : L.Keeps (c.construct values named) := by
  unfold Class.construct
  refine .bind keeps_bodyOf fun body => ?_
  split
  · exact .bind (.throw _) fun _ => .bind (.emit rfl) fun _ => .pure _
  · split
    · exact .bind (.pure _) fun _ => .bind (.emit rfl) fun _ => .pure _
    · exact .bind (.throw _) fun _ => .bind (.emit rfl) fun _ => .pure _
  · refine .bind keeps_bindFor fun _ => .bind keeps_making fun _ => ?_
    exact .bind (.emit rfl) fun _ => .pure _

mutual

/-- The values of recipes are made one inside the other, so the proof follows the recipe. -/
theorem keeps_build : (recipe : Recipe) → L.Keeps recipe.build
  | .null | .bool _ | .int _ | .text _ | .bytes _ => .pure _
  | .list items => .bind (keeps_buildAll items) fun _ => .pure _
  | .type _ => .bind keeps_classNamed fun _ => .pure _
  | .new _ arguments =>
    .bind keeps_classNamed fun _ => .bind (keeps_buildAll arguments) fun _ => keeps_construct
  | .response _ body => .bind (keeps_build body) fun _ => .pure _
  | .shape attributes => .bind (keeps_buildEntries attributes) fun _ => .pure _

theorem keeps_buildAll : (recipes : List Recipe) → L.Keeps (Recipe.buildAll recipes)
  | [] => .pure _
  | recipe :: rest => .bind (keeps_build recipe) fun _ => .bind (keeps_buildAll rest) fun _ => .pure _

theorem keeps_buildEntries : (recipes : List (String × Recipe)) →
    L.Keeps (Recipe.buildEntries recipes)
  | [] => .pure _
  | (_, recipe) :: rest =>
    .bind (keeps_build recipe) fun _ => .bind (keeps_buildEntries rest) fun _ => .pure _

end

theorem keeps_failWith {α : Type} {kind : FaultKind} {arguments : List Recipe} :
    L.Keeps (failWith kind arguments : Action α) :=
  .bind (keeps_buildAll arguments) fun _ => .throw _

/-! ### Functions and scripts -/

variable {receiver : Option Value} {arguments : Entries String Value}

theorem keeps_registration {registration : Registration} : L.Keeps registration.run := by
  cases registration with
  | route methods pattern reference name => exact .bind keeps_registerRoute fun _ => .pure _
  | controller handle name =>
    exact .bind keeps_classNamed fun _ => keeps_registerController

theorem keeps_script {script : Script} {name : String} :
    L.Keeps (script.run name receiver arguments) := by
  cases script with
  | echo | deferred _ | suspended _ => exact .pure _
  | give recipe => exact .bind (keeps_build recipe) fun _ => .pure _
  | fail kind recipes => exact keeps_failWith
  | registerAll registrations =>
    exact .bind (.forM (fun _ => keeps_registration) registrations) fun _ => .pure _
  | compute f => exact .bind (.ofExcept _) fun _ => .pure _

theorem keeps_start {f : Function} : L.Keeps (f.start receiver arguments) := by
  unfold Function.start
  split
  · exact .bind (.emit rfl) fun _ => keeps_script
  · exact keeps_script

theorem keeps_callFunction {f : Function} : L.Keeps (f.call receiver values named) := by
  refine .bind keeps_bindFor fun arguments => ?_
  split
  · exact .pure _
  · exact keeps_start

theorem keeps_call {callee : Callee} : L.Keeps (callee.call values named) := by
  unfold Callee.call
  split
  · exact keeps_callFunction
  · exact keeps_callFunction
  · exact keeps_callFunction
  · exact .bind keeps_construct fun _ => .pure _
  · exact .bind keeps_construct fun _ => .pure _
  · exact .throw _

theorem keeps_await {returned : Returned} : L.Keeps returned.await := by
  unfold Returned.await
  split
  · exact .pure _
  · exact .bind (keeps_build _) fun _ => .pure _
  · exact .bind (keeps_build _) fun _ => .pure _
  · exact keeps_start

end Calls

end RequestRouter
