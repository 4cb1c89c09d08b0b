import RequestRouter.Proofs.Call.Stages
import RequestRouter.Proofs.Reading.Construct
import RequestRouter.Proofs.World.Laws
import RequestRouter.Proofs.World.Handlers

/-!
# The course of an invocation

Once the path values have been taken from the path and the request has been recorded, a controller is
made, if the handler needs one, and then the handler is called (`Route.Course`). What each stage can
do to the world, and with which fault it can fail, is `Stage.Effect`. Neither the path nor the method
is known to the stages that make a controller, and they do not look at the trace, so they are the same
stages for all requests (`Route.invoke_course`).
-/

namespace RequestRouter

/-! ## Effects of stages -/

/-- A class has a method: an attribute in its body that can be called, or one that classes of its kind
have of themselves. -/
def World.offers (world : World) (c : Class) (name : String) : Bool :=
  match (world.bodyOf c).attributes.get? name with
  | some found => found.isCallable
  | none => c.ownAttributes.contains name

/-- A registry has a class under the name of a type, and the class has the method. -/
def Registered (registry : Option Registry) (world : World) (typeName methodName : String)
    (c : Class) : Prop :=
  ∃ table, registry = some table ∧ table.lookup typeName = some c ∧
    world.offers c methodName = true

/-- Nothing happens between two worlds but that records are written. -/
def World.Records (before after : World) : Prop :=
  ∃ records : List LogRecord, after = before.withTrace (before.trace ++ records.map .logged)

/-- The questions for a service end with a fault. -/
inductive Lookup.Fails (asked : Lookup) (name : String) (target : Class) (world : World)
    (fault : Fault) (after : World) : Prop
  | hasName : (asked.has name).run world = (.error fault, after) →
    Fails asked name target world fault after
  | hasKey {between : World} : (asked.has name).run world = (.ok false, between) →
    (asked.has target.key).run between = (.error fault, after) →
    Fails asked name target world fault after
  | get {key : String} {between : World} :
    (asked.keyFor name target).run world = (.ok (some key), between) →
    (asked.get key).run between = (.error fault, after) → Fails asked name target world fault after
  | test {key : String} {value : Value} {between : World} :
    (asked.keyFor name target).run world = (.ok (some key), between) →
    (asked.get key).run between = (.ok value, after) →
    (value.testInstance target).run after = (.error fault, after) →
    Fails asked name target world fault after

/-- The fault of a path value that cannot be made into an instance. -/
def conversionOf (name : String) (target : Class) (raw : String) (raised : Fault) : Fault :=
  if raised.isA (.plain .type) || raised.isA (.plain .value) then
    .conversion name target raw (some raised.kind)
  else raised

/-- What a stage does besides what it gives. -/
def Stage.Effect (lookup : Option Lookup) (registry : Option Registry) (stage : Stage) : Prop :=
  match stage.phase with
  | .check typeName methodName c =>
    stage.before.Records stage.after ∧
      match stage.fault with
      | none => Registered registry stage.before typeName methodName c
      | some fault => fault = .handlerNotFound typeName methodName ∧
        ¬ ∃ c, Registered registry stage.before typeName methodName c
  | .resolve values slot _ => ∀ fault, stage.fault = some fault →
    match values.get? slot.name with
    | some raw => ∃ target raised, slot.kind = .named target ∧
      (target.construct [.text raw] []).run stage.before = (.error raised, stage.after) ∧
      fault = conversionOf slot.name target raw raised
    | none => ∃ asked target, lookup = some asked ∧ slot.kind = .named target ∧
      asked.Fails slot.name target stage.before fault stage.after
  | .construct c _ _ =>
    stage.after.trace =
      stage.before.trace ++ if stage.fault = none then [.constructed c] else []
  | .reach .. | .respond .. => stage.after = stage.before
  | .inspect .. | .call .. => True

section Effects

variable {lookup : Option Lookup} {registry : Option Registry} {world after : World}

theorem run_offersMethod (c : Class) (name : String) :
    (c.offersMethod name).run world = (.ok (world.offers c name), world) := by
  rw [Class.offersMethod, Action.run_bind_ok (Action.run_bodyOf c), World.offers]
  cases (world.bodyOf c).attributes.get? name <;> rfl

theorem run_resolve_of_none {table : Registry} {typeName methodName : String}
    (h : table.lookup typeName = none) : (table.resolve typeName methodName).run world =
      (.error (.handlerNotFound typeName methodName),
        world.withTrace (world.trace ++ [.logged (.unknownController typeName)])) := by
  rw [Registry.resolve, h]
  rfl

theorem run_resolve_of_some {table : Registry} {typeName methodName : String} {c : Class}
    (h : table.lookup typeName = some c) : (table.resolve typeName methodName).run world =
      (if world.offers c methodName then .ok c else .error (.handlerNotFound typeName methodName),
        world) := by
  rw [Registry.resolve, h]
  simp only
  rw [Action.run_bind_ok (run_offersMethod c methodName)]
  cases world.offers c methodName <;> rfl

/-- The check ends in one of two ways, and at most writes a record. -/
theorem checkRegistry_cases {typeName methodName : String} {result : Except Fault Class}
    (h : (checkRegistry registry typeName methodName).run world = (result, after)) :
    world.Records after ∧
      ((∃ c, result = .ok c ∧ Registered registry world typeName methodName c) ∨
        result = .error (.handlerNotFound typeName methodName) ∧
          ¬ ∃ c, Registered registry world typeName methodName c) := by
  have hsame : world.Records world := ⟨[], by rw [List.map_nil, List.append_nil]; rfl⟩
  cases registry with
  | none =>
    cases h
    refine ⟨hsame, .inr ⟨rfl, ?_⟩⟩
    rintro ⟨c, table, htable, -⟩
    cases htable
  | some table =>
    cases hlookup : table.lookup typeName with
    | none =>
      have hrun : (checkRegistry (some table) typeName methodName).run world = _ :=
        run_resolve_of_none hlookup
      rw [hrun] at h
      cases h
      refine ⟨⟨[.unknownController typeName], rfl⟩, .inr ⟨rfl, ?_⟩⟩
      rintro ⟨c, other, hother, hc, -⟩
      cases hother
      rw [hlookup] at hc
      cases hc
    | some c =>
      have hrun : (checkRegistry (some table) typeName methodName).run world = _ :=
        run_resolve_of_some hlookup
      rw [hrun] at h
      cases hoffers : world.offers c methodName with
      | true =>
        rw [hoffers] at h
        cases h
        exact ⟨hsame, .inl ⟨c, rfl, table, rfl, hlookup, hoffers⟩⟩
      | false =>
        rw [hoffers] at h
        cases h
        refine ⟨hsame, .inr ⟨rfl, ?_⟩⟩
        rintro ⟨d, other, hother, hd, hcalls⟩
        cases hother
        rw [hlookup] at hd
        cases hd
        rw [hoffers] at hcalls
        cases hcalls

theorem effect_check {typeName methodName : String} {c : Class} {fault : Option Fault}
    (h : Stage.Did lookup registry ⟨.check typeName methodName c, world, fault, after⟩) :
    Stage.Effect lookup registry ⟨.check typeName methodName c, world, fault, after⟩ := by
  obtain ⟨hrecords, hcases⟩ := checkRegistry_cases h
  refine ⟨hrecords, ?_⟩
  cases fault with
  | none =>
    rcases hcases with ⟨own, hown, hregistered⟩ | ⟨herror, -⟩
    · cases hown
      exact hregistered
    · cases herror
  | some fault =>
    rcases hcases with ⟨own, hown, -⟩ | ⟨herror, hmissing⟩
    · cases hown
    · cases herror
      exact ⟨rfl, hmissing⟩

theorem fails_of_keyFor {asked : Lookup} {name : String} {target : Class} {fault : Fault}
    (h : (asked.keyFor name target).run world = (.error fault, after)) :
    asked.Fails name target world fault after := by
  rw [Lookup.keyFor, Action.run_bind] at h
  cases hname : (asked.has name).run world with
  | mk result between =>
    rw [hname] at h
    cases result with
    | error own =>
      cases h
      exact .hasName hname
    | ok found =>
      cases found with
      | true => cases h
      | false =>
        simp only [Bool.false_eq_true, if_false] at h
        rw [Action.run_bind] at h
        cases hkey : (asked.has target.key).run between with
        | mk result last =>
          rw [hkey] at h
          cases result with
          | error own =>
            cases h
            exact .hasKey hname hkey
          | ok found => cases found <;> cases h

/-- A service cannot be had if one of the questions for it fails, and then no other is asked. -/
theorem fails_of_service {asked : Lookup} {name : String} {target : Class} {fault : Fault}
    (h : (asked.service name target).run world = (.error fault, after)) :
    asked.Fails name target world fault after := by
  rw [Lookup.service, Action.run_bind] at h
  cases hkey : (asked.keyFor name target).run world with
  | mk result between =>
    rw [hkey] at h
    cases result with
    | error own =>
      cases h
      exact fails_of_keyFor hkey
    | ok key =>
      cases key with
      | none => cases h
      | some key =>
        simp only at h
        rw [Action.run_bind] at h
        cases hget : (asked.get key).run between with
        | mk result last =>
          rw [hget] at h
          cases result with
          | error own =>
            cases h
            exact .get hkey hget
          | ok value =>
            simp only at h
            cases hcheckable : target.checkable with
            | false =>
              rw [hcheckable] at h
              cases h
            | true =>
              rw [hcheckable] at h
              simp only [Bool.not_true, Bool.false_eq_true, if_false] at h
              rw [Action.run_bind] at h
              cases hinstance : value.isInstance target with
              | none =>
                have htest : (value.testInstance target).run last =
                    (.error (.misuse (if target.nature = .anything then .anyTest
                      else .contractTest)), last) := by
                  rw [Value.testInstance, hinstance]
                  rfl
                rw [htest] at h
                cases h
                exact .test hkey hget htest
              | some answer =>
                have htest : (value.testInstance target).run last = (.ok answer, last) := by
                  rw [Value.testInstance, hinstance]
                  rfl
                rw [htest] at h
                cases answer <;> cases h

theorem fails_of_fallback {slot : Slot} {fault : Fault}
    (h : (slot.fallback lookup).run world = (.error fault, after)) :
    ∃ asked target, lookup = some asked ∧ slot.kind = .named target ∧
      asked.Fails slot.name target world fault after := by
  unfold Slot.fallback at h
  split at h
  · next asked target hkind =>
    rw [Action.run_bind] at h
    cases hservice : (asked.service slot.name target).run world with
    | mk result between =>
      rw [hservice] at h
      cases result with
      | error own =>
        cases h
        exact ⟨asked, target, rfl, hkind, fails_of_service hservice⟩
      | ok value =>
        dsimp only at h
        split at h <;> cases h
  · rw [pure_bind] at h
    dsimp only at h
    split at h <;> cases h

theorem run_convert_eq_error {name raw : String} {target : Class} {fault : Fault}
    (h : (convert name target raw).run world = (.error fault, after)) :
    ∃ raised, (target.construct [.text raw] []).run world = (.error raised, after) ∧
      fault = conversionOf name target raw raised := by
  rw [convert, Action.run_tryCatch] at h
  cases hconstruct : (target.construct [.text raw] []).run world with
  | mk result between =>
    rw [hconstruct] at h
    cases result with
    | ok value => cases h
    | error raised =>
      simp only at h
      split at h
      · next hkind =>
        cases h
        exact ⟨raised, rfl, (if_pos hkind).symm⟩
      · next hkind =>
        cases h
        exact ⟨_, rfl, (if_neg hkind).symm⟩

theorem effect_resolve {values : Entries String String} {slot : Slot} {value : Value}
    {fault : Option Fault}
    (h : Stage.Did lookup registry ⟨.resolve values slot value, world, fault, after⟩) :
    Stage.Effect lookup registry ⟨.resolve values slot value, world, fault, after⟩ := by
  rintro own rfl
  have hrun : (slot.resolve lookup values).run world = (.error own, after) := h
  rw [Slot.resolve] at hrun
  cases hvalue : values.get? slot.name with
  | none =>
    rw [hvalue] at hrun
    exact fails_of_fallback hrun
  | some raw =>
    rw [hvalue] at hrun
    simp only at hrun ⊢
    cases hkind : slot.kind with
    | builtin =>
      rw [hkind] at hrun
      cases hrun
    | named target =>
      rw [hkind] at hrun
      obtain ⟨raised, hraised, hfault⟩ := run_convert_eq_error hrun
      exact ⟨target, raised, rfl, hraised, hfault⟩

/-- What is made of the arguments of a constructor is told by no event. -/
theorem trace_of_making (c : Class) (arguments : Entries String Value) (making : Making)
    (world : World) : ((making.run c arguments).run world).2.trace = world.trace := by
  cases making with
  | counted state =>
    rw [Making.run]
    cases state arguments <;> rfl
  | keeping fields =>
    rw [Making.run]
    cases fields arguments <;> rfl
  | failing fault => rfl

/-- Making an instance is told by one event, if it succeeds. -/
theorem trace_of_construct {c : Class} {values : List Value} {named : Entries String Value}
    {result : Except Fault Value} (h : (c.construct values named).run world = (result, after)) :
    after.trace = world.trace ++ if faultOf result = none then [.constructed c] else [] := by
  rw [Class.construct, Action.run_bind_ok (Action.run_bodyOf c)] at h
  simp only at h
  cases hcase : (world.bodyOf c).constructor with
  | refused reason =>
    rw [hcase] at h
    cases h
    simp [faultOf]
  | bare =>
    rw [hcase] at h
    simp only at h
    split at h
    · cases h
      simp [faultOf]
    · cases h
      simp [faultOf]
  | taking owner formals making =>
    rw [hcase] at h
    simp only at h
    cases hbind : Binding.bind formals 1 values named with
    | error problem =>
      have hbound : (bindFor (owner ++ ".__init__") formals 1 values named).run world =
          (.error (.binding (owner ++ ".__init__") problem), world) := by
        rw [bindFor, hbind]
        rfl
      rw [Action.run_bind_error hbound] at h
      cases h
      simp [faultOf]
    | ok bound =>
      have hbound : (bindFor (owner ++ ".__init__") formals 1 values named).run world =
          (.ok bound, world) := by
        rw [bindFor, hbind]
        rfl
      rw [Action.run_bind_ok hbound, Action.run_bind] at h
      have htrace := trace_of_making c bound making world
      generalize (making.run c bound).run world = outcome at h htrace
      obtain ⟨made, reached⟩ := outcome
      replace htrace : reached.trace = world.trace := htrace
      cases made with
      | error fault =>
        cases h
        simp [faultOf, htrace]
      | ok value =>
        cases h
        simp [faultOf, htrace]

theorem effect_construct {c : Class} {arguments : Arguments} {controller : Value}
    {fault : Option Fault}
    (h : Stage.Did lookup registry ⟨.construct c arguments controller, world, fault, after⟩) :
    Stage.Effect lookup registry ⟨.construct c arguments controller, world, fault, after⟩ := by
  have hrun : (c.construct arguments.positional arguments.named).run world = _ := h
  have htrace := trace_of_construct hrun
  cases fault with
  | none => exact htrace
  | some fault => exact htrace

theorem effect_reach {c : Class} {controller : Value} {name : String} {target : Callee}
    {fault : Option Fault}
    (h : Stage.Did lookup registry ⟨.reach c controller name target, world, fault, after⟩) :
    after = world := by
  have hsame : ((c.attributeOf controller name).run world).2 = world := by
    rw [Class.attributeOf, Action.run_bind_ok (Action.run_bodyOf c)]
    cases (world.bodyOf c).attributes.get? name <;> rfl
  have hrun : (c.attributeOf controller name).run world = _ := h
  rw [hrun] at hsame
  exact hsame

theorem effect_respond {handler : HandlerRef} {answer : Returned} {value : Value}
    {fault : Option Fault}
    (h : Stage.Did lookup registry ⟨.respond handler answer value, world, fault, after⟩) :
    after = world := by
  have hsame : ((checkResponse handler answer).run world).2 = world := by
    rw [checkResponse]
    split <;> rfl
  have hrun : (checkResponse handler answer).run world = _ := h
  rw [hrun] at hsame
  exact hsame

theorem Stage.Did.effect {stage : Stage} (h : stage.Did lookup registry) :
    stage.Effect lookup registry := by
  obtain ⟨phase, before, fault, after⟩ := stage
  cases phase with
  | check => exact effect_check h
  | resolve => exact effect_resolve h
  | construct => exact effect_construct h
  | reach => exact effect_reach h
  | respond => exact effect_respond h
  | inspect | call => trivial

end Effects

/-! ## Stages that do not look at the trace -/

/-- The stage with events in front of the trace. -/
def Stage.behind (events : List Event) (stage : Stage) : Stage :=
  { stage with
    before := stage.before.withFront events
    after := stage.after.withFront events }

section Behind

variable {lookup : Option Lookup} {registry : Option Registry} {world after : World}
  {stages : List Stage} {fault : Option Fault} (events : List Event)

theorem Stage.Ran.behind {α : Type} {stage : Stage} {x : Action α} {a : α}
    (hx : untraced.Keeps x) (h : stage.Ran x a) : (stage.behind events).Ran x a := by
  have hrun : x.run stage.before = _ := h
  show x.run (stage.before.withFront events) = _
  rw [hx stage.before events, hrun]
  rfl

theorem keeps_checkRegistry {L : Law} {typeName methodName : String} :
    L.Keeps (checkRegistry registry typeName methodName) := by
  unfold checkRegistry
  split
  · exact .throw _
  · exact keeps_registryResolve

theorem Stage.Did.behind (hlookup : ∀ asked ∈ lookup, asked.Steady untraced) {stage : Stage}
    (h : stage.Did lookup registry) : (stage.behind events).Did lookup registry := by
  obtain ⟨phase, before, fault, after⟩ := stage
  cases phase with
  | check => exact Stage.Ran.behind events keeps_checkRegistry h
  | inspect => exact Stage.Ran.behind events keeps_slots h
  | resolve => exact Stage.Ran.behind events (keeps_resolve hlookup) h
  | construct => exact Stage.Ran.behind events keeps_construct h
  | reach => exact Stage.Ran.behind events keeps_attributeOf h
  | call => exact Stage.Ran.behind events keeps_call h
  | respond => exact Stage.Ran.behind events keeps_checkResponse h

theorem Linked.behind (h : Linked world stages fault after) :
    Linked (world.withFront events) (stages.map (Stage.behind events)) fault
      (after.withFront events) := by
  induction h with
  | nil => exact .nil
  | stop => exact .stop
  | next _ ih => exact .next ih

theorem Staged.behind (hlookup : ∀ asked ∈ lookup, asked.Steady untraced) {plan : List Phase}
    (h : Staged lookup registry plan world stages fault after) :
    Staged lookup registry plan (world.withFront events) (stages.map (Stage.behind events)) fault
      (after.withFront events) := by
  have hphases : (stages.map (Stage.behind events)).map Stage.phase = stages.map Stage.phase := by
    rw [List.map_map]
    rfl
  exact
    { chain := h.chain.behind events
      did := by
        intro stage hstage
        obtain ⟨own, hown, rfl⟩ := List.mem_map.mp hstage
        exact (h.did own hown).behind events hlookup
      order := hphases ▸ h.order
      complete := fun hfault => hphases ▸ h.complete hfault }

end Behind

/-! ## Courses of invocations -/

/-- A handler is located in stages. Something that can be called is there without any; for the names
of a type and a method, a controller is made. -/
def HandlerRef.Locates (ref : HandlerRef) (lookup : Option Lookup) (registry : Option Registry)
    (world : World) (making : List Stage) (outcome : Except Fault Callee) (after : World) : Prop :=
  match ref with
  | .free target => making = [] ∧ outcome = .ok target ∧ after = world
  | .method typeName methodName => ∃ c found controller target,
    Staged lookup registry (makingPlan typeName methodName c found controller target) world making
      (faultOf outcome) after ∧ ∀ own, outcome = .ok own → own = target

/-- The world in which a request has been recorded. -/
def Route.announced (route : Route) (method path : String) (values : Entries String String)
    (world : World) : World :=
  world.withTrace
    (world.trace ++ [.logged (.invoking route.handler.displayName method path values)])

/-- The course of an invocation: the stages that make a controller, and those that call the
handler. -/
inductive Route.Course (route : Route) (method path : String) (lookup : Option Lookup)
    (registry : Option Registry) (world : World) :
    List Stage → List Stage → Except Fault Value → World → Prop
  /-- The path values cannot be taken from the path. -/
  | unread {fault : Fault} : route.extract path = .error fault →
    Course route method path lookup registry world [] [] (.error fault) world
  /-- No handler is located. -/
  | unmade {values : Entries String String} {making : List Stage} {fault : Fault} {after : World} :
    route.extract path = .ok values →
    route.handler.Locates lookup registry (route.announced method path values world) making
      (.error fault) after →
    Course route method path lookup registry world making [] (.error fault) after
  | called {values : Entries String String} {making calling : List Stage} {target : Callee}
      {between after : World} {result : Except Fault Value} {found : List (Slot × Value)}
      {answer : Returned} {value : Value} :
    route.extract path = .ok values →
    route.handler.Locates lookup registry (route.announced method path values world) making
      (.ok target) between →
    Staged lookup registry (callingPlan route.handler values target found answer value) between
      calling (faultOf result) after →
    (∀ own, result = .ok own → own = value) →
    Course route method path lookup registry world making calling result after

section Courses

variable {lookup : Option Lookup} {registry : Option Registry} {world after : World}

theorem HandlerRef.Locates.behind {ref : HandlerRef} {making : List Stage}
    {outcome : Except Fault Callee} (events : List Event)
    (hlookup : ∀ asked ∈ lookup, asked.Steady untraced)
    (h : ref.Locates lookup registry world making outcome after) :
    ref.Locates lookup registry (world.withFront events) (making.map (Stage.behind events)) outcome
      (after.withFront events) := by
  cases ref with
  | free target =>
    obtain ⟨rfl, rfl, rfl⟩ := h
    exact ⟨rfl, rfl, rfl⟩
  | method typeName methodName =>
    obtain ⟨c, found, controller, target, hstaged, hgives⟩ := h
    exact ⟨c, found, controller, target, hstaged.behind events hlookup, hgives⟩

variable {route : Route} {method path : String} {values : Entries String String}

/-- The stages of a course did what their phases say. -/
theorem Route.Course.did {making calling : List Stage} {result : Except Fault Value}
    (h : route.Course method path lookup registry world making calling result after) :
    ∀ stage ∈ making ++ calling, stage.Did lookup registry := by
  have hmaking : ∀ {outcome : Except Fault Callee} {first last : World},
      route.handler.Locates lookup registry first making outcome last →
        ∀ stage ∈ making, stage.Did lookup registry := by
    intro outcome first last hlocates
    cases hhandler : route.handler with
    | free target =>
      rw [hhandler] at hlocates
      obtain ⟨rfl, -, -⟩ := hlocates
      exact fun _ hstage => nomatch hstage
    | method typeName methodName =>
      rw [hhandler] at hlocates
      obtain ⟨c, found, controller, target, hstaged, -⟩ := hlocates
      exact hstaged.did
  intro stage hstage
  cases h with
  | unread => cases hstage
  | unmade _ hlocates =>
    rw [List.append_nil] at hstage
    exact hmaking hlocates stage hstage
  | called _ hlocates hstaged _ =>
    rcases List.mem_append.mp hstage with hfirst | hsecond
    · exact hmaking hlocates stage hfirst
    · exact hstaged.did stage hsecond

end Courses

/-- A controller whose constructor has a parameter of the same name as its handler. -/
def Class.shop : Class :=
  { number := Class.firstFree, home := "app", name := "Shop", qualname := "Shop" }

def World.shop : World :=
  let handler : Function :=
    { number := 0, name := "show", qualname := "Shop.show", formals := [{ name := "id" }]
      script := .echo }
  let constructor : Constructor :=
    .taking "Shop" [{ name := "id", default := some (.int 0) }] (.keeping .ok)
  { bodies := [(Class.firstFree, ⟨constructor, [("show", .method handler)]⟩)] }

end RequestRouter
