import RequestRouter.Proofs.Call.Invocations
import RequestRouter.Proofs.World.Handlers

/-!
# Invoking with and without waiting

A route is invoked in two forms. Both prepare the call of the handler and make it; the second waits
for what was returned if that can be waited for, and then both check what they have. So they end
alike unless there is something to wait for, and where there is, the first form refuses it as it was
returned, before its work has begun (`Callee.Postpones`), while the second ends as the first would for
a handler that does this work at once (`Callee.prompt`). Both statements are in
`Route.invoke_ainvoke`.
-/

namespace RequestRouter

/-! ## What a call postpones -/

/-- The world in which it is recorded that the body of a function has started. -/
def World.startedBy (world : World) (f : Function) (receiver : Option Value)
    (arguments : Entries String Value) : World :=
  if f.recorded then
    world.withTrace (world.trace ++ [.started ⟨f.name, arguments, receiver.map Value.keeps⟩])
  else world

/-- What is returned has not begun its work. -/
inductive Callee.Postpones (callee : Callee) (world : World) : Returned → World → Prop
  /-- An asynchronous function has been called, which does nothing. -/
  | body {f : Function} {receiver : Option Value} {arguments : Entries String Value} :
    callee.function? = some (f, receiver) → f.isAsync = true →
    Postpones callee world (.suspended (.body f receiver arguments)) world
  /-- The body of a function has run, and has made nothing of the recipe that it hands out. -/
  | suspended {f : Function} {receiver : Option Value} {arguments : Entries String Value}
      {recipe : Recipe} :
    callee.function? = some (f, receiver) → f.isAsync = false → f.script = .suspended recipe →
    Postpones callee world (.suspended (.recipe recipe)) (world.startedBy f receiver arguments)
  | deferred {f : Function} {receiver : Option Value} {arguments : Entries String Value}
      {recipe : Recipe} :
    callee.function? = some (f, receiver) → f.isAsync = false → f.script = .deferred recipe →
    Postpones callee world (.deferred recipe) (world.startedBy f receiver arguments)

section Calls

variable {world after : World} {receiver : Option Value} {values : List Value}
  {named arguments : Entries String Value} {answer : Returned}

theorem run_start (f : Function) : (f.start receiver arguments).run world =
    (f.script.run f.name receiver arguments).run (world.startedBy f receiver arguments) := by
  unfold Function.start World.startedBy
  cases f.recorded with
  | true => rfl
  | false => rfl

theorem run_bindFor_eq_ok {callee : String} {formals : Binding.Formals} {implicit : Nat}
    (h : (bindFor callee formals implicit values named).run world = (.ok arguments, after)) :
    after = world := by
  unfold bindFor at h
  split at h
  · cases h
    rfl
  · cases h

/-- Two scripts hand something out to wait for, and do nothing else. -/
theorem Script.of_run_awaitable {script : Script} {name : String}
    (h : (script.run name receiver arguments).run world = (.ok answer, after))
    (hawait : answer.isAwaitable = true) : after = world ∧ ∃ recipe,
      script = .suspended recipe ∧ answer = .suspended (.recipe recipe) ∨
        script = .deferred recipe ∧ answer = .deferred recipe := by
  cases script with
  | suspended recipe =>
    cases h
    exact ⟨rfl, recipe, .inl ⟨rfl, rfl⟩⟩
  | deferred recipe =>
    cases h
    exact ⟨rfl, recipe, .inr ⟨rfl, rfl⟩⟩
  | echo =>
    cases h
    cases hawait
  | give recipe =>
    obtain ⟨value, between, -, h⟩ := Action.run_bind_eq_ok h
    cases h
    cases hawait
  | fail kind recipes =>
    obtain ⟨stated, between, -, h⟩ := Action.run_bind_eq_ok h
    cases h
  | registerAll registrations =>
    obtain ⟨done, between, -, h⟩ := Action.run_bind_eq_ok h
    cases h
    cases hawait
  | compute f =>
    obtain ⟨value, between, -, h⟩ := Action.run_bind_eq_ok h
    cases h
    cases hawait

theorem Function.postpones_of_call {callee : Callee} {f : Function}
    (hfunction : callee.function? = some (f, receiver))
    (h : (f.call receiver values named).run world = (.ok answer, after))
    (hawait : answer.isAwaitable = true) : callee.Postpones world answer after := by
  obtain ⟨bound, between, hbound, hrest⟩ := Action.run_bind_eq_ok h
  obtain rfl := run_bindFor_eq_ok hbound
  cases hasync : f.isAsync with
  | true =>
    rw [hasync] at hrest
    cases hrest
    exact .body hfunction hasync
  | false =>
    rw [hasync] at hrest
    have hstart : (f.start receiver bound).run between = (.ok answer, after) := hrest
    rw [run_start] at hstart
    obtain ⟨rfl, recipe, ⟨hscript, rfl⟩ | ⟨hscript, rfl⟩⟩ :=
      Script.of_run_awaitable hstart hawait
    · exact .suspended hfunction hasync hscript
    · exact .deferred hfunction hasync hscript

/-- A call that returns something to wait for has not begun the work of it. -/
theorem Callee.postpones_of_call {callee : Callee}
    (h : (callee.call values named).run world = (.ok answer, after))
    (hawait : answer.isAwaitable = true) : callee.Postpones world answer after := by
  have hclass : ∀ c : Class, ((Callee.type c).call values named).run world = (.ok answer, after) →
      callee.Postpones world answer after := by
    -- what a class makes is a value
    intro c hmade
    obtain ⟨value, between, -, hmade⟩ := Action.run_bind_eq_ok hmade
    cases hmade
    cases hawait
  cases callee with
  | function f | object label f | method f receiver => exact Function.postpones_of_call rfl h hawait
  | type c => exact hclass c h
  | value v =>
    cases v with
    | type c => exact hclass c h
    | _ => cases h

end Calls

/-! ## Handlers that do not postpone -/

/-- What is returned in the end: what can be waited for is waited for, once. -/
def Returned.settle (answer : Returned) : Action Returned :=
  if answer.isAwaitable then answer.await else pure answer

/-- The script that gives what the other one hands out to wait for. -/
def Script.prompt : Script → Script
  | .deferred recipe | .suspended recipe => .give recipe
  | script => script

/-- The function that does at once what its answer would have to be waited for. -/
def Function.prompt (f : Function) : Function :=
  if f.isAsync then { f with isAsync := false } else { f with script := f.script.prompt }

/-- The callee that does at once what its answer would have to be waited for. -/
def Callee.prompt : Callee → Callee
  | .function f => .function f.prompt
  | .method f receiver => .method f.prompt receiver
  | .object label f => .object label f.prompt
  | callee => callee

/-- The prepared call of the prompt callee, with the same arguments. -/
def Prepared.prompt (prepared : Prepared) : Prepared :=
  { prepared with target := prepared.target.prompt }

section Prompt

variable {receiver : Option Value} {values : List Value} {named arguments : Entries String Value}

theorem settle_value (v : Value) : (Returned.value v).settle = pure (.value v) := rfl

theorem Script.run_prompt (script : Script) (name : String) :
    script.prompt.run name receiver arguments =
      script.run name receiver arguments >>= Returned.settle := by
  cases script with
  | deferred recipe | suspended recipe => rfl
  | echo => rfl
  | give recipe | compute f =>
    simp only [prompt, Script.run, bind_assoc, pure_bind, settle_value]
  | registerAll registrations =>
    simp only [prompt, Script.run, bind_assoc, pure_bind, settle_value]
  | fail kind recipes =>
    simp only [prompt, Script.run, failWith, bind_assoc]
    rfl

theorem Function.start_withScript (f : Function) :
    ({ f with script := f.script.prompt } : Function).start receiver arguments =
      f.start receiver arguments >>= Returned.settle := by
  funext world
  show (Function.start _ receiver arguments).run world = (f.start receiver arguments >>= _).run world
  rw [Action.run_bind, run_start, run_start, Script.run_prompt, Action.run_bind]
  rfl

theorem Function.call_prompt (f : Function) :
    f.prompt.call receiver values named = f.call receiver values named >>= Returned.settle := by
  unfold prompt
  cases hasync : f.isAsync with
  | true =>
    simp only [if_true, call, hasync, Bool.false_eq_true, if_false, bind_assoc, pure_bind]
    rfl
  | false =>
    simp only [Bool.false_eq_true, if_false, call, hasync, bind_assoc]
    exact bind_congr fun arguments => start_withScript f

/-- A prompt call is a call whose answer is waited for. -/
theorem Callee.call_prompt (callee : Callee) :
    callee.prompt.call values named = callee.call values named >>= Returned.settle := by
  have hclass : ∀ c : Class, (Callee.type c).call values named =
      (Callee.type c).call values named >>= Returned.settle := by
    intro c
    simp only [call, bind_assoc, pure_bind, settle_value]
  cases callee with
  | function f | object label f | method f receiver => exact Function.call_prompt f
  | type c => exact hclass c
  | value v =>
    cases v with
    | type c => exact hclass c
    | _ => rfl

theorem Callee.formals_prompt (callee : Callee) : callee.prompt.formals = callee.formals := by
  have hfunction : ∀ f : Function, f.prompt.formals = f.formals := by
    intro f
    unfold Function.prompt
    split <;> rfl
  cases callee with
  | function f | object label f | method f receiver =>
    show pure f.prompt.formals = pure f.formals
    rw [hfunction]
  | type c | value v => rfl

end Prompt

/-! ## Answers -/

/-- The call of the handler is prepared and made. What it returns is not looked at yet. -/
def Route.answer (route : Route) (method path : String) (lookup : Option Lookup)
    (registry : Option Registry) : Action Returned := do
  (← route.prepare method path lookup registry).call

/-- What is made of an answer in the end. -/
def Returned.checked (answer : Returned) (handler : HandlerRef) : Except Fault Value :=
  if answer.view.supportsResponse then .ok answer.view
  else .error (.contract handler.displayName answer.view)

theorem run_checkResponse (handler : HandlerRef) (answer : Returned) (world : World) :
    (checkResponse handler answer).run world = (answer.checked handler, world) := by
  unfold checkResponse Returned.checked
  split <;> rfl

/-- What can be waited for is no response. -/
theorem eq_value_of_checked {answer : Returned} {handler : HandlerRef} {value : Value}
    (h : answer.checked handler = .ok value) :
    answer = .value value ∧ ∀ name ∈ ["status", "headers", "body"], value.hasAttribute name := by
  cases answer with
  | value v =>
    unfold Returned.checked at h
    split at h
    · next hsupports =>
      cases h
      exact ⟨rfl, List.all_eq_true.mp hsupports⟩
    · cases h
  | suspended pending => cases h
  | deferred recipe => cases h

section Invoking

variable {route : Route} {method path : String} {lookup : Option Lookup}
  {registry : Option Registry} {world after : World}

theorem Route.invoke_eq : route.invoke method path lookup registry =
    route.answer method path lookup registry >>= checkResponse route.handler := by
  simp only [invoke, answer, bind_assoc]

theorem Route.ainvoke_eq : route.ainvoke method path lookup registry =
    route.answer method path lookup registry >>= fun answer =>
      answer.settle >>= checkResponse route.handler := by
  simp only [ainvoke, answer, bind_assoc]
  refine bind_congr fun prepared => bind_congr fun answer => ?_
  unfold Returned.settle
  split
  · rfl
  · rfl

/-- Waiting is the same as calling the prompt callee, however the handler was located. -/
theorem Route.ainvoke_eq_prompt : route.ainvoke method path lookup registry =
    route.prepare method path lookup registry >>= fun prepared =>
      prepared.prompt.call >>= checkResponse route.handler := by
  rw [ainvoke_eq, answer, bind_assoc]
  refine bind_congr fun prepared => ?_
  rw [← bind_assoc, Prepared.prompt, Prepared.call, Prepared.call, Callee.call_prompt]

/-- For a handler that needs no controller there is a route that does the same without waiting. -/
theorem Route.ainvoke_eq_invoke {target : Callee} (h : route.handler = .free target) :
    route.ainvoke method path lookup registry =
      ({ route with handler := .free target.prompt } : Route).invoke method path lookup registry := by
  -- nothing but the call itself tells the two handlers apart: not the name, and not the slots
  have hname : (HandlerRef.free target.prompt).displayName = route.handler.displayName := by
    have hfunction : ∀ f : Function, f.prompt.qualname = f.qualname := by
      intro f
      unfold Function.prompt
      split <;> rfl
    rw [h]
    cases target with
    | function f | method f receiver => exact hfunction f
    | object label f | type c | value v => rfl
  have hcheck : checkResponse (.free target.prompt) = checkResponse route.handler := by
    funext answer
    rw [checkResponse, hname, checkResponse]
  have hslots : target.prompt.slots = target.slots := by
    rw [Callee.slots, Callee.formals_prompt, Callee.slots]
  have hprepare : ({ route with handler := .free target.prompt } : Route).prepare method path lookup
      registry = route.prepare method path lookup registry >>= fun prepared =>
        pure prepared.prompt := by
    simp only [prepare, hname, bind_assoc]
    refine bind_congr fun values => bind_congr fun _ => ?_
    simp only [h, HandlerRef.prepare, HandlerRef.locate, pure_bind, hslots, bind_assoc]
    rfl
  rw [ainvoke_eq_prompt, invoke_eq, answer, hprepare, hcheck]
  simp only [bind_assoc, pure_bind]

end Invoking

/-- The two forms of invoking a route, told by how the call of its handler ends.

* If no call is made, or it fails, or there is nothing to wait for, both forms end alike.
* Something to wait for that has not the attributes of a response is refused by the first form, which
  ends where the call has ended: the work that would be waited for has not begun. The second form waits
  once, fails with the fault that comes of it, and checks what it gets.
* That is what the first form makes of the prompt callee.
* Both forms give nothing but what the handler gave, and only if it has the attributes of a
  response.
* The router gives both forms the same route in the same world. -/
theorem Route.invoke_ainvoke {route : Route} {method path : String} {lookup : Option Lookup}
    {registry : Option Registry} {world after : World} {outcome : Except Fault Returned}
    (h : (route.answer method path lookup registry).run world = (outcome, after)) :
    (∀ fault, outcome = .error fault →
      (route.invoke method path lookup registry).run world = (.error fault, after) ∧
        (route.ainvoke method path lookup registry).run world = (.error fault, after)) ∧
    (∀ answer, outcome = .ok answer → answer.isAwaitable = false →
      (route.invoke method path lookup registry).run world =
        (route.ainvoke method path lookup registry).run world) ∧
    (∀ answer, outcome = .ok answer → answer.isAwaitable = true →
      answer.view.supportsResponse = false →
      (∃ prepared between,
        (route.prepare method path lookup registry).run world = (.ok prepared, between) ∧
          prepared.target.Postpones between answer after) ∧
      (route.invoke method path lookup registry).run world =
        (.error (.contract route.handler.displayName answer.view), after) ∧
      (∀ fault final, answer.await.run after = (.error fault, final) →
        (route.ainvoke method path lookup registry).run world = (.error fault, final)) ∧
      ∀ awaited final, answer.await.run after = (.ok awaited, final) →
        (route.ainvoke method path lookup registry).run world =
          (awaited.checked route.handler, final)) ∧
    (route.ainvoke method path lookup registry =
      route.prepare method path lookup registry >>= fun prepared =>
        prepared.prompt.call >>= checkResponse route.handler) ∧
    (∀ target, route.handler = .free target → route.ainvoke method path lookup registry =
      ({ route with handler := .free target.prompt } : Route).invoke method path lookup
        registry) ∧
    (∀ value final, (route.invoke method path lookup registry).run world = (.ok value, final) →
      outcome = .ok (.value value) ∧ final = after ∧
        ∀ name ∈ ["status", "headers", "body"], value.hasAttribute name) ∧
    (∀ value final, (route.ainvoke method path lookup registry).run world = (.ok value, final) →
      ∃ answer, outcome = .ok answer ∧ answer.settle.run after = (.ok (.value value), final) ∧
        ∀ name ∈ ["status", "headers", "body"], value.hasAttribute name) ∧
    ∀ earlier place, (findRoute method path).run earlier = (.ok (place, route), world) →
      lookup = world.router.supply.map Supply.lookup → registry = world.router.controllers →
      (dispatch method path).run earlier = (route.invoke method path lookup registry).run world ∧
        (adispatch method path).run earlier =
          (route.ainvoke method path lookup registry).run world := by
  refine ⟨?_, ?_, ?_, ainvoke_eq_prompt, fun target => ainvoke_eq_invoke, ?_, ?_, ?_⟩
  · -- there is no answer
    rintro fault rfl
    rw [invoke_eq, ainvoke_eq]
    exact ⟨Action.run_bind_error h, Action.run_bind_error h⟩
  · -- there is nothing to wait for
    rintro answer rfl hready
    rw [invoke_eq, ainvoke_eq, Action.run_bind_ok h, Action.run_bind_ok h, Returned.settle, hready]
    rfl
  · -- there is something to wait for
    rintro answer rfl hawait hresponse
    have hsettle : answer.settle = answer.await := if_pos hawait
    obtain ⟨prepared, between, hprepare, hcall⟩ := Action.run_bind_eq_ok h
    refine ⟨⟨prepared, between, hprepare, Callee.postpones_of_call hcall hawait⟩, ?_, ?_, ?_⟩
    · rw [invoke_eq, Action.run_bind_ok h, run_checkResponse, Returned.checked, hresponse]
      rfl
    · intro fault final hfault
      rw [ainvoke_eq, Action.run_bind_ok h, hsettle]
      exact Action.run_bind_error hfault
    · intro awaited final hawaited
      rw [ainvoke_eq, Action.run_bind_ok h, hsettle, Action.run_bind_ok hawaited, run_checkResponse]
  · intro value final hvalue
    rw [invoke_eq] at hvalue
    obtain ⟨answer, between, hanswer, hchecked⟩ := Action.run_bind_eq_ok hvalue
    rw [hanswer] at h
    cases h
    rw [run_checkResponse] at hchecked
    obtain ⟨hgiven, rfl⟩ := Prod.mk.inj hchecked
    obtain ⟨rfl, hattributes⟩ := eq_value_of_checked hgiven
    exact ⟨rfl, rfl, hattributes⟩
  · intro value final hvalue
    rw [ainvoke_eq] at hvalue
    obtain ⟨answer, between, hanswer, hrest⟩ := Action.run_bind_eq_ok hvalue
    obtain ⟨awaited, last, hawaited, hchecked⟩ := Action.run_bind_eq_ok hrest
    rw [hanswer] at h
    cases h
    rw [run_checkResponse] at hchecked
    obtain ⟨hgiven, rfl⟩ := Prod.mk.inj hchecked
    obtain ⟨rfl, hattributes⟩ := eq_value_of_checked hgiven
    exact ⟨answer, rfl, hawaited, hattributes⟩
  · rintro earlier place hfound rfl rfl
    rw [dispatch_eq, adispatch_eq, Action.run_bind_ok hfound, Action.run_bind_ok hfound]
    exact ⟨Action.run_bind_ok Action.run_get, Action.run_bind_ok Action.run_get⟩

/-- An asynchronous handler. -/
def Function.item : Function where
  number := 0
  name := "item"
  qualname := "item"
  isAsync := true
  formals := [{ name := "id" }]
  script := .echo

/-- Without waiting its body does not run and the request is refused; with waiting it runs once. -/
theorem Route.invoke_ainvoke_item : ∃ route : Route,
    Route.make { pattern := "/{id}", handler := .callee (.function .item) } = .ok route ∧
    ∃ after final,
      (route.answer "GET" "/1" none none).run {} =
        (.ok (.suspended (.body .item none [("id", .text "1")])), after) ∧
      (route.invoke "GET" "/1" none none).run {} =
        (.error (.contract "item" (.object Returned.suspendedClass [])), after) ∧
      (route.ainvoke "GET" "/1" none none).run {} = (.ok (Response.naming "item"), final) ∧
      after.trace = [.logged (.invoking "item" "GET" "/1" [("id", "1")])] ∧
      final.trace =
        [.logged (.invoking "item" "GET" "/1" [("id", "1")]),
          .started ⟨"item", [("id", .text "1")], none⟩] := by
  obtain ⟨route, hmake, hhandler, hextract⟩ : ∃ route : Route,
      Route.make { pattern := "/{id}", handler := .callee (.function .item) } = .ok route ∧
        route.handler = .free (.function .item) ∧ route.extract "/1" = .ok [("id", "1")] :=
    ⟨_, rfl, rfl, Draft.toOption_eq_some.mp (by decide +kernel)⟩
  have hanswer : (route.answer "GET" "/1" none none).run {} =
      (.ok (.suspended (.body .item none [("id", .text "1")])),
        route.announced "GET" "/1" [("id", "1")] {}) := by
    rw [Route.answer, Route.prepare, bind_assoc, Action.run_bind_ok (Action.run_ofExcept hextract),
      hhandler]
    simp only [Route.announced, hhandler]
    rfl
  obtain ⟨-, -, hwait, -⟩ := Route.invoke_ainvoke hanswer
  obtain ⟨-, hinvoke, -, hainvoke⟩ := hwait _ rfl rfl rfl
  replace hainvoke := hainvoke (.value (Response.naming "item")) _ rfl
  rw [hhandler] at hinvoke
  refine ⟨route, hmake, _, _, hanswer, hinvoke, hainvoke, ?_, ?_⟩
  · rw [Route.announced, hhandler]
    rfl
  · rw [Route.announced, hhandler]
    rfl

end RequestRouter
