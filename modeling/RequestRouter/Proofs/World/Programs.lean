import RequestRouter.Proofs.Pattern.Faults
import RequestRouter.Proofs.World.Runs
import RequestRouter.Session.Program

/-!
# Programs under changing base patterns

A program changes the base pattern in place and restores it when it leaves a group. Read flatly, each
of its calls stands under a base pattern that only the text around it decides. Both readings agree
(`Program.follows_flatten`): what one call does to an open router is known (`RouteCall.run_of_ok`,
`RouteCall.run_of_error`), and accounts that follow a flat meaning can be put one after another
(`Account.Follows.append`) and into a group (`Account.Follows.group`).
-/

namespace RequestRouter

/-! ## One call -/

/-- The pattern of a route is the one it was made from. -/
theorem Route.pattern_of_make {plan : RoutePlan} {route : Route} (h : make plan = .ok route) :
    route.pattern = plan.pattern := by
  have hcompile := compile_of_make h
  rw [pattern, CompiledPattern.pattern_of_compile hcompile, String.ofList_toList]

theorem Router.map_of_open {router : Router} (h : router.frozen = false) (methods : Methods)
    (pattern : String) (handler : Target) (name : Option String) :
    router.map methods pattern handler name = (do
      let methods ← methods.check
      let route ← Route.make (router.plan methods pattern handler name)
      return (route, { router with routes := router.routes ++ [route] })) := by
  rw [map, checkOpen, h]
  rfl

/-- The world with a route behind the others, which is logged. -/
def World.addRoute (world : World) (route : Route) : World :=
  { world with
    router := { world.router with routes := world.router.routes ++ [route] }
    trace := world.trace ++ [.logged route.registered] }

namespace RouteCall

variable {call : RouteCall} {world : World}

/-- Every call that is made comes to the same registration, or to none if the methods of a decorator
are refused before. -/
theorem run_eq_registerRoute (call : RouteCall) (world : World) :
    call.run.run world =
      (registerRoute call.methods call.pattern call.handler call.name).run world ∨
    ∃ fault, call.methods.check = .error fault ∧ call.run.run world = (.error fault, world) := by
  cases call with
  | map => exact .inl rfl
  | verb => exact .inl rfl
  | decorate => exact .inl rfl
  | route methods pattern handler name =>
    cases methods with
    | names all => exact .inl rfl
    | text all => exact .inr ⟨_, rfl, rfl⟩

theorem map_of_outcome (call : RouteCall) (hopen : world.router.frozen = false) :
    world.router.map call.methods call.pattern call.handler call.name =
      (call.outcome world.router.config world.router.base).map fun route =>
        (route, { world.router with routes := world.router.routes ++ [route] }) := by
  rw [Router.map_of_open hopen, outcome]
  cases call.methods.check with
  | error fault => rfl
  | ok methods =>
    show (Route.make (world.router.plan methods call.pattern call.handler call.name) >>= _) =
      (Route.make (world.router.plan methods call.pattern call.handler call.name)).map _
    cases Route.make (world.router.plan methods call.pattern call.handler call.name) <;> rfl

/-- A call on an open router that can answer with a route puts it behind the others. -/
theorem run_of_ok {route : Route} (hopen : world.router.frozen = false)
    (h : call.outcome world.router.config world.router.base = .ok route) :
    call.run.run world = (.ok route, world.addRoute route) := by
  have hmap := map_of_outcome call hopen
  rw [h] at hmap
  rcases run_eq_registerRoute call world with hrun | ⟨fault, hcheck, -⟩
  · rw [hrun]
    exact run_registerRoute_of_ok hmap
  · rw [outcome, hcheck] at h
    cases h

/-- A call on an open router that fails leaves the world as it was. -/
theorem run_of_error {fault : Fault} (hopen : world.router.frozen = false)
    (h : call.outcome world.router.config world.router.base = .error fault) :
    call.run.run world = (.error fault, world) := by
  have hmap := map_of_outcome call hopen
  rw [h] at hmap
  rcases run_eq_registerRoute call world with hrun | ⟨other, hcheck, hrun⟩
  · rw [hrun]
    exact run_registerRoute_of_error hmap
  · rw [outcome, hcheck] at h
    cases h
    exact hrun

/-- A call that returns has its pattern behind the base pattern. -/
theorem pattern_of_outcome {config : Config} {base : String} {route : Route}
    (h : call.outcome config base = .ok route) : route.pattern = base ++ call.pattern := by
  obtain ⟨methods, -, hmake⟩ := exists_of_bind_ok h
  exact Route.pattern_of_make hmake

end RouteCall

/-! ## Accounts that follow a flat meaning -/

/-- A call that returned has put its route, whose pattern stands behind the base pattern, behind the
others; a call that failed has left the router as it was. -/
def CallRecord.Settled (record : CallRecord) : Prop :=
  match record.result with
  | .ok route =>
    route.pattern = record.before.base ++ record.call.pattern ∧
      record.after = { record.before with routes := record.before.routes ++ [route] }
  | .error _ => record.after = record.before

/-- A group that was left, in whatever way, has added the routes of the calls in it that returned, and
nothing else has changed: the base pattern is what it was. -/
def GroupRecord.Restored (record : GroupRecord) : Prop :=
  record.after = { record.before with
    routes := record.before.routes ++ record.calls.filterMap CallRecord.route? }

/-- An account of a program that went from one router to another follows a flat meaning. -/
structure Account.Follows (account : Account) (flat : Flat) (before after : Router) : Prop where
  outcome : account.outcome = flat.outcome
  calls : account.calls.map (fun record => (record.call, record.before.base, record.result)) =
    flat.calls.map fun call => (call.call, call.scope.base, call.result)
  router : after = { before with
    base := flat.scope.base
    routes := before.routes ++ flat.routes }
  settled : ∀ record ∈ account.calls, record.Settled
  /-- What has been registered stays. -/
  stays : ∀ record ∈ account.calls, record.after.routes <+: after.routes
  groups : ∀ record ∈ account.groups, record.Restored

theorem BaseScope.base_enter (scope : BaseScope) (extension : String) :
    (scope.enter extension).base = scope.base ++ extension := by
  rw [base, base, enter, String.join_append, String.append_assoc]
  simp

namespace Account.Follows

variable {account first second : Account} {flat one other : Flat} {before between after : Router}

theorem routes_eq (h : account.Follows flat before after) :
    account.calls.filterMap CallRecord.route? = flat.routes := by
  have hresults := congrArg (List.filterMap fun call => call.2.2.toOption) h.calls
  rw [List.filterMap_map, List.filterMap_map] at hresults
  exact hresults

theorem frozen_eq (h : account.Follows flat before after) : after.frozen = before.frozen := by
  rw [h.router]

theorem config_eq (h : account.Follows flat before after) : after.config = before.config := by
  rw [h.router]

theorem base_eq (h : account.Follows flat before after) : flat.scope.base = after.base := by
  rw [h.router]

/-- Nothing has happened to the router. -/
theorem nothing {scope : BaseScope} (hscope : scope.base = before.base)
    (outcome : Except Fault Unit) :
    Follows { outcome } { scope, outcome } before before where
  outcome := rfl
  calls := rfl
  router := by rw [hscope, Flat.routes, List.filterMap_nil, List.append_nil]
  settled := fun _ h => nomatch h
  stays := fun _ h => nomatch h
  groups := fun _ h => nomatch h

theorem setBase (before : Router) (base : String) :
    Follows {} { scope := ⟨base, []⟩ } before (before.setBase base) where
  outcome := rfl
  calls := rfl
  router := by
    rw [BaseScope.base, Flat.routes, List.filterMap_nil, List.append_nil, Router.setBase]
    simp
  settled := fun _ h => nomatch h
  stays := fun _ h => nomatch h
  groups := fun _ h => nomatch h

theorem call {record : CallRecord} {scope : BaseScope} (hscope : scope.base = record.before.base)
    (hsettled : record.Settled) :
    Follows { calls := [record], outcome := record.result.map fun _ => () }
      { calls := [⟨record.call, scope, record.result⟩], scope,
        outcome := record.result.map fun _ => () } record.before record.after where
  outcome := rfl
  calls := by rw [List.map_singleton, List.map_singleton, hscope]
  router := by
    obtain ⟨call, before, result, after⟩ := record
    cases result with
    | error fault =>
      obtain rfl : after = before := hsettled
      simp [hscope, Flat.routes, Except.toOption]
    | ok route =>
      have hafter : after = { before with routes := before.routes ++ [route] } := hsettled.2
      simp [hafter, hscope, Flat.routes, Except.toOption]
  settled := by
    intro other hother
    rw [List.mem_singleton.mp hother]
    exact hsettled
  stays := by
    intro other hother
    obtain rfl := List.mem_singleton.mp hother
    exact List.prefix_rfl
  groups := fun _ h => nomatch h

theorem append (hfirst : first.Follows one before between)
    (hsecond : second.Follows other between after) :
    (first.append second).Follows (one.append other) before after where
  outcome := hsecond.outcome
  calls := by
    simp only [Account.append, Flat.append, List.map_append]
    rw [hfirst.calls, hsecond.calls]
  router := by
    rw [hsecond.router, hfirst.router]
    simp only [Flat.append, Flat.routes, List.filterMap_append, List.append_assoc]
  settled := by
    intro record hrecord
    rcases List.mem_append.mp hrecord with h | h
    · exact hfirst.settled record h
    · exact hsecond.settled record h
  stays := by
    intro record hrecord
    rcases List.mem_append.mp hrecord with h | h
    · apply (hfirst.stays record h).trans
      rw [hsecond.router]
      exact List.prefix_append ..
    · exact hsecond.stays record h
  groups := by
    intro record hrecord
    rcases List.mem_append.mp hrecord with h | h
    · exact hfirst.groups record h
    · exact hsecond.groups record h

/-- What happens inside a group happens under a longer base pattern, which is restored behind it. -/
theorem group {scope : BaseScope} {extension : String} (hscope : scope.base = before.base)
    (h : account.Follows flat (before.enter extension) after) :
    Follows
      { account with
        groups := account.groups ++
          [⟨before, account.calls, account.outcome, after.setBase before.base⟩] }
      { flat with scope } before (after.setBase before.base) where
  outcome := h.outcome
  calls := h.calls
  router := by
    rw [h.router, hscope]
    rfl
  settled := h.settled
  stays := h.stays
  groups := by
    intro record hrecord
    rcases List.mem_append.mp hrecord with hinner | hleft
    · exact h.groups record hinner
    · obtain rfl := List.mem_singleton.mp hleft
      show after.setBase before.base = { before with
        routes := before.routes ++ account.calls.filterMap CallRecord.route? }
      rw [h.routes_eq, h.router]
      rfl

end Account.Follows

/-! ## Programs -/

namespace Program

section Runs

variable {first rest body handler : Program} {expected : Fault → Bool} {extension : String}
  {world between after : World} {account other : Account} {fault : Fault}

theorem run_bind {α β : Type} {x : StateM World α} {f : α → StateM World β} {a : α}
    (h : x.run world = (a, between)) : (x >>= f).run world = (f a).run between := by
  show (f (x.run world).1).run (x.run world).2 = _
  rw [h]

theorem run_seq_of_ok (hfirst : first.run.run world = (account, between))
    (hok : account.outcome = .ok ()) (hrest : rest.run.run between = (other, after)) :
    (seq first rest).run.run world = (account.append other, after) := by
  rw [run, run_bind hfirst, hok]
  exact run_bind hrest

theorem run_seq_of_error (hfirst : first.run.run world = (account, between))
    (herror : account.outcome = .error fault) :
    (seq first rest).run.run world = (account, between) := by
  rw [run, run_bind hfirst, herror]
  rfl

theorem run_group
    (hbody : body.run.run { world with router := world.router.enter extension } =
      (account, after)) :
    (group extension body).run.run world =
      ({ account with
        groups := account.groups ++ [⟨world.router, account.calls, account.outcome,
          after.router.setBase world.router.base⟩] },
        { after with router := after.router.setBase world.router.base }) := by
  have hinside : (insideGroup extension body.run).run world =
      (account, { after with router := after.router.setBase world.router.base }) := by
    show (let ran := body.run.run { world with router := world.router.enter extension }
      (ran.1, { ran.2 with router := ran.2.router.setBase world.router.base })) = _
    rw [hbody]
  have hget : (get : StateM World World).run world = (world, world) := rfl
  rw [run, run_bind hget, run_bind hinside]
  rfl

theorem run_rescue_of_ok (hbody : body.run.run world = (account, between))
    (hok : account.outcome = .ok ()) :
    (rescue body expected handler).run.run world = (account, between) := by
  rw [run, run_bind hbody, hok]
  rfl

theorem run_rescue_of_unexpected (hbody : body.run.run world = (account, between))
    (herror : account.outcome = .error fault) (hexpected : expected fault = false) :
    (rescue body expected handler).run.run world = (account, between) := by
  rw [run, run_bind hbody, herror]
  simp only [hexpected]
  rfl

theorem run_rescue_of_expected (hbody : body.run.run world = (account, between))
    (herror : account.outcome = .error fault) (hexpected : expected fault = true)
    (hhandler : handler.run.run between = (other, after)) :
    (rescue body expected handler).run.run world = (account.append other, after) := by
  rw [run, run_bind hbody, herror]
  simp only [hexpected, if_true]
  exact run_bind hhandler

end Runs

/-- Keeping an account does not change what a program does. -/
theorem exec_run (program : Program) {world after : World} {account : Account}
    (h : program.run.run world = (account, after)) :
    program.exec.run world = (account.outcome, after) := by
  induction program generalizing world after account with
  | done =>
    cases h
    rfl
  | call what =>
    have hrun : what.record.run world =
        ({ calls := [⟨what, world.router, (what.run.run world).1, (what.run.run world).2.router⟩]
           outcome := (what.run.run world).1.map fun _ => () }, (what.run.run world).2) := rfl
    obtain ⟨rfl, rfl⟩ := Prod.mk.inj (hrun.symm.trans h)
    show (what.run >>= fun _ => pure ()).run world = _
    rw [Action.run_bind]
    cases what.run.run world with
    | mk result after => cases result <;> rfl
  | setBase base =>
    cases h
    rfl
  | fail fault own =>
    cases h
    rfl
  | seq first rest ihfirst ihrest =>
    show (first.exec >>= fun _ => rest.exec).run world = _
    cases hfirst : first.run.run world with
    | mk one between =>
      cases hone : one.outcome with
      | error fault =>
        rw [run_seq_of_error hfirst hone] at h
        cases h
        rw [hone]
        exact Action.run_bind_error (hone ▸ ihfirst hfirst)
      | ok u =>
        cases hrest : rest.run.run between with
        | mk other last =>
          rw [run_seq_of_ok hfirst hone hrest] at h
          obtain ⟨rfl, rfl⟩ := Prod.mk.inj h
          rw [Action.run_bind_ok (hone ▸ ihfirst hfirst)]
          show rest.exec.run between = (other.outcome, last)
          exact ihrest hrest
  | group extension body ih =>
    cases hbody : body.run.run { world with router := world.router.enter extension } with
    | mk inner between =>
      rw [run_group hbody] at h
      cases h
      have hexec := ih hbody
      show (let ran := body.exec.run { world with router := world.router.enter extension }
        (ran.1, { ran.2 with router := ran.2.router.setBase world.router.base })) = _
      rw [hexec]
  | rescue body expected handler ihbody ihhandler =>
    rw [exec, Action.run_tryCatch]
    cases hbody : body.run.run world with
    | mk inner between =>
      rw [ihbody hbody]
      cases hinner : inner.outcome with
      | ok u =>
        rw [run_rescue_of_ok hbody hinner] at h
        cases h
        rw [hinner]
      | error fault =>
        cases hexpected : expected fault with
        | false =>
          rw [run_rescue_of_unexpected hbody hinner hexpected] at h
          cases h
          rw [hinner]
          simp only [hexpected]
          rfl
        | true =>
          cases hhandler : handler.run.run between with
          | mk other last =>
            rw [run_rescue_of_expected hbody hinner hexpected hhandler] at h
            obtain ⟨rfl, rfl⟩ := Prod.mk.inj h
            simp only [hexpected, if_true]
            show handler.exec.run between = (other.outcome, last)
            exact ihhandler hhandler

variable {world after : World} {account : Account} {scope : BaseScope}

theorem follows_call {what : RouteCall} (hopen : world.router.frozen = false)
    (hscope : scope.base = world.router.base)
    (h : (call what).run.run world = (account, after)) :
    account.Follows ((call what).flatten world.router.config scope) world.router after.router := by
  have hrun : (call what).run.run world =
      ({ calls := [⟨what, world.router, (what.run.run world).1, (what.run.run world).2.router⟩]
         outcome := (what.run.run world).1.map fun _ => () }, (what.run.run world).2) := rfl
  obtain ⟨rfl, rfl⟩ := Prod.mk.inj (hrun.symm.trans h)
  rw [flatten, hscope]
  cases houtcome : what.outcome world.router.config world.router.base with
  | error fault =>
    rw [RouteCall.run_of_error hopen houtcome]
    have hsettled : CallRecord.Settled ⟨what, world.router, .error fault, world.router⟩ := rfl
    exact Account.Follows.call hscope hsettled
  | ok route =>
    rw [RouteCall.run_of_ok hopen houtcome]
    have hsettled :
        CallRecord.Settled ⟨what, world.router, .ok route, (world.addRoute route).router⟩ :=
      ⟨RouteCall.pattern_of_outcome houtcome, rfl⟩
    exact Account.Follows.call hscope hsettled

/-- What a program does to an open router follows its flat meaning. -/
theorem follows_flatten (program : Program) (hopen : world.router.frozen = false)
    (hscope : scope.base = world.router.base) (h : program.run.run world = (account, after)) :
    account.Follows (program.flatten world.router.config scope) world.router after.router := by
  induction program generalizing world after account scope with
  | done =>
    cases h
    exact Account.Follows.nothing hscope (.ok ())
  | call what => exact follows_call hopen hscope h
  | setBase base =>
    cases h
    exact Account.Follows.setBase world.router base
  | fail fault own =>
    cases h
    exact Account.Follows.nothing hscope (.error fault)
  | seq first rest ihfirst ihrest =>
    cases hfirst : first.run.run world with
    | mk one between =>
      have hone := ihfirst hopen hscope hfirst
      cases houtcome : one.outcome with
      | error fault =>
        rw [run_seq_of_error hfirst houtcome] at h
        cases h
        rw [flatten, ← hone.outcome, houtcome]
        exact hone
      | ok u =>
        cases hrest : rest.run.run between with
        | mk other last =>
          rw [run_seq_of_ok hfirst houtcome hrest] at h
          cases h
          have hother := ihrest (hone.frozen_eq.trans hopen) hone.base_eq hrest
          rw [hone.config_eq] at hother
          simp only [flatten, ← hone.outcome, houtcome]
          exact hone.append hother
  | group extension body ih =>
    cases hbody : body.run.run { world with router := world.router.enter extension } with
    | mk inner between =>
      rw [run_group hbody] at h
      cases h
      have hinner : (scope.enter extension).base = world.router.base ++ extension := by
        rw [BaseScope.base_enter, hscope]
      have hinside : inner.Follows (body.flatten world.router.config (scope.enter extension))
          (world.router.enter extension) between.router := by
        refine ih ?_ ?_ hbody
        · exact hopen
        · exact hinner
      exact hinside.group hscope
  | rescue body expected handler ihbody ihhandler =>
    cases hbody : body.run.run world with
    | mk inner between =>
      have hinner := ihbody hopen hscope hbody
      cases houtcome : inner.outcome with
      | ok u =>
        rw [run_rescue_of_ok hbody houtcome] at h
        cases h
        simp only [flatten, ← hinner.outcome, houtcome]
        exact hinner
      | error fault =>
        cases hexpected : expected fault with
        | false =>
          rw [run_rescue_of_unexpected hbody houtcome hexpected] at h
          cases h
          simp only [flatten, ← hinner.outcome, houtcome, hexpected]
          exact hinner
        | true =>
          cases hhandler : handler.run.run between with
          | mk other last =>
            rw [run_rescue_of_expected hbody houtcome hexpected hhandler] at h
            cases h
            have hother := ihhandler (hinner.frozen_eq.trans hopen) hinner.base_eq hhandler
            rw [hinner.config_eq] at hother
            simp only [flatten, ← hinner.outcome, houtcome, hexpected, if_true]
            exact hinner.append hother

/-- Groups in groups; the inner one sets the base pattern and fails, which is handled outside of it. -/
def nested : Program :=
  let get pattern := call (.verb .get pattern (.ref (.method "Shop" "show")) none)
  let refused := call (.map (.text "GET") "/c" (.ref (.method "Shop" "show")) none)
  let inner := seq (get "/a") (seq (setBase "/x") (seq (get "/b") (seq refused (get "/never"))))
  group "/api" (seq (get "/users") (seq (rescue (group "/v1" inner) (fun _ => true) done) (get "/d")))

end Program

end RequestRouter
