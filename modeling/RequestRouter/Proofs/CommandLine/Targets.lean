import Mathlib.Data.List.TakeWhile
import RequestRouter.CommandLine.Run
import RequestRouter.Proofs.Call.References
import RequestRouter.Proofs.World.Runs

/-!
# What targets lead to

A target is cut at its first colon into a module and a path (`Target.Writes`). From the module the
path is walked, what stands at its end is called if it is no router and can be called, and what is
then no router is opened if it holds one (`Environment.Names`); each step goes on from the world
that the one before has left. Where modules load without a fault of their own and attributes fail
only by being absent, every other outcome is one that the commands report, unless the target has no
module (`Environment.resolve_reported`).
-/

namespace RequestRouter

/-! ## How targets are written -/

namespace Target

/-- A target writes a module and a path of attributes. A path that is left out means the attribute
`router`. -/
inductive Writes : (target module : String) → (path : List String) → Prop
  | module {module} (hmodule : ':' ∉ module.toList) : Writes module module ["router"]
  | colon {module} (hmodule : ':' ∉ module.toList) : Writes (module ++ ":") module ["router"]
  | path {module path} (hmodule : ':' ∉ module.toList) (hpath : ∀ name ∈ path, '.' ∉ name.toList)
      (hne : ".".intercalate path ≠ "") :
      Writes (module ++ ":" ++ ".".intercalate path) module path

theorem not_mem_of_mem_splitOn {c : Char} {text : List Char} :
    ∀ part ∈ text.splitOn c, c ∉ part := by
  induction text with
  | nil => simp
  | cons first rest ih =>
    rw [List.splitOn_cons_eq_if_modifyHead]
    split
    · exact List.forall_mem_cons.mpr ⟨List.not_mem_nil, ih⟩
    · next hfirst =>
      obtain ⟨part, parts, hparts⟩ := List.exists_cons_of_ne_nil (List.splitOn_ne_nil c rest)
      rw [hparts] at ih
      rw [hparts, List.modifyHead_cons]
      obtain ⟨hpart, hothers⟩ := List.forall_mem_cons.mp ih
      refine List.forall_mem_cons.mpr ⟨fun hmem => ?_, hothers⟩
      rcases List.mem_cons.mp hmem with rfl | hmem
      · exact hfirst (beq_self_eq_true _)
      · exact hpart hmem

/-- A path is read back from its text, in which its names stand with points between them. -/
theorem pathOf_eq_iff {text : String} {path : List String} (hne : text ≠ "") :
    pathOf text.toList = path ↔
      (∀ name ∈ path, '.' ∉ name.toList) ∧ ".".intercalate path = text := by
  have htexts (names : List (List Char)) : (names.map String.ofList).map String.toList = names := by
    simp [Function.comp_def]
  constructor
  · rintro rfl
    refine ⟨fun name hname => ?_, ?_⟩
    · obtain ⟨part, hpart, rfl⟩ := List.mem_map.mp hname
      rw [String.toList_ofList]
      exact not_mem_of_mem_splitOn part hpart
    · rw [← String.toList_inj, String.toList_intercalate, pathOf, htexts]
      exact List.intercalate_splitOn '.'
  · rintro ⟨hpath, rfl⟩
    have hnames : ∀ part ∈ path.map String.toList, '.' ∉ part := by
      intro part hpart
      obtain ⟨name, hname, rfl⟩ := List.mem_map.mp hpart
      exact hpath name hname
    have hpathne : path.map String.toList ≠ [] := by
      intro hnil
      rw [List.map_eq_nil_iff.mp hnil] at hne
      exact hne rfl
    rw [pathOf, String.toList_intercalate]
    show (List.splitOn '.' (['.'].intercalate _)).map String.ofList = _
    rw [List.splitOn_intercalate '.' hnames hpathne, List.map_map]
    simp [Function.comp_def]

section Parts

variable {module : String} (hmodule : ':' ∉ module.toList)

include hmodule

theorem parts_module : parts module = (module, ["router"]) := by
  have htake : module.toList.takeWhile (· != ':') = module.toList := by
    rw [List.takeWhile_eq_self_iff]
    exact Text.ne_mark hmodule
  have hdrop : module.toList.dropWhile (· != ':') = [] :=
    List.dropWhile_eq_nil_iff.mpr (Text.ne_mark hmodule)
  simp only [parts, htake, hdrop, String.ofList_toList]
  rfl

theorem parts_colon (text : String) : parts (module ++ ":" ++ text) =
    (module, if text = "" then ["router"] else pathOf text.toList) := by
  have htarget : (module ++ ":" ++ text).toList = module.toList ++ ':' :: text.toList := by
    simp
  obtain ⟨htake, hdrop⟩ := Text.takeWhile_mark hmodule text.toList
  simp only [parts, htarget, htake, hdrop, String.ofList_toList, List.drop_succ_cons,
    List.drop_zero]
  by_cases htext : text = ""
  · subst htext
    rfl
  · have hempty : text.toList.isEmpty = false := by
      simpa [List.isEmpty_eq_false_iff] using htext
    simp only [hempty, htext, Bool.false_eq_true, if_false]

end Parts

/-- A target is a module by itself, or a module, a colon and a text. -/
theorem exists_module (target : String) : ∃ module, ':' ∉ module.toList ∧
    (target = module ∨ ∃ text, target = module ++ ":" ++ text) := by
  by_cases hmem : ':' ∈ target.toList
  · obtain ⟨front, back, htarget, hfront⟩ := List.eq_append_cons_of_mem hmem
    refine ⟨String.ofList front, by simpa using hfront, .inr ⟨String.ofList back, ?_⟩⟩
    rw [← String.toList_inj, htarget]
    simp
  · exact ⟨target, hmem, .inl rfl⟩

/-- Every target writes one module and one path. -/
theorem writes_iff {target module : String} {path : List String} :
    Writes target module path ↔ parts target = (module, path) := by
  constructor
  · intro h
    cases h with
    | module hmodule => exact parts_module hmodule
    | colon hmodule =>
      have hparts := parts_colon hmodule ""
      rwa [String.append_empty] at hparts
    | path hmodule hpath hne =>
      rw [parts_colon hmodule, if_neg hne, (pathOf_eq_iff hne).mpr ⟨hpath, rfl⟩]
  · obtain ⟨front, hfront, rfl | ⟨text, rfl⟩⟩ := exists_module target
    · rw [parts_module hfront]
      rintro ⟨⟩
      exact .module hfront
    · rw [parts_colon hfront]
      by_cases htext : text = ""
      · subst htext
        rw [if_pos rfl, String.append_empty]
        rintro ⟨⟩
        exact .colon hfront
      · rw [if_neg htext]
        rintro ⟨⟩
        obtain ⟨hpath, hwritten⟩ := (pathOf_eq_iff htext).mp rfl
        have hwrites := Writes.path hfront hpath (by rwa [hwritten])
        rwa [hwritten] at hwrites

end Target

/-! ## What an action can fail with -/

/-- Whatever the world is, the faults of an action have a property. -/
def Action.Fails {α : Type} (action : Action α) (p : Fault → Prop) : Prop :=
  ∀ world fault after, action.run world = (.error fault, after) → p fault

namespace Action.Fails

variable {α β : Type} {p q : Fault → Prop}

theorem pure (a : α) : Action.Fails (pure a) p := by
  rintro world fault after ⟨⟩

theorem throw {fault : Fault} (h : p fault) : Action.Fails (throw fault : Action α) p := by
  rintro world fault' after ⟨⟩
  exact h

theorem mono {x : Action α} (hx : x.Fails p) (h : ∀ fault, p fault → q fault) : x.Fails q :=
  fun world fault after hrun => h fault (hx world fault after hrun)

theorem bind {x : Action α} {f : α → Action β} (hx : x.Fails p) (hf : ∀ a, (f a).Fails p) :
    (x >>= f).Fails p := by
  intro world fault after hrun
  rw [Action.run_bind] at hrun
  generalize hfirst : x.run world = outcome at hrun
  obtain ⟨result, between⟩ := outcome
  cases result with
  | ok a => exact hf a between fault after hrun
  | error first =>
    cases hrun
    exact hx world fault after hfirst

theorem foldlM {f : β → α → Action β} (hf : ∀ b a, (f b a).Fails p) (row : List α) (b : β) :
    (row.foldlM f b).Fails p := by
  induction row generalizing b with
  | nil => exact .pure b
  | cons a rest ih =>
    rw [List.foldlM_cons]
    exact (hf b a).bind ih

/-- A handler that fails itself decides what the failure is. -/
theorem handled {x : Action α} {handle : Fault → Fault} (h : ∀ fault, p (handle fault)) :
    (tryCatch x fun fault => MonadExcept.throw (handle fault)).Fails p := by
  intro world fault after hrun
  rw [Action.run_tryCatch] at hrun
  split at hrun
  · cases hrun
  · cases hrun
    exact h _

end Action.Fails

/-! ## What stands at the end of a path -/

namespace Environment

variable {Obj : Type} (environment : Environment Obj)

/-- A path of attributes is walked. -/
inductive Walks : Obj → World → (path : List String) → Obj → World → Prop
  | here {obj world} : Walks obj world [] obj world
  | step {obj next found name path} {world between after : World}
      (hname : (environment.member obj name).run world = (.ok next, between))
      (hpath : Walks next between path found after) : Walks obj world (name :: path) found after

/-- An object that is no router and can be called is called once, without arguments. -/
inductive Calls : Obj → World → Obj → World → Prop
  | kept {obj world} (h : (environment.router? obj).isSome ∨ environment.call? obj = none) :
      Calls obj world obj world
  | called {obj made} {call : Action Obj} {world after : World}
      (hrouter : environment.router? obj = none) (hcall : environment.call? obj = some call)
      (hmade : call.run world = (.ok made, after)) : Calls obj world made after

/-- An object is a router, or its attribute `router` is one, which is read twice. -/
inductive Opens : Obj → World → Router → World → Prop
  | router {obj router world} (h : environment.router? obj = some router) :
      Opens obj world router world
  | holder {obj held again} {router : Router} {world between after : World}
      (hrouter : environment.router? obj = none)
      (hheld : (environment.member obj "router").run world = (.ok held, between))
      (hsome : (environment.router? held).isSome)
      (hagain : (environment.member obj "router").run between = (.ok again, after))
      (hopened : environment.router? again = some router) : Opens obj world router after

/-- A path leads from an object to a router. -/
def Leads (start : Obj) (world : World) (path : List String) (router : Router) (after : World) :
    Prop :=
  ∃ found walked made called, environment.Walks start world path found walked ∧
    environment.Calls found walked made called ∧ environment.Opens made called router after

/-- A target names a router: its path leads there from its module. -/
def Names (target : String) (world : World) (router : Router) (after : World) : Prop :=
  ∃ module path start imported, Target.Writes target module path ∧
    (environment.importModule module).run world = (.ok start, imported) ∧
    environment.Leads start imported path router after

variable {environment} {world after : World}

theorem run_walk_eq_ok_iff {path : List String} {start found : Obj} :
    (path.foldlM environment.member start).run world = (.ok found, after) ↔
      environment.Walks start world path found after := by
  constructor
  · intro h
    induction path generalizing start world with
    | nil =>
      cases h
      exact .here
    | cons name path ih =>
      rw [List.foldlM_cons] at h
      obtain ⟨next, between, hname, hpath⟩ := Action.run_bind_eq_ok h
      exact .step hname (ih hpath)
  · intro h
    induction h with
    | here => rfl
    | step hname _ ih => rw [List.foldlM_cons, Action.run_bind_ok hname, ih]

theorem run_openFactory_eq_ok_iff {target : String} {obj made : Obj} :
    (environment.openFactory target obj).run world = (.ok made, after) ↔
      environment.Calls obj world made after := by
  unfold openFactory
  split
  · next call hrouter hcall =>
    rw [Action.run_tryCatch]
    constructor
    · intro h
      split at h
      · next hmade =>
        cases h
        exact .called hrouter hcall hmade
      · cases h
    · intro h
      cases h with
      | kept h => simp [hrouter, hcall] at h
      | called _ hcall' hmade =>
        obtain rfl := Option.some.inj (hcall.symm.trans hcall')
        rw [hmade]
  · next hkept =>
    constructor
    · rintro ⟨⟩
      refine .kept ?_
      cases hrouter : environment.router? obj with
      | some router => exact .inl rfl
      | none =>
        refine .inr (Option.eq_none_iff_forall_not_mem.mpr fun call hcall => ?_)
        exact hkept call hrouter hcall
    · intro h
      cases h with
      | kept => rfl
      | called hrouter hcall => exact absurd hcall (hkept _ hrouter)

/-- An object that is no router is opened by reading its attribute once, and once more if that gives
a router. -/
theorem run_openHolder {obj : Obj} (hrouter : environment.router? obj = none) :
    (environment.openHolder obj).run world =
      match (environment.member obj "router").run world with
      | (.ok held, between) =>
        if (environment.router? held).isSome then (environment.member obj "router").run between
        else (.ok obj, between)
      | (.error fault, between) =>
        if fault.isA (.plain .member) then (.ok obj, between) else (.error fault, between) := by
  unfold openHolder
  simp only [hrouter]
  generalize hheld : (environment.member obj "router").run world = outcome
  obtain ⟨result, between⟩ := outcome
  rw [Action.run_bind_ok (Action.run_attempt hheld)]
  cases result with
  | ok held => exact apply_ite (fun action : Action Obj => action.run between) _ _ _
  | error fault => exact apply_ite (fun action : Action Obj => action.run between) _ _ _

theorem run_routerOf_eq_ok_iff {target : String} {obj : Obj} {router : Router} :
    (environment.routerOf target obj).run world = (.ok router, after) ↔
      environment.router? obj = some router ∧ after = world := by
  unfold routerOf
  cases environment.router? obj with
  | none =>
    constructor
    · rintro ⟨⟩
    · rintro ⟨⟨⟩, -⟩
  | some own =>
    constructor
    · rintro ⟨⟩
      exact ⟨rfl, rfl⟩
    · rintro ⟨⟨⟩, rfl⟩
      rfl

/-- What is opened at last has to be a router. -/
theorem run_opened_eq_ok_iff {target : String} {obj : Obj} {router : Router} :
    (environment.openHolder obj >>= environment.routerOf target).run world = (.ok router, after) ↔
      environment.Opens obj world router after := by
  constructor
  · intro h
    obtain ⟨opened, between, hopen, hresult⟩ := Action.run_bind_eq_ok h
    obtain ⟨hrouter, rfl⟩ := run_routerOf_eq_ok_iff.mp hresult
    cases hown : environment.router? obj with
    | some own =>
      rw [openHolder, hown] at hopen
      cases hopen
      exact .router hrouter
    | none =>
      rw [run_openHolder hown] at hopen
      split at hopen
      · next held seen hheld =>
        split at hopen
        · next hsome => exact .holder hown hheld hsome hopen hrouter
        · cases hopen
          rw [hown] at hrouter
          cases hrouter
      · split at hopen
        · cases hopen
          rw [hown] at hrouter
          cases hrouter
        · cases hopen
  · intro h
    cases h with
    | router hown =>
      have hopen : (environment.openHolder obj).run world = (.ok obj, world) := by
        rw [openHolder, hown]
        rfl
      rw [Action.run_bind_ok hopen]
      exact run_routerOf_eq_ok_iff.mpr ⟨hown, rfl⟩
    | holder hown hheld hsome hagain hopened =>
      have hopen := @run_openHolder _ environment world _ hown
      rw [hheld] at hopen
      simp only [hsome, if_true, hagain] at hopen
      rw [Action.run_bind_ok hopen]
      exact run_routerOf_eq_ok_iff.mpr ⟨hopened, rfl⟩

theorem run_routerAt_eq_ok_iff {target : String} {path : List String} {start : Obj}
    {router : Router} :
    (environment.routerAt target path start).run world = (.ok router, after) ↔
      environment.Leads start world path router after := by
  unfold routerAt Leads
  constructor
  · intro h
    obtain ⟨found, walked, hwalk, h⟩ := Action.run_bind_eq_ok h
    obtain ⟨made, called, hcall, h⟩ := Action.run_bind_eq_ok h
    exact ⟨found, walked, made, called, run_walk_eq_ok_iff.mp hwalk,
      run_openFactory_eq_ok_iff.mp hcall, run_opened_eq_ok_iff.mp h⟩
  · rintro ⟨found, walked, made, called, hwalk, hcall, hopen⟩
    rw [Action.run_bind_ok (run_walk_eq_ok_iff.mpr hwalk),
      Action.run_bind_ok (run_openFactory_eq_ok_iff.mpr hcall)]
    exact run_opened_eq_ok_iff.mpr hopen

theorem run_resolve_eq_ok_iff {target : String} {router : Router} :
    (environment.resolve target).run world = (.ok router, after) ↔
      environment.Names target world router after := by
  constructor
  · intro h
    obtain ⟨start, imported, himport, hleads⟩ := Action.run_bind_eq_ok h
    exact ⟨_, _, start, imported, Target.writes_iff.mpr rfl, himport,
      run_routerAt_eq_ok_iff.mp hleads⟩
  · rintro ⟨module, path, start, imported, hwrites, himport, hleads⟩
    rw [resolve, Target.writes_iff.mp hwrites]
    exact (Action.run_bind_ok himport).trans (run_routerAt_eq_ok_iff.mpr hleads)

/-! ## What is reported -/

/-- An attribute can only be absent. -/
def Orderly (environment : Environment Obj) : Prop :=
  ∀ obj name, (environment.member obj name).Fails fun fault => fault.isA (.plain .member) = true

theorem isReported_of_isA_member {fault : Fault} (h : fault.isA (.plain .member) = true) :
    CommandLine.isReported fault = true := by
  simp [CommandLine.isReported, h]

theorem fails_openHolder (h : environment.Orderly) (obj : Obj) :
    (environment.openHolder obj).Fails fun fault => fault.isA (.plain .member) = true := by
  cases hrouter : environment.router? obj with
  | some own =>
    rw [openHolder, hrouter]
    exact .pure obj
  | none =>
    intro world fault after hrun
    rw [run_openHolder hrouter] at hrun
    split at hrun
    · split at hrun
      · exact h obj "router" _ fault after hrun
      · cases hrun
    · next hheld =>
      rw [if_pos (h obj "router" _ _ _ hheld)] at hrun
      cases hrun

theorem fails_openFactory (target : String) (obj : Obj) :
    (environment.openFactory target obj).Fails (CommandLine.isReported · = true) := by
  unfold openFactory
  split
  · exact .handled fun fault => rfl
  · exact .pure obj

theorem fails_routerOf (target : String) (obj : Obj) :
    (environment.routerOf target obj).Fails (CommandLine.isReported · = true) := by
  unfold routerOf
  split
  · exact .pure _
  · exact .throw rfl

/-- Whatever stands at the end of a path, what goes wrong from its beginning on is reported. -/
theorem fails_routerAt (h : environment.Orderly) (target : String) (path : List String)
    (start : Obj) :
    (environment.routerAt target path start).Fails (CommandLine.isReported · = true) := by
  have hwalk := Action.Fails.foldlM h path start
  exact (hwalk.mono fun _ => isReported_of_isA_member).bind fun found =>
    (fails_openFactory target found).bind fun made =>
      ((fails_openHolder h made).mono fun _ => isReported_of_isA_member).bind
        (fails_routerOf target)

theorem run_importModule_empty :
    (environment.importModule "").run world = (.error (.importing .noName), world) := rfl

theorem isReported_of_importModule {name : String} {fault : Fault} (hname : name ≠ "")
    (hload : ∀ fault after, (environment.load name).run world = (.error fault, after) →
      fault.isA (.plain .module) = true)
    (h : (environment.importModule name).run world = (.error fault, after)) :
    CommandLine.isReported fault = true := by
  have hempty : name.isEmpty = false := by simpa [String.isEmpty_eq_false_iff] using hname
  unfold importModule at h
  simp only [hempty, Bool.false_eq_true, if_false] at h
  split at h
  · cases h
    rfl
  · simp [CommandLine.isReported, hload fault after h]

/-- How a target can fail: with a fault that is reported, or for want of a module. -/
theorem isReported_of_resolve {target : String} {fault : Fault} (horderly : environment.Orderly)
    (hload : ∀ fault after, (environment.load (Target.parts target).1).run world =
      (.error fault, after) → fault.isA (.plain .module) = true)
    (hmodule : (Target.parts target).1 ≠ "")
    (h : (environment.resolve target).run world = (.error fault, after)) :
    CommandLine.isReported fault = true := by
  have hresolve : environment.resolve target =
      environment.importModule (Target.parts target).1 >>=
        environment.routerAt target (Target.parts target).2 := rfl
  rw [hresolve, Action.run_bind] at h
  generalize himport : (environment.importModule (Target.parts target).1).run world = outcome at h
  obtain ⟨result, imported⟩ := outcome
  cases result with
  | ok start => exact fails_routerAt horderly _ _ start _ _ _ h
  | error first =>
    cases h
    exact isReported_of_importModule hmodule hload himport

theorem run_resolve_of_no_module {target : String} (h : (Target.parts target).1 = "") :
    (environment.resolve target).run world = (.error (.importing .noName), world) := by
  have hresolve : environment.resolve target =
      environment.importModule (Target.parts target).1 >>=
        environment.routerAt target (Target.parts target).2 := rfl
  rw [hresolve, h]
  exact Action.run_bind_error run_importModule_empty

end Environment

/-! ## The listing of a target -/

namespace CommandLine

/-- The argument is a target, and neither an option nor a divider. -/
def IsTarget (argument : String) : Prop := argument ≠ divider ∧ signOf argument = .positional

theorem read_routes_eq (argument : String) : read ["routes", argument] =
    (readCommand routesForm [] [argument]).bind fun
      | [target] => .ok (.routes target)
      | _ => .error .strayDivider := rfl

theorem read_routes_of_isTarget {argument : String} (h : IsTarget argument) :
    read ["routes", argument] = .ok (.routes argument) := by
  obtain ⟨hdivider, hsign⟩ := h
  have hsplit : split routesForm false {} [argument] = .ok ⟨[argument], []⟩ := by
    have hbeq : (argument == divider) = false := beq_eq_false_iff_ne.mpr hdivider
    simp only [split, hbeq, hsign, Bool.false_eq_true, if_false]
    rfl
  rw [read_routes_eq, readCommand, hsplit]
  rfl

theorem read_routes_of_not_isTarget {argument : String} (h : ¬ IsTarget argument) :
    ∃ console, read ["routes", argument] = .error (.console console) ∧
      (console.exit = some 0 ∨ console.exit = some 2) := by
  by_cases hdivider : argument = divider
  · subst hdivider
    exact ⟨_, rfl, .inr rfl⟩
  · have hbeq : (argument == divider) = false := beq_eq_false_iff_ne.mpr hdivider
    rw [read_routes_eq, readCommand]
    cases hsign : signOf argument with
    | positional => exact absurd ⟨hdivider, hsign⟩ h
    | help =>
      simp only [split, hbeq, hsign, Bool.false_eq_true, if_false]
      exact ⟨_, rfl, .inl rfl⟩
    | helpWith value =>
      simp only [split, hbeq, hsign, Bool.false_eq_true, if_false]
      exact ⟨_, rfl, .inr rfl⟩
    | unknown =>
      simp only [split, hbeq, hsign, Bool.false_eq_true, if_false]
      exact ⟨_, rfl, .inr rfl⟩

/-- Only a hyphen makes something else of an argument. -/
theorem isTarget_of_head {argument : String} (h : argument.toList.head? ≠ some '-') :
    IsTarget argument := by
  refine ⟨?_, ?_⟩
  · rintro rfl
    exact h rfl
  · have hhead : (argument.toList.head? != some '-') = true := bne_iff_ne.mpr h
    simp only [signOf, hhead, if_true]

theorem isTarget_of_no_module {target : String} {path : List String}
    (h : Target.Writes target "" path) : IsTarget target := by
  cases h with
  | module => exact isTarget_of_head (by decide)
  | colon => exact isTarget_of_head (by decide)
  | path => exact isTarget_of_head (by simp)

/-- What the listing command comes to: the routes of the router, or a message. -/
def shownRoutes : Except Fault Router → Console
  | .ok router => .print (Report.table router.routes)
  | .error fault => .fail 1 ("Error: " ++ fault.message ++ "\n")

end CommandLine

namespace Environment

open CommandLine

variable {Obj : Type} {environment : Environment Obj} {world after : World} {target : String}

theorem run_routes_of_reported {outcome : Except Fault Router}
    (h : (environment.resolve target).run world = (outcome, after))
    (hreported : ∀ fault, outcome = .error fault → isReported fault = true) :
    ((environment.runCommand (.routes target)).run world).1 = .ok (shownRoutes outcome) := by
  rw [runCommand, withRouter, Action.run_bind_ok (Action.run_attempt h)]
  cases outcome with
  | ok router => rfl
  | error fault =>
    simp only [hreported fault rfl, if_true]
    rfl

theorem run_routes_of_not_reported {fault : Fault}
    (h : (environment.resolve target).run world = (.error fault, after))
    (hreported : isReported fault = false) :
    (environment.runCommand (.routes target)).run world = (.error fault, after) := by
  rw [runCommand, withRouter, Action.run_bind_ok (Action.run_attempt h)]
  simp only [hreported, Bool.false_eq_true, if_false]
  rfl

/-- Every target writes one module and one path. Where loading the module can only fail because it
cannot be found, and attributes only by being absent, the target is resolved to the routers that it
names, and to no others. Every other outcome is a missing module, a missing attribute or a type that
does not fit, whatever a factory fails with, and it is reported: the listing command prints the
routes or this one message, or is answered by the reader of its arguments. The exception is a
target without a module: what it fails with is neither of the three, and the command fails with it
too. -/
theorem resolve_reported (horderly : environment.Orderly)
    (hload : ∀ module path, Target.Writes target module path → ∀ fault after,
      (environment.load module).run world = (.error fault, after) →
        fault.isA (.plain .module) = true) :
    ∃ module path, (∀ m p, Target.Writes target m p ↔ m = module ∧ p = path) ∧
      (∀ router after, (environment.resolve target).run world = (.ok router, after) ↔
        environment.Names target world router after) ∧
      (module ≠ "" →
        (∀ fault after, (environment.resolve target).run world = (.error fault, after) →
          fault.isA (.plain .module) = true ∨ fault.isA (.plain .member) = true ∨
            fault.isA (.plain .type) = true) ∧
        ((environment.runCommand (.routes target)).run world).1 =
          .ok (shownRoutes ((environment.resolve target).run world).1) ∧
        (IsTarget target →
          environment.run ["routes", target] = environment.runCommand (.routes target)) ∧
        (¬ IsTarget target → ∃ console : Console,
          (console.exit = some 0 ∨ console.exit = some 2) ∧
            environment.run ["routes", target] = pure console)) ∧
      (module = "" →
        (environment.resolve target).run world = (.error (.importing .noName), world) ∧
        (environment.run ["routes", target]).run world = (.error (.importing .noName), world) ∧
        (Fault.importing .noName).kind = .plain .value) := by
  have hwrites : Target.Writes target (Target.parts target).1 (Target.parts target).2 :=
    Target.writes_iff.mpr rfl
  refine ⟨(Target.parts target).1, (Target.parts target).2, fun m p => ?_,
    fun router after => run_resolve_eq_ok_iff, fun hmodule => ?_, fun hmodule => ?_⟩
  · rw [Target.writes_iff, Prod.ext_iff]
    exact and_congr eq_comm eq_comm
  · have hreported : ∀ fault after,
        (environment.resolve target).run world = (.error fault, after) → isReported fault = true :=
      fun fault after h => isReported_of_resolve horderly (hload _ _ hwrites) hmodule h
    refine ⟨fun fault after h => ?_, ?_, fun htarget => ?_, fun htarget => ?_⟩
    · have hfault := hreported fault after h
      simp only [isReported, Bool.or_eq_true] at hfault
      exact or_assoc.mp hfault
    · generalize houtcome : (environment.resolve target).run world = ran
      obtain ⟨outcome, after⟩ := ran
      refine run_routes_of_reported houtcome ?_
      rintro fault rfl
      exact hreported fault after houtcome
    · rw [run, read_routes_of_isTarget htarget]
    · obtain ⟨console, hread, hexit⟩ := read_routes_of_not_isTarget htarget
      exact ⟨console, hexit, by rw [run, hread]⟩
  · have hresolve := @run_resolve_of_no_module _ environment world _ hmodule
    rw [hmodule] at hwrites
    refine ⟨hresolve, ?_, rfl⟩
    rw [run, read_routes_of_isTarget (isTarget_of_no_module hwrites)]
    exact run_routes_of_not_reported hresolve rfl

end Environment

/-! ## Modules -/

namespace Thing

theorem fails_among (typeName : String) (attributes : List (String × Thing)) (name : String) :
    (among typeName attributes name).Fails fun fault => fault.isA (.plain .member) = true := by
  unfold among
  split
  · exact .pure _
  · exact .throw rfl

theorem fails_classAttribute (c : Class) (name : String) :
    (classAttribute c name).Fails fun fault => fault.isA (.plain .member) = true := by
  unfold classAttribute
  refine .bind (fun world fault after h => ?_) fun body => ?_
  · cases h
  · split
    · exact .pure _
    · exact .throw rfl

theorem fails_attributeOf (thing : Thing) (name : String) :
    (thing.attributeOf name).Fails fun fault => fault.isA (.plain .member) = true := by
  unfold attributeOf
  split
  · exact fails_among _ _ _
  · exact fails_classAttribute _ _
  · exact fails_classAttribute _ _
  · exact fails_among _ _ _
  · exact fails_among _ _ _
  · exact fails_among _ _ _
  · exact .throw rfl
  · exact fails_among _ _ _

end Thing

/-- Things in modules have attributes that can only be absent. -/
theorem Modules.orderly (modules : Modules) : modules.environment.Orderly := by
  intro item name
  cases item with
  | module module things =>
    dsimp only [Modules.environment]
    split
    · exact .pure _
    · exact .throw rfl
  | thing thing => exact (thing.fails_attributeOf name).bind fun _ => .pure _

/-- An application around a router. -/
def Modules.shopMade : Thing := .application [("router", .router {})] none

/-- An application with a function that makes another one. -/
def Modules.shopApi : Thing :=
  .application [("make", .routine "function" "make" [] shopMade)] none

/-- A module with an application. -/
def Modules.shop : Modules := [("shop", [("api", shopApi)])]

/-- A path that ends at a factory, and a target that has no module. -/
theorem Environment.resolve_reported_shop :
    Modules.shop.environment.Names "shop:api.make" {} {} {} ∧
      ((Modules.shop.environment.run ["routes", "shop:api.make"]).run {}).1 =
        .ok (.print "No routes registered.\n") ∧
      (Modules.shop.environment.run ["routes", ":router"]).run {} =
        (.error (.importing .noName), {}) := by
  have hshop : ∀ module path, Target.Writes "shop:api.make" module path → ∀ fault after,
      (Modules.shop.environment.load module).run {} = (.error fault, after) →
        fault.isA (.plain .module) = true := by
    intro module path hwrites fault after h
    have hparts : ("shop", ["api", "make"]) = (module, path) := Target.writes_iff.mp hwrites
    cases hparts
    cases h
  have hnone : ∀ module path, Target.Writes ":router" module path → ∀ fault after,
      (Modules.shop.environment.load module).run {} = (.error fault, after) →
        fault.isA (.plain .module) = true := by
    intro module path hwrites fault after h
    have hparts : ("", ["router"]) = (module, path) := Target.writes_iff.mp hwrites
    cases hparts
    cases h
    rfl
  have hnames : Modules.shop.environment.Names "shop:api.make" {} {} {} := by
    have himport : (Modules.shop.environment.importModule "shop").run {} =
        (.ok (.module "shop" [("api", Modules.shopApi)]), {}) := by
      rw [importModule, if_neg (by decide), if_neg (by decide +kernel)]
      rfl
    have hwalks : Modules.shop.environment.Walks (.module "shop" [("api", Modules.shopApi)]) {}
        ["api", "make"] (.thing (.routine "function" "make" [] Modules.shopMade)) {} :=
      .step rfl (.step rfl .here)
    have hcalls : Modules.shop.environment.Calls
        (.thing (.routine "function" "make" [] Modules.shopMade)) {} (.thing Modules.shopMade) {} :=
      .called rfl rfl rfl
    have hopens : Modules.shop.environment.Opens (.thing Modules.shopMade) {} {} {} :=
      .holder rfl rfl rfl rfl rfl
    exact ⟨"shop", ["api", "make"], _, _, Target.writes_iff.mpr rfl, himport,
      _, _, _, _, hwalks, hcalls, hopens⟩
  obtain ⟨module, path, hwrites, hresolve, hreported, -⟩ :=
    resolve_reported Modules.shop.orderly hshop
  obtain ⟨_, _, hbare, -, -, hempty⟩ := resolve_reported Modules.shop.orderly hnone
  obtain ⟨rfl, rfl⟩ := (hwrites "shop" ["api", "make"]).mp (Target.writes_iff.mpr rfl)
  obtain ⟨rfl, rfl⟩ := (hbare "" ["router"]).mp (Target.writes_iff.mpr rfl)
  obtain ⟨-, hlisted, hrun, -⟩ := hreported (by decide)
  refine ⟨hnames, ?_, (hempty rfl).2.1⟩
  rw [hrun (CommandLine.isTarget_of_head (by decide)), hlisted, (hresolve _ _).mpr hnames]
  rfl

end RequestRouter
