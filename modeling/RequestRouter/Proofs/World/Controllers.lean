import Mathlib.Data.List.Nodup
import RequestRouter.Proofs.Call.Invocations
import RequestRouter.Sample.Catalogue

/-!
# Controllers by name

Classes are registered as controllers with the registry itself or through an open router, under a
name that is given or under their own (`Enrolment.Leads`). The names of the registry come in the
order of their first calls, and each name belongs to the class of its first call for ever
(`Enrolment.Keeps`, an invariant of the calls). What one call can do is `Enrolment.Does`: it is
refused exactly if its name belongs to another class, and then it has changed nothing.

Classes are told apart by their numbers, so the bindings of a registry are names with numbers.
-/

namespace RequestRouter

/-! ## Registries -/

namespace Registry

/-- The names with the numbers of their classes. -/
def bindings (registry : Registry) : List (String × Nat) :=
  registry.map fun entry => (entry.1, entry.2.number)

variable {registry : Registry} {c owner : Class} {given : Option String}

theorem register_of_free (h : registry.lookup (effectiveName c given) = none) :
    registry.register c given = .ok (registry ++ [(effectiveName c given, c)]) := by
  have hfresh : effectiveName c given ∉ registry.keys := by
    rw [← Entries.has_iff_mem_keys, Entries.has, ← lookup, h]
    exact Bool.false_ne_true
  rw [register, ← lookup, h, ← Entries.put_of_not_mem hfresh]

theorem register_of_bound (h : registry.lookup (effectiveName c given) = some owner) :
    registry.register c given =
      if owner.number = c.number then .ok (Entries.put registry (effectiveName c given) c)
      else .error (.configuration (.nameTaken (effectiveName c given) owner.qualname)) := by
  rw [register, ← lookup, h]
  simp only [beq_iff_eq]

theorem lookup_eq_bindings (registry : Registry) (key : String) :
    (registry.lookup key).map Class.number = Entries.get? registry.bindings key := by
  induction registry with
  | nil => rfl
  | cons entry rest ih =>
    rw [lookup, Entries.get?, bindings, List.map_cons, Entries.get?]
    cases entry.1 == key with
    | true => rfl
    | false => exact ih

theorem bindings_append_singleton (registry : Registry) (key : String) (c : Class) :
    bindings (registry ++ [(key, c)]) = registry.bindings ++ [(key, c.number)] := List.map_append

/-- Writing a class once more under its name changes no binding. -/
theorem bindings_put {key : String} (h : registry.lookup key = some owner)
    (hsame : owner.number = c.number) :
    bindings (Entries.put registry key c) = registry.bindings := by
  induction registry with
  | nil => cases h
  | cons entry rest ih =>
    rw [lookup, Entries.get?] at h
    rw [Entries.put]
    cases hkey : entry.1 == key with
    | true =>
      rw [hkey] at h
      cases h
      simp only [if_true, bindings, List.map_cons, hsame]
    | false =>
      rw [hkey] at h
      simp only [Bool.false_eq_true, if_false, bindings, List.map_cons]
      exact congrArg _ (ih h)

end Registry

theorem Router.register_of_open {router : Router} (hopen : router.frozen = false) (c : Class)
    (given : Option String) : router.register c given =
      (router.controllers.register c given).map fun controllers => { router with controllers } := by
  have hnot : ¬ router.frozen = true := by
    rw [hopen]
    exact Bool.false_ne_true
  rw [register, checkOpen, if_neg hnot]
  cases router.controllers.register c given <;> rfl

/-! ## One call -/

/-- The world with another registry. -/
def World.withControllers (world : World) (controllers : Registry) : World :=
  { world with router := { world.router with controllers } }

/-- A call that registers a class as a controller: through the router, or with its registry. -/
structure Enrolment where
  c : Class
  given : Option String
  throughRouter : Bool

namespace Enrolment

variable {e : Enrolment} {history : List Enrolment} {world : World}

/-- The name that the call is about. -/
def name (e : Enrolment) : String := Registry.effectiveName e.c e.given

/-- Makes the call. -/
def run (e : Enrolment) : Action Unit :=
  if e.throughRouter then registerController e.c e.given else enrollController e.c e.given

/-- The router is open where the call is made through it. -/
def MayRun (e : Enrolment) (world : World) : Prop :=
  e.throughRouter = true → world.router.frozen = false

/-- What a call does in a world: its name is free and is bound, or the class has the name already,
or another class has it. -/
inductive Does (e : Enrolment) (world : World) : Except Fault Unit × World → Prop
  | binds : world.router.controllers.lookup e.name = none →
    Does e world (.ok (), world.withControllers (world.router.controllers ++ [(e.name, e.c)]))
  | repeats {owner : Class} {table : Registry} :
    world.router.controllers.lookup e.name = some owner → owner.number = e.c.number →
    table.bindings = world.router.controllers.bindings →
    Does e world (.ok (), world.withControllers table)
  | refused {owner : Class} : world.router.controllers.lookup e.name = some owner →
    owner.number ≠ e.c.number →
    Does e world (.error (.configuration (.nameTaken e.name owner.qualname)), world)

/-- Both ways of registering come to the same, as long as the router is open where it is used. -/
theorem run_eq (hmay : e.MayRun world) : e.run.run world =
    match world.router.controllers.register e.c e.given with
    | .ok table => (.ok (), world.withControllers table)
    | .error fault => (.error fault, world) := by
  rw [run]
  cases hrouter : e.throughRouter with
  | true =>
    rw [if_pos rfl]
    cases hregister : world.router.controllers.register e.c e.given with
    | ok table =>
      refine run_registerController_of_ok ?_
      rw [Router.register_of_open (hmay hrouter), hregister]
      rfl
    | error fault =>
      refine run_registerController_of_error ?_
      rw [Router.register_of_open (hmay hrouter), hregister]
      rfl
  | false =>
    rw [if_neg Bool.false_ne_true, enrollController, Action.run_bind_ok Action.run_get]
    cases hregister : world.router.controllers.register e.c e.given with
    | ok table =>
      rw [Action.run_bind_ok (Action.run_ofExcept rfl)]
      rfl
    | error fault => exact Action.run_bind_error (Action.run_ofExcept rfl)

theorem does_run (hmay : e.MayRun world) : e.Does world (e.run.run world) := by
  rw [run_eq hmay]
  cases hlookup : world.router.controllers.lookup e.name with
  | none =>
    rw [Registry.register_of_free hlookup]
    exact .binds hlookup
  | some owner =>
    rw [Registry.register_of_bound hlookup]
    by_cases hsame : owner.number = e.c.number
    · rw [if_pos hsame]
      exact .repeats hlookup hsame (Registry.bindings_put hlookup hsame)
    · rw [if_neg hsame]
      exact .refused hlookup hsame

/-- Some calls are made one after another, whether they fail or not. Between them the world may
change in all but the registry; the router may be frozen, and then no call is made through it. -/
inductive Leads (start : World) : List Enrolment → World → Prop
  | none : Leads start [] start
  | call {history : List Enrolment} {world : World} {e : Enrolment} : Leads start history world →
    e.MayRun world → Leads start (history ++ [e]) (e.run.run world).2
  | apart {history : List Enrolment} {world : World} (other : World) :
    Leads start history world → other.router.controllers = world.router.controllers →
    Leads start history other

/-- The first call for a name. -/
def first (history : List Enrolment) (key : String) : Option Enrolment :=
  history.find? (·.name == key)

theorem first_concat (history : List Enrolment) (e : Enrolment) (key : String) :
    first (history ++ [e]) key =
      (first history key).or (if e.name == key then some e else none) := by
  rw [first, List.find?_append, List.find?_singleton]
  rfl

theorem first_eq_none_iff {key : String} : first history key = none ↔ key ∉ history.map name := by
  simp [first]

theorem eraseDups_concat (names : List String) (key : String) :
    (names ++ [key]).eraseDups = names.eraseDups ++ if key ∈ names then [] else [key] := by
  rw [List.eraseDups_append, List.removeAll, List.filter_singleton, List.elem_eq_mem]
  by_cases hkey : key ∈ names
  · rw [if_pos hkey, decide_eq_true hkey]
    rfl
  · rw [if_neg hkey, decide_eq_false hkey]
    rfl

/-- What the bindings of a registry are after some calls. -/
structure Keeps (history : List Enrolment) (bindings : List (String × Nat)) : Prop where
  names : bindings.map (·.1) = (history.map name).eraseDups
  nodup : (bindings.map (·.1)).Nodup
  numbers : ∀ key, Entries.get? bindings key = (first history key).map (·.c.number)

theorem keeps_nil : Keeps [] [] where
  names := rfl
  nodup := List.nodup_nil
  numbers _ := rfl

section Step

variable {bindings : List (String × Nat)}

theorem Keeps.get?_eq_none_iff (h : Keeps history bindings) {key : String} :
    Entries.get? bindings key = none ↔ key ∉ history.map name := by
  rw [h.numbers, Option.map_eq_none_iff, first_eq_none_iff]

/-- A name that is new comes last. -/
theorem Keeps.new (h : Keeps history bindings) (hnew : Entries.get? bindings e.name = none) :
    Keeps (history ++ [e]) (bindings ++ [(e.name, e.c.number)]) := by
  have hfresh : e.name ∉ history.map name := h.get?_eq_none_iff.mp hnew
  refine ⟨?_, ?_, fun key => ?_⟩
  · rw [List.map_append, List.map_append, h.names, List.map_singleton, List.map_singleton,
      eraseDups_concat, if_neg hfresh]
  · rw [List.map_append, List.map_singleton, List.nodup_append]
    refine ⟨h.nodup, List.pairwise_singleton .., ?_⟩
    rintro _ hmem other hother rfl
    rw [List.mem_singleton.mp hother, h.names, List.mem_eraseDups] at hmem
    exact hfresh hmem
  · rw [Entries.get?_append, h.numbers, first_concat, Option.map_or, Entries.get?, Entries.get?]
    split <;> rfl

/-- A name that was there before keeps its place and its class. -/
theorem Keeps.old (h : Keeps history bindings) (hold : Entries.get? bindings e.name ≠ none) :
    Keeps (history ++ [e]) bindings := by
  have hmem : e.name ∈ history.map name := not_not.mp (mt h.get?_eq_none_iff.mpr hold)
  refine ⟨?_, h.nodup, fun key => ?_⟩
  · rw [List.map_append, h.names, List.map_singleton, eraseDups_concat, if_pos hmem,
      List.append_nil]
  · rw [h.numbers, first_concat]
    by_cases hkey : e.name = key
    · cases hfirst : first history key with
      | none => exact absurd (hkey ▸ hmem) (first_eq_none_iff.mp hfirst)
      | some earlier => rfl
    · rw [if_neg (by simpa using hkey), Option.or_none]

theorem Does.keeps {outcome : Except Fault Unit × World} (h : e.Does world outcome)
    (hkeeps : Keeps history world.router.controllers.bindings) :
    Keeps (history ++ [e]) outcome.2.router.controllers.bindings := by
  cases h with
  | binds hfree =>
    show Keeps _ (Registry.bindings _)
    rw [World.withControllers, Registry.bindings_append_singleton]
    refine hkeeps.new ?_
    rw [← Registry.lookup_eq_bindings, hfree]
    rfl
  | repeats hbound _ hsame =>
    show Keeps _ (Registry.bindings _)
    rw [World.withControllers, hsame]
    refine hkeeps.old ?_
    rw [← Registry.lookup_eq_bindings, hbound]
    nofun
  | refused hbound =>
    refine hkeeps.old ?_
    rw [← Registry.lookup_eq_bindings, hbound]
    nofun

end Step

section Run

variable {start reached : World} (h : Leads start history reached)

include h

theorem Leads.keeps (hempty : start.router.controllers = []) :
    Keeps history reached.router.controllers.bindings := by
  induction h with
  | none =>
    rw [hempty]
    exact keeps_nil
  | call _ hmay ih => exact (does_run hmay).keeps ih
  | apart _ _ hsame ih => exact hsame ▸ ih

end Run

end Enrolment

end RequestRouter
