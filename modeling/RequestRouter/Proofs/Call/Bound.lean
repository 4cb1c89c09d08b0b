import RequestRouter.Proofs.Call.Resolution
import RequestRouter.Proofs.World.Laws
import RequestRouter.Proofs.World.Handlers

/-!
# Calls with resolved arguments

What a call does falls into two parts: its arguments are bound to the parameters, and then the callee
goes on with what is bound (`Callee.proceed`). With the arguments that its slots were resolved to, the
first part never fails, and it gives each parameter the value that was found for it
(`Callee.call_resolved`).
-/

namespace RequestRouter

/-! ## Calls behind the binding of arguments -/

/-- What a function does once its arguments are bound. -/
def Function.proceed (f : Function) (receiver : Option Value) (bound : Entries String Value) :
    Action Returned :=
  if f.isAsync then return .suspended (.body f receiver bound) else f.start receiver bound

/-- What a class does once the arguments of its constructor are bound. -/
def Class.make (c : Class) (bound : Entries String Value) : Action Value := do
  let value ← match (← Action.bodyOf c).constructor with
    | .refused reason => throw (.misuse reason)
    | .bare => pure (.object c [])
    | .taking _ _ making => making.run c bound
  Action.emit (.constructed c)
  return value

/-- What a callee does once its arguments are bound. -/
def Callee.proceed (callee : Callee) (bound : Entries String Value) : Action Returned :=
  match callee with
  | .function f | .object _ f => f.proceed none bound
  | .method f receiver => f.proceed (some receiver) bound
  | .type c | .value (.type c) => return .value (← c.make bound)
  | .value v => throw (.misuse (.notCallable v.typeName))

section Bound

variable {formals : List (Formal Class Value)} {positional : List Value}
  {named bound : Entries String Value}
  (hbind : ∀ implicit, Binding.bind formals implicit positional named = .ok bound)

include hbind

theorem bindFor_eq (callee : String) (implicit : Nat) :
    bindFor callee formals implicit positional named = pure bound := by
  rw [bindFor, hbind]

theorem Function.call_eq {f : Function} (hformals : f.formals = formals)
    (receiver : Option Value) :
    f.call receiver positional named = f.proceed receiver bound := by
  subst hformals
  rw [call, proceed, bindFor_eq hbind]
  rfl

/-- A class that takes nothing is called with nothing. -/
theorem eq_nil_of_bind (hformals : formals = []) : positional = [] ∧ named = [] := by
  subst hformals
  have h := hbind 0
  cases named with
  | cons entry rest =>
    obtain ⟨name, value⟩ := entry
    cases h
  | nil =>
    cases positional with
    | nil => exact ⟨rfl, rfl⟩
    | cons value rest => cases h

theorem Class.run_construct {c : Class} {world : World}
    (hformals : (world.bodyOf c).constructor.formals = formals) :
    (c.construct positional named).run world = (c.make bound).run world := by
  rw [construct, make, Action.run_bind_ok (Action.run_bodyOf c),
    Action.run_bind_ok (Action.run_bodyOf c)]
  cases hcase : (world.bodyOf c).constructor with
  | refused reason => rfl
  | bare =>
    rw [hcase] at hformals
    obtain ⟨rfl, rfl⟩ := eq_nil_of_bind hbind hformals.symm
    rfl
  | taking owner taken making =>
    rw [hcase] at hformals
    obtain rfl : taken = formals := hformals
    simp only [bindFor_eq hbind, pure_bind]

/-- A call whose arguments can be bound does what the callee does with what is bound. -/
theorem Callee.run_call {callee : Callee} {world : World}
    (hformals : callee.formals.run world = (.ok formals, world)) :
    (callee.call positional named).run world = (callee.proceed bound).run world := by
  have hconstruct : ∀ c : Class, (Callee.type c).formals.run world = (.ok formals, world) →
      ((Callee.type c).call positional named).run world =
        ((Callee.type c).proceed bound).run world := by
    intro c hclass
    have hbody : (world.bodyOf c).constructor.formals = formals :=
      Except.ok.inj (congrArg Prod.fst hclass)
    show (c.construct positional named >>= _).run world = (c.make bound >>= _).run world
    rw [Action.run_bind, Action.run_bind, Class.run_construct hbind hbody]
  cases callee with
  | function f | object label f | method f receiver =>
    rw [call, proceed, Function.call_eq hbind (Except.ok.inj (congrArg Prod.fst hformals))]
  | type c => exact hconstruct c hformals
  | value v =>
    cases v with
    | type c => exact hconstruct c hformals
    | _ => rfl

end Bound

/-! ## Signatures that stay -/

theorem Callee.formals_of_slots {callee : Callee} {slots : List Slot} {world final : World}
    (h : callee.slots.run world = (.ok slots, final)) :
    ∃ formals, callee.formals.run world = (.ok formals, world) ∧
      (slotsOf formals).run world = (.ok slots, final) := by
  obtain ⟨formals, after, hformals, hslots⟩ := Action.run_bind_eq_ok h
  have hsame : after = world := by
    cases callee with
    | function f | object label f | method f receiver | type c =>
      cases hformals
      rfl
    | value v =>
      cases v <;> cases hformals
      rfl
  subst hsame
  exact ⟨formals, hformals, hslots⟩

/-- The signature of a callee is the same as long as classes do the same. -/
theorem Callee.formals_of_stable {callee : Callee} {formals : List (Formal Class Value)}
    {world reached : World} (hbodies : reached.bodies = world.bodies)
    (h : callee.formals.run world = (.ok formals, world)) :
    callee.formals.run reached = (.ok formals, reached) := by
  have hclass : ∀ c : Class, (Callee.type c).formals.run world = (.ok formals, world) →
      (Callee.type c).formals.run reached = (.ok formals, reached) := by
    intro c hc
    have hformals : (world.bodyOf c).constructor.formals = formals :=
      Except.ok.inj (congrArg Prod.fst hc)
    show (Except.ok (reached.bodyOf c).constructor.formals, reached) = _
    rw [World.bodyOf, hbodies, ← hformals]
    rfl
  cases callee with
  | function f | object label f | method f receiver =>
    cases h
    rfl
  | type c => exact hclass c h
  | value v =>
    cases v with
    | type c => exact hclass c h
    | _ => cases h

/-! ## Calls with resolved arguments -/

/-- What is bound for the parameters of a signature when its slots were resolved to values: each
parameter that takes one argument has the value that was found for its slot, and those that collect
arguments have none. -/
structure Binds (formals : List (Formal Class Value)) (found : List (Slot × Value))
    (bound : Entries String Value) : Prop where
  names : bound.keys = formals.map Formal.name
  found : ∀ slot value, (slot, value) ∈ found → bound.get? slot.name = some value
  collected : ∀ f ∈ formals, f.passing = .restByPosition → bound.get? f.name = some (.list [])
  collectedByName : ∀ f ∈ formals, f.passing = .restByName → bound.get? f.name = some (.pairs [])

theorem exists_binds {formals : List (Formal Class Value)} {found : List (Slot × Value)}
    (h : Binding.Fits formals (foundFor false found) (foundFor true found)) :
    ∃ bound, Binds formals found bound ∧ ∀ implicit, Binding.bind formals implicit
      ((foundFor false found).map Prod.snd) (foundFor true found) = .ok bound := by
  refine ⟨_, ?_, h.bind_eq⟩
  exact
    { names := by
        rw [Entries.keys, List.map_map]
        rfl
      found := fun slot value hmem => h.get?_of_mem (mem_foundFor hmem)
      collected := by
        intro f hf hpassing
        rw [h.get?_of_mem_formals hf, Binding.valueOf, hpassing]
      collectedByName := by
        intro f hf hpassing
        rw [h.get?_of_mem_formals hf, Binding.valueOf, hpassing] }

/-- A callee is called with the arguments that its slots were resolved to. The arguments are bound,
each parameter to the value that was found for it, and the callee goes on with them: in every world
in which it has this signature, and in particular in the world behind the resolution if the lookup
leaves classes alone. -/
theorem Callee.call_resolved {callee : Callee} {lookup : Option Lookup}
    {values : Entries String String} {world inspected after : World} {slots : List Slot}
    {arguments : Arguments} {formals : List (Formal Class Value)}
    (hformals : callee.formals.run world = (.ok formals, world))
    (hnames : (formals.map Formal.name).Nodup)
    (hslots : callee.slots.run world = (.ok slots, inspected))
    (hresolve : (resolveAll lookup values slots).run inspected = (.ok arguments, after)) :
    Mirrors slots formals ∧
    ∃ found bound, Resolved lookup values inspected found after ∧ found.map Prod.fst = slots ∧
      Binds formals found bound ∧
      (∀ implicit, Binding.bind formals implicit arguments.positional arguments.named =
        .ok bound) ∧
      (∀ reached, callee.formals.run reached = (.ok formals, reached) →
        (callee.call arguments.positional arguments.named).run reached =
          (callee.proceed bound).run reached) ∧
      ((∀ asked ∈ lookup, asked.Steady stable) →
        (callee.call arguments.positional arguments.named).run after =
          (callee.proceed bound).run after) := by
  obtain ⟨others, hothers, hslotsOf⟩ := Callee.formals_of_slots hslots
  obtain rfl : others = formals := by
    rw [hformals] at hothers
    cases hothers
    rfl
  have hmirrors := mirrors_of_slotsOf hslotsOf
  obtain ⟨found, hfound, hfirst, rfl, hfits⟩ := resolved_of_resolveAll hmirrors hnames hresolve
  obtain ⟨bound, hbinds, hbind⟩ := exists_binds hfits
  have hcall : ∀ reached, callee.formals.run reached = (.ok others, reached) →
      (callee.call _ _).run reached = (callee.proceed bound).run reached :=
    fun reached hreached => Callee.run_call hbind hreached
  refine ⟨hmirrors, found, bound, hfound, hfirst, hbinds, hbind, hcall, fun hsteady => ?_⟩
  -- neither reading the hints nor asking the lookup changes the signature
  have hinspected : inspected.bodies = world.bodies := by
    have hkeeps : stable.Keeps callee.slots := keeps_slots
    have hkept := hkeeps world
    rwa [hslots] at hkept
  have hafter : after.bodies = inspected.bodies := by
    have hkeeps : stable.Keeps (resolveAll lookup values slots) := keeps_resolveFrom hsteady slots
    have hkept := hkeeps inspected
    rwa [hresolve] at hkept
  exact hcall after (Callee.formals_of_stable (hafter.trans hinspected) hformals)

/-- A signature with parameters of all kinds. -/
def Function.mixed : Function where
  number := 0
  name := "mixed"
  qualname := "mixed"
  formals :=
    [{ name := "a", passing := .byPosition }, { name := "b", default := some (.int 7) },
      { name := "rest", passing := .restByPosition },
      { name := "c", passing := .byName, default := some .null },
      { name := "named", passing := .restByName }]
  script := .echo

theorem Callee.call_resolved_mixed :
    ∃ slots arguments,
      (Callee.function .mixed).slots.run {} = (.ok slots, {}) ∧
      (resolveAll none [("c", "x"), ("a", "1")] slots).run {} = (.ok arguments, {}) ∧
      arguments = ⟨[.text "1", .int 7], [("c", .text "x")]⟩ ∧
      ((Callee.function .mixed).call arguments.positional arguments.named).run {} =
        ((Callee.function .mixed).proceed [("a", .text "1"), ("b", .int 7), ("rest", .list []),
          ("c", .text "x"), ("named", .pairs [])]).run {} := by
  have hformals :
      (Callee.function .mixed).formals.run {} = (.ok Function.mixed.formals, {}) := rfl
  have hslots : (Callee.function .mixed).slots.run {} =
      (.ok (Slot.ofFormals Function.mixed.formals), {}) := rfl
  have hresolve : (resolveAll none [("c", "x"), ("a", "1")]
      (Slot.ofFormals Function.mixed.formals)).run {} =
        (.ok ⟨[.text "1", .int 7], [("c", .text "x")]⟩, {}) := rfl
  obtain ⟨-, found, bound, -, -, -, hbind, hcall, -⟩ :=
    Callee.call_resolved hformals (by decide) hslots hresolve
  obtain rfl := Except.ok.inj (hbind 0)
  exact ⟨_, _, hslots, hresolve, rfl, hcall {} hformals⟩

end RequestRouter
