import RequestRouter.Dispatch.Invoke
import RequestRouter.Proofs.World.Runs

/-!
# The stages of an invocation

An invocation is cut into stages: the check of the registry, the reading of a signature, the
resolution of one slot, the making of the controller, the call of the handler. A stage tells what was
run, in which world, and how it ended (`Stage.Did`). Stages form a chain, which ends at the first that
fails, and they come in the order of a plan (`Staged`). Actions that can be cut in this way are put
together from their parts (`StagedBy.bind`).
-/

namespace RequestRouter

/-! ## Stages -/

/-- What a stage does, with what it gives if it succeeds. -/
inductive Phase
  /-- Looks for the class that a reference names. -/
  | check (typeName methodName : String) (c : Class)
  | inspect (callee : Callee) (slots : List Slot)
  | resolve (values : Entries String String) (slot : Slot) (value : Value)
  | construct (c : Class) (arguments : Arguments) (controller : Value)
  /-- Looks for the method of a controller. -/
  | reach (c : Class) (controller : Value) (name : String) (target : Callee)
  | call (target : Callee) (arguments : Arguments) (answer : Returned)
  | respond (handler : HandlerRef) (answer : Returned) (value : Value)

/-- A stage: what it does, where it begins and ends, and its fault if it failed. -/
structure Stage where
  phase : Phase
  before : World
  fault : Option Fault
  after : World

/-- The class that a reference names, if there is a registry in which it can be found. -/
def checkRegistry (registry : Option Registry) (typeName methodName : String) : Action Class :=
  match registry with
  | none => throw (.handlerNotFound typeName methodName)
  | some registry => registry.resolve typeName methodName

namespace Stage

/-- The stage ran an action, which gives `a` if it succeeds. -/
def Ran {α : Type} (stage : Stage) (x : Action α) (a : α) : Prop :=
  x.run stage.before =
    (match stage.fault with
      | none => .ok a
      | some fault => .error fault, stage.after)

/-- The stage did what its phase says. -/
def Did (lookup : Option Lookup) (registry : Option Registry) (stage : Stage) : Prop :=
  match stage.phase with
  | .check typeName methodName c => stage.Ran (checkRegistry registry typeName methodName) c
  | .inspect callee slots => stage.Ran callee.slots slots
  | .resolve values slot value => stage.Ran (slot.resolve lookup values) value
  | .construct c arguments controller =>
    stage.Ran (c.construct arguments.positional arguments.named) controller
  | .reach c controller name target => stage.Ran (c.attributeOf controller name) target
  | .call target arguments answer =>
    stage.Ran (target.call arguments.positional arguments.named) answer
  | .respond handler answer value => stage.Ran (checkResponse handler answer) value

end Stage

/-- Stages follow each other, from one world to another. Only the last of them may have failed, and
then all of them fail. -/
inductive Linked : World → List Stage → Option Fault → World → Prop
  | nil {world : World} : Linked world [] none world
  | stop {phase : Phase} {world after : World} {fault : Fault} :
    Linked world [⟨phase, world, some fault, after⟩] (some fault) after
  | next {phase : Phase} {world between after : World} {rest : List Stage}
      {fault : Option Fault} :
    Linked between rest fault after →
    Linked world (⟨phase, world, none, between⟩ :: rest) fault after

theorem Linked.append {world between after : World} {first second : List Stage}
    {fault : Option Fault} (hfirst : Linked world first none between)
    (hsecond : Linked between second fault after) :
    Linked world (first ++ second) fault after := by
  generalize hnone : (none : Option Fault) = ended at hfirst
  induction hfirst with
  | nil => exact hsecond
  | stop => cases hnone
  | next _ ih => exact .next (ih hsecond hnone)

/-- Stages that follow a plan, up to its end unless one of them fails. -/
structure Staged (lookup : Option Lookup) (registry : Option Registry) (plan : List Phase)
    (world : World) (stages : List Stage) (fault : Option Fault) (after : World) : Prop where
  chain : Linked world stages fault after
  did : ∀ stage ∈ stages, stage.Did lookup registry
  order : stages.map Stage.phase <+: plan
  complete : fault = none → stages.map Stage.phase = plan

namespace Staged

variable {lookup : Option Lookup} {registry : Option Registry} {front back : List Phase}
  {world between after : World} {first second : List Stage}

theorem one {phase : Phase} {fault : Option Fault}
    (h : Stage.Did lookup registry ⟨phase, world, fault, after⟩) :
    Staged lookup registry [phase] world [⟨phase, world, fault, after⟩] fault after where
  chain := by
    cases fault with
    | none => exact .next .nil
    | some fault => exact .stop
  did := List.forall_mem_singleton.mpr h
  order := List.prefix_rfl
  complete _ := rfl

theorem append {fault : Option Fault} (hfirst : Staged lookup registry front world first none between)
    (hsecond : Staged lookup registry back between second fault after) :
    Staged lookup registry (front ++ back) world (first ++ second) fault after where
  chain := hfirst.chain.append hsecond.chain
  did := by
    intro stage hstage
    rcases List.mem_append.mp hstage with h | h
    · exact hfirst.did stage h
    · exact hsecond.did stage h
  order := by
    rw [List.map_append, hfirst.complete rfl, List.prefix_append_right_inj]
    exact hsecond.order
  complete hfault := by rw [List.map_append, hfirst.complete rfl, hsecond.complete hfault]

/-- What was planned behind a failure is not come to. -/
theorem stop {fault : Fault} (h : Staged lookup registry front world first (some fault) after)
    (back : List Phase) : Staged lookup registry (front ++ back) world first (some fault) after where
  chain := h.chain
  did := h.did
  order := h.order.trans (List.prefix_append _ _)
  complete hfault := by cases hfault

end Staged

/-! ## Actions in stages -/

/-- The fault of an outcome. -/
def faultOf {α : Type} : Except Fault α → Option Fault
  | .ok _ => none
  | .error fault => some fault

/-- However it ends, an action is cut into stages that follow a plan; `plans` relates the plan to what
the action gives if it succeeds. -/
def StagedBy {α : Type} (lookup : Option Lookup) (registry : Option Registry) (x : Action α)
    (plans : List Phase → α → Prop) : Prop :=
  ∀ world result after, x.run world = (result, after) →
    ∃ plan a stages, plans plan a ∧
      Staged lookup registry plan world stages (faultOf result) after ∧
      ∀ b, result = .ok b → b = a

namespace StagedBy

variable {lookup : Option Lookup} {registry : Option Registry} {α β : Type}

theorem one [Nonempty α] {x : Action α} {phase : α → Phase}
    (h : ∀ {a world fault after}, Stage.Ran ⟨phase a, world, fault, after⟩ x a →
      Stage.Did lookup registry ⟨phase a, world, fault, after⟩) :
    StagedBy lookup registry x fun plan a => plan = [phase a] := by
  intro world result after hrun
  cases result with
  | ok a =>
    refine ⟨[phase a], a, _, rfl, .one (h hrun), ?_⟩
    intro b hb
    cases hb
    rfl
  | error fault =>
    obtain ⟨a⟩ := ‹Nonempty α›
    exact ⟨[phase a], a, _, rfl, .one (h hrun), fun b hb => nomatch hb⟩

theorem pure (a : α) : StagedBy lookup registry (pure a) fun plan b => plan = [] ∧ b = a := by
  rintro world result after hrun
  cases hrun
  refine ⟨[], a, [], ⟨rfl, rfl⟩, ?_, ?_⟩
  · exact
      { chain := .nil
        did := fun _ h => nomatch h
        order := List.prefix_rfl
        complete := fun _ => rfl }
  · intro b hb
    cases hb
    rfl

/-- The plan of a sequence is the plan of its first part and then that of the second; the second one
is there even if the first part fails. -/
theorem bind {x : Action α} {f : α → Action β} {plans : List Phase → α → Prop}
    {plansAfter : α → List Phase → β → Prop} (hx : StagedBy lookup registry x plans)
    (hf : ∀ a, StagedBy lookup registry (f a) (plansAfter a)) :
    StagedBy lookup registry (x >>= f) fun plan b =>
      ∃ front a back, plans front a ∧ plansAfter a back b ∧ plan = front ++ back := by
  intro world result after hrun
  rw [Action.run_bind] at hrun
  cases hfirst : x.run world with
  | mk outcome between =>
    rw [hfirst] at hrun
    obtain ⟨front, a, first, hfront, hstaged, hgives⟩ := hx world outcome between hfirst
    cases outcome with
    | error fault =>
      cases hrun
      obtain ⟨back, b, -, hback, -, -⟩ := hf a after _ _ rfl
      exact ⟨front ++ back, b, first, ⟨front, a, back, hfront, hback, rfl⟩, hstaged.stop back,
        fun b hb => nomatch hb⟩
    | ok own =>
      obtain rfl := hgives own rfl
      obtain ⟨back, b, second, hback, hrest, hgives⟩ := hf own between result after hrun
      exact ⟨front ++ back, b, first ++ second, ⟨front, own, back, hfront, hback, rfl⟩,
        hstaged.append hrest, hgives⟩

end StagedBy

/-! ## Plans -/

/-- The arguments with one more value, for a slot. -/
def Arguments.add (arguments : Arguments) (slot : Slot) (value : Value) : Arguments :=
  if slot.byName then { arguments with named := arguments.named.put slot.name value }
  else { arguments with positional := arguments.positional ++ [value] }

/-- The arguments for the values of slots. -/
def Arguments.of (found : List (Slot × Value)) : Arguments :=
  found.foldl (fun arguments entry => arguments.add entry.1 entry.2) {}

/-- Slots are resolved in turn. -/
def resolving (values : Entries String String) (found : List (Slot × Value)) : List Phase :=
  found.map fun entry => .resolve values entry.1 entry.2

/-- A controller is made: the registry is checked first; then its constructor is inspected and its
slots are resolved in order, without path values; then there is one construction. -/
def makingPlan (typeName methodName : String) (c : Class) (found : List (Slot × Value))
    (controller : Value) (target : Callee) : List Phase :=
  [.check typeName methodName c, .inspect (.type c) (found.map Prod.fst)] ++ resolving [] found ++
    [.construct c (.of found) controller, .reach c controller methodName target]

/-- A handler is called: its slots are resolved in order, with the path values, and then it is called
once. -/
def callingPlan (handler : HandlerRef) (values : Entries String String) (target : Callee)
    (found : List (Slot × Value)) (answer : Returned) (value : Value) : List Phase :=
  [.inspect target (found.map Prod.fst)] ++ resolving values found ++
    [.call target (.of found) answer, .respond handler answer value]

/-! ## Invocations in stages -/

section Invocation

variable {lookup : Option Lookup} {registry : Option Registry}

end Invocation

end RequestRouter
