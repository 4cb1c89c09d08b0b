import RequestRouter.Hint.MemberNames
import RequestRouter.Hint.Shown
import RequestRouter.World.Basic

/-!
# Attributes of meanings

A class of the world has the attributes of its body, one that is always there those of the tables. A
class with arguments has the attributes of the class; a union has none of its members.
-/

namespace RequestRouter.Hint

open Meaning

/-- A text that only its class is known of. -/
def someText : Meaning := .thing (standardClass "str")

/-- The name is one in double underscores. -/
def isReserved (name : String) : Bool :=
  let chars := name.toList
  chars.length > 4 && chars.take 2 == ['_', '_'] && chars.reverse.take 2 == ['_', '_']

/-- The class with a number. -/
def classNumbered (world : World) (number : Nat) : Option Class :=
  ((world.vocabulary.map (·.2)).find? (·.number == number)).or
    ((namedClasses ++ hiddenClasses ++ faultClasses).find? (·.number == number))

/-- The classes that a class descends from, itself first. -/
def ancestors (world : World) (c : Class) : List Class :=
  c :: (ancestry c).tail.filterMap (classNumbered world)

/-- The classes of a world that descend from a class directly, in the order of the vocabulary. -/
def descendants (world : World) (c : Class) : List Class :=
  (world.vocabulary.map (·.2)).filter fun other => other.lineage.head? == some c.number

/-- What is known of a class by name: its own names and its place among others. -/
def classFact? (world : World) (c : Class) (name : String) : Option Meaning :=
  let isStandard := c.number < 20 || 100 ≤ c.number && c.number < 300
  match name with
  | "__name__" => some (.text c.name)
  | "__qualname__" => some (.text c.qualname)
  | "__module__" => some (.text c.home)
  | "__class__" => some (.type (kindOfClass c))
  | "__doc__" => some (if isStandard then someText else .nothing)
  | "__dict__" => some (.thing (standardClass "mappingproxy"))
  | "__mro__" => some (.items .tuple ((ancestors world c).map .type))
  | "__base__" =>
    match (ancestors world c).drop 1 with
    | base :: _ => some (.type base)
    | [] => some .nothing
  | "__bases__" => some (.items .tuple (((ancestors world c).drop 1).take 1 |>.map .type))
  | "__weakref__" => if isStandard then none else some (.thing (standardClass "getset_descriptor"))
  | "__annotations__" => if isStandard then none else some (.entries [])
  | "_is_protocol" =>
    if c.ofContract then some (.truth (c.nature != .ordinary)) else none
  | "_is_runtime_protocol" =>
    if c.ofContract then
      some (.truth (match c.nature with
        | .contract checkable _ => checkable
        | _ => false))
    else none
  | "__parameters__" => if c.ofContract then some (.items .tuple []) else none
  | "__class_getitem__" | "register" | "__abstractmethods__" | "_abc_impl" | "__slots__" =>
    if c.ofContract then some (.attached (.type c) name) else none
  | _ => none

def classMember (c : Class) (name : String) : Action Meaning := do
  let world ← get
  match (← Action.bodyOf c).attributes.get? name with
  | some (.method f) | some (.free f) => return .method f none
  | some (.value v) => return .ofValue v
  | none =>
    match classFact? world c name with
    | some m => return m
    | none =>
      if name == "mro" || name == "__subclasses__" then return .attached (.type c) name
      if (ancestors world c).any (hasMember · name) then
        if plainMembers.contains name then return .thing (standardClass "getset_descriptor")
        if classMethods.contains name then return .attached (.type c) name
        return .detached c name
      if objectMembers.contains name then return .thing (standardClass "wrapper_descriptor")
      if classMembers.contains name then return .attached (.type c) name
      throw (.misuse (.noClassAttribute c.name name))

def callableName? : Meaning → Option String
  | .function name | .detached _ name | .attached _ name => some name
  | .method f _ => some f.name
  | .closure .. => some "<lambda>"
  | .stream .. => some "<genexpr>"
  | _ => none

def valueFact? (m : Meaning) (name : String) : Option Meaning :=
  match m, name with
  | m, "__class__" => some (.type m.kindOf)
  | .nothing, "__doc__" => some .nothing
  | .truth b, "real" | .truth b, "numerator" => some (.whole (if b then 1 else 0))
  | .whole n, "real" | .whole n, "numerator" => some (.whole n)
  | .truth _, "imag" | .whole _, "imag" => some (.whole 0)
  | .truth _, "denominator" | .whole _, "denominator" => some (.whole 1)
  | .inexact r false, "real" => some (.inexact r false)
  | .inexact r true, "imag" => some (.inexact r false)
  | .inexact _ _, "real" | .inexact _ _, "imag" => some (.inexact 0 false)
  | .range first _ _, "start" => some (.whole first)
  | .range _ last _, "stop" => some (.whole last)
  | .range _ _ step, "step" => some (.whole step)
  | .slice first _ _, "start" => some first
  | .slice _ last _, "stop" => some last
  | .slice _ _ step, "step" => some step
  | .reference s, "__forward_arg__" => some (.text s)
  | .method _ (some receiver), "__self__" => some (.ofValue receiver)
  | .method f (some _), "__func__" => some (.method f none)
  | .method f _, "__qualname__" => some (.text f.qualname)
  | .attached of _, "__self__" => some of
  | .detached c _, "__objclass__" => some (.type c)
  | .closure .., "__doc__" | .method .., "__doc__" => some .nothing
  | m, "__name__" | m, "__qualname__" => (callableName? m).map .text
  | _, "__doc__" => some someText
  | _, _ => none

def instanceMember (v : Value) (name : String) : Action Meaning := do
  let c := classOfValue v
  match (← Action.bodyOf c).attributes.get? name with
  | some (.method f) => return .method f (some v)
  | some (.free f) => return .method f none
  | some (.value w) => return .ofValue w
  | none =>
    match name with
    | "__class__" => return .type c
    | "__module__" => return .text c.home
    | "__doc__" | "__weakref__" => return .nothing
    | "__dict__" => return .thing (standardClass "dict")
    | _ =>
      if c.fields.contains name then return .thing (standardClass "object")
      if objectMembers.contains name then return .attached (.instance v) name
      throw (.misuse (.noAttribute c.name name))

def valueMember (m : Meaning) (name : String) : Except Fault Meaning :=
  match valueFact? m name with
  | some found => .ok found
  | none =>
    if hasMember m.kindOf name || objectMembers.contains name then
      if plainMembers.contains name then .ok (.thing (standardClass "object"))
      else .ok (.attached m name)
    else .error (.misuse (.noAttribute m.typeName name))

/-- An attribute of a form, or of a union that a form lists. -/
def formMember (m : Meaning) (name : String) : Except TermFault Meaning :=
  match m, name with
  | m, "__class__" => .ok (.type m.kindOf)
  | .form f, "__name__" | .form f, "__qualname__" | .form f, "_name" => .ok (.text f.name)
  | .union _ members, "__args__" => .ok (.items .tuple members)
  | .union .., "__parameters__" => .ok (.items .tuple [])
  | .union .., "__origin__" => .ok (.form .union)
  | .union _ members, "__name__" | .union _ members, "__qualname__" =>
    .ok (.text (if members.length == 2 && members.any isNoneType then "Optional" else "Union"))
  | _, "__module__" => .ok (.text "typing")
  | _, "__doc__" => .ok someText
  | m, name =>
    if hasMember m.kindOf name || objectMembers.contains name then .ok (.attached m name)
    else .error (.noMember name)

/-- Attributes that a class with arguments has itself. -/
def genericMember? (c : Class) (arguments : List Meaning) (name : String) : Option Meaning :=
  match name with
  | "__origin__" => some (.type c)
  | "__args__" => some (.items .tuple arguments)
  | "__parameters__" => some (.items .tuple [])
  | "__unpacked__" => some (.truth false)
  | "__typing_unpacked_tuple_args__" => some .nothing
  | "__class__" => some (.type (standardClass "GenericAlias"))
  | "__mro_entries__" | "__reduce__" | "__reduce_ex__" | "__copy__" | "__deepcopy__" =>
    some (.attached (.generic c arguments) name)
  | _ => none

def member (m : Meaning) (name : String) : Action Meaning :=
  match m with
  | .type c => classMember c name
  | .generic c arguments =>
    match genericMember? c arguments name with
    | some found => return found
    | none => classMember c name
  | .union .bars members =>
    match name with
    | "__args__" => return .items .tuple members
    | "__parameters__" => return .items .tuple []
    | _ => Action.ofExcept (valueMember m name)
  | .union .listed _ | .form _ => Action.ofExcept ((formMember m name).mapError .hint)
  | .instance v => instanceMember v name
  | m => Action.ofExcept (valueMember m name)

end RequestRouter.Hint
