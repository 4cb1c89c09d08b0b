import RequestRouter.Handler.ClassBody
import RequestRouter.Text.Blank

/-!
# Handler references

A route refers to its handler either by the names of a type and a method, to be located when the
handler is called, or by something that can be called.
-/

namespace RequestRouter

/-- What a caller holds and may try to call. -/
inductive Callee
  | function (f : Function)
  /-- A class, called to make an instance. -/
  | type (c : Class)
  /-- A method with its receiver. -/
  | method (f : Function) (receiver : Value)
  /-- An object with a label that can be called like a function. -/
  | object (label : String) (f : Function)
  /-- A value, which cannot be called. -/
  | value (v : Value)

namespace Callee

/-- Whether it can be called. -/
def isCallable : Callee → Bool
  | .value (.type _) => true
  | .value _ => false
  | _ => true

def displayName : Callee → String
  | .function f => f.qualname
  | .type c => c.qualname
  | .method f _ => f.qualname
  | .object label _ => "<CallableObject " ++ label ++ ">"
  | .value (.type c) => c.qualname
  | .value v => v.shown

def typeName : Callee → String
  | .function _ => "function"
  | .type c => c.kindName
  | .method .. => "method"
  | .object .. => "CallableObject"
  | .value v => v.typeName

/-- Two callees are the same one. -/
def same : Callee → Callee → Bool
  | .function f, .function g => f.same g
  | .object _ f, .object _ g => f.same g
  | .type c, .type d => c.number == d.number
  | .value v, .value w => v.equals w
  | _, _ => false

end Callee

/-- What a route keeps of its handler. -/
inductive HandlerRef
  /-- The names of a controller type and of one of its methods. -/
  | method (typeName methodName : String)
  | free (target : Callee)

/-- What may be given as a handler. -/
inductive Target
  | ref (ref : HandlerRef)
  | callee (callee : Callee)

namespace HandlerRef

def displayName : HandlerRef → String
  | .method typeName methodName => typeName ++ "@" ++ methodName
  | .free target => target.displayName

/-- Two references are to the same handler. -/
def same : HandlerRef → HandlerRef → Bool
  | .method type₁ method₁, .method type₂ method₂ => type₁ == type₂ && method₁ == method₂
  | .free a, .free b => a.same b
  | _, _ => false

def separator : Char := '@'

/-- Reads a reference: two texts that are not empty, with one separator between them. White space
around each of them is dropped. -/
def ofText (text : String) : Except Fault HandlerRef :=
  let chars := text.toList
  let typeName := chars.takeWhile (· != separator)
  match chars.dropWhile (· != separator) with
  | [] => .error (.configuration (.badReference text))
  | _ :: methodName =>
    if typeName.isEmpty || methodName.isEmpty || methodName.contains separator then
      .error (.configuration (.badReference text))
    else .ok (.method (String.ofList (Text.trim typeName)) (String.ofList (Text.trim methodName)))

/-- The reference to a handler given at registration. -/
def ofTarget : Target → Except Fault HandlerRef
  | .ref ref => .ok ref
  | .callee (.value (.text text)) => ofText text
  | .callee callee =>
    if callee.isCallable then .ok (.free callee)
    else .error (.configuration (.badHandler callee.typeName))

end HandlerRef

end RequestRouter
