import RequestRouter.Regex.Draft

/-!
# Reading an expression

A text is cut into units, the units are read into a term, and the term is checked for what can only
be said of the whole: look-behinds of one width, and no repetition in a template. A lone backslash
at the end is reported as soon as everything before it has been taken.
-/

namespace RequestRouter

/-- What is wrong with a term that could be read; the outermost and leftmost fault is reported. -/
def Regex.fault? (template : Bool) : Regex → Option Cause
  | .empty | .one _ | .place _ | .again .. => none
  | .seq a b => (a.fault? template).or (b.fault? template)
  | .alternative r => r.fault? template
  | .either a b => (a.fault? template).or (b.fault? template)
  | .group _ r => r.fault? template
  | .loop greed _ _ r =>
    if template then some (.templateRepeat greed.operator) else r.fault? template
  | .atomic r => r.fault? template
  | .look behind _ r =>
    match behind with
    | none => r.fault? template
    | some width =>
      if 4294967295 < width.least then some .tooFarBehind
      else if !width.fixed then some .unfixedLookBehind
      else r.fault? template
  | .ifGroup _ a b => (a.fault? template).or (b.fault? template)

namespace Expression

def draft (units : Units) : Except Halt Draft := do
  let d ← Draft.run units.length (.start units.width) units
  d.finish

/-- The expression that a text writes. -/
def read (text : List Char) : Except ReadError Expression :=
  let (units, lone) := Units.ofChars text
  let ends := .malformed .loneBackslash (some (Place.ofPosition text (text.length - 1)))
  match draft units with
  | .error halt =>
    .error (if lone && halt.left == 0 then ends else halt.toError text units.width)
  | .ok d =>
    if lone then .error ends
    else
      let regex := d.level.term
      match regex.fault? d.level.mode.template with
      | some cause => .error (.malformed cause none)
      | none => .ok ⟨regex, d.groups, (regex.width d.widthOf).least⟩

end Expression

end RequestRouter
