import RequestRouter.Hint.Meaning

/-!
# Names that are known without being defined

Behind the names of a world come the forms, the classes that are always there and the functions that
are always there.
-/

namespace RequestRouter.Hint

/-- Names with their meanings, the nearest first. -/
abbrev Names := List (String × Meaning)

def functionNames : List String :=
  ["abs", "aiter", "all", "anext", "any", "ascii", "bin", "breakpoint", "callable", "chr",
    "compile", "delattr", "dir", "divmod", "eval", "exec", "format", "getattr", "globals", "hasattr",
    "hash", "hex", "id", "input", "isinstance", "issubclass", "iter", "len", "locals", "max", "min",
    "next", "oct", "open", "ord", "pow", "print", "repr", "round", "setattr", "sorted", "sum", "vars",
    "__build_class__", "__import__"]

def constantNames : Names :=
  [("Ellipsis", .ellipsis), ("NotImplemented", .thing (standardClass "NotImplementedType")),
    ("__debug__", .truth true), ("__name__", .text "builtins"),
    ("__doc__", .thing (standardClass "str")), ("__package__", .text ""),
    ("__loader__", .thing (standardClass "object")), ("__spec__", .thing (standardClass "object")),
    ("__builtins__", .thing (standardClass "dict")),
    ("copyright", .thing (standardClass "_Printer")),
    ("credits", .thing (standardClass "_Printer")), ("license", .thing (standardClass "_Printer")),
    ("exit", .thing (standardClass "Quitter")), ("quit", .thing (standardClass "Quitter")),
    ("help", .thing (standardClass "_Helper"))]

/-- The meaning of a name that is known without being defined. -/
def standardMeaning? (name : String) : Option Meaning :=
  if name == "Optional" then some (.form .optional)
  else if name == "Union" then some (.form .union)
  else match classNamed? name with
    | some c => some (.type c)
    | none =>
      if functionNames.contains name then some (.function name) else constantNames.lookup name

end RequestRouter.Hint
