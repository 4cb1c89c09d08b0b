import RequestRouter.Value.Class

/-!
# Classes that text hints can name or meet

Besides the classes of a world, a text hint can name every class that is always there, and its
value may be of a class that has no name in hints. They are numbered below `Class.firstFree`.
-/

namespace RequestRouter.Hint

/-- Classes of one home, numbered from `first` on. -/
def numbered (first : Nat) (home : String) (names : List String) : List Class :=
  names.zipIdx.map fun (name, i) => { number := first + i, home, name, qualname := name }

def namedClasses : List Class :=
  Class.builtins ++ numbered 100 "builtins"
    ["bytearray", "classmethod", "complex", "enumerate", "filter", "frozenset", "map",
      "memoryview", "property", "range", "reversed", "slice", "staticmethod", "super", "type",
      "zip"]

/-- Classes that values may be of and that have no name. -/
def hiddenClasses : List Class :=
  numbered 130 "builtins"
    ["NoneType", "ellipsis", "NotImplementedType", "function", "builtin_function_or_method",
      "method", "method_descriptor", "wrapper_descriptor", "method-wrapper", "getset_descriptor",
      "member_descriptor", "mappingproxy", "generator", "list_iterator", "tuple_iterator",
      "str_iterator", "str_ascii_iterator", "bytes_iterator", "range_iterator", "set_iterator",
      "dict_keyiterator", "dict_keys", "dict_values", "dict_items", "code"] ++
    numbered 160 "types" ["GenericAlias", "UnionType"] ++
    numbered 165 "typing"
      ["_UnionGenericAlias", "_SpecialForm", "ForwardRef", "_ProtocolMeta", "_AnyMeta",
        "Generic"] ++
    numbered 175 "_sitebuiltins" ["_Printer", "Quitter", "_Helper"] ++
    numbered 178 "abc" ["ABCMeta"] ++
    [{ number := 179, home := "typing", name := "Protocol", qualname := "Protocol",
       nature := .contract false [], ofContract := true }]

/-- Faults by name, each with the kind of fault that it descends from. -/
def faultNames : List (String × String) :=
  [("BaseException", "object"), ("Exception", "BaseException"),
    ("BaseExceptionGroup", "BaseException"), ("ExceptionGroup", "BaseExceptionGroup"),
    ("GeneratorExit", "BaseException"), ("KeyboardInterrupt", "BaseException"),
    ("SystemExit", "BaseException"), ("ArithmeticError", "Exception"),
    ("AssertionError", "Exception"), ("AttributeError", "Exception"), ("BufferError", "Exception"),
    ("EOFError", "Exception"), ("ImportError", "Exception"), ("LookupError", "Exception"),
    ("MemoryError", "Exception"), ("NameError", "Exception"), ("OSError", "Exception"),
    ("ReferenceError", "Exception"), ("RuntimeError", "Exception"),
    ("StopAsyncIteration", "Exception"), ("StopIteration", "Exception"),
    ("SyntaxError", "Exception"), ("SystemError", "Exception"), ("TypeError", "Exception"),
    ("ValueError", "Exception"), ("Warning", "Exception"),
    ("FloatingPointError", "ArithmeticError"), ("OverflowError", "ArithmeticError"),
    ("ZeroDivisionError", "ArithmeticError"), ("ModuleNotFoundError", "ImportError"),
    ("IndexError", "LookupError"), ("KeyError", "LookupError"), ("UnboundLocalError", "NameError"),
    ("BlockingIOError", "OSError"), ("ChildProcessError", "OSError"),
    ("ConnectionError", "OSError"), ("BrokenPipeError", "ConnectionError"),
    ("ConnectionAbortedError", "ConnectionError"), ("ConnectionRefusedError", "ConnectionError"),
    ("ConnectionResetError", "ConnectionError"), ("FileExistsError", "OSError"),
    ("FileNotFoundError", "OSError"), ("InterruptedError", "OSError"),
    ("IsADirectoryError", "OSError"), ("NotADirectoryError", "OSError"),
    ("PermissionError", "OSError"), ("ProcessLookupError", "OSError"), ("TimeoutError", "OSError"),
    ("NotImplementedError", "RuntimeError"), ("RecursionError", "RuntimeError"),
    ("IndentationError", "SyntaxError"), ("TabError", "IndentationError"),
    ("UnicodeError", "ValueError"), ("UnicodeDecodeError", "UnicodeError"),
    ("UnicodeEncodeError", "UnicodeError"), ("UnicodeTranslateError", "UnicodeError"),
    ("BytesWarning", "Warning"), ("DeprecationWarning", "Warning"), ("EncodingWarning", "Warning"),
    ("FutureWarning", "Warning"), ("ImportWarning", "Warning"),
    ("PendingDeprecationWarning", "Warning"), ("ResourceWarning", "Warning"),
    ("RuntimeWarning", "Warning"), ("SyntaxWarning", "Warning"), ("UnicodeWarning", "Warning"),
    ("UserWarning", "Warning")]

/-- Further names of faults. -/
def faultAliases : List (String × String) :=
  [("EnvironmentError", "OSError"), ("IOError", "OSError")]

/-- The numbers of the kinds of faults that a kind descends from, `fuel` steps up at most. -/
def faultLineage : (fuel : Nat) → String → List Nat
  | 0, _ => []
  | fuel + 1, name =>
    match faultNames.lookup name with
    | some parent =>
      match faultNames.findIdx? (·.1 == parent) with
      | some i => (200 + i) :: faultLineage fuel parent
      | none => []
    | none => []

def faultClasses : List Class :=
  (numbered 200 "builtins" (faultNames.map (·.1))).map fun c =>
    { c with lineage := faultLineage 6 c.name }

/-- A class that is always there, by its name in hints. -/
def classNamed? (name : String) : Option Class :=
  (namedClasses.find? (·.name == name)).or
    (faultClasses.find? (·.name == (faultAliases.lookup name).getD name))

/-- A class that is always there, named or not. -/
def standardClass (name : String) : Class :=
  ((classNamed? name).or (hiddenClasses.find? (·.name == name))).getD (Class.builtin 0 "object")

/-- The name by which a class is told in a problem of types. -/
def tellingName (c : Class) : String := if c.home == "types" then c.key else c.name

def kindOfClass (c : Class) : Class :=
  if c.name == "_ProtocolMeta" then standardClass "type" else standardClass c.kindName

def isFaultClass (c : Class) : Bool := 200 ≤ c.number && c.number < 300

/-- The numbers of all classes that a class descends from, itself among them. -/
def ancestry (c : Class) : List Nat :=
  let standard : List Nat :=
    if c.name == "bool" && c.home == "builtins" then [2]
    else if c.name == "_ProtocolMeta" then [(standardClass "ABCMeta").number,
      (standardClass "type").number]
    else if c.name == "_AnyMeta" || c.name == "ABCMeta" then [(standardClass "type").number]
    else if c.ofContract && c.name != "Protocol" then
      [(standardClass "Protocol").number, (standardClass "Generic").number]
    else if c.ofContract then [(standardClass "Generic").number]
    else []
  c.number :: c.lineage ++ standard ++ [0]

end RequestRouter.Hint
