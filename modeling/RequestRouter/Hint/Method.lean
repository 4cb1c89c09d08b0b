import RequestRouter.Hint.Function
import RequestRouter.Text.Lowercase

/-!
# Methods of values that are always there

What methods of texts, rows and mappings give. Of the others only the class of the result is known.
-/

namespace RequestRouter.Hint

open Meaning

/-- The parts of a text between the places where a separator stands; the part that is being read is
kept last character first. -/
def partsAt (separator : List Char) : (skip : Nat) → (part : List Char) → List Char → List String
  | _, part, [] => [String.ofList part.reverse]
  | skip + 1, part, _ :: rest => partsAt separator skip part rest
  | 0, part, c :: rest =>
    if separator.isPrefixOf (c :: rest) then
      String.ofList part.reverse :: partsAt separator (separator.length - 1) [] rest
    else partsAt separator 0 (c :: part) rest

/-- The words of a text between blanks. -/
def wordsOf (text : List Char) : List String :=
  (partsAt [' '] 0 [] (text.map fun c => if Text.isBlank c.toNat then ' ' else c)).filter
    (!·.isEmpty)

/-- Methods by the class of their results. -/
def resultNames : List (String × List String) :=
  [("str", ["capitalize", "casefold", "center", "expandtabs", "format", "format_map", "hex",
      "ljust", "removeprefix", "removesuffix", "rjust", "swapcase", "title", "translate", "zfill",
      "decode", "__repr__", "__str__", "__format__"]),
    ("bytes", ["encode", "to_bytes"]),
    ("int", ["bit_count", "bit_length", "count", "find", "index", "rfind", "rindex", "__len__",
      "__hash__", "__sizeof__", "__index__", "__int__"]),
    ("bool", ["isalnum", "isalpha", "isascii", "isdecimal", "isdigit", "isdisjoint", "isidentifier",
      "is_integer", "islower", "isnumeric", "isprintable", "isspace", "issubset", "issuperset",
      "istitle", "isupper", "__contains__", "__eq__", "__ne__", "__bool__"]),
    ("list", ["rsplit", "splitlines", "__subclasses__", "__dir__"]),
    ("tuple", ["as_integer_ratio", "partition", "rpartition", "indices", "popitem"]),
    ("dict", ["maketrans", "fromkeys"]),
    ("NoneType", ["add", "append", "clear", "difference_update", "discard", "extend", "insert",
      "intersection_update", "remove", "reverse", "sort", "symmetric_difference_update", "update",
      "add_note", "__init__", "close"])]

def resultOf (name : String) : Meaning :=
  match resultNames.find? fun (_, names) => names.contains name with
  | some ("NoneType", _) => .nothing
  | some (className, _) => .thing (standardClass className)
  | none => .thing (standardClass "object")

def textMethod (s : String) (name : String) (given : Given) : Except Fault Meaning :=
  let chars := s.toList
  let ofChars (chars : List Char) : Meaning := .text (String.ofList chars)
  let blank (c : Char) : Bool := Text.isBlank c.toNat
  match name, given.values with
  | "lower", [] => .ok (ofChars (Text.lower chars))
  | "upper", [] => .ok (ofChars (chars.map fun c => Char.ofNat (Text.upperCode c.toNat)))
  | "strip", [] => .ok (ofChars (Text.trim chars))
  | "lstrip", [] => .ok (ofChars (chars.dropWhile blank))
  | "rstrip", [] => .ok (ofChars (chars.reverse.dropWhile blank).reverse)
  | "strip", _ | "lstrip", _ | "rstrip", _ => .ok (.thing (standardClass "str"))
  | "split", [] => .ok (.items .list ((wordsOf chars).map .text))
  | "split", [.text separator] =>
    if separator.isEmpty then .error (.hint (.badValue "empty separator"))
    else .ok (.items .list ((partsAt separator.toList 0 [] chars).map .text))
  | "replace", [.text old, .text new] =>
    if old.isEmpty then .ok (.thing (standardClass "str"))
    else .ok (.text (new.intercalate (partsAt old.toList 0 [] chars)))
  | "startswith", [.text front] => .ok (.truth (front.toList.isPrefixOf chars))
  | "endswith", [.text back] => .ok (.truth (back.toList.isSuffixOf chars))
  | "join", [m] => do
    let row ← itemsOf m
    let parts ← row.zipIdx.mapM fun (part, i) => match part with
      | .text t => .ok t
      | m => if m.typeName == "str" then .ok "" else failTyped (.argument
        s!"sequence item {i}: expected str instance, {m.typeName} found")
    return .text (s.intercalate parts)
  | "upper", row | "lower", row =>
    failTyped (.takes ("str." ++ name) "no arguments" row.length)
  | name, _ => .ok (resultOf name)

def mappingMethod (row : List (Meaning × Meaning)) (name : String) (given : Given) :
    Except Fault Meaning :=
  match name, given.values with
  | "get", key :: rest => .ok ((valueUnder? row key).getD (rest.headD .nothing))
  | "keys", [] => .ok (passing "dict_keys" (row.map (·.1)))
  | "values", [] => .ok (passing "dict_values" (row.map (·.2)))
  | "items", [] => .ok (passing "dict_items" (row.map fun (k, v) => .items .tuple [k, v]))
  | "copy", [] => .ok (.entries row)
  | "pop", key :: rest =>
    match valueUnder? row key, rest with
    | some m, _ | none, m :: _ => .ok m
    | none, [] => .error (.hint (.missingKey key.shown))
  | name, _ => .ok (resultOf name)

def rowMethod (holder : Holder) (row : List Meaning) (name : String) (given : Given) :
    Except Fault Meaning :=
  match name, given.values with
  | "count", [m] => .ok (.whole (row.filter (equals m)).length)
  | "index", [m] =>
    match row.findIdx? (equals m) with
    | some i => .ok (.whole i)
    | none => .error (.hint (.badValue (match holder with
      | .tuple => "tuple.index(x): x not in tuple"
      | _ => m.shown ++ " is not in list")))
  | "copy", [] => .ok (.items holder row)
  | "pop", [] =>
    match holder, row.getLast? with
    | _, some m => .ok m
    | .list, none => .error (.hint .emptyRow)
    | _, none => .error (.hint (.missingKey "'pop from an empty set'"))
  | name, [m] =>
    match [("union", BinaryOp.or), ("intersection", .and), ("difference", .subtract),
      ("symmetric_difference", .xor)].lookup name with
    | some op => do
      liftTerm (operate op (.items holder row) (.items .set (distinct (← itemsOf m))))
    | none => .ok (resultOf name)
  | name, _ => .ok (resultOf name)

def applyMethod (of : Meaning) (name : String) (given : Given) : Except Fault Meaning :=
  match of, name with
  | .text s, name => textMethod s name given
  | .entries row, name => mappingMethod row name given
  | .items holder row, name => rowMethod holder row name given
  | of, "conjugate" | of, "__pos__" => .ok of
  | of, "__repr__" | of, "__str__" => .ok (.text of.shown)
  | _, name => .ok (resultOf name)

end RequestRouter.Hint
