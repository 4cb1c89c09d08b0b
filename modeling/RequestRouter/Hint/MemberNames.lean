import RequestRouter.Hint.Classes

/-!
# Names of attributes

The attributes that the classes that are always there share with their values. The signs between
values are attributes too, by names in double underscores.
-/

namespace RequestRouter.Hint

/-- The words of a text, which single blanks separate. -/
def words (text : String) : List String := text.splitOn " "

/-- Attributes of every value. -/
def objectMembers : List String := words <|
  "__class__ __delattr__ __dir__ __doc__ __eq__ __format__ __ge__ __getattribute__ __getstate__ " ++
  "__gt__ __hash__ __init__ __init_subclass__ __le__ __lt__ __ne__ __new__ __reduce__ " ++
  "__reduce_ex__ __repr__ __setattr__ __sizeof__ __str__ __subclasshook__"

/-- Attributes of every class. -/
def classMembers : List String := words <|
  "mro __base__ __bases__ __basicsize__ __call__ __dict__ __dictoffset__ __flags__ " ++
  "__instancecheck__ __itemsize__ __module__ __mro__ __name__ __or__ __prepare__ __qualname__ " ++
  "__ror__ __subclasscheck__ __subclasses__ __text_signature__ __weakrefoffset__"

def wholeMembers : String :=
  "as_integer_ratio bit_count bit_length conjugate denominator from_bytes imag numerator real " ++
  "to_bytes"

/-- The signs between whole numbers. -/
def wholeSigns : String :=
  "__abs__ __add__ __and__ __bool__ __ceil__ __divmod__ __float__ __floor__ __floordiv__ " ++
  "__getnewargs__ __index__ __int__ __invert__ __lshift__ __mod__ __mul__ __neg__ __or__ " ++
  "__pos__ __pow__ __radd__ __rand__ __rdivmod__ __rfloordiv__ __rlshift__ __rmod__ __rmul__ " ++
  "__ror__ __round__ __rpow__ __rrshift__ __rshift__ __rsub__ __rtruediv__ __rxor__ __sub__ " ++
  "__truediv__ __trunc__ __xor__"

/-- The signs between numbers with a fraction. -/
def inexactSigns : String :=
  "__abs__ __add__ __bool__ __ceil__ __divmod__ __float__ __floor__ __floordiv__ __getformat__ " ++
  "__getnewargs__ __int__ __mod__ __mul__ __neg__ __pos__ __pow__ __radd__ __rdivmod__ " ++
  "__rfloordiv__ __rmod__ __rmul__ __round__ __rpow__ __rsub__ __rtruediv__ __sub__ " ++
  "__truediv__ __trunc__"

/-- Attributes that texts and bytes share. -/
def textMembers : String :=
  "capitalize center count endswith expandtabs find index isalnum isalpha isascii isdigit " ++
  "islower isspace istitle isupper join ljust lower lstrip maketrans partition removeprefix " ++
  "removesuffix replace rfind rindex rjust rpartition rsplit rstrip split splitlines startswith " ++
  "strip swapcase title translate upper zfill __add__ __contains__ __getitem__ __iter__ __len__ " ++
  "__mod__ __mul__ __rmod__ __rmul__"

def passingMembers : String := "__iter__ __next__"

def rowMembers : String :=
  "append clear copy count extend index insert pop remove reverse __add__ __contains__ " ++
  "__delitem__ __getitem__ __iadd__ __imul__ __iter__ __len__ __mul__ __rmul__ __setitem__"

def tupleMembers : String :=
  "count index __add__ __class_getitem__ __contains__ __getitem__ __getnewargs__ __iter__ " ++
  "__len__ __mul__ __rmul__"

def mappingMembers : String :=
  "copy get items keys values __class_getitem__ __contains__ __getitem__ __iter__ __len__ " ++
  "__or__ __reversed__ __ror__"

def setMembers : String :=
  "copy difference intersection isdisjoint issubset issuperset symmetric_difference union " ++
  "__and__ __class_getitem__ __contains__ __iter__ __len__ __or__ __rand__ __ror__ __rsub__ " ++
  "__rxor__ __sub__ __xor__"

/-- Attributes of functions without a name. -/
def functionMembers : String :=
  "__annotations__ __builtins__ __call__ __closure__ __code__ __defaults__ __dict__ __get__ " ++
  "__globals__ __kwdefaults__ __module__ __name__ __qualname__"

/-- The attributes that a class which is always there has besides those of every value. -/
def memberTable : List (String × String) :=
  [("str", "casefold encode format format_map isdecimal isidentifier isnumeric isprintable " ++
      "__getnewargs__ " ++ textMembers),
    ("bytes", "decode fromhex hex __bytes__ __getnewargs__ " ++ textMembers),
    ("bytearray", "decode fromhex hex __alloc__ " ++ textMembers ++ " " ++ rowMembers),
    ("int", wholeMembers ++ " " ++ wholeSigns),
    ("bool", wholeMembers ++ " " ++ wholeSigns),
    ("float", "as_integer_ratio conjugate fromhex hex imag is_integer real " ++ inexactSigns),
    ("complex", "conjugate imag real __abs__ __add__ __bool__ __complex__ __getnewargs__ " ++
      "__mul__ __neg__ __pos__ __pow__ __radd__ __rmul__ __rpow__ __rsub__ __rtruediv__ __sub__ " ++
      "__truediv__"),
    ("list", "sort __class_getitem__ __reversed__ " ++ rowMembers),
    ("tuple", tupleMembers),
    ("dict", "clear fromkeys pop popitem setdefault update __delitem__ __ior__ __setitem__ " ++
      mappingMembers),
    ("mappingproxy", mappingMembers),
    ("set", "add clear difference_update discard intersection_update pop remove " ++
      "symmetric_difference_update update __iand__ __ior__ __isub__ __ixor__ " ++ setMembers),
    ("frozenset", setMembers),
    ("range", "count index start step stop __bool__ __contains__ __getitem__ __iter__ __len__ " ++
      "__reversed__"),
    ("slice", "indices start step stop"),
    ("property", "deleter fdel fget fset getter setter __delete__ __get__ __isabstractmethod__ " ++
      "__set__ __set_name__"),
    ("classmethod", "__dict__ __func__ __get__ __isabstractmethod__ __wrapped__"),
    ("staticmethod", "__call__ __dict__ __func__ __get__ __isabstractmethod__ __wrapped__"),
    ("super", "__get__ __self__ __self_class__ __thisclass__"),
    ("memoryview", "c_contiguous cast contiguous f_contiguous format hex itemsize nbytes ndim " ++
      "obj readonly release shape strides suboffsets tobytes tolist toreadonly __delitem__ " ++
      "__enter__ __exit__ __getitem__ __len__ __setitem__"),
    ("enumerate", "__class_getitem__ " ++ passingMembers), ("filter", passingMembers),
    ("map", passingMembers), ("zip", passingMembers),
    ("reversed", "__length_hint__ __setstate__ " ++ passingMembers),
    ("NoneType", "__bool__"),
    ("function", functionMembers),
    ("method", "__func__ __self__ " ++ functionMembers),
    ("builtin_function_or_method",
      "__call__ __module__ __name__ __qualname__ __self__ __text_signature__"),
    ("method_descriptor", "__call__ __get__ __name__ __objclass__ __qualname__ __text_signature__"),
    ("wrapper_descriptor",
      "__call__ __get__ __name__ __objclass__ __qualname__ __text_signature__"),
    ("method-wrapper", "__call__ __name__ __objclass__ __qualname__ __self__ __text_signature__"),
    ("generator", "close gi_code gi_frame gi_running gi_suspended gi_yieldfrom send throw " ++
      "__del__ __name__ __qualname__ " ++ passingMembers),
    ("list_iterator", "__length_hint__ __setstate__ " ++ passingMembers),
    ("tuple_iterator", "__length_hint__ __setstate__ " ++ passingMembers),
    ("str_iterator", "__length_hint__ __setstate__ " ++ passingMembers),
    ("str_ascii_iterator", "__length_hint__ __setstate__ " ++ passingMembers),
    ("bytes_iterator", "__length_hint__ __setstate__ " ++ passingMembers),
    ("range_iterator", "__length_hint__ __setstate__ " ++ passingMembers),
    ("set_iterator", "__length_hint__ " ++ passingMembers),
    ("dict_keyiterator", "__length_hint__ " ++ passingMembers),
    ("dict_keys", "isdisjoint mapping __and__ __contains__ __iter__ __len__ __or__ __rand__ " ++
      "__reversed__ __ror__ __rsub__ __rxor__ __sub__ __xor__"),
    ("dict_values", "mapping __iter__ __len__ __reversed__"),
    ("dict_items", "isdisjoint mapping __and__ __contains__ __iter__ __len__ __or__ __rand__ " ++
      "__reversed__ __ror__ __rsub__ __rxor__ __sub__ __xor__"),
    ("UnionType", "__args__ __getitem__ __instancecheck__ __or__ __parameters__ __ror__ " ++
      "__subclasscheck__"),
    ("_UnionGenericAlias", "copy_with __args__ __call__ __dict__ __getitem__ __instancecheck__ " ++
      "__iter__ __module__ __mro_entries__ __or__ __origin__ __parameters__ __ror__ __slots__ " ++
      "__subclasscheck__ __weakref__ _inst _name _paramspec_tvars"),
    ("_SpecialForm", "_getitem _name __call__ __getitem__ __instancecheck__ __module__ " ++
      "__mro_entries__ __or__ __ror__ __slots__ __subclasscheck__"),
    ("ForwardRef", "_evaluate __forward_arg__ __forward_code__ __forward_evaluated__ " ++
      "__forward_is_argument__ __forward_is_class__ __forward_module__ __forward_value__ " ++
      "__module__ __or__ __ror__ __slots__"),
    ("BaseException", "add_note args with_traceback __cause__ __context__ __dict__ __setstate__ " ++
      "__suppress_context__ __traceback__"),
    ("BaseExceptionGroup", "derive exceptions message split subgroup __class_getitem__"),
    ("ExceptionGroup", "__module__ __weakref__"),
    ("OSError", "characters_written errno filename filename2 strerror"),
    ("SyntaxError", "end_lineno end_offset filename lineno msg offset print_file_and_line text"),
    ("StopIteration", "value"), ("SystemExit", "code"), ("ImportError", "msg name path"),
    ("NameError", "name"), ("AttributeError", "name obj"),
    ("UnicodeDecodeError", "encoding end object reason start"),
    ("UnicodeEncodeError", "encoding end object reason start"),
    ("UnicodeTranslateError", "encoding end object reason start")]

/-- The names of the classes that the values of a class which is always there share attributes
with. -/
def sharingNames (c : Class) : List String :=
  c.name :: faultNames.zipIdx.filterMap fun ((name, _), i) =>
    if c.lineage.contains (200 + i) then some name else none

/-- A class that is always there has an attribute besides those of every value. -/
def hasMember (c : Class) (name : String) : Bool :=
  (sharingNames c).any fun className =>
    (memberTable.lookup className).any fun names => (words names).contains name

/-- Methods that belong to a class and not to its values. -/
def classMethods : List String := ["maketrans", "fromhex", "from_bytes", "fromkeys",
  "__class_getitem__", "__getformat__"]

/-- Attributes that are not called. -/
def plainMembers : List String :=
  ["real", "imag", "numerator", "denominator", "start", "stop", "step", "args", "errno",
    "filename", "filename2", "strerror", "characters_written", "msg", "name", "path", "obj", "code",
    "value", "text", "lineno", "offset", "end_lineno", "end_offset", "print_file_and_line",
    "encoding", "object", "reason", "end", "exceptions", "message", "fget", "fset", "fdel",
    "mapping"]

end RequestRouter.Hint
