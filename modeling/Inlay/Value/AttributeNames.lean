/-
  Inlay.Value.AttributeNames
  ────────────────────────────────
  **THE NAMES OF ATTRIBUTES.**

  Which attributes values of a kind have, whether or not this model says what
  they are: by these names a missing attribute is told from one that is
  outside of the model.
-/

namespace Inlay

/-- The attributes of every value. -/
def commonAttributes : List String :=
  ["__class__", "__delattr__", "__dir__", "__doc__", "__eq__", "__format__", "__ge__",
   "__getattribute__", "__getstate__", "__gt__", "__hash__", "__init__", "__init_subclass__",
   "__le__", "__lt__", "__ne__", "__new__", "__reduce__", "__reduce_ex__", "__repr__",
   "__setattr__", "__sizeof__", "__str__", "__subclasshook__"]

/-- The attributes of iterators. -/
def iteratorAttributes : List String :=
  ["__iter__", "__length_hint__", "__next__", "__setstate__"]

/-- The attributes of a kind of values, those of every value aside. -/
def attributesOf : String → List String
  | "str" =>
    ["__add__", "__contains__", "__getitem__", "__getnewargs__", "__iter__", "__len__",
     "__mod__", "__mul__", "__rmod__", "__rmul__", "capitalize", "casefold", "center", "count",
     "encode", "endswith", "expandtabs", "find", "format", "format_map", "index", "isalnum",
     "isalpha", "isascii", "isdecimal", "isdigit", "isidentifier", "islower", "isnumeric",
     "isprintable", "isspace", "istitle", "isupper", "join", "ljust", "lower", "lstrip",
     "maketrans", "partition", "removeprefix", "removesuffix", "replace", "rfind", "rindex",
     "rjust", "rpartition", "rsplit", "rstrip", "split", "splitlines", "startswith", "strip",
     "swapcase", "title", "translate", "upper", "zfill"]
  | "list" =>
    ["__add__", "__class_getitem__", "__contains__", "__delitem__", "__getitem__", "__iadd__",
     "__imul__", "__iter__", "__len__", "__mul__", "__reversed__", "__rmul__", "__setitem__",
     "append", "clear", "copy", "count", "extend", "index", "insert", "pop", "remove",
     "reverse", "sort"]
  | "dict" =>
    ["__class_getitem__", "__contains__", "__delitem__", "__getitem__", "__ior__", "__iter__",
     "__len__", "__or__", "__reversed__", "__ror__", "__setitem__", "clear", "copy",
     "fromkeys", "get", "items", "keys", "pop", "popitem", "setdefault", "update", "values"]
  | "tuple" =>
    ["__add__", "__class_getitem__", "__contains__", "__getitem__", "__getnewargs__",
     "__iter__", "__len__", "__mul__", "__rmul__", "count", "index"]
  | "set" =>
    ["__and__", "__class_getitem__", "__contains__", "__iand__", "__ior__", "__isub__",
     "__iter__", "__ixor__", "__len__", "__or__", "__rand__", "__ror__", "__rsub__",
     "__rxor__", "__sub__", "__xor__", "add", "clear", "copy", "difference",
     "difference_update", "discard", "intersection", "intersection_update", "isdisjoint",
     "issubset", "issuperset", "pop", "remove", "symmetric_difference",
     "symmetric_difference_update", "union", "update"]
  | "frozenset" =>
    ["__and__", "__class_getitem__", "__contains__", "__iter__", "__len__", "__or__",
     "__rand__", "__ror__", "__rsub__", "__rxor__", "__sub__", "__xor__", "copy", "difference",
     "intersection", "isdisjoint", "issubset", "issuperset", "symmetric_difference", "union"]
  | "range" =>
    ["__bool__", "__contains__", "__getitem__", "__iter__", "__len__", "__reversed__", "count",
     "index", "start", "step", "stop"]
  | "slice" =>
    ["indices", "start", "step", "stop"]
  | "int" =>
    ["__abs__", "__add__", "__and__", "__bool__", "__ceil__", "__divmod__", "__float__",
     "__floor__", "__floordiv__", "__getnewargs__", "__index__", "__int__", "__invert__",
     "__lshift__", "__mod__", "__mul__", "__neg__", "__or__", "__pos__", "__pow__", "__radd__",
     "__rand__", "__rdivmod__", "__rfloordiv__", "__rlshift__", "__rmod__", "__rmul__",
     "__ror__", "__round__", "__rpow__", "__rrshift__", "__rshift__", "__rsub__",
     "__rtruediv__", "__rxor__", "__sub__", "__truediv__", "__trunc__", "__xor__",
     "as_integer_ratio", "bit_count", "bit_length", "conjugate", "denominator", "from_bytes",
     "imag", "numerator", "real", "to_bytes"]
  | "float" =>
    ["__abs__", "__add__", "__bool__", "__ceil__", "__divmod__", "__float__", "__floor__",
     "__floordiv__", "__getformat__", "__getnewargs__", "__int__", "__mod__", "__mul__",
     "__neg__", "__pos__", "__pow__", "__radd__", "__rdivmod__", "__rfloordiv__", "__rmod__",
     "__rmul__", "__round__", "__rpow__", "__rsub__", "__rtruediv__", "__sub__", "__truediv__",
     "__trunc__", "as_integer_ratio", "conjugate", "fromhex", "hex", "imag", "is_integer",
     "real"]
  | "NoneType" =>
    ["__bool__"]
  | "generator" =>
    ["__del__", "__iter__", "__name__", "__next__", "__qualname__", "close", "gi_code",
     "gi_frame", "gi_running", "gi_suspended", "gi_yieldfrom", "send", "throw"]
  | "dict_keys" =>
    ["__and__", "__contains__", "__iter__", "__len__", "__or__", "__rand__", "__reversed__",
     "__ror__", "__rsub__", "__rxor__", "__sub__", "__xor__", "isdisjoint", "mapping"]
  | "dict_values" =>
    ["__iter__", "__len__", "__reversed__", "mapping"]
  | "dict_items" =>
    ["__and__", "__contains__", "__iter__", "__len__", "__or__", "__rand__", "__reversed__",
     "__ror__", "__rsub__", "__rxor__", "__sub__", "__xor__", "isdisjoint", "mapping"]
  | "function" =>
    ["__annotations__", "__builtins__", "__call__", "__closure__", "__code__", "__defaults__",
     "__dict__", "__get__", "__globals__", "__kwdefaults__", "__module__", "__name__",
     "__qualname__"]
  | "builtin_function_or_method" =>
    ["__call__", "__module__", "__name__", "__qualname__", "__self__", "__text_signature__"]
  | "enumerate" =>
    ["__class_getitem__", "__iter__", "__next__"]
  | "type" =>
    ["__abstractmethods__", "__annotations__", "__base__", "__bases__", "__basicsize__",
     "__call__", "__dict__", "__dictoffset__", "__flags__", "__instancecheck__",
     "__itemsize__", "__module__", "__mro__", "__name__", "__or__", "__prepare__",
     "__qualname__", "__ror__", "__subclasscheck__", "__subclasses__", "__text_signature__",
     "__weakrefoffset__", "mro"]
  | "module" =>
    ["__annotations__", "__dict__"]
  | "list_iterator" | "list_reverseiterator" | "range_iterator" | "tuple_iterator"
  | "str_iterator" | "str_ascii_iterator" | "dict_keyiterator" | "dict_valueiterator"
  | "dict_itemiterator" | "set_iterator" | "zip" | "reversed" => iteratorAttributes
  | "map" | "filter" | "callable_iterator" => ["__iter__", "__next__"]
  | "RenderContext" =>
    ["__annotations__", "__dataclass_fields__", "__dataclass_params__", "__dict__",
     "__match_args__", "__module__", "__weakref__", "check_include_depth", "child_context"]
  | "Obj" => ["__dict__", "__module__", "__weakref__"]
  | "Ctx" => ["__dict__", "__enter__", "__exit__", "__module__", "__weakref__"]
  | _ => []

/-- The attributes of every exception. -/
def exceptionAttributes : List String :=
  ["__cause__", "__context__", "__dict__", "__setstate__", "__suppress_context__",
   "__traceback__", "add_note", "args", "with_traceback"]

end Inlay
