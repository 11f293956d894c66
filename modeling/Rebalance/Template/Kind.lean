/-!
# Kinds of template values

The kinds of the values that a template can reach from a text, with their members.  A kind has the
members listed for it and those of its base.

* `findMember?`: the kind that lists a member, and what sort of member it is.
-/

namespace Rebalance
namespace Template

/-- The sorts of members: what makes a value of the kind, operators, methods, methods of the kind
itself, plain functions, computed and stored properties, and constants. -/
inductive MemberSort
  | maker
  | slot
  | method
  | kindMethod
  | function
  | property
  | field
  | constant
deriving DecidableEq, Repr

/-- Whether a member says what a value is and so wins over members of the value's own. -/
def MemberSort.isData : MemberSort → Bool
  | .property | .field => true
  | _ => false

/-- The kind of a member that is looked at apart from any value. -/
def MemberSort.kind : MemberSort → String
  | .slot => "wrapper_descriptor"
  | .method => "method_descriptor"
  | .kindMethod => "classmethod_descriptor"
  | .property => "getset_descriptor"
  | .field => "member_descriptor"
  | .function => "staticmethod"
  | _ => "builtin_function_or_method"

/-- What a member that is looked at apart from any value is called. -/
def MemberSort.word : MemberSort → String
  | .slot => "slot wrapper"
  | .property => "attribute"
  | .field => "member"
  | _ => "method"

/-- The measures of a kind. -/
structure Measures where
  basic : Nat
  item : Nat
  flags : Nat
  references : Nat
  entries : Nat
deriving DecidableEq, Repr

/-- A kind: its name, the kind it is based on, its measures and its own members in their order. -/
structure Kind where
  name : String
  base : Option String
  measures : Measures
  members : List (MemberSort × List String)
deriving DecidableEq, Repr

/-- All kinds that can be reached. -/
def kinds : List Kind :=
  [⟨"object", none, ⟨16, 0, 529664, 0, 0⟩,
    [(.maker, ["__new__"]),
     (.slot, ["__repr__", "__hash__", "__str__", "__getattribute__", "__setattr__", "__delattr__",
              "__lt__", "__le__", "__eq__", "__ne__", "__gt__", "__ge__", "__init__"]),
     (.method, ["__reduce_ex__", "__reduce__", "__getstate__"]),
     (.kindMethod, ["__subclasshook__", "__init_subclass__"]),
     (.method, ["__format__", "__sizeof__", "__dir__"]),
     (.property, ["__class__"]),
     (.constant, ["__doc__"])]⟩,
   ⟨"type", some "object", ⟨904, 40, 2148031744, 368, 264⟩,
    [(.maker, ["__new__"]),
     (.slot, ["__repr__", "__call__", "__getattribute__", "__setattr__", "__delattr__",
              "__init__", "__or__", "__ror__"]),
     (.method, ["mro", "__subclasses__"]),
     (.kindMethod, ["__prepare__"]),
     (.method, ["__instancecheck__", "__subclasscheck__", "__dir__", "__sizeof__"]),
     (.field, ["__basicsize__", "__itemsize__", "__flags__", "__weakrefoffset__", "__base__",
               "__dictoffset__", "__mro__"]),
     (.property, ["__name__", "__qualname__", "__bases__", "__module__", "__abstractmethods__",
                  "__dict__", "__doc__", "__text_signature__", "__annotations__"])]⟩,
   ⟨"str", some "object", ⟨80, 0, 273159424, 0, 0⟩,
    [(.maker, ["__new__"]),
     (.slot, ["__repr__", "__hash__", "__str__", "__getattribute__", "__lt__", "__le__", "__eq__",
              "__ne__", "__gt__", "__ge__", "__iter__", "__mod__", "__rmod__", "__len__",
              "__getitem__", "__add__", "__mul__", "__rmul__", "__contains__"]),
     (.method, ["encode", "replace", "split", "rsplit", "join", "capitalize", "casefold", "title",
                "center", "count", "expandtabs", "find", "partition", "index", "ljust", "lower",
                "lstrip", "rfind", "rindex", "rjust", "rstrip", "rpartition", "splitlines",
                "strip", "swapcase", "translate", "upper", "startswith", "endswith",
                "removeprefix", "removesuffix", "isascii", "islower", "isupper", "istitle",
                "isspace", "isdecimal", "isdigit", "isnumeric", "isalpha", "isalnum",
                "isidentifier", "isprintable", "zfill", "format", "format_map", "__format__"]),
     (.function, ["maketrans"]),
     (.method, ["__sizeof__", "__getnewargs__"]),
     (.constant, ["__doc__"])]⟩,
   ⟨"tuple", some "object", ⟨24, 8, 71849248, 0, 0⟩,
    [(.maker, ["__new__"]),
     (.slot, ["__repr__", "__hash__", "__getattribute__", "__lt__", "__le__", "__eq__", "__ne__",
              "__gt__", "__ge__", "__iter__", "__len__", "__getitem__", "__add__", "__mul__",
              "__rmul__", "__contains__"]),
     (.method, ["__getnewargs__", "index", "count"]),
     (.kindMethod, ["__class_getitem__"]),
     (.constant, ["__doc__"])]⟩,
   ⟨"int", some "object", ⟨24, 4, 21501184, 0, 0⟩,
    [(.maker, ["__new__"]),
     (.slot, ["__repr__", "__hash__", "__getattribute__", "__lt__", "__le__", "__eq__", "__ne__",
              "__gt__", "__ge__", "__add__", "__radd__", "__sub__", "__rsub__", "__mul__",
              "__rmul__", "__mod__", "__rmod__", "__divmod__", "__rdivmod__", "__pow__",
              "__rpow__", "__neg__", "__pos__", "__abs__", "__bool__", "__invert__", "__lshift__",
              "__rlshift__", "__rshift__", "__rrshift__", "__and__", "__rand__", "__xor__",
              "__rxor__", "__or__", "__ror__", "__int__", "__float__", "__floordiv__",
              "__rfloordiv__", "__truediv__", "__rtruediv__", "__index__"]),
     (.method, ["conjugate", "bit_length", "bit_count", "to_bytes"]),
     (.kindMethod, ["from_bytes"]),
     (.method, ["as_integer_ratio", "__trunc__", "__floor__", "__ceil__", "__round__",
                "__getnewargs__", "__format__", "__sizeof__"]),
     (.property, ["real", "imag", "numerator", "denominator"]),
     (.constant, ["__doc__"])]⟩,
   ⟨"NoneType", some "object", ⟨16, 0, 528640, 0, 0⟩,
    [(.maker, ["__new__"]),
     (.slot, ["__repr__", "__bool__"]),
     (.constant, ["__doc__"])]⟩,
   ⟨"builtin_function_or_method", some "object", ⟨56, 0, 547200, 40, 0⟩,
    [(.slot, ["__repr__", "__hash__", "__call__", "__getattribute__", "__lt__", "__le__",
              "__eq__", "__ne__", "__gt__", "__ge__"]),
     (.method, ["__reduce__"]),
     (.field, ["__module__"]),
     (.property, ["__doc__", "__name__", "__qualname__", "__self__", "__text_signature__"])]⟩,
   ⟨"method-wrapper", some "object", ⟨32, 0, 20864, 0, 0⟩,
    [(.slot, ["__repr__", "__hash__", "__call__", "__getattribute__", "__lt__", "__le__",
              "__eq__", "__ne__", "__gt__", "__ge__"]),
     (.method, ["__reduce__"]),
     (.field, ["__self__"]),
     (.property, ["__objclass__", "__name__", "__qualname__", "__doc__", "__text_signature__"])]⟩,
   ⟨"method_descriptor", some "object", ⟨56, 0, 678272, 0, 0⟩,
    [(.slot, ["__repr__", "__call__", "__getattribute__", "__get__"]),
     (.method, ["__reduce__"]),
     (.field, ["__objclass__", "__name__"]),
     (.property, ["__doc__", "__qualname__", "__text_signature__"])]⟩,
   ⟨"wrapper_descriptor", some "object", ⟨56, 0, 676224, 0, 0⟩,
    [(.slot, ["__repr__", "__call__", "__getattribute__", "__get__"]),
     (.method, ["__reduce__"]),
     (.field, ["__objclass__", "__name__"]),
     (.property, ["__doc__", "__qualname__", "__text_signature__"])]⟩,
   ⟨"classmethod_descriptor", some "object", ⟨56, 0, 545152, 0, 0⟩,
    [(.slot, ["__repr__", "__call__", "__getattribute__", "__get__"]),
     (.field, ["__objclass__", "__name__"]),
     (.property, ["__doc__", "__qualname__", "__text_signature__"])]⟩,
   ⟨"getset_descriptor", some "object", ⟨48, 0, 545152, 0, 0⟩,
    [(.slot, ["__repr__", "__getattribute__", "__get__", "__set__", "__delete__"]),
     (.field, ["__objclass__", "__name__"]),
     (.property, ["__doc__", "__qualname__"])]⟩,
   ⟨"member_descriptor", some "object", ⟨48, 0, 545152, 0, 0⟩,
    [(.slot, ["__repr__", "__getattribute__", "__get__", "__set__", "__delete__"]),
     (.method, ["__reduce__"]),
     (.field, ["__objclass__", "__name__"]),
     (.property, ["__doc__", "__qualname__"])]⟩,
   ⟨"staticmethod", some "object", ⟨32, 0, 546048, 0, 24⟩,
    [(.maker, ["__new__"]),
     (.slot, ["__repr__", "__call__", "__get__", "__init__"]),
     (.field, ["__func__", "__wrapped__"]),
     (.property, ["__isabstractmethod__", "__dict__"]),
     (.constant, ["__doc__"])]⟩,
   ⟨"mappingproxy", some "object", ⟨24, 0, 545088, 0, 0⟩,
    [(.maker, ["__new__"]),
     (.slot, ["__repr__", "__str__", "__getattribute__", "__lt__", "__le__", "__eq__", "__ne__",
              "__gt__", "__ge__", "__iter__", "__or__", "__ror__", "__ior__", "__len__",
              "__getitem__", "__contains__"]),
     (.method, ["get", "keys", "values", "items", "copy"]),
     (.kindMethod, ["__class_getitem__"]),
     (.method, ["__reversed__"]),
     (.constant, ["__doc__", "__hash__"])]⟩]

/-- The kind of a name. -/
def kind? (name : String) : Option Kind :=
  kinds.find? fun k => k.name == name

/-- The names of a kind and of those it is based on, the nearest first. -/
def lineOf (name : String) : List String :=
  match (kind? name).bind Kind.base with
  | some base => [name, base]
  | none => [name]

/-- The sort of a member that a kind lists itself. -/
def ownSort? (kind member : String) : Option MemberSort :=
  (kind? kind).bind fun k => (k.members.find? fun e => e.2.contains member).map Prod.fst

/-- The kind that lists a member for values of a kind, and the sort of the member. -/
def findMember? (kind member : String) : Option (String × MemberSort) :=
  (lineOf kind).findSome? fun owner => (ownSort? owner member).map fun sort => (owner, sort)

end Template
end Rebalance
