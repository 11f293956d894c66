/-!
# Descriptions of members

What the members of kinds are for, in the words that templates can show: a description and, for what
can be called, the form of a call.  Members of one name mostly share their words; those that do not
are listed by their kind.
-/

namespace Rebalance
namespace Template

/-- Descriptions that members of one name share. -/
def sharedDescriptions : List (String × String) :=
  [("__new__", "Create and return a new object.  See help(type) for accurate signature."),
   ("__repr__", "Return repr(self)."),
   ("__hash__", "Return hash(self)."),
   ("__str__", "Return str(self)."),
   ("__getattribute__", "Return getattr(self, name)."),
   ("__setattr__", "Implement setattr(self, name, value)."),
   ("__delattr__", "Implement delattr(self, name)."),
   ("__lt__", "Return self<value."),
   ("__le__", "Return self<=value."),
   ("__eq__", "Return self==value."),
   ("__ne__", "Return self!=value."),
   ("__gt__", "Return self>value."),
   ("__ge__", "Return self>=value."),
   ("__init__", "Initialize self.  See help(type(self)) for accurate signature."),
   ("__reduce_ex__", "Helper for pickle."),
   ("__getstate__", "Helper for pickle."),
   ("__subclasshook__", "Abstract classes can override this to customize issubclass().\n\nThis "
     ++ "is invoked early on by abc.ABCMeta.__subclasscheck__().\nIt should return True, False "
     ++ "or NotImplemented.  If it returns\nNotImplemented, the normal algorithm is used.  "
     ++ "Otherwise, it\noverrides the normal algorithm (and the outcome is cached).\n"),
   ("__init_subclass__", "This method is called when a class is subclassed.\n\nThe default "
     ++ "implementation does nothing. It may be\noverridden to extend subclasses.\n"),
   ("__format__", "Default object formatter."),
   ("__sizeof__", "Size of object in memory, in bytes."),
   ("__dir__", "Default dir() implementation."),
   ("__class__", "the object's class"),
   ("__call__", "Call self as a function."),
   ("__or__", "Return self|value."),
   ("__ror__", "Return value|self."),
   ("mro", "Return a type's method resolution order."),
   ("__subclasses__", "Return a list of immediate subclasses."),
   ("__prepare__", "__prepare__() -> dict\nused to create the namespace for the class statement"),
   ("__instancecheck__", "Check if an object is an instance."),
   ("__subclasscheck__", "Check if a class is a subclass."),
   ("__iter__", "Implement iter(self)."),
   ("__mod__", "Return self%value."),
   ("__rmod__", "Return value%self."),
   ("__len__", "Return len(self)."),
   ("__getitem__", "Return self[key]."),
   ("__add__", "Return self+value."),
   ("__mul__", "Return self*value."),
   ("__rmul__", "Return value*self."),
   ("__contains__", "Return key in self."),
   ("encode", "Encode the string using the codec registered for encoding.\n\n  encoding\n    "
     ++ "The encoding in which to encode the string.\n  errors\n    The error handling scheme "
     ++ "to use for encoding errors.\n    The default is 'strict' meaning that encoding errors "
     ++ "raise a\n    UnicodeEncodeError.  Other possible values are 'ignore', 'replace' and\n "
     ++ "   'xmlcharrefreplace' as well as any other name registered with\n    "
     ++ "codecs.register_error that can handle UnicodeEncodeErrors."),
   ("replace", "Return a copy with all occurrences of substring old replaced by new.\n\n  "
     ++ "count\n    Maximum number of occurrences to replace.\n    -1 (the default value) "
     ++ "means replace all occurrences.\n\nIf the optional argument count is given, only the "
     ++ "first count occurrences are\nreplaced."),
   ("split", "Return a list of the substrings in the string, using sep as the separator "
     ++ "string.\n\n  sep\n    The separator used to split the string.\n\n    When set to None "
     ++ "(the default value), will split on any whitespace\n    character (including \\n \\r "
     ++ "\\t \\f and spaces) and will discard\n    empty strings from the result.\n  "
     ++ "maxsplit\n    Maximum number of splits.\n    -1 (the default value) means no "
     ++ "limit.\n\nSplitting starts at the front of the string and works to the end.\n\nNote, "
     ++ "str.split() is mainly useful for data that has been intentionally\ndelimited.  With "
     ++ "natural text that includes punctuation, consider using\nthe regular expression module."),
   ("rsplit", "Return a list of the substrings in the string, using sep as the separator "
     ++ "string.\n\n  sep\n    The separator used to split the string.\n\n    When set to None "
     ++ "(the default value), will split on any whitespace\n    character (including \\n \\r "
     ++ "\\t \\f and spaces) and will discard\n    empty strings from the result.\n  "
     ++ "maxsplit\n    Maximum number of splits.\n    -1 (the default value) means no "
     ++ "limit.\n\nSplitting starts at the end of the string and works to the front."),
   ("join", "Concatenate any number of strings.\n\nThe string whose method is called is "
     ++ "inserted in between each given string.\nThe result is returned as a new "
     ++ "string.\n\nExample: '.'.join(['ab', 'pq', 'rs']) -> 'ab.pq.rs'"),
   ("capitalize", "Return a capitalized version of the string.\n\nMore specifically, make the "
     ++ "first character have upper case and the rest lower\ncase."),
   ("casefold", "Return a version of the string suitable for caseless comparisons."),
   ("title", "Return a version of the string where each word is titlecased.\n\nMore "
     ++ "specifically, words start with uppercased characters and all remaining\ncased "
     ++ "characters have lower case."),
   ("center", "Return a centered string of length width.\n\nPadding is done using the "
     ++ "specified fill character (default is a space)."),
   ("count", "S.count(sub[, start[, end]]) -> int\n\nReturn the number of non-overlapping "
     ++ "occurrences of substring sub in\nstring S[start:end].  Optional arguments start and "
     ++ "end are\ninterpreted as in slice notation."),
   ("expandtabs", "Return a copy where all tab characters are expanded using spaces.\n\nIf "
     ++ "tabsize is not given, a tab size of 8 characters is assumed."),
   ("find", "S.find(sub[, start[, end]]) -> int\n\nReturn the lowest index in S where "
     ++ "substring sub is found,\nsuch that sub is contained within S[start:end].  "
     ++ "Optional\narguments start and end are interpreted as in slice notation.\n\nReturn -1 "
     ++ "on failure."),
   ("partition", "Partition the string into three parts using the given separator.\n\nThis "
     ++ "will search for the separator in the string.  If the separator is found,\nreturns a "
     ++ "3-tuple containing the part before the separator, the separator\nitself, and the part "
     ++ "after it.\n\nIf the separator is not found, returns a 3-tuple containing the original "
     ++ "string\nand two empty strings."),
   ("index", "S.index(sub[, start[, end]]) -> int\n\nReturn the lowest index in S where "
     ++ "substring sub is found,\nsuch that sub is contained within S[start:end].  "
     ++ "Optional\narguments start and end are interpreted as in slice notation.\n\nRaises "
     ++ "ValueError when the substring is not found."),
   ("ljust", "Return a left-justified string of length width.\n\nPadding is done using the "
     ++ "specified fill character (default is a space)."),
   ("lower", "Return a copy of the string converted to lowercase."),
   ("lstrip", "Return a copy of the string with leading whitespace removed.\n\nIf chars is "
     ++ "given and not None, remove characters in chars instead."),
   ("rfind", "S.rfind(sub[, start[, end]]) -> int\n\nReturn the highest index in S where "
     ++ "substring sub is found,\nsuch that sub is contained within S[start:end].  "
     ++ "Optional\narguments start and end are interpreted as in slice notation.\n\nReturn -1 "
     ++ "on failure."),
   ("rindex", "S.rindex(sub[, start[, end]]) -> int\n\nReturn the highest index in S where "
     ++ "substring sub is found,\nsuch that sub is contained within S[start:end].  "
     ++ "Optional\narguments start and end are interpreted as in slice notation.\n\nRaises "
     ++ "ValueError when the substring is not found."),
   ("rjust", "Return a right-justified string of length width.\n\nPadding is done using the "
     ++ "specified fill character (default is a space)."),
   ("rstrip", "Return a copy of the string with trailing whitespace removed.\n\nIf chars is "
     ++ "given and not None, remove characters in chars instead."),
   ("rpartition", "Partition the string into three parts using the given separator.\n\nThis "
     ++ "will search for the separator in the string, starting at the end. If\nthe separator "
     ++ "is found, returns a 3-tuple containing the part before the\nseparator, the separator "
     ++ "itself, and the part after it.\n\nIf the separator is not found, returns a 3-tuple "
     ++ "containing two empty strings\nand the original string."),
   ("splitlines", "Return a list of the lines in the string, breaking at line "
     ++ "boundaries.\n\nLine breaks are not included in the resulting list unless keepends is "
     ++ "given and\ntrue."),
   ("strip", "Return a copy of the string with leading and trailing whitespace removed.\n\nIf "
     ++ "chars is given and not None, remove characters in chars instead."),
   ("swapcase", "Convert uppercase characters to lowercase and lowercase characters to "
     ++ "uppercase."),
   ("translate", "Replace each character in the string using the given translation table.\n\n  "
     ++ "table\n    Translation table, which must be a mapping of Unicode ordinals to\n    "
     ++ "Unicode ordinals, strings, or None.\n\nThe table must implement lookup/indexing via "
     ++ "__getitem__, for instance a\ndictionary or list.  If this operation raises "
     ++ "LookupError, the character is\nleft untouched.  Characters mapped to None are deleted."),
   ("upper", "Return a copy of the string converted to uppercase."),
   ("startswith", "S.startswith(prefix[, start[, end]]) -> bool\n\nReturn True if S starts "
     ++ "with the specified prefix, False otherwise.\nWith optional start, test S beginning at "
     ++ "that position.\nWith optional end, stop comparing S at that position.\nprefix can "
     ++ "also be a tuple of strings to try."),
   ("endswith", "S.endswith(suffix[, start[, end]]) -> bool\n\nReturn True if S ends with the "
     ++ "specified suffix, False otherwise.\nWith optional start, test S beginning at that "
     ++ "position.\nWith optional end, stop comparing S at that position.\nsuffix can also be "
     ++ "a tuple of strings to try."),
   ("removeprefix", "Return a str with the given prefix string removed if present.\n\nIf the "
     ++ "string starts with the prefix string, return string[len(prefix):].\nOtherwise, return "
     ++ "a copy of the original string."),
   ("removesuffix", "Return a str with the given suffix string removed if present.\n\nIf the "
     ++ "string ends with the suffix string and that suffix is not empty,\nreturn "
     ++ "string[:-len(suffix)]. Otherwise, return a copy of the original\nstring."),
   ("isascii", "Return True if all characters in the string are ASCII, False "
     ++ "otherwise.\n\nASCII characters have code points in the range U+0000-U+007F.\nEmpty "
     ++ "string is ASCII too."),
   ("islower", "Return True if the string is a lowercase string, False otherwise.\n\nA string "
     ++ "is lowercase if all cased characters in the string are lowercase and\nthere is at "
     ++ "least one cased character in the string."),
   ("isupper", "Return True if the string is an uppercase string, False otherwise.\n\nA string "
     ++ "is uppercase if all cased characters in the string are uppercase and\nthere is at "
     ++ "least one cased character in the string."),
   ("istitle", "Return True if the string is a title-cased string, False otherwise.\n\nIn a "
     ++ "title-cased string, upper- and title-case characters may only\nfollow uncased "
     ++ "characters and lowercase characters only cased ones."),
   ("isspace", "Return True if the string is a whitespace string, False otherwise.\n\nA string "
     ++ "is whitespace if all characters in the string are whitespace and there\nis at least "
     ++ "one character in the string."),
   ("isdecimal", "Return True if the string is a decimal string, False otherwise.\n\nA string "
     ++ "is a decimal string if all characters in the string are decimal and\nthere is at "
     ++ "least one character in the string."),
   ("isdigit", "Return True if the string is a digit string, False otherwise.\n\nA string is a "
     ++ "digit string if all characters in the string are digits and there\nis at least one "
     ++ "character in the string."),
   ("isnumeric", "Return True if the string is a numeric string, False otherwise.\n\nA string "
     ++ "is numeric if all characters in the string are numeric and there is at\nleast one "
     ++ "character in the string."),
   ("isalpha", "Return True if the string is an alphabetic string, False otherwise.\n\nA "
     ++ "string is alphabetic if all characters in the string are alphabetic and there\nis at "
     ++ "least one character in the string."),
   ("isalnum", "Return True if the string is an alpha-numeric string, False otherwise.\n\nA "
     ++ "string is alpha-numeric if all characters in the string are alpha-numeric and\nthere "
     ++ "is at least one character in the string."),
   ("isidentifier", "Return True if the string is a valid Python identifier, False "
     ++ "otherwise.\n\nCall keyword.iskeyword(s) to test whether string s is a reserved "
     ++ "identifier,\nsuch as \"def\" or \"class\"."),
   ("isprintable", "Return True if the string is printable, False otherwise.\n\nA string is "
     ++ "printable if all of its characters are considered printable in\nrepr() or if it is "
     ++ "empty."),
   ("zfill", "Pad a numeric string with zeros on the left, to fill a field of the given "
     ++ "width.\n\nThe string is never truncated."),
   ("format", "S.format(*args, **kwargs) -> str\n\nReturn a formatted version of S, using "
     ++ "substitutions from args and kwargs.\nThe substitutions are identified by braces "
     ++ "('\x7b' and '\x7d')."),
   ("format_map", "S.format_map(mapping) -> str\n\nReturn a formatted version of S, using "
     ++ "substitutions from mapping.\nThe substitutions are identified by braces ('\x7b' and "
     ++ "'\x7d')."),
   ("maketrans", "Return a translation table usable for str.translate().\n\nIf there is only "
     ++ "one argument, it must be a dictionary mapping Unicode\nordinals (integers) or "
     ++ "characters to Unicode ordinals, strings or None.\nCharacter keys will be then "
     ++ "converted to ordinals.\nIf there are two arguments, they must be strings of equal "
     ++ "length, and\nin the resulting dictionary, each character in x will be mapped to "
     ++ "the\ncharacter at the same position in y. If there is a third argument, it\nmust be a "
     ++ "string, whose characters will be mapped to None in the result."),
   ("__class_getitem__", "See PEP 585"),
   ("__radd__", "Return value+self."),
   ("__sub__", "Return self-value."),
   ("__rsub__", "Return value-self."),
   ("__divmod__", "Return divmod(self, value)."),
   ("__rdivmod__", "Return divmod(value, self)."),
   ("__pow__", "Return pow(self, value, mod)."),
   ("__rpow__", "Return pow(value, self, mod)."),
   ("__neg__", "-self"),
   ("__pos__", "+self"),
   ("__abs__", "abs(self)"),
   ("__bool__", "True if self else False"),
   ("__invert__", "~self"),
   ("__lshift__", "Return self<<value."),
   ("__rlshift__", "Return value<<self."),
   ("__rshift__", "Return self>>value."),
   ("__rrshift__", "Return value>>self."),
   ("__and__", "Return self&value."),
   ("__rand__", "Return value&self."),
   ("__xor__", "Return self^value."),
   ("__rxor__", "Return value^self."),
   ("__int__", "int(self)"),
   ("__float__", "float(self)"),
   ("__floordiv__", "Return self//value."),
   ("__rfloordiv__", "Return value//self."),
   ("__truediv__", "Return self/value."),
   ("__rtruediv__", "Return value/self."),
   ("__index__", "Return self converted to an integer, if self is suitable for use as an index "
     ++ "into a list."),
   ("conjugate", "Returns self, the complex conjugate of any int."),
   ("bit_length", "Number of bits necessary to represent self in binary.\n\n>>> "
     ++ "bin(37)\n'0b100101'\n>>> (37).bit_length()\n6"),
   ("bit_count", "Number of ones in the binary representation of the absolute value of "
     ++ "self.\n\nAlso known as the population count.\n\n>>> bin(13)\n'0b1101'\n>>> "
     ++ "(13).bit_count()\n3"),
   ("to_bytes", "Return an array of bytes representing an integer.\n\n  length\n    Length of "
     ++ "bytes object to use.  An OverflowError is raised if the\n    integer is not "
     ++ "representable with the given number of bytes.  Default\n    is length 1.\n  "
     ++ "byteorder\n    The byte order used to represent the integer.  If byteorder is "
     ++ "'big',\n    the most significant byte is at the beginning of the byte array.  If\n    "
     ++ "byteorder is 'little', the most significant byte is at the end of the\n    byte "
     ++ "array.  To request the native byte order of the host system, use\n    `sys.byteorder' "
     ++ "as the byte order value.  Default is to use 'big'.\n  signed\n    Determines whether "
     ++ "two's complement is used to represent the integer.\n    If signed is False and a "
     ++ "negative integer is given, an OverflowError\n    is raised."),
   ("from_bytes", "Return the integer represented by the given array of bytes.\n\n  bytes\n    "
     ++ "Holds the array of bytes to convert.  The argument must either\n    support the "
     ++ "buffer protocol or be an iterable object producing bytes.\n    Bytes and bytearray "
     ++ "are examples of built-in objects that support the\n    buffer protocol.\n  "
     ++ "byteorder\n    The byte order used to represent the integer.  If byteorder is "
     ++ "'big',\n    the most significant byte is at the beginning of the byte array.  If\n    "
     ++ "byteorder is 'little', the most significant byte is at the end of the\n    byte "
     ++ "array.  To request the native byte order of the host system, use\n    `sys.byteorder' "
     ++ "as the byte order value.  Default is to use 'big'.\n  signed\n    Indicates whether "
     ++ "two's complement is used to represent the integer."),
   ("as_integer_ratio", "Return integer ratio.\n\nReturn a pair of integers, whose ratio is "
     ++ "exactly equal to the original int\nand with a positive denominator.\n\n>>> "
     ++ "(10).as_integer_ratio()\n(10, 1)\n>>> (-10).as_integer_ratio()\n(-10, 1)\n>>> "
     ++ "(0).as_integer_ratio()\n(0, 1)"),
   ("__trunc__", "Truncating an Integral returns itself."),
   ("__floor__", "Flooring an Integral returns itself."),
   ("__ceil__", "Ceiling of an Integral returns itself."),
   ("__round__", "Rounding an Integral returns itself.\n\nRounding with an ndigits argument "
     ++ "also returns an integer."),
   ("real", "the real part of a complex number"),
   ("imag", "the imaginary part of a complex number"),
   ("numerator", "the numerator of a rational number in lowest terms"),
   ("denominator", "the denominator of a rational number in lowest terms"),
   ("__get__", "Return an attribute of instance, which is of type owner."),
   ("__set__", "Set an attribute of instance to value."),
   ("__delete__", "Delete an attribute of instance."),
   ("__ior__", "Return self|=value."),
   ("get", "D.get(k[,d]) -> D[k] if k in D, else d.  d defaults to None."),
   ("keys", "D.keys() -> a set-like object providing a view on D's keys"),
   ("values", "D.values() -> an object providing a view on D's values"),
   ("items", "D.items() -> a set-like object providing a view on D's items"),
   ("copy", "D.copy() -> a shallow copy of D"),
   ("__reversed__", "D.__reversed__() -> reverse iterator")]

/-- Descriptions of single members. -/
def ownDescriptions : List (String × String × Option String) :=
  [("object", "__reduce__", some ("Helper for pickle.")),
   ("str", "__format__", some ("Return a formatted version of the string as described by "
     ++ "format_spec.")),
   ("int", "__format__", none),
   ("type", "__sizeof__", some ("Return memory consumption of the type object.")),
   ("str", "__sizeof__", some ("Return the size of the string in memory, in bytes.")),
   ("int", "__sizeof__", some ("Returns size in memory, in bytes.")),
   ("type", "__dir__", some ("Specialized __dir__ implementation for types.")),
   ("tuple", "count", some ("Return number of occurrences of value.")),
   ("tuple", "index", some ("Return first index of value.\n\nRaises ValueError if the value is "
     ++ "not present."))]

/-- Descriptions of kinds. -/
def kindDescriptions : List (String × String) :=
  [("object", "The base class of the class hierarchy.\n\nWhen called, it accepts no arguments "
     ++ "and returns a new featureless\ninstance that has no instance attributes and cannot be "
     ++ "given any.\n"),
   ("type", "type(object) -> the object's type\ntype(name, bases, dict, **kwds) -> a new type"),
   ("str", "str(object='') -> str\nstr(bytes_or_buffer[, encoding[, errors]]) -> str\n\nCreate "
     ++ "a new string object from the given object. If encoding or\nerrors is specified, then "
     ++ "the object must expose a data buffer\nthat will be decoded using the given encoding "
     ++ "and error handler.\nOtherwise, returns the result of object.__str__() (if "
     ++ "defined)\nor repr(object).\nencoding defaults to sys.getdefaultencoding().\nerrors "
     ++ "defaults to 'strict'."),
   ("tuple", "Built-in immutable sequence.\n\nIf no argument is given, the constructor returns "
     ++ "an empty tuple.\nIf iterable is specified the tuple is initialized from iterable's "
     ++ "items.\n\nIf the argument is a tuple, the return value is the same object."),
   ("int", "int([x]) -> integer\nint(x, base=10) -> integer\n\nConvert a number or string to "
     ++ "an integer, or return 0 if no arguments\nare given.  If x is a number, return "
     ++ "x.__int__().  For floating point\nnumbers, this truncates towards zero.\n\nIf x is "
     ++ "not a number or if base is given, then x must be a string,\nbytes, or bytearray "
     ++ "instance representing an integer literal in the\ngiven base.  The literal can be "
     ++ "preceded by '+' or '-' and be surrounded\nby whitespace.  The base defaults to 10.  "
     ++ "Valid bases are 0 and 2-36.\nBase 0 means to interpret the base from the string as an "
     ++ "integer literal.\n>>> int('0b100', base=0)\n4")]

/-- Call forms that members of one name share. -/
def sharedCallForms : List (String × String) :=
  [("__new__", "($type, *args, **kwargs)"),
   ("__repr__", "($self, /)"),
   ("__hash__", "($self, /)"),
   ("__str__", "($self, /)"),
   ("__getattribute__", "($self, name, /)"),
   ("__setattr__", "($self, name, value, /)"),
   ("__delattr__", "($self, name, /)"),
   ("__lt__", "($self, value, /)"),
   ("__le__", "($self, value, /)"),
   ("__eq__", "($self, value, /)"),
   ("__ne__", "($self, value, /)"),
   ("__gt__", "($self, value, /)"),
   ("__ge__", "($self, value, /)"),
   ("__init__", "($self, /, *args, **kwargs)"),
   ("__reduce_ex__", "($self, protocol, /)"),
   ("__getstate__", "($self, /)"),
   ("__format__", "($self, format_spec, /)"),
   ("__sizeof__", "($self, /)"),
   ("__dir__", "($self, /)"),
   ("__call__", "($self, /, *args, **kwargs)"),
   ("__or__", "($self, value, /)"),
   ("__ror__", "($self, value, /)"),
   ("mro", "($self, /)"),
   ("__subclasses__", "($self, /)"),
   ("__instancecheck__", "($self, instance, /)"),
   ("__subclasscheck__", "($self, subclass, /)"),
   ("__iter__", "($self, /)"),
   ("__mod__", "($self, value, /)"),
   ("__rmod__", "($self, value, /)"),
   ("__len__", "($self, /)"),
   ("__getitem__", "($self, key, /)"),
   ("__add__", "($self, value, /)"),
   ("__mul__", "($self, value, /)"),
   ("__rmul__", "($self, value, /)"),
   ("__contains__", "($self, key, /)"),
   ("encode", "($self, /, encoding='utf-8', errors='strict')"),
   ("replace", "($self, old, new, count=-1, /)"),
   ("split", "($self, /, sep=None, maxsplit=-1)"),
   ("rsplit", "($self, /, sep=None, maxsplit=-1)"),
   ("join", "($self, iterable, /)"),
   ("capitalize", "($self, /)"),
   ("casefold", "($self, /)"),
   ("title", "($self, /)"),
   ("center", "($self, width, fillchar=' ', /)"),
   ("expandtabs", "($self, /, tabsize=8)"),
   ("partition", "($self, sep, /)"),
   ("ljust", "($self, width, fillchar=' ', /)"),
   ("lower", "($self, /)"),
   ("lstrip", "($self, chars=None, /)"),
   ("rjust", "($self, width, fillchar=' ', /)"),
   ("rstrip", "($self, chars=None, /)"),
   ("rpartition", "($self, sep, /)"),
   ("splitlines", "($self, /, keepends=False)"),
   ("strip", "($self, chars=None, /)"),
   ("swapcase", "($self, /)"),
   ("translate", "($self, table, /)"),
   ("upper", "($self, /)"),
   ("removeprefix", "($self, prefix, /)"),
   ("removesuffix", "($self, suffix, /)"),
   ("isascii", "($self, /)"),
   ("islower", "($self, /)"),
   ("isupper", "($self, /)"),
   ("istitle", "($self, /)"),
   ("isspace", "($self, /)"),
   ("isdecimal", "($self, /)"),
   ("isdigit", "($self, /)"),
   ("isnumeric", "($self, /)"),
   ("isalpha", "($self, /)"),
   ("isalnum", "($self, /)"),
   ("isidentifier", "($self, /)"),
   ("isprintable", "($self, /)"),
   ("zfill", "($self, width, /)"),
   ("maketrans", "(x, y=<unrepresentable>, z=<unrepresentable>, /)"),
   ("__getnewargs__", "($self, /)"),
   ("__radd__", "($self, value, /)"),
   ("__sub__", "($self, value, /)"),
   ("__rsub__", "($self, value, /)"),
   ("__divmod__", "($self, value, /)"),
   ("__rdivmod__", "($self, value, /)"),
   ("__pow__", "($self, value, mod=None, /)"),
   ("__rpow__", "($self, value, mod=None, /)"),
   ("__neg__", "($self, /)"),
   ("__pos__", "($self, /)"),
   ("__abs__", "($self, /)"),
   ("__bool__", "($self, /)"),
   ("__invert__", "($self, /)"),
   ("__lshift__", "($self, value, /)"),
   ("__rlshift__", "($self, value, /)"),
   ("__rshift__", "($self, value, /)"),
   ("__rrshift__", "($self, value, /)"),
   ("__and__", "($self, value, /)"),
   ("__rand__", "($self, value, /)"),
   ("__xor__", "($self, value, /)"),
   ("__rxor__", "($self, value, /)"),
   ("__int__", "($self, /)"),
   ("__float__", "($self, /)"),
   ("__floordiv__", "($self, value, /)"),
   ("__rfloordiv__", "($self, value, /)"),
   ("__truediv__", "($self, value, /)"),
   ("__rtruediv__", "($self, value, /)"),
   ("__index__", "($self, /)"),
   ("bit_length", "($self, /)"),
   ("bit_count", "($self, /)"),
   ("to_bytes", "($self, /, length=1, byteorder='big', *, signed=False)"),
   ("from_bytes", "($type, /, bytes, byteorder='big', *, signed=False)"),
   ("as_integer_ratio", "($self, /)"),
   ("__round__", "($self, ndigits=<unrepresentable>, /)"),
   ("__get__", "($self, instance, owner=None, /)"),
   ("__set__", "($self, instance, value, /)"),
   ("__delete__", "($self, instance, /)"),
   ("__ior__", "($self, value, /)")]

/-- Call forms of single members. -/
def ownCallForms : List (String × String × Option String) :=
  [("object", "__reduce__", some ("($self, /)")),
   ("tuple", "count", some ("($self, value, /)")),
   ("tuple", "index", some ("($self, value, start=0, stop=sys.maxsize, /)")),
   ("str", "__getnewargs__", none)]

/-- Call forms of kinds. -/
def kindCallForms : List (String × String) :=
  [("object", "()"),
   ("tuple", "(iterable=(), /)")]

/-- The words for a member, from a list of single members and a list by name. -/
def wordsFor (own : List (String × String × Option String)) (shared : List (String × String))
    (owner name : String) : Option String :=
  match own.find? fun e => e.1 == owner && e.2.1 == name with
  | some e => e.2.2
  | none => (shared.find? fun e => e.1 == name).map Prod.snd

/-- The description of a member. -/
def descriptionOf (owner name : String) : Option String :=
  wordsFor ownDescriptions sharedDescriptions owner name

/-- The call form of a member. -/
def callFormOf (owner name : String) : Option String :=
  wordsFor ownCallForms sharedCallForms owner name

end Template
end Rebalance
