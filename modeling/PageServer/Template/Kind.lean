import PageServer.Value
import PageServer.Text.Blank
/-! The kinds of things that templates deal with, which are things themselves: a kind has a name, a
home, and kinds above it. Things of the plainer kinds have methods, which templates can name but not
use. -/
namespace PageServer.Template

/-- The kinds of things. `range`, `space`, `cycler` and `joiner` are kinds only: templates have
no thing of theirs. -/
inductive Kind where
  | object
  | nothing
  | truth
  | whole
  | real
  | text
  | list
  | dict
  | tuple
  | kind
  | function
  | method
  | wrapper
  | descriptor
  | keyed
  | range
  | space
  | cycler
  | joiner
  | undefined
  | template
  | block
  | loop
  | markup
  | request
  | url
  deriving DecidableEq, Repr

namespace Kind

def name : Kind → String
  | object => "object"
  | nothing => "NoneType"
  | truth => "bool"
  | whole => "int"
  | real => "float"
  | text => "str"
  | list => "list"
  | dict => "dict"
  | tuple => "tuple"
  | kind => "type"
  | function => "function"
  | method => "builtin_function_or_method"
  | wrapper => "method-wrapper"
  | descriptor => "method_descriptor"
  | keyed => "GenericAlias"
  | range => "range"
  | space => "Namespace"
  | cycler => "Cycler"
  | joiner => "Joiner"
  | undefined => "Undefined"
  | template => "TemplateReference"
  | block => "BlockReference"
  | loop => "LoopContext"
  | markup => "Markup"
  | request => "Request"
  | url => "URL"

/-- Where a kind is at home; the built-in ones share one home. -/
def home : Kind → String
  | keyed => "types"
  | space => "jinja2.utils"
  | cycler => "jinja2.utils"
  | joiner => "jinja2.utils"
  | undefined => "jinja2.runtime"
  | template => "jinja2.runtime"
  | block => "jinja2.runtime"
  | loop => "jinja2.runtime"
  | markup => "markupsafe"
  | request => "starlette.requests"
  | url => "starlette.datastructures"
  | _ => "builtins"

def isBuiltIn (k : Kind) : Bool :=
  k.home = "builtins"

/-- The name of a kind, with its home in front unless it is built in. -/
def fullName (k : Kind) : String :=
  if k.isBuiltIn then k.name else k.home ++ "." ++ k.name

def shown (k : Kind) : String :=
  "<class '" ++ k.fullName ++ "'>"

/-- A thing of a kind as the owner of attributes. -/
def owner : Kind → String
  | nothing => "None"
  | k => k.fullName ++ " object"

/-- The kinds above a kind, the nearest first. -/
def above : Kind → List Kind
  | object => []
  | truth => [whole, object]
  | markup => [text, object]
  | _ => [object]

def ofValue : Value → Kind
  | .none => nothing
  | .bool _ => truth
  | .number (.whole _) => whole
  | .number (.real _) => real
  | .text _ => text
  | .list _ => list
  | .dict _ => dict

theorem name_ofValue (v : Value) : (ofValue v).name = v.kind := by
  cases v with
  | number n => cases n <;> rfl
  | _ => rfl

/-! Methods -/

def wordsOf (lines : List String) : List String :=
  lines.flatMap fun line => (Text.splitAt ' ' line.toList).map String.ofList

/-- The operations that every thing has. -/
def commonWrappers : List String :=
  wordsOf
    ["__delattr__ __eq__ __ge__ __getattribute__ __gt__ __hash__ __init__ __le__ __lt__ __ne__",
     "__repr__ __setattr__ __str__"]

/-- The methods that every thing has. -/
def commonMethods : List String :=
  wordsOf
    ["__dir__ __format__ __getstate__ __init_subclass__ __new__ __reduce__ __reduce_ex__",
     "__sizeof__ __subclasshook__"]

/-- The operations of numbers, whole or not. -/
def numberWrappers : List String :=
  wordsOf
    ["__abs__ __add__ __bool__ __divmod__ __float__ __floordiv__ __int__ __mod__ __mul__ __neg__",
     "__pos__ __pow__ __radd__ __rdivmod__ __rfloordiv__ __rmod__ __rmul__ __rpow__ __rsub__",
     "__rtruediv__ __sub__ __truediv__"]

def ownWrappers : Kind → List String
  | nothing => ["__bool__"]
  | truth => wholeWrappers
  | whole => wholeWrappers
  | real => numberWrappers
  | text => sequenceWrappers ++ ["__mod__", "__rmod__", "__getitem__"]
  | markup => sequenceWrappers ++ ["__mod__", "__rmod__", "__getitem__"]
  | tuple => sequenceWrappers ++ ["__getitem__"]
  | list => sequenceWrappers ++ ["__delitem__", "__iadd__", "__imul__", "__setitem__"]
  | dict => wordsOf ["__delitem__ __ior__ __iter__ __len__ __or__ __ror__ __setitem__"]
  | kind => ["__call__"]
  | function => ["__call__", "__get__"]
  | method => ["__call__"]
  | wrapper => ["__call__"]
  | _ => []
where
  wholeWrappers : List String :=
    numberWrappers ++ wordsOf
      ["__and__ __index__ __invert__ __lshift__ __or__ __rand__ __rlshift__ __ror__ __rrshift__",
       "__rshift__ __rxor__ __xor__"]
  sequenceWrappers : List String :=
    wordsOf ["__add__ __contains__ __iter__ __len__ __mul__ __rmul__"]

def ownMethods : Kind → List String
  | truth => wholeMethods
  | whole => wholeMethods
  | real =>
      wordsOf
        ["__ceil__ __floor__ __getformat__ __getnewargs__ __round__ __trunc__ as_integer_ratio",
         "conjugate fromhex hex is_integer"]
  | text => textMethods
  | markup => textMethods
  | list =>
      wordsOf
        ["__class_getitem__ __getitem__ __reversed__ append clear copy count extend index insert",
         "pop remove reverse sort"]
  | dict =>
      wordsOf
        ["__class_getitem__ __contains__ __getitem__ __reversed__ clear copy fromkeys get items",
         "keys pop popitem setdefault update values"]
  | tuple => wordsOf ["__class_getitem__ __getnewargs__ count index"]
  | kind => wordsOf ["__instancecheck__ __prepare__ __subclasscheck__ __subclasses__ mro"]
  | _ => []
where
  wholeMethods : List String :=
    wordsOf
      ["__ceil__ __floor__ __getnewargs__ __round__ __trunc__ as_integer_ratio bit_count",
       "bit_length conjugate from_bytes to_bytes"]
  textMethods : List String :=
    wordsOf
      ["__getnewargs__ capitalize casefold center count encode endswith expandtabs find format",
       "format_map index isalnum isalpha isascii isdecimal isdigit isidentifier islower isnumeric",
       "isprintable isspace istitle isupper join ljust lower lstrip maketrans partition",
       "removeprefix removesuffix replace rfind rindex rjust rpartition rsplit rstrip split",
       "splitlines startswith strip swapcase title translate upper zfill"]

/-- Whether things of a kind can change, so that they have no hash. -/
def isChangeable (k : Kind) : Bool :=
  k == list || k == dict

/-- The kind of the method of a name, if things of a kind have such a method. -/
def methodKind? (k : Kind) (name : String) : Option Kind :=
  if k.ownWrappers.contains name then some wrapper
  else if k.ownMethods.contains name then some method
  else if commonWrappers.contains name then some wrapper
  else if commonMethods.contains name then some method
  else none

def description? : Kind → Option String
  | object => some (
      "The base class of the class hierarchy.\n\nWhen called, it accepts no arguments and " ++
      "returns a new featureless\ninstance that has no instance attributes and cannot be " ++
      "given any.\n")
  | truth => some (
      "bool(x) -> bool\n\nReturns True when the argument x is true, False otherwise.\nThe " ++
      "builtins True and False are the only two instances of the class bool.\nThe class " ++
      "bool is a subclass of the class int, and cannot be subclassed.")
  | whole => some (
      "int([x]) -> integer\nint(x, base=10) -> integer\n\nConvert a number or string to an " ++
      "integer, or return 0 if no arguments\nare given.  If x is a number, return " ++
      "x.__int__().  For floating point\nnumbers, this truncates towards zero.\n\nIf x is " ++
      "not a number or if base is given, then x must be a string,\nbytes, or bytearray " ++
      "instance representing an integer literal in the\ngiven base.  The literal can be " ++
      "preceded by '+' or '-' and be surrounded\nby whitespace.  The base defaults to 10.  " ++
      "Valid bases are 0 and 2-36.\nBase 0 means to interpret the base from the string as " ++
      "an integer literal.\n>>> int('0b100', base=0)\n4")
  | real => some "Convert a string or number to a floating point number, if possible."
  | text => some (
      "str(object='') -> str\nstr(bytes_or_buffer[, encoding[, errors]]) -> str\n\nCreate " ++
      "a new string object from the given object. If encoding or\nerrors is specified, " ++
      "then the object must expose a data buffer\nthat will be decoded using the given " ++
      "encoding and error handler.\nOtherwise, returns the result of object.__str__() (if " ++
      "defined)\nor repr(object).\nencoding defaults to sys.getdefaultencoding().\nerrors " ++
      "defaults to 'strict'.")
  | list => some (
      "Built-in mutable sequence.\n\nIf no argument is given, the constructor creates a " ++
      "new empty list.\nThe argument must be an iterable if specified.")
  | dict => some (
      "dict() -> new empty dictionary\ndict(mapping) -> new dictionary initialized from a " ++
      "mapping object's\n    (key, value) pairs\ndict(iterable) -> new dictionary " ++
      "initialized as if via:\n    d = \x7b\x7d\n    for k, v in iterable:\n        d[k] = " ++
      "v\ndict(**kwargs) -> new dictionary initialized with the name=value pairs\n    in " ++
      "the keyword argument list.  For example:  dict(one=1, two=2)")
  | tuple => some (
      "Built-in immutable sequence.\n\nIf no argument is given, the constructor returns an " ++
      "empty tuple.\nIf iterable is specified the tuple is initialized from iterable's " ++
      "items.\n\nIf the argument is a tuple, the return value is the same object.")
  | kind => some "type(object) -> the object's type\ntype(name, bases, dict, **kwds) -> a new type"
  | range => some (
      "range(stop) -> range object\nrange(start, stop[, step]) -> range object\n\nReturn " ++
      "an object that produces a sequence of integers from start (inclusive)\nto stop " ++
      "(exclusive) by step.  range(i, j) produces i, i+1, i+2, ..., j-1.\nstart defaults " ++
      "to 0, and stop is omitted!  range(4) produces 0, 1, 2, 3.\nThese are exactly the " ++
      "valid indices for a list of 4 elements.\nWhen step is given, it specifies the " ++
      "increment (or decrement).")
  | _ => none

end Kind

end PageServer.Template
