import PageServer.Value
import PageServer.Text.Blank
/-! Errors of general kinds, made from arguments. The text of most of them is that of the one
argument, or of all of them together; errors about the system, about a place in a source text, and
about characters that have no code put their arguments together in ways of their own. Arguments that
do not fit make an error of another kind. -/
namespace PageServer

open Text

/-- An error: the word for its kind, and its text. -/
structure GeneralError where
  kind : String
  text : String
  deriving DecidableEq, Repr

namespace GeneralError

def wrongType (text : String) : GeneralError := ⟨"TypeError", text⟩

def wrongValue (text : String) : GeneralError := ⟨"ValueError", text⟩

def textOfArguments : List Value → String
  | [] => ""
  | [v] => v.shown
  | vs => "(" ++ ", ".intercalate (Value.quotedItems vs) ++ ")"

/-! Arguments by name -/

/-- The kinds that take arguments by name: the kind itself, the kind in whose name a fault is
reported, and the names. -/
def takesNamed : List (String × String × List String) :=
  [("ImportError", "ImportError", ["name", "path"]),
   ("ModuleNotFoundError", "ImportError", ["name", "path"]),
   ("NameError", "NameError", ["name"]), ("UnboundLocalError", "NameError", ["name"]),
   ("AttributeError", "AttributeError", ["name", "obj"])]

def namedFault? (kind : String) (given : List String) : Option GeneralError :=
  match given, takesNamed.lookup kind with
  | [], _ => none
  | _, none => some (wrongType (kind ++ "() takes no keyword arguments"))
  | given, some (reported, known) =>
      if known.length < given.length then
        some (wrongType (reported ++ "() takes at most " ++ toString known.length ++
          (if known.length = 1 then " keyword argument (" else " keyword arguments (") ++
          toString given.length ++ " given)"))
      else (given.find? (!known.contains ·)).map fun name =>
        wrongType ("'" ++ name ++ "' is an invalid keyword argument for " ++ reported ++ "()")

/-! Errors about the system -/

def systemKinds : List (Int × String) :=
  [(1, "PermissionError"), (2, "FileNotFoundError"), (3, "ProcessLookupError"),
   (4, "InterruptedError"), (10, "ChildProcessError"), (11, "BlockingIOError"),
   (13, "PermissionError"), (17, "FileExistsError"), (20, "NotADirectoryError"),
   (21, "IsADirectoryError"), (32, "BrokenPipeError"), (103, "ConnectionAbortedError"),
   (104, "ConnectionResetError"), (108, "BrokenPipeError"), (110, "TimeoutError"),
   (111, "ConnectionRefusedError"), (114, "BlockingIOError"), (115, "BlockingIOError")]

/-- The word for system errors of no special kind. -/
def systemKind : String := "OSError"

def specialSystemKinds : List String :=
  ["PermissionError", "FileNotFoundError", "ProcessLookupError", "InterruptedError",
   "ChildProcessError", "BlockingIOError", "FileExistsError", "NotADirectoryError",
   "IsADirectoryError", "ConnectionError", "BrokenPipeError", "ConnectionAbortedError",
   "ConnectionResetError", "ConnectionRefusedError", "TimeoutError"]

def canonicalKind (kind : String) : String :=
  if kind = "IOError" ∨ kind = "EnvironmentError" then systemKind else kind

/-- The whole number that a value is; truth values count. -/
def wholeNumber? : Value → Option Int
  | .bool b => some (if b then 1 else 0)
  | .number (.whole n) => some n
  | _ => none

/-- Whether a number can count things. -/
def isIndex (n : Int) : Bool :=
  -0x8000000000000000 ≤ n && n < 0x8000000000000000

/-- What is wrong with the count of what has been written already, which stands in the place of the
first path. -/
def writtenFault? (v : Value) : Option GeneralError :=
  match v with
  | .number (.real _) =>
      some (wrongType ("'" ++ v.kind ++ "' object cannot be interpreted as an integer"))
  | v =>
      match wholeNumber? v with
      | some n =>
          if isIndex n then none
          else some (wrongValue ("cannot fit '" ++ v.kind ++ "' into an index-sized integer"))
      | none => none

/-- An error about the system: a number, words, and up to two paths, between which there is room for
another number. -/
def ofSystem (kind : String) (values : List Value) : GeneralError :=
  match values with
  | number :: words :: rest =>
      if 3 < rest.length then ⟨kind, textOfArguments values⟩
      else
        let special :=
          if kind = systemKind then
            (wholeNumber? number).bind fun n => systemKinds.lookup n else none
        let kind := special.getD kind
        let text := "[Errno " ++ number.shown ++ "] " ++ words.shown
        match rest with
        | [] => ⟨kind, text⟩
        | .none :: _ => ⟨kind, text⟩
        | path :: others =>
            if kind = "BlockingIOError" ∧ path.number?.isSome then
              (writtenFault? path).getD ⟨kind, text⟩
            else
              match others with
              | [_, .none] => ⟨kind, text ++ ": " ++ path.quoted⟩
              | [_, target] => ⟨kind, text ++ ": " ++ path.quoted ++ " -> " ++ target.quoted⟩
              | _ => ⟨kind, text ++ ": " ++ path.quoted⟩
  | vs => ⟨kind, textOfArguments vs⟩

/-! Errors about a place in a source text -/

def sourceKinds : List String := ["SyntaxError", "IndentationError", "TabError"]

def partsOf? : Value → Option (List Value)
  | .text s => some (s.toList.map fun c => .text (String.singleton c))
  | .list items => some items
  | .dict entries => some (entries.map fun (key, _) => .text key)
  | _ => none

/-- What is wrong with the parts of a place: a file, a line, an offset and a text, and then perhaps
another line, but only with another offset. -/
def placeFault? (parts : List Value) : Option GeneralError :=
  let given := toString parts.length ++ " given)"
  if parts.length < 4 then some (wrongType ("function takes at least 4 arguments (" ++ given))
  else if 6 < parts.length then some (wrongType ("function takes at most 6 arguments (" ++ given))
  else if parts.length = 5 then
    some (wrongType "end_offset must be provided when end_lineno is provided")
  else none

/-- The name of a file without the directories that lead to it. -/
def baseName (path : List Char) : List Char :=
  (splitAt '/' path).getLast?.getD []

def lineText (n : Int) : String :=
  if isIndex n then toString n else "-1"

def placed (message : String) (file line : Value) : String :=
  let name := match file with
    | .text s => some (String.ofList (baseName s.toList))
    | _ => none
  let number := match line with
    | .number (.whole n) => some (lineText n)
    | _ => none
  match name, number with
  | some name, some number => message ++ " (" ++ name ++ ", line " ++ number ++ ")"
  | some name, none => message ++ " (" ++ name ++ ")"
  | none, some number => message ++ " (line " ++ number ++ ")"
  | none, none => message

/-- An error about a place in a source text: a message and the place. -/
def ofSource (kind : String) (values : List Value) : GeneralError :=
  let message := (values.head?.getD .none).shown
  match values with
  | [_, place] =>
      match partsOf? place with
      | none => wrongType ("'" ++ place.kind ++ "' object is not iterable")
      | some parts =>
          match placeFault? parts, parts with
          | some fault, _ => fault
          | none, file :: line :: _ => ⟨kind, placed message file line⟩
          | none, _ => ⟨kind, message⟩
  | _ => ⟨kind, message⟩

/-! Errors about characters -/

/-- The word for a value's kind where a text is asked for. -/
def kindWord : Value → String
  | .none => "None"
  | v => v.kind

def textArgument (position : Nat) (v : Value) : Except GeneralError String :=
  match v with
  | .text s => .ok s
  | v => .error (wrongType
      ("argument " ++ toString position ++ " must be str, not " ++ kindWord v))

def indexArgument (v : Value) : Except GeneralError Int :=
  match wholeNumber? v with
  | some n =>
      if isIndex n then .ok n
      else .error ⟨"OverflowError", "Python int too large to convert to C ssize_t"⟩
  | none => .error (wrongType ("'" ++ v.kind ++ "' object cannot be interpreted as an integer"))

def wrongCount (expected given : Nat) : GeneralError :=
  wrongType ("function takes exactly " ++ toString expected ++ " arguments (" ++ toString given ++
    " given)")

def escapedCode (c : Char) : String :=
  let n := c.toNat
  if n ≤ 0xFF then "\\x" ++ String.ofList (hexFixed 2 n)
  else if n ≤ 0xFFFF then "\\u" ++ String.ofList (hexFixed 4 n)
  else "\\U" ++ String.ofList (hexFixed 8 n)

/-- The characters of a text from one position up to another one, as such errors show them. -/
def stretch (s : List Char) (start stop : Int) : String :=
  match (if 0 ≤ start ∧ stop = start + 1 then s[start.toNat]? else none) with
  | some c => "character '" ++ escapedCode c ++ "' in position " ++ toString start
  | none => "characters in position " ++ toString start ++ "-" ++ toString (stop - 1)

/-- An error about bytes that stand for no characters, which no arguments that are values make. -/
def ofDecoding (values : List Value) : Except GeneralError GeneralError :=
  match values with
  | [encoding, bytes, start, stop, reason] => do
      let _ ← textArgument 1 encoding
      let _ ← indexArgument start
      let _ ← indexArgument stop
      let _ ← textArgument 5 reason
      throw (wrongType ("a bytes-like object is required, not '" ++ bytes.kind ++ "'"))
  | vs => .error (wrongCount 5 vs.length)

/-- An error about characters that have no code: the encoding, the text, the positions, the
reason. -/
def ofEncoding (kind : String) (values : List Value) : Except GeneralError GeneralError :=
  match values with
  | [encoding, object, start, stop, reason] => do
      let encoding ← textArgument 1 encoding
      let object ← textArgument 2 object
      let start ← indexArgument start
      let stop ← indexArgument stop
      let reason ← textArgument 5 reason
      return ⟨kind, "'" ++ encoding ++ "' codec can't encode " ++
        stretch object.toList start stop ++
        ": " ++ reason⟩
  | vs => .error (wrongCount 5 vs.length)

/-- An error about characters that stand for no others: the text, the positions, the reason. -/
def ofSubstitution (kind : String) (values : List Value) : Except GeneralError GeneralError :=
  match values with
  | [object, start, stop, reason] => do
      let object ← textArgument 1 object
      let start ← indexArgument start
      let stop ← indexArgument stop
      let reason ← textArgument 4 reason
      return ⟨kind, "can't translate " ++ stretch object.toList start stop ++ ": " ++ reason⟩
  | vs => .error (wrongCount 4 vs.length)

/-! Groups of errors -/

def groupKinds : List String := ["ExceptionGroup", "BaseExceptionGroup"]

/-- What is made in place of a group of errors, since values are no errors. -/
def ofGroup (values : List Value) : GeneralError :=
  let maker := "BaseExceptionGroup.__new__()"
  match values with
  | [.text _, members] =>
      match members with
      | .dict _ => wrongType "second argument (exceptions) must be a sequence"
      | v =>
          match partsOf? v with
          | none => wrongType "second argument (exceptions) must be a sequence"
          | some [] => wrongValue "second argument (exceptions) must be a non-empty sequence"
          | some _ => wrongValue "Item 0 of second argument (exceptions) is not an exception"
  | [message, _] =>
      wrongType (maker ++ " argument 1 must be str, not " ++ kindWord message)
  | vs => wrongType (maker ++ " takes exactly 2 arguments (" ++ toString vs.length ++ " given)")

/-! All kinds -/

def ofValues (kind : String) (values : List Value) : GeneralError :=
  let either (made : Except GeneralError GeneralError) : GeneralError :=
    match made with
    | .ok e => e
    | .error e => e
  if kind = systemKind ∨ specialSystemKinds.contains kind then ofSystem kind values
  else if sourceKinds.contains kind then ofSource kind values
  else match kind, values with
    | "KeyError", [v] => ⟨kind, v.quoted⟩
    | "UnicodeDecodeError", vs => either (ofDecoding vs)
    | "UnicodeEncodeError", vs => either (ofEncoding kind vs)
    | "UnicodeTranslateError", vs => either (ofSubstitution kind vs)
    | "StopIteration", _ => ⟨"RuntimeError", "coroutine raised StopIteration"⟩
    | kind, vs => ⟨kind, textOfArguments vs⟩

def make (kind : String) (values : List Value) (named : List String) : GeneralError :=
  let kind := canonicalKind kind
  if groupKinds.contains kind then ofGroup values
  else (namedFault? kind named).getD (ofValues kind values)

end GeneralError

end PageServer
