import PageServer.Text.Hex
import PageServer.Text.Blank
/-! Patterns of paths. A pattern is a text in which `{name}` stands for any component of a path and
`{name:kind}` for a piece of some kind. All other characters stand for themselves. A path may have a
line feed behind what the pattern describes. A pattern for a path starts with a slash; another one
is taken for the name of a host, and a port behind it does not count. -/
namespace PageServer

open Text

/-- What a parameter stands for: a component, any rest on one line, a whole number, a decimal
number, or an identifier of 32 hexadecimal digits. -/
inductive PieceKind where
  | component
  | tail
  | whole
  | decimal
  | identifier
  deriving DecidableEq, Repr

inductive PatternPart where
  | literal (c : Char)
  | parameter (name : String) (kind : PieceKind)
  deriving DecidableEq, Repr

/-- Why a text is no pattern: it names a kind that there is not, or gives several parameters one
name. -/
inductive PatternFault where
  | unknownKind (word : String)
  | repeatedNames (names : List String) (pattern : String)
  deriving DecidableEq, Repr

def PatternFault.message : PatternFault → String
  | unknownKind word => "Unknown path convertor '" ++ word ++ "'"
  | repeatedNames names pattern =>
      (if names.length = 1 then "Duplicated param name " else "Duplicated param names ") ++
        ", ".intercalate names ++ " at path " ++ pattern

namespace PieceKind

def ofWord? (word : String) : Option PieceKind :=
  [("str", component), ("path", tail), ("int", whole), ("float", decimal),
    ("uuid", identifier)].lookup word

def isDigits (s : List Char) : Bool :=
  !s.isEmpty && s.all Char.isDigit

def dropHex? (count : Nat) (s : List Char) : Option (List Char) :=
  if (s.take count).length = count ∧ (s.take count).all fun c => (hexValue? c).isSome then
    some (s.drop count)
  else none

/-- Whether a text is made of groups of hexadecimal digits, between which dashes may stand. -/
def isGrouped : List Nat → List Char → Bool
  | [], s => s.isEmpty
  | [count], s => dropHex? count s == some []
  | count :: counts, s =>
      match dropHex? count s with
      | some ('-' :: after) => isGrouped counts after
      | some after => isGrouped counts after
      | none => false

def accepts (kind : PieceKind) (s : List Char) : Bool :=
  match kind with
  | component => !s.isEmpty && !s.contains '/'
  | tail => !s.contains '\n'
  | whole => isDigits s
  | decimal =>
      match s.dropWhile Char.isDigit with
      | [] => isDigits s
      | '.' :: places => isDigits (s.takeWhile Char.isDigit) && isDigits places
      | _ => false
  | identifier => isGrouped [8, 4, 4, 4, 12] s

end PieceKind

abbrev PathPattern := List PatternPart

namespace PathPattern

/-- The word at the start of a text, and the rest. -/
def readWord? (s : List Char) : Option (List Char × List Char) :=
  let inWord (c : Char) : Bool := c.isAlphanum || c == '_'
  match s with
  | c :: _ =>
      if inWord c && !c.isDigit then some (s.takeWhile inWord, s.dropWhile inWord) else none
  | [] => none

/-- The parameter after an opening brace, by its name and the word for its kind, and the rest of the
pattern. -/
def readParameter? (s : List Char) : Option (String × String × List Char) := do
  let (name, s) ← readWord? s
  match s with
  | '}' :: rest => return (String.ofList name, "str", rest)
  | ':' :: s =>
      let (word, s) ← readWord? s
      match s with
      | '}' :: rest => return (String.ofList name, String.ofList word, rest)
      | _ => none
  | _ => none

/-- The parts that a text describes; `fuel` bounds their number. -/
def partsFrom : Nat → List Char → Except PatternFault PathPattern
  | 0, _ => .ok []
  | _ + 1, [] => .ok []
  | fuel + 1, c :: s =>
      match if c = '{' then readParameter? s else none with
      | some (name, word, rest) =>
          match PieceKind.ofWord? word with
          | some kind => (partsFrom fuel rest).map (.parameter name kind :: ·)
          | none => .error (.unknownKind word)
      | none => (partsFrom fuel s).map (.literal c :: ·)

/-- The names of the parameters, in order. -/
def names (pattern : PathPattern) : List String :=
  pattern.filterMap fun
    | .literal _ => none
    | .parameter name _ => some name

/-- The names that several parameters have, in alphabetical order. -/
def repeatedNames (pattern : PathPattern) : List String :=
  (pattern.names.eraseDups.filter fun name => 1 < pattern.names.count name).mergeSort (· ≤ ·)

/-- A pattern without the port behind its last parameter. -/
def withoutPort (pattern : PathPattern) : PathPattern :=
  let isLiteral : PatternPart → Bool
    | .literal _ => true
    | .parameter .. => false
  let tail := (pattern.reverse.takeWhile isLiteral).reverse
  pattern.take (pattern.length - tail.length) ++ tail.takeWhile (· ≠ .literal ':')

def ofText (text : String) : Except PatternFault PathPattern := do
  let s := text.toList
  let pattern ← partsFrom s.length s
  match pattern.repeatedNames with
  | [] => return (if s.head? = some '/' then pattern else pattern.withoutPort)
  | names => throw (.repeatedNames names text)

def exactly (text : String) : PathPattern :=
  text.toList.map .literal

/-- The pieces of a path that stand where a pattern has parameters, if the path fits the pattern.
Each piece is as long as the pieces before it and the rest of the pattern allow. -/
def pieces? : PathPattern → List Char → Option (List (PieceKind × List Char))
  | [], s => if s = [] ∨ s = ['\n'] then some [] else none
  | .literal c :: parts, s =>
      match s with
      | d :: rest => if c = d then pieces? parts rest else none
      | [] => none
  | .parameter _ kind :: parts, s =>
      (List.range (s.length + 1)).reverse.findSome? fun count =>
        if kind.accepts (s.take count) then
          (pieces? parts (s.drop count)).map ((kind, s.take count) :: ·)
        else none

def accepts (pattern : PathPattern) (path : String) : Bool :=
  (pattern.pieces? path.toList).isSome

theorem pieces?_literals (s t : List Char) :
    pieces? (s.map .literal) t = if t = s ∨ t = s ++ ['\n'] then some [] else none := by
  induction s generalizing t with
  | nil => simp [pieces?]
  | cons c s ih =>
    cases t with
    | nil => simp [pieces?]
    | cons d t =>
      by_cases h : c = d
      · simp [pieces?, h, ih]
      · simp [pieces?, h, Ne.symm h]

example : (ofText "/n/{k:int}.x").toOption.map (·.accepts "/n/12.x\n") = some true ∧
    (ofText "/n/{k:int}").toOption.map (·.accepts "/n/-1") = some false ∧
    (ofText "/{p:path}").toOption.map (·.accepts "/a/b") = some true := by decide +kernel

end PathPattern

end PageServer
