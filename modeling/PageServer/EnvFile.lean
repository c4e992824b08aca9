import PageServer.Text.Blank
/-! Files of assignments, one `NAME=value` a line. A line may start with `export`, a name may stand
in single quotes, and a value may stand in single or double quotes and then go over several lines.
`#` starts a comment at the start of a line, after a blank, and after a quoted value. A line that
fits none of this is skipped and binds nothing. A name without `=` is bound to no value.

`readBindings` gives the bindings as written; `expandAll` replaces the references to other names
that values hold. -/
namespace PageServer.EnvFile

open Text

structure Binding where
  name : List Char
  value : Option (List Char)
  deriving DecidableEq, Repr

/-! Values -/

/-- A quoted text after its opening quote: the text up to the closing quote, and the rest. A
backslash takes the character after it along, so that the closing quote is the first one that no
backslash takes. -/
def closeQuote (quote : Char) : List Char → Option (List Char × List Char)
  | [] => none
  | '\\' :: c :: rest =>
      (closeQuote quote rest).map fun (inside, after) => ('\\' :: c :: inside, after)
  | c :: rest =>
      if c == quote then some ([], rest)
      else (closeQuote quote rest).map fun (inside, after) => (c :: inside, after)

def doubleEscape? : Char → Option Char
  | '\\' => some '\\'
  | '\'' => some '\''
  | '"' => some '"'
  | 'a' => some '\x07'
  | 'b' => some '\x08'
  | 'f' => some '\x0c'
  | 'n' => some '\n'
  | 'r' => some '\r'
  | 't' => some '\t'
  | 'v' => some '\x0b'
  | _ => none

def singleEscape? : Char → Option Char
  | '\\' => some '\\'
  | '\'' => some '\''
  | _ => none

def unescape (escape? : Char → Option Char) : List Char → List Char
  | '\\' :: c :: rest =>
      match escape? c with
      | some e => e :: unescape escape? rest
      | none => '\\' :: unescape escape? (c :: rest)
  | c :: rest => c :: unescape escape? rest
  | [] => []

/-- A line up to its comment, which starts with a `#` after a blank; the blanks before it go too. -/
def beforeComment : List Char → List Char
  | [] => []
  | c :: rest =>
      if isBlank c && (rest.dropWhile isBlank).head? == some '#' then []
      else c :: beforeComment rest

def startValue? : List Char → Option (List Char × List Char)
  | '\'' :: rest => (closeQuote '\'' rest).map fun (v, after) => (unescape singleEscape? v, after)
  | '"' :: rest => (closeQuote '"' rest).map fun (v, after) => (unescape doubleEscape? v, after)
  | s =>
      let line := s.takeWhile (· != '\n')
      some (dropTrailing isBlank (beforeComment line), s.dropWhile (· != '\n'))

def skipInline (s : List Char) : List Char :=
  s.dropWhile isInlineBlank

/-- The value after an equals sign, and the rest. Where a comment follows blanks there is none of
it. -/
def readValue? (s : List Char) : Option (List Char × List Char) :=
  match s.head?.any isInlineBlank, skipInline s with
  | true, '#' :: rest => some ([], '#' :: rest)
  | _, s => startValue? s

/-! Lines -/

def skipExport (s : List Char) : List Char :=
  let word := "export".toList
  if s.take 6 == word && (s.drop 6).head?.any isInlineBlank then skipInline (s.drop 6) else s

/-- The name at the start of a text, and the rest; the inner `none` stands for a comment. -/
def readName? : List Char → Option (Option (List Char) × List Char)
  | '#' :: rest => some (none, '#' :: rest)
  | '\'' :: rest =>
      let name := rest.takeWhile (· != '\'')
      match rest.dropWhile (· != '\'') with
      | _ :: after => if name.isEmpty then none else some (some name, after)
      | [] => none
  | s =>
      let inName (c : Char) : Bool := c != '=' && c != '#' && !isBlank c
      let name := s.takeWhile inName
      if name.isEmpty then none else some (some name, s.dropWhile inName)

def nextLine (s : List Char) : List Char :=
  (s.dropWhile (· != '\n')).drop 1

/-- A text after a comment, if one starts here, and after the end of the line, which must come. -/
def endLine? (s : List Char) : Option (List Char) :=
  let s := match skipInline s with
    | '#' :: rest => rest.dropWhile (· != '\n')
    | rest => rest
  match skipInline s with
  | [] => some []
  | '\n' :: rest => some rest
  | _ => none

/-- What one step reads: a binding if there is one, and the rest of the text. -/
structure Step where
  binding : Option Binding
  rest : List Char

/-- One line, from its first character that is not blank. A fault gives up the rest of the line on
which it is found. -/
def readLine (s : List Char) : Step :=
  let s := skipExport s
  match readName? s with
  | none => ⟨none, nextLine s⟩
  | some (name, s) =>
      let finish (value : Option (List Char)) (s : List Char) : Step :=
        match endLine? s with
        | some rest => ⟨name.map (⟨·, value⟩), rest⟩
        | none => ⟨none, nextLine (skipInline s)⟩
      match skipInline s with
      | '=' :: rest =>
          match readValue? rest with
          | some (value, rest) => finish (some value) rest
          | none => ⟨none, nextLine (skipInline rest)⟩
      | s => finish none s

/-- The bindings of a text; `fuel` bounds their number. -/
def readFrom : Nat → List Char → List Binding
  | 0, _ => []
  | fuel + 1, s =>
      match s.dropWhile isBlank with
      | [] => []
      | s =>
          let step := readLine s
          step.binding.toList ++ readFrom fuel step.rest

def readBindings (s : List Char) : List Binding :=
  readFrom (s.length + 1) s

/-! References -/

/-- A piece of a value: plain text, or a reference to a name with an optional default. -/
inductive Piece where
  | plain (c : Char)
  | reference (name : List Char) (default : Option (List Char))
  deriving DecidableEq, Repr

/-- A reference after its opening brace, and the rest. A name holds neither a colon nor a closing
brace, and a default no closing brace. -/
def readReference? (s : List Char) : Option (Piece × List Char) :=
  let stops (c : Char) : Bool := c != '}' && c != ':'
  let name := s.takeWhile stops
  match s.dropWhile stops with
  | '}' :: rest => some (.reference name none, rest)
  | ':' :: '-' :: rest =>
      match rest.dropWhile (· != '}') with
      | _ :: after => some (.reference name (some (rest.takeWhile (· != '}'))), after)
      | [] => none
  | _ => none

/-- The pieces of a value; `fuel` bounds their number. -/
def piecesFrom : Nat → List Char → List Piece
  | 0, _ => []
  | _ + 1, [] => []
  | fuel + 1, '$' :: '{' :: rest =>
      match readReference? rest with
      | some (piece, after) => piece :: piecesFrom fuel after
      | none => .plain '$' :: piecesFrom fuel ('{' :: rest)
  | fuel + 1, c :: rest => .plain c :: piecesFrom fuel rest

def pieces (s : List Char) : List Piece :=
  piecesFrom (s.length + 1) s

/-- A piece's text: a name that is bound, even to no value, is never replaced by a default. -/
def Piece.text (bound : List Char → Option (Option (List Char))) : Piece → List Char
  | .plain c => [c]
  | .reference name default =>
      match bound name with
      | some value => value.getD []
      | none => default.getD []

def expand (bound : List Char → Option (Option (List Char))) (s : List Char) : List Char :=
  (pieces s).flatMap (Piece.text bound)

/-- The bindings with their references replaced. A reference sees the bindings above it, the
nearest first, and then the outer names. -/
def expandAll (outer : List Char → Option (List Char)) : List Binding → List Binding → List Binding
  | _, [] => []
  | above, b :: rest =>
      let bound (name : List Char) : Option (Option (List Char)) :=
        match above.find? (·.name == name) with
        | some earlier => some earlier.value
        | none => (outer name).map some
      let b := { b with value := b.value.map (expand bound) }
      b :: expandAll outer (b :: above) rest

example : readBindings "export A = 'x' # c\nB\n=bad\nC=#c d #e".toList =
    [⟨['A'], some ['x']⟩, ⟨['B'], none⟩, ⟨['C'], some "#c d".toList⟩] := by decide +kernel

end PageServer.EnvFile
