import PageServer.Number
import PageServer.Template.Fault
import PageServer.Text.Blank
import PageServer.Text.CharacterName
import PageServer.Text.Digit
import PageServer.Text.Identifier
/-! What a template is made of. Its source is a sequence of plain text, outputs between double
braces, and tags between braces with percent signs; comments between braces with number signs are
dropped. A minus sign just inside a delimiter trims the blanks outside it. Inside outputs and tags
there are words, literals and signs with blanks between them.

Reading never fails as a whole: where the source cannot be read on, its tokens end with one that
says why. -/
namespace PageServer.Template

open Text Numeral

inductive Sign where
  | opening
  | closing
  | comma
  | dot
  | colon
  | assign
  | equal
  | floorSlash
  | slash
  | percent
  deriving DecidableEq, Repr

inductive Token where
  | data (s : List Char)
  | outputStart
  | outputEnd
  | tagStart
  | tagEnd
  | name (s : String)
  | text (s : String)
  | number (n : Number)
  | sign (s : Sign)
  | broken (fault : SourceFault)

/-! Numerals -/

/-- A run of digits, each with at most one underscore in front, and the rest; the underscores are
left out. -/
def takeRun (isDigit : Char → Bool) : List Char → List Char × List Char
  | '_' :: c :: rest =>
      if isDigit c then let (ds, rest) := takeRun isDigit rest; (c :: ds, rest)
      else ([], '_' :: c :: rest)
  | c :: rest =>
      if isDigit c then let (ds, rest) := takeRun isDigit rest; (c :: ds, rest) else ([], c :: rest)
  | [] => ([], [])

def takeDigits (s : List Char) : List Char × List Char :=
  if s.head?.any isDecimalDigit then takeRun isDecimalDigit s else ([], s)

def takeExponent (s : List Char) : List Char × List Char :=
  match s with
  | c :: rest =>
      if c == 'e' || c == 'E' then
        let (sign, rest) := match rest with
          | '+' :: rest => (['+'], rest)
          | '-' :: rest => (['-'], rest)
          | rest => ([], rest)
        let (ds, rest) := takeDigits rest
        if ds.isEmpty then ([], s) else ('e' :: sign ++ ds, rest)
      else ([], s)
  | [] => ([], [])

/-- What is said of a numeral with a digit of another script, which only a numeral without a point
and an exponent may have. -/
def foreignDigitMessage (front : List Char) (digit : Char) : String :=
  let text := match front.reverse with
    | 'e' :: _ => "invalid decimal literal"
    | '+' :: _ => "invalid decimal literal"
    | '-' :: _ => "invalid decimal literal"
    | _ => "invalid character '" ++ String.singleton digit ++ "' (U+" ++
        String.ofList ((digitsOfCode digit).map Char.toUpper) ++ ")"
  text ++ " (<unknown>, line 1)"
where
  digitsOfCode (c : Char) : List Char :=
    let ds := Nat.toDigits 16 c.toNat
    List.replicate (4 - ds.length) '0' ++ ds

def readReal? (s : List Char) : Option (Token × List Char) :=
  let (whole, rest) := takeDigits s
  let (fraction, rest) := match rest with
    | '.' :: more =>
        let (ds, after) := takeDigits more
        if ds.isEmpty then ([], rest) else ('.' :: ds, after)
    | rest => ([], rest)
  let (exponent, rest) := takeExponent rest
  if fraction.isEmpty && exponent.isEmpty then none
  else
    let numeral := whole ++ fraction ++ exponent
    let front := numeral.takeWhile fun c => c.toNat < 0x80
    match numeral.drop front.length with
    | digit :: _ => some (.broken (.raised "SyntaxError" (foreignDigitMessage front digit)), rest)
    | [] => some (.number (.real ((readFloat? numeral).getD 0)), rest)

def baseDigit? (base : Nat) (c : Char) : Option Nat :=
  if base == 16 then (hexValue? c).orElse fun _ => decimalDigit? c
  else (decimalDigit? c).filter fun n => c.isDigit && n < base

def baseOfLetter? : Char → Option Nat
  | 'b' => some 2
  | 'B' => some 2
  | 'o' => some 8
  | 'O' => some 8
  | 'x' => some 16
  | 'X' => some 16
  | _ => none

/-- The digits after a zero and the letter of a base, with that base, and the rest. -/
def takeBased? : List Char → Option (Nat × List Char × List Char)
  | '0' :: letter :: rest => do
      let base ← baseOfLetter? letter
      let (ds, rest) := takeRun (fun c => (baseDigit? base c).isSome) rest
      if ds.isEmpty then none else some (base, ds, rest)
  | _ => none

/-- The whole number at the start of a text, and the rest. A zero takes only zeros along, unless the
letter of a base follows. -/
def readWhole? (s : List Char) : Option (Token × List Char) :=
  match takeBased? s with
  | some (base, ds, rest) =>
      let n : Nat := ds.foldl (fun n c => base * n + (baseDigit? base c).getD 0) 0
      some (.number (.whole n), rest)
  | none =>
      match s with
      | '0' :: rest => some (.number (.whole 0), (takeRun (· == '0') rest).2)
      | c :: _ =>
          if c.isDigit then
            let (ds, rest) := takeDigits s
            let token : Token :=
              if mostDigits < ds.length then
                .broken (.raised "ValueError"
                  (digitLimitMessage (": value has " ++ toString ds.length ++ " digits")))
              else .number (.whole (decimalValue ds))
            some (token, rest)
          else none
      | [] => none

/-! Texts -/

/-- A quoted text after its opening quote, as written, and the rest. A backslash takes the next
character along. -/
def readQuoted? (quote : Char) : List Char → Option (List Char × List Char)
  | [] => none
  | '\\' :: c :: rest => (readQuoted? quote rest).map fun (s, after) => ('\\' :: c :: s, after)
  | c :: rest =>
      if c == quote then some ([], rest)
      else if c == '\\' then none
      else (readQuoted? quote rest).map fun (s, after) => (c :: s, after)

/-- The number that exactly `count` hexadecimal digits denote, and the rest. -/
def hexPrefix? (count : Nat) (s : List Char) : Option (Nat × List Char) :=
  if (s.take count).length = count then
    ((s.take count).foldlM (fun n c => (hexValue? c).map (16 * n + ·)) 0).map (·, s.drop count)
  else none

def letterEscape? : Char → Option Char
  | '\\' => some '\\'
  | '\'' => some '\''
  | '"' => some '"'
  | 'a' => some '\x07'
  | 'b' => some '\x08'
  | 'f' => some '\x0c'
  | 'n' => some '\n'
  | 'r' => some '\r'
  | 't' => some '\t'
  | 'v' => some '\x0b'
  | _ => none

def numberedEscape? : Char → Option Nat
  | 'x' => some 2
  | 'u' => some 4
  | 'U' => some 8
  | _ => none

def isOctal (c : Char) : Bool :=
  '0' ≤ c && c ≤ '7'

/-- The code that an escape after its backslash stands for, and the rest; none if it starts no
escape. -/
def readEscape? : List Char → Option (Option Nat × List Char)
  | [] => some (none, [])
  | 'N' :: rest =>
      match rest with
      | '\x7b' :: rest => do
          let name := rest.takeWhile (· != '\x7d')
          let code ← codeOfName? name
          if rest.contains '\x7d' then some (some code, rest.drop (name.length + 1)) else none
      | _ => none
  | c :: rest =>
      match letterEscape? c, numberedEscape? c with
      | some e, _ => some (some e.toNat, rest)
      | none, some count => do
          let (n, rest) ← hexPrefix? count rest
          if n < 0x110000 then some (some n, rest) else none
      | none, none =>
          if isOctal c then
            let ds := ((c :: rest).take 3).takeWhile isOctal
            some (some (ds.foldl (fun n d => 8 * n + (d.toNat - '0'.toNat)) 0),
              (c :: rest).drop ds.length)
          else some (none, c :: rest)

/-- A text with its escapes replaced; `fuel` bounds their number. A backslash before the end of a
line takes that along, and one that starts no escape stays. -/
def unescape? : Nat → List Char → Option (List Char)
  | 0, _ => none
  | _ + 1, [] => some []
  | fuel + 1, '\\' :: '\n' :: rest => unescape? fuel rest
  | fuel + 1, '\\' :: rest => do
      let (code, rest) ← readEscape? rest
      let s ← unescape? fuel rest
      match code with
      | some n => some (charOfCode n :: s)
      | none => some ('\\' :: s)
  | fuel + 1, c :: rest => (unescape? fuel rest).map (c :: ·)

/-- A character above ASCII as an escape. Escapes are read when all such characters are written as
escapes themselves, so that a backslash before one of them makes it literal. -/
def asEscape (c : Char) : List Char :=
  let n := c.toNat
  if n < 0x80 then [c]
  else if n ≤ 0xFF then ['\\', 'x'] ++ hexFixed 2 n
  else if n ≤ 0xFFFF then ['\\', 'u'] ++ hexFixed 4 n
  else ['\\', 'U'] ++ hexFixed 8 n

def textOfWritten? (s : List Char) : Option String :=
  let s := s.flatMap asEscape
  (unescape? (s.length + 1) s).map String.ofList

/-! Tokens inside delimiters -/

def readSign? : List Char → Option (Sign × List Char)
  | '=' :: '=' :: rest => some (.equal, rest)
  | '=' :: rest => some (.assign, rest)
  | '/' :: '/' :: rest => some (.floorSlash, rest)
  | '/' :: rest => some (.slash, rest)
  | '%' :: rest => some (.percent, rest)
  | '(' :: rest => some (.opening, rest)
  | ')' :: rest => some (.closing, rest)
  | ',' :: rest => some (.comma, rest)
  | '.' :: rest => some (.dot, rest)
  | ':' :: rest => some (.colon, rest)
  | _ => none

/-- Characters of signs that are not followed: those of filters, sums, products, inequalities, lists
and dictionaries. -/
def isFurtherSign (c : Char) : Bool :=
  "|+-~*!<>[]\x7b\x7d;".toList.contains c

/-- The fault of a source that goes on with a sign or a word that is not followed. -/
def SourceFault.ofFurther (s : String) : SourceFault :=
  beyond (s ++ " is not followed")

/-- The token at the start of a text, and the rest. Just after a dot a numeral is whole. -/
def readToken? (afterDot : Bool) : List Char → Option (Token × List Char)
  | [] => none
  | c :: rest =>
      if isDecimalDigit c then
        (if afterDot then none else readReal? (c :: rest)).orElse fun _ => readWhole? (c :: rest)
      else if isNameStart c then
        some (.name (String.ofList ((c :: rest).takeWhile isNamePart)),
          (c :: rest).dropWhile isNamePart)
      else if c == '"' || c == '\'' then do
        let (s, rest) ← readQuoted? c rest
        match textOfWritten? s with
        | some s => some (.text s, rest)
        | none => none
      else if isFurtherSign c then some (.broken (.ofFurther (String.singleton c)), rest)
      else (readSign? (c :: rest)).map fun (s, rest) => (.sign s, rest)

inductive Delimiter where
  | output
  | tag
  | comment
  deriving DecidableEq, Repr

def Delimiter.closing : Delimiter → Char
  | output => '}'
  | tag => '%'
  | comment => '#'

/-- Whether a closing delimiter starts here: whether it trims, and the rest after it. -/
def closes? (d : Delimiter) : List Char → Option (Bool × List Char)
  | '-' :: c :: '}' :: rest => if c == d.closing then some (true, rest) else none
  | '+' :: c :: '}' :: rest => if c == d.closing && d != .output then some (false, rest) else none
  | c :: '}' :: rest => if c == d.closing then some (false, rest) else none
  | _ => none

def afterClosing (trims : Bool) (rest : List Char) : List Char :=
  if trims then rest.dropWhile isBlank else rest

/-- The tokens up to a closing delimiter, and the text after it, if it was reached; `fuel` bounds
their number. -/
def readInside (d : Delimiter) (last : Token) :
    Nat → Bool → List Char → List Token × Option (List Char)
  | 0, _, _ => ([.broken .badSyntax], none)
  | fuel + 1, afterDot, s =>
      let trimmed := s.dropWhile isBlank
      match closes? d trimmed with
      | some (trims, rest) => ([last], some (afterClosing trims rest))
      | none =>
          match readToken? (afterDot && trimmed.length == s.length) trimmed with
          | none => ([.broken .badSyntax], none)
          | some (.broken fault, _) => ([.broken fault], none)
          | some (t, rest) =>
              let isDot := match t with
                | .sign .dot => true
                | _ => false
              let (ts, rest) := readInside d last fuel isDot rest
              (t :: ts, rest)

/-! The whole source -/

/-- The text after a comment. A comment whose opening ends the source needs no closing. -/
def skipComment? : List Char → Option (List Char)
  | [] => none
  | c :: rest =>
      match closes? .comment (c :: rest) with
      | some (trims, rest) => some (afterClosing trims rest)
      | none => skipComment? rest

/-- The plain text up to the first opening delimiter, that delimiter, and the rest after it. -/
def takeText : List Char → List Char × Option (Delimiter × List Char)
  | '{' :: '{' :: rest => ([], some (.output, rest))
  | '{' :: '%' :: rest => ([], some (.tag, rest))
  | '{' :: '#' :: rest => ([], some (.comment, rest))
  | c :: rest => let (s, found) := takeText rest; (c :: s, found)
  | [] => ([], none)

def dataTokens (s : List Char) : List Token :=
  if s.isEmpty then [] else [.data s]

/-- A delimited part after its opening delimiter: its tokens, and the text after it, if it has an
end. -/
def readPart (d : Delimiter) (s : List Char) : List Token × Option (List Char) :=
  let delimited (first last : Token) : List Token × Option (List Char) :=
    let (ts, rest) := readInside d last (s.length + 1) false s
    (first :: ts, rest)
  match d with
  | .output => delimited .outputStart .outputEnd
  | .tag => delimited .tagStart .tagEnd
  | .comment =>
      if s.isEmpty then ([], some [])
      else match skipComment? s with
        | some rest => ([], some rest)
        | none => ([.broken .badSyntax], none)

/-- The tokens of a source; `fuel` bounds the number of its parts. -/
def readTokens : Nat → List Char → List Token
  | 0, _ => [.broken .badSyntax]
  | fuel + 1, s =>
      match takeText s with
      | (text, none) => dataTokens text
      | (text, some (d, rest)) =>
          let (text, rest) := match rest with
            | '-' :: rest => (dropTrailing isBlank text, rest)
            | '+' :: rest => (text, rest)
            | rest => (text, rest)
          let (ts, rest) := readPart d rest
          dataTokens text ++ ts ++
            (match rest with
              | some rest => readTokens fuel rest
              | none => [])

def tokens (source : List Char) : List Token :=
  readTokens (source.length + 1) source

end PageServer.Template
