import PageServer.Value
import PageServer.Template.Token
/-! Expressions of templates. From the weakest to the strongest binding: a choice between two
expressions; alternatives; conjunctions; negations; comparisons, which may be chained; division,
floored division and remainder, from left to right; attributes, elements and calls; names, literals
and parentheses. Commas make a tuple. -/
namespace PageServer.Template

inductive Operator where
  | divide
  | floorDivide
  | modulo
  deriving DecidableEq, Repr

/-- The comparisons: whether two things are equal, and whether one is in the other or outside it. -/
inductive Comparison where
  | equal
  | within
  | outside
  deriving DecidableEq, Repr

/-- Ways that lead from a name to what lies outside: the document about the service, and whether
there is a file. -/
inductive Way where
  | document
  | fileExists
  deriving DecidableEq, Repr

def Way.steps : Way → List String
  | document => ["app", "openapi_schema"]
  | fileExists => ["__globals__", "os", "path", "exists"]

/-- An expression. A name has a second one, by which it is looked up: names that are the same
identifier are looked up as one. -/
inductive Expression where
  | name (written identifier : String)
  | literal (v : Value)
  | tuple (items : List Expression)
  | member (owner : Expression) (name : String)
  | element (owner : Expression) (index : Number)
  | call (callee : Expression) (arguments : List Expression)
  | arithmetic (op : Operator) (a b : Expression)
  | comparison (first : Expression) (others : List (Comparison × Expression))
  | negation (e : Expression)
  | conjunction (a b : Expression)
  | alternative (a b : Expression)
  | choice (test yes : Expression) (no : Option Expression)
  | outside (way : Way) (written identifier : String) (arguments : List Expression)

/-- An attribute of what an expression stands for. -/
def Expression.attribute (owner : Expression) (name : String) : Expression :=
  match owner, name with
  | .member (.name written identifier) "app", "openapi_schema" =>
      .outside .document written identifier []
  | owner, name => .member owner name

/-- A call of what an expression stands for. -/
def Expression.applied (callee : Expression) (arguments : List Expression) : Expression :=
  match callee with
  | .member (.member (.member (.member (.name written identifier) "__globals__") "os") "path")
      "exists" => .outside .fileExists written identifier arguments
  | callee => .call callee arguments

/-! Reading -/

/-- Words of tests, loops and blocks that are not followed. -/
def furtherWords : List String :=
  ["is", "if", "recursive", "scoped", "required"]

/-- The fault of tokens that cannot be read on: that of the source, if it cannot be read on here
either. -/
def unexpected {α : Type} (ts : List Token) : Except SourceFault α :=
  match ts with
  | .broken fault :: _ => .error fault
  | .name word :: _ =>
      .error (if furtherWords.contains word then .ofFurther word else .badSyntax)
  | _ => .error .badSyntax

/-- The tokens after a sign, which has to come next. -/
def expectSign (s : Sign) (ts : List Token) : Except SourceFault (List Token) :=
  match ts with
  | .sign t :: rest => if t = s then .ok rest else .error .badSyntax
  | ts => unexpected ts

/-- The tokens after a word, if it comes next. -/
def afterWord? (word : String) : List Token → Option (List Token)
  | .name s :: rest => if s = word then some rest else none
  | _ => none

/-- The tokens after a sign, if it comes next. -/
def afterSign? (s : Sign) : List Token → Option (List Token)
  | .sign t :: rest => if t = s then some rest else none
  | _ => none

def literalWord? : String → Option Value
  | "true" => some (.bool true)
  | "True" => some (.bool true)
  | "false" => some (.bool false)
  | "False" => some (.bool false)
  | "none" => some .none
  | "None" => some .none
  | _ => none

def operator? : Token → Option Operator
  | .sign .slash => some .divide
  | .sign .floorSlash => some .floorDivide
  | .sign .percent => some .modulo
  | _ => none

/-- The comparison at the start of tokens, and the rest. -/
def comparison? : List Token → Option (Comparison × List Token)
  | .sign .equal :: rest => some (.equal, rest)
  | .name "in" :: rest => some (.within, rest)
  | .name "not" :: .name "in" :: rest => some (.outside, rest)
  | _ => none

def joinTexts (s : String) : List Token → String × List Token
  | .text t :: rest => joinTexts (s ++ t) rest
  | rest => (s, rest)

def endsTuple : List Token → Bool
  | .sign .closing :: _ => true
  | .outputEnd :: _ => true
  | .tagEnd :: _ => true
  | _ => false

mutual

/-- An expression at the start of tokens; `fuel` bounds the depth. -/
def readExpression : Nat → List Token → Except SourceFault (Expression × List Token)
  | 0, _ => .error .badSyntax
  | fuel + 1, ts => do
      let (a, ts) ← readAlternatives fuel ts
      readChoices fuel a ts

def readChoices : Nat → Expression → List Token → Except SourceFault (Expression × List Token)
  | 0, _, _ => .error .badSyntax
  | fuel + 1, a, ts =>
      match afterWord? "if" ts with
      | none => .ok (a, ts)
      | some ts => do
          let (test, ts) ← readAlternatives fuel ts
          match afterWord? "else" ts with
          | none => readChoices fuel (.choice test a none) ts
          | some ts => do
              let (b, ts) ← readExpression fuel ts
              readChoices fuel (.choice test a (some b)) ts

/-- An expression that is no choice. -/
def readAlternatives : Nat → List Token → Except SourceFault (Expression × List Token)
  | 0, _ => .error .badSyntax
  | fuel + 1, ts => do
      let (a, ts) ← readConjunctions fuel ts
      readMoreAlternatives fuel a ts

def readMoreAlternatives : Nat → Expression → List Token →
    Except SourceFault (Expression × List Token)
  | 0, _, _ => .error .badSyntax
  | fuel + 1, a, ts =>
      match afterWord? "or" ts with
      | none => .ok (a, ts)
      | some ts => do
          let (b, ts) ← readConjunctions fuel ts
          readMoreAlternatives fuel (.alternative a b) ts

def readConjunctions : Nat → List Token → Except SourceFault (Expression × List Token)
  | 0, _ => .error .badSyntax
  | fuel + 1, ts => do
      let (a, ts) ← readNegation fuel ts
      readMoreConjunctions fuel a ts

def readMoreConjunctions : Nat → Expression → List Token →
    Except SourceFault (Expression × List Token)
  | 0, _, _ => .error .badSyntax
  | fuel + 1, a, ts =>
      match afterWord? "and" ts with
      | none => .ok (a, ts)
      | some ts => do
          let (b, ts) ← readNegation fuel ts
          readMoreConjunctions fuel (.conjunction a b) ts

def readNegation : Nat → List Token → Except SourceFault (Expression × List Token)
  | 0, _ => .error .badSyntax
  | fuel + 1, ts =>
      match afterWord? "not" ts with
      | some ts => do
          let (a, ts) ← readNegation fuel ts
          return (.negation a, ts)
      | none => do
          let (a, ts) ← readProduct fuel ts
          let (others, ts) ← readComparisons fuel ts
          return (if others.isEmpty then a else .comparison a others, ts)

def readComparisons : Nat → List Token →
    Except SourceFault (List (Comparison × Expression) × List Token)
  | 0, _ => .error .badSyntax
  | fuel + 1, ts =>
      match comparison? ts with
      | none => .ok ([], ts)
      | some (c, ts) => do
          let (b, ts) ← readProduct fuel ts
          let (others, ts) ← readComparisons fuel ts
          return ((c, b) :: others, ts)

def readProduct : Nat → List Token → Except SourceFault (Expression × List Token)
  | 0, _ => .error .badSyntax
  | fuel + 1, ts => do
      let (a, ts) ← readOperand fuel ts
      readFactors fuel a ts

def readFactors : Nat → Expression → List Token → Except SourceFault (Expression × List Token)
  | 0, _, _ => .error .badSyntax
  | fuel + 1, a, ts =>
      match ts.head?.bind operator? with
      | some op => do
          let (b, ts) ← readOperand fuel ts.tail
          readFactors fuel (.arithmetic op a b) ts
      | none => .ok (a, ts)

def readOperand : Nat → List Token → Except SourceFault (Expression × List Token)
  | 0, _ => .error .badSyntax
  | fuel + 1, .name s :: ts =>
      readPostfix fuel (match literalWord? s with | some v => .literal v | none => .name s s) ts
  | fuel + 1, .number n :: ts => readPostfix fuel (.literal (.number n)) ts
  | fuel + 1, .text s :: ts =>
      let (s, ts) := joinTexts s ts
      readPostfix fuel (.literal (.text s)) ts
  | fuel + 1, .sign .opening :: ts => do
      let (a, ts) ← readTuple fuel true true ts
      let ts ← expectSign .closing ts
      readPostfix fuel a ts
  | _ + 1, ts => unexpected ts

def readPostfix : Nat → Expression → List Token → Except SourceFault (Expression × List Token)
  | 0, _, _ => .error .badSyntax
  | fuel + 1, a, .sign .dot :: .name s :: ts => readPostfix fuel (a.attribute s) ts
  | fuel + 1, a, .sign .dot :: .number n :: ts =>
      if n.isReal then .error .badSyntax else readPostfix fuel (.element a n) ts
  | _ + 1, _, .sign .dot :: ts => unexpected ts
  | fuel + 1, a, .sign .opening :: ts => do
      let (arguments, ts) ← readArguments fuel false ts
      readPostfix fuel (a.applied arguments) ts
  | _ + 1, a, ts => .ok (a, ts)

/-- The arguments of a call after its opening parenthesis; a comma may follow the last one. Once an
argument has been given by name, all others are. -/
def readArguments : Nat → Bool → List Token → Except SourceFault (List Expression × List Token)
  | 0, _, _ => .error .badSyntax
  | fuel + 1, named, ts =>
      match afterSign? .closing ts with
      | some ts => .ok ([], ts)
      | none => do
          let isNamed := match ts with
            | .name _ :: .sign .assign :: _ => true
            | _ => false
          if named && !isNamed then throw .badSyntax
          let (a, ts) ← readExpression fuel (if isNamed then ts.drop 2 else ts)
          match afterSign? .comma ts with
          | some ts => do
              let (others, ts) ← readArguments fuel isNamed ts
              return (a :: others, ts)
          | none => do
              let ts ← expectSign .closing ts
              return ([a], ts)

/-- Expressions with commas between them, which make a tuple; a single one without a comma is
itself. None at all are a tuple only in parentheses. Choices may be ruled out. -/
def readTuple : Nat → Bool → Bool → List Token → Except SourceFault (Expression × List Token)
  | 0, _, _, _ => .error .badSyntax
  | fuel + 1, choices, parenthesized, ts =>
      if endsTuple ts then
        if parenthesized then .ok (.tuple [], ts) else .error .badSyntax
      else do
        let (a, ts) ← if choices then readExpression fuel ts else readAlternatives fuel ts
        match afterSign? .comma ts with
        | none => return (a, ts)
        | some ts => do
            let (others, ts) ← readItems fuel choices ts
            return (.tuple (a :: others), ts)

def readItems : Nat → Bool → List Token → Except SourceFault (List Expression × List Token)
  | 0, _, _ => .error .badSyntax
  | fuel + 1, choices, ts =>
      if endsTuple ts then .ok ([], ts)
      else do
        let (a, ts) ← if choices then readExpression fuel ts else readAlternatives fuel ts
        match afterSign? .comma ts with
        | none => return ([a], ts)
        | some ts => do
            let (others, ts) ← readItems fuel choices ts
            return (a :: others, ts)

end

def depthFor (ts : List Token) : Nat :=
  8 * (ts.length + 1)

/-- The names in an expression, in the order in which they stand. -/
def Expression.names : Expression → List String
  | .name s _ => [s]
  | .literal _ => []
  | .tuple items => namesIn items
  | .member owner _ => owner.names
  | .element owner _ => owner.names
  | .call callee arguments => callee.names ++ namesIn arguments
  | .arithmetic _ a b => a.names ++ b.names
  | .comparison first others => first.names ++ namesInComparisons others
  | .negation e => e.names
  | .conjunction a b => a.names ++ b.names
  | .alternative a b => a.names ++ b.names
  | .choice test yes no => test.names ++ yes.names ++ namesInOption no
  | .outside _ written _ arguments => written :: namesIn arguments
where
  namesIn : List Expression → List String
    | [] => []
    | e :: rest => e.names ++ namesIn rest
  namesInComparisons : List (Comparison × Expression) → List String
    | [] => []
    | (_, e) :: rest => e.names ++ namesInComparisons rest
  namesInOption : Option Expression → List String
    | none => []
    | some e => e.names

end PageServer.Template
