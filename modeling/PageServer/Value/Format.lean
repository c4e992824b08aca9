import PageServer.Value
import PageServer.Text.Blank
/-! Texts with places for what they are filled with. A place is a percent sign, an optional key in
parentheses, flags, a least width, a precision, and a letter that says how its operand is shown; two
percent signs stand for one. Operands are taken in order, or by key from one that has keys. All of
them must be used, unless they could be taken by key. -/
namespace PageServer.Format

open Text Numeral

inductive Fault where
  | type (message : String)
  | value (message : String)
  | overflow (message : String)
  | absentKey (key : String)
  | undefined (message : String)
  | memory
  deriving DecidableEq, Repr

/-- A thing that is no value, as far as places show it. -/
structure Thing where
  kind : String
  shown : String
  quoted : String
  keyed : Bool := false
  deriving DecidableEq, Repr

/-- What a place is filled with: a value, something that is not there, or another thing. -/
inductive Operand where
  | value (v : Value)
  | absent (message : String)
  | thing (t : Thing)

namespace Operand

def kind : Operand → String
  | value v => v.kind
  | absent _ => "Undefined"
  | thing t => t.kind

def shown : Operand → String
  | value v => v.shown
  | absent _ => ""
  | thing t => t.shown

def quoted : Operand → String
  | value v => v.quoted
  | absent _ => "Undefined"
  | thing t => t.quoted

def number? : Operand → Option Number
  | value v => v.number?
  | _ => none

/-- Whether keys can be looked up in an operand, or a failure to do so is its own. -/
def isKeyed : Operand → Bool
  | value (.dict _) => true
  | value (.list _) => true
  | value _ => false
  | absent _ => true
  | thing t => t.keyed

def entry (o : Operand) (key : String) : Except Fault Operand :=
  match o with
  | value (.dict entries) =>
      match entries.lookup key with
      | some v => .ok (.value v)
      | none => .error (.absentKey key)
  | value (.list _) => .error (.type "list indices must be integers or slices, not str")
  | absent message => .error (.undefined message)
  | thing t => .error (if t.keyed then .absentKey key else .type "format requires a mapping")
  | value _ => .error (.type "format requires a mapping")

end Operand

/-- What a text is filled in with: several operands, or one that may have keys. -/
inductive Supply where
  | several (operands : List Operand)
  | one (o : Operand)

/-- The flags, the width and the precision of a place. -/
structure Layout where
  left : Bool := false
  plus : Bool := false
  space : Bool := false
  alternate : Bool := false
  zero : Bool := false
  width : Nat := 0
  precision : Option Nat := none

/-- The operands not used yet, and the one that keys refer to. -/
structure Pool where
  rest : List Operand
  keyed : Option Operand

def Pool.ofSupply : Supply → Pool
  | .several operands => ⟨operands, none⟩
  | .one o => ⟨[o], if o.isKeyed then some o else none⟩

def Pool.next (p : Pool) : Except Fault (Operand × Pool) :=
  match p.rest with
  | o :: rest => .ok (o, { p with rest := rest })
  | [] => .error (.type "not enough arguments for format string")

/-- The pool in which the operand of a key comes next. -/
def Pool.select (p : Pool) (key : String) : Except Fault Pool :=
  match p.keyed with
  | some o => (o.entry key).map fun found => { p with rest := [found] }
  | none => .error (.type "format requires a mapping")

/-! Layout -/

def padded (l : Layout) (s : List Char) : List Char :=
  let fill := List.replicate (l.width - s.length) ' '
  if l.left then s ++ fill else fill ++ s

def signText (l : Layout) (negative : Bool) : List Char :=
  if negative then ['-'] else if l.plus then ['+'] else if l.space then [' '] else []

/-- A number's digits with what stands in front of them, padded to the width. -/
def paddedNumber (l : Layout) (negative : Bool) (mark ds : List Char) : List Char :=
  let front := signText l negative ++ mark
  if l.zero && !l.left then
    front ++ List.replicate (l.width - (front ++ ds).length) '0' ++ ds
  else padded l (front ++ ds)

def withPrecision (l : Layout) (ds : List Char) : List Char :=
  List.replicate (l.precision.getD 0 - ds.length) '0' ++ ds

/-! Numbers -/

def baseDigits (base n : Nat) : List Char :=
  Nat.toDigits base n

/-- A magnitude rounded to `count` digits, with the exponent of the first one. -/
def roundedDigits (b : Binary) (count : Nat) : List Char × Int :=
  if b.mantissa = 0 then (List.replicate count '0', 0)
  else
    let d := b.significant count
    let ds := digits d.significand
    if ds.length > count then (ds.take count, d.exponent + count)
    else (ds, d.exponent + count - 1)

def withPoint (alternate : Bool) (whole fraction : List Char) : List Char :=
  if fraction.isEmpty && !alternate then whole else whole ++ ['.'] ++ fraction

def scientific (alternate : Bool) (ds : List Char) (e : Int) : List Char :=
  withPoint alternate (ds.take 1) (ds.drop 1) ++ exponentText plainStyle e

/-- A magnitude in the shorter of both forms, without trailing zeros of its fraction. -/
def general (alternate : Bool) (ds : List Char) (e : Int) : List Char :=
  let trimmed (fraction : List Char) : List Char :=
    if alternate then fraction else dropTrailing (· == '0') fraction
  if e < -4 ∨ (ds.length : Int) ≤ e then
    withPoint alternate (ds.take 1) (trimmed (ds.drop 1)) ++ exponentText plainStyle e
  else if 0 ≤ e then
    withPoint alternate (ds.take (e.toNat + 1)) (trimmed (ds.drop (e.toNat + 1)))
  else
    withPoint alternate ['0'] (trimmed (List.replicate (-e - 1).toNat '0' ++ ds))

def magnitudeText (l : Layout) (letter : Char) (b : Binary) : List Char :=
  let precision := l.precision.getD 6
  if letter == 'f' then
    let s := pointed precision (b.inPlaces precision)
    if l.alternate && precision == 0 then s ++ ['.'] else s
  else if letter == 'e' then
    let (ds, e) := roundedDigits b (precision + 1)
    scientific l.alternate ds e
  else
    let (ds, e) := roundedDigits b (max precision 1)
    general l.alternate ds e

def realText (l : Layout) (letter : Char) (x : Float) : List Char :=
  let upper := letter.isUpper
  let (negative, s) := match valueOf x with
    | .notANumber => (false, "nan".toList)
    | .infinite negative => (negative, "inf".toList)
    | .finite b => (b.negative, magnitudeText l letter.toLower b)
  paddedNumber l negative [] (if upper then s.map Char.toUpper else s)

def wholeText (l : Layout) (letter : Char) (n : Int) : List Char :=
  let (base, mark) : Nat × List Char :=
    if letter == 'x' then (16, "0x".toList)
    else if letter == 'X' then (16, "0X".toList)
    else if letter == 'o' then (8, "0o".toList)
    else (10, [])
  let ds := withPrecision l (baseDigits base n.natAbs)
  paddedNumber l (n < 0) (if l.alternate then mark else [])
    (if letter == 'X' then ds.map Char.toUpper else ds)

/-- Whether a letter shows whole numbers in decimal. -/
def isDecimalLetter (letter : Char) : Bool :=
  letter == 'd' || letter == 'i' || letter == 'u'

/-- The whole number shown for an operand by a letter. -/
def wholeOf (letter : Char) (o : Operand) : Except Fault Int :=
  let name := "%" ++ String.singleton letter ++ " format: "
  match o, o.number? with
  | .absent message, _ =>
      if isDecimalLetter letter then .error (.undefined message)
      else .error (.type (name ++ "an integer is required, not " ++ o.kind))
  | _, some (.whole n) => .ok n
  | _, some (.real x) =>
      if !isDecimalLetter letter then .error (.type (name ++ "an integer is required, not float"))
      else match (Number.real x).truncated? with
        | some n => .ok n
        | none =>
            if Number.isInfinite x then
              .error (.overflow "cannot convert float infinity to integer")
            else .error (.value "cannot convert float NaN to integer")
  | _, none =>
      .error (.type (name ++
        (if isDecimalLetter letter then "a real number is required, not "
          else "an integer is required, not ") ++ o.kind))

/-- The floating-point number shown for an operand. -/
def realOf (o : Operand) : Except Fault Float :=
  match o, o.number? with
  | .absent message, _ => .error (.undefined message)
  | _, some n =>
      if Number.isInfinite n.toFloat && !n.isReal then
        .error (.overflow "int too large to convert to float")
      else .ok n.toFloat
  | _, none => .error (.type ("must be real number, not " ++ o.kind))

/-- The quoted form of an operand with ASCII characters only. -/
def asciiQuoted (o : Operand) : List Char :=
  o.quoted.toList.flatMap fun c =>
    if c.toNat < 0x80 then [c]
    else if c.toNat ≤ 0xFF then ['\\', 'x'] ++ hexFixed 2 c.toNat
    else if c.toNat ≤ 0xFFFF then ['\\', 'u'] ++ hexFixed 4 c.toNat
    else ['\\', 'U'] ++ hexFixed 8 c.toNat

/-- The character shown for an operand. -/
def characterOf (o : Operand) : Except Fault Char :=
  match o, o.number? with
  | .value (.text s), _ =>
      match s.toList with
      | [c] => .ok c
      | _ => .error (.type "%c requires int or char")
  | _, some (.whole n) =>
      if 0 ≤ n ∧ n < 0x110000 then .ok (charOfCode n.toNat)
      else .error (.overflow "%c arg not in range(0x110000)")
  | _, _ => .error (.type "%c requires int or char")

/-- The largest precision with which a whole number is shown. -/
def mostPlaces : Nat := 2147483644

/-- Refuses to show a whole number in decimal that has too many digits. -/
def checkDigits (o : Operand) : Except Fault Unit :=
  match o with
  | .value (.number n) =>
      match n.limitFault? with
      | some message => .error (.value message)
      | none => .ok ()
  | _ => .ok ()

def placeText (l : Layout) (letter : Char) (index : Nat) (o : Operand) :
    Except Fault (List Char) :=
  let cut (s : List Char) : List Char :=
    match l.precision with
    | some p => s.take p
    | none => s
  if letter == 's' then do
    checkDigits o
    return padded l (cut o.shown.toList)
  else if letter == 'r' then do
    checkDigits o
    return padded l (cut o.quoted.toList)
  else if letter == 'a' then do
    checkDigits o
    return padded l (cut (asciiQuoted o))
  else if letter == 'c' then (characterOf o).map fun c => padded l [c]
  else if isDecimalLetter letter || "xXo".toList.contains letter then do
    let n ← wholeOf letter o
    if mostPlaces < l.precision.getD 0 then throw (.overflow "precision too large")
    if isDecimalLetter letter then checkDigits o
    return wholeText l letter n
  else if "eEfFgG".toList.contains letter then (realOf o).map (realText l letter)
  else
    let shown := if 31 ≤ letter.toNat && letter.toNat ≤ 126 then letter else '?'
    .error (.value ("unsupported format character '" ++ String.singleton shown ++ "' (0x"
      ++ String.ofList (Nat.toDigits 16 letter.toNat) ++ ") at index " ++ toString index))

/-! Places -/

def readFlags (l : Layout) : List Char → Layout × List Char
  | '-' :: rest => readFlags { l with left := true } rest
  | '+' :: rest => readFlags { l with plus := true } rest
  | ' ' :: rest => readFlags { l with space := true } rest
  | '#' :: rest => readFlags { l with alternate := true } rest
  | '0' :: rest => readFlags { l with zero := true } rest
  | rest => (l, rest)

/-- A number in a place: how large it may be, and what is said of a larger one. Written out it is a
bad value, and taken from the operands it is out of range. -/
structure CountLimit where
  most : Nat
  written : String
  taken : String

def widthLimit : CountLimit :=
  ⟨0x7FFFFFFFFFFFFFFF, "width too big", "Python int too large to convert to C ssize_t"⟩

def precisionLimit : CountLimit :=
  ⟨0x7FFFFFFF, "precision too big", "Python int too large to convert to C int"⟩

/-- The least and the largest number that may be taken. -/
def CountLimit.allows (limit : CountLimit) (n : Int) : Bool :=
  -(limit.most : Int) ≤ n + 1 && n ≤ limit.most

/-- A number in a place, written out or taken from the operands. -/
def readCount (limit : CountLimit) (p : Pool) : List Char → Except Fault (Int × Pool × List Char)
  | '*' :: rest => do
      let (o, p) ← p.next
      match o.number? with
      | some (.whole n) =>
          if limit.allows n then return (n, p, rest) else throw (.overflow limit.taken)
      | _ => throw (.type "* wants int")
  | s =>
      let n := digitsValue (s.takeWhile isDigit)
      if limit.most < n then .error (.value limit.written)
      else .ok (n, p, s.dropWhile isDigit)

/-- The width from which on there is no room for a text. -/
def roomlessWidth : Nat := 0x200000000

/-- The key at the start of a place, without its parentheses, which may be nested. -/
def readKey? : Nat → List Char → Option (List Char × List Char)
  | _, [] => none
  | depth, '(' :: rest => (readKey? (depth + 1) rest).map fun (k, after) => ('(' :: k, after)
  | 0, ')' :: rest => some ([], rest)
  | depth + 1, ')' :: rest => (readKey? depth rest).map fun (k, after) => (')' :: k, after)
  | depth, c :: rest => (readKey? depth rest).map fun (k, after) => (c :: k, after)

def isSizeLetter (c : Char) : Bool :=
  c == 'h' || c == 'l' || c == 'L'

/-- One place after its percent sign: its text, the operands left, and the rest. `length` is that of
the whole text, by which the index of a letter is told. -/
def readPlace (length : Nat) (p : Pool) (s : List Char) :
    Except Fault (List Char × Pool × List Char) := do
  let (p, s) ← match s with
    | '(' :: rest =>
        if p.keyed.isNone then throw (.type "format requires a mapping")
        else match readKey? 0 rest with
          | some (key, rest) => do
              let p ← p.select (String.ofList key)
              pure (p, rest)
          | none => throw (.value "incomplete format key")
    | s => pure (p, s)
  let (l, s) := readFlags {} s
  let (width, p, s) ← readCount widthLimit p s
  let l := { l with width := width.natAbs, left := l.left || width < 0 }
  let (l, p, s) ← match s with
    | '.' :: rest => do
        let (n, p, rest) ← readCount precisionLimit p rest
        pure ({ l with precision := some n.toNat }, p, rest)
    | s => pure (l, p, s)
  let s := match s with
    | c :: rest => if isSizeLetter c then rest else c :: rest
    | [] => []
  match s with
  | [] => throw (.value "incomplete format")
  | letter :: rest => do
      let (o, p) ← p.next
      let fits := l.width < roomlessWidth
      let shown ← placeText (if fits then l else { l with width := 0 }) letter
        (length - rest.length - 1) o
      if fits then return (shown, p, rest) else throw .memory

/-- A text filled in; `fuel` bounds the number of places. -/
def fillFrom (length : Nat) : Nat → Pool → List Char → Except Fault (List Char)
  | 0, _, _ => .ok []
  | fuel + 1, p, s => do
      let plain := s.takeWhile (· != '%')
      match s.dropWhile (· != '%') with
      | [] =>
          if p.rest.isEmpty || p.keyed.isSome then return plain
          else throw (.type "not all arguments converted during string formatting")
      | _ :: '%' :: rest => do
          let others ← fillFrom length fuel p rest
          return plain ++ ['%'] ++ others
      | _ :: rest => do
          let (shown, p, rest) ← readPlace length p rest
          let others ← fillFrom length fuel p rest
          return plain ++ shown ++ others

def fill (s : String) (supply : Supply) : Except Fault String :=
  (fillFrom s.toList.length (s.toList.length + 1) (.ofSupply supply) s.toList).map String.ofList

end PageServer.Format
