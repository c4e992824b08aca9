import PageServer.Value.Json
import PageServer.Http.Headers
import PageServer.Http.Status
import PageServer.Text.Blank
import PageServer.Text.Digit
import PageServer.Text.Latin1
import PageServer.Text.LowerCase
/-! Parts of responses given as values, which may be of the wrong kind. Header names go into lower
case; names and values have to be made of the first 256 characters. -/
namespace PageServer.Http

open Text

/-- Why a value is no part of a response. -/
inductive GivenFault where
  | lacks (kind capability : String)
  | outsideLatin1 (fault : Latin1Fault)
  | unordered (relation kind : String)
  | notNumeral (text : String)
  | longNumeral (digits : Nat)
  | unhashable (kind : String)
  | infinite
  deriving DecidableEq, Repr

namespace GivenFault

def kind : GivenFault → String
  | lacks .. => "AttributeError"
  | outsideLatin1 _ => "UnicodeEncodeError"
  | unordered .. => "TypeError"
  | notNumeral _ => "ValueError"
  | longNumeral _ => "ValueError"
  | unhashable _ => "TypeError"
  | infinite => "ValueError"

def message : GivenFault → String
  | lacks kind capability => "'" ++ kind ++ "' object has no attribute '" ++ capability ++ "'"
  | outsideLatin1 fault => fault.message
  | unordered relation kind =>
      "'" ++ relation ++ "' not supported between instances of '" ++ kind ++ "' and 'int'"
  | notNumeral text =>
      "invalid literal for int() with base 10: " ++ String.ofList ((quoted text).toList.take 200)
  | longNumeral digits =>
      Numeral.digitLimitMessage (": value has " ++ toString digits ++ " digits")
  | unhashable kind => "unhashable type: '" ++ kind ++ "'"
  | infinite => Value.infiniteMessage

end GivenFault

/-- A header text, which is made of the first 256 characters. -/
def headerText (s : String) : Except GivenFault String :=
  match latin1Fault? s.toList with
  | some fault => .error (.outsideLatin1 fault)
  | none => .ok s

/-- The text that a value is, of which something is asked that only texts have. -/
def textWith (capability : String) (v : Value) : Except GivenFault String :=
  match v with
  | .text s => .ok s
  | v => .error (.lacks v.kind capability)

def headersOfValue (v : Value) : Except GivenFault Headers :=
  match v with
  | .none => .ok []
  | .dict entries => entries.mapM fun (name, value) => do
      let name ← headerText (lowerText name)
      let value ← headerText (← textWith "encode" value)
      return (name, value)
  | v => .error (.lacks v.kind "items")

def statusOfValue (relation : String) (v : Value) : Except GivenFault Status :=
  match v.number?.bind Number.truncated? with
  | some code => .ok ⟨code, v⟩
  | none => .error (.unordered relation v.kind)

/-- The status that is looked at when a response is made: where its length is given, that is only
when it is logged. -/
def statusFor (headers : Headers) (v : Value) : Except GivenFault Status :=
  statusOfValue (if headers.has "content-length" then ">=" else "<") v

/-- The natural number that decimal digits denote, between which single underscores may stand. Too
many of them are refused before what follows them is looked at. -/
def naturalOfText (text : String) (s : List Char) : Except GivenFault Nat :=
  let parts := splitAt '_' (s.takeWhile fun c => isDecimalDigit c || c == '_')
  if parts.any (·.isEmpty) then .error (.notNumeral text)
  else if Numeral.mostDigits < parts.flatten.length then .error (.longNumeral parts.flatten.length)
  else if s.all fun c => isDecimalDigit c || c == '_' then .ok (decimalValue parts.flatten)
  else .error (.notNumeral text)

def integerOfText (text : String) : Except GivenFault Int :=
  match trim isBlank text.toList with
  | '-' :: rest => (naturalOfText text rest).map fun n => -(n : Int)
  | '+' :: rest => (naturalOfText text rest).map Int.ofNat
  | s => (naturalOfText text s).map Int.ofNat

/-- The words that stand for groups of status codes. -/
def statusGroups : List String := ["default", "1XX", "2XX", "3XX", "4XX", "5XX"]

def allowsBodyOf (v : Value) : Except GivenFault Bool :=
  match v with
  | .none => .ok true
  | .text s =>
      if statusGroups.contains s then .ok true
      else (integerOfText s).map allowsBody
  | .list _ => .error (.unhashable v.kind)
  | .dict _ => .error (.unhashable v.kind)
  | v => (statusOfValue "<" v).map (allowsBody ·.code)

end PageServer.Http
