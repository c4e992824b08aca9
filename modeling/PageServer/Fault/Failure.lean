import PageServer.Fault.AppError
import PageServer.Fault.General
import PageServer.Http.Given
import PageServer.Http.Url
import PageServer.Limiter.Clock
/-! What can go wrong while a request is served: an application error, an error that is itself an
HTTP answer, a request that was found invalid, or any other error. The others are of classes of
which only the last resort knows; they are known by the word for their kind and by their text, so
that an error whose text cannot be formed is none of them. All texts here can be written in
bytes. -/
namespace PageServer

open Text

inductive Failure where
  | app (e : AppError)
  | http (status : Http.Status) (detail : Value) (headers : Http.Headers)
  | invalid (errors : Value)
  | other (kind : String) (text : String)

/-- The classes of errors, as far as answers tell them apart. -/
inductive ErrorClass where
  | app (c : AppErrorKind)
  | http
  | invalid
  | other (kind : String)
  | any
  deriving DecidableEq, Repr

/-- A class and the classes above it, the nearest first; all end at the class of any error. -/
def ErrorClass.lineage : ErrorClass → List ErrorClass
  | app c => c.lineage.map .app ++ [any]
  | http => [http, any]
  | invalid => [invalid, any]
  | other kind => [other kind, any]
  | any => [any]

namespace Failure

def errorClass : Failure → ErrorClass
  | app e => .app e.errorClass
  | http .. => .http
  | invalid _ => .invalid
  | other kind _ => .other kind

def className : Failure → String
  | app e => e.errorClass.name
  | http .. => "HTTPException"
  | invalid _ => "RequestValidationError"
  | other kind _ => kind

def text : Failure → String
  | app e => e.message.shown
  | http status detail _ => status.value.shown ++ ": " ++ detail.shown
  | invalid errors => errors.shown
  | other _ text => text

def ofGiven (fault : Http.GivenFault) : Failure :=
  other fault.kind fault.message

def urlFaultKind : Http.UrlFault → String
  | .unknownPort _ => "KeyError"
  | .badQuery _ => "UnicodeDecodeError"
  | _ => "ValueError"

def ofUrl (fault : Http.UrlFault) : Failure :=
  other (urlFaultKind fault) fault.message

/-- What is said about a whole number of seconds that a health report cannot state: its digits, of
which a long row is shown by its ends. -/
def uptimeMessage (seconds : Int) : String :=
  let digits := toString seconds
  let shown :=
    if 50 < digits.length then
      String.ofList (digits.toList.take 25) ++ "..." ++
        String.ofList (digits.toList.drop (digits.length - 24))
    else digits
  "1 validation error for HealthResponse\nuptime_seconds\n  Input should be a valid number " ++
    "[type=float_type, input_value=" ++ shown ++ ", input_type=int]\n" ++
    "    For further information visit https://errors.pydantic.dev/2.14/v/float_type"

/-- The failure where seconds cannot be counted. -/
def ofClock : ClockFault → Failure
  | .tooLarge => other "OverflowError" "int too large to convert to float"
  | .infinite => other "OverflowError" "cannot convert float infinity to integer"
  | .notANumber => other "ValueError" "cannot convert float NaN to integer"
  | .unrepresentable seconds => other "ValidationError" (uptimeMessage seconds)

/-! Errors made from arguments -/

def httpCallable : Callable :=
  ⟨"HTTPException.__init__()",
    [⟨"status_code", none⟩, ⟨"detail", some .none⟩, ⟨"headers", some .none⟩]⟩

/-- The detail of an HTTP answer where none is given: the standard phrase of its status. -/
def standardDetail (status : Value) : Value :=
  .text (((Http.statusOfValue "<" status).toOption.bind Http.phrase?).getD "")

def detailOf (status detail : Value) : Value :=
  match detail with
  | .none => standardDetail status
  | v => v

/-- An error that is an HTTP answer, or what keeps it from being answered. -/
def httpOf (status detail headers : Value) : Except Http.GivenFault Failure := do
  let bodied ← Http.allowsBodyOf status
  if bodied && !(detailOf status detail).isFinite then .error .infinite
  else
    let fields ← Http.headersOfValue headers
    let made ← Http.statusFor fields status
    return http made (detailOf status detail) fields

/-- An error that is an HTTP answer, made from arguments. -/
def makeHttp (values : List Value) (named : Entries) : Failure :=
  match httpCallable.bind values named with
  | .error fault => other "TypeError" fault.message
  | .ok bound =>
      let argument (name : String) : Value := (bound.lookup name).getD .none
      match httpOf (argument "status_code") (argument "detail") (argument "headers") with
      | .ok failure => failure
      | .error fault => ofGiven fault

/-- A request found invalid, or what keeps the errors in it from being answered. -/
def ofErrors (errors : Value) : Failure :=
  if errors.isFinite then invalid errors else ofGiven .infinite

def make (className : String) (values : List Value) (named : Entries) : Failure :=
  match AppErrorClass.ofName? className with
  | some c =>
      match AppError.make c values named with
      | .ok made => app made.error
      | .error message => other "TypeError" message
  | none =>
      if className = "HTTPException" then makeHttp values named
      else
        let made := GeneralError.make className values (named.map (·.1))
        other made.kind made.text

end Failure

end PageServer
