import PageServer.Fault.Failure
import PageServer.Http.Response
import PageServer.Logging.Entry
/-! Failures as responses. The handler of a failure is that of the nearest class above it that has
one; the class of any error has one too, which is the last resort. Responses show the message of an
application error but not its context, which is logged, and the errors in an invalid request. -/
namespace PageServer

open Http

/-- The ways in which failures are answered. -/
inductive Handler where
  | viewNotFound
  | viewRender
  | application
  | http
  | validation
  | unexpected
  deriving DecidableEq, Repr

namespace Handler

/-- The handler for a class itself, not for the classes above it. -/
def ofClass? : ErrorClass → Option Handler
  | .app (.standard .notFound) => some viewNotFound
  | .app (.standard .render) => some viewRender
  | .app (.standard .base) => some application
  | .app (.standard .resolution) => none
  | .app (.derived ..) => none
  | .http => some http
  | .invalid => some validation
  | .other _ => none
  | .any => some unexpected

/-- The handler of the nearest class that has one. -/
def nearest (c : ErrorClass) : Handler :=
  (c.lineage.findSome? ofClass?).getD unexpected

/-- The word for an error of this kind in responses, except for those that state only a detail. -/
def code : Handler → String
  | viewNotFound => "view_not_found"
  | viewRender => "view_render_error"
  | application => "server_error"
  | unexpected => "internal_server_error"
  | _ => ""

def heading : Handler → String
  | viewNotFound => "View not found"
  | viewRender => "View render error"
  | _ => "Application error"

theorem nearest_derived (name : String) (parent : AppErrorKind) :
    nearest (.app (.derived name parent)) = nearest (.app parent) := rfl

theorem nearest_app_ne (c : AppErrorKind) : nearest (.app c) ≠ unexpected := by
  induction c with
  | standard c => cases c <;> decide
  | derived name parent ih => exact ih

theorem nearest_http : nearest .http = http := rfl

theorem nearest_invalid : nearest .invalid = validation := rfl

theorem nearest_other (kind : String) : nearest (.other kind) = unexpected := rfl

end Handler

namespace Failure

def loggerName : String := "pagedemo.main"

def errorDocument (code : String) (message : Value) (requestId : String) : Value :=
  .dict [("error", .text code), ("message", message), ("request_id", .text requestId)]

/-- The response to an application error, and the entry about it. -/
def applicationAnswer (h : Handler) (requestId : String) (e : AppError) :
    Response × List LogEntry :=
  (jsonResponse 500 [] (errorDocument h.code e.message requestId),
    [⟨loggerName, .error, "[" ++ requestId ++ "] " ++ h.heading ++ ": " ++ e.message.shown ++
      " | Context: " ++ e.context.shown, none, none⟩])

def httpAnswer (status : Status) (detail : Value) (headers : Headers) : Response :=
  if allowsBody status.code then jsonResponse status headers (.dict [("detail", detail)])
  else ⟨status, fullHeaders status headers none (.text ""), .text ""⟩

def invalidAnswer (errors : Value) : Response :=
  jsonResponse 422 [] (.dict [("detail", errors)])

def unexpectedMessage : String :=
  "An unexpected error occurred. Please try again or contact support."

/-- The response of the last resort. It says nothing about the failure. -/
def unexpectedResponse (requestId : String) : Response :=
  jsonResponse 500 (if requestId.isEmpty then [] else [("x-request-id", requestId)])
    (errorDocument Handler.unexpected.code (.text unexpectedMessage) requestId)

def unexpectedEntry (requestId : String) (failure : Failure) : LogEntry :=
  ⟨loggerName, .error, "[" ++ requestId ++ "] Unexpected error: " ++ failure.text,
    some failure.className, none⟩

/-- The response to a failure and the entries about it; none where only the last resort is left. -/
def answer? (requestId : String) (failure : Failure) : Option (Response × List LogEntry) :=
  match failure with
  | .app e => some (applicationAnswer (Handler.nearest (.app e.errorClass)) requestId e)
  | .http status detail headers => some (httpAnswer status detail headers, [])
  | .invalid errors => some (invalidAnswer errors, [])
  | .other .. => none

theorem answer?_eq_none_iff (requestId : String) (failure : Failure) :
    failure.answer? requestId = none ↔ Handler.nearest failure.errorClass = .unexpected := by
  cases failure with
  | app e =>
      simp only [answer?, errorClass, reduceCtorEq, false_iff]
      exact Handler.nearest_app_ne e.errorClass
  | http status detail headers =>
      simp [answer?, errorClass, Handler.nearest_http]
  | invalid errors =>
      simp [answer?, errorClass, Handler.nearest_invalid]
  | other kind text =>
      simp [answer?, errorClass, Handler.nearest_other]

end Failure

end PageServer
