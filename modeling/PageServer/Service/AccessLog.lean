import PageServer.Service.Visit
import PageServer.View.Resolver
/-! The access log: one entry for each response, with a level by its status. -/
namespace PageServer.AccessLog

def loggerName : String := "pagedemo.access"

def quietPath : String := "/health"

def levelOf (code : Int) : LogLevel :=
  if 500 ≤ code then .error else if 400 ≤ code then .warning else .info

def milliseconds (seconds : Float) : Float :=
  seconds * 1000

/-- The entry about a response to a visit whose URL has this path, under an identifier. -/
def entry {τ : Type} (v : Visit τ) (requestId path : String) (response : Http.Response) :
    LogEntry :=
  let viewName := (response.headers.get? Resolver.viewHeader).getD "-"
  let duration := milliseconds v.duration
  { logger := loggerName
    level := levelOf response.status.code
    message := v.request.method ++ " " ++ path ++ " " ++ toString response.status.code ++ " " ++
      Numeral.fixedText 1 duration ++ "ms view=" ++ viewName ++ " [" ++ requestId ++ "] from " ++
      v.clientName
    access := some
      { requestId := requestId
        method := v.request.method
        path := path
        status := response.status.value
        duration := Numeral.roundToPlaces 2 duration
        client := v.clientName
        viewName := viewName } }

/-- An outcome with the entry about it. Failures have none, and neither has the quiet path. -/
def note {τ : Type} (v : Visit τ) (requestId path : String)
    (served : Logged (Except Failure Http.Response)) : Logged (Except Failure Http.Response) :=
  if path = quietPath then served
  else match served.result with
    | .ok response => ⟨.ok response, served.entries ++ [entry v requestId path response]⟩
    | .error failure => ⟨.error failure, served.entries⟩

end PageServer.AccessLog
