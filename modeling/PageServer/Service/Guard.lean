import PageServer.Service.Visit
import PageServer.Http.Response
import PageServer.Fault.Failure
/-! The limiter in front of a service. Exempt paths pass it untouched; any other request is admitted
and recorded, or refused with a response that says when to try again. -/
namespace PageServer.Limiter

open Http

variable {τ : Type}

def retryHeader : String := "retry-after"

def refusalResponse (retryAfter : Int) : Response :=
  jsonResponse 429 [(retryHeader, toString retryAfter)]
    (.dict [("error", .text "rate_limit_exceeded"),
      ("message", .text ("Too many requests. Please wait " ++ toString retryAfter ++
        " seconds before retrying.")),
      ("details", .dict [("retry_after", .number (.whole retryAfter))])])

/-- The failure where there is no time to count from. -/
def unanchoredFailure : Failure :=
  .other "IndexError" "list index out of range"

def lets [Clock τ] (limits : Limits) (l : Limiter τ) (v : Visit τ) (path : String) : Bool :=
  exemptPaths.contains path ||
    match (l.ask limits v.clientName v.now).verdict with
    | .admitted => true
    | _ => false

/-- What a service gives behind the limiter, and what the limiter keeps afterwards. -/
def guard [Clock τ] (limits : Limits) (l : Limiter τ) (v : Visit τ) (path : String)
    (service : Logged (Except Failure Response)) :
    Logged (Except Failure Response) × Limiter τ :=
  if exemptPaths.contains path then (service, l)
  else
    let decision := l.ask limits v.clientName v.now
    match decision.verdict with
    | .admitted =>
        (⟨service.result, forgottenEntries decision.forgotten ++ service.entries⟩, decision.limiter)
    | .refused held retryAfter =>
        (⟨.ok (refusalResponse retryAfter), [refusalEntry limits v.clientName held]⟩,
          decision.limiter)
    | .unanchored => (⟨.error unanchoredFailure, []⟩, decision.limiter)
    | .uncountable fault => (⟨.error (.ofClock fault), []⟩, decision.limiter)

/-- The same for a visit whose URL may have no path. -/
def guardVisit [Clock τ] (limits : Limits) (l : Limiter τ) (v : Visit τ)
    (service : Logged (Except Failure Response)) :
    Logged (Except Failure Response) × Limiter τ :=
  match urlPath v.request with
  | .error fault => (⟨.error (.ofUrl fault), []⟩, l)
  | .ok path => l.guard limits v path service

end PageServer.Limiter
