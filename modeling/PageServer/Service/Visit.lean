import PageServer.View.RequestFacts
import PageServer.Limiter.Basic
/-! Visits: requests with what the surroundings add to them, the time on the clock, how long they
take, and an identifier made for them. -/
namespace PageServer

/-- A request, the time at which it comes, how many seconds its answer takes, and the identifier
made for it. -/
structure Visit (τ : Type) where
  request : Http.Request
  now : τ
  duration : Float := 0
  identifier : String

namespace Visit

variable {τ : Type}

def requestIdHeader : String := "x-request-id"

/-- The identifier of the request: the one it brings along, unless that is empty, or else the first
eight digits of the one made for it. -/
def requestId (v : Visit τ) : String :=
  let made := String.ofList ((v.identifier.toList.take 8).map Char.toLower)
  match v.request.header? requestIdHeader with
  | some given => if given.isEmpty then made else given
  | none => made

def facts (v : Visit τ) : Template.RequestFacts :=
  Http.factsOf v.request [("state", .dict [("request_id", .text v.requestId)])]

/-- The client under which a visit is counted. -/
def clientName (v : Visit τ) : String :=
  v.request.client.getD Limiter.unknownClient

end Visit

end PageServer
