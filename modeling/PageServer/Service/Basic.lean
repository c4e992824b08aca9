import PageServer.Service.Route
import PageServer.Service.ApiDocument
import PageServer.Service.AccessLog
import PageServer.Health.Check
import PageServer.Http.Cors
import PageServer.Http.Compression
import PageServer.Service.Guard
import PageServer.Fault.Handler
/-! The service. A visit passes layers from the outside in: the last resort for failures, the
request identifier, the rules for pages of other sites, the access log, the limiter, compression,
the answers to known failures, and the routes. -/
namespace PageServer

open Http Files

/-- A service: its settings, its resolver, the time at which it started, and the routes it has
besides the standard ones. -/
structure Service (τ : Type) where
  settings : Settings
  resolver : Resolver
  start : τ
  extra : List Route := []

/-- What is shared by all visits: what the limiter keeps, and the identifier that was set last. -/
structure Memory (τ : Type) where
  limiter : Limiter τ := {}
  requestId : String := ""

structure Served (τ : Type) where
  response : Response
  /-- The failure that got through to the last resort and is passed on to the server. -/
  raised : Option Failure
  memory : Memory τ
  store : Store
  entries : List LogEntry

def Served.limiter {τ : Type} (served : Served τ) : Limiter τ :=
  served.memory.limiter

namespace Service

variable {τ : Type}

/-- All routes, in order. -/
def routes (service : Service τ) : List Route :=
  Route.standard ++ service.extra

def limits (service : Service τ) : Limits :=
  ⟨service.settings.rateLimitRequests, service.settings.rateLimitWindow⟩

def documentationResponse : Response :=
  ⟨200, fullHeaders 200 [] (some "text/html") .documentation, .documentation⟩

def redirectResponse (request : Request) (path : String) : Response :=
  let location := match Http.url { request with path := path } with
    | .ok s => escapeUrl s
    | .error _ => ""
  ⟨307, fullHeaders 307 [("location", location)] none (.text ""), .text ""⟩

def document : Value :=
  ApiDocument.document Health.version

def run [Clock τ] (service : Service τ) (store : Store) (v : Visit τ) :
    Endpoint → Logged (Except Failure Response)
  | .apiDocument => ⟨.ok (jsonResponse 200 [] document), []⟩
  | .documentation => ⟨.ok documentationResponse, []⟩
  | .page p => (service.resolver.present store v.facts p.view []).toLogged
  | .health => Health.answer service.resolver store.tree Pages.viewNames service.start v.now
  | .fixed outcome => ⟨outcome, []⟩

/-- What an endpoint leaves behind: the sources that a page has used are kept, and the document
about the service is made once. -/
def runStore (service : Service τ) (store : Store) (v : Visit τ) : Endpoint → Store
  | .apiDocument => { store with document := some document }
  | .page p => { store with cache := (service.resolver.present store v.facts p.view []).cache }
  | _ => store

/-- The failure where a number in a path has too many digits. -/
def unreadableFailure (digits : Nat) : Failure :=
  .other "ValueError"
    (Numeral.digitLimitMessage (": value has " ++ toString digits ++ " digits"))

def routed [Clock τ] (service : Service τ) (store : Store) (v : Visit τ) :
    Logged (Except Failure Response) :=
  match Route.destination service.routes v.request.method v.request.path with
  | .endpoint e => service.run store v e
  | .wrongMethod allowed =>
      ⟨.error (.http 405 (.text "Method Not Allowed") [("allow", ", ".intercalate allowed)]), []⟩
  | .redirect target => ⟨.ok (redirectResponse v.request target), []⟩
  | .unreadable digits => ⟨.error (unreadableFailure digits), []⟩
  | .unknown => ⟨.error (.http 404 (.text "Not Found") []), []⟩

/-- What the routes leave behind. -/
def routedStore (service : Service τ) (store : Store) (v : Visit τ) : Store :=
  match Route.destination service.routes v.request.method v.request.path with
  | .endpoint e => service.runStore store v e
  | _ => store

/-- An outcome in which known failures are responses. -/
def answered (requestId : String) (served : Logged (Except Failure Response)) :
    Logged (Except Failure Response) :=
  match served.result with
  | .ok _ => served
  | .error failure =>
      match failure.answer? requestId with
      | some (response, entries) => ⟨.ok response, served.entries ++ entries⟩
      | none => served

/-- What is answered behind the limiter, where an identifier has been set. -/
def inner [Clock τ] (service : Service τ) (store : Store) (requestId : String) (v : Visit τ) :
    Logged (Except Failure Response) :=
  let served := answered requestId (service.routed store v)
  ⟨served.result.map (Compression.compress v.request), served.entries⟩

def marked (service : Service τ) (request : Request) (served : Logged (Except Failure Response)) :
    Logged (Except Failure Response) :=
  ⟨served.result.map fun r =>
    { r with headers := Cors.mark service.settings.origins request r.headers },
    served.entries⟩

/-- What is answered inside the layer of the request identifier. The layers here read the
identifier that was set last. -/
def outcome [Clock τ] (service : Service τ) (store : Store) (m : Memory τ) (v : Visit τ) :
    Logged (Except Failure Response) × Memory τ :=
  if Cors.isPreflight v.request then
    (⟨.ok (Cors.preflightResponse service.settings.origins v.request), []⟩, m)
  else match Http.urlPath v.request with
    | .error fault => (⟨.error (.ofUrl fault), []⟩, m)
    | .ok path =>
        let (guarded, l) :=
          m.limiter.guard service.limits v path (service.inner store m.requestId v)
        (service.marked v.request (AccessLog.note v m.requestId path guarded),
          { m with limiter := l })

def getsIn [Clock τ] (service : Service τ) (l : Limiter τ) (v : Visit τ) : Bool :=
  !Cors.isPreflight v.request &&
    match Http.urlPath v.request with
    | .ok path => l.lets service.limits v path
    | .error _ => false

/-- What views are shown from after a visit. -/
def storeAfter [Clock τ] (service : Service τ) (store : Store) (l : Limiter τ) (v : Visit τ) :
    Store :=
  if service.getsIn l v then service.routedStore store v else store

/-- What a visit leads to. The last resort stands outside the layer that sets the identifier: it
takes the one kept with the request or, if that is empty, the one that was set last. -/
def serve [Clock τ] (service : Service τ) (store : Store) (m : Memory τ) (v : Visit τ) : Served τ :=
  let next := service.storeAfter store m.limiter v
  let (served, m) := service.outcome store { m with requestId := v.requestId } v
  match served.result with
  | .ok response =>
      { response := { response with
          headers := response.headers.set Visit.requestIdHeader v.requestId }
        raised := none
        memory := m
        store := next
        entries := served.entries }
  | .error failure =>
      let known := if v.requestId.isEmpty then m.requestId else v.requestId
      { response := Failure.unexpectedResponse known
        raised := some failure
        memory := m
        store := next
        entries := served.entries ++ [Failure.unexpectedEntry known failure] }

end Service

end PageServer
