import PageServer.Service.Pages
import PageServer.Http.Request
import PageServer.Http.Response
import PageServer.Fault.Failure
import PageServer.Text.Blank
import PageServer.Numeral.Decimal
import PageServer.Service.PathPattern
/-! Routes. A route has a path, methods, and an endpoint. The first route that matches path and
method answers; a path without the method is told apart from a path that no route has; and a path
that would match but for slashes at its end is redirected. -/
namespace PageServer

open Http

inductive Endpoint where
  | apiDocument
  | documentation
  | page (p : PageRoute)
  | health
  | fixed (outcome : Except Failure Response)

structure Route where
  pattern : PathPattern
  methods : List String
  endpoint : Endpoint

/-- Why there can be no such route. -/
inductive RouteFault where
  | pattern (fault : PatternFault)
  | noMethod

/-- Where a request goes. A number in its path may have too many digits to be read. The methods that
are allowed form a set, which is listed in ascending order. -/
inductive Destination where
  | endpoint (e : Endpoint)
  | wrongMethod (allowed : List String)
  | redirect (path : String)
  | unreadable (digits : Nat)
  | unknown

def RouteFault.failure : RouteFault → Failure
  | pattern (.unknownKind word) =>
      .other "AssertionError" (PatternFault.unknownKind word).message
  | pattern fault => .other "ValueError" fault.message
  | noMethod => .other "AssertionError" ""

namespace Route

/-- The route for the paths of a pattern and for some methods, which may be written in small
letters. -/
def make (path : String) (methods : List String) (endpoint : Endpoint) :
    Except RouteFault Route := do
  let pattern ← (PathPattern.ofText path).mapError .pattern
  let methods := (methods.map fun m => String.ofList (m.toList.map Char.toUpper)).eraseDups
  if methods.isEmpty then throw .noMethod
  return ⟨pattern, methods, endpoint⟩

/-- The routes of every service, in order. -/
def standard : List Route :=
  (["/openapi.json", "/docs", "/docs/oauth2-redirect", "/redoc"].map fun path =>
    ⟨.exactly path, ["GET", "HEAD"],
      if path == "/openapi.json" then .apiDocument else .documentation⟩) ++
  (Pages.table.map fun page => ⟨.exactly page.path, Pages.methods, .page page⟩) ++
  [⟨.exactly "/health", ["GET"], .health⟩]

def matchesPath (r : Route) (path : String) : Bool :=
  r.pattern.accepts path

def hasMethod (r : Route) (method : String) : Bool :=
  r.methods.contains method

/-- The number of digits of the first number in a path that has too many to be read. -/
def oversized? (r : Route) (path : String) : Option Nat :=
  (r.pattern.pieces? path.toList).bind fun pieces =>
    (pieces.find? fun (kind, piece) => kind = .whole ∧ Numeral.mostDigits < piece.length).map
      (·.2.length)

/-- A path with its trailing slashes removed if it has any, and with one added otherwise. -/
def toggleSlash (path : String) : String :=
  let s := path.toList
  if s.getLast? == some '/' then String.ofList (Text.dropTrailing (· == '/') s)
  else path ++ "/"

/-- Where a request goes that a route is for, unless its path cannot be read. -/
def reach (r : Route) (path : String) (d : Destination) : Destination :=
  match r.oversized? path with
  | some digits => .unreadable digits
  | none => d

def destination (routes : List Route) (method path : String) : Destination :=
  let here := routes.filter (·.matchesPath path)
  match here.find? fun r => r.hasMethod method || (r.oversized? path).isSome, here with
  | some r, _ => r.reach path (.endpoint r.endpoint)
  | none, r :: _ => .wrongMethod (r.methods.mergeSort (· ≤ ·))
  | none, [] =>
      let other := toggleSlash path
      match if path = "/" then none else routes.find? (·.matchesPath other) with
      | some r => r.reach other (.redirect other)
      | none => .unknown

end Route

end PageServer
