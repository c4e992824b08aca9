import PageServer.Health.Report
import PageServer.View.Resolver
import PageServer.Limiter.Clock
/-! The health check: which views have a template. The service is healthy if all have one, and
degraded otherwise. -/
namespace PageServer.Health

open Files

def version : String := "1.0.0"

/-- The entry about a view without a template. -/
def missingEntry (view : String) : LogEntry :=
  ⟨"pagedemo.routes.health", .warning,
    "Health check: template for view '" ++ view ++ "' is missing",
    none, none⟩

/-- Which views have a template, with an entry for each that has none. A failure ends the check. -/
def survey (r : Resolver) (tree : Tree) :
    List String → Logged (Except Failure (List (String × Bool)))
  | [] => ⟨.ok [], []⟩
  | view :: rest =>
      match r.hasView tree view with
      | .error failure => ⟨.error failure, []⟩
      | .ok found =>
          let others := survey r tree rest
          ⟨others.result.map fun states => (view, found) :: states,
            (if found then [] else [missingEntry view]) ++ others.entries⟩

def stateOf (found : Bool) : String :=
  if found then "available" else "missing"

def report (states : List (String × Bool)) (uptime : Float) : HealthReport :=
  { status := if states.all (·.2) then "healthy" else "degraded"
    version := version
    views := states.map fun (view, found) => (view, stateOf found)
    uptime := uptime }

/-- The failure of a report that states no finite time. -/
def infiniteUptime : Failure :=
  .other "ValueError" Value.infiniteMessage

def respond (r : HealthReport) : Except Failure Http.Response :=
  match Numeral.valueOf r.uptime with
  | .finite _ => .ok (Http.jsonResponse 200 [] r.document)
  | _ => .error infiniteUptime

def answer {τ : Type} [Clock τ] (r : Resolver) (tree : Tree) (views : List String) (start now : τ) :
    Logged (Except Failure Http.Response) :=
  let survey := survey r tree views
  ⟨do
      let states ← survey.result
      let uptime ← (Clock.elapsed now start).mapError Failure.ofClock
      respond (report states uptime),
    survey.entries⟩

end PageServer.Health
