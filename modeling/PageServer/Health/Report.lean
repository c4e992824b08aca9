import PageServer.Value.Check
import PageServer.Text.Blank
import PageServer.Settings.Integer
/-! The health report: the state of the service, its version, the state of every view, and for how
many seconds the service has been up. -/
namespace PageServer

open Text Numeral

structure HealthReport where
  status : String
  version : String
  views : List (String × String)
  uptime : Float

namespace HealthReport

/-- The floating-point number that a text denotes. White space around it is dropped; where there is
none, single underscores may stand inside. -/
def floatOfText? (s : List Char) : Option Float :=
  (readFloat? (trim isWhiteSpace s)).orElse fun _ =>
    readFloat? (Settings.withoutUnderscores s)

def floatOfValue (place : List String) (v : Value) : Checked Float :=
  match v with
  | .text s =>
      match floatOfText? s.toList with
      | some x => .ok x
      | none => Checked.refuse place .unreadableFloat
  | v =>
      match v.number? with
      | some n =>
          if Number.isInfinite n.toFloat && !n.isReal then Checked.refuse place .notFloat
          else .ok n.toFloat
      | none => Checked.refuse place .notFloat

/-- A report made from fields; others are left out. -/
def ofFields (fields : Entries) : Except Rejection HealthReport :=
  let parts :=
    Checked.both (Checked.required fields "status" Checked.text)
      (Checked.both (Checked.required fields "version" Checked.text)
        (Checked.both (Checked.required fields "views" Checked.texts)
          (Checked.required fields "uptime_seconds" floatOfValue)))
  (Checked.about "HealthResponse" parts).map fun (status, version, views, uptime) =>
    ⟨status, version, views, uptime⟩

def document (r : HealthReport) : Value :=
  .dict [("status", .text r.status), ("version", .text r.version),
    ("views", .dict (r.views.map fun (view, state) => (view, .text state))),
    ("uptime_seconds", .number (.real r.uptime))]

end HealthReport

end PageServer
