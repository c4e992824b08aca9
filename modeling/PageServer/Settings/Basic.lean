import PageServer.Settings.Integer
import PageServer.Logging.Level
/-! The settings of the service and their fields. Every field has a default and a way to read a
value for it; `Field.store` puts an accepted value into the settings. -/
namespace PageServer

def bundledTemplatesDir : String := "/@bundled"

structure Settings where
  templatesDir : String := bundledTemplatesDir
  templateSuffix : String := ".html"
  corsOrigins : String := "http://localhost:8080"
  backendHost : String := "0.0.0.0"
  backendPort : Nat := 8080
  logLevel : LogLevel := .info
  rateLimitRequests : Nat := 300
  rateLimitWindow : Nat := 60
  deriving DecidableEq, Repr, Inhabited

namespace Settings

/-- The names under which settings can be given. -/
inductive Field where
  | templatesDir
  | templateSuffix
  | corsOrigins
  | backendHost
  | backendPort
  | logLevel
  | rateLimitRequests
  | rateLimitWindow
  deriving DecidableEq, Repr

namespace Field

def name : Field → String
  | templatesDir => "templates_dir"
  | templateSuffix => "template_suffix"
  | corsOrigins => "cors_origins"
  | backendHost => "backend_host"
  | backendPort => "backend_port"
  | logLevel => "log_level"
  | rateLimitRequests => "rate_limit_requests"
  | rateLimitWindow => "rate_limit_window"

/-- All fields, in the order in which their faults are reported. -/
def all : List Field :=
  [templatesDir, templateSuffix, corsOrigins, backendHost, backendPort, logLevel,
    rateLimitRequests, rateLimitWindow]

def ofName? (s : String) : Option Field :=
  all.find? (·.name == s)

theorem mem_all (f : Field) : f ∈ all := by
  cases f <;> decide

theorem ofName?_name (f : Field) : ofName? f.name = some f := by
  cases f <;> decide

end Field

/-- A suffix with a dot in front unless it is empty or has one. -/
def dotted (suffix : String) : String :=
  if suffix.toList.isEmpty || suffix.toList.head? == some '.' then suffix
  else "." ++ suffix

def textOfValue : Value → Except Complaint String
  | .text s => .ok s
  | _ => .error .notText

def levelOfValue (v : Value) : Except Complaint LogLevel := do
  let s ← textOfValue v
  match LogLevel.ofText? s with
  | some level => .ok level
  | none =>
      .error (.refused ("Invalid log_level '" ++ s ++ "'. Must be one of: \x7b" ++
        "'CRITICAL', 'DEBUG', 'ERROR', 'INFO', 'WARNING'\x7d"))

def countOfValue (least most : Nat) (v : Value) : Except Complaint Nat := do
  let n ← integerOfValue v
  let n ← checkLimits least most n
  return n.toNat

/-- The settings with a value put into a field, if the field accepts it. -/
def Field.store (f : Field) (v : Value) (s : Settings) : Except Complaint Settings :=
  match f with
  | templatesDir => (textOfValue v).map fun x => { s with templatesDir := x }
  | templateSuffix => (textOfValue v).map fun x => { s with templateSuffix := dotted x }
  | corsOrigins => (textOfValue v).map fun x => { s with corsOrigins := x }
  | backendHost => (textOfValue v).map fun x => { s with backendHost := x }
  | backendPort => (countOfValue 1024 65535 v).map fun x => { s with backendPort := x }
  | logLevel => (levelOfValue v).map fun x => { s with logLevel := x }
  | rateLimitRequests => (countOfValue 1 100000 v).map fun x => { s with rateLimitRequests := x }
  | rateLimitWindow => (countOfValue 1 86400 v).map fun x => { s with rateLimitWindow := x }

/-- The origins of a comma-separated list: its entries without the blanks around them, the empty
ones left out. -/
def splitOrigins (s : List Char) : List (List Char) :=
  ((Text.splitAt ',' s).map (Text.trim Text.isBlank)).filter (!·.isEmpty)

def origins (s : Settings) : List String :=
  (splitOrigins s.corsOrigins.toList).map String.ofList

/-- The directory of templates, where none or an empty one may be given. -/
def directoryOr (s : Settings) : Option String → String
  | some d => if d.isEmpty then s.templatesDir else d
  | none => s.templatesDir

end Settings

end PageServer
