/-! The five levels of log entries, by severity. A record may also have a severity between them. -/
namespace PageServer

inductive LogLevel where
  | debug
  | info
  | warning
  | error
  | critical
  deriving DecidableEq, Repr, Inhabited

namespace LogLevel

def all : List LogLevel := [.debug, .info, .warning, .error, .critical]

def name : LogLevel → String
  | .debug => "DEBUG"
  | .info => "INFO"
  | .warning => "WARNING"
  | .error => "ERROR"
  | .critical => "CRITICAL"

def severity : LogLevel → Nat
  | .debug => 10
  | .info => 20
  | .warning => 30
  | .error => 40
  | .critical => 50

instance : Coe LogLevel Int := ⟨fun level => level.severity⟩

/-- The word for a severity: the name of its level, or the number itself. -/
def nameOfSeverity (severity : Int) : String :=
  match all.find? fun level : LogLevel => (level : Int) == severity with
  | some level => level.name
  | none => if severity = 0 then "NOTSET" else "Level " ++ toString severity

def ofName? (s : String) : Option LogLevel :=
  all.find? (·.name == s)

/-- Upper case as far as it can yield the letters of a level's name: the ASCII letters and the
dotless i. -/
def capital (c : Char) : Char :=
  if c == 'ı' then 'I' else c.toUpper

def ofText? (s : String) : Option LogLevel :=
  ofName? (String.ofList (s.toList.map capital))

theorem ofName?_name (level : LogLevel) : ofName? level.name = some level := by
  cases level <;> decide

end LogLevel

end PageServer
