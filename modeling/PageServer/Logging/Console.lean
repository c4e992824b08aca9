import PageServer.Logging.Level
import PageServer.Logging.Timestamp
import PageServer.Value.Format
/-! The log as it is written. Setting it up replaces all handlers of the root by one and gives the
root the configured level; the server's own access log gets a level of its own. A logger without a
level takes that of the nearest logger above it that has one, and a record is written, once by each
handler, if it is at least as severe as the level of its logger.

A logger comes into being when it is first asked for, and it stands below the nearest logger that
there is along its name. What has been decided for a logger and a severity stays decided until the
log is set up again. -/
namespace PageServer

/-- Something to be logged: a message whose places the arguments fill, at a time in seconds. -/
structure LogRecord where
  logger : String
  level : Int
  message : Value
  arguments : List Value
  created : Number

namespace LogRecord

/-- What has to be decided about a record: whether its logger takes records of its severity. -/
def question (r : LogRecord) : String × Int :=
  (r.logger, r.level)

/-- The message with its places filled in, unless they do not fit the arguments. Without arguments
it stays as it is. A single dictionary that is not empty gives the values by key. -/
def text? (r : LogRecord) : Except Format.Fault String :=
  match r.arguments with
  | [] => .ok r.message.shown
  | [.dict entries] =>
      let operand := Format.Operand.value (.dict entries)
      Format.fill r.message.shown (if entries.isEmpty then .several [operand] else .one operand)
  | values => Format.fill r.message.shown (.several (values.map .value))

/-- The time of a record, if it lies in a year that can be written. -/
def timestamp? (r : LogRecord) : Option Timestamp :=
  (r.created.floor?.map Timestamp.ofSeconds).filter Timestamp.isWritable

/-- The line of a record. A record that cannot be filled in or has no time has none. The logger
stands in it under the name that the record gives it, and the time is that of UTC. -/
def line (r : LogRecord) : String :=
  match r.text?, r.timestamp? with
  | .ok s, some time =>
      time.text ++ " [" ++ LogLevel.nameOfSeverity r.level ++ "] " ++ r.logger ++ ": " ++ s ++ "\n"
  | _, _ => ""

end LogRecord

/-- The log: the level of the root, the number of its handlers, the levels of loggers that have one
of their own, the loggers that there are, and what has been decided. -/
structure Logging where
  root : LogLevel := .warning
  handlers : Nat := 0
  levels : List (String × LogLevel) := []
  loggers : List String := []
  decided : List ((String × Int) × Bool) := []
  deriving DecidableEq, Repr

namespace Logging

/-- The logger of the server's own access log, which the access log of the service replaces. -/
def serverAccessLogger : String := "uvicorn.access"

/-- The log with a logger, which is new unless it was asked for before. -/
def withLogger (l : Logging) (name : String) : Logging :=
  { l with loggers := if name ∈ l.loggers then l.loggers else name :: l.loggers }

def setUp (level : LogLevel) (l : Logging) : Logging :=
  { root := level
    handlers := 1
    levels := (serverAccessLogger, .warning) :: l.levels.filter (·.1 != serverAccessLogger)
    loggers := (l.withLogger serverAccessLogger).loggers
    decided := [] }

def setUpTimes (level : LogLevel) : Nat → Logging → Logging
  | 0, l => l
  | n + 1, l => setUpTimes level n (l.setUp level)

/-- The loggers above a reversed name, the nearest first. Each stands in front of a dot. Where there
is none in front of a dot, the character there is passed over, be it a dot itself. -/
def above (l : Logging) : List Char → List String
  | [] => []
  | c :: rest =>
      if c = '.' then
        if String.ofList rest.reverse ∈ l.loggers then
          String.ofList rest.reverse :: l.above rest
        else
          match rest with
          | [] => []
          | _ :: further => l.above further
      else l.above rest

/-- A logger and those above it, the nearest first, without the root. -/
def lineage (l : Logging) (name : String) : List String :=
  name :: l.above name.toList.reverse

/-- The level that counts for a logger. -/
def levelOf (l : Logging) (name : String) : LogLevel :=
  ((l.lineage name).findSome? fun n => l.levels.lookup n).getD l.root

def enabled (l : Logging) (r : LogRecord) : Bool :=
  (l.decided.lookup r.question).getD ((l.levelOf r.logger : Int) ≤ r.level)

def after (l : Logging) (r : LogRecord) : Logging :=
  { l.withLogger r.logger with decided := (r.question, l.enabled r) :: l.decided }

def afterAll (l : Logging) (records : List LogRecord) : Logging :=
  records.foldl after l

def written (l : Logging) (r : LogRecord) : String :=
  if l.enabled r then String.join (List.replicate l.handlers r.line) else ""

def output (l : Logging) : List LogRecord → String
  | [] => ""
  | r :: rest => l.written r ++ (l.after r).output rest

theorem mem_withLogger (l : Logging) (name other : String) :
    other ∈ (l.withLogger name).loggers ↔ other = name ∨ other ∈ l.loggers := by
  by_cases known : name ∈ l.loggers
  · simp only [withLogger, if_pos known]
    exact ⟨.inr, fun either => either.elim (· ▸ known) id⟩
  · simp [withLogger, known]

theorem setUp_setUp (level : LogLevel) (l : Logging) :
    (l.setUp level).setUp level = l.setUp level := by
  have known := (mem_withLogger l serverAccessLogger serverAccessLogger).mpr (.inl rfl)
  have again : ((l.setUp level).withLogger serverAccessLogger).loggers = (l.setUp level).loggers :=
    if_pos known
  simp only [setUp] at again
  simp [setUp, again]

end Logging

end PageServer
