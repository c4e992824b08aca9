import PageServer.Logging.Level
import PageServer.Value
/-! Entries of the log. An entry of the access log carries the facts it is about. -/
namespace PageServer

/-- What an entry of the access log is about. The duration is in milliseconds. -/
structure AccessFacts where
  requestId : String
  method : String
  path : String
  status : Value
  duration : Float
  client : String
  viewName : String

/-- An entry of the log, with the word for the class of the failure whose trace it shows. -/
structure LogEntry where
  logger : String
  level : LogLevel
  message : String
  failure : Option String := none
  access : Option AccessFacts := none

structure Logged (α : Type) where
  result : α
  entries : List LogEntry

end PageServer
