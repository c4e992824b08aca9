import PageServer.Http.Headers
/-! Requests. The path is decoded and the query is not. -/
namespace PageServer.Http

structure Request where
  method : String
  path : String
  query : String := ""
  headers : Headers := []
  client : Option String := none
  scheme : String := "http"
  /-- The name and the port of the server, if they are known. -/
  server : Option (String × Nat) := none
  deriving DecidableEq, Repr

namespace Request

def header? (r : Request) (name : String) : Option String :=
  r.headers.get? name

end Request

end PageServer.Http
