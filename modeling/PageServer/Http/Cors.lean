import PageServer.Http.Request
import PageServer.Http.Response
/-! Requests from pages of other sites. A browser first asks, with a preflight, whether the request
it has in mind may be made; preflights are answered at once. Every other response says whether the
page that the request comes from may read it. -/
namespace PageServer.Http

namespace Cors

/-- Whether pages of an origin may read responses. An asterisk among the origins stands for all. -/
def allows (origins : List String) (origin : String) : Bool :=
  origins.contains "*" || origins.contains origin

def methods : List String :=
  ["DELETE", "GET", "HEAD", "OPTIONS", "PATCH", "POST", "PUT", "QUERY"]

def exposedHeaders : List String := ["X-Request-ID", "X-View-Name", "Retry-After"]

def preflightVary : String :=
  "Origin, Access-Control-Request-Method, Access-Control-Request-Headers, " ++
    "Access-Control-Request-Private-Network"

def originHeader : String := "access-control-allow-origin"

def credentialsHeader : String := "access-control-allow-credentials"

def isPreflight (r : Request) : Bool :=
  r.method == "OPTIONS" && r.headers.has "origin" && r.headers.has "access-control-request-method"

/-- The header that grants an origin, if it is allowed. -/
def grant (origins : List String) (origin : String) : Headers :=
  if allows origins origin then [(originHeader, origin)] else []

/-- What a preflight asks for and does not get. -/
def refusals (origins : List String) (r : Request) : List String :=
  (if allows origins ((r.header? "origin").getD "") then [] else ["origin"]) ++
  (if methods.contains ((r.header? "access-control-request-method").getD "") then []
    else ["method"]) ++
  (if r.headers.has "access-control-request-private-network" then ["private-network"] else [])

/-- The answer to a preflight. The headers it asks for are all granted. -/
def preflightResponse (origins : List String) (r : Request) : Response :=
  let headers :=
    [("vary", preflightVary), ("access-control-allow-methods", ", ".intercalate methods),
      ("access-control-max-age", "600"), (credentialsHeader, "true")] ++
    grant origins ((r.header? "origin").getD "") ++
    match r.header? "access-control-request-headers" with
    | some names => [("access-control-allow-headers", names)]
    | none => []
  match refusals origins r with
  | [] => textResponse 200 headers "OK"
  | refused => textResponse 400 headers ("Disallowed CORS " ++ ", ".intercalate refused)

def mark (origins : List String) (r : Request) (h : Headers) : Headers :=
  let h := match r.header? "origin" with
    | some origin =>
        let h := (h.set credentialsHeader "true").set "access-control-expose-headers"
          (", ".intercalate exposedHeaders)
        if allows origins origin then h.set originHeader origin else h
    | none => h
  h.addVary "Origin"

end Cors

end PageServer.Http
