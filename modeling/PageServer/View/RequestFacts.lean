import PageServer.Http.Url
import PageServer.Template.Datum
/-! What templates can see of a request. -/
namespace PageServer.Http

open Template

def headerEntries (headers : Headers) : Entries :=
  headers.foldl (fun done (name, value) => done.setDefault name (.text value)) []

/-- What templates can see of a request, to which layers of the service may add. -/
def factsOf (r : Request) (added : Entries) : RequestFacts :=
  let s := (url r).toOption.getD []
  { url := String.ofList s
    urlParts := (partsOfUrl s).toOption.elim [] UrlParts.entries
    others :=
      [("type", .text "http"), ("method", .text r.method), ("scheme", .text r.scheme),
       ("path", .text r.path), ("path_params", .dict []),
       ("headers", .dict (headerEntries r.headers)),
       ("client", r.client.elim .none fun host => .dict [("host", .text host)])] ++ added }

end PageServer.Http
