import PageServer.Http.Request
import PageServer.Http.Response
import PageServer.Text.Blank
/-! Compression of responses. A body that is long enough is compressed if the client takes it,
unless its headers say that it is encoded already, its type is one that does not shrink, or it is a
part of a document. The bodies kept here are the ones before compression. -/
namespace PageServer.Http

namespace Compression

def leastBytes : Nat := 500

/-- The families of media types that do not shrink. -/
def packedFamilies : List String := ["audio", "video"]

/-- The other media types that do not shrink. -/
def packedTypes : List String :=
  ["text/event-stream",
   "image/png", "image/jpeg", "image/jpg", "image/gif", "image/webp", "image/avif", "image/apng",
   "image/heic", "image/heif", "image/jxl",
   "font/woff", "font/woff2",
   "application/zip", "application/gzip", "application/x-gzip", "application/x-bzip",
   "application/x-bzip2", "application/x-xz", "application/x-7z-compressed",
   "application/x-rar-compressed", "application/vnd.rar", "application/zstd", "application/x-zstd",
   "application/grpc"]

def callTypes : String := "application/grpc+"

/-- Whether a media type does not shrink. Its parameters and its letter case do not count. -/
def isPacked (mediaType : String) : Bool :=
  let name := Text.lower (Text.trim Text.isBlank (mediaType.toList.takeWhile (· != ';')))
  let family := String.ofList (name.takeWhile (· != '/'))
  packedFamilies.contains family || packedTypes.contains (String.ofList name) ||
    callTypes.toList.isPrefixOf name

def isCandidate (r : Response) : Bool :=
  r.body.atLeast leastBytes && !r.headers.has "content-encoding" && !r.status.is 206 &&
    !isPacked ((r.headers.get? "content-type").getD "")

def accepts (r : Request) : Bool :=
  contains ((r.header? "accept-encoding").getD "").toList "gzip".toList

/-- A response compressed if that is possible and the client takes it. A compressed response does
not state its length here. -/
def compress (request : Request) (r : Response) : Response :=
  if !isCandidate r then r
  else
    let headers := r.headers.addVary "Accept-Encoding"
    if accepts request then
      { r with headers := (headers.erase "content-length").set "content-encoding" "gzip" }
    else { r with headers := headers }

end Compression

end PageServer.Http
