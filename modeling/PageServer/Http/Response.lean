import PageServer.Http.Given
import PageServer.Text.Utf8
import PageServer.Value.Json
/-! Responses. A body is a text, or the documentation pages' markup, which is not kept. A response
states its body's length and its media type unless its headers already do; a textual media type
gets its character set. -/
namespace PageServer.Http

open Text

/-- The body of a response. -/
inductive Body where
  | text (s : String)
  | documentation
  deriving DecidableEq, Repr

/-- Whether a body has at least so many bytes; the documentation pages are long. -/
def Body.atLeast (least : Nat) : Body → Bool
  | text s => least ≤ utf8Length s
  | documentation => true

structure Response where
  status : Status
  headers : Headers
  body : Body

/-- Whether a text is somewhere inside another one. -/
def contains (s piece : List Char) : Bool :=
  match s with
  | [] => piece.isEmpty
  | c :: rest => piece.isPrefixOf (c :: rest) || contains rest piece

def mediaTypeText (mediaType : String) : String :=
  if "text/".toList.isPrefixOf mediaType.toList &&
      !contains (mediaType.toList.map Char.toLower) "charset=".toList
  then mediaType ++ "; charset=utf-8" else mediaType

/-- The headers of a response, with the length and the media type of its body. -/
def fullHeaders (status : Status) (headers : Headers) (mediaType : Option String) (body : Body) :
    Headers :=
  let length := match body with
    | .text s =>
        if !headers.has "content-length" && statesLength status then
          [("content-length", toString (utf8Length s))]
        else []
    | .documentation => []
  let type := match mediaType with
    | some t => if headers.has "content-type" then [] else [("content-type", mediaTypeText t)]
    | none => []
  headers ++ length ++ type

/-- A response with headers that are sound, unless its media type is not. -/
def respond (status : Status) (headers : Headers) (mediaType : Option String) (body : Body) :
    Except GivenFault Response := do
  let _ ← mediaType.mapM headerText
  return ⟨status, fullHeaders status headers mediaType body, body⟩

def respondWith (status headers mediaType body : Value) : Except GivenFault Response := do
  let text ← match body with
    | .none => pure ""
    | v => textWith "encode" v
  let headers ← headersOfValue headers
  let status ← statusFor headers status
  let type ← match mediaType with
    | .none => pure none
    | v => if headers.has "content-type" then pure none else (textWith "startswith" v).map some
  respond status headers type (.text text)

/-- A response with a document, whose headers are known to be sound. Its texts are of whole
characters, so that they have bytes. -/
def jsonResponse (status : Status) (headers : Headers) (document : Value) : Response :=
  let body : Body := .text document.json
  ⟨status, fullHeaders status headers (some "application/json") body, body⟩

/-- A response with a plain text, whose headers are known to be sound. -/
def textResponse (status : Status) (headers : Headers) (s : String) : Response :=
  ⟨status, fullHeaders status headers (some "text/plain") (.text s), .text s⟩

end PageServer.Http
