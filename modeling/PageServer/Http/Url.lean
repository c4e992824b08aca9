import PageServer.Http.Request
import PageServer.Http.Host
import PageServer.Value
import PageServer.Text.LowerCase
import PageServer.Text.Utf8
/-! The URL of a request, put together from the scheme, the host, the path and the query, and the
path that is read back from it. The host is the one that the request names, if that is a sound one,
or else the server's. Inside the path the characters that would end it or change how it is read are
escaped. Without a host the URL is the path alone, in which a scheme and a host may be read then. A
URL is read back into its parts. -/
namespace PageServer.Http

open Text

/-- Why a request has no URL, or why its URL cannot be read. -/
inductive UrlFault where
  | unknownPort (scheme : String)
  | badQuery (fault : Utf8Fault)
  | openBracket
  | badAddress (address : String)
  | badFutureAddress
  | shortAddress
  | ambiguous (authority : String)
  deriving DecidableEq, Repr

def UrlFault.message : UrlFault → String
  | unknownPort scheme => quoted scheme
  | badQuery fault => fault.message
  | openBracket => "Invalid IPv6 URL"
  | badAddress address => quoted address ++ " does not appear to be an IPv4 or IPv6 address"
  | badFutureAddress => "IPvFuture address is invalid"
  | shortAddress => "An IPv4 address cannot be in brackets"
  | ambiguous authority =>
      "netloc '" ++ authority ++ "' contains invalid characters under NFKC normalization"

/-! Putting a URL together -/

def defaultPort? (scheme : String) : Option Nat :=
  [("http", 80), ("https", 443), ("ws", 80), ("wss", 443)].lookup scheme

/-- The host part of a request's URL, if it has one. -/
def authority? (r : Request) : Except UrlFault (Option String) :=
  match (r.header? "host").filter fun host => isSoundHost host.toList, r.server with
  | some host, _ => .ok (some host)
  | none, none => .ok none
  | none, some (name, port) =>
      match defaultPort? r.scheme with
      | none => .error (.unknownPort r.scheme)
      | some usual => .ok (some (if port = usual then name else name ++ ":" ++ toString port))

def escapePathChar (c : Char) : List Char :=
  if c == '?' then "%3F".toList
  else if c == '#' then "%23".toList
  else if c == '\\' then "%5C".toList
  else [c]

/-- What a URL has in front of its query. After a host a path that is not empty starts with a slash.
Without a host, two slashes stand in front of a path that would be read as one. -/
def hierarchy (scheme : String) (authority : Option String) (path : List Char) : List Char :=
  let path := path.flatMap escapePathChar
  match authority, path with
  | some host, [] => start ++ host.toList
  | some host, '/' :: rest => start ++ host.toList ++ '/' :: rest
  | some host, path => start ++ host.toList ++ '/' :: path
  | none, '/' :: '/' :: rest => '/' :: '/' :: '/' :: '/' :: rest
  | none, path => path
where
  start : List Char := (if scheme = "" then [] else scheme.toList ++ [':']) ++ ['/', '/']

/-- The URL of a request. The bytes of its query are those of a text. -/
def url (r : Request) : Except UrlFault (List Char) := do
  let authority ← authority? r
  let query ← (decodeUtf8 (r.query.toList.map fun c => .ofNat c.toNat)).mapError UrlFault.badQuery
  return hierarchy r.scheme authority r.path.toList ++ (if query.isEmpty then [] else '?' :: query)

/-! Reading a URL -/

def isIgnorable (c : Char) : Bool :=
  c.toNat ≤ 0x20

/-- Whether the character is dropped wherever it stands in a URL. -/
def isDropped (c : Char) : Bool :=
  c == '\t' || c == '\n' || c == '\r'

/-- Whether the character can stand in a scheme behind its first letter. -/
def isSchemeChar (c : Char) : Bool :=
  c.isAlphanum || c == '+' || c == '-' || c == '.'

/-- The scheme of a URL, which is empty if there is none, and what follows it and its colon. -/
def splitScheme (s : List Char) : List Char × List Char :=
  match s.head?.any Char.isAlpha, s.dropWhile isSchemeChar with
  | true, ':' :: rest => ((s.takeWhile isSchemeChar).map Char.toLower, rest)
  | _, _ => ([], s)

def endsAuthority (c : Char) : Bool :=
  c == '/' || c == '?' || c == '#'

/-- The characters, besides the plain ones, that are taken for a solidus, a question mark, a number
sign, a commercial at or a colon, alone or with others. -/
def ambiguousCodes : List Nat :=
  [0x2047, 0x2048, 0x2049, 0x2100, 0x2101, 0x2105, 0x2106, 0x2A74, 0xFE13, 0xFE16, 0xFE55, 0xFE56,
    0xFE5F, 0xFE6B, 0xFF03, 0xFF0F, 0xFF1A, 0xFF1F, 0xFF20]

def isFutureAddress (s : List Char) : Bool :=
  match s with
  | 'v' :: rest =>
      let version := rest.takeWhile fun c => (hexValue? c).isSome
      match rest.dropWhile fun c => (hexValue? c).isSome with
      | '.' :: address => !version.isEmpty && !address.isEmpty && !address.contains '\n'
      | _ => false
  | _ => false

/-- Whether a text is an address of eight groups, with or without the name of a zone. -/
def isZonedAddress (s : List Char) : Bool :=
  let zone := (s.dropWhile (· != '%')).drop 1
  isLongAddress (s.takeWhile (· != '%')) &&
    (!s.contains '%' || (!zone.isEmpty && !zone.contains '%'))

def addressFault? (address : List Char) : Option UrlFault :=
  if address.head? == some 'v' then
    if isFutureAddress address then none else some .badFutureAddress
  else if isShortAddress address then some .shortAddress
  else if isZonedAddress address then none
  else some (.badAddress (String.ofList address))

def bracketFault? (authority : List Char) : Option UrlFault :=
  match authority.contains '[', authority.contains ']' with
  | true, true =>
      addressFault? (((authority.dropWhile (· != '[')).drop 1).takeWhile (· != ']'))
  | false, false => none
  | _, _ => some .openBracket

/-- The parts of a URL; those that are missing are empty. -/
structure UrlParts where
  scheme : List Char
  authority : List Char
  path : List Char
  query : List Char
  fragment : List Char
  deriving DecidableEq, Repr

def partsAfter (scheme authority s : List Char) : UrlParts :=
  let unfragmented := s.takeWhile (· != '#')
  { scheme := scheme
    authority := authority
    path := unfragmented.takeWhile (· != '?')
    query := (unfragmented.dropWhile (· != '?')).drop 1
    fragment := (s.dropWhile (· != '#')).drop 1 }

/-- The parts of a URL from what follows the scheme. Two slashes stand in front of a host part. -/
def partsBehind (scheme s : List Char) : Except UrlFault UrlParts :=
  match s with
  | '/' :: '/' :: rest =>
      let authority := rest.takeWhile (!endsAuthority ·)
      match bracketFault? authority with
      | some fault => .error fault
      | none =>
          if authority.any fun c => ambiguousCodes.contains c.toNat then
            .error (.ambiguous (String.ofList authority))
          else .ok (partsAfter scheme authority (rest.dropWhile (!endsAuthority ·)))
  | s => .ok (partsAfter scheme [] s)

def partsOfUrl (s : List Char) : Except UrlFault UrlParts :=
  let (scheme, s) := splitScheme ((s.dropWhile isIgnorable).filter (!isDropped ·))
  partsBehind scheme s

def urlPath (r : Request) : Except UrlFault String := do
  let parts ← partsOfUrl (← url r)
  return String.ofList parts.path

/-! The parts of a URL by name -/

namespace UrlParts

/-- The host of a URL and its port, both without the signs around them. -/
def hostAndPort (u : UrlParts) : List Char × List Char :=
  match u.authority with
  | '[' :: rest => (rest.takeWhile (· != ']'), (rest.dropWhile (· != ']')).drop 2)
  | s => (s.takeWhile (· != ':'), (s.dropWhile (· != ':')).drop 1)

/-- The parts of a URL by name, and what follows from them. No user is named in the URL of a
request. -/
def entries (u : UrlParts) : Entries :=
  let text (s : List Char) : Value := .text (String.ofList s)
  let (host, port) := u.hostAndPort
  [("scheme", text u.scheme), ("netloc", text u.authority), ("path", text u.path),
   ("query", text u.query), ("fragment", text u.fragment), ("username", .none),
   ("password", .none), ("hostname", if host.isEmpty then .none else text (lower host)),
   ("port", if port.isEmpty then .none else .number (.whole (digitsValue port))),
   ("is_secure", .bool ([['h', 't', 't', 'p', 's'], ['w', 's', 's']].contains u.scheme))]
where
  digitsValue (s : List Char) : Nat :=
    s.foldl (fun n c => 10 * n + (c.toNat - '0'.toNat)) 0

end UrlParts

/-! Escaping for a header that holds a URL -/

/-- Whether the character stands for itself in such a header. -/
def isPlainInUrl (c : Char) : Bool :=
  c.isAlphanum || "_.-~:/%#?=@[]!$&'()*+,;".toList.contains c

def escapeUrlChar (c : Char) : List Char :=
  if isPlainInUrl c then [c]
  else (utf8Bytes c).flatMap fun b => '%' :: (hexFixed 2 b.toNat).map Char.toUpper

/-- A URL with the characters escaped that have no place in it. -/
def escapeUrl (s : List Char) : String :=
  String.ofList (s.flatMap escapeUrlChar)

example :
    (partsOfUrl "a+B://h:8/x?y#z".toList).toOption =
      some ⟨"a+b".toList, "h:8".toList, "/x".toList, "y".toList, "z".toList⟩ ∧
    (partsOfUrl "1x://h/x".toList).toOption = some ⟨[], [], "1x://h/x".toList, [], []⟩ ∧
    (partsOfUrl "http://[x/y".toList).toOption = none := by decide +kernel

end PageServer.Http
