import PageServer.Value
/-! Documents as the service writes them: no blanks between tokens, members in their order, and
all characters as they are, but for quotes, backslashes and control characters. -/
namespace PageServer.Value

open Text

def jsonChar (c : Char) : List Char :=
  if c == '"' || c == '\\' then ['\\', c]
  else if c == '\n' then ['\\', 'n']
  else if c == '\r' then ['\\', 'r']
  else if c == '\t' then ['\\', 't']
  else if c == '\x08' then ['\\', 'b']
  else if c == '\x0c' then ['\\', 'f']
  else if c.toNat < 0x20 then ['\\', 'u'] ++ hexFixed 4 c.toNat
  else [c]

def jsonText (s : String) : String :=
  String.ofList (['"'] ++ s.toList.flatMap jsonChar ++ ['"'])

mutual

def json : Value → String
  | .none => "null"
  | .bool b => if b then "true" else "false"
  | .number n => n.text
  | .text s => jsonText s
  | .list items => "[" ++ ",".intercalate (jsonItems items) ++ "]"
  | .dict entries => "\x7b" ++ ",".intercalate (jsonEntries entries) ++ "\x7d"

def jsonItems : List Value → List String
  | [] => []
  | item :: rest => json item :: jsonItems rest

def jsonEntries : List (String × Value) → List String
  | [] => []
  | (key, value) :: rest => (jsonText key ++ ":" ++ json value) :: jsonEntries rest

end

mutual

/-- Whether all numbers in a value are finite; documents have no others. -/
def isFinite : Value → Bool
  | .number (.real x) =>
      match Numeral.valueOf x with
      | .finite _ => true
      | _ => false
  | .list items => areFinite items
  | .dict entries => haveFinite entries
  | _ => true

def areFinite : List Value → Bool
  | [] => true
  | item :: rest => isFinite item && areFinite rest

def haveFinite : List (String × Value) → Bool
  | [] => true
  | (_, value) :: rest => isFinite value && haveFinite rest

end

/-- What is said about a value that has no document. -/
def infiniteMessage : String := "Out of range float values are not JSON compliant"

end PageServer.Value
