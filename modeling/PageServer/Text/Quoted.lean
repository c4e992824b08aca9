import PageServer.Text.Hex
import PageServer.Text.Printable
import PageServer.Text.Surrogate
/-! Quoted text. A text is written between single quotes, or between double quotes if it holds a
single quote and no double one. The quote in use and the backslash are escaped, line breaks and
tabs have letters, and what does not print is written by its code point, a stand-in by the half of
a pair that it stands for. -/
namespace PageServer.Text

def quoteFor (s : List Char) : Char :=
  if s.contains '\'' && !s.contains '"' then '"' else '\''

def quotedChar (quote c : Char) : List Char :=
  if c == quote || c == '\\' then ['\\', c]
  else if c == '\n' then ['\\', 'n']
  else if c == '\r' then ['\\', 'r']
  else if c == '\t' then ['\\', 't']
  else if isPrintable c then [c]
  else if c.toNat ≤ 0xFF then ['\\', 'x'] ++ hexFixed 2 c.toNat
  else if c.toNat ≤ 0xFFFF then ['\\', 'u'] ++ hexFixed 4 c.toNat
  else match half? c with
    | some half => halfText half
    | none => ['\\', 'U'] ++ hexFixed 8 c.toNat

def quoted (s : String) : String :=
  let quote := quoteFor s.toList
  String.ofList ([quote] ++ s.toList.flatMap (quotedChar quote) ++ [quote])

example : quoted "it's" = "\"it's\"" ∧ quoted "a\x00é" = "'a\\x00é'" := by decide +kernel

end PageServer.Text
