/-! Line ends. A text from a file has line feeds only: a carriage return becomes one, together with
a line feed behind it. -/
namespace PageServer.Text

/-- A text with every line end written as one line feed. -/
def unifyLineEnds : List Char → List Char
  | '\r' :: '\n' :: rest => '\n' :: unifyLineEnds rest
  | '\r' :: rest => '\n' :: unifyLineEnds rest
  | c :: rest => c :: unifyLineEnds rest
  | [] => []

end PageServer.Text
