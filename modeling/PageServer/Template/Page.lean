import PageServer.Template.Layout
import PageServer.Template.Directory
import PageServer.Text.Surrogate
/-! Pages: what sources are made into before they are rendered. -/
namespace PageServer.Template

open Files Text

/-- A template that was read: its name, what it consists of, its blocks, and whether its outputs are
escaped. -/
structure Page where
  name : String
  nodes : List Node
  blocks : BlockTable
  escapes : Bool

/-- A source without the line end at its end. -/
def withoutLastLineEnd (source : List Char) : List Char :=
  if source.getLast? == some '\n' then source.dropLast else source

def markupEndings : List (List Char) :=
  [".html".toList, ".htm".toList, ".xml".toList]

def escapesFor (name : String) : Bool :=
  markupEndings.any fun ending => ending.isSuffixOf (name.toList.map Char.toLower)

/-- The last part of a template's name, which names its file. -/
def lastPart (name : String) : String :=
  String.ofList (((nameParts? name.toList).bind List.getLast?).getD [])

/-- The blocks of nodes. Blocks whose names are the same identifier share the nodes of the last. -/
def blockTable (nodes : List Node) (escapes : Bool) : BlockTable :=
  let blocks := blocksIn nodes
  blocks.map fun (name, body) =>
    let last := blocks.reverse.find? fun (other, _) => nameKey other == nameKey name
    (name, ⟨(last.map (·.2)).getD body, escapes⟩)

/-- The page of a source under a name. Characters that stand in for halves of others are not
followed. -/
def prepare (name : String) (source : List Char) : Except SourceFault Page := do
  if source.any fun c => (half? c).isSome then throw (.ofFurther "a private character")
  let nodes ← readTemplate (withoutLastLineEnd source)
  match preparationFault? (lastPart name) nodes with
  | some fault => throw fault
  | none =>
      let nodes := settlePage nodes
      let escapes := escapesFor name
      return ⟨name, nodes, blockTable nodes escapes, escapes⟩

/-- What stands for a character in markup. -/
def escapeChar (c : Char) : List Char :=
  if c == '&' then "&amp;".toList
  else if c == '<' then "&lt;".toList
  else if c == '>' then "&gt;".toList
  else if c == '\'' then "&#39;".toList
  else if c == '"' then "&#34;".toList
  else [c]

end PageServer.Template
