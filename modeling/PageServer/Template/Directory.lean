import PageServer.Template.Language
import PageServer.Files.Tree
import PageServer.Text.Lines
/-! Templates in a directory. A template's name is split at slashes; empty parts and dots are
dropped, and a name with two dots as a part is refused. What is left leads from the directory to
the template's file. -/
namespace PageServer.Template

open Files Text

/-- The parts of a template's name, unless it is refused. -/
def nameParts? (name : List Char) : Option (List Name) :=
  let parts := components name
  if parts.contains dotDot then none else some (parts.filter isProper)

/-- The path of a part below another path. -/
def pathBelow (path : List Char) (part : Name) : List Char :=
  if path.getLast? == some '/' then path ++ part else path ++ ['/'] ++ part

def filePath (directory : List Char) (parts : List Name) : List Char :=
  parts.foldl pathBelow directory

def fileOf (tree : Tree) (directory name : String) : Except RenderFault (List UInt8) :=
  match nameParts? name.toList with
  | none => .error (.notFound name)
  | some parts =>
      match tree.fileBytes? (filePath directory.toList parts) with
      | some bytes => .ok bytes
      | none =>
          .error (.notFound
            (quoted name ++ " not found in search path: " ++ quoted directory))

/-- A template's source: its file's text. -/
def sourceOf (tree : Tree) (directory name : String) : Except RenderFault (List Char) := do
  let bytes ← fileOf tree directory name
  (decodeUtf8 bytes).mapError .undecodable |>.map unifyLineEnds

/-- The source of a name, which has to be sound. -/
def load (language : Language) (tree : Tree) (directory name : String) :
    Except RenderFault (List Char) := do
  let source ← sourceOf tree directory name
  match language.fault? name source with
  | some fault => throw (.ofSource fault)
  | none => return source

end PageServer.Template
