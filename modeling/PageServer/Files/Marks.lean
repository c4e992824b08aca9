import PageServer.Files.Tree
/-! Marks of files. Whoever keeps what was made of a file notes the mark that its place bears. How
files are marked is up to those who change them: a change may leave a place with the mark that it
had. -/
namespace PageServer.Files

open Text

def Tree.locate (tree : Tree) (path : List Char) : Except PathFault Place :=
  if path.isEmpty || path.contains '\x00' then .error .absent
  else if tooManyPathBytes ≤ (encodeUtf8 path).length then .error .nameTooLong
  else tree.walk (if path.head? == some '/' then [] else workingPlace) (components path)

/-- A tree of files with a mark at every place. -/
structure MarkedTree where
  tree : Tree
  mark : Place → Nat := fun _ => 0

namespace MarkedTree

/-- The mark of what a path leads to, if there is anything. -/
def markAt? (files : MarkedTree) (path : List Char) : Option Nat :=
  match files.tree.locate path with
  | .ok place => (files.tree.node? place).map fun _ => files.mark place
  | .error _ => none

end MarkedTree

end PageServer.Files
