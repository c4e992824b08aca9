import PageServer.Text.Blank
/-! Names of places in a tree of files. A path name is normal if it has no empty component and none
that is a single dot; two dots stay, since what they lead to depends on the tree. A name that
starts with exactly two slashes is kept apart from one that starts with one. -/
namespace PageServer.Files

open Text

abbrev Name := List Char

def dot : Name := ['.']

def dotDot : Name := ['.', '.']

def components (path : List Char) : List Name :=
  Text.splitAt '/' path

/-- Whether a component names something, rather than nothing or the place itself. -/
def isProper (name : Name) : Bool :=
  !name.isEmpty && name != dot

/-- A normal path name: how many slashes it starts with, and its components. -/
structure PathName where
  slashes : Nat
  parts : List Name
  deriving DecidableEq, Repr

namespace PathName

def leadingSlashes (path : List Char) : Nat :=
  match (path.takeWhile (· == '/')).length with
  | 0 => 0
  | 2 => 2
  | _ => 1

def ofPath (path : List Char) : PathName :=
  ⟨leadingSlashes path, (components path).filter isProper⟩

/-- A path name below another one; one that starts with a slash stands alone. -/
def join (base : PathName) (path : List Char) : PathName :=
  let name := ofPath path
  if name.slashes = 0 then ⟨base.slashes, base.parts ++ name.parts⟩ else name

def text (name : PathName) : List Char :=
  if name.slashes = 0 ∧ name.parts = [] then dot
  else List.replicate name.slashes '/' ++ joinWith ['/'] name.parts

example : (ofPath "//a/./b//".toList).text = "//a/b".toList ∧
    ((ofPath "a/.".toList).join "../x/".toList).text = "a/../x".toList := by decide +kernel

end PathName

end PageServer.Files
