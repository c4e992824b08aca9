import PageServer.Files.Tree
/-! Changes to a tree of files: directories made, files written, and files removed. A change that
fails leaves the tree as it is, apart from the directories that it has made on the way. -/
namespace PageServer.Files

open Text

namespace Tree

/-- The tree with a node put at a place, instead of what is there. -/
def set (tree : Tree) (place : Place) (node : Node) : Tree :=
  ⟨(place, node) :: tree.nodes.filter fun e => e.1 ≠ place⟩

def unset (tree : Tree) (place : Place) : Tree :=
  ⟨tree.nodes.filter fun e => e.1 ≠ place⟩

inductive Spot where
  | free (place : Place)
  | occupied (place : Place) (node : Node)

/-- The spot that a path leads to: all its components but the last one have to lead to a directory.
-/
def spot (tree : Tree) (path : PathName) : Except PathFault Spot :=
  if tooManyPathBytes ≤ (encodeUtf8 path.text).length then .error .nameTooLong
  else
    let start := if path.slashes = 0 then workingPlace else []
    match path.parts.getLast? with
    | none => .ok (.occupied start .directory)
    | some name => do
        let above ← tree.walk start path.parts.dropLast
        match tree.enter above name with
        | .ok place => return .occupied place ((tree.node? place).getD .directory)
        | .error .absent => return .free (above ++ [name])
        | .error fault => throw fault

/-- The tree with a directory made at the end of a path, if there is none. -/
def makeDirectory (tree : Tree) (path : PathName) : Except AccessFault Tree :=
  match tree.spot path with
  | .ok (.free place) => .ok (tree.set place .directory)
  | .ok (.occupied _ .directory) => .ok tree
  | .ok (.occupied _ (.file _)) => .error ⟨.taken, path⟩
  | .error fault => .error ⟨fault, path⟩

/-- The tree with directories made at the end of a path and, if they are missing, above it; and
what keeps the last of them from being made. `depth` bounds how many are missing. -/
def makeDirectories : Nat → Tree → PathName → Tree × Option AccessFault
  | 0, tree, path => (tree, some ⟨.absent, path⟩)
  | depth + 1, tree, path =>
      let outcome (tree : Tree) : Tree × Option AccessFault :=
        match tree.makeDirectory path with
        | .ok tree => (tree, none)
        | .error fault => (tree, some fault)
      match tree.makeDirectory path with
      | .error ⟨.absent, _⟩ =>
          match makeDirectories depth tree ⟨path.slashes, path.parts.dropLast⟩ with
          | (tree, none) => outcome tree
          | stopped => stopped
      | _ => outcome tree

/-- The tree with a directory at a path and all directories above it. -/
def addDirectory (tree : Tree) (path : PathName) : Tree × Option AccessFault :=
  tree.makeDirectories (path.parts.length + 1) path

/-- The tree with a file of some bytes at a path, in directories made as needed. -/
def writeFile (tree : Tree) (path : PathName) (bytes : List UInt8) : Tree × Option AccessFault :=
  match tree.addDirectory ⟨path.slashes, path.parts.dropLast⟩ with
  | (tree, none) =>
      match tree.spot path with
      | .ok (.free place) => (tree.set place (.file bytes), none)
      | .ok (.occupied place (.file _)) => (tree.set place (.file bytes), none)
      | .ok (.occupied _ .directory) => (tree, some ⟨.isDirectory, path⟩)
      | .error fault => (tree, some ⟨fault, path⟩)
  | stopped => stopped

def write (tree : Tree) (path : PathName) : Node → Tree × Option AccessFault
  | .file bytes => tree.writeFile path bytes
  | .directory => tree.addDirectory path

/-- The tree without the file at a path. -/
def removeFile (tree : Tree) (path : PathName) : Tree × Option AccessFault :=
  match tree.spot path with
  | .ok (.occupied place (.file _)) => (tree.unset place, none)
  | .ok (.occupied _ .directory) => (tree, some ⟨.isDirectory, path⟩)
  | .ok (.free _) => (tree, some ⟨.absent, path⟩)
  | .error fault => (tree, some ⟨fault, path⟩)

/-- A path that leads nowhere, or to a directory, is left alone. -/
theorem removeFile_of_fault (tree next : Tree) (path : PathName) (fault : AccessFault)
    (failed : tree.removeFile path = (next, some fault)) : next = tree := by
  unfold removeFile at failed
  split at failed <;> simp_all

end Tree

end PageServer.Files
