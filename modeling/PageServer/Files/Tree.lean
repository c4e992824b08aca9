import PageServer.Files.PathName
import PageServer.Text.Utf8
import PageServer.Text.Quoted
/-! A tree of files. Every place below the root is a file or a directory, or nothing is there. A
path is followed component by component: each component needs a directory to be looked up in, an
empty one or a dot stays there, and two dots go up. -/
namespace PageServer.Files

open Text

/-- A place in the tree, by the components that lead to it from the root. -/
abbrev Place := List Name

inductive Node where
  | file (bytes : List UInt8)
  | directory
  deriving DecidableEq, Repr

/-- The places where something is. -/
structure Tree where
  nodes : List (Place × Node)
  deriving Repr

/-- Why a path leads nowhere, or why nothing can be done with what it leads to. -/
inductive PathFault where
  | absent
  | taken
  | notDirectory
  | isDirectory
  | nameTooLong
  deriving DecidableEq, Repr

/-- The number and the sentence by which a fault is reported. -/
def PathFault.report : PathFault → Nat × String
  | absent => (2, "No such file or directory")
  | taken => (17, "File exists")
  | notDirectory => (20, "Not a directory")
  | isDirectory => (21, "Is a directory")
  | nameTooLong => (36, "File name too long")

structure AccessFault where
  cause : PathFault
  path : PathName
  deriving DecidableEq, Repr

def AccessFault.message (fault : AccessFault) : String :=
  "[Errno " ++ toString fault.cause.report.1 ++ "] " ++ fault.cause.report.2 ++ ": " ++
    quoted (String.ofList fault.path.text)

/-- The most bytes that a component may have. -/
def mostNameBytes : Nat := 255

/-- The fewest bytes of a path that is too long as a whole. -/
def tooManyPathBytes : Nat := 4096

/-- The directory in which paths without a leading slash start. -/
def workingPlace : Place := [['@']]

namespace Tree

/-- What is at a place; the root is a directory. -/
def node? (tree : Tree) (place : Place) : Option Node :=
  if place = [] then some .directory else tree.nodes.lookup place

def enter (tree : Tree) (place : Place) (name : Name) : Except PathFault Place :=
  match tree.node? place with
  | none => .error .absent
  | some (.file _) => .error .notDirectory
  | some .directory =>
      if !isProper name then .ok place
      else if name = dotDot then .ok place.dropLast
      else if mostNameBytes < (encodeUtf8 name).length then .error .nameTooLong
      else match tree.node? (place ++ [name]) with
        | some _ => .ok (place ++ [name])
        | none => .error .absent

/-- The place that components lead to, one after the other. -/
def walk (tree : Tree) : Place → List Name → Except PathFault Place
  | place, [] => .ok place
  | place, name :: rest => do
      let next ← tree.enter place name
      tree.walk next rest

def find (tree : Tree) (path : List Char) : Except PathFault Node :=
  if path.isEmpty || path.contains '\x00' then .error .absent
  else if tooManyPathBytes ≤ (encodeUtf8 path).length then .error .nameTooLong
  else do
    let start := if path.head? == some '/' then [] else workingPlace
    let place ← tree.walk start (components path)
    match tree.node? place with
    | some node => .ok node
    | none => .error .absent

/-- The bytes of the file that a path leads to, if it leads to one. -/
def fileBytes? (tree : Tree) (path : List Char) : Option (List UInt8) :=
  match tree.find path with
  | .ok (.file bytes) => some bytes
  | _ => none

end Tree

end PageServer.Files
