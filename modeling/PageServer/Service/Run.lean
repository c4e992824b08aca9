import PageServer.Service.Basic
import PageServer.Files.Change
/-! Runs of the service: visits, and changes of the template files between them. -/
namespace PageServer

open Files

/-- The directory below which template files are written. -/
def templatesPath : PathName := .ofPath "/@/templates".toList

/-- What happens to a service. A change of the files says how they are marked afterwards. -/
inductive Event (τ : Type) where
  | visit (v : Visit τ)
  | write (path : String) (node : Node) (mark : Place → Nat)
  | remove (path : String) (mark : Place → Nat)

/-- What an event leads to: an answer, or a change that may have failed. -/
inductive Outcome (τ : Type) where
  | served (answer : Served τ)
  | changed (fault : Option AccessFault)

/-- What views are shown from, and what is shared by all visits besides. -/
structure State (τ : Type) where
  store : Store
  memory : Memory τ

namespace Store

def changed (store : Store) (tree : Tree) (mark : Place → Nat) : Store :=
  { store with files := ⟨tree, mark⟩ }

end Store

namespace Service

variable {τ : Type} [Clock τ]

def step (service : Service τ) (s : State τ) : Event τ → Outcome τ × State τ
  | .visit v =>
      let served := service.serve s.store s.memory v
      (.served served, ⟨served.store, served.memory⟩)
  | .write path node mark =>
      let (tree, fault) := s.store.tree.write (templatesPath.join path.toList) node
      (.changed fault, { s with store := s.store.changed tree mark })
  | .remove path mark =>
      let (tree, fault) := s.store.tree.removeFile (templatesPath.join path.toList)
      (.changed fault, { s with store := s.store.changed tree mark })

def runEvents (service : Service τ) (s : State τ) : List (Event τ) → List (Outcome τ) × State τ
  | [] => ([], s)
  | event :: rest =>
      let (outcome, next) := service.step s event
      let (others, last) := service.runEvents next rest
      (outcome :: others, last)

end Service

end PageServer
