import PageServer.Template.Fault
import PageServer.Files.Tree
import PageServer.Value
/-! What rendering does besides computing. On its way it fetches the sources of other templates, and
nothing keeps a template from looking at the files and the service around it, or from changing a
value that it was given. A piece of work is the tree of all that: at each node it asks for something
or changes something, and for each answer there is a branch. -/
namespace PageServer.Template

open Files

/-- What lies around the templates: the files, and the document about the service if it has been
made. -/
structure Outside where
  tree : Tree
  document : Option Value

/-- Work that comes to something or fails. It may fetch the source of a template, retrieve the value
that it has given to an entry of the model, look outside, and give an entry another value. -/
inductive Work (α : Type) where
  | done (a : α)
  | failed (fault : RenderFault)
  | fetch (name : String) (next : Except RenderFault (List Char) → Work α)
  | retrieve (key : String) (next : Option Value → Work α)
  | look (next : Outside → Work α)
  | edit (key : String) (v : Value) (next : Work α)

/-- What has changed in the course of work: the sources kept, and the entries of the model, which
have other values now. -/
structure Session (σ : Type) where
  kept : σ
  edits : Entries

namespace Work

variable {α β σ : Type}

def bind : Work α → (α → Work β) → Work β
  | done a, f => f a
  | failed fault, _ => failed fault
  | fetch name next, f => fetch name fun source => (next source).bind f
  | retrieve key next, f => retrieve key fun v => (next v).bind f
  | look next, f => look fun outside => (next outside).bind f
  | edit key v next, f => edit key v (next.bind f)

instance : Monad Work where
  pure := done
  bind := bind

def ofExcept : Except RenderFault α → Work α
  | .ok a => done a
  | .error fault => failed fault

/-- Work done with a way to fetch sources, which may keep them, and with what lies outside. -/
def run (fetching : σ → String → Except RenderFault (List Char) × σ) (outside : Outside) :
    Work α → Session σ → Except RenderFault α × Session σ
  | done a, s => (.ok a, s)
  | failed fault, s => (.error fault, s)
  | fetch name next, s =>
      let (source, kept) := fetching s.kept name
      (next source).run fetching outside { s with kept := kept }
  | retrieve key next, s => (next (s.edits.lookup key)).run fetching outside s
  | look next, s => (next outside).run fetching outside s
  | edit key v next, s => next.run fetching outside { s with edits := s.edits.set key v }

end Work

end PageServer.Template
