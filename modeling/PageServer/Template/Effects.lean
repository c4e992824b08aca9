import PageServer.Template.Page
/-! What pages need for their rendering besides computing: other pages, the entries of the model
that have been changed, and what lies outside. A page is rendered in any monad that provides
these. -/
namespace PageServer.Template

/-- The effects of rendering in a monad, and how outcomes count in it. -/
structure Effects (m : Type → Type) where
  lift : {α : Type} → Except RenderFault α → m α
  fetch : String → m (Except RenderFault Page)
  retrieve : String → m (Option Value)
  look : m Outside
  edit : String → Value → m Unit

namespace Effects

def ofWork : Effects Work where
  lift := Work.ofExcept
  fetch name := .fetch name fun source =>
    .done (source.bind fun source => (prepare name source).mapError .ofSource)
  retrieve key := .retrieve key .done
  look := .look .done
  edit key v := .edit key v (.done ())

end Effects

end PageServer.Template
