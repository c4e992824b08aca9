import PageServer.Template.Rendering
import PageServer.Template.Cache
import PageServer.Http.Response
import PageServer.Fault.Failure
import PageServer.Settings.Basic
import PageServer.Logging.Entry
/-! Views and their templates. The template of a view has the view's name with a suffix and lies in
the resolver's directory. Without it the view is not found; with it, whatever is wrong with it or
with the templates it refers to is a failure to render the view, and all other failures are passed
on as they are. -/
namespace PageServer

open Files Template

structure Resolver where
  templatesDir : String
  suffix : String
  language : Language

/-- What views are shown from: the files with their marks, the sources that are kept, and the
document about the service if it has been made. -/
structure Store where
  files : MarkedTree
  cache : Cache := []
  document : Option Value := none

namespace Store

def tree (store : Store) : Tree :=
  store.files.tree

def outside (store : Store) : Outside :=
  ⟨store.tree, store.document⟩

/-- Files of which nothing was used so far. -/
def ofTree (tree : Tree) : Store :=
  { files := { tree := tree } }

end Store

/-- A view as it was shown, or why it was not: with the entries logged, the sources kept afterwards,
and the model as it is afterwards. -/
structure Presented extends Logged (Except Failure Http.Response) where
  cache : Cache
  model : Entries

namespace Resolver

/-- The header that names the view shown. -/
def viewHeader : String := "x-view-name"

def standard (templatesDir suffix : String) : Resolver :=
  ⟨templatesDir, suffix, .standard⟩

/-- A resolver, which needs a directory. -/
def make? (language : Language) (templatesDir suffix : String) : Option Resolver :=
  if templatesDir.isEmpty then none else some ⟨templatesDir, suffix, language⟩

/-- The failure where the directory is missing. -/
def noDirectory : Failure :=
  .other "AssertionError" "either 'directory' or 'env' arguments must be passed"

/-- A resolver with the settings' directory, where none or an empty one is given, and the settings'
suffix, where none is given. -/
def ofSettings? (s : Settings) (templatesDir suffix : Option String) : Option Resolver :=
  make? .standard (s.directoryOr templatesDir) (suffix.getD s.templateSuffix)

def templateName (r : Resolver) (view : String) : String :=
  view ++ r.suffix

def failureOf (fault : RenderFault) : Failure :=
  .other fault.kind fault.message

/-- Whether a view has a template. The template is read, so it has to be text. -/
def hasView (r : Resolver) (tree : Tree) (view : String) : Except Failure Bool :=
  match sourceOf tree r.templatesDir (r.templateName view) with
  | .ok _ => .ok true
  | .error (.notFound _) => .ok false
  | .error fault => .error (failureOf fault)

/-- The failure of a view that has no template. -/
def notFound (r : Resolver) (view : String) : Failure :=
  .app (AppError.makeNotFound (.text view) (.text (r.templateName view))
    [("templates_dir", .text r.templatesDir)]).error

def renderFailure (r : Resolver) (view : String) (fault : RenderFault) : Failure :=
  if fault.ofTemplates then
    .app (AppError.makeRender (.text view)
      [("template", .text (r.templateName view)), ("cause", .text fault.message)]).error
  else failureOf fault

/-- The source of a template's name, and the sources kept afterwards. -/
def fetch (r : Resolver) (files : MarkedTree) (cache : Cache) (name : String) :
    Except RenderFault (List Char) × Cache :=
  cache.fetch r.language files r.templatesDir name

/-- The model with which a view's template is rendered: the view's name is an entry of it, unless it
has an entry of that name. -/
def names (view : String) (model : Entries) : Entries :=
  model.setDefault "view_name" (.text view)

/-- The outcome of rendering a view's template. The text has to have bytes. -/
def outcome (r : Resolver) (view : String) : Except RenderFault Markup → Except Failure String
  | .ok (.whole s) => .ok s
  | .ok (.halved message) => .error (.other "UnicodeEncodeError" message)
  | .error fault => .error (r.renderFailure view fault)

/-- The markup of a view, and what has changed on the way. -/
def compose (r : Resolver) (store : Store) (facts : RequestFacts) (view : String)
    (model : Entries) : Except Failure String × Session Cache :=
  let name := r.templateName view
  let (fetched, cache) := r.fetch store.files store.cache name
  match fetched with
  | .error (.notFound _) => (.error (r.notFound view), ⟨cache, []⟩)
  | .error fault => (.error (r.renderFailure view fault), ⟨cache, []⟩)
  | .ok source =>
      let (rendered, session) := (r.language.render name source (names view model) facts).run
        (r.fetch store.files) store.outside ⟨cache, []⟩
      (r.outcome view rendered, session)

def markup (r : Resolver) (store : Store) (facts : RequestFacts) (view : String)
    (model : Entries) : Except Failure String :=
  (r.compose store facts view model).1

def respond (view s : String) : Except Failure Http.Response :=
  (do
    let value ← Http.headerText view
    Http.respond 200 [(viewHeader, value)] (some "text/html") (.text s)).mapError Failure.ofGiven

/-- The entry about a view shown. -/
def renderedEntry (r : Resolver) (view : String) : LogEntry :=
  ⟨"pagedemo.views", .debug, "Rendered view '" ++ view ++ "' from " ++ r.templateName view,
    none, none⟩

def edited (model edits : Entries) : Entries :=
  model.map fun (key, v) => (key, (edits.lookup key).getD v)

/-- The response that shows a view, and the entry about it. -/
def present (r : Resolver) (store : Store) (facts : RequestFacts) (view : String)
    (model : Entries) : Presented :=
  let (markup, session) := r.compose store facts view model
  let result := markup.bind (respond view)
  { result := result
    entries := if result.isOk then [r.renderedEntry view] else []
    cache := session.kept
    model := edited model session.edits }

end Resolver

end PageServer
