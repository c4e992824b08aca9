import PageServer.View.ModelAndView
import PageServer.Logging.Entry
/-! The pages: a fixed table of paths, each with the handler that names the view to be shown. -/
namespace PageServer

/-- A page: its path, and its handler, by name and by the view that it names. -/
structure PageRoute where
  path : String
  handler : String
  view : String
  deriving DecidableEq, Repr

namespace Pages

/-- All pages, in order. -/
def table : List PageRoute :=
  [⟨"/index", "handle_index", "index"⟩, ⟨"/login", "handle_login", "login"⟩]

/-- The methods under which pages are shown. -/
def methods : List String :=
  ["GET", "HEAD", "POST", "PUT", "PATCH", "DELETE", "OPTIONS"]

def at? (path : String) : Option PageRoute :=
  table.find? (·.path == path)

def viewNames : List String :=
  table.map (·.view)

/-- The tag under which pages are listed. -/
def tag : String := "Pages"

def registrationEntries : List LogEntry :=
  table.map fun page =>
    ⟨"pagedemo.routes.pages", .debug,
      "Registered page route " ++ page.path ++ " → " ++ page.handler,
      none, none⟩

end Pages

def PageRoute.modelAndView (page : PageRoute) : ModelAndView :=
  .ofView page.view

end PageServer
