import PageServer.Service.Basic
import PageServer.View.StartupCheck
/-! Creation, start and end of the service. Problems with the templates are logged at the start, and
the service goes on; only a name too long to be looked up keeps it from starting. -/
namespace PageServer

open Files

namespace Service

variable {τ : Type}

def startupLogger : String := "pagedemo.main"

def note (message : String) : LogEntry :=
  ⟨startupLogger, .info, message, none, none⟩

def ruler : LogEntry :=
  note (String.ofList (List.replicate 60 '='))

/-- The service with the resolver given, or else with one by its settings. -/
def create (settings : Settings) (resolver : Option Resolver) (start : τ) :
    Except Failure (Service τ) :=
  match resolver.orElse fun _ => Resolver.ofSettings? settings none none with
  | some r => .ok ⟨settings, r, start, []⟩
  | none => .error Resolver.noDirectory

/-- A service with routes of its own. -/
def withRoutes (service : Service τ) (extra : List Route) : Service τ :=
  { service with extra := extra }

def creationEntries : List LogEntry :=
  Pages.registrationEntries

def pageEntry (page : PageRoute) : LogEntry :=
  note ("Page route " ++ page.path ++ " → view '" ++ page.view ++ "'")

/-- The entries of the check of the templates, unless it cannot be made. -/
def checkEntries (service : Service τ) (tree : Tree) : Except SetupFault (List LogEntry) :=
  match checkViews tree service.resolver.templatesDir service.resolver.suffix Pages.viewNames with
  | .ok () => .ok []
  | .error (.invalid problems) =>
      .ok [⟨startupLogger, .error, "Configuration error: " ++ (SetupFault.invalid problems).message,
        none, none⟩]
  | .error fault => .error fault

def startupEntries (service : Service τ) (tree : Tree) : Except SetupFault (List LogEntry) := do
  let checked ← service.checkEntries tree
  return [ruler, note ("pagedemo " ++ Health.version ++ " starting up...")] ++ checked ++
    [note ("Templates: " ++ service.resolver.templatesDir)] ++ Pages.table.map pageEntry ++
    [note ("Server ready at http://" ++ service.settings.backendHost ++ ":" ++
      toString service.settings.backendPort), ruler]

def shutdownEntries : List LogEntry :=
  [note "pagedemo shutting down...", note "Shutdown complete."]

end Service

structure Launch where
  target : String
  host : String
  port : Nat
  logLevel : String
  deriving DecidableEq, Repr

def Launch.ofSettings (s : Settings) : Launch :=
  ⟨"pagedemo.main:app", s.backendHost, s.backendPort,
    String.ofList (s.logLevel.name.toList.map Char.toLower)⟩

end PageServer
