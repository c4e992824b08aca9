import PageServer.Fault.Arguments
/-! The errors of the application. They form a tree: the base has the errors of view resolution
below it, and those have the view that is not found and the view that fails to render; routes may
raise errors of classes derived from these. Each carries a message for clients and a context for the
log. A dictionary that is not empty is taken as the context itself, so what is added to the context
is added to the caller's dictionary. -/
namespace PageServer

inductive AppErrorClass where
  | base
  | resolution
  | notFound
  | render
  deriving DecidableEq, Repr

namespace AppErrorClass

def name : AppErrorClass → String
  | base => "PageDemoError"
  | resolution => "ViewResolutionError"
  | notFound => "ViewNotFoundError"
  | render => "ViewRenderError"

def all : List AppErrorClass := [base, resolution, notFound, render]

def ofName? (s : String) : Option AppErrorClass :=
  all.find? (·.name == s)

/-- A class and the classes above it, the nearest first. -/
def lineage : AppErrorClass → List AppErrorClass
  | base => [base]
  | resolution => [resolution, base]
  | notFound => [notFound, resolution, base]
  | render => [render, resolution, base]

end AppErrorClass

/-- The class of an error: one of those classes, or one derived from another under a name of its
own. -/
inductive AppErrorKind where
  | standard (c : AppErrorClass)
  | derived (name : String) (parent : AppErrorKind)
  deriving DecidableEq, Repr

namespace AppErrorKind

def name : AppErrorKind → String
  | standard c => c.name
  | derived name _ => name

/-- A class and the classes above it, the nearest first. -/
def lineage : AppErrorKind → List AppErrorKind
  | standard c => c.lineage.map standard
  | derived name parent => derived name parent :: parent.lineage

end AppErrorKind

structure AppError where
  errorClass : AppErrorKind
  message : Value
  context : Value
  view : Option Value
  template : Option Value

namespace AppError

/-- The message where none is given. -/
def defaultMessage : String := "An unexpected error occurred"

/-- The message of a resolution error where none is given. -/
def resolutionMessage : String := "The requested page could not be rendered"

def notFoundMessage (view : Value) : String :=
  "View '" ++ view.shown ++ "' could not be resolved"

def renderMessage (view : Value) : String :=
  "View '" ++ view.shown ++ "' failed to render"

/-- An error made from a caller's dictionary, and that dictionary afterwards. -/
structure Made where
  error : AppError
  callers : Entries

/-- Entries added to a context that started as a caller's dictionary: the dictionary itself gets
them unless it was empty. -/
def share (callers added : Entries) : Entries :=
  if callers.isEmpty then callers else added

def makeBase (message context : Value) : AppError :=
  ⟨.standard .base, message, if context.truthy then context else .dict [], none, none⟩

def makeResolution (view message : Value) (context : Entries) : Made :=
  let full := context.set "view_name" view
  ⟨⟨.standard .resolution, message, .dict full, some view, none⟩, share context full⟩

def makeRender (view : Value) (context : Entries) : Made :=
  let full := context.set "view_name" view
  ⟨⟨.standard .render, .text (renderMessage view), .dict full, some view, none⟩, share context full⟩

/-- The template is added first, unless it is nothing or empty. -/
def makeNotFound (view template : Value) (context : Entries) : Made :=
  let withTemplate := if template.truthy then context.set "template" template else context
  let full := withTemplate.set "view_name" view
  ⟨⟨.standard .notFound, .text (notFoundMessage view), .dict full, some view, some template⟩,
    share context full⟩

/-- The parameters by which each class is made. -/
def callable (c : AppErrorClass) : Callable :=
  let context : Parameter := ⟨"context", some .none⟩
  let view : Parameter := ⟨"view_name", none⟩
  ⟨c.name ++ ".__init__()",
    match c with
    | .base => [⟨"message", some (.text defaultMessage)⟩, context]
    | .resolution => [view, ⟨"message", some (.text resolutionMessage)⟩, context]
    | .notFound => [view, ⟨"template", some .none⟩, context]
    | .render => [view, context]⟩

/-- Makes an error of a class from arguments. A failure is a message about the arguments. -/
def make (c : AppErrorClass) (values : List Value) (named : Entries) : Except String Made := do
  let bound ← ((callable c).bind values named).mapError ArgumentFault.message
  let argument (name : String) : Value := (bound.lookup name).getD .none
  let given := argument "context"
  let context ← match given with
    | .dict entries => pure entries
    | v => if v.truthy && c != .base then throw v.assignmentFault else pure []
  return match c with
    | .base => ⟨makeBase (argument "message") given, context⟩
    | .resolution => makeResolution (argument "view_name") (argument "message") context
    | .notFound => makeNotFound (argument "view_name") (argument "template") context
    | .render => makeRender (argument "view_name") context

end AppError

end PageServer
