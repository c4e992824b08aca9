import PageServer.Text.Utf8
import PageServer.Text.Quoted
/-! How reading and rendering templates fail. Some faults are faults of templates; the others are
those of what templates were asked to compute, or of files that are no text. A source that was found
can be no template, or hold something that cannot be computed, but it is not missing. What lies
beyond the part of the template language that is followed here has a fault of its own. -/
namespace PageServer.Template

/-- Why a source makes no page. -/
inductive SourceFault where
  | badSyntax
  | raised (kind message : String)
  | beyond (what : String)
  deriving DecidableEq, Repr

/-- Why a page is not rendered. The first five are faults of templates. -/
inductive RenderFault where
  | badSyntax
  | notFound (message : String)
  | noneFound (message : String)
  | undefined (message : String)
  | runtime (kind message : String)
  | raised (kind message : String)
  | undecodable (fault : Text.Utf8Fault)
  | tooDeep
  | beyond (what : String)
  deriving DecidableEq, Repr

namespace RenderFault

def ofSource : SourceFault → RenderFault
  | .badSyntax => badSyntax
  | .raised kind message => raised kind message
  | .beyond what => beyond what

/-- The fault of a page that extends another one when it has extended one already. -/
def extendedTwice : RenderFault :=
  runtime "TemplateRuntimeError" "extended multiple times"

/-- Whether a fault lies in the templates, rather than in what they were asked to compute. -/
def ofTemplates : RenderFault → Bool
  | badSyntax => true
  | notFound _ => true
  | noneFound _ => true
  | undefined _ => true
  | runtime .. => true
  | _ => false

def kind : RenderFault → String
  | badSyntax => "TemplateSyntaxError"
  | notFound _ => "TemplateNotFound"
  | noneFound _ => "TemplatesNotFound"
  | undefined _ => "UndefinedError"
  | runtime kind _ => kind
  | raised kind _ => kind
  | undecodable _ => "UnicodeDecodeError"
  | tooDeep => "RecursionError"
  | beyond _ => "NotImplementedError"

def message : RenderFault → String
  | badSyntax => "<syntax error>"
  | notFound message => message
  | noneFound message => message
  | undefined message => message
  | runtime _ message => message
  | raised _ message => message
  | undecodable fault => fault.message
  | tooDeep => "maximum recursion depth exceeded"
  | beyond what => what

/-- Whether a fault is that a template is not there. -/
def isAbsence : RenderFault → Bool
  | notFound _ => true
  | noneFound _ => true
  | _ => false

/-- What a thing of a kind is asked that its kind does not allow. -/
def ofKind (kind what : String) : RenderFault :=
  raised "TypeError" ("'" ++ kind ++ "' object " ++ what)

end RenderFault

end PageServer.Template
