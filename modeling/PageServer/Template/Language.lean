import PageServer.Template.Work
/-! Languages of templates. What the service needs of a language is that a source can be checked
before it is used, and that it can be rendered for a request where names stand for values. -/
namespace PageServer.Template

/-- The request for which a page is rendered, as far as templates can see it: its URL, the parts of
that by name, and what else is known of it by name. -/
structure RequestFacts where
  url : String
  urlParts : Entries
  others : Entries

/-- What rendering comes to: a text, or one with lone halves of characters, which has no bytes. -/
inductive Markup where
  | whole (s : String)
  | halved (message : String)
  deriving DecidableEq, Repr

/-- A language of templates: what is wrong with a source under a name, and how a sound one is
rendered. -/
structure Language where
  fault? : String → List Char → Option SourceFault
  render : String → List Char → Entries → RequestFacts → Work Markup

end PageServer.Template
