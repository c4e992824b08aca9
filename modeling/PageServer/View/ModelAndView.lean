import PageServer.Value.Check
/-! A view with its model: the name of the view to be shown and the values it is shown with. It is
frozen: neither part can be replaced, but the entries of the model can be changed in place, and a
copy may be made with any values for both parts, which are not checked again. -/
namespace PageServer

structure ModelAndView where
  viewName : Value
  model : Value
  given : List String

namespace ModelAndView

def subject : String := "ModelAndView"

def viewField : String := "view_name"

def modelField : String := "model"

def fieldNames : List String := [viewField, modelField]

/-- The view name and the model that fields give. Other fields are left out. -/
def check (fields : Entries) : Checked (String × Entries) :=
  Checked.both (Checked.required fields viewField Checked.someText)
    (Checked.optional fields modelField [] Checked.dictionary)

/-- Made from fields: a view name that is not empty, and a dictionary as the model, which is empty
where none is given. -/
def ofFields (fields : Entries) : Except Rejection ModelAndView :=
  (Checked.about subject (check fields)).map fun (view, model) =>
    ⟨.text view, .dict model, fieldNames.filter fun name => (fields.get? name).isSome⟩

def ofView (view : String) : ModelAndView :=
  ⟨.text view, .dict [], [viewField]⟩

def frozenFault (name : String) : Rejection :=
  ⟨subject, [⟨[name], .frozen⟩]⟩

inductive AssignmentFault where
  | rejected (r : Rejection)
  | notClass (kind : String)
  | notDictionary (kind : String)
  | notWritable (name : String)
  | noSetter (name : String)
  deriving DecidableEq, Repr

def AssignmentFault.message : AssignmentFault → String
  | rejected r => r.message
  | notClass kind => "__class__ must be set to a class, not '" ++ kind ++ "' object"
  | notDictionary kind => "__dict__ must be set to a dictionary, not a '" ++ kind ++ "'"
  | notWritable name => "attribute '" ++ name ++ "' of '" ++ subject ++ "' objects is not writable"
  | noSetter name => "property '" ++ name ++ "' of '" ++ subject ++ "' object has no setter"

/-- Puts a value under a name. Only names that start with an underscore, which belong to no part,
can be given; of these, the one for all parts together takes a dictionary, and those that describe
the pair itself take nothing. -/
def assign (m : ModelAndView) (name : String) (value : Value) :
    Except AssignmentFault ModelAndView :=
  if name.toList.head? ≠ some '_' then .error (.rejected (frozenFault name))
  else if name = "__class__" then .error (.notClass value.kind)
  else if name = "__weakref__" then .error (.notWritable name)
  else if name = "__fields_set__" then .error (.noSetter name)
  else if name = "__dict__" then
    match value with
    | .dict entries =>
        .ok { m with viewName := (Entries.get? entries viewField).getD m.viewName
                     model := (Entries.get? entries modelField).getD m.model }
    | v => .error (.notDictionary v.kind)
  else .ok m

/-- Takes a part away, which never succeeds. -/
def takeAway (_m : ModelAndView) (name : String) : Except Rejection ModelAndView :=
  .error (frozenFault name)

/-- Sets an entry of the model in place. A failure is a message: a copy may have a model that is no
dictionary. -/
def setEntry (m : ModelAndView) (key : String) (value : Value) : Except String ModelAndView :=
  match m.model with
  | .dict entries => .ok { m with model := .dict (Entries.set entries key value) }
  | v => .error v.assignmentFault

/-- A copy with other values for some parts. Names of no part count as given only. -/
def updated (m : ModelAndView) (update : Entries) : ModelAndView :=
  { viewName := (update.get? viewField).getD m.viewName
    model := (update.get? modelField).getD m.model
    given := m.given ++ (update.map (·.1)).filter fun name => !m.given.contains name }

def same (a b : ModelAndView) : Bool :=
  a.viewName.same b.viewName && a.model.same b.model

/-- What keeps a value from being hashed: values that can change have no hash. -/
def hashFault? (v : Value) : Option String :=
  match v with
  | .list _ => some ("unhashable type: '" ++ v.kind ++ "'")
  | .dict _ => some ("unhashable type: '" ++ v.kind ++ "'")
  | _ => none

def unhashable? (m : ModelAndView) : Option String :=
  (hashFault? m.viewName).orElse fun _ => hashFault? m.model

/-- The names given, in alphabetical order. -/
def givenNames (m : ModelAndView) : List String :=
  m.given.mergeSort (· ≤ ·)

end ModelAndView

end PageServer
