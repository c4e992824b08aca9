import PageServer.Settings.Basic
import PageServer.EnvFile
import PageServer.Text.LowerCase
import PageServer.Text.Utf8
import PageServer.Text.Lines
import PageServer.Files.PathName
/-! Where settings come from. A field takes its value from the first source that names it:
the arguments, the environment, the file of assignments, and the default. Names are compared
without regard to letter case unless an option says otherwise. The environment may hold anything
besides; the file and the arguments may not, a name in the file without a value apart. -/
namespace PageServer.Settings

open Text

/-! Options -/

structure Options where
  /-- What a field's name has in front there. -/
  fieldPrefix : String := ""
  exactCase : Bool := false
  readsFile : Bool := true
  skipsEmpty : Bool := false
  /-- The text that stands for no value. -/
  noValue : Option String := none

namespace Options

def names : List String :=
  ["_case_sensitive", "_nested_model_default_partial_update", "_env_prefix", "_env_prefix_target",
    "_env_file", "_env_file_encoding", "_env_ignore_empty", "_env_nested_delimiter",
    "_env_nested_max_split", "_env_parse_none_str", "_env_parse_enums", "_cli_prog_name",
    "_cli_parse_args", "_cli_settings_source", "_cli_parse_none_str", "_cli_hide_none_type",
    "_cli_avoid_json", "_cli_enforce_required", "_cli_use_class_docs_for_groups",
    "_cli_exit_on_error", "_cli_prefix", "_cli_flag_prefix_char", "_cli_implicit_flags",
    "_cli_ignore_unknown_args", "_cli_kebab_case", "_cli_shortcuts", "_secrets_dir",
    "_build_sources"]

def filePlace : Files.PathName :=
  .ofPath "/@/.env".toList

/-- Whether a value names the file of assignments, or is a list in which one does. -/
def namesFile : Value → Bool
  | .text s => (Files.PathName.ofPath "/@".toList).join s.toList == filePlace
  | .list items => items.any fun
      | .text s => (Files.PathName.ofPath "/@".toList).join s.toList == filePlace
      | _ => false
  | _ => false

def ofArguments (arguments : Entries) : Options where
  fieldPrefix := match arguments.lookup "_env_prefix" with
    | some (.text s) => s
    | _ => ""
  exactCase := (arguments.lookup "_case_sensitive").any Value.truthy
  readsFile := (arguments.lookup "_env_file").all namesFile
  skipsEmpty := (arguments.lookup "_env_ignore_empty").any Value.truthy
  noValue := match arguments.lookup "_env_parse_none_str" with
    | some (.text s) => some s
    | _ => none

/-- The form in which names are compared. -/
def normal (o : Options) (name : String) : String :=
  if o.exactCase then name else lowerText name

def outerName (o : Options) (f : Field) : String :=
  o.normal (o.fieldPrefix ++ f.name)

end Options

/-! Assignments -/

/-- Assignments made one after the other: the last one of a name decides, in the place of the
first. -/
def latest {κ α : Type} [BEq κ] (assignments : List (κ × α)) : List (κ × α) :=
  assignments.foldl (fun done (name, value) =>
    if done.any (·.1 == name) then done.map fun e => if e.1 == name then (name, value) else e
    else done ++ [(name, value)]) []

structure Sources where
  options : Options := {}
  arguments : Entries := []
  environment : List (String × String) := []
  file : List EnvFile.Binding := []

namespace Sources

/-- Assignments of texts under the names by which they are compared, after each other. -/
def normalized (o : Options) (assignments : List (String × Option String)) :
    List (String × Option String) :=
  latest ((assignments.filter fun e => !(o.skipsEmpty && e.2 == some "")).map fun (name, value) =>
    (o.normal name, value))

/-- The argument for a field: the first one that names it. -/
def argument? (s : Sources) (f : Field) : Option Value :=
  (s.arguments.find? (s.options.normal ·.1 == f.name)).map (·.2)

/-- The assignments of the environment by the names under which they are compared. -/
def environmentValues (s : Sources) : List (String × Option String) :=
  normalized s.options ((latest s.environment).map fun (name, value) => (name, some value))

/-- The file's assignments by the names under which they are compared, with the references in their
values replaced. A reference sees the environment, over which the assignments above it lie. -/
def fileValues (s : Sources) : List (String × Option String) :=
  let outer (name : List Char) : Option (List Char) :=
    (s.environment.reverse.find? (·.1.toList == name)).map (·.2.toList)
  let bindings := EnvFile.expandAll outer [] s.file
  normalized s.options ((latest (bindings.map fun b => (b.name, b.value))).map
    fun (name, value) => (String.ofList name, value.map String.ofList))

/-- The value that a text of the environment or of the file stands for. -/
def valueOfText (o : Options) (s : String) : Value :=
  if o.noValue = some s then .none else .text s

/-- The value that decides a field, if any source names it. -/
def winner? (s : Sources) (f : Field) : Option Value :=
  (s.argument? f).orElse fun _ =>
    let name := s.options.outerName f
    (((s.environmentValues.lookup name).join).orElse fun _ => (s.fileValues.lookup name).join).map
      (valueOfText s.options)

/-- Whether a name of the file is accounted for: a field's name there, or its bare name. -/
def isKnown (o : Options) (name : String) : Bool :=
  Field.all.any fun f => name == o.outerName f || (o.fieldPrefix ≠ "" && name == f.name)

/-- The names that belong to no field: those of the file with a value, and then the others among
the arguments. -/
def unknownNames (s : Sources) : List String :=
  let fromFile := s.fileValues.filterMap fun (name, value) =>
    if isKnown s.options name || value.all (· == "") then none else some name
  let fromArguments := (s.arguments.map (·.1)).filter fun name =>
    (Field.ofName? (s.options.normal name)).isNone && !fromFile.contains name
  fromFile ++ fromArguments

end Sources

structure Resolved where
  settings : Settings
  given : List Field

/-- One field decided: the settings so far, or the faults so far. -/
def decideField (sources : Sources) (soFar : Except (List FieldFault) Settings) (f : Field) :
    Except (List FieldFault) Settings :=
  match sources.winner? f with
  | none => soFar
  | some v =>
      match soFar with
      | .ok s => (f.store v s).mapError fun c => [⟨[f.name], c⟩]
      | .error faults =>
          match f.store v {} with
          | .ok _ => .error faults
          | .error c => .error (faults ++ [⟨[f.name], c⟩])

/-- The settings that sources give, or all faults: the fields' in their order, and then those of
unknown names. -/
def resolve (sources : Sources) : Except Rejection Resolved :=
  let fields := Field.all.foldl (decideField sources) (.ok {})
  let unknown := sources.unknownNames.map fun name => (⟨[name], .unknownName⟩ : FieldFault)
  match fields, unknown with
  | .ok s, [] => .ok ⟨s, Field.all.filter fun f => (sources.winner? f).isSome⟩
  | .ok _, faults => .error ⟨"Settings", faults⟩
  | .error faults, unknown => .error ⟨"Settings", faults ++ unknown⟩

/-- The given fields' names in alphabetical order. -/
def Resolved.givenNames (r : Resolved) : List String :=
  (r.given.map Field.name).mergeSort (· ≤ ·)

/-- The assignments of a file's bytes. One mark of the byte order at the start is dropped. -/
def bindingsOfBytes (bytes : List UInt8) : Except Utf8Fault (List EnvFile.Binding) := do
  let s ← decodeUtf8 bytes
  let s := if s.head? == some '\uFEFF' then s.drop 1 else s
  return EnvFile.readBindings (unifyLineEnds s)

/-- The sources that arguments, an environment and a file's bytes make. The file is read unless an
option among the arguments turns that off. -/
def Sources.ofArguments (arguments : Entries) (environment : List (String × String) := [])
    (file : Option (List UInt8) := none) : Except Utf8Fault Sources := do
  let options := Options.ofArguments arguments
  let values := arguments.filter fun e => !Options.names.contains e.1
  let bindings ← match file with
    | some bytes => if options.readsFile then bindingsOfBytes bytes else pure []
    | none => pure []
  return ⟨options, values, environment, bindings⟩

end PageServer.Settings
