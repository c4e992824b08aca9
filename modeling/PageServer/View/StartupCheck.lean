import PageServer.Settings.Basic
import PageServer.Files.Tree
/-! The check made when the service starts: the templates directory must be there, and with it a
file for every view. All problems are collected. A path with a name too long to be looked up ends
the check at once. -/
namespace PageServer

open Files

inductive SetupProblem where
  | notDirectory (root : String)
  | missingTemplate (view path : String)
  deriving DecidableEq, Repr

def SetupProblem.message : SetupProblem → String
  | .notDirectory root => "TEMPLATES_DIR '" ++ root ++ "' is not a directory"
  | .missingTemplate view path =>
      "Template for view '" ++ view ++ "' not found at " ++ path

/-- Why the check does not pass. -/
inductive SetupFault where
  | invalid (problems : List SetupProblem)
  | inaccessible (fault : AccessFault)
  deriving DecidableEq, Repr

def SetupFault.message : SetupFault → String
  | .invalid problems =>
      "Configuration validation failed:\n" ++
        "\n".intercalate (problems.map fun p => "  - " ++ p.message)
  | .inaccessible fault => fault.message

/-- What is at a normal path name. A fault other than a name too long means that nothing is. -/
def nodeNamed (tree : Tree) (name : PathName) : Except SetupFault (Option Node) :=
  match tree.find name.text with
  | .ok node => .ok (some node)
  | .error .nameTooLong => .error (.inaccessible ⟨.nameTooLong, name⟩)
  | .error _ => .ok none

def missingTemplates (tree : Tree) (root : PathName) (suffix : String) :
    List String → Except SetupFault (List SetupProblem)
  | [] => .ok []
  | view :: rest => do
      let path := root.join (view ++ suffix).toList
      let node ← nodeNamed tree path
      let others ← missingTemplates tree root suffix rest
      match node with
      | some (.file _) => return others
      | _ => return .missingTemplate view (String.ofList path.text) :: others

def checkViews (tree : Tree) (templatesDir suffix : String) (views : List String) :
    Except SetupFault Unit := do
  let root := PathName.ofPath templatesDir.toList
  let node ← nodeNamed tree root
  let problems ← match node with
    | some .directory => missingTemplates tree root suffix views
    | _ => pure [.notDirectory (String.ofList root.text)]
  if problems.isEmpty then return () else throw (.invalid problems)

/-- The same check, in the directory of the settings where none or an empty one is given, and with
their suffix where none is given. -/
def Settings.checkViews (s : Settings) (tree : Tree) (templatesDir suffix : Option String)
    (views : List String) : Except SetupFault Unit :=
  PageServer.checkViews tree (s.directoryOr templatesDir) (suffix.getD s.templateSuffix) views

end PageServer
