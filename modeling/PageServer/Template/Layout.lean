import PageServer.Template.Evaluation
import PageServer.Template.Names
/-! The prepared form of a template. Before a template is rendered it is laid out in lines: some in
front, one for each name that a frame introduces, and those of its nodes, which are indented where
they stand inside others. Only the indentation of a line and the number of loops it stands in matter
here, because both are limited: a template is refused with the number of the first line that goes
beyond a limit. -/
namespace PageServer.Template

/-- A line: how far it is indented, and how many loops it is in, itself counted if it starts one. -/
structure Line where
  indent : Nat
  loops : Nat
  deriving DecidableEq, Repr

/-- Where lines are laid out: their indentation, the loops around them, the frames, whether they
belong to the page's own frame, whether conditions stand around them there, and whether outputs are
laid out only where no other template is extended. -/
structure Place where
  indent : Nat
  loops : Nat
  frames : Frames
  onTop : Bool
  conditional : Bool
  checked : Bool

/-- How far the layout of extending has come: whether another template was extended, and whether
that holds in any case. -/
structure Stage where
  extended : Bool
  certain : Bool

def Place.line (p : Place) : Line :=
  ⟨p.indent, p.loops⟩

def Place.lines (p : Place) (count : Nat) : List Line :=
  List.replicate count p.line

def Place.deeper (p : Place) : Place :=
  { p with indent := p.indent + 1 }

def Place.inLoop (p : Place) (frames : Frames) : Place :=
  { p with indent := p.indent + 1, loops := p.loops + 1, frames := frames, onTop := false }

/-- How many names the innermost frame introduces, besides those that it binds. -/
def Frames.introducedCount (frames : Frames) (bound : List String) : Nat :=
  (frames.head?.getD []).length - bound.length

/-- The lines of an output after one that was constant or not, or after none. Constants next to each
other share a line. -/
def outputLines (p : Place) (last : Option Bool) (constant : Bool) : List Line :=
  let start := if last.isNone && p.checked then p.lines 1 else []
  let inside := if p.checked then p.deeper else p
  start ++ (if last == some true && constant then [] else inside.lines 1)

mutual

/-- The lines of a node. `last` is about the output just before it. -/
def Node.layOut (p : Place) (s : Stage) (last : Option Bool) : Node → List Line × Stage
  | .text _ => (if p.checked && s.certain then [] else outputLines p last true, s)
  | .output e =>
      (if p.checked && s.certain then [] else outputLines p last e.constant?.isSome, s)
  | .choice _ yes no goesOn =>
      let q := { p.deeper with conditional := true }
      let (yesLines, s) := layOutAll q s none yes
      let (noLines, s) :=
        if goesOn then layOutOthers p s no
        else
          let (lines, s) := layOutAll q s none no
          (if no.isEmpty then [] else p.lines 1 ++ q.lines 1 ++ lines, s)
      (p.lines 1 ++ q.lines 1 ++ yesLines ++ noLines, s)
  | .loop target _ body otherwise counted =>
      let bound := loopBinds target counted
      let inner := p.frames.enter bound body
      let q := p.inLoop inner
      let (bodyLines, s) := layOutAll q s none body
      let other := p.frames.enter [] otherwise
      let r := { p.deeper with frames := other, onTop := false }
      let (otherLines, s) := layOutAll r s none otherwise
      let marks := if otherwise.isEmpty then 0 else 1
      let rest := if otherwise.isEmpty then [] else
        let names := other.introducedCount []
        p.lines 1 ++ r.lines (names + 1) ++ otherLines ++ r.lines (min names 1)
      (p.lines ((if counted then 1 else 0) + marks) ++ [⟨p.indent, p.loops + 1⟩] ++
        q.lines (inner.introducedCount bound + 2) ++ bodyLines ++ q.lines marks ++
          p.lines 1 ++ rest,
        s)
  | .block .. =>
      (if p.onTop && s.certain then []
        else if p.onTop && s.extended then p.lines 1 ++ p.deeper.lines 1
        else p.lines 1, s)
  | .extending _ =>
      let again := if !s.extended then [] else if s.certain then p.lines 1
        else p.lines 1 ++ p.deeper.lines 1
      let first := if s.certain then [] else
        p.lines 1 ++ [⟨p.indent, p.loops + 1⟩, ⟨p.indent + 1, p.loops + 1⟩]
      (again ++ first, ⟨true, s.certain || !p.conditional⟩)
  | .including _ ifThere alone =>
      let q := if ifThere then p.deeper else p
      let front := if ifThere then p.lines 1 ++ q.lines 1 ++ p.lines 1 ++ q.lines 1 ++ p.lines 1
        else p.lines 1
      let round := [⟨q.indent, q.loops + 1⟩, ⟨q.indent + 1, q.loops + 1⟩]
      (front ++ (if alone then q.lines 1 else round), s)

/-- The lines of nodes. Nothing is laid out after a second extending that is certain. -/
def layOutAll (p : Place) (s : Stage) (last : Option Bool) : List Node → List Line × Stage
  | [] => ([], s)
  | node :: rest =>
      let (lines, next) := node.layOut p s last
      let last := match node with
        | .text _ => some true
        | .output e => some e.constant?.isSome
        | _ => none
      let stops := match node with
        | .extending _ => s.certain
        | _ => false
      if stops then (lines, next)
      else
        let (others, next) := layOutAll p next last rest
        (lines ++ others, next)

def layOutOthers (p : Place) (s : Stage) : List Node → List Line × Stage
  | [] => ([], s)
  | node :: _ => node.layOut p s none

end

/-- The lines in front of a template, and those in front of the nodes of each frame: its heading and
what is common to all frames. -/
def frontLines : List Line :=
  List.replicate 4 ⟨0, 0⟩ ++ List.replicate 5 ⟨1, 0⟩

/-- The lines of a page's own frame. -/
def pageLines (nodes : List Node) : List Line :=
  let bound := pageBinds nodes
  let frames := Frames.enter [] bound nodes
  let inheriting := inheritsIn nodes
  let p : Place := ⟨1, 0, frames, true, false, inheriting⟩
  let (lines, s) := layOutAll p ⟨false, false⟩ none nodes
  let parent := if !inheriting then [] else if s.certain then p.lines 1
    else p.lines 1 ++ p.deeper.lines 1
  frontLines ++ p.lines ((if inheriting then 1 else 0) + bound.length +
    frames.introducedCount bound + 1) ++ lines ++ parent

def blockLines (body : List Node) : List Line :=
  let bound := blockBinds body
  let frames := Frames.enter [] bound body
  let p : Place := ⟨1, 0, frames, false, false, false⟩
  let (lines, _) := layOutAll p ⟨false, false⟩ none body
  List.replicate 2 ⟨0, 0⟩ ++
    p.lines (5 + bound.length + 1 + frames.introducedCount bound + 1) ++ lines

def templateLines (nodes : List Node) : List Line :=
  pageLines nodes ++ (blocksIn nodes).flatMap fun (_, body) => blockLines body

def mostIndent : Nat := 99

def mostLoops : Nat := 20

def lineMessage (what file : String) (line : Nat) : String :=
  what ++ " (" ++ file ++ ", line " ++ toString line ++ ")"

/-- The fault of the lines of a file that go beyond a limit, if some do. Indentation is looked at
first. -/
def layoutFault? (file : String) (lines : List Line) : Option SourceFault :=
  match lines.findIdx? fun line => mostIndent < line.indent with
  | some i =>
      some (.raised "IndentationError" (lineMessage "too many levels of indentation" file (i + 1)))
  | none =>
      (lines.findIdx? fun line => mostLoops < line.loops).map fun i =>
        .raised "SyntaxError" (lineMessage "too many statically nested blocks" file (i + 1))

/-! Numbers that cannot be written -/

/-- The fault of a number with too many digits to be written into the prepared form. -/
def limitFault? (n : Number) : Option SourceFault :=
  n.limitFault?.map (.raised "ValueError")

mutual

def Datum.numberFault? : Datum → Option SourceFault
  | .value (.number n) => limitFault? n
  | .tuple items => Datum.firstNumberFault? items
  | _ => none

def Datum.firstNumberFault? : List Datum → Option SourceFault
  | [] => none
  | d :: rest => d.numberFault?.orElse fun _ => Datum.firstNumberFault? rest

end

mutual

/-- The fault of a number that an expression leaves to be written, once its constant parts are
computed. -/
def Expression.numberFault? (e : Expression) : Option SourceFault :=
  match e.constant? with
  | some d => d.numberFault?
  | none =>
      match e with
      | .tuple items => firstNumberFault? items
      | .member owner _ => owner.numberFault?
      | .element owner n => owner.numberFault?.orElse fun _ => limitFault? n
      | .call callee arguments => callee.numberFault?.orElse fun _ => firstNumberFault? arguments
      | .arithmetic _ a b => a.numberFault?.orElse fun _ => b.numberFault?
      | .comparison first others => first.numberFault?.orElse fun _ => firstOfComparisons? others
      | .negation e => e.numberFault?
      | .conjunction a b => a.numberFault?.orElse fun _ => b.numberFault?
      | .alternative a b => a.numberFault?.orElse fun _ => b.numberFault?
      | .choice test yes no =>
          test.numberFault?.orElse fun _ => yes.numberFault?.orElse fun _ => firstOfOption? no
      | .outside _ _ _ arguments => firstNumberFault? arguments
      | _ => none

def firstNumberFault? : List Expression → Option SourceFault
  | [] => none
  | e :: rest => e.numberFault?.orElse fun _ => firstNumberFault? rest

def firstOfComparisons? : List (Comparison × Expression) → Option SourceFault
  | [] => none
  | (_, e) :: rest => e.numberFault?.orElse fun _ => firstOfComparisons? rest

def firstOfOption? : Option Expression → Option SourceFault
  | none => none
  | some e => e.numberFault?

end

mutual

def Node.numberFault? : Node → Option SourceFault
  | .text _ => none
  | .output e => e.numberFault?
  | .choice test yes no _ =>
      test.numberFault?.orElse fun _ => (numberFaultIn? yes).orElse fun _ => numberFaultIn? no
  | .loop _ items body otherwise _ =>
      items.numberFault?.orElse fun _ => (numberFaultIn? body).orElse fun _ =>
        numberFaultIn? otherwise
  | .block _ body => numberFaultIn? body
  | .extending e => e.numberFault?
  | .including e _ _ => e.numberFault?

def numberFaultIn? : List Node → Option SourceFault
  | [] => none
  | node :: rest => node.numberFault?.orElse fun _ => numberFaultIn? rest

end

/-- The fault of preparing a template for rendering, if there is one. -/
def preparationFault? (file : String) (nodes : List Node) : Option SourceFault :=
  (numberFaultIn? nodes).orElse fun _ => layoutFault? file (templateLines nodes)

end PageServer.Template
