import PageServer.Template.Node
import PageServer.Text.Compatibility
/-! The names of a template's frames. The page, each block, and each round of a loop is a frame, and
so is what stands in for a loop without rounds. A frame introduces the names that it binds, and then
those that are mentioned in it and in no frame around it, in the order in which they are mentioned.
Names that are the same identifier share a place in their frame, and the last of them to be
introduced fills it. -/
namespace PageServer.Template

open Text

/-- The names of frames, the innermost frame first. -/
abbrev Frames := List (List String)

def Frames.holds (frames : Frames) (name : String) : Bool :=
  frames.any (·.contains name)

mutual

/-- The names that are mentioned in the frame of a node: not those inside loops and blocks. -/
def Node.mentions : Node → List String
  | .text _ => []
  | .output e => e.names
  | .choice test yes no _ => test.names ++ mentionsIn yes ++ mentionsIn no
  | .loop _ items _ _ _ => items.names
  | .block .. => []
  | .extending e => e.names
  | .including e _ _ => e.names

def mentionsIn : List Node → List String
  | [] => []
  | node :: rest => node.mentions ++ mentionsIn rest

end

def introduced (outer : Frames) (bound : List String) (nodes : List Node) : List String :=
  ((mentionsIn nodes).filter fun name => !outer.holds name && !bound.contains name).eraseDups

def Frames.enter (outer : Frames) (bound : List String) (nodes : List Node) : Frames :=
  (bound ++ introduced outer bound nodes) :: outer

def loopBinds (target : String) (counted : Bool) : List String :=
  if counted then [loopName, target] else [target]

def selfName : String := "self"

def superName : String := "super"

def pageBinds (nodes : List Node) : List String :=
  [selfName].filter (readsName · nodes)

def blockBinds (body : List Node) : List String :=
  [selfName, superName].filter (readsName · body)

def Frames.filling (frames : Frames) (name : String) : String :=
  match frames.find? (·.contains name) with
  | some frame => (frame.reverse.find? fun other => nameKey other == nameKey name).getD name
  | none => name

mutual

def Expression.settle (frames : Frames) : Expression → Expression
  | .name written _ => .name written (frames.filling written)
  | .literal v => .literal v
  | .tuple items => .tuple (settleExpressions frames items)
  | .member owner s => .member (owner.settle frames) s
  | .element owner n => .element (owner.settle frames) n
  | .call callee arguments => .call (callee.settle frames) (settleExpressions frames arguments)
  | .arithmetic op a b => .arithmetic op (a.settle frames) (b.settle frames)
  | .comparison first others => .comparison (first.settle frames) (settleComparisons frames others)
  | .negation e => .negation (e.settle frames)
  | .conjunction a b => .conjunction (a.settle frames) (b.settle frames)
  | .alternative a b => .alternative (a.settle frames) (b.settle frames)
  | .choice test yes no => .choice (test.settle frames) (yes.settle frames) (settleOption frames no)
  | .outside way written _ arguments =>
      .outside way written (frames.filling written) (settleExpressions frames arguments)

def settleExpressions (frames : Frames) : List Expression → List Expression
  | [] => []
  | e :: rest => e.settle frames :: settleExpressions frames rest

def settleComparisons (frames : Frames) :
    List (Comparison × Expression) → List (Comparison × Expression)
  | [] => []
  | (c, e) :: rest => (c, e.settle frames) :: settleComparisons frames rest

def settleOption (frames : Frames) : Option Expression → Option Expression
  | none => none
  | some e => some (e.settle frames)

end

mutual

def Node.settle (frames : Frames) : Node → Node
  | .text s => .text s
  | .output e => .output (e.settle frames)
  | .choice test yes no goesOn =>
      .choice (test.settle frames) (settleNodes frames yes) (settleNodes frames no) goesOn
  | .loop target items body otherwise counted =>
      .loop target (items.settle frames)
        (settleNodes (frames.enter (loopBinds target counted) body) body)
        (settleNodes (frames.enter [] otherwise) otherwise) counted
  | .block name body => .block name (settleNodes (Frames.enter [] (blockBinds body) body) body)
  | .extending e => .extending (e.settle frames)
  | .including e ifThere alone => .including (e.settle frames) ifThere alone

def settleNodes (frames : Frames) : List Node → List Node
  | [] => []
  | node :: rest => node.settle frames :: settleNodes frames rest

end

def settlePage (nodes : List Node) : List Node :=
  settleNodes (Frames.enter [] (pageBinds nodes) nodes) nodes

end PageServer.Template
