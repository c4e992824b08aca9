import PageServer.Template.Effects
/-! Rendering. A page's nodes are rendered in order. When a page extends another, its own texts and
outputs are silent from there on, and the other page is rendered after it; every block is then
rendered as the outermost extending page has it. Loops are silent as their page is, but blocks and
included pages inside loops are not.

Rendering a block or another page is a jump, and the depth of jumps is bounded. `Jumps` is what a
node may do with the depth that is left; so the rendering of nodes is recursion on the nodes
alone. -/
namespace PageServer.Template

/-- What a node may jump to: the block at a level among those of a name, and a page in a context. -/
structure Jumps (m : Type → Type) where
  block : Context Datum → String → Nat → m (List Char)
  page : Context Datum → Page → m (List Char)

/-- Where nodes stand: the context of the page, what the frames around bind, whether outputs are
escaped, and whether the page is silent. -/
structure Surroundings where
  context : Context Datum
  bound : Bindings
  escapes : Bool
  silent : Bool

def Surroundings.bindings (s : Surroundings) : Bindings :=
  s.bound ++ s.context.names

/-- The entries of the model that no frame around hides. -/
def Surroundings.entries (s : Surroundings) : List String :=
  s.context.entries.filter fun name => (s.bound.lookup name).isNone

def outputText (escapes : Bool) (d : Datum) : List Char :=
  match d with
  | .markup s => s.toList
  | d => if escapes then d.shown.toList.flatMap escapeChar else d.shown.toList

/-- What a call takes besides the thing itself, where it takes another number of arguments. -/
def argumentFault (callable : String) (taken given : Nat) : RenderFault :=
  .raised "TypeError" (callable ++ ".__call__() takes " ++ toString (taken + 1) ++
    (if taken = 0 then " positional argument" else " positional arguments") ++ " but " ++
    toString (given + 1) ++ " were given")

/-- Why a call of something that is no block fails. Methods, functions and kinds could be called,
but that is not followed. -/
def callFault (d : Datum) (arguments : List Datum) : RenderFault :=
  match d, arguments with
  | .absent message, _ => .undefined message
  | .loop .., [] => .raised "TypeError"
      "LoopContext.__call__() missing 1 required positional argument: 'iterable'"
  | .loop .., [_] => .raised "TypeError"
      "The loop must have the 'recursive' marker to be called recursively."
  | .loop .., _ => argumentFault "LoopContext" 1 arguments.length
  | .block .., _ => argumentFault "BlockReference" 0 arguments.length
  | .method .., _ => .beyond "calls of methods are not followed"
  | .function name _, _ => .beyond ("calls of " ++ name ++ " are not followed")
  | .kind k, _ => .beyond ("calls of " ++ k.name ++ " are not followed")
  | .keyedKind k _, _ => .beyond ("calls of " ++ k.name ++ " are not followed")
  | d, _ => .ofKind d.kindName "is not callable"

/-! Templates that data name -/

/-- Why a datum names no template. -/
def namelessFault : Datum → RenderFault
  | .absent message => .undefined message
  | .kind k => .raised "AttributeError" ("type object '" ++ k.name ++ "' has no attribute 'split'")
  | d =>
      if d.sort.isChangeable || d.sort == .url then
        .raised "TypeError" ("unhashable type: '" ++ d.kindName ++ "'")
      else .raised "AttributeError" ("'" ++ d.kindName ++ "' object has no attribute 'split'")

def templateName (d : Datum) : Except RenderFault String :=
  match d with
  | .value (.text s) => .ok s
  | .markup s => .ok s
  | d => .error (namelessFault d)

/-- The fault where none of several templates is there. Where the names are no row, the last of them
cannot be told. -/
def noneFoundFault (names : Datum) (tried : List Datum) : RenderFault :=
  let wordOf : Datum → String
    | .absent message => message
    | d => d.shown
  if names.sort == .dict || names.sort == .request then .raised "KeyError" "-1"
  else .noneFound ("none of the templates given were found: " ++
    ", ".intercalate (tried.map wordOf))

section

variable {m : Type → Type} [Monad m] (effects : Effects m)

/-- The first template that is there, or why there is none. -/
def firstPage (names : Datum) (tried : List Datum) : List Datum → m (Except RenderFault Page)
  | [] => pure (.error (noneFoundFault names tried))
  | d :: rest => do
      let outcome ← match templateName d with
        | .ok name => effects.fetch name
        | .error fault => pure (.error fault)
      match outcome with
      | .error (.notFound _) => firstPage names tried rest
      | .error (.undefined _) => firstPage names tried rest
      | outcome => return outcome

/-- The template that a datum names, or the first one that is there of several, or why there is
none. -/
def selectPage (d : Datum) : m (Except RenderFault Page) :=
  match d with
  | .value (.text s) => effects.fetch s
  | .markup s => effects.fetch s
  | .absent message => pure (.error (.undefined message))
  | .request _ => pure (.error (noneFoundFault d []))
  | d =>
      if !d.truthy then
        pure (.error (.noneFound "Tried to select from an empty list of templates."))
      else match d.items with
        | .ok names => firstPage effects d names names
        | .error fault => pure (.error fault)

/-! Nodes -/

variable (jumps : Jumps m)

/-- The outcome of a call: a reference to a block renders it. The model stays as it is meanwhile,
since what is computed around the call may hold parts of it. -/
def callDatum (d : Datum) (arguments : List Datum) : m Datum :=
  match d, arguments with
  | .block name level c, [] => do
      let s ← jumps.block { c with fixed := true } name level
      return if c.escapes then .markup (String.ofList s) else .text (String.ofList s)
  | d, arguments => effects.lift (.error (callFault d arguments))

/-- What a name is bound to. An entry of the model may have another value by now. -/
def Surroundings.find (s : Surroundings) (name : String) : m (Option Datum) :=
  match s.bound.lookup name with
  | some d => pure (some d)
  | none =>
      if s.context.entries.contains name then do
        let edited ← effects.retrieve name
        return (edited.map Datum.value).or (s.context.names.lookup name)
      else pure (s.context.names.lookup name)

def outsideDatum (way : Way) (d : Datum) (arguments : List Datum) : m Datum :=
  match way, arguments with
  | .document, _ => do
      let outside ← effects.look
      return .value (outside.document.getD .none)
  | .fileExists, [.value (.text path)] => do
      let outside ← effects.look
      return .value (.bool (outside.tree.find path.toList).isOk)
  | .fileExists, _ => effects.lift
    (.error (.beyond ("such calls of " ++ d.shown ++ " are not followed")))

def Surroundings.scope (s : Surroundings) : Scope m :=
  ⟨effects.lift, s.find effects, outsideDatum effects, callDatum effects jumps⟩

def Expression.emptied? : Expression → Option String
  | .call (.member (.name _ identifier) "clear") [] => some identifier
  | _ => none

/-- The entry of the model that an output empties, and its value afterwards. Inside loops and calls
the model stays as it is. -/
def Surroundings.emptied? (s : Surroundings) (e : Expression) : Option (String × Value) :=
  if s.context.fixed then none
  else do
    let name ← e.emptied?
    if s.entries.contains name then
      match s.context.names.lookup name with
      | some (.value (.list _)) => some (name, .list [])
      | some (.value (.dict _)) => some (name, .dict [])
      | _ => none
    else none

def roundBindings (target : String) (counted : Bool) (items : List Datum) (index : Nat)
    (item : Datum) : Bindings :=
  (target, item) :: (if counted then [(loopName, .loop index items)] else [])

def Surroundings.round (s : Surroundings) (target : String) (counted : Bool) (data : List Datum)
    (entry : Datum × Nat) : Surroundings :=
  { s with
    context := { s.context with fixed := true }
    bound := roundBindings target counted data entry.2 entry.1 ++ s.bound }

/-- The context of an included page. On its own it has only the names that all pages have. -/
def Surroundings.contextOf (s : Surroundings) (common : Bindings) (alone : Bool) (page : Page) :
    Context Datum :=
  { template := page.name
    escapes := page.escapes
    names := if alone then common else s.bindings
    blocks := page.blocks
    entries := if alone then [] else s.entries
    fixed := s.context.fixed }

variable (common : Bindings)

mutual

/-- The text of a node that does not extend. -/
def Node.render (s : Surroundings) : Node → m (List Char)
  | .text t => pure (if s.silent then [] else t)
  | .output e =>
      if s.silent then pure []
      else match s.emptied? e with
        | some (key, v) => do
            effects.edit key v
            return outputText s.escapes (.value .none)
        | none => do
            let d ← e.eval (s.scope effects jumps)
            return outputText s.escapes d
  | .choice test yes no _ => do
      let d ← test.eval (s.scope effects jumps)
      if d.truthy then renderAll s yes else renderAll s no
  | .loop target items body otherwise counted => do
      let d ← items.eval (s.scope effects jumps)
      let data ← effects.lift d.items
      if data.isEmpty then renderAll s otherwise
      else
        let texts ← data.zipIdx.mapM fun entry =>
          renderAll (s.round target counted data entry) body
        return texts.flatten
  | .block name _ => jumps.block s.context name 0
  | .extending _ => pure []
  | .including e ifThere alone => do
      let d ← e.eval (s.scope effects jumps)
      let selected ← selectPage effects d
      match selected with
      | .ok page => jumps.page (s.contextOf common alone page) page
      | .error fault =>
          if ifThere && fault.isAbsence then return [] else effects.lift (.error fault)

/-- The text of nodes that do not extend. -/
def renderAll (s : Surroundings) : List Node → m (List Char)
  | [] => pure []
  | node :: rest => do
      let t ← node.render s
      let others ← renderAll s rest
      return t ++ others

end

/-- How far the rendering of a page has come: its text, the page it extends, and its context. -/
structure Progress where
  text : List Char
  parent : Option Page
  context : Context Datum

/-- What the frame of a page binds: itself, if it reads that. -/
def selfBindings (nodes : List Node) (c : Context Datum) : Bindings :=
  if readsName selfName nodes then [(selfName, .template c)] else []

def Progress.surroundings (p : Progress) (page : Page) : Surroundings :=
  ⟨p.context, selfBindings page.nodes p.context, page.escapes, p.parent.isSome⟩

mutual

def Node.advance (page : Page) (p : Progress) : Node → m Progress
  | .choice test yes no _ => do
      let d ← test.eval ((p.surroundings page).scope effects jumps)
      if d.truthy then advanceAll page p yes else advanceAll page p no
  | .extending e =>
      if p.parent.isSome then effects.lift (.error .extendedTwice)
      else do
        let d ← e.eval ((p.surroundings page).scope effects jumps)
        let name ← effects.lift (templateName d)
        let fetched ← effects.fetch name
        let parent ← effects.lift fetched
        return { p with
          parent := some parent
          context := { p.context with blocks := p.context.blocks ++ parent.blocks } }
  | .block name body =>
      if p.parent.isSome then pure p
      else do
        let t ← (Node.block name body).render effects jumps common (p.surroundings page)
        return { p with text := p.text ++ t }
  | node => do
      let t ← node.render effects jumps common (p.surroundings page)
      return { p with text := p.text ++ t }

def advanceAll (page : Page) (p : Progress) : List Node → m Progress
  | [] => pure p
  | node :: rest => do
      let p ← node.advance page p
      advanceAll page p rest

end

/-- What the frame of a block binds: the page, and the block that this one replaces, if it reads
them. -/
def blockBindings (name : String) (level : Nat) (body : List Node) (c : Context Datum) : Bindings :=
  selfBindings body c ++
    (if readsName superName body then [(superName, Datum.parentBlock c name level)] else [])

end

section

variable {m : Type → Type} [Monad m] (effects : Effects m)

/-- What comes of a page at its end: the page that it extends is rendered behind it. -/
def Progress.finish (jumps : Jumps m) (p : Progress) : m (List Char) :=
  match p.parent with
  | some parent => do
      let t ← jumps.page p.context parent
      return p.text ++ t
  | none => pure p.text

def jumpsOf (common : Bindings) : Nat → Jumps m
  | 0 => ⟨fun _ _ _ => effects.lift (.error .tooDeep), fun _ _ => effects.lift (.error .tooDeep)⟩
  | depth + 1 =>
      let inner := jumpsOf common depth
      { block := fun c name level =>
          match (c.blocks.named name)[level]? with
          | some b =>
              renderAll effects inner common
                ⟨c, blockBindings name level b.body c, b.escapes, false⟩ b.body
          | none => pure []
        page := fun c page => do
          let p ← advanceAll effects inner common page ⟨[], none, c⟩ page.nodes
          p.finish inner }

/-- The depth of jumps that is followed. -/
def mostJumps : Nat := 400

def commonNames : Bindings :=
  [("range", .kind .range), ("dict", .kind .dict), ("lipsum", .function "generate_lorem_ipsum"
    "jinja2.utils"), ("cycler", .kind .cycler), ("joiner", .kind .joiner),
    ("namespace", .kind .space), ("url_for", .function "url_for" "starlette.templating")]

/-- What the names in a page stand for: the entries of a model, and besides them the request, unless
the model has an entry of that name. -/
def bindingsOf (model : Entries) (facts : RequestFacts) : Bindings :=
  (model.map fun (name, v) => (name, Datum.value v)) ++ [("request", .request facts)]

/-- Where a page starts. Names that all pages have come last. -/
def Page.context (model : Entries) (facts : RequestFacts) (page : Page) : Context Datum :=
  { template := page.name
    escapes := page.escapes
    names := bindingsOf model facts ++ commonNames
    blocks := page.blocks
    entries := model.map (·.1)
    fixed := false }

def Page.render (model : Entries) (facts : RequestFacts) (page : Page) : m (List Char) :=
  (jumpsOf effects commonNames mostJumps).page (page.context model facts) page

end

/-! The language -/

def Markup.ofText (s : List Char) : Markup :=
  match Text.encodingFault? s with
  | some message => .halved message
  | none => .whole (String.ofList s)

def Language.standard : Language where
  fault? name source :=
    match prepare name source with
    | .ok _ => none
    | .error fault => some fault
  render name source model facts := do
    let page ← Work.ofExcept ((prepare name source).mapError .ofSource)
    let s ← page.render Effects.ofWork model facts
    return .ofText s

end PageServer.Template
