import PageServer.Template.Expression
/-! The tree of a template, as it is read from tokens. -/
namespace PageServer.Template

/-- A part of a template. A condition may go on with another one in place of its other branch. A
loop may count its rounds, which its body then can see. A page may be included if it is there, and
without the names around it. -/
inductive Node where
  | text (s : List Char)
  | output (e : Expression)
  | choice (test : Expression) (yes no : List Node) (goesOn : Bool)
  | loop (target : String) (items : Expression) (body otherwise : List Node) (counted : Bool)
  | block (name : String) (body : List Node)
  | extending (parent : Expression)
  | including (other : Expression) (ifThere alone : Bool)

/-! Mentions of names -/

/-- What is first done with a name: it is read, or it is bound. -/
inductive Mention where
  | reads
  | binds
  deriving DecidableEq, Repr

def Expression.mention? (name : String) (e : Expression) : Option Mention :=
  if e.names.contains name then some .reads else none

mutual

/-- What a node first does with a name. Blocks are looked at on their own. -/
def Node.mention? (name : String) : Node → Option Mention
  | .text _ => none
  | .output e => e.mention? name
  | .choice test yes no _ =>
      (test.mention? name).orElse fun _ => (mentionIn? name yes).orElse fun _ => mentionIn? name no
  | .loop target items body otherwise _ =>
      (if target = name then some .binds else items.mention? name).orElse fun _ =>
        (mentionIn? name body).orElse fun _ => mentionIn? name otherwise
  | .block .. => none
  | .extending e => e.mention? name
  | .including e _ _ => e.mention? name

def mentionIn? (name : String) : List Node → Option Mention
  | [] => none
  | node :: rest => (node.mention? name).orElse fun _ => mentionIn? name rest

end

def readsName (name : String) (nodes : List Node) : Bool :=
  mentionIn? name nodes == some .reads

/-! Reading -/

def closingWords : List String :=
  ["elif", "else", "endif", "endfor", "endblock"]

/-- Tags that are not followed. -/
def furtherTags : List String :=
  ["set", "macro", "raw", "with", "import", "from", "call", "filter", "autoescape"]

def loopName : String := "loop"

/-- The variable of a loop: any name but a literal's and the one set aside for the loop itself. -/
def isLoopVariable (s : String) : Bool :=
  (literalWord? s).isNone && s != loopName

def expectTagEnd : List Token → Except SourceFault (List Token)
  | .tagEnd :: rest => .ok rest
  | ts => unexpected ts

/-- The tokens after the end of a tag that nodes follow; a colon may stand before it. -/
def expectBodyStart (ts : List Token) : Except SourceFault (List Token) :=
  expectTagEnd ((afterSign? .colon ts).getD ts)

/-- The tokens after the start of a closing tag and its word, which has to be one of some words, and
that word. -/
def expectClosing (words : List String) : List Token → Except SourceFault (String × List Token)
  | .tagStart :: .name word :: rest =>
      if words.contains word then .ok (word, rest) else .error .badSyntax
  | .tagStart :: ts => unexpected ts
  | ts => unexpected ts

/-- What is said after the name of an included page: whether it may be missing, and whether it is
rendered without the names around it. -/
def readIncludeWords (ts : List Token) : Bool × Bool × List Token :=
  let (ifThere, ts) := match ts with
    | .name "ignore" :: .name "missing" :: rest => (true, rest)
    | ts => (false, ts)
  match ts with
  | .name "with" :: .name "context" :: rest => (ifThere, false, rest)
  | .name "without" :: .name "context" :: rest => (ifThere, true, rest)
  | ts => (ifThere, false, ts)

mutual

/-- The nodes up to a tag that ends them or to the end; `fuel` bounds the depth. -/
def readNodes : Nat → List Token → Except SourceFault (List Node × List Token)
  | 0, _ => .error .badSyntax
  | _ + 1, [] => .ok ([], [])
  | fuel + 1, .data s :: rest => do
      let (nodes, rest) ← readNodes fuel rest
      return (.text s :: nodes, rest)
  | fuel + 1, .outputStart :: ts => do
      let (e, ts) ← readTuple (depthFor ts) true false ts
      match ts with
      | .outputEnd :: rest => do
          let (nodes, rest) ← readNodes fuel rest
          return (.output e :: nodes, rest)
      | ts => unexpected ts
  | fuel + 1, .tagStart :: .name word :: ts =>
      if closingWords.contains word then .ok ([], .tagStart :: .name word :: ts)
      else do
        let (node, ts) ← readTag fuel word ts
        let rest ← expectTagEnd ts
        let (nodes, rest) ← readNodes fuel rest
        return (node :: nodes, rest)
  | _ + 1, .tagStart :: ts => unexpected ts
  | _ + 1, ts => unexpected ts

/-- The node that a tag begins, from the tokens after the tag's name up to the end of the last tag
that belongs to it. -/
def readTag : Nat → String → List Token → Except SourceFault (Node × List Token)
  | 0, _, _ => .error .badSyntax
  | fuel + 1, "if", ts => readChoice fuel ts
  | fuel + 1, "for", .name target :: .name "in" :: ts => do
      let (items, ts) ← readTuple (depthFor ts) false false ts
      let ts ← expectBodyStart ts
      let (body, ts) ← readNodes fuel ts
      let (word, ts) ← expectClosing ["else", "endfor"] ts
      let (otherwise, ts) ←
        if word = "endfor" then pure ([], ts)
        else do
          let ts ← expectBodyStart ts
          let (otherwise, ts) ← readNodes fuel ts
          let (_, ts) ← expectClosing ["endfor"] ts
          pure (otherwise, ts)
      if isLoopVariable target then
        return (.loop target items body otherwise (readsName loopName body), ts)
      else throw .badSyntax
  | fuel + 1, "block", .name name :: ts => do
      let ts ← expectBodyStart ts
      let (body, ts) ← readNodes fuel ts
      let (_, ts) ← expectClosing ["endblock"] ts
      return (.block name body, (afterWord? name ts).getD ts)
  | _ + 1, "extends", ts => do
      let (e, ts) ← readExpression (depthFor ts) ts
      return (.extending e, ts)
  | _ + 1, "include", ts => do
      let (e, ts) ← readExpression (depthFor ts) ts
      let (ifThere, alone, ts) := readIncludeWords ts
      return (.including e ifThere alone, ts)
  | _ + 1, "for", .name _ :: .sign .comma :: _ => .error (.ofFurther "unpacking")
  | _ + 1, "for", .name _ :: ts => unexpected ts
  | _ + 1, "for", ts => unexpected ts
  | _ + 1, "block", ts => unexpected ts
  | _ + 1, word, _ =>
      .error (if furtherTags.contains word then .ofFurther word else .badSyntax)

def readChoice : Nat → List Token → Except SourceFault (Node × List Token)
  | 0, _ => .error .badSyntax
  | fuel + 1, ts => do
      let (test, ts) ← readTuple (depthFor ts) false false ts
      let ts ← expectBodyStart ts
      let (yes, ts) ← readNodes fuel ts
      match ← expectClosing ["elif", "else", "endif"] ts with
      | ("elif", ts) => do
          let (other, ts) ← readChoice fuel ts
          return (.choice test yes [other] true, ts)
      | ("else", ts) => do
          let ts ← expectBodyStart ts
          let (no, ts) ← readNodes fuel ts
          let (_, ts) ← expectClosing ["endif"] ts
          return (.choice test yes no false, ts)
      | (_, ts) => return (.choice test yes [] false, ts)

end

/-! Blocks and extending -/

mutual

def Node.blocks : Node → List (String × List Node)
  | .choice _ yes no _ => blocksIn yes ++ blocksIn no
  | .loop _ _ body otherwise _ => blocksIn body ++ blocksIn otherwise
  | .block name body => (name, body) :: blocksIn body
  | _ => []

def blocksIn : List Node → List (String × List Node)
  | [] => []
  | node :: rest => node.blocks ++ blocksIn rest

end

mutual

/-- Whether a node extends another template only where that is allowed: not inside a loop or a
block. -/
def Node.extendsOnTop (onTop : Bool) : Node → Bool
  | .choice _ yes no _ => allExtendOnTop onTop yes && allExtendOnTop onTop no
  | .loop _ _ body otherwise _ => allExtendOnTop false body && allExtendOnTop false otherwise
  | .block _ body => allExtendOnTop false body
  | .extending _ => onTop
  | _ => true

def allExtendOnTop (onTop : Bool) : List Node → Bool
  | [] => true
  | node :: rest => node.extendsOnTop onTop && allExtendOnTop onTop rest

end

mutual

def Node.inherits : Node → Bool
  | .choice _ yes no _ => inheritsIn yes || inheritsIn no
  | .loop _ _ body otherwise _ => inheritsIn body || inheritsIn otherwise
  | .block _ body => inheritsIn body
  | .extending _ => true
  | _ => false

def inheritsIn : List Node → Bool
  | [] => false
  | node :: rest => node.inherits || inheritsIn rest

end

/-- The nodes of a source. No two blocks have one name, and another template is extended only at the
top level, where conditions may stand around it. -/
def readTemplate (source : List Char) : Except SourceFault (List Node) := do
  let ts := tokens source
  let (nodes, rest) ← readNodes (4 * ts.length + 4) ts
  let names := (blocksIn nodes).map (·.1)
  if !rest.isEmpty then throw .badSyntax
  else if names.eraseDups.length ≠ names.length || !allExtendOnTop true nodes then throw .badSyntax
  else return nodes

end PageServer.Template
