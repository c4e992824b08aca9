import PageServer.Template.Kind
import PageServer.Template.Language
import PageServer.Template.Node
import PageServer.Value.Format
/-! What expressions of templates stand for. A name that is bound to nothing, and an attribute that
is not there, are data of their own: they show as nothing and fail a condition, and only asking more
of them is a fault. Besides values there are the kinds of things, the request, and references to the
page, its blocks and the loops around. -/
namespace PageServer.Template

/-- A block as one template has it: its nodes, and whether outputs in it are escaped. -/
structure Block where
  body : List Node
  escapes : Bool

/-- The blocks in force. Of several with one name the one that replaces the others comes first. -/
abbrev BlockTable := List (String × Block)

/-- What a page is rendered in: the name of its template and whether outputs in that are escaped,
what names are bound to, the blocks in force, which of the names are entries of the model, and
whether these have to stay as they are. -/
structure Context (α : Type) where
  template : String
  escapes : Bool
  names : List (String × α)
  blocks : BlockTable
  entries : List String
  fixed : Bool

/-- What an expression stands for. Something that is not there says what keeps it from being used. A
kind may be given a key, a method belongs to a datum, and a block is the one at a level among those
of its name. -/
inductive Datum where
  | value (v : Value)
  | absent (message : String)
  | tuple (items : List Datum)
  | kind (k : Kind)
  | keyedKind (k : Kind) (key : Value)
  | function (name home : String)
  | method (owner : Datum) (name : String) (k : Kind)
  | markup (s : String)
  | request (facts : RequestFacts)
  | url (facts : RequestFacts)
  | template (context : Context Datum)
  | block (name : String) (level : Nat) (context : Context Datum)
  | loop (index : Nat) (items : List Datum)

/-- The blocks of a name, the one in force first. -/
def BlockTable.named (blocks : BlockTable) (name : String) : List Block :=
  (blocks.filter (·.1 = name)).map (·.2)

namespace Datum

def text (s : String) : Datum :=
  .value (.text s)

def whole (n : Int) : Datum :=
  .value (.number (.whole n))

def unbound (name : String) : Datum :=
  .absent (Text.quoted name ++ " is undefined")

/-- The datum of a block that replaces none. -/
def noParentBlock (name : String) : Datum :=
  .absent ("there is no parent block called " ++ Text.quoted name ++ ".")

def sort : Datum → Kind
  | value v => .ofValue v
  | absent _ => .undefined
  | tuple _ => .tuple
  | kind _ => .kind
  | keyedKind .. => .keyed
  | function .. => .function
  | method _ _ k => k
  | markup _ => .markup
  | request _ => .request
  | url _ => .url
  | template _ => .template
  | block .. => .block
  | loop .. => .loop

def kindName (d : Datum) : String :=
  d.sort.name

/-! Texts -/

mutual

def quoted : Datum → String
  | value v => v.quoted
  | absent _ => "Undefined"
  | tuple items =>
      "(" ++ ", ".intercalate (quotedItems items) ++ (if items.length = 1 then ",)" else ")")
  | kind k => k.shown
  | keyedKind k key => k.fullName ++ "[" ++ key.quoted ++ "]"
  | function name _ => "<function " ++ name ++ ">"
  | method _ name k => "<" ++ k.name ++ " '" ++ name ++ "'>"
  | markup s => "Markup(" ++ Text.quoted s ++ ")"
  | request _ => "<starlette.requests.Request object>"
  | url facts => "URL(" ++ Text.quoted facts.url ++ ")"
  | template c => "<TemplateReference " ++ Text.quoted c.template ++ ">"
  | block .. => "<jinja2.runtime.BlockReference object>"
  | loop index items =>
      "<LoopContext " ++ toString (index + 1) ++ "/" ++ toString items.length ++ ">"

def quotedItems : List Datum → List String
  | [] => []
  | d :: rest => d.quoted :: quotedItems rest

end

def shown (d : Datum) : String :=
  match d with
  | value v => v.shown
  | absent _ => ""
  | markup s => s
  | url facts => facts.url
  | d => d.quoted

def operand : Datum → Format.Operand
  | value v => .value v
  | markup s => .value (.text s)
  | absent message => .absent message
  | d => .thing ⟨d.kindName, d.shown, d.quoted, d.sort == .request || d.sort == .template⟩

def supply : Datum → Format.Supply
  | tuple items => .several (items.map operand)
  | d => .one d.operand

/-! Conditions and comparisons -/

def truthy : Datum → Bool
  | value v => v.truthy
  | absent _ => false
  | tuple items => !items.isEmpty
  | markup s => s ≠ ""
  | _ => true

mutual

/-- Whether two data are equal. All that is absent is equal; markup and a URL are equal to their
text; and each mention of a block is another reference. -/
def same (a b : Datum) : Bool :=
  match a, b with
  | value a, value b => a.same b
  | absent _, absent _ => true
  | tuple xs, tuple ys => sameItems xs ys
  | kind a, kind b => a == b
  | keyedKind a k, keyedKind b l => a == b && k.same l
  | function a _, function b _ => a == b
  | method a name _, method b other _ => name == other && same a b
  | request _, request _ => true
  | template _, template _ => true
  | loop .., loop .. => true
  | markup a, markup b => a == b
  | markup a, value v => (Value.text a).same v
  | value v, markup a => (Value.text a).same v
  | url a, url b => a.url == b.url
  | url a, value v => a.url == v.shown
  | value v, url a => a.url == v.shown
  | _, _ => false

def sameItems (xs ys : List Datum) : Bool :=
  match xs, ys with
  | [], [] => true
  | x :: xs, y :: ys => same x y && sameItems xs ys
  | _, _ => false

end

/-- The items that a loop over a datum takes: the items of a list, the characters of a text, the
keys of a dictionary; none of what is absent. -/
def items (d : Datum) : Except RenderFault (List Datum) :=
  match d with
  | value (.list vs) => .ok (vs.map .value)
  | value (.text s) => .ok (characters s)
  | value (.dict entries) => .ok (entries.map fun (key, _) => text key)
  | markup s => .ok (characters s)
  | tuple ds => .ok ds
  | absent _ => .ok []
  | template _ => .error (.raised "KeyError" "0")
  | d => .error (.ofKind d.kindName "is not iterable")
where
  characters (s : String) : List Datum :=
    s.toList.map fun c => text (String.singleton c)

/-- Whether a datum is in another one: an item of a list or a tuple, a part of a text, or a key of a
dictionary. -/
def within (item whole : Datum) : Except RenderFault Bool :=
  let part (s : String) : Except RenderFault Bool :=
    match item with
    | value (.text t) => .ok (isPart t.toList s.toList)
    | markup t => .ok (isPart t.toList s.toList)
    | item => .error (.raised "TypeError"
        ("'in <string>' requires string as left operand, not " ++ item.kindName))
  match whole with
  | value (.text s) => part s
  | markup s => part s
  | value (.dict entries) =>
      if item.sort.isChangeable then
        .error (.raised "TypeError" ("unhashable type: '" ++ item.kindName ++ "'"))
      else .ok (entries.any fun (key, _) => item.same (text key))
  | whole =>
      match whole.items with
      | .ok items => .ok (items.any item.same)
      | .error (.raised "KeyError" message) => .error (.raised "KeyError" message)
      | .error _ => .error (.raised "TypeError"
          ("argument of type '" ++ whole.kindName ++ "' is not iterable"))
where
  /-- Whether a text occurs in another one. -/
  isPart (s : List Char) : List Char → Bool
    | [] => s.isEmpty
    | c :: rest => s.isPrefixOf (c :: rest) || isPart s rest

end Datum

end PageServer.Template
