import PageServer.Template.Datum
/-! Attributes and elements of data. An attribute is one that the kind of a datum gives it, or else
an entry under that name. An element has a number. What is not there can still be mentioned. -/
namespace PageServer.Template.Datum

/-- A text that may be missing. -/
def optionalText (s : Option String) : Datum :=
  match s with
  | some s => text s
  | none => .value .none

/-- The attributes that every datum has: its kind, what is written about that, the hash that data
which can change are without, and methods. -/
def commonAttribute? (d : Datum) (name : String) : Option Datum :=
  if name = "__class__" then some (.kind d.sort)
  else if name = "__doc__" then some (optionalText d.sort.description?)
  else if name = "__hash__" && d.sort.isChangeable then some (.value .none)
  else (d.sort.methodKind? name).map fun k => .method d name k

def numberAttribute? (n : Number) (name : String) : Option Datum :=
  let number (n : Number) : Option Datum := some (.value (.number n))
  match n, name with
  | n, "real" => number n
  | .whole _, "imag" => number (.whole 0)
  | .real _, "imag" => number (.real 0)
  | .whole n, "numerator" => number (.whole n)
  | .whole _, "denominator" => number (.whole 1)
  | _, _ => none

/-- The attributes of a kind: its names, the kinds above it, and the methods of things of the
kind. -/
def kindAttribute? (k : Kind) (name : String) : Option Datum :=
  match name with
  | "__name__" => some (text k.name)
  | "__qualname__" => some (text k.name)
  | "__module__" => some (text k.home)
  | "__doc__" => some (optionalText k.description?)
  | "__mro__" => some (.tuple ((k :: k.above).map .kind))
  | "__bases__" => some (.tuple ((k.above.take 1).map .kind))
  | "__base__" => some ((k.above.head?.map Datum.kind).getD (.value .none))
  | "__hash__" => if k.isChangeable then some (.value .none) else own
  | _ => own
where
  own : Option Datum :=
    (k.methodKind? name).map fun _ => .method (.kind k) name .descriptor

/-- The attributes of a method: its names, and the datum that it belongs to. -/
def methodAttribute? (owner : Datum) (method name : String) : Option Datum :=
  match name with
  | "__name__" => some (text method)
  | "__qualname__" => some (text (owner.sort.name ++ "." ++ method))
  | "__self__" => some owner
  | "__module__" => some (.value .none)
  | _ => none

def functionAttribute? (function home name : String) : Option Datum :=
  match name with
  | "__name__" => some (text function)
  | "__qualname__" => some (text function)
  | "__module__" => some (text home)
  | _ => none

def loopAttribute? (index : Nat) (items : List Datum) (name : String) : Option Datum :=
  let length := items.length
  match name with
  | "index" => some (whole (index + 1))
  | "index0" => some (whole index)
  | "revindex" => some (whole (length - index : Nat))
  | "revindex0" => some (whole (length - index - 1 : Nat))
  | "first" => some (.value (.bool (index == 0)))
  | "last" => some (.value (.bool (index + 1 == length)))
  | "length" => some (whole length)
  | "depth" => some (whole 1)
  | "depth0" => some (whole 0)
  | "previtem" =>
      some (if index = 0 then .absent "there is no previous item"
        else items[index - 1]?.getD (.absent "there is no previous item"))
  | "nextitem" => some (items[index + 1]?.getD (.absent "there is no next item"))
  | "cycle" => some (.method (.loop index items) name .method)
  | "changed" => some (.method (.loop index items) name .method)
  | _ => none

def parentBlock (c : Context Datum) (name : String) (level : Nat) : Datum :=
  if level + 1 < (c.blocks.named name).length then .block name (level + 1) c else noParentBlock name

/-- The attributes that only data of one kind have. -/
def ownAttribute? (d : Datum) (name : String) : Option Datum :=
  match d with
  | value v => v.number?.bind fun n => numberAttribute? n name
  | kind k => kindAttribute? k name
  | method owner owned _ => methodAttribute? owner owned name
  | function called home => functionAttribute? called home name
  | request facts =>
      if name = "url" then some (.url facts) else (facts.others.lookup name).map .value
  | url facts => (facts.urlParts.lookup name).map .value
  | block replaced level c =>
      if name = "name" then some (text replaced)
      else if name = "super" then some (parentBlock c replaced level)
      else none
  | loop index items => loopAttribute? index items name
  | _ => none

/-- The entry of a datum under a name: that of a dictionary, and a block of the page. A kind whose
things hold others can be given any key. -/
def entry? (d : Datum) (name : String) : Option Datum :=
  match d with
  | value (.dict entries) => (entries.lookup name).map .value
  | template c => if (c.blocks.named name).isEmpty then none else some (.block name 0 c)
  | kind k => if holdsOthers k then some (.keyedKind k (.text name)) else none
  | _ => none
where
  holdsOthers (k : Kind) : Bool :=
    k == .dict || k == .list || k == .tuple || k == .kind

/-- What a request has only where a further layer of the service provides it: an attribute, and the
name of that layer. -/
def furtherAttributes : List (String × String) :=
  [("session", "SessionMiddleware"), ("auth", "AuthenticationMiddleware"),
   ("user", "AuthenticationMiddleware")]

def furtherFault? (d : Datum) (name : String) : Option RenderFault :=
  match d with
  | request _ => (furtherAttributes.lookup name).map fun layer =>
      .raised "AssertionError" (layer ++ " must be installed to access request." ++ name)
  | _ => none

/-- Attributes of things of a kind that are not followed, besides those whose names start with an
underscore. -/
def furtherNames : Kind → List String
  | .request => Kind.wordsOf
      ["app base_url body close cookies form get is_disconnected items json keys query_params",
       "receive scope send_push_promise state stream url_for values"]
  | .url => Kind.wordsOf
      ["components include_query_params remove_query_params replace replace_query_params"]
  | .markup => ["escape", "striptags", "unescape"]
  | .function => ["jinja_pass_arg"]
  | .range => ["count", "index", "start", "step", "stop"]
  | .cycler => ["current", "next", "reset"]
  | _ => []

/-- Whether a datum may have an attribute that is not followed. -/
def hasFurther (d : Datum) (name : String) : Bool :=
  let hidden := name.toList.head? == some '_'
  match d with
  | value _ => false
  | tuple _ => false
  | kind k => hidden || (furtherNames k).contains name
  | keyedKind k _ => hidden || (k.methodKind? name).isSome
  | d => hidden || (furtherNames d.sort).contains name

def member (d : Datum) (name : String) : Except RenderFault Datum :=
  match d with
  | absent message =>
      if name = "__class__" then .ok (.kind .undefined)
      else if name = "__module__" then .ok (text Kind.undefined.home)
      else .error (.undefined message)
  | d =>
      match furtherFault? d name with
      | some fault => .error fault
      | none =>
          let found := (ownAttribute? d name).orElse fun _ =>
            (commonAttribute? d name).orElse fun _ => entry? d name
          match found with
          | some datum => .ok datum
          | none =>
              if hasFurther d name then .error (.beyond (name ++ " is not followed"))
              else .ok (.absent
                (Text.quoted d.sort.owner ++ " has no attribute " ++ Text.quoted name))

/-- The element of a datum that has a number. Elements are counted from 0. -/
def element (d : Datum) (n : Number) : Except RenderFault Datum :=
  let index := (n.truncated?.getD 0).toNat
  let found : Option Datum := match d with
    | value (.list vs) => vs[index]?.map .value
    | value (.text s) => s.toList[index]?.map fun c => text (String.singleton c)
    | markup s => s.toList[index]?.map fun c => .markup (String.singleton c)
    | tuple ds => ds[index]?
    | kind k => if entry?.holdsOthers k then some (.keyedKind k (.number n)) else none
    | _ => none
  match d with
  | absent message => .error (.undefined message)
  | d => .ok (found.getD (.absent (d.sort.owner ++ " has no element " ++ n.text)))

end PageServer.Template.Datum
