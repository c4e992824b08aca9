import PageServer.Number
import PageServer.Text.Quoted
/-! Values of models and of error contexts, and their texts. `Value.shown` is the text that a page
shows, and `Value.quoted` is the form inside a list or a dictionary, where texts stand in quotes.
Equality looks through the kinds of numbers and through the order of dictionary entries. -/
namespace PageServer

/-- A value: nothing, a truth value, a number, a text, a list, or a dictionary whose entries keep
the order in which they were made. -/
inductive Value where
  | none
  | bool (b : Bool)
  | number (n : Number)
  | text (s : String)
  | list (items : List Value)
  | dict (entries : List (String × Value))
  deriving Inhabited

/-- The entries of a dictionary, in order. -/
abbrev Entries := List (String × Value)

namespace Entries

def get? (entries : Entries) (key : String) : Option Value :=
  List.lookup key entries

/-- The entries with a key set: an entry that is there keeps its place, a new one goes last. -/
def set (entries : Entries) (key : String) (value : Value) : Entries :=
  match entries with
  | [] => [(key, value)]
  | (k, v) :: rest => if k = key then (key, value) :: rest else (k, v) :: set rest key value

/-- The entries with a key set unless it is there. -/
def setDefault (entries : Entries) (key : String) (value : Value) : Entries :=
  if (get? entries key).isSome then entries else entries ++ [(key, value)]

end Entries

namespace Value

def kind : Value → String
  | .none => "NoneType"
  | .bool _ => "bool"
  | .number (.whole _) => "int"
  | .number (.real _) => "float"
  | .text _ => "str"
  | .list _ => "list"
  | .dict _ => "dict"

/-- Why entries cannot be put into a value that is no dictionary. -/
def assignmentFault (v : Value) : String :=
  match v with
  | .list _ => "list indices must be integers or slices, not str"
  | v => "'" ++ v.kind ++ "' object does not support item assignment"

/-- The number a value counts as; truth values count as 1 and 0. -/
def number? : Value → Option Number
  | .bool b => some (.whole (if b then 1 else 0))
  | .number n => some n
  | _ => Option.none

/-- Whether a condition on the value holds: nothing, zero and what is empty fail it. -/
def truthy : Value → Bool
  | .none => false
  | .bool b => b
  | .number n => !n.isZero
  | .text s => s ≠ ""
  | .list items => !items.isEmpty
  | .dict entries => !entries.isEmpty

mutual

def quoted : Value → String
  | .none => "None"
  | .bool b => if b then "True" else "False"
  | .number n => n.text
  | .text s => Text.quoted s
  | .list items => "[" ++ ", ".intercalate (quotedItems items) ++ "]"
  | .dict entries => "\x7b" ++ ", ".intercalate (quotedEntries entries) ++ "\x7d"

def quotedItems : List Value → List String
  | [] => []
  | item :: rest => quoted item :: quotedItems rest

def quotedEntries : List (String × Value) → List String
  | [] => []
  | (key, value) :: rest => (Text.quoted key ++ ": " ++ quoted value) :: quotedEntries rest

end

def shown (v : Value) : String :=
  match v with
  | .text s => s
  | v => v.quoted

mutual

def same (a b : Value) : Bool :=
  match a, b with
  | .none, .none => true
  | .text s, .text t => s == t
  | .list xs, .list ys => sameItems xs ys
  | .dict es, .dict fs => es.length == fs.length && sameEntries es fs
  | a, b =>
      match a.number?, b.number? with
      | some m, some n => m.same n
      | _, _ => false

def sameItems (xs ys : List Value) : Bool :=
  match xs, ys with
  | [], [] => true
  | x :: xs, y :: ys => same x y && sameItems xs ys
  | _, _ => false

def sameEntries (es fs : List (String × Value)) : Bool :=
  match es with
  | [] => true
  | (key, value) :: rest =>
      (match fs.lookup key with
        | some other => same value other
        | Option.none => false) && sameEntries rest fs

end

end Value

end PageServer
