import PageServer.Value
import PageServer.Validation
/-! Checks of the values given for fields. -/
namespace PageServer

namespace Checked

/-- A value accepted, or refused with a complaint about a place. -/
def refuse {α : Type} (place : List String) (complaint : Complaint) : Checked α :=
  .error [⟨place, complaint⟩]

def required {α : Type} (fields : Entries) (name : String)
    (check : List String → Value → Checked α) : Checked α :=
  match fields.get? name with
  | some v => check [name] v
  | none => refuse [name] .missing

def optional {α : Type} (fields : Entries) (name : String) (default : α)
    (check : List String → Value → Checked α) : Checked α :=
  match fields.get? name with
  | some v => check [name] v
  | none => .ok default

def text (place : List String) (v : Value) : Checked String :=
  match v with
  | .text s => .ok s
  | _ => refuse place .notText

/-- The text that a value is, which must not be empty. -/
def someText (place : List String) (v : Value) : Checked String :=
  match v with
  | .text s => if s.isEmpty then refuse place (.tooShort 1) else .ok s
  | _ => refuse place .notText

def dictionary (place : List String) (v : Value) : Checked Entries :=
  match v with
  | .dict entries => .ok entries
  | _ => refuse place .notDictionary

def texts (place : List String) (v : Value) : Checked (List (String × String)) := do
  let entries ← dictionary place v
  all (entries.map fun (key, item) => (text (place ++ [key]) item).map fun s => (key, s))

end Checked

end PageServer
