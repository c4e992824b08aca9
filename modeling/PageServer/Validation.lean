/-! What is said about a value that a field refuses. A `Complaint` is the cause; its code and its
sentence are the two forms in which it is reported. A `Rejection` lists all faults of one
construction, each with the place it is about. -/
namespace PageServer

inductive Complaint where
  | missing
  | notText
  | tooShort (least : Nat)
  | notInteger
  | unreadableInteger
  | fractionalInteger
  | oversizedInteger
  | belowLeast (least : Int)
  | aboveMost (most : Int)
  | notFloat
  | unreadableFloat
  | notDictionary
  | unknownName
  | frozen
  | refused (reason : String)
  deriving DecidableEq, Repr

namespace Complaint

def code : Complaint → String
  | missing => "missing"
  | notText => "string_type"
  | tooShort _ => "string_too_short"
  | notInteger => "int_type"
  | unreadableInteger => "int_parsing"
  | fractionalInteger => "int_from_float"
  | oversizedInteger => "int_parsing_size"
  | belowLeast _ => "greater_than_equal"
  | aboveMost _ => "less_than_equal"
  | notFloat => "float_type"
  | unreadableFloat => "float_parsing"
  | notDictionary => "dict_type"
  | unknownName => "extra_forbidden"
  | frozen => "frozen_instance"
  | refused _ => "value_error"

def message : Complaint → String
  | missing => "Field required"
  | notText => "Input should be a valid string"
  | tooShort least =>
      "String should have at least " ++ toString least ++
        (if least = 1 then " character" else " characters")
  | notInteger => "Input should be a valid integer"
  | unreadableInteger => "Input should be a valid integer, unable to parse string as an integer"
  | fractionalInteger => "Input should be a valid integer, got a number with a fractional part"
  | oversizedInteger => "Unable to parse input string as an integer, exceeded maximum size"
  | belowLeast least => "Input should be greater than or equal to " ++ toString least
  | aboveMost most => "Input should be less than or equal to " ++ toString most
  | notFloat => "Input should be a valid number"
  | unreadableFloat => "Input should be a valid number, unable to parse string as a number"
  | notDictionary => "Input should be a valid dictionary"
  | unknownName => "Extra inputs are not permitted"
  | frozen => "Instance is frozen"
  | refused reason => "Value error, " ++ reason

end Complaint

structure FieldFault where
  place : List String
  complaint : Complaint
  deriving DecidableEq, Repr

structure Rejection where
  subject : String
  faults : List FieldFault
  deriving DecidableEq, Repr

def Rejection.message (r : Rejection) : String :=
  toString r.faults.length ++ " for " ++ r.subject

/-- A value, or the faults for which there is none. -/
abbrev Checked (α : Type) := Except (List FieldFault) α

namespace Checked

/-- Two checks together: all their faults count. -/
def both {α β : Type} (a : Checked α) (b : Checked β) : Checked (α × β) :=
  match a, b with
  | .ok x, .ok y => .ok (x, y)
  | .ok _, .error faults => .error faults
  | .error faults, .ok _ => .error faults
  | .error faults, .error others => .error (faults ++ others)

def all {α : Type} : List (Checked α) → Checked (List α)
  | [] => .ok []
  | a :: rest => (both a (all rest)).map fun (x, xs) => x :: xs

def about {α : Type} (subject : String) (a : Checked α) : Except Rejection α :=
  a.mapError fun faults => ⟨subject, faults⟩

theorem both_eq_ok_iff {α β : Type} (a : Checked α) (b : Checked β) (x : α) (y : β) :
    both a b = .ok (x, y) ↔ a = .ok x ∧ b = .ok y := by
  cases a <;> cases b <;> simp [both]

end Checked

end PageServer
