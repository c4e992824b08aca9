/-! Header fields: names in lower case with their values, in order. A name may occur more than
once; reading takes the first. -/
namespace PageServer.Http

abbrev Headers := List (String × String)

namespace Headers

def get? (h : Headers) (name : String) : Option String :=
  List.lookup name h

def has (h : Headers) (name : String) : Bool :=
  (get? h name).isSome

def values (h : Headers) (name : String) : List String :=
  (h.filter (·.1 == name)).map (·.2)

def erase (h : Headers) (name : String) : Headers :=
  h.filter (·.1 != name)

/-- The fields with exactly one value for a name. It takes the place of the first one there was, or
goes last. -/
def set : Headers → String → String → Headers
  | [], name, value => [(name, value)]
  | (n, v) :: rest, name, value =>
      if n = name then (name, value) :: erase rest name else (n, v) :: set rest name value

/-- The fields with one more name that the answer varies by, all of which are listed in one
value. -/
def addVary (h : Headers) (name : String) : Headers :=
  set h "vary" (", ".intercalate (values h "vary" ++ [name]))

theorem values_erase (h : Headers) (name : String) : values (erase h name) name = [] := by
  simp [values, erase, List.filter_filter]

theorem values_set (h : Headers) (name value : String) :
    values (set h name value) name = [value] := by
  induction h with
  | nil => simp [set, values]
  | cons field rest ih =>
      obtain ⟨n, v⟩ := field
      by_cases same : n = name
      · have none_left := values_erase rest name
        simp only [values] at none_left
        simp [set, same, values, none_left]
      · simp only [values] at ih
        simp [set, same, values, ih]

theorem values_set_of_ne (h : Headers) (name value other : String) (differ : other ≠ name) :
    values (set h name value) other = values h other := by
  have erased (rest : Headers) : values (erase rest name) other = values rest other := by
    simp only [values, erase, List.filter_filter]
    congr 1
    apply List.filter_congr
    intro field _
    by_cases same : field.1 = other <;> simp [same, differ]
  induction h with
  | nil => simp [set, values, Ne.symm differ]
  | cons field rest ih =>
      obtain ⟨n, v⟩ := field
      by_cases same : n = name
      · subst same
        have tail := erased rest
        simp only [values] at tail
        simp [set, values, Ne.symm differ, tail]
      · simp only [values] at ih
        by_cases here : n = other
        · subst here
          simp [set, differ, values, ih]
        · simp [set, same, values, here, ih]

end Headers

end PageServer.Http
