import PageServer.Value
/-! Arguments given by position and by name, matched with the parameters of what is called. The
first parameter is the object that is made; it is counted, but nobody gives it. -/
namespace PageServer

/-- A parameter; without a default it has to be given. -/
structure Parameter where
  name : String
  default : Option Value

/-- What is called: its name and its parameters after the first. -/
structure Callable where
  name : String
  parameters : List Parameter

/-- Why arguments do not fit. -/
inductive ArgumentFault where
  | unexpected (callee name : String)
  | repeated (callee name : String)
  | tooMany (callee : String) (least most given : Nat)
  | missing (callee : String) (names : List String)
  deriving DecidableEq, Repr

namespace ArgumentFault

def enumeration : List String → String
  | [] => ""
  | [a] => "'" ++ a ++ "'"
  | [a, b] => "'" ++ a ++ "' and '" ++ b ++ "'"
  | [a, b, c] => "'" ++ a ++ "', '" ++ b ++ "', and '" ++ c ++ "'"
  | a :: rest => "'" ++ a ++ "', " ++ enumeration rest

def message : ArgumentFault → String
  | unexpected callee name =>
      callee ++ " got an unexpected keyword argument '" ++ name ++ "'"
  | repeated callee name => callee ++ " got multiple values for argument '" ++ name ++ "'"
  | tooMany callee least most given =>
      callee ++ " takes " ++
        (if least = most then toString most
          else "from " ++ toString least ++ " to " ++ toString most) ++
        (if most = 1 then " positional argument but " else " positional arguments but ") ++
        toString given ++ (if given = 1 then " was given" else " were given")
  | missing callee names =>
      callee ++ " missing " ++ toString names.length ++
        (if names.length = 1 then " required positional argument: "
          else " required positional arguments: ") ++ enumeration names

end ArgumentFault

namespace Callable

/-- The arguments given by position, by their parameters' names. -/
def positional (c : Callable) (values : List Value) : Entries :=
  (c.parameters.map (·.name)).zip values

/-- Adds the arguments given by name, in their order. -/
def addNamed (c : Callable) : Entries → Entries → Except ArgumentFault Entries
  | bound, [] => .ok bound
  | bound, (name, v) :: rest =>
      if name = "self" then .error (.repeated c.name name)
      else if !c.parameters.any (·.name == name) then .error (.unexpected c.name name)
      else if (bound.lookup name).isSome then .error (.repeated c.name name)
      else c.addNamed (bound ++ [(name, v)]) rest

/-- The value of each parameter, its default where none is given. -/
def bind (c : Callable) (values : List Value) (named : Entries) : Except ArgumentFault Entries := do
  let bound ← c.addNamed (c.positional values) named
  let required := c.parameters.filter (·.default.isNone)
  if c.parameters.length < values.length then
    throw (.tooMany c.name (required.length + 1) (c.parameters.length + 1) (values.length + 1))
  match (required.map (·.name)).filter fun name => (bound.lookup name).isNone with
  | [] =>
      return c.parameters.map fun p => (p.name, (bound.lookup p.name).getD (p.default.getD .none))
  | names => throw (.missing c.name names)

end Callable

end PageServer
