import PageServer.Template.Attributes
import PageServer.Value.Format
/-! The data that expressions stand for, in a scope: what names are bound to, and what calls
yield. They are computed in a monad of which nothing is known but what the scope says. -/
namespace PageServer.Template

/-- Names and what they are bound to, the innermost first. -/
abbrev Bindings := List (String × Datum)

/-- What expressions depend on, with the computations that it takes: how outcomes count, the datum
of a name if it is bound to one, what a way outside leads to from a datum, and the outcome of a
call. -/
structure Scope (m : Type → Type) where
  lift : {α : Type} → Except RenderFault α → m α
  find : String → m (Option Datum)
  outside : Way → Datum → List Datum → m Datum
  call : Datum → List Datum → m Datum

def Operator.symbol : Operator → String
  | divide => "/"
  | floorDivide => "//"
  | modulo => "%"

def faultOfNumber : NumberFault → RenderFault
  | .divisionByZero message => .raised "ZeroDivisionError" message
  | .overflow message => .raised "OverflowError" message

def faultOfFormat : Format.Fault → RenderFault
  | .type message => .raised "TypeError" message
  | .value message => .raised "ValueError" message
  | .overflow message => .raised "OverflowError" message
  | .absentKey key => .raised "KeyError" (Text.quoted key)
  | .undefined message => .undefined message
  | .memory => .raised "MemoryError" ""

def Operator.onNumbers (op : Operator) (a b : Number) : Except NumberFault Number :=
  match op with
  | divide => a.divide b
  | floorDivide => a.floorDivide b
  | modulo => a.modulo b

/-- An operation on data. Numbers are computed with; the remainder of a text is the text filled in
with the other datum. -/
def Operator.apply (op : Operator) (a b : Datum) : Except RenderFault Datum :=
  let unsupported : RenderFault := .raised "TypeError"
    ("unsupported operand type(s) for " ++ op.symbol ++ ": '" ++ a.kindName ++ "' and '" ++
      b.kindName ++ "'")
  match op, a, b with
  | .modulo, .value (.text s), b =>
      (Format.fill s b.supply).mapError faultOfFormat |>.map Datum.text
  | _, .absent message, _ => .error (.undefined message)
  | _, _, .absent message => .error (.undefined message)
  | op, .value a, .value b =>
      match a.number?, b.number? with
      | some m, some n =>
          (op.onNumbers m n).mapError faultOfNumber |>.map (Datum.value ∘ Value.number)
      | _, _ => .error unsupported
  | _, _, _ => .error unsupported

def Comparison.holds (c : Comparison) (a b : Datum) : Except RenderFault Bool :=
  match c with
  | .equal => .ok (a.same b)
  | .within => a.within b
  | .outside => (a.within b).map not

/-- The datum of a choice that has no case. -/
def noCase : Datum :=
  .absent "the inline if-expression evaluated to false and no else section was defined."

def Way.startsAt (way : Way) (d : Datum) : Bool :=
  match way, d with
  | document, .request _ => true
  | fileExists, .function name _ => name == "generate_lorem_ipsum"
  | _, _ => false

def Way.called : Way → Bool
  | document => false
  | fileExists => true

section

variable {m : Type → Type} [Monad m] (scope : Scope m)

mutual

/-- What an expression stands for. -/
def Expression.eval : Expression → m Datum
  | .name written identifier => do
      let found ← scope.find identifier
      return found.getD (.unbound written)
  | .literal v => pure (.value v)
  | .tuple items => do
      let ds ← evalAll items
      return .tuple ds
  | .member owner s => do
      let d ← owner.eval
      scope.lift (d.member s)
  | .element owner n => do
      let d ← owner.eval
      scope.lift (d.element n)
  | .call callee arguments => do
      let d ← callee.eval
      let ds ← evalAll arguments
      scope.call d ds
  | .arithmetic op a b => do
      let x ← a.eval
      let y ← b.eval
      scope.lift (op.apply x y)
  | .comparison first others => do
      let d ← first.eval
      let holds ← allHold d others
      return .value (.bool holds)
  | .negation e => do
      let d ← e.eval
      return .value (.bool !d.truthy)
  | .conjunction a b => do
      let d ← a.eval
      if d.truthy then b.eval else return d
  | .alternative a b => do
      let d ← a.eval
      if d.truthy then return d else b.eval
  | .choice test yes no => do
      let d ← test.eval
      if d.truthy then yes.eval else evalOption no
  | .outside way written identifier arguments => do
      let found ← scope.find identifier
      let d := found.getD (.unbound written)
      if way.startsAt d then
        let ds ← evalAll arguments
        scope.outside way d ds
      else
        -- The name stands for something else that may have such attributes of its own.
        let reached ← scope.lift (way.steps.foldlM Datum.member d)
        if way.called then
          let ds ← evalAll arguments
          scope.call reached ds
        else return reached

def evalAll : List Expression → m (List Datum)
  | [] => pure []
  | e :: rest => do
      let d ← e.eval
      let ds ← evalAll rest
      return d :: ds

/-- Whether each comparison in a chain holds between its datum and the one before. The first one
that does not ends the chain. -/
def allHold (d : Datum) : List (Comparison × Expression) → m Bool
  | [] => pure true
  | (c, e) :: rest => do
      let next ← e.eval
      let holds ← scope.lift (c.holds d next)
      if holds then allHold next rest else return false

def evalOption : Option Expression → m Datum
  | none => pure noCase
  | some e => e.eval

end

end

/-! Constants -/

/-- The scope in which nothing is known: whatever depends on a name or a call has no outcome. -/
def Scope.closed : Scope (Except RenderFault) :=
  { lift := id
    find := fun _ => .error .badSyntax
    outside := fun _ _ _ => .error .badSyntax
    call := fun _ _ => .error .badSyntax }

/-- The datum of an expression that is the same in every scope. -/
def Expression.constant? (e : Expression) : Option Datum :=
  (e.eval Scope.closed).toOption

end PageServer.Template
