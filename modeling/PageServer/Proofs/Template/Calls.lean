import Mathlib.Logic.Relation
import PageServer.Template.Evaluation
/-! Calls that expressions make. Evaluation goes down into the parts of an expression in their order
and leaves those out that a condition before them rules out. Where a part that it gets to fails, the
whole expression fails in the same way. -/
namespace PageServer.Template

open Relation

variable {scope : Scope (Except RenderFault)} {fault : RenderFault}

/-- Evaluating an expression gets to a part of it: the parts before it stand for something, and no
condition leaves it out. -/
inductive Expression.Part (scope : Scope (Except RenderFault)) : Expression → Expression → Prop
  | item {front : List Expression} {e : Expression} {back : List Expression} {ds : List Datum}
      (before : evalAll scope front = .ok ds) : Part scope (.tuple (front ++ e :: back)) e
  | owner {e : Expression} {name : String} : Part scope (.member e name) e
  | indexed {e : Expression} {index : Number} : Part scope (.element e index) e
  | callee {e : Expression} {arguments : List Expression} : Part scope (.call e arguments) e
  | argument {callee : Expression} {front : List Expression} {e : Expression}
      {back : List Expression} {d : Datum} {ds : List Datum} (called : callee.eval scope = .ok d)
      (before : evalAll scope front = .ok ds) : Part scope (.call callee (front ++ e :: back)) e
  | left {op : Operator} {a b : Expression} : Part scope (.arithmetic op a b) a
  | right {op : Operator} {a b : Expression} {x : Datum} (before : a.eval scope = .ok x) :
      Part scope (.arithmetic op a b) b
  | compared {e : Expression} {others : List (Comparison × Expression)} :
      Part scope (.comparison e others) e
  | comparing {first : Expression} {front : List (Comparison × Expression)} {c : Comparison}
      {e : Expression} {back : List (Comparison × Expression)} {d : Datum}
      (before : first.eval scope = .ok d) (hold : allHold scope d front = .ok true) :
      Part scope (.comparison first (front ++ (c, e) :: back)) e
  | negated {e : Expression} : Part scope (.negation e) e
  | conjunct {a b : Expression} : Part scope (.conjunction a b) a
  | conjunctBehind {a b : Expression} {d : Datum} (before : a.eval scope = .ok d)
      (holds : d.truthy = true) : Part scope (.conjunction a b) b
  | alternative {a b : Expression} : Part scope (.alternative a b) a
  | alternativeBehind {a b : Expression} {d : Datum} (before : a.eval scope = .ok d)
      (fails : d.truthy = false) : Part scope (.alternative a b) b
  | test {e yes : Expression} {no : Option Expression} : Part scope (.choice e yes no) e
  | yes {test e : Expression} {no : Option Expression} {d : Datum}
      (before : test.eval scope = .ok d) (holds : d.truthy = true) :
      Part scope (.choice test e no) e
  | no {test yes e : Expression} {d : Datum} (before : test.eval scope = .ok d)
      (fails : d.truthy = false) : Part scope (.choice test yes (some e)) e
  | argumentOutside {way : Way} {written identifier : String} {front : List Expression}
      {e : Expression} {back : List Expression} {found : Option Datum} {ds : List Datum}
      (bound : scope.find identifier = .ok found)
      (starts : way.startsAt (found.getD (.unbound written)) = true)
      (before : evalAll scope front = .ok ds) :
      Part scope (.outside way written identifier (front ++ e :: back)) e
  | argumentElsewhere {way : Way} {written identifier : String} {front : List Expression}
      {e : Expression} {back : List Expression} {found : Option Datum} {d : Datum}
      {ds : List Datum} (bound : scope.find identifier = .ok found)
      (elsewhere : way.startsAt (found.getD (.unbound written)) = false)
      (reached : scope.lift (way.steps.foldlM Datum.member (found.getD (.unbound written))) = .ok d)
      (called : way.called = true) (before : evalAll scope front = .ok ds) :
      Part scope (.outside way written identifier (front ++ e :: back)) e

/-- Evaluating an expression calls a datum with arguments. -/
def Expression.Calls (scope : Scope (Except RenderFault)) (e : Expression) (d : Datum)
    (ds : List Datum) : Prop :=
  ∃ callee arguments, ReflTransGen (Part scope) e (.call callee arguments) ∧
    callee.eval scope = .ok d ∧ evalAll scope arguments = .ok ds

theorem evalAll_fails {front back : List Expression} {e : Expression} {ds : List Datum}
    (before : evalAll scope front = .ok ds) (failed : e.eval scope = .error fault) :
    evalAll scope (front ++ e :: back) = .error fault := by
  induction front generalizing ds with
  | nil => simp only [List.nil_append, evalAll, failed, bind, Except.bind]
  | cons first rest ih =>
      unfold evalAll at before
      cases here : first.eval scope with
      | error other => simp [here, bind, Except.bind] at before
      | ok d =>
          cases others : evalAll scope rest with
          | error other => simp [here, others, bind, Except.bind] at before
          | ok ds => simp only [List.cons_append, evalAll, here, ih others, bind, Except.bind]

theorem allHold_fails {front back : List (Comparison × Expression)} {c : Comparison}
    {e : Expression} {d : Datum} (hold : allHold scope d front = .ok true)
    (failed : e.eval scope = .error fault) :
    allHold scope d (front ++ (c, e) :: back) = .error fault := by
  induction front generalizing d with
  | nil => simp only [List.nil_append, allHold, failed, bind, Except.bind]
  | cons first rest ih =>
      obtain ⟨c', e'⟩ := first
      unfold allHold at hold
      cases here : e'.eval scope with
      | error other => simp [here, bind, Except.bind] at hold
      | ok next =>
          cases compared : scope.lift (c'.holds d next) with
          | error other => simp [here, compared, bind, Except.bind] at hold
          | ok holds =>
              cases holds with
              | false => simp [here, compared, bind, Except.bind, pure, Except.pure] at hold
              | true =>
                  have others : allHold scope next rest = .ok true := by
                    simpa [here, compared, bind, Except.bind] using hold
                  simp only [List.cons_append, allHold, here, compared, ih others, bind,
                    Except.bind, ↓reduceIte]

/-- Where a part fails that evaluation gets to, the whole fails in the same way. -/
theorem Expression.Part.fails {whole e : Expression} (part : Part scope whole e)
    (failed : e.eval scope = .error fault) : whole.eval scope = .error fault := by
  cases part with
  | item before => simp only [eval, evalAll_fails before failed, bind, Except.bind]
  | argument called before =>
      simp only [eval, called, evalAll_fails before failed, bind, Except.bind]
  | comparing before hold =>
      simp only [eval, before, allHold_fails hold failed, bind, Except.bind]
  | right before => simp only [eval, before, failed, bind, Except.bind]
  | conjunctBehind before holds =>
      simp only [eval, before, holds, failed, bind, Except.bind, ↓reduceIte]
  | alternativeBehind before fails =>
      simp only [eval, before, fails, failed, bind, Except.bind, Bool.false_eq_true, ↓reduceIte]
  | yes before holds => simp only [eval, before, holds, failed, bind, Except.bind, ↓reduceIte]
  | no before fails =>
      simp only [eval, before, fails, failed, bind, Except.bind, Bool.false_eq_true, ↓reduceIte,
        evalOption]
  | argumentOutside bound starts before =>
      simp only [eval, bound, starts, evalAll_fails before failed, bind, Except.bind, ↓reduceIte]
  | argumentElsewhere bound elsewhere reached called before =>
      simp only [eval, bound, elsewhere, reached, called, evalAll_fails before failed, bind,
        Except.bind, Bool.false_eq_true, ↓reduceIte]
  | _ => simp only [eval, failed, bind, Except.bind]

/-- A call that fails makes the expression fail that makes it. -/
theorem Expression.Calls.fails {e : Expression} {d : Datum} {ds : List Datum}
    (calls : e.Calls scope d ds) (failed : scope.call d ds = .error fault) :
    e.eval scope = .error fault := by
  obtain ⟨callee, arguments, reached, called, given⟩ := calls
  have here : (Expression.call callee arguments).eval scope = .error fault := by
    simp only [eval, called, given, bind, Except.bind, failed]
  -- By the parts on the way down, from the call upwards.
  induction reached using ReflTransGen.head_induction_on with
  | refl => exact here
  | head part _ ih => exact part.fails ih

end PageServer.Template
