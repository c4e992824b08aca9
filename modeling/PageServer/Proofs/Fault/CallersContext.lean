import Mathlib
import PageServer.Fault.AppError
import PageServer.Proofs.Value.Entries
/-! What becomes of a dictionary that a caller gives as the context of an error. The error adds what
it is about to its context. A dictionary that is empty is not taken, and a new one gets these
entries; any other one is the context itself, so its owner finds them in it unless they were there
already. -/
namespace PageServer

namespace AppError

/-! Errors made -/

/-- What an error adds to its context: its template, unless that is nothing or empty, and then its
view. -/
def additions (e : AppError) : Entries :=
  ((e.template.filter Value.truthy).map fun template => ("template", template)).toList ++
    (e.view.map fun view => ("view_name", view)).toList

theorem additions_distinct (e : AppError) : (e.additions.map Prod.fst).Nodup := by
  unfold additions
  cases e.template.filter Value.truthy <;> cases e.view <;> simp

theorem arguments_of_bind {c : Callable} {values : List Value} {named arguments : Entries}
    (fit : c.bind values named = .ok arguments) :
    ∃ value : Parameter → Value, arguments = c.parameters.map fun p => (p.name, value p) := by
  unfold Callable.bind at fit
  cases bound : c.addNamed (c.positional values) named with
  | error fault => simp [bound, bind, Except.bind] at fit
  | ok entries =>
      simp only [bound, bind, Except.bind] at fit
      split at fit
      · cases fit
      · split at fit
        · exact ⟨_, (Except.ok.inj fit).symm⟩
        · cases fit

theorem share_self (context : Entries) : share context context = context := by
  unfold share
  split <;> rfl

theorem context_makeBase (message : Value) (context : Entries) :
    (makeBase message (.dict context)).context = .dict context := by
  cases context <;> rfl

theorem context_makeNotFound (view template : Value) (context : Entries) :
    let made := makeNotFound view template context
    made.error.context = .dict (context.setAll made.error.additions) ∧
      made.callers = share context (context.setAll made.error.additions) := by
  unfold makeNotFound additions
  by_cases shown : template.truthy = true
  · simp only [shown, Option.filter_some, if_true]
    exact ⟨rfl, rfl⟩
  · simp only [shown, Option.filter_some]
    exact ⟨rfl, rfl⟩

/-- An error is made whenever the arguments fit and give a dictionary as the context. -/
theorem make_of_bind {c : AppErrorClass} {values : List Value} {named arguments context : Entries}
    (fit : (callable c).bind values named = .ok arguments)
    (given : arguments.get? "context" = some (.dict context)) :
    ∃ made, make c values named = .ok made ∧ made.error.errorClass = .standard c ∧
      made.error.view = (if c = .base then none else arguments.get? "view_name") ∧
      made.error.template = (if c = .notFound then arguments.get? "template" else none) ∧
      made.error.context = .dict (context.setAll made.error.additions) ∧
      made.callers = share context (context.setAll made.error.additions) := by
  obtain ⟨value, rfl⟩ := arguments_of_bind fit
  have looked : List.lookup "context" ((callable c).parameters.map fun p => (p.name, value p)) =
      some (.dict context) := given
  unfold make
  rw [fit]
  simp only [Except.mapError, bind, Except.bind, looked, Option.getD_some, pure, Except.pure]
  refine ⟨_, rfl, ?_⟩
  cases c with
  | base => exact ⟨rfl, rfl, rfl, context_makeBase _ context, (share_self context).symm⟩
  | resolution => exact ⟨rfl, rfl, rfl, rfl, rfl⟩
  | notFound => exact ⟨rfl, rfl, rfl, context_makeNotFound _ _ context⟩
  | render => exact ⟨rfl, rfl, rfl, rfl, rfl⟩

/-- What becomes of the caller's dictionary. The error's context has its view, its template unless
that is nothing or empty, and everything else that the dictionary has. An empty dictionary stays
empty; any other one is the error's context itself afterwards. So it is left as it was exactly if it
is empty or has what the error adds, as it does for errors that add nothing. -/
theorem callers_context_kept_iff (c : AppErrorClass) (values : List Value)
    (named arguments context : Entries) (fit : (callable c).bind values named = .ok arguments)
    (given : arguments.get? "context" = some (.dict context)) :
    ∃ (made : Made) (own : Entries), make c values named = .ok made ∧
      made.error.errorClass = .standard c ∧
      made.error.view = (if c = .base then none else arguments.get? "view_name") ∧
      made.error.template = (if c = .notFound then arguments.get? "template" else none) ∧
      made.error.context = .dict own ∧
      (∀ view, made.error.view = some view → own.get? "view_name" = some view) ∧
      (∀ template, made.error.template = some template → template.truthy = true →
        own.get? "template" = some template) ∧
      (∀ key, key ∉ made.error.additions.map Prod.fst → own.get? key = context.get? key) ∧
      made.callers = (if context.isEmpty then [] else own) ∧
      (made.callers = context ↔
        context = [] ∨ ∀ entry ∈ made.error.additions, context.get? entry.1 = some entry.2) := by
  obtain ⟨made, is_made, sort, view, template, own, callers⟩ := make_of_bind fit given
  have distinct := made.error.additions_distinct
  have has (entry : String × Value) (member : entry ∈ made.error.additions) :=
    Entries.get?_setAll_of_mem distinct member context
  have shared : made.callers =
      if context.isEmpty then [] else context.setAll made.error.additions := by
    rw [callers, share]
    cases context <;> rfl
  refine ⟨made, _, is_made, sort, view, template, own, ?_, ?_, ?_, shared, ?_⟩
  · intro v is_view
    exact has ("view_name", v) (by simp [additions, is_view])
  · intro t is_template shown
    exact has ("template", t) (by simp [additions, is_template, shown])
  · intro key other
    exact Entries.get?_setAll_of_not_mem other context
  · rw [shared, ← Entries.setAll_eq_self_iff distinct]
    -- An empty dictionary is kept whatever is added, since what is added goes into a new one.
    cases context with
    | nil => simp
    | cons entry rest => simp

/-- A dictionary with a view of its own. -/
def oldContext : Entries :=
  [("view_name", .text "old"), ("depth", .number (.whole 2))]

theorem callers_context_of_oldContext :
    (callable .notFound).bind [.text "index", .text "index.html"] [("context", .dict oldContext)] =
        .ok [("view_name", .text "index"), ("template", .text "index.html"),
          ("context", .dict oldContext)] ∧
      ∃ made, make .notFound [.text "index", .text "index.html"] [("context", .dict oldContext)] =
          .ok made ∧
        made.error.context = .dict made.callers ∧
        made.callers.get? "view_name" = some (.text "index") ∧
        made.callers.get? "template" = some (.text "index.html") ∧ made.callers ≠ oldContext := by
  have fit : (callable .notFound).bind [.text "index", .text "index.html"]
      [("context", .dict oldContext)] = .ok [("view_name", .text "index"),
        ("template", .text "index.html"), ("context", .dict oldContext)] := rfl
  obtain ⟨made, own, is_made, _, view, template, is_own, has_view, has_template, _, shared,
    kept_iff⟩ :=
    callers_context_kept_iff .notFound _ _ _ oldContext fit rfl
  have same : made.callers = own := shared
  refine ⟨fit, made, is_made, same ▸ is_own, same ▸ has_view _ view,
    same ▸ has_template _ template rfl, fun kept => ?_⟩
  rcases kept_iff.mp kept with none_there | all_there
  · cases none_there
  · have old_view :=
      all_there ("view_name", .text "index") (by simp [additions, view, Entries.get?])
    simp [oldContext, Entries.get?] at old_view

/-- The view goes into the dictionary of whoever made the error. -/
theorem callers_context_changed :
    ∃ made, make .resolution [.text "index"] [("context", .dict [("depth", .number (.whole 2))])] =
        .ok made ∧ made.callers ≠ [("depth", .number (.whole 2))] := by
  refine ⟨_, rfl, ?_⟩
  simp [makeResolution, share, Entries.set]

end AppError

end PageServer
