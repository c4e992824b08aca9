import PageServer.Proofs.Service.AccessLog
import PageServer.Proofs.Service.Run
/-! What the access log says. In any run it has one entry about each visit that gets a response from
the layers inside the log's own, and the entry agrees with the response that is sent in the end, to
which the layers outside only add headers. -/
namespace PageServer

open Http Files

namespace AccessLog

variable {τ : Type}

/-- A visit is one that the access log tells of: it is no preflight, its URL has a path other than
the quiet one, and no failure got through to the last resort. -/
def Covers (v : Visit τ) (answer : Served τ) : Prop :=
  Cors.isPreflight v.request = false ∧
    (∃ path, urlPath v.request = .ok path ∧ path ≠ "/health") ∧ answer.raised = none

/-- An entry says of a visit what the response to it says. -/
structure Describes (v : Visit τ) (response : Response) (e : LogEntry) : Prop where
  error : e.level = .error ↔ 500 ≤ response.status.code
  warning : e.level = .warning ↔ 400 ≤ response.status.code ∧ response.status.code < 500
  info : e.level = .info ↔ response.status.code < 400
  facts : ∃ a, e.access = some a ∧ a.status = response.status.value ∧
    response.headers.values "x-request-id" = [a.requestId] ∧
    a.viewName = (response.headers.get? "x-view-name").getD "-" ∧
    a.method = v.request.method ∧ a.client = v.request.client.getD "unknown" ∧
    urlPath v.request = .ok a.path

/-- The access log tells of an event once if it is a visit that the log covers, and not at all
otherwise. -/
def Tells : Event τ → Outcome τ → Prop
  | .visit v, .served answer =>
      (Covers v answer →
        ∃ e, among answer.entries = [e] ∧ Describes v answer.response e) ∧
      (¬ Covers v answer → among answer.entries = [])
  | .visit _, .changed _ => False
  | _, .served _ => False
  | _, .changed _ => True

theorem levelOf_iff (code : Int) :
    (levelOf code = .error ↔ 500 ≤ code) ∧
      (levelOf code = .warning ↔ 400 ≤ code ∧ code < 500) ∧
      (levelOf code = .info ↔ code < 400) := by
  unfold levelOf
  split
  · simp
    omega
  · split <;> simp <;> omega

/-- The header of the identifier is set behind the log, and all other fields stay. -/
theorem describes_entry {v : Visit τ} {path : String} (reading : urlPath v.request = .ok path)
    (r : Response) :
    Describes v { r with headers := r.headers.set Visit.requestIdHeader v.requestId }
      (AccessLog.entry v v.requestId path r) := by
  obtain ⟨error, warning, info⟩ := levelOf_iff r.status.code
  have named : (r.headers.set Visit.requestIdHeader v.requestId).get? Resolver.viewHeader =
      r.headers.get? Resolver.viewHeader := by
    rw [get?_eq_head?_values, get?_eq_head?_values, Headers.values_set_of_ne _ _ _ _ (by decide)]
  have shown := congrArg (fun name => name.getD "-") named
  refine ⟨error, warning, info, _, rfl, rfl, ?_, ?_, ?_, ?_, ?_⟩
  · exact Headers.values_set _ _ _
  · exact shown.symm
  · rfl
  · rfl
  · exact reading

variable [Clock τ] (service : Service τ)

theorem tells_visit (store : Store) (m : Memory τ) (v : Visit τ) :
    Tells (.visit v) (.served (service.serve store m v)) := by
  have logged := service.among_serve store v m
  have raised := service.serve_raised store m v
  have response := service.serve_response store m v
  unfold Service.accessEntries at logged
  constructor
  · rintro ⟨direct, ⟨path, reading, loud⟩, answered⟩
    cases replied : service.reply v.requestId v (service.author store m.limiter v) with
    | error failure => simp [raised, replied] at answered
    | ok r =>
        rw [replied] at response
        simp only [direct, reading, quietPath, loud, replied, Bool.false_eq_true, ↓reduceIte]
          at logged
        rw [response]
        exact ⟨_, logged, describes_entry reading r⟩
  -- Each way not to be covered is one of the ways to have no entry.
  · intro uncovered
    rw [logged]
    split
    · rfl
    · rename_i direct
      split
      · rfl
      · rename_i path reading
        split
        · rfl
        · rename_i loud
          cases replied : service.reply v.requestId v (service.author store m.limiter v) with
          | error failure => rfl
          | ok r =>
              rw [replied] at raised
              exact absurd ⟨by simpa using direct, ⟨path, reading, loud⟩, raised⟩ uncovered

/-- In every run, whatever routes there are and whatever was kept before, the access log has exactly
one entry about each visit that it covers, which says what the response to the visit says, and no
other entries. -/
theorem access_log_complete (s : State τ) (events : List (Event τ)) :
    List.Forall₂ Tells events (service.runEvents s events).1 := by
  refine (service.runEvents_keeps (fun _ => True) Tells events ?_ trivial).1
  intro s _ event _
  cases event with
  | visit v => exact ⟨tells_visit service s.store s.memory v, trivial⟩
  | write path node => simp only [Service.step, Tells, and_self]
  | remove path => simp only [Service.step, Tells, and_self]

end AccessLog

end PageServer
