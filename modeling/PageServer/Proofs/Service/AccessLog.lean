import PageServer.Proofs.Service.Answer
/-! The access log. Entries come from many layers, but the access log gets its own alone: one for
each response that its layer passes on, and it says what the response outside that layer says. -/
namespace PageServer

open Http Files

/-! Headers that the log reads -/

section Headers

theorem get?_eq_head?_values (headers : Headers) (name : String) :
    headers.get? name = (headers.values name).head? := by
  induction headers with
  | nil => rfl
  | cons field rest ih =>
      obtain ⟨n, value⟩ := field
      simp only [Headers.get?, Headers.values] at ih
      by_cases same : n = name
      · simp [Headers.get?, Headers.values, same]
      · have other : (name == n) = false := beq_false_of_ne (Ne.symm same)
        simp [Headers.get?, Headers.values, List.lookup_cons, same, other, ih]

/-- What is said to pages of other sites goes into fields of its own. -/
theorem values_mark (origins : List String) (request : Request) (headers : Headers) {name : String}
    (credentials : name ≠ Cors.credentialsHeader)
    (exposed : name ≠ "access-control-expose-headers") (origin : name ≠ Cors.originHeader)
    (vary : name ≠ "vary") :
    Headers.values (Cors.mark origins request headers) name = headers.values name := by
  simp only [Cors.mark, Headers.addVary, Headers.values_set_of_ne _ _ _ _ vary]
  split
  · split <;> simp only [Headers.values_set_of_ne _ _ _ _ credentials,
      Headers.values_set_of_ne _ _ _ _ exposed, Headers.values_set_of_ne _ _ _ _ origin]
  · rfl

theorem AccessLog.entry_marking {τ : Type} (service : Service τ) (request : Request) (v : Visit τ)
    (requestId path : String) (r : Response) :
    AccessLog.entry v requestId path (service.marking request r) =
      AccessLog.entry v requestId path r := by
  have shown : Headers.get? (Cors.mark service.settings.origins request r.headers)
      Resolver.viewHeader = r.headers.get? Resolver.viewHeader := by
    rw [get?_eq_head?_values, get?_eq_head?_values,
      values_mark _ _ _ (by decide) (by decide) (by decide) (by decide)]
  simp only [AccessLog.entry, Service.marking, shown]

end Headers

/-! Loggers -/

namespace AccessLog

/-- The entries of the access log among others. -/
def among (entries : List LogEntry) : List LogEntry :=
  entries.filter (·.logger == loggerName)

theorem among_append (front back : List LogEntry) :
    among (front ++ back) = among front ++ among back :=
  List.filter_append ..

theorem among_forgottenEntries (count : Nat) : among (Limiter.forgottenEntries count) = [] := by
  unfold Limiter.forgottenEntries
  split <;> rfl

theorem among_present (r : Resolver) (store : Store) (facts : Template.RequestFacts) (view : String)
    (model : Entries) : among (r.present store facts view model).entries = [] := by
  have entries : (r.present store facts view model).entries =
      if (r.present store facts view model).result.isOk then [r.renderedEntry view] else [] := rfl
  rw [entries]
  split <;> rfl

theorem among_survey (r : Resolver) (tree : Files.Tree) (views : List String) :
    among (Health.survey r tree views).entries = [] := by
  induction views with
  | nil => rfl
  | cons view rest ih =>
      unfold Health.survey
      split
      · rfl
      · rename_i found _
        rw [among_append, ih]
        cases found <;> rfl

theorem among_answer? {requestId : String} {failure : Failure} {response : Response}
    {entries : List LogEntry} (answered : failure.answer? requestId = some (response, entries)) :
    among entries = [] := by
  cases failure with
  | app e =>
      cases answered
      rfl
  | http status detail headers =>
      cases answered
      rfl
  | invalid errors =>
      cases answered
      rfl
  | other kind text => cases answered

end AccessLog

/-! Visits -/

section Visits

variable {τ : Type} [Clock τ] (service : Service τ) (store : Store) (v : Visit τ)

open AccessLog

theorem Service.among_routed : among (service.routed store v).entries = [] := by
  unfold Service.routed
  split
  · rename_i endpoint _
    cases endpoint with
    | page p => exact among_present ..
    | health => exact among_survey ..
    | apiDocument => rfl
    | documentation => rfl
    | fixed outcome => rfl
  · rfl
  · rfl
  · rfl
  · rfl

theorem Service.among_inner (requestId : String) :
    among (service.inner store requestId v).entries = [] := by
  have routed := service.among_routed store v
  simp only [Service.inner, Service.answered]
  split
  · exact routed
  · split
    · rename_i answered
      rw [among_append, routed, List.nil_append]
      exact among_answer? answered
    · exact routed

/-- The entries of the access log about a visit, by the author of its answer. -/
def Service.accessEntries (service : Service τ) (v : Visit τ) (author : Author) : List LogEntry :=
  if Cors.isPreflight v.request then []
  else match urlPath v.request with
    | .error _ => []
    | .ok path =>
        if path = quietPath then []
        else match service.reply v.requestId v author with
          | .ok response => [AccessLog.entry v v.requestId path response]
          | .error _ => []

theorem Service.among_guarded (l : Limiter τ) (requestId path : String) :
    among (l.guard service.limits v path (service.inner store requestId v)).1.entries = [] := by
  have behind := service.among_inner store v requestId
  by_cases exempt : path ∈ Limiter.exemptPaths
  · rw [Limiter.guard_of_exempt _ _ _ exempt]
    exact behind
  · rw [Limiter.guard_of_not_exempt _ _ _ exempt]
    simp only [Limiter.entriesBy]
    split
    · rw [among_append, behind, among_forgottenEntries]
      rfl
    · rfl
    · rfl
    · rfl

omit [Clock τ] in
/-- An entry is noted where there is a response, except of the quiet path. -/
theorem AccessLog.among_note (requestId path : String) (served : Logged (Except Failure Response))
    (others : among served.entries = []) :
    among (AccessLog.note v requestId path served).entries =
      if path = quietPath then []
      else match served.result with
        | .ok response => [AccessLog.entry v requestId path response]
        | .error _ => [] := by
  unfold AccessLog.note
  split
  · exact others
  · cases served.result with
    | ok response =>
        dsimp only
        rw [among_append, others]
        simp [among, AccessLog.entry]
    | error failure => exact others

theorem Service.among_outcome (l : Limiter τ) :
    among (service.outcome store ⟨l, v.requestId⟩ v).1.entries =
      service.accessEntries v (service.author store l v) := by
  have replied := service.outcome_result store ⟨l, v.requestId⟩ v
  dsimp only at replied
  simp only [Service.accessEntries, ← replied]
  unfold Service.outcome
  split
  · rfl
  · cases urlPath v.request with
    | error fault => rfl
    | ok path =>
        have noted := AccessLog.among_note v v.requestId path _
          (service.among_guarded store v l v.requestId path)
        dsimp only [Service.marked]
        rw [noted, note_result]
        split
        · rfl
        · cases (l.guard service.limits v path (service.inner store v.requestId v)).1.result with
          | ok response =>
              exact congrArg (fun e => [e]) (AccessLog.entry_marking service _ v _ _ _).symm
          | error failure => rfl

/-- The access log gets what the author's answer calls for, and nothing else. -/
theorem Service.among_serve (m : Memory τ) :
    among (service.serve store m v).entries =
      service.accessEntries v (service.author store m.limiter v) := by
  have logged := service.among_outcome store v m.limiter
  rw [← logged]
  simp only [Service.serve]
  split
  · rfl
  · rw [among_append]
    exact List.append_nil _

end Visits

end PageServer
