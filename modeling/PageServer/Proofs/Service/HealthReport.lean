import PageServer.Proofs.Service.Kept
import PageServer.Proofs.Service.PageAnswer
import PageServer.Proofs.View.Health
/-! The health check tells what the pages would answer. It looks for sources and the pages fetch
templates, which may have been kept, but both find nothing in the same cases, and a page without
its template is the only one that is answered as not found. -/
namespace PageServer

open Http Files Template

/-! Documents -/

section Documents

end Documents

/-! Pages -/

section Pages

variable {τ : Type} [Clock τ] {service : Service τ} {store : Store} {m : Memory τ} {v : Visit τ}
  {p : PageRoute}

end Pages

/-! Checks -/

section Checks

variable {τ : Type} [Clock τ] {service : Service τ} {store : Store} {m : Memory τ} {v : Visit τ}

/-- The entries of the health check among others. -/
def Health.warnings (entries : List LogEntry) : List LogEntry :=
  entries.filter (·.logger == "pagedemo.routes.health")

theorem Health.warnings_append (front back : List LogEntry) :
    warnings (front ++ back) = warnings front ++ warnings back :=
  List.filter_append ..

theorem Health.warnings_missing (views : List String) :
    warnings (views.map missingEntry) = views.map missingEntry := by
  apply List.filter_eq_self.mpr
  intro entry member
  obtain ⟨view, _, rfl⟩ := List.mem_map.mp member
  rfl

theorem Health.warnings_forgottenEntries (count : Nat) :
    warnings (Limiter.forgottenEntries count) = [] := by
  unfold Limiter.forgottenEntries
  split <;> rfl

omit [Clock τ] in
theorem Health.warnings_note (requestId path : String)
    (served : Logged (Except Failure Response)) :
    warnings (AccessLog.note v requestId path served).entries = warnings served.entries := by
  unfold AccessLog.note
  split
  · rfl
  · cases served.result with
    | ok response =>
        dsimp only
        rw [warnings_append]
        exact List.append_nil _
    | error failure => rfl

theorem Health.warnings_guard {limits : Limits} {l : Limiter τ} {path : String}
    (passes : path ∈ Limiter.exemptPaths ∨ (l.ask limits v.clientName v.now).verdict = .admitted)
    (behind : Logged (Except Failure Response)) :
    warnings (l.guard limits v path behind).1.entries = warnings behind.entries := by
  by_cases exempt : path ∈ Limiter.exemptPaths
  · rw [Limiter.guard_of_exempt _ _ _ exempt]
  · rw [Limiter.guard_of_not_exempt _ _ _ exempt]
    simp only [Limiter.entriesBy, passes.resolve_left exempt, warnings_append,
      warnings_forgottenEntries, List.nil_append]

/-- The layers around the routes have no entries of the health check. -/
theorem Service.warnings_serve (admitted : service.Admits m.limiter v)
    (direct : Cors.isPreflight v.request = false) {r : Response}
    (answered : (service.routed store v).result = .ok r) :
    Health.warnings (service.serve store m v).entries =
      Health.warnings (service.routed store v).entries := by
  have raised := service.serve_raised store m v
  rw [Service.author_of_admits admitted direct store, Service.routesAuthor, answered] at raised
  have outcome : Health.warnings (service.outcome store ⟨m.limiter, v.requestId⟩ v).1.entries =
      Health.warnings (service.routed store v).entries := by
    obtain ⟨path, reading, passes⟩ := admitted
    simp only [Service.outcome, direct, reading, Bool.false_eq_true, ↓reduceIte, Service.marked,
      Health.warnings_note, Health.warnings_guard passes, Service.inner, Service.answered, answered]
  rw [← outcome]
  unfold Service.serve at raised ⊢
  dsimp only at raised ⊢
  cases result : (service.outcome store ⟨m.limiter, v.requestId⟩ v).1.result with
  | ok response => rfl
  | error failure => simp [result, Service.reply] at raised

/-- A visit asks for the health of the service, and no layer in front of the routes answers it. -/
structure Service.AsksHealth (service : Service τ) (l : Limiter τ) (v : Visit τ) : Prop where
  method : v.request.method = "GET"
  path : v.request.path = "/health"
  admitted : service.Admits l v

theorem Service.routed_health (asks : service.AsksHealth m.limiter v) :
    service.routed store v =
      Health.answer service.resolver store.tree Pages.viewNames service.start v.now := by
  have goes := Route.destination_health service.extra
  simp only [Service.routed, Service.routes, asks.method, asks.path, goes]
  rfl

theorem Service.direct_of_asks (asks : service.AsksHealth m.limiter v) :
    Cors.isPreflight v.request = false := by
  simp only [Cors.isPreflight, asks.method]
  rfl

theorem Service.serve_health (asks : service.AsksHealth m.limiter v) {found : String → Bool}
    (looked : ∀ view ∈ Pages.viewNames, service.resolver.hasView store.tree view = .ok (found view))
    {uptime : Float} {finite : Numeral.Binary}
    (elapsed : Clock.elapsed v.now service.start = .ok uptime)
    (stated : Numeral.valueOf uptime = .finite finite) :
    let report := Health.reportOf Pages.viewNames found uptime
    (service.serve store m v).response.status = 200 ∧
      (service.serve store m v).response.body = .text report.document.json ∧
      Health.warnings (service.serve store m v).entries =
        (Pages.viewNames.filter fun view => !found view).map Health.missingEntry := by
  intro report
  have direct := Service.direct_of_asks asks
  have routed : service.routed store v =
      Health.answer service.resolver store.tree Pages.viewNames service.start v.now :=
    Service.routed_health asks
  have surveyed := Health.survey_of_found service.resolver store.tree Pages.viewNames found looked
  have answered : (service.routed store v).result =
      .ok (jsonResponse 200 [] report.document) := by
    rw [routed]
    exact Health.answer_of_found service.resolver store.tree Pages.viewNames _ _ looked elapsed
      stated
  have author := Service.author_of_admits asks.admitted direct store
  rw [Service.routesAuthor, answered] at author
  have warned : Health.warnings (service.routed store v).entries =
      (Pages.viewNames.filter fun view => !found view).map Health.missingEntry := by
    rw [routed]
    unfold Health.answer
    dsimp only
    rw [surveyed]
    exact Health.warnings_missing _
  obtain ⟨status, body⟩ := Service.serve_route author
  exact ⟨status, body, (Service.warnings_serve asks.admitted direct answered).trans warned⟩

end Checks

/-! Runs -/

section Runs

variable {τ : Type} [Clock τ]

def visitTo (path : String) : Visit Rat :=
  { request := { method := "GET", path := path, headers := [("host", "test")] }
    now := 0
    identifier := "01234567-89ab-4def-8123-456789abcdef" }

/-- A template is written, shown, and written again; every place is marked anew each time. -/
def writing : List (Event Rat) :=
  [.write "index.html" (.file "Hi".toUTF8.data.toList) fun _ => 1, .visit (visitTo "/index"),
    .write "index.html" (.file "Ho".toUTF8.data.toList) fun _ => 2]

def written : State Rat :=
  (greeter.runEvents ⟨.ofTree ⟨[]⟩, {}⟩ writing).2

/-- A health check at the very start, which states that no time has passed. -/
theorem greeter_asks_health (l : Limiter Rat) :
    greeter.AsksHealth l (visitTo "/health") ∧
      Clock.elapsed (visitTo "/health").now greeter.start = .ok (ExactClock.hundredths 0) ∧
      Numeral.valueOf (ExactClock.hundredths 0) = .finite ⟨false, 0, -1074⟩ := by
  have rest : (visitTo "/health").now - greeter.start = 0 := by decide +kernel
  refine ⟨⟨rfl, rfl, "/health", by decide +kernel, .inl (by decide +kernel)⟩, ?_, by decide +kernel⟩
  exact congrArg (fun seconds => Except.ok (ExactClock.hundredths seconds)) rest

end Runs

end PageServer
