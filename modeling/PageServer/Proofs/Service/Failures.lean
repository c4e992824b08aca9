import PageServer.Proofs.Service.AccessEntry
import PageServer.Proofs.Service.PageAnswer
/-! Failures of routes. The class of a failure decides who answers it: the handler of the nearest
class above it inside the layers, or the last resort outside them, where the answer gets no more
headers and no entry of the access log. For the limiter the visit counts like any other. -/
namespace PageServer

open Http Files

/-! Classes -/

namespace Handler

/-- Above a class there is at most one of the two classes with handlers of their own. -/
theorem nearest_app (c : AppErrorKind) :
    nearest (.app c) =
      if .standard .notFound ∈ c.lineage then viewNotFound
      else if .standard .render ∈ c.lineage then viewRender
      else application := by
  induction c with
  | standard c => cases c <;> decide
  | derived name parent ih =>
      rw [nearest_derived, ih]
      simp only [AppErrorKind.lineage, List.mem_cons, reduceCtorEq, false_or]

end Handler

/-- The status of an HTTP answer is the one that it was made with. -/
theorem Failure.httpOf_ok {status detail headers : Value} {failure : Failure}
    (made : httpOf status detail headers = .ok failure) :
    ∃ own shown fields, failure = .http own shown fields ∧ own.value = status := by
  unfold httpOf at made
  obtain ⟨bodied, _, made⟩ := ok_of_bind made
  split at made
  · cases made
  · obtain ⟨fields, _, made⟩ := ok_of_bind made
    obtain ⟨own, stated, made⟩ := ok_of_bind made
    cases made
    refine ⟨own, _, fields, rfl, ?_⟩
    unfold statusFor statusOfValue at stated
    split at stated
    · cases stated
      rfl
    · cases stated

/-! Answers -/

section Failures

variable {τ : Type} [Clock τ] {service : Service τ} {store : Store} {m : Memory τ} {v : Visit τ}
  {path : String} {failure : Failure}

/-- A visit that counts gets to the routes, which fail. -/
structure Service.Fails (service : Service τ) (store : Store) (l : Limiter τ) (v : Visit τ)
    (failure : Failure) : Prop where
  direct : Cors.isPreflight v.request = false
  counts : ∃ path, urlPath v.request = .ok path ∧ path ∉ Limiter.exemptPaths
  admitted : (l.ask service.limits v.clientName v.now).verdict = .admitted
  raised : (service.routed store v).result = .error failure

theorem Service.Fails.author (fails : service.Fails store m.limiter v failure) :
    service.author store m.limiter v = .handler (Handler.nearest failure.errorClass) failure := by
  obtain ⟨path, reading, _⟩ := fails.counts
  have admitted : service.Admits m.limiter v := ⟨path, reading, .inr fails.admitted⟩
  rw [Service.author_of_admits admitted fails.direct store, Service.routesAuthor, fails.raised]

theorem Service.Fails.limiter (fails : service.Fails store m.limiter v failure) :
    (service.serve store m v).limiter =
    (m.limiter.ask service.limits v.clientName v.now).limiter := by
  obtain ⟨path, reading, counts⟩ := fails.counts
  simp only [Served.limiter, service.serve_memory, Service.limiterAfter, fails.direct, reading,
    counts, Bool.false_eq_true, ↓reduceIte]

/-- A failure that a handler answers shows the handler's response, and ends there. -/
theorem Service.Fails.answered (fails : service.Fails store m.limiter v failure)
    {response : Response} {entries : List LogEntry}
    (answer : failure.answer? v.requestId = some (response, entries)) :
    (service.serve store m v).raised = none ∧
      (service.serve store m v).response.status = response.status ∧
      (service.serve store m v).response.body = response.body ∧
      ∀ name ∉ layerFields, (service.serve store m v).response.headers.values name =
        response.headers.values name := by
  have replied : service.reply v.requestId v (service.author store m.limiter v) =
      .ok (service.marking v.request (Compression.compress v.request response)) := by
    rw [fails.author]
    simp only [Service.reply, answer]
  rw [service.serve_response, service.serve_raised, replied]
  refine ⟨rfl, compress_status _ _, compress_body _ _, fun name other => ?_⟩
  exact service.values_of_layers v response other

theorem Service.Fails.noted (fails : service.Fails store m.limiter v failure)
    (answered : (service.serve store m v).raised = none) :
    ∃ e, AccessLog.among (service.serve store m v).entries = [e] ∧
      AccessLog.Describes v (service.serve store m v).response e := by
  obtain ⟨path, reading, counts⟩ := fails.counts
  have loud : path ≠ "/health" := by
    rintro rfl
    exact counts (by decide)
  exact (AccessLog.tells_visit service store m v).1 ⟨fails.direct, ⟨path, reading, loud⟩, answered⟩

/-- Only the last resort answers a failure of which no handler knows. -/
theorem Service.Fails.passed_on (fails : service.Fails store m.limiter v failure)
    (unknown : failure.answer? v.requestId = none) :
    (service.serve store m v).response = Failure.unexpectedResponse v.requestId ∧
      (service.serve store m v).raised = some failure ∧
      AccessLog.among (service.serve store m v).entries = [] := by
  have replied : service.reply v.requestId v (service.author store m.limiter v) =
      .error failure := by
    rw [fails.author]
    simp only [Service.reply, unknown]
  have raised := service.serve_raised store m v
  rw [replied] at raised
  rw [service.serve_response, replied]
  refine ⟨rfl, raised, (AccessLog.tells_visit service store m v).2 ?_⟩
  rintro ⟨_, _, answered⟩
  rw [raised] at answered
  cases answered

/-- What gets to the last resort is logged there, with its trace. -/
theorem Service.unexpectedEntry_mem (raised : (service.serve store m v).raised = some failure) :
    Failure.unexpectedEntry v.requestId failure ∈ (service.serve store m v).entries := by
  have kept := service.outcome_memory store { m with requestId := v.requestId } v
  unfold Service.serve at raised ⊢
  dsimp only at raised ⊢
  cases result : (service.outcome store { m with requestId := v.requestId } v).1.result with
  | ok r => simp [result] at raised
  | error reason =>
      simp only [result, Option.some.injEq] at raised
      subst raised
      simp [kept]

theorem unexpectedResponse_fields (requestId : String) :
    ∀ field ∈ (Failure.unexpectedResponse requestId).headers,
      field.1 ∈ ["x-request-id", "content-length", "content-type"] := by
  intro field member
  unfold Failure.unexpectedResponse jsonResponse fullHeaders at member
  dsimp only at member
  simp only [List.mem_append] at member
  -- The identifier is given if there is one; the length and the type are always stated.
  rcases member with (known | length) | type
  · split at known
    · cases known
    · simp_all
  · split at length <;> simp_all
  · split at type <;> simp_all

/-! By class -/

/-- The word for an error of the application, by the nearest class above it that has one. -/
def AppErrorKind.code (c : AppErrorKind) : String :=
  if .standard .notFound ∈ c.lineage then "view_not_found"
  else if .standard .render ∈ c.lineage then "view_render_error"
  else "server_error"

theorem code_of_nearest (c : AppErrorKind) : (Handler.nearest (.app c)).code = c.code := by
  rw [Handler.nearest_app]
  unfold AppErrorKind.code
  split
  · rfl
  · split <;> rfl

theorem Service.Fails.app {e : AppError} (fails : service.Fails store m.limiter v (.app e)) :
    (service.serve store m v).response.status = 500 ∧
      (service.serve store m v).response.body =
        .text (Failure.errorDocument e.errorClass.code e.message v.requestId).json ∧
      (service.serve store m v).raised = none ∧
      ∃ entry, AccessLog.among (service.serve store m v).entries = [entry] ∧
        entry.level = .error := by
  have answer : (Failure.app e).answer? v.requestId =
      some (Failure.applicationAnswer (Handler.nearest (.app e.errorClass)) v.requestId e) := rfl
  obtain ⟨raised, status, body, _⟩ := fails.answered answer
  obtain ⟨entry, noted, describes⟩ := fails.noted raised
  refine ⟨status, ?_, raised, entry, noted, describes.error.mpr ?_⟩
  · rw [body, ← code_of_nearest]
    rfl
  · rw [status]
    exact Int.le_refl 500

/-- The body of an HTTP answer: its detail, where the status allows a body. -/
def detailBody (own : Status) (detail : Value) : Body :=
  .text (if allowsBody own.code then (Value.dict [("detail", detail)]).json else "")

theorem httpAnswer_body (own : Status) (detail : Value) (headers : Headers) :
    (Failure.httpAnswer own detail headers).body = detailBody own detail := by
  unfold Failure.httpAnswer detailBody
  split <;> rfl

theorem Service.Fails.http {own : Status} {detail : Value} {headers : Headers}
    (fails : service.Fails store m.limiter v (.http own detail headers)) :
    (service.serve store m v).response.status = own ∧
      (service.serve store m v).response.body = detailBody own detail ∧
      (∀ name ∉ layerFields, (service.serve store m v).response.headers.values name =
        (Failure.httpAnswer own detail headers).headers.values name) ∧
      (service.serve store m v).raised = none := by
  have answer : (Failure.http own detail headers).answer? v.requestId =
      some (Failure.httpAnswer own detail headers, []) := rfl
  obtain ⟨raised, status, body, fields⟩ := fails.answered answer
  exact ⟨status.trans (httpAnswer_status ..), body.trans (httpAnswer_body ..), fields, raised⟩

theorem Service.Fails.invalid {errors : Value}
    (fails : service.Fails store m.limiter v (.invalid errors)) :
    (service.serve store m v).response.status = 422 ∧
      (service.serve store m v).response.body =
        .text (Value.dict [("detail", errors)]).json ∧
      (service.serve store m v).raised = none ∧
      ∃ entry, AccessLog.among (service.serve store m v).entries = [entry] := by
  have answer : (Failure.invalid errors).answer? v.requestId =
      some (Failure.invalidAnswer errors, []) := rfl
  obtain ⟨raised, status, body, _⟩ := fails.answered answer
  obtain ⟨entry, noted, _⟩ := fails.noted raised
  exact ⟨status, body, raised, entry, noted⟩

theorem Service.Fails.other {kind text : String}
    (fails : service.Fails store m.limiter v (.other kind text)) :
    (service.serve store m v).response = Failure.unexpectedResponse v.requestId ∧
      AccessLog.among (service.serve store m v).entries = [] ∧
      Failure.unexpectedEntry v.requestId (.other kind text) ∈ (service.serve store m v).entries ∧
      (service.serve store m v).raised = some (.other kind text) := by
  obtain ⟨response, raised, quiet⟩ := fails.passed_on rfl
  exact ⟨response, quiet, Service.unexpectedEntry_mem raised, raised⟩

/-- What a visit leaves behind depends on the settings, and not on what the routes made of it. -/
theorem Service.memory_of_settings {other : Service τ} (same : other.settings = service.settings)
    (store' : Store) (m : Memory τ) (v : Visit τ) :
    (other.serve store' m v).memory = (service.serve store m v).memory := by
  have limits : other.limits = service.limits := by
    unfold Service.limits
    rw [same]
  rw [service.serve_memory, other.serve_memory]
  unfold Service.limiterAfter
  rw [limits]

/-- How a failure of the routes is answered where a visit counts and is admitted. An error of the
application with a text for its message is answered by the handler of the nearest class above it, an
HTTP answer as what it is, and an invalid request with its errors; these end there. Any other
failure is answered by the last resort without a word about it, and with no headers but the
identifier, the length and the type; it is logged with its trace and passed on. In all cases the
visit is counted once, and what follows goes on, from whatever views are shown then, as it would
with any other routes and templates, by which the visit may as well have succeeded. -/
theorem failure_answered_by_class (fails : service.Fails store m.limiter v failure) :
    let served := service.serve store m v
    (∀ e text, failure = .app e → e.message = .text text →
      served.response.status = 500 ∧
      served.response.body = .text (Value.dict
        [("error", .text
            (if .standard .notFound ∈ e.errorClass.lineage then "view_not_found"
              else if .standard .render ∈ e.errorClass.lineage then "view_render_error"
              else "server_error")),
          ("message", .text text), ("request_id", .text v.requestId)]).json ∧
      served.raised = none ∧
      ∃ entry, AccessLog.among served.entries = [entry] ∧ entry.level = .error) ∧
    (∀ own detail headers, failure = .http own detail headers →
      served.response.status = own ∧
      served.response.body =
        .text (if allowsBody own.code then (Value.dict [("detail", detail)]).json else "") ∧
      (∀ name ∉ layerFields, served.response.headers.values name =
        (Failure.httpAnswer own detail headers).headers.values name) ∧
      served.raised = none) ∧
    (∀ status detail headers, Failure.httpOf status detail headers = .ok failure →
      served.response.status.value = status) ∧
    (∀ errors : Value, errors.isFinite = true → failure = .ofErrors errors →
      served.response.status = 422 ∧
      served.response.body = .text (Value.dict [("detail", errors)]).json ∧
      served.raised = none ∧ ∃ entry, AccessLog.among served.entries = [entry]) ∧
    (∀ kind text, failure = .other kind text →
      served.response.status = 500 ∧
      served.response.body = .text (Value.dict
        [("error", .text "internal_server_error"),
          ("message", .text
            "An unexpected error occurred. Please try again or contact support."),
          ("request_id", .text v.requestId)]).json ∧
      (∀ field ∈ served.response.headers,
        field.1 ∈ ["x-request-id", "content-length", "content-type"]) ∧
      AccessLog.among served.entries = [] ∧
      Failure.unexpectedEntry v.requestId failure ∈ served.entries ∧
      (Failure.unexpectedEntry v.requestId failure).failure = some kind ∧
      served.raised = some failure) ∧
    served.limiter.recorded = m.limiter.recorded + 1 ∧
    (m.limiter.Unique →
      Clock.earlier v.now (Clock.windowStart v.now service.limits.window) = false →
      served.limiter.times v.clientName =
        m.limiter.counted service.limits v.clientName v.now ++ [v.now]) ∧
    ∀ other : Service τ, other.settings = service.settings → ∀ store' later events,
      service.runEvents ⟨later, served.memory⟩ events =
        service.runEvents ⟨later, (other.serve store' m v).memory⟩ events := by
  intro served
  have counted := Limiter.ask_admitted fails.admitted
  rw [← fails.limiter] at counted
  refine ⟨?_, ?_, ?_, ?_, ?_, counted.1, counted.2, fun other same store' later events => ?_⟩
  · rintro e text rfl message
    have answered := fails.app
    rw [message] at answered
    exact answered
  · rintro own detail headers rfl
    exact fails.http
  · intro given detail headers made
    obtain ⟨own, shown, fields, rfl, value⟩ := Failure.httpOf_ok made
    rw [fails.http.1]
    exact value
  · rintro errors finite rfl
    rw [Failure.ofErrors, if_pos finite] at fails
    exact fails.invalid
  · rintro kind text rfl
    obtain ⟨response, quiet, logged, raised⟩ := fails.other
    simp only [served, response]
    exact ⟨rfl, rfl, unexpectedResponse_fields v.requestId, quiet, logged, rfl, raised⟩
  · rw [Service.memory_of_settings same store' m v]

def routeVisit : Visit Rat :=
  { request := { method := "GET", path := "/boom", headers := [("host", "test")] }
    now := 0
    identifier := "01234567-89ab-4def-8123-456789abcdef" }

def failing (failure : Failure) : Service Rat :=
  { settings := {}
    resolver := .standard "/@/templates" ".html"
    start := 0
    extra := [⟨.exactly "/boom", ["GET"], .fixed (.error failure)⟩] }

theorem failing_fails (failure : Failure) :
    (failing failure).Fails (.ofTree ⟨[]⟩) ({} : Memory Rat).limiter routeVisit failure := by
  have admitted : (Limiter.ask ⟨300, 60⟩ routeVisit.clientName routeVisit.now {}).verdict =
      .admitted := by
    decide +kernel
  exact ⟨by decide +kernel, ⟨"/boom", by decide +kernel, by decide +kernel⟩, admitted, rfl⟩

def oddError : AppError :=
  ⟨.derived "OddError" (.standard .notFound), .text "odd", .dict [], none, none⟩

theorem failure_answered_of_odd_error :
    let served := (failing (.app oddError)).serve (.ofTree ⟨[]⟩) {} routeVisit
    served.response.status = 500 ∧
      served.response.body = .text (Value.dict [("error", .text "view_not_found"),
        ("message", .text "odd"), ("request_id", .text "01234567")]).json ∧
      served.raised = none ∧ served.limiter.recorded = 1 := by
  obtain ⟨errors, _, _, _, _, recorded, _⟩ :=
    failure_answered_by_class (failing_fails (.app oddError))
  obtain ⟨status, body, raised, _⟩ := errors oddError "odd" rfl rfl
  exact ⟨status, body, raised, recorded⟩

def snowyArguments : List Value :=
  [.number (.whole 404), .text "x", .dict [("X", .text "☃")]]

/-- An HTTP answer from which no response can be made does not keep its status, and is passed on. -/
theorem snowy_answer_not_sent :
    let failure := Failure.make "HTTPException" snowyArguments []
    let served := (failing failure).serve (.ofTree ⟨[]⟩) {} routeVisit
    (Failure.httpCallable.bind snowyArguments []).isOk = true ∧
      (failing failure).Fails (.ofTree ⟨[]⟩) ({} : Memory Rat).limiter routeVisit failure ∧
      served.response.status = 500 ∧ served.raised ≠ none := by
  intro failure served
  have unknown : failure.answer? routeVisit.requestId = none := by decide +kernel
  obtain ⟨response, raised, _⟩ := (failing_fails failure).passed_on unknown
  refine ⟨by decide +kernel, failing_fails failure, ?_, ?_⟩
  · simp only [served, response]
    rfl
  · simp [served, raised]

end Failures

end PageServer
