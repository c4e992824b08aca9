import PageServer.Proofs.Service.Answer
/-! The identifier of a request on its answer. The layer that sets the header stands inside the last
resort, so a failure that no handler answers gets its header outside that layer. -/
namespace PageServer

open Http Files

/-! Headers -/

section Headers

/-- A visit has an identifier if one was made for it. -/
theorem Visit.requestId_ne_empty {τ : Type} {v : Visit τ} (made : v.identifier ≠ "") :
    v.requestId ≠ "" := by
  have first : String.ofList ((v.identifier.toList.take 8).map Char.toLower) ≠ "" := by
    intro empty
    have nothing := congrArg String.toList empty
    simp only [String.toList_ofList, String.toList_empty, List.map_eq_nil_iff,
      List.take_eq_nil_iff, OfNat.ofNat_ne_zero, false_or] at nothing
    exact made (String.toList_eq_nil_iff.mp nothing)
  unfold Visit.requestId
  cases v.request.header? Visit.requestIdHeader with
  | none => exact first
  | some given =>
      by_cases empty : given.isEmpty
      · simpa only [empty, ↓reduceIte] using first
      · simp only [empty, Bool.false_eq_true, ↓reduceIte]
        rintro rfl
        exact empty rfl

theorem unexpectedResponse_values {requestId : String} (known : requestId ≠ "") :
    (Failure.unexpectedResponse requestId).headers.values Visit.requestIdHeader = [requestId] := by
  have notLength : "content-length" ≠ Visit.requestIdHeader := by decide
  have notType : "content-type" ≠ Visit.requestIdHeader := by decide
  have filled : requestId.isEmpty = false := by simpa [String.isEmpty_iff] using known
  simp only [Failure.unexpectedResponse, jsonResponse, values_fullHeaders _ _ _ _ notLength notType,
    filled]
  rfl

end Headers

/-! Bodies -/

section Bodies

variable {τ : Type} [Clock τ] (service : Service τ) (store : Store) (v : Visit τ)

/-- Every failure is answered by the handler that is nearest to its class. -/
theorem Service.author_handler {l : Limiter τ} {h : Handler} {failure : Failure}
    (author : service.author store l v = .handler h failure) :
    h = Handler.nearest failure.errorClass := by
  have routes : service.routesAuthor store v = .handler h failure →
      h = Handler.nearest failure.errorClass := by
    intro author
    unfold Service.routesAuthor at author
    cases result : (service.routed store v).result with
    | ok response => simp [result] at author
    | error reason =>
        simp only [result, Author.handler.injEq] at author
        obtain ⟨rfl, rfl⟩ := author
        rfl
  -- A failure comes from the URL, from the routes or from the limiter's clock.
  unfold Service.author at author
  split at author
  · cases author
  · split at author
    · cases author
      rfl
    · split at author
      · exact routes author
      · cases verdict : (l.ask service.limits v.clientName v.now).verdict with
        | admitted =>
            rw [verdict] at author
            exact routes author
        | refused held seconds =>
            rw [verdict] at author
            cases author
        | unanchored =>
            rw [verdict] at author
            cases author
            rfl
        | uncountable fault =>
            rw [verdict] at author
            cases author
            cases fault <;> rfl

omit [Clock τ] in
/-- A handler whose responses have a code shows the identifier it knows beside the code; only the
last resort leaves the answer to the outside. -/
theorem Service.reply_handler {h : Handler} {failure : Failure} (requestId : String)
    (nearest : h = Handler.nearest failure.errorClass) (document : h ∉ [.http, .validation]) :
    (h = .unexpected ∧ service.reply requestId v (.handler h failure) = .error failure) ∨
      ∃ r message, service.reply requestId v (.handler h failure) = .ok r ∧ r.status = 500 ∧
        r.body = .text (Value.dict [("error", .text h.code), ("message", message),
          ("request_id", .text requestId)]).json := by
  cases failure with
  | app e =>
      have kind : (Failure.app e).errorClass = .app e.errorClass := rfl
      rw [kind] at nearest
      subst nearest
      have answered : (Failure.app e).answer? requestId =
          some (Failure.applicationAnswer (Handler.nearest (.app e.errorClass)) requestId e) := rfl
      simp only [reply, answered]
      refine .inr ⟨_, e.message, rfl, ?_, ?_⟩
      · simp only [marking, compress_status, Failure.applicationAnswer, jsonResponse]
      · simp only [marking, compress_body, Failure.applicationAnswer, jsonResponse,
          Failure.errorDocument]
  | http status detail headers =>
      rw [nearest] at document
      exact absurd (.head _) document
  | invalid errors =>
      rw [nearest] at document
      exact absurd (.tail _ (.head _)) document
  | other kind text =>
      rw [nearest]
      exact .inl ⟨Handler.nearest_other kind, rfl⟩

end Bodies

/-! Answers -/

section Answers

variable {τ : Type} [Clock τ]

theorem Handler.code_mem {h : Handler} (document : h ∉ [.http, .validation]) :
    h.code ∈ ["view_not_found", "view_render_error", "server_error", "internal_server_error"] := by
  cases h <;> simp_all [Handler.code]

/-- Whatever was kept before, and whatever routes there are: the answer to a visit has the header of
the identifier exactly once, with the first value the request brings along, unless there is none or
it is empty, and else with the first eight characters of the identifier made for the visit. The body
of an answer that a handler makes for an error states the error, a message and the same identifier,
unless the error is an HTTP answer itself or the request was found invalid. -/
theorem request_id_on_every_answer (service : Service τ) (store : Store) (m : Memory τ)
    (v : Visit τ)
    (made : v.identifier ≠ "") :
    let firstEight := String.ofList ((v.identifier.toList.map Char.toLower).take 8)
    let id := match v.request.header? "x-request-id" with
      | some given => if given = "" then firstEight else given
      | none => firstEight
    let answer := (service.serve store m v).response
    answer.headers.values "x-request-id" = [id] ∧
      ∀ h failure, service.author store m.limiter v = .handler h failure →
        h ∉ [.http, .validation] → answer.status = 500 ∧
          ∃ code ∈ ["view_not_found", "view_render_error", "server_error", "internal_server_error"],
            ∃ message : Value, answer.body = .text (Value.dict
              [("error", .text code), ("message", message), ("request_id", .text id)]).json := by
  intro firstEight id answer
  have known : v.requestId = id := by
    cases given : v.request.header? "x-request-id" <;>
      simp only [Visit.requestId, Visit.requestIdHeader, id, firstEight, given, String.isEmpty_iff,
        List.map_take]
  have response := service.serve_response store m v
  have filled := Visit.requestId_ne_empty made
  rw [← known]
  simp only [answer, response]
  constructor
  -- Only a failure that no handler answers gets its header from the last resort.
  · cases service.reply v.requestId v (service.author store m.limiter v) with
    | ok r => exact Headers.values_set r.headers _ _
    | error failure => exact unexpectedResponse_values filled
  · intro h failure author document
    have nearest := service.author_handler store v author
    rw [author]
    rcases service.reply_handler v v.requestId nearest document with
      ⟨last, passed⟩ | ⟨r, message, replied, status, body⟩
    · rw [passed]
      exact ⟨rfl, _, last ▸ Handler.code_mem document, .text Failure.unexpectedMessage, rfl⟩
    · rw [replied]
      exact ⟨status, _, Handler.code_mem document, message, body⟩

/-- A service with a route that fails. -/
def troubled : Service Rat :=
  { settings := {}
    resolver := .standard "/@bundled" ".html"
    start := 0
    extra := [⟨.exactly "/boom", ["GET"], .fixed (.error (.other "RuntimeError" "boom"))⟩] }

/-- A visit to that route, with an empty identifier. -/
def troubledVisit : Visit Rat :=
  { request := { method := "GET", path := "/boom", headers := [("x-request-id", "")] }
    now := 0
    identifier := "01234567-89ab-4def-8123-456789abcdef" }

theorem request_id_on_answer_of_last_resort :
    let answer := (troubled.serve (.ofTree ⟨[]⟩) {} troubledVisit).response
    answer.headers.values "x-request-id" = ["01234567"] ∧
      answer.status = 500 ∧
        ∃ code ∈ ["view_not_found", "view_render_error", "server_error", "internal_server_error"],
          ∃ message : Value, answer.body = .text (Value.dict [("error", .text code),
            ("message", message), ("request_id", .text "01234567")]).json := by
  have made : troubledVisit.identifier ≠ "" := by decide
  have path : urlPath troubledVisit.request = .ok "/boom" := by decide +kernel
  have counts : "/boom" ∉ Limiter.exemptPaths := by decide +kernel
  have preflight : Cors.isPreflight troubledVisit.request = false := by decide +kernel
  have admitted : (Limiter.ask troubled.limits troubledVisit.clientName troubledVisit.now
      {}).verdict = .admitted := by
    decide +kernel
  have author : troubled.author (.ofTree ⟨[]⟩) {} troubledVisit =
      .handler .unexpected (.other "RuntimeError" "boom") := by
    simp only [Service.author, preflight, path, counts, admitted, Bool.false_eq_true, ↓reduceIte]
    rfl
  have given : troubledVisit.request.header? "x-request-id" = some "" := by decide +kernel
  have first : String.ofList ((troubledVisit.identifier.toList.map Char.toLower).take 8) =
      "01234567" := by
    decide +kernel
  have stated := request_id_on_every_answer troubled (.ofTree ⟨[]⟩) {} troubledVisit made
  simp only [given, first, ↓reduceIte] at stated
  obtain ⟨header, documents⟩ := stated
  exact ⟨header, documents _ _ author (by decide)⟩

end Answers

end PageServer
