import PageServer.Service.Run
import PageServer.Proofs.Limiter.Guard
/-! How an answer comes about. One layer makes it: the one for preflights, the limiter, a route, or
the handler of a failure. The layers around that one add headers and entries, but leave status and
body as they are. -/
namespace PageServer

open Http Files

/-- What makes an answer. -/
inductive Author where
  | preflight
  | limiter (seconds : Int)
  | route (response : Response)
  | handler (h : Handler) (failure : Failure)

/-! Layers -/

section Layers

theorem values_append (front back : Headers) (name : String) :
    Headers.values (front ++ back) name =
      Headers.values front name ++ Headers.values back name := by
  simp [Headers.values]

theorem values_of_ne {field name : String} (differ : field ≠ name) (value : String) :
    Headers.values [(field, value)] name = [] := by
  simp [Headers.values, differ]

/-- The length and the media type go into fields of their own. -/
theorem values_fullHeaders (status : Status) (headers : Headers) (mediaType : Option String)
    (body : Body) {name : String} (notLength : "content-length" ≠ name)
    (notType : "content-type" ≠ name) :
    Headers.values (fullHeaders status headers mediaType body) name =
      Headers.values headers name := by
  have length (condition : Bool) (value : String) :
      Headers.values (if condition then [("content-length", value)] else []) name = [] := by
    cases condition
    · rfl
    · exact values_of_ne notLength value
  have type (condition : Bool) (value : String) :
      Headers.values (if condition then [] else [("content-type", value)]) name = [] := by
    cases condition
    · exact values_of_ne notType value
    · rfl
  cases body <;> cases mediaType <;>
    simp only [fullHeaders, values_append, length, type, List.append_nil]

theorem compress_status (request : Request) (r : Response) :
    (Compression.compress request r).status = r.status := by
  unfold Compression.compress
  repeat' split <;> try rfl

theorem compress_body (request : Request) (r : Response) :
    (Compression.compress request r).body = r.body := by
  unfold Compression.compress
  repeat' split <;> try rfl

theorem note_result {τ : Type} (v : Visit τ) (requestId path : String)
    (served : Logged (Except Failure Response)) :
    (AccessLog.note v requestId path served).result = served.result := by
  unfold AccessLog.note
  split
  · rfl
  · cases result : served.result <;> rfl

theorem answered_result (requestId : String) (served : Logged (Except Failure Response)) :
    (Service.answered requestId served).result =
      match served.result with
      | .ok response => .ok response
      | .error failure =>
          match failure.answer? requestId with
          | some (response, _) => .ok response
          | none => .error failure := by
  obtain ⟨result, entries⟩ := served
  cases result with
  | ok response => rfl
  | error failure =>
      simp only [Service.answered]
      cases failure.answer? requestId <;> rfl

end Layers

/-! Authors -/

namespace Service

variable {τ : Type} [Clock τ]

/-- What makes the answer to a visit that reaches the routes. -/
def routesAuthor (service : Service τ) (store : Store) (v : Visit τ) : Author :=
  match (service.routed store v).result with
  | .ok response => .route response
  | .error failure => .handler (Handler.nearest failure.errorClass) failure

/-- What makes the answer to a visit that the limiter has decided on. -/
def verdictAuthor (service : Service τ) (store : Store) (v : Visit τ) : Verdict → Author
  | .admitted => service.routesAuthor store v
  | .refused _ seconds => .limiter seconds
  | .unanchored => .handler .unexpected Limiter.unanchoredFailure
  | .uncountable fault => .handler .unexpected (.ofClock fault)

/-- What makes the answer to a visit. -/
def author (service : Service τ) (store : Store) (l : Limiter τ) (v : Visit τ) : Author :=
  if Cors.isPreflight v.request then .preflight
  else match urlPath v.request with
    | .error fault => .handler .unexpected (.ofUrl fault)
    | .ok path =>
        if path ∈ Limiter.exemptPaths then service.routesAuthor store v
        else service.verdictAuthor store v (l.ask service.limits v.clientName v.now).verdict

/-- A response with what its headers say to pages of other sites. -/
def marking (service : Service τ) (request : Request) (r : Response) : Response :=
  { r with headers := Cors.mark service.settings.origins request r.headers }

/-- What the layers inside the one of the request identifier make of an author's answer. -/
def reply (service : Service τ) (requestId : String) (v : Visit τ) :
    Author → Except Failure Response
  | .preflight => .ok (Cors.preflightResponse service.settings.origins v.request)
  | .limiter seconds => .ok (service.marking v.request (Limiter.refusalResponse seconds))
  | .route response => .ok (service.marking v.request (Compression.compress v.request response))
  | .handler _ failure =>
      match failure.answer? requestId with
      | some (response, _) =>
          .ok (service.marking v.request (Compression.compress v.request response))
      | none => .error failure

theorem inner_result (service : Service τ) (store : Store) (requestId : String) (v : Visit τ) :
    (service.inner store requestId v).result.map (service.marking v.request) =
      service.reply requestId v (service.routesAuthor store v) := by
  simp only [inner, answered_result, routesAuthor]
  cases (service.routed store v).result with
  | ok response => rfl
  | error failure =>
      simp only [reply]
      cases failure.answer? requestId <;> rfl

omit [Clock τ] in
theorem marked_result (service : Service τ) (request : Request)
    (served : Logged (Except Failure Response)) :
    (service.marked request served).result = served.result.map (service.marking request) := rfl

theorem outcome_result (service : Service τ) (store : Store) (m : Memory τ) (v : Visit τ) :
    (service.outcome store m v).1.result =
      service.reply m.requestId v (service.author store m.limiter v) := by
  -- Preflights end outside the limiter, exempt paths pass it, and the rest depends on its verdict.
  unfold outcome author
  split
  · rfl
  · cases urlPath v.request with
    | error fault => rfl
    | ok path =>
        have routed := service.inner_result store m.requestId v
        by_cases exempt : path ∈ Limiter.exemptPaths
        · simp only [marked_result, note_result, Limiter.guard_of_exempt _ _ _ exempt, exempt,
            ↓reduceIte, routed]
        · simp only [marked_result, note_result, Limiter.guard_of_not_exempt _ _ _ exempt, exempt,
            ↓reduceIte]
          cases (m.limiter.ask service.limits v.clientName v.now).verdict with
          | admitted => exact routed
          | refused held seconds => rfl
          | unanchored => rfl
          | uncountable fault => cases fault <;> rfl

/-- What the limiter keeps after a visit. -/
def limiterAfter (service : Service τ) (l : Limiter τ) (v : Visit τ) : Limiter τ :=
  if Cors.isPreflight v.request then l
  else match urlPath v.request with
    | .error _ => l
    | .ok path =>
        if path ∈ Limiter.exemptPaths then l
        else (l.ask service.limits v.clientName v.now).limiter

theorem outcome_memory (service : Service τ) (store : Store) (m : Memory τ) (v : Visit τ) :
    (service.outcome store m v).2 = { m with limiter := service.limiterAfter m.limiter v } := by
  unfold outcome limiterAfter
  split
  · rfl
  · cases urlPath v.request with
    | error fault => rfl
    | ok path =>
        by_cases exempt : path ∈ Limiter.exemptPaths
        · simp only [Limiter.guard_of_exempt _ _ _ exempt, exempt, ↓reduceIte]
        · simp only [Limiter.guard_of_not_exempt _ _ _ exempt, exempt, ↓reduceIte]

/-- The response to a visit, by its author. The last resort and the layers further in know the visit
by the same identifier, whatever was set before. -/
theorem serve_response (service : Service τ) (store : Store) (m : Memory τ) (v : Visit τ) :
    (service.serve store m v).response =
      match service.reply v.requestId v (service.author store m.limiter v) with
      | .ok r => { r with headers := r.headers.set Visit.requestIdHeader v.requestId }
      | .error _ => Failure.unexpectedResponse v.requestId := by
  have replied := service.outcome_result store { m with requestId := v.requestId } v
  have kept := service.outcome_memory store { m with requestId := v.requestId } v
  simp only [serve, replied]
  cases service.reply v.requestId v (service.author store m.limiter v) with
  | ok r => rfl
  | error failure => simp only [kept, ite_self]

/-- The last resort passes on what no author's answer was made of. -/
theorem serve_raised (service : Service τ) (store : Store) (m : Memory τ) (v : Visit τ) :
    (service.serve store m v).raised =
      match service.reply v.requestId v (service.author store m.limiter v) with
      | .ok _ => none
      | .error failure => some failure := by
  have replied := service.outcome_result store { m with requestId := v.requestId } v
  simp only [serve, replied]
  cases service.reply v.requestId v (service.author store m.limiter v) <;> rfl

/-- What is shared by all visits depends on the visit and on what the limiter kept, but not on the
template files or on the identifier that was set before. -/
theorem serve_memory (service : Service τ) (store : Store) (m : Memory τ) (v : Visit τ) :
    (service.serve store m v).memory = ⟨service.limiterAfter m.limiter v, v.requestId⟩ := by
  have kept := service.outcome_memory store { m with requestId := v.requestId } v
  simp only [serve]
  cases (service.outcome store { m with requestId := v.requestId } v).1.result <;>
    simp only [kept]

end Service

end PageServer
