import PageServer.Service.Startup
import PageServer.Proofs.Service.AccessLog
import PageServer.Proofs.Service.Admission
import PageServer.Proofs.Service.Routing
import PageServer.Proofs.View.Health
import PageServer.Proofs.View.Markup
/-! The header fields of answers. Each layer writes fields of its own, and so do the endpoints of
the standard routes; all other fields keep the values they have. -/
namespace PageServer

open Http Files

section Fields

variable {name : String}

theorem values_erase_of_ne {other : String} (differ : other ≠ name) (headers : Headers) :
    Headers.values (headers.erase name) other = headers.values other := by
  simp only [Headers.values, Headers.erase, List.filter_filter]
  congr 1
  apply List.filter_congr
  intro field _
  by_cases same : field.1 = other
  · simp [same, differ]
  · simp [same]

theorem values_compress (request : Request) (r : Response) (vary : name ≠ "vary")
    (length : name ≠ "content-length") (encoding : name ≠ "content-encoding") :
    (Compression.compress request r).headers.values name = r.headers.values name := by
  unfold Compression.compress
  split
  · rfl
  · split <;> simp only [Headers.addVary, Headers.values_set_of_ne _ _ _ _ vary,
      Headers.values_set_of_ne _ _ _ _ encoding, values_erase_of_ne length]

/-- The values that a field has in an outcome of the routes. -/
def valuesIn (name : String) : Except Failure Response → List String
  | .ok r => r.headers.values name
  | .error (.http _ _ headers) => headers.values name
  | .error _ => []

theorem httpAnswer_status (status : Status) (detail : Value) (headers : Headers) :
    (Failure.httpAnswer status detail headers).status = status := by
  unfold Failure.httpAnswer
  split <;> rfl

theorem values_httpAnswer (status : Status) (detail : Value) (headers : Headers)
    (notLength : "content-length" ≠ name) (notType : "content-type" ≠ name) :
    (Failure.httpAnswer status detail headers).headers.values name = headers.values name := by
  unfold Failure.httpAnswer jsonResponse
  split <;>
  · dsimp only
    exact values_fullHeaders _ _ _ _ notLength notType

theorem values_unexpectedResponse (requestId : String) (notLength : "content-length" ≠ name)
    (notType : "content-type" ≠ name) (notIdentifier : "x-request-id" ≠ name) :
    (Failure.unexpectedResponse requestId).headers.values name = [] := by
  unfold Failure.unexpectedResponse jsonResponse
  dsimp only
  rw [values_fullHeaders _ _ _ _ notLength notType]
  split
  · rfl
  · exact values_of_ne notIdentifier requestId

theorem values_refusalResponse (seconds : Int) (notLength : "content-length" ≠ name)
    (notType : "content-type" ≠ name) (notRetry : Limiter.retryHeader ≠ name) :
    (Limiter.refusalResponse seconds).headers.values name = [] := by
  unfold Limiter.refusalResponse jsonResponse
  dsimp only
  rw [values_fullHeaders _ _ _ _ notLength notType, values_of_ne notRetry]

end Fields

section Routes

variable {τ : Type}

/-- A service is created with the settings given and without routes of its own. -/
theorem Service.of_create {settings : Settings} {given : Option Resolver} {start : τ}
    {service : Service τ} (created : Service.create settings given start = .ok service) :
    service.extra = [] ∧ service.settings = settings := by
  unfold Service.create at created
  split at created
  · cases created
    exact ⟨rfl, rfl⟩
  · cases created

variable [Clock τ]

/-- The fields that standard routes write, besides the one that names a page's view. -/
def routeFields : List String :=
  ["content-length", "content-type", "location", "allow"]

/-- Without routes of its own, a service leads visits to pages or to what writes no other fields. -/
theorem Service.values_of_standard (service : Service τ) (plain : service.extra = [])
    (store : Store)
    (v : Visit τ) {name : String} (foreign : name ∉ routeFields) :
    (∃ p ∈ Pages.table, p.Matches v.request.path ∧ v.request.method ∈ Pages.methods ∧
        service.routed store v = service.run store v (.page p)) ∨
      valuesIn name (service.routed store v).result = [] := by
  simp only [routeFields, List.mem_cons, List.not_mem_nil, or_false, not_or] at foreign
  obtain ⟨notLength, notType, notLocation, notAllow⟩ := foreign
  have written (status : Status) (headers : Headers) (mediaType : Option String) (body : Body) :
      valuesIn name (.ok ⟨status, fullHeaders status headers mediaType body, body⟩) =
        headers.values name :=
    values_fullHeaders _ _ _ _ (Ne.symm notLength) (Ne.symm notType)
  have routes := Service.routes_of_plain plain
  unfold Service.routed
  rw [routes]
  -- One case for each way that a request can take, and one for each kind of endpoint.
  cases goes : Route.destination Route.standard v.request.method v.request.path with
  | endpoint e =>
      obtain ⟨r, member, found, has, endpoint⟩ := Route.of_destination goes
      cases e with
      | page p =>
          obtain ⟨page, rfl⟩ := Route.page_of_standard member endpoint
          exact .inl ⟨p, page, found, List.contains_iff_mem.mp has, rfl⟩
      | apiDocument => exact .inr (written ..)
      | documentation => exact .inr (written ..)
      | health =>
          rcases Health.answer_cases service.resolver store.tree Pages.viewNames service.start
            v.now with
            ⟨kind, text, failed⟩ | ⟨document, answered⟩
          · exact .inr (congrArg (valuesIn name) failed)
          · exact .inr ((congrArg (valuesIn name) answered).trans (written ..))
      | fixed outcome => exact absurd endpoint (Route.ne_fixed_of_standard member)
  | wrongMethod allowed => exact .inr (values_of_ne (Ne.symm notAllow) _)
  | redirect target => exact .inr ((written ..).trans (values_of_ne (Ne.symm notLocation) _))
  | unreadable digits => exact .inr rfl
  | unknown => exact .inr rfl

end Routes

/-! The layers around the routes -/

section Layers

variable {τ : Type} {service : Service τ} {store : Store} {m : Memory τ} {v : Visit τ}
  {name : String}

/-- The fields that layers around the routes may write or erase. -/
def layerFields : List String :=
  [Cors.credentialsHeader, "access-control-expose-headers", Cors.originHeader, "vary",
    "content-length", "content-encoding", Visit.requestIdHeader]

theorem Service.values_of_layers (service : Service τ) (v : Visit τ) (r : Response)
    (other : name ∉ layerFields) :
    Headers.values ((service.marking v.request (Compression.compress v.request r)).headers.set
      Visit.requestIdHeader v.requestId) name = r.headers.values name := by
  simp only [layerFields, List.mem_cons, List.not_mem_nil, or_false, not_or] at other
  obtain ⟨credentials, exposed, origin, vary, length, encoding, identifier⟩ := other
  unfold Service.marking
  dsimp only
  rw [Headers.values_set_of_ne _ _ _ _ identifier,
    values_mark _ _ _ credentials exposed origin vary, values_compress _ _ vary length encoding]

variable [Clock τ]

/-- An answer of the routes has the values that their outcome has. -/
theorem Service.values_of_routes
    (author : service.author store m.limiter v = service.routesAuthor store v)
    (other : name ∉ layerFields) (notType : "content-type" ≠ name) :
    (service.serve store m v).response.headers.values name =
      valuesIn name (service.routed store v).result := by
  have notLength : "content-length" ≠ name := by
    rintro rfl
    exact other (by decide)
  have notIdentifier : "x-request-id" ≠ name := by
    rintro rfl
    exact other (by decide)
  rw [service.serve_response, author, Service.routesAuthor]
  cases (service.routed store v).result with
  | ok r => simp only [Service.reply, valuesIn, service.values_of_layers v r other]
  | error failure =>
      cases failure with
      | app e =>
          simp only [Service.reply, Failure.answer?, valuesIn, Failure.applicationAnswer,
            service.values_of_layers v _ other, jsonResponse]
          exact values_fullHeaders _ _ _ _ notLength notType
      | http status detail headers =>
          simp only [Service.reply, Failure.answer?, valuesIn, service.values_of_layers v _ other,
            values_httpAnswer _ _ _ notLength notType]
      | invalid errors =>
          simp only [Service.reply, Failure.answer?, valuesIn, Failure.invalidAnswer,
            service.values_of_layers v _ other, jsonResponse]
          exact values_fullHeaders _ _ _ _ notLength notType
      | other kind text =>
          simp only [Service.reply, Failure.answer?, valuesIn]
          exact values_unexpectedResponse _ notLength notType notIdentifier

end Layers

end PageServer
