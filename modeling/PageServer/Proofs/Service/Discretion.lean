import PageServer.Proofs.Service.Failures
/-! What responses tell about failures. Of an error of the application they show the class, as far
as handlers tell classes apart, and the message; of any other error nothing. The context of an
error, its view and template, and the files that a view could not be made of are for the log
alone. -/
namespace PageServer

open Http Files Template

section Failures

/-- The handlers make the same responses of two failures, under any identifier. -/
def Failure.Alike (failure failure' : Failure) : Prop :=
  ∀ requestId, (failure.answer? requestId).map Prod.fst = (failure'.answer? requestId).map Prod.fst

theorem Failure.alike_app {e e' : AppError} (kind : e.errorClass = e'.errorClass)
    (message : e.message = e'.message) : (Failure.app e).Alike (.app e') := by
  intro requestId
  simp only [answer?, applicationAnswer, Option.map_some, kind, message]

theorem Failure.alike_other (kind text kind' text' : String) :
    (Failure.other kind text).Alike (.other kind' text') :=
  fun _ => rfl

/-- The failure of a view by its handler, with nothing about where its templates are. -/
def Failure.ofView (view : String) : Handler → Failure
  | .viewNotFound => .app (AppError.makeNotFound (.text view) .none []).error
  | .viewRender => .app (AppError.makeRender (.text view) []).error
  | _ => .other "" ""

theorem Resolver.alike_ofView {r : Resolver} {store : Store} {facts : RequestFacts} {view : String}
    {model : Entries} {failure : Failure}
    (failed : r.markup store facts view model = .error failure) :
    failure.Alike (.ofView view (Handler.nearest failure.errorClass)) := by
  rcases error_of_markup facts model failed with
    ⟨_, rfl⟩ | ⟨_, ⟨fault, rfl⟩ | ⟨text, rfl⟩⟩
  · exact Failure.alike_app rfl rfl
  · unfold renderFailure
    split
    · exact Failure.alike_app rfl rfl
    · exact Failure.alike_other _ _ _ _
  · exact Failure.alike_other _ _ _ _

/-- Two resolvers that fail at one view under the same handler fail alike, whatever templates they
have. -/
theorem Resolver.alike_of_markup {r r' : Resolver} {store store' : Store}
    {facts facts' : RequestFacts} {view : String} {model model' : Entries}
    {failure failure' : Failure} (failed : r.markup store facts view model = .error failure)
    (failed' : r'.markup store' facts' view model' = .error failure')
    (same : Handler.nearest failure.errorClass = Handler.nearest failure'.errorClass) :
    failure.Alike failure' := by
  intro requestId
  rw [alike_ofView failed, same, alike_ofView failed']

end Failures

section Services

variable {τ : Type} [Clock τ]

/-- A visit gets to the routes, which fail. -/
structure Service.Raises (service : Service τ) (store : Store) (l : Limiter τ) (v : Visit τ)
    (failure : Failure) : Prop where
  direct : Cors.isPreflight v.request = false
  admitted : service.Admits l v
  raised : (service.routed store v).result = .error failure

/-- What the layers make of a handler's response, if there is one. -/
def Failure.sent (origins : List String) (request : Request) (requestId : String) :
    Option Response → Response
  | some r =>
      let r := Compression.compress request r
      { r with
        headers := (Cors.mark origins request r.headers).set Visit.requestIdHeader requestId }
  | none => Failure.unexpectedResponse requestId

variable {a b : Service τ} {store store' : Store} {m m' : Memory τ} {v v' : Visit τ}
  {failure failure' : Failure}

theorem Service.Raises.response (raises : a.Raises store m.limiter v failure) :
    (a.serve store m v).response =
      Failure.sent a.settings.origins v.request v.requestId
        ((failure.answer? v.requestId).map Prod.fst) := by
  have author : a.author store m.limiter v =
      .handler (Handler.nearest failure.errorClass) failure := by
    rw [Service.author_of_admits raises.admitted raises.direct store, Service.routesAuthor,
      raises.raised]
  rw [a.serve_response, author]
  simp only [Service.reply]
  cases failure.answer? v.requestId <;> rfl

theorem Service.response_of_alike (origins : a.settings.origins = b.settings.origins)
    (request : v.request = v'.request) (identifier : v.requestId = v'.requestId)
    (raises : a.Raises store m.limiter v failure) (raises' : b.Raises store' m'.limiter v' failure')
    (alike : failure.Alike failure') :
    (a.serve store m v).response = (b.serve store' m' v').response := by
  rw [raises.response, raises'.response, origins, request, identifier, alike]

theorem Service.Reaches.raises {p : PageRoute} (reaches : a.Reaches m.limiter v p)
    (failed : a.pageMarkup store v p = .error failure) : a.Raises store m.limiter v failure := by
  have routed := reaches.routed store
  rw [failed] at routed
  exact ⟨reaches.direct, reaches.admitted, routed⟩

/-- Two services with the same origins, which all services of one process have, get the same request
under the same identifier and let it through; all else about them and about the times may differ.
If routes of both raise errors of one class of the application with one message, or two errors of
which only the last resort knows, the responses are the same. They also are if both
fail to show the same page and the failures have the same handler. -/
theorem responses_of_failures_alike (a b : Service τ)
    (origins : a.settings.origins = b.settings.origins) (store store' : Store) (m m' : Memory τ)
    (v v' : Visit τ) (request : v.request = v'.request) (identifier : v.requestId = v'.requestId) :
    let response := (a.serve store m v).response
    let response' := (b.serve store' m' v').response
    (∀ e e', a.Raises store m.limiter v (.app e) → b.Raises store' m'.limiter v' (.app e') →
      e.errorClass = e'.errorClass → e.message = e'.message → response = response') ∧
    (∀ kind text kind' text', a.Raises store m.limiter v (.other kind text) →
      b.Raises store' m'.limiter v' (.other kind' text') → response = response') ∧
    ∀ p failure failure', a.Reaches m.limiter v p → b.Reaches m'.limiter v' p →
      a.pageMarkup store v p = .error failure → b.pageMarkup store' v' p = .error failure' →
      Handler.nearest failure.errorClass = Handler.nearest failure'.errorClass →
      response = response' := by
  intro response response'
  refine ⟨?_, ?_, ?_⟩
  · intro e e' raises raises' kind message
    exact Service.response_of_alike origins request identifier raises raises'
      (Failure.alike_app kind message)
  · intro kind text kind' text' raises raises'
    exact Service.response_of_alike origins request identifier raises raises'
      (Failure.alike_other kind text kind' text')
  · intro p failure failure' reaches reaches' failed failed' same
    exact Service.response_of_alike origins request identifier (reaches.raises failed)
      (reaches'.raises failed') (Resolver.alike_of_markup failed failed' same)

def searching (templatesDir suffix : String) : Service Rat :=
  { settings := {}, resolver := .standard templatesDir suffix, start := 0 }

def searchVisit (now : Rat) (identifier : String) : Visit Rat :=
  { request :=
      { method := "GET", path := "/login", headers := [("host", "test"), ("x-request-id", "r1")] }
    now := now
    identifier := identifier }

theorem responses_of_missing_views_alike :
    ((searching "/@/templates" ".html").serve (.ofTree greeting) {} (searchVisit 0 "a")).response =
      ((searching "/secret" ".txt").serve (.ofTree ⟨[]⟩) {} (searchVisit 9 "b")).response := by
  let a := searching "/@/templates" ".html"
  let b := searching "/secret" ".txt"
  have method : "GET" ∈ Pages.methods := by decide
  have admitted : a.Admits {} (searchVisit 0 "a") :=
    ⟨"/login", by decide +kernel, .inr (by decide +kernel)⟩
  have admitted' : b.Admits {} (searchVisit 9 "b") :=
    ⟨"/login", by decide +kernel, .inr (by decide +kernel)⟩
  have gone : (Resolver.standard "/@/templates" ".html").hasView greeting "login" = .ok false := rfl
  have gone' : (Resolver.standard "/secret" ".txt").hasView ⟨[]⟩ "login" = .ok false := rfl
  have lacks := (Resolver.hasView_eq_false_iff (Store.sound_ofTree _ _) "login").mp gone
  have lacks' := (Resolver.hasView_eq_false_iff (Store.sound_ofTree _ _) "login").mp gone'
  have alike := responses_of_failures_alike a b rfl (.ofTree greeting) (.ofTree ⟨[]⟩) {} {}
    (searchVisit 0 "a") (searchVisit 9 "b") rfl rfl
  exact alike.2.2 ⟨"/login", "handle_login", "login"⟩ _ _
    ⟨.tail _ (.head _), PageRoute.matches_path _, method, rfl, admitted⟩
    ⟨.tail _ (.head _), PageRoute.matches_path _, method, rfl, admitted'⟩
    (Resolver.markup_of_lacks _ _ lacks) (Resolver.markup_of_lacks _ _ lacks') rfl

/-! Where responses do differ -/

def plainError : Failure :=
  .app ⟨.standard .base, .text "m", .dict [], none, none⟩

/-- A service of which one route fails, and whose responses pages of an origin may read. -/
def failingFor (origin : String) (failure : Failure) : Service Rat :=
  { failing failure with settings := { corsOrigins := origin } }

def originVisit : Visit Rat :=
  { routeVisit with
    request :=
      { method := "GET", path := "/boom", headers := [("host", "test"), ("origin", "http://a")] } }

theorem failingFor_raises (origin : String) (failure : Failure) :
    (failingFor origin failure).Raises (.ofTree ⟨[]⟩) {} originVisit failure := by
  have admitted : (Limiter.ask ⟨300, 60⟩ originVisit.clientName originVisit.now {}).verdict =
      .admitted := by
    decide +kernel
  exact ⟨by decide +kernel, ⟨"/boom", by decide +kernel, .inr admitted⟩, rfl⟩

/-- Responses to one error tell origins apart if not all services let them read the responses, and
an invalid request is answered with what is wrong with it. -/
theorem responses_of_failures_differ :
    let a := failingFor "http://a" plainError
    let b := failingFor "http://b" plainError
    let errors (text : String) : Failure := .invalid (.list [.text text])
    let c := failingFor "http://a" (errors "a")
    let d := failingFor "http://a" (errors "b")
    let none : Store := .ofTree ⟨[]⟩
    (a.Raises none {} originVisit plainError ∧ b.Raises none {} originVisit plainError ∧
      (a.serve none {} originVisit).response ≠ (b.serve none {} originVisit).response) ∧
    c.Raises none {} originVisit (errors "a") ∧ d.Raises none {} originVisit (errors "b") ∧
      (c.serve none {} originVisit).response ≠ (d.serve none {} originVisit).response := by
  intro a b errors c d none
  refine ⟨⟨failingFor_raises _ _, failingFor_raises _ _, ?_⟩, failingFor_raises _ _,
    failingFor_raises _ _, ?_⟩
  · rw [(failingFor_raises _ _).response, (failingFor_raises _ _).response]
    intro same
    have granted := congrArg (fun r => r.headers.values Cors.originHeader) same
    revert granted
    decide +kernel
  · rw [(failingFor_raises _ _).response, (failingFor_raises _ _).response]
    intro same
    have body := congrArg (fun r => r.body) same
    revert body
    decide +kernel

end Services

end PageServer
