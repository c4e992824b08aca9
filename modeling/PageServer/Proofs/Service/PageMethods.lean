import PageServer.Proofs.Service.HealthReport
/-! Pages and the method of a visit. The routes of pages have a list of methods. Under each of them
a page is answered alike, as far as its template does not look at the method, and under any other
method the answer is the list. -/
namespace PageServer

open Http Files

section Methods

variable {τ : Type} {service : Service τ} {store : Store} {m : Memory τ} {v : Visit τ}
  {p : PageRoute}

/-- The same visit with another method. -/
def Visit.withMethod (v : Visit τ) (method : String) : Visit τ :=
  { v with request := { v.request with method := method } }

theorem isPreflight_of_get (v : Visit τ) : Cors.isPreflight (v.withMethod "GET").request = false :=
  rfl

variable [Clock τ]

-- Nothing in front of the routes looks at the method, besides that preflights have one of their
-- own.
theorem Service.admits_withMethod {l : Limiter τ} (admitted : service.Admits l v)
    (method : String) :
    service.Admits l (v.withMethod method) :=
  admitted

theorem Service.Reaches.withMethod {l : Limiter τ} (reaches : service.Reaches l v p)
    {method : String}
    (listed : method ∈ Pages.methods)
    (direct : Cors.isPreflight (v.withMethod method).request = false) :
    service.Reaches l (v.withMethod method) p where
  member := reaches.member
  found := reaches.found
  method := listed
  direct := direct
  admitted := service.admits_withMethod reaches.admitted method

theorem Service.limiterAfter_withMethod {l : Limiter τ} {method : String}
    (direct : Cors.isPreflight v.request = false)
    (still : Cors.isPreflight (v.withMethod method).request = false) :
    service.limiterAfter l (v.withMethod method) = service.limiterAfter l v := by
  simp only [Service.limiterAfter, direct, still]
  rfl

/-- Two visits that differ in the method are shown a page alike, if its template makes the same of
both. -/
theorem Service.serve_withMethod {method : String} (reaches : service.Reaches m.limiter v p)
    (listed : method ∈ Pages.methods)
    (direct : Cors.isPreflight (v.withMethod method).request = false) {s : String}
    (made : service.pageMarkup store v p = .ok s)
    (same : service.pageMarkup store (v.withMethod method) p = .ok s) :
    (service.serve store m v).response = (service.serve store m (v.withMethod method)).response ∧
      (service.serve store m v).raised = (service.serve store m (v.withMethod method)).raised ∧
      (service.serve store m v).memory = (service.serve store m (v.withMethod method)).memory := by
  have author := Service.author_of_reaches store reaches
  have other := Service.author_of_reaches store (reaches.withMethod listed direct)
  rw [made] at author
  rw [same] at other
  refine ⟨?_, ?_, ?_⟩
  · rw [service.serve_response, service.serve_response, author, other]
    rfl
  · rw [service.serve_raised, service.serve_raised, author, other]
    rfl
  · rw [service.serve_memory, service.serve_memory,
      Service.limiterAfter_withMethod reaches.direct direct]
    rfl

/-- The routes of a page tell the methods that they have, in some order. -/
structure Http.Response.IsWrongMethod (r : Response) (allowed : List String) : Prop where
  status : r.status = 405
  body : r.body = .text "\x7b\"detail\":\"Method Not Allowed\"\x7d"
  allow : ∃ listed : List String, listed.Perm allowed ∧
    r.headers.values "allow" = [", ".intercalate listed]
  views : r.headers.values "x-view-name" = []

theorem Service.serve_wrong_method (plain : service.extra = []) (member : p ∈ Pages.table)
    (found : p.Matches v.request.path) (other : v.request.method ∉ Pages.methods)
    (direct : Cors.isPreflight v.request = false) (admitted : service.Admits m.limiter v) :
    (service.serve store m v).response.IsWrongMethod Pages.methods := by
  have routed := Service.routed_of_other_method plain member found other store
  have author := Service.author_of_admits admitted direct store
  obtain ⟨_, body⟩ := Service.serve_http author routed
  obtain ⟨status, views⟩ := Service.serve_of_other_method plain member found other direct admitted
  have allow : (service.serve store m v).response.headers.values "allow" =
      valuesIn "allow" (service.routed store v).result :=
    Service.values_of_routes author (by decide) (by decide)
  rw [routed] at allow
  exact ⟨status, body, ⟨_, List.mergeSort_perm Pages.methods _, allow⟩, views⟩

/-- The answers of a service that has just the standard routes, to an admitted visit to a page whose
view has markup. The page is shown exactly if its routes have the visit's method, letter by letter.
Under such a method the answer is that to a visit with the method GET, and it leaves the same
behind, if the template makes the same of both. Under any other method the answer names no view and
tells the methods that there are. -/
theorem page_shown_iff_method_listed {settings : Settings} {given : Option Resolver} {start : τ}
    {service : Service τ} (created : Service.create settings given start = .ok service)
    (store : Store) (m : Memory τ) (v : Visit τ) (p : PageRoute) (member : p ∈ Pages.table)
    (asked : v.request.path = p.path) (direct : Cors.isPreflight v.request = false)
    (admitted : service.Admits m.limiter v) {s : String}
    (made : service.pageMarkup store v p = .ok s) :
    let answer := service.serve store m v
    let plain := service.serve store m (v.withMethod "GET")
    (answer.response.status = 200 ∧ answer.response.headers.values "x-view-name" = [p.view] ∧
        answer.response.body = .text s ↔ v.request.method ∈ Pages.methods) ∧
      (v.request.method ∈ Pages.methods →
        service.pageMarkup store (v.withMethod "GET") p = .ok s →
          answer.response = plain.response ∧ answer.raised = plain.raised ∧
            answer.memory = plain.memory) ∧
      (v.request.method ∉ Pages.methods → answer.response.IsWrongMethod Pages.methods) := by
  intro answer plain
  have found : p.Matches v.request.path := asked ▸ p.matches_path
  have reaches (listed : v.request.method ∈ Pages.methods) : service.Reaches m.limiter v p :=
    ⟨member, found, listed, direct, admitted⟩
  have other (unlisted : v.request.method ∉ Pages.methods) :
      answer.response.IsWrongMethod Pages.methods :=
    Service.serve_wrong_method (Service.of_create created).1 member found unlisted direct admitted
  refine ⟨⟨fun shown => ?_, fun listed => ?_⟩, fun listed same => ?_, other⟩
  · by_contra unlisted
    have status := (other unlisted).status
    rw [shown.1] at status
    cases status
  · obtain ⟨status, body⟩ := Service.serve_markup (reaches listed) made
    have named := Service.views_of_reaches store (reaches listed)
    rw [made] at named
    exact ⟨status, named, body⟩
  · exact Service.serve_withMethod (reaches listed) (.head _) (isPreflight_of_get v) made same

/-- A visit to the first page with a method. -/
def methodVisit (method : String) : Visit Rat :=
  (visitTo "/index").withMethod method

theorem methodVisit_admitted (method : String) : greeter.Admits {} (methodVisit method) := by
  have usual : greeter.Admits {} (visitTo "/index") :=
    ⟨"/index", by decide +kernel, .inr (by decide +kernel)⟩
  exact Service.admits_withMethod usual method

theorem greeting_of_delete :
    let answer := greeter.serve (.ofTree greeting) {} (methodVisit "DELETE")
    answer.response.status = 200 ∧ answer.response.headers.values "x-view-name" = ["index"] ∧
      answer.response.body = .text "Hi index" ∧
      answer.response = (greeter.serve (.ofTree greeting) {} (methodVisit "GET")).response := by
  have created : Service.create {} (some greeter.resolver) (0 : Rat) = .ok greeter := rfl
  have made : greeter.pageMarkup (.ofTree greeting) (methodVisit "DELETE")
      ⟨"/index", "handle_index", "index"⟩ = .ok "Hi index" := by
    rfl
  have same : greeter.pageMarkup (.ofTree greeting) (methodVisit "GET")
      ⟨"/index", "handle_index", "index"⟩ = .ok "Hi index" := by
    rfl
  obtain ⟨shown, alike, _⟩ := page_shown_iff_method_listed created (.ofTree greeting) {}
    (methodVisit "DELETE") ⟨"/index", "handle_index", "index"⟩ (.head _) rfl (by decide)
    (methodVisit_admitted "DELETE") made
  obtain ⟨status, views, body⟩ := shown.mpr (by decide)
  exact ⟨status, views, body, (alike (by decide) same).1⟩

theorem greeting_kept_from_trace :
    Service.create {} (some greeter.resolver) (0 : Rat) = .ok greeter ∧
      Cors.isPreflight (methodVisit "TRACE").request = false ∧
      greeter.Admits {} (methodVisit "TRACE") ∧
      greeter.pageMarkup (.ofTree greeting) (methodVisit "TRACE")
        ⟨"/index", "handle_index", "index"⟩ =
        .ok "Hi index" ∧
      let answer := (greeter.serve (.ofTree greeting) {} (methodVisit "TRACE")).response
      answer.status = 405 ∧ answer.headers.values "x-view-name" = [] := by
  refine ⟨rfl, by decide, methodVisit_admitted "TRACE", by rfl, ?_⟩
  exact Service.serve_of_other_method (m := {}) rfl (.head _) (PageRoute.matches_path _) (by decide)
    (by decide) (methodVisit_admitted "TRACE")

end Methods

end PageServer
