import PageServer.Proofs.Service.RequestId
import PageServer.Proofs.Service.ViewHeader
/-! Answers of pages. A visit is shown a page if it gets past all layers to the page's route and the
page's view has markup; each layer that keeps it from there answers in a way of its own. -/
namespace PageServer

open Http Files Template

section Pages

variable {τ : Type} {service : Service τ} {store : Store} {m : Memory τ} {v : Visit τ}
  {p : PageRoute}

theorem headerText_view (member : p ∈ Pages.table) : headerText p.view = .ok p.view := by
  simp only [Pages.table, List.mem_cons, List.not_mem_nil, or_false] at member
  rcases member with rfl | rfl <;> rfl

/-- What the templates in the resolver's directory make of a page's view for a visit. -/
def Service.pageMarkup (service : Service τ) (store : Store) (v : Visit τ) (p : PageRoute) :
    Except Failure String :=
  service.resolver.markup store v.facts p.view []

theorem Service.nearest_of_pageMarkup {failure : Failure}
    (failed : service.pageMarkup store v p = .error failure) :
    Handler.nearest failure.errorClass ∉ [.http, .validation] := by
  rcases Resolver.nearest_of_markup v.facts [] failed with
    ⟨_, nearest⟩ | ⟨_, nearest | nearest⟩ <;> simp [nearest]

variable [Clock τ]

/-- A visit asks for a page, and no layer in front of the routes answers it. -/
structure Service.Reaches (service : Service τ) (l : Limiter τ) (v : Visit τ) (p : PageRoute) :
    Prop where
  member : p ∈ Pages.table
  found : p.Matches v.request.path
  method : v.request.method ∈ Pages.methods
  direct : Cors.isPreflight v.request = false
  admitted : service.Admits l v

theorem Service.run_page (member : p ∈ Pages.table) :
    (service.run store v (.page p)).result =
      (service.pageMarkup store v p).map (Resolver.pageOf p.view) :=
  Resolver.present_of_named v.facts [] (headerText_view member)

theorem Service.Reaches.routed (reaches : service.Reaches m.limiter v p) (store : Store) :
    (service.routed store v).result =
      (service.pageMarkup store v p).map (Resolver.pageOf p.view) := by
  have goes := Route.destination_page service.extra reaches.member reaches.found reaches.method
  simp only [Service.routed, Service.routes, goes]
  exact Service.run_page reaches.member

theorem Service.author_of_reaches (store : Store) (reaches : service.Reaches m.limiter v p) :
    service.author store m.limiter v =
      match service.pageMarkup store v p with
      | .ok s => .route (Resolver.pageOf p.view s)
      | .error failure => .handler (Handler.nearest failure.errorClass) failure := by
  rw [Service.author_of_admits reaches.admitted reaches.direct store, Service.routesAuthor,
    reaches.routed store]
  cases service.pageMarkup store v p <;> rfl

/-! The answers -/

theorem Service.serve_route {r : Response} (author : service.author store m.limiter v = .route r) :
    (service.serve store m v).response.status = r.status ∧
      (service.serve store m v).response.body = r.body := by
  rw [service.serve_response, author]
  exact ⟨compress_status _ _, compress_body _ _⟩

theorem Service.serve_markup (reaches : service.Reaches m.limiter v p) {s : String}
    (made : service.pageMarkup store v p = .ok s) :
    (service.serve store m v).response.status = 200 ∧
      (service.serve store m v).response.body = .text s := by
  have author := Service.author_of_reaches store reaches
  rw [made] at author
  exact Service.serve_route author

theorem Service.serve_http {status : Status} {detail : Value} {headers : Headers}
    (author : service.author store m.limiter v = service.routesAuthor store v)
    (routed : (service.routed store v).result = .error (.http status detail headers)) :
    (service.serve store m v).response.status = status ∧
      (service.serve store m v).response.body =
        (Failure.httpAnswer status detail headers).body := by
  rw [service.serve_response, author, Service.routesAuthor, routed]
  exact ⟨(compress_status _ _).trans (httpAnswer_status ..), compress_body _ _⟩

theorem Service.routed_of_other_method (plain : service.extra = []) (member : p ∈ Pages.table)
    (found : p.Matches v.request.path) (other : v.request.method ∉ Pages.methods) (store : Store) :
    (service.routed store v).result =
      .error (.http 405 (.text "Method Not Allowed")
        [("allow", ", ".intercalate (Pages.methods.mergeSort (· ≤ ·)))]) := by
  have goes := Route.destination_page_of_other_method member found other
  simp only [Service.routed, Service.routes, plain, List.append_nil, goes]

/-- Under a method that no page is shown under, the routes themselves answer. -/
theorem Service.serve_of_other_method (plain : service.extra = []) (member : p ∈ Pages.table)
    (found : p.Matches v.request.path) (other : v.request.method ∉ Pages.methods)
    (direct : Cors.isPreflight v.request = false) (admitted : service.Admits m.limiter v) :
    (service.serve store m v).response.status = 405 ∧
      viewsOf (service.serve store m v).response = [] := by
  have routed := Service.routed_of_other_method plain member found other store
  have author := Service.author_of_admits admitted direct store
  constructor
  · exact (Service.serve_http author routed).1
  · rw [Service.views_of_routes author, routed]
    rfl

/-! Views -/

theorem Service.views_of_reaches (store : Store) (reaches : service.Reaches m.limiter v p) :
    viewsOf (service.serve store m v).response =
      match service.pageMarkup store v p with
      | .ok _ => [p.view]
      | .error _ => [] := by
  rw [Service.views_of_routes (Service.author_of_admits reaches.admitted reaches.direct store),
    reaches.routed store]
  cases made : service.pageMarkup store v p with
  | ok s => exact viewsOf_fullHeaders ..
  | error failure =>
      have nearest := Service.nearest_of_pageMarkup made
      cases failure with
      | app e => rfl
      | http status detail headers => exact absurd (.head _) nearest
      | invalid errors => exact absurd (.tail _ (.head _)) nearest
      | other kind text => rfl

def greeter : Service Rat :=
  { settings := {}, resolver := .standard "/@/templates" ".html", start := 0 }

def greeting : Tree :=
  ⟨[([['@']], .directory), ([['@'], "templates".toList], .directory),
    ([['@'], "templates".toList, "index.html".toList],
      .file "Hi \x7b\x7b view_name \x7d\x7d".toUTF8.data.toList)]⟩

end Pages

end PageServer
