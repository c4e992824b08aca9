import PageServer.Proofs.Service.Failures
import PageServer.Proofs.Service.HealthReport
import PageServer.Proofs.Service.ServerErrors
import PageServer.Proofs.Text.Trim
import Mathlib.Data.List.Find
/-! Paths that are not in the table of routes. A path with slashes behind a listed one is redirected
to it, and any other path is not found, with one exception: a line feed behind a path is no part of
it for the routes, so a listed path with one at its end goes where the path itself goes. -/
namespace PageServer

open Http Files

/-! Answers of the routes -/

section Answers

variable {τ : Type} [Clock τ] {service : Service τ} {store : Store} {m : Memory τ} {v : Visit τ}

/-- The status of the answer by an outcome of the routes. -/
def statusIn : Except Failure Response → Status
  | .ok r => r.status
  | .error (.http status _ _) => status
  | .error (.invalid _) => 422
  | .error _ => 500

theorem Service.status_of_routes
    (author : service.author store m.limiter v = service.routesAuthor store v) :
    (service.serve store m v).response.status = statusIn (service.routed store v).result := by
  rw [service.serve_response, author, Service.routesAuthor]
  cases (service.routed store v).result with
  | ok r => simp only [Service.reply, statusIn, marking_compress_status]
  | error failure =>
      cases failure with
      | app e =>
          simp only [Service.reply, Failure.answer?, statusIn, marking_compress_status]
          rfl
      | http status detail headers =>
          simp only [Service.reply, Failure.answer?, statusIn, marking_compress_status,
            httpAnswer_status]
      | invalid errors =>
          simp only [Service.reply, Failure.answer?, statusIn, marking_compress_status]
          rfl
      | other kind text =>
          simp only [Service.reply, Failure.answer?, statusIn]
          rfl

end Answers

/-! Where paths go -/

namespace Route

section Paths

variable {method path : String}

/-- The paths of the standard routes, in their order. -/
def listed : List String :=
  ["/openapi.json", "/docs", "/docs/oauth2-redirect", "/redoc"] ++ Pages.table.map (·.path) ++
    ["/health"]

theorem patterns_of_standard : standard.map (·.pattern) = listed.map .exactly := rfl

theorem pattern_of_standard {r : Route} (member : r ∈ standard) :
    ∃ text ∈ listed, .exactly text = r.pattern := by
  have pattern : r.pattern ∈ listed.map .exactly :=
    patterns_of_standard ▸ List.mem_map_of_mem member
  exact List.mem_map.mp pattern

/-- Some standard route is for a path. -/
def Taken (path : String) : Prop :=
  ∃ r ∈ standard, r.matchesPath path = true

theorem taken_iff (path : String) :
    Taken path ↔ ∃ text ∈ listed, path = text ∨ path = text ++ "\n" := by
  constructor
  · rintro ⟨r, member, found⟩
    obtain ⟨text, inside, pattern⟩ := pattern_of_standard member
    rw [matchesPath, ← pattern] at found
    exact ⟨text, inside, (PathPattern.accepts_exactly text path).mp found⟩
  · rintro ⟨text, inside, same⟩
    have there : PathPattern.exactly text ∈ standard.map (·.pattern) :=
      patterns_of_standard ▸ List.mem_map_of_mem inside
    obtain ⟨r, member, pattern⟩ := List.mem_map.mp there
    refine ⟨r, member, ?_⟩
    rw [matchesPath, pattern]
    exact (PathPattern.accepts_exactly text path).mpr same

/-- A path without the slashes at its end. -/
def stripped (path : String) : String :=
  String.ofList (Text.dropTrailing (· == '/') path.toList)

def EndsInSlash (path : String) : Prop :=
  path.toList.getLast? = some '/'

theorem stripped_of_no_slash (bare : ¬ EndsInSlash path) : stripped path = path := by
  have kept : Text.dropTrailing (· == '/') path.toList = path.toList := by
    apply Text.dropTrailing_of_last
    intro c last
    apply beq_false_of_ne
    rintro rfl
    exact bare last
  rw [stripped, kept, String.ofList_toList]

theorem endsInSlash_of_stripped (listed_path : path ∉ listed) (inside : stripped path ∈ listed) :
    EndsInSlash path := by
  by_contra bare
  rw [stripped_of_no_slash bare] at inside
  exact listed_path inside

theorem last_of_listed : ∀ text ∈ listed, text.toList.getLast? ≠ some '/' := by
  decide

theorem not_taken_slash (path : String) : ¬ Taken (path ++ "/") := by
  have last : (path ++ "/").toList.getLast? = some '/' := by
    rw [String.toList_append]
    exact List.getLast?_concat
  rw [taken_iff]
  rintro ⟨text, inside, same | same⟩ <;> rw [same] at last
  · exact last_of_listed text inside last
  · have feed : (text ++ "\n").toList.getLast? = some '\n' := by
      rw [String.toList_append]
      exact List.getLast?_concat
    cases feed.symm.trans last

theorem toggleSlash_of_slash (slash : EndsInSlash path) : toggleSlash path = stripped path :=
  if_pos (beq_iff_eq.mpr slash)

theorem toggleSlash_of_no_slash (bare : ¬ EndsInSlash path) : toggleSlash path = path ++ "/" :=
  if_neg fun slash => bare (beq_iff_eq.mp slash)

/-- A path that ends in a slash is a listed one or has no route. -/
theorem not_taken_of_slash (unlisted : path ∉ listed) (slash : EndsInSlash path) :
    ¬ Taken path := by
  rw [taken_iff]
  rintro ⟨text, inside, same | same⟩
  · exact unlisted (same ▸ inside)
  · have feed : path.toList.getLast? = some '\n' := by
      rw [same, String.toList_append]
      exact List.getLast?_concat
    cases feed.symm.trans slash

theorem not_taken_of_apart (unlisted : path ∉ listed)
    (apart : ∀ text ∈ listed, stripped path ≠ text ++ "\n") : ¬ Taken path := by
  by_cases slash : EndsInSlash path
  · exact not_taken_of_slash unlisted slash
  · rw [taken_iff]
    rintro ⟨text, inside, same | same⟩
    · exact unlisted (same ▸ inside)
    · exact apart text inside ((stripped_of_no_slash slash).trans same)

theorem line_feed_not_listed : ∀ text ∈ listed, text ++ "\n" ∉ listed := by
  decide

theorem find?_of_not_taken (free : ¬ Taken path) :
    standard.find? (·.matchesPath path) = none := by
  apply List.find?_eq_none.mpr
  intro r member found
  exact free ⟨r, member, found⟩

theorem filter_of_not_taken (free : ¬ Taken path) :
    standard.filter (·.matchesPath path) = [] := by
  apply List.filter_eq_nil_iff.mpr
  intro r member found
  exact free ⟨r, member, found⟩

theorem destination_of_stripped (free : ¬ Taken path) (slash : EndsInSlash path)
    (taken : Taken (stripped path)) (method : String) :
    destination standard method path = .redirect (stripped path) := by
  have further : path ≠ "/" := by
    rintro rfl
    have nothing : ¬ Taken (stripped "/") := by
      rw [taken_iff]
      decide
    exact nothing taken
  obtain ⟨r, member, found⟩ := taken
  cases first : standard.find? (·.matchesPath (stripped path)) with
  | none => exact absurd found (List.find?_eq_none.mp first r member)
  | some r =>
      have readable := oversized?_of_standard (List.mem_of_find?_eq_some first) (stripped path)
      simp only [destination, filter_of_not_taken free, List.find?_nil, further, ↓reduceIte,
        toggleSlash_of_slash slash, first, reach, readable]

theorem destination_of_free (free : ¬ Taken path)
    (gone : EndsInSlash path → ¬ Taken (stripped path)) (method : String) :
    destination standard method path = .unknown := by
  have nowhere : standard.find? (·.matchesPath (toggleSlash path)) = none := by
    by_cases slash : EndsInSlash path
    · rw [toggleSlash_of_slash slash]
      exact find?_of_not_taken (gone slash)
    · rw [toggleSlash_of_no_slash slash]
      exact find?_of_not_taken (not_taken_slash path)
  simp only [destination, filter_of_not_taken free, List.find?_nil, nowhere, ite_self]

/-- Among the routes for a path the method decides. -/
def chosen (here : List Route) (method : String) : Destination :=
  match here.find? (·.hasMethod method), here with
  | some r, _ => .endpoint r.endpoint
  | none, r :: _ => .wrongMethod (r.methods.mergeSort (· ≤ ·))
  | none, [] => .unknown

theorem chosen_cases {here : List Route} (nonempty : here ≠ []) (method : String) :
    (∃ e, chosen here method = .endpoint e) ∨
      ∃ allowed, chosen here method = .wrongMethod allowed := by
  unfold chosen
  cases here.find? (·.hasMethod method) with
  | some r => exact .inl ⟨r.endpoint, rfl⟩
  | none =>
      cases here with
      | nil => exact absurd rfl nonempty
      | cons r rest => exact .inr ⟨_, rfl⟩

theorem filter_of_taken (taken : Taken path) : standard.filter (·.matchesPath path) ≠ [] := by
  obtain ⟨r, member, found⟩ := taken
  exact List.ne_nil_of_mem (List.mem_filter.mpr ⟨member, found⟩)

theorem destination_of_taken (taken : Taken path) (method : String) :
    destination standard method path =
      chosen (standard.filter (·.matchesPath path)) method := by
  have readable (r : Route) (here : r ∈ standard.filter (·.matchesPath path)) :
      r.oversized? path = none :=
    oversized?_of_standard (List.mem_filter.mp here).1 path
  have method_decides : (standard.filter (·.matchesPath path)).find?
      (fun r => r.hasMethod method || (r.oversized? path).isSome) =
      (standard.filter (·.matchesPath path)).find? (·.hasMethod method) := by
    apply List.find?_congr
    intro r here
    rw [readable r here, Option.isSome_none, Bool.or_false]
  simp only [destination, method_decides, chosen]
  cases first : (standard.filter (·.matchesPath path)).find? (·.hasMethod method) with
  | some r =>
      have unread := readable r (List.mem_of_find?_eq_some first)
      simp only [reach, unread]
  | none =>
      cases here : standard.filter (·.matchesPath path) with
      | nil => exact absurd here (filter_of_taken taken)
      | cons r rest => rfl

/-- The routes take no notice of a line feed behind a listed path. -/
theorem destination_line_feed {text : String} (inside : text ∈ listed) (method : String) :
    destination standard method (text ++ "\n") = destination standard method text := by
  have alike : standard.filter (·.matchesPath (text ++ "\n")) =
      standard.filter (·.matchesPath text) := by
    apply List.filter_congr
    intro r member
    obtain ⟨other, there, pattern⟩ := pattern_of_standard member
    apply Bool.eq_iff_iff.mpr
    rw [matchesPath, matchesPath, ← pattern, PathPattern.accepts_exactly,
      PathPattern.accepts_exactly, String.append_left_inj]
    have apart : text ++ "\n" ≠ other := fun same => line_feed_not_listed text inside (same ▸ there)
    have reverse : text ≠ other ++ "\n" :=
      fun same => line_feed_not_listed other there (same ▸ inside)
    exact ⟨fun same => .inl (same.resolve_left apart),
      fun same => .inr (same.resolve_right reverse)⟩
  rw [destination_of_taken ((taken_iff _).mpr ⟨text, inside, .inr rfl⟩),
    destination_of_taken ((taken_iff _).mpr ⟨text, inside, .inl rfl⟩), alike]

end Paths

end Route

/-! Answers to paths -/

section Paths

variable {τ : Type} [Clock τ] {service : Service τ} {store : Store} {m : Memory τ} {v : Visit τ}

/-- The answer of the routes where there is none for a path. -/
structure Http.Response.IsNotFound (r : Response) : Prop where
  status : r.status = 404
  body : r.body = .text "\x7b\"detail\":\"Not Found\"\x7d"
  views : r.headers.values "x-view-name" = []

/-- The answer sends a request on to a path, under the request's URL otherwise. -/
structure Http.Response.SendsTo (r : Response) (request : Request) (path : String) : Prop where
  status : r.status = 307
  body : r.body = .text ""
  location : ∃ whole, Http.url { request with path := path } = .ok whole ∧
    r.headers.values "location" = [escapeUrl whole]
  views : r.headers.values "x-view-name" = []

theorem url_of_urlPath {r : Request} {path : String} (reading : urlPath r = .ok path)
    (other : String) : ∃ whole, Http.url { r with path := other } = .ok whole := by
  have same_host : authority? { r with path := other } = authority? r := rfl
  cases named : authority? r with
  | error fault => simp [urlPath, Http.url, named, bind, Except.bind] at reading
  | ok host =>
      cases decoded : (Text.decodeUtf8 (r.query.toList.map fun c => .ofNat c.toNat)).mapError
          UrlFault.badQuery with
      | error fault => simp [urlPath, Http.url, named, decoded, bind, Except.bind] at reading
      | ok query =>
          simp [Http.url, same_host, named, decoded, bind, Except.bind, pure, Except.pure]

theorem Service.serve_unknown
    (author : service.author store m.limiter v = service.routesAuthor store v)
    (goes : Route.destination service.routes v.request.method v.request.path = .unknown) :
    (service.serve store m v).response.IsNotFound := by
  have routed : (service.routed store v).result = .error (.http 404 (.text "Not Found") []) := by
    simp only [Service.routed, goes]
  obtain ⟨status, body⟩ := Service.serve_http author routed
  have views := Service.views_of_routes author
  rw [routed] at views
  exact ⟨status, body, views⟩

theorem Service.serve_redirect
    (author : service.author store m.limiter v = service.routesAuthor store v)
    {path target : String} (reading : urlPath v.request = .ok path)
    (goes : Route.destination service.routes v.request.method v.request.path = .redirect target) :
    (service.serve store m v).response.SendsTo v.request target := by
  have routed : (service.routed store v).result = .ok (redirectResponse v.request target) := by
    simp only [Service.routed, goes]
  have views := Service.views_of_routes author
  have locations : (service.serve store m v).response.headers.values "location" =
      valuesIn "location" (service.routed store v).result :=
    Service.values_of_routes author (by decide) (by decide)
  rw [Service.routesAuthor, routed] at author
  obtain ⟨status, body⟩ := Service.serve_route author
  rw [routed] at views locations
  obtain ⟨whole, made⟩ := url_of_urlPath reading target
  refine ⟨status, body, ⟨whole, made, ?_⟩, ?_⟩
  · rw [locations]
    have written : Headers.values (fullHeaders 307 [("location", escapeUrl whole)] none (.text ""))
        "location" = [escapeUrl whole] :=
      values_fullHeaders _ _ _ _ (by decide) (by decide)
    simp only [valuesIn, redirectResponse, made]
    exact written
  · exact views.trans (viewsOf_fullHeaders ..)

/-- No endpoint answers that there is none. -/
theorem Service.status_of_taken (plain : service.extra = []) (taken : Route.Taken v.request.path) :
    statusIn (service.routed store v).result ≠ 404 := by
  have routes := Service.routes_of_plain plain
  have goes := Route.destination_of_taken taken v.request.method
  unfold Service.routed
  rw [routes]
  rcases Route.chosen_cases (Route.filter_of_taken taken) v.request.method with
    ⟨e, endpoint⟩ | ⟨allowed, other⟩
  · rw [endpoint] at goes
    obtain ⟨r, member, _, _, same⟩ := Route.of_destination goes
    rw [goes]
    dsimp only
    cases e with
    | apiDocument => rintro ⟨⟩
    | documentation => rintro ⟨⟩
    | page p =>
        rw [Service.run_page (Route.page_of_standard member same).1]
        cases made : service.pageMarkup store v p with
        | ok s => rintro ⟨⟩
        | error failure =>
            have nearest := Service.nearest_of_pageMarkup made
            cases failure with
            | app e => rintro ⟨⟩
            | http status detail headers => exact absurd (.head _) nearest
            | invalid errors => rintro ⟨⟩
            | other kind text => rintro ⟨⟩
    | health =>
        rcases Health.answer_cases service.resolver store.tree Pages.viewNames service.start
          v.now with
          ⟨kind, text, failed⟩ | ⟨document, answered⟩
        · rw [Service.run, failed]
          rintro ⟨⟩
        · rw [Service.run, answered]
          rintro ⟨⟩
    | fixed outcome => exact absurd same (Route.ne_fixed_of_standard member)
  · rw [goes, other]
    rintro ⟨⟩

theorem Service.serve_of_slash (plain : service.extra = []) (admitted : service.Admits m.limiter v)
    (direct : Cors.isPreflight v.request = false) (unlisted : v.request.path ∉ Route.listed)
    (slash : Route.EndsInSlash v.request.path)
    (taken : Route.Taken (Route.stripped v.request.path)) :
    (service.serve store m v).response.SendsTo v.request (Route.stripped v.request.path) := by
  have routes := Service.routes_of_plain plain
  have free := Route.not_taken_of_slash unlisted slash
  have goes := Route.destination_of_stripped free slash taken v.request.method
  rw [← routes] at goes
  obtain ⟨read, reading, _⟩ := id admitted
  exact Service.serve_redirect (Service.author_of_admits admitted direct store) reading goes

theorem Service.serve_of_not_taken (plain : service.extra = [])
    (admitted : service.Admits m.limiter v) (direct : Cors.isPreflight v.request = false)
    (free : ¬ Route.Taken v.request.path)
    (gone : Route.EndsInSlash v.request.path → ¬ Route.Taken (Route.stripped v.request.path)) :
    (service.serve store m v).response.IsNotFound := by
  have routes := Service.routes_of_plain plain
  have goes := Route.destination_of_free free gone v.request.method
  rw [← routes] at goes
  exact Service.serve_unknown (Service.author_of_admits admitted direct store) goes

/-- A path is not found only if there is no route for it without the slashes at its end. -/
theorem Service.not_taken_of_not_found (plain : service.extra = [])
    (admitted : service.Admits m.limiter v) (direct : Cors.isPreflight v.request = false)
    (unlisted : v.request.path ∉ Route.listed)
    (missing : (service.serve store m v).response.IsNotFound) :
    ¬ Route.Taken (Route.stripped v.request.path) := by
  intro taken
  by_cases slash : Route.EndsInSlash v.request.path
  · have sent : (service.serve store m v).response.SendsTo v.request _ :=
      Service.serve_of_slash plain admitted direct unlisted slash taken
    have status := sent.status
    rw [missing.status] at status
    cases status
  · rw [Route.stripped_of_no_slash slash] at taken
    have status := Service.status_of_routes (Service.author_of_admits admitted direct store)
    rw [missing.status] at status
    exact Service.status_of_taken plain taken status.symm

/-- The answers of a service that has just the standard routes, whatever was kept before and
whatever template files there are, to an admitted visit with a path that is not listed. The path is
not found, or is redirected to a listed one that has no slashes at its end, exactly if there is no
line feed behind a listed path in it, apart from such slashes. A listed path with slashes behind it
is always redirected. With a line feed behind it the path is redirected to with that line feed, if
slashes follow, and goes to the same route as without one, if none do: then it is shown as the
page. -/
theorem unlisted_path_answer_iff {settings : Settings} {given : Option Resolver} {start : τ}
    {service : Service τ} (created : Service.create settings given start = .ok service)
    (store : Store) (m : Memory τ) (v : Visit τ) (admitted : service.Admits m.limiter v)
    (direct : Cors.isPreflight v.request = false) (unlisted : v.request.path ∉ Route.listed) :
    let path := v.request.path
    let rest := Route.stripped path
    let answer := (service.serve store m v).response
    (answer.IsNotFound ∨
        (Route.EndsInSlash path ∧ rest ∈ Route.listed ∧ answer.SendsTo v.request rest) ↔
      ∀ text ∈ Route.listed, rest ≠ text ++ "\n") ∧
    (rest ∈ Route.listed → answer.SendsTo v.request rest) ∧
    (∀ text ∈ Route.listed, rest = text ++ "\n" →
      (Route.EndsInSlash path → answer.SendsTo v.request rest) ∧
      (¬ Route.EndsInSlash path → ∀ method,
        Route.destination service.routes method path =
          Route.destination service.routes method text)) ∧
    ∀ p ∈ Pages.table, path = p.path ++ "\n" → v.request.method ∈ Pages.methods →
      ∀ s, service.pageMarkup store v p = .ok s →
        answer.status = 200 ∧ answer.headers.values "x-view-name" = [p.view] ∧
          answer.body = .text s := by
  intro path rest answer
  have plain := (Service.of_create created).1
  have routes := Service.routes_of_plain plain
  have taken_of_listed (inside : rest ∈ Route.listed) : Route.Taken rest :=
    (Route.taken_iff rest).mpr ⟨rest, inside, .inl rfl⟩
  have taken_of_feed {text : String} (inside : text ∈ Route.listed) (same : rest = text ++ "\n") :
      Route.Taken rest :=
    (Route.taken_iff rest).mpr ⟨text, inside, .inr same⟩
  have sent (slash : Route.EndsInSlash path) (taken : Route.Taken rest) :
      answer.SendsTo v.request rest :=
    Service.serve_of_slash plain admitted direct unlisted slash taken
  refine ⟨⟨?_, fun apart => ?_⟩, fun inside => ?_, fun text inside same => ?_,
    fun p member same method s made => ?_⟩
  · rintro (missing | ⟨_, there, _⟩) text inside same
    · exact Service.not_taken_of_not_found plain admitted direct unlisted missing
        (taken_of_feed inside same)
    · rw [same] at there
      exact Route.line_feed_not_listed text inside there
  · by_cases sends : Route.EndsInSlash path ∧ rest ∈ Route.listed
    · exact .inr ⟨sends.1, sends.2, sent sends.1 (taken_of_listed sends.2)⟩
    · left
      apply Service.serve_of_not_taken plain admitted direct
      · exact Route.not_taken_of_apart unlisted apart
      · intro slash taken
        obtain ⟨text, inside, same | same⟩ := (Route.taken_iff rest).mp taken
        · exact sends ⟨slash, same ▸ inside⟩
        · exact apart text inside same
  · exact sent (Route.endsInSlash_of_stripped unlisted inside) (taken_of_listed inside)
  · refine ⟨fun slash => sent slash (taken_of_feed inside same), fun bare method => ?_⟩
    have here : rest = path := Route.stripped_of_no_slash bare
    rw [routes, ← here, same]
    exact Route.destination_line_feed inside method
  · have found : p.Matches path := (PathPattern.accepts_exactly p.path path).mpr (.inr same)
    have reaches : service.Reaches m.limiter v p := ⟨member, found, method, direct, admitted⟩
    obtain ⟨status, body⟩ := Service.serve_markup reaches made
    have named := Service.views_of_reaches store reaches
    rw [made] at named
    exact ⟨status, named, body⟩

theorem unlisted_path_answer_of_slashes :
    (greeter.serve (.ofTree greeting) {} (visitTo "/login//")).response.SendsTo
      (visitTo "/login//").request "/login" := by
  have created : Service.create {} (some greeter.resolver) (0 : Rat) = .ok greeter := rfl
  have admitted : greeter.Admits {} (visitTo "/login//") :=
    ⟨"/login//", by decide +kernel, .inr (by decide +kernel)⟩
  have rest : Route.stripped (visitTo "/login//").request.path = "/login" := by decide
  obtain ⟨_, sent, _⟩ :=
    unlisted_path_answer_iff created (.ofTree greeting) {} (visitTo "/login//") admitted
    (by decide) (by decide)
  rw [rest] at sent
  exact sent (by decide)

theorem unlisted_path_shown_of_line_feed :
    Service.create {} (some greeter.resolver) (0 : Rat) = .ok greeter ∧
      (visitTo "/index\n").request.path ∉ Route.listed ∧
      greeter.Admits {} (visitTo "/index\n") ∧
      Cors.isPreflight (visitTo "/index\n").request = false ∧
      let answer := (greeter.serve (.ofTree greeting) {} (visitTo "/index\n")).response
      answer.status = 200 ∧ answer.headers.values "x-view-name" = ["index"] ∧
        answer.body = .text "Hi index" := by
  have admitted : greeter.Admits {} (visitTo "/index\n") :=
    ⟨"/index", by decide +kernel, .inr (by decide +kernel)⟩
  have reaches : greeter.Reaches {} (visitTo "/index\n") ⟨"/index", "handle_index", "index"⟩ :=
    { member := .head _
      found := (PathPattern.accepts_exactly "/index" "/index\n").mpr (.inr rfl)
      method := .head _
      direct := by decide
      admitted := admitted }
  have made : greeter.pageMarkup (.ofTree greeting) (visitTo "/index\n")
      ⟨"/index", "handle_index", "index"⟩ =
      .ok "Hi index" := by
    rfl
  obtain ⟨status, body⟩ := Service.serve_markup (m := {}) reaches made
  have named := Service.views_of_reaches (m := {}) (.ofTree greeting) reaches
  rw [made] at named
  exact ⟨rfl, by decide, admitted, by decide, status, named, body⟩

end Paths

end PageServer
