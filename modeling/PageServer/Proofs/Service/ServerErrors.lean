import PageServer.Service.Startup
import PageServer.Proofs.Http.UrlPath
import PageServer.Proofs.Service.Kept
import PageServer.Proofs.Service.PageAnswer
import PageServer.Proofs.View.Bundled
import PageServer.Proofs.View.Health
/-! Server errors. A service with the templates that come with it answers a visit with one only
where the visit's URL cannot be read or the clock's readings cannot be reckoned with. -/
namespace PageServer

open Http Files Template

/-! Answers below 500 -/

section Answers

/-- The answer is no server error, and nothing is passed on to the server. -/
def Served.Fine {τ : Type} (answer : Served τ) : Prop :=
  answer.response.status.code < 500 ∧ answer.raised = none

/-- What the routes give leads to no server error: a failure that is an HTTP answer has a status of
its own, and any other failure is one. -/
def Mild : Except Failure Response → Prop
  | .ok r => r.status.code < 500
  | .error (.http status _ _) => status.code < 500
  | .error (.invalid _) => True
  | .error _ => False

variable {τ : Type} [Clock τ] {service : Service τ} {store : Store} {m : Memory τ} {v : Visit τ}

theorem Service.fine_of_reply {r : Response}
    (replied : service.reply v.requestId v (service.author store m.limiter v) = .ok r) :
    (service.serve store m v).Fine ↔ r.status.code < 500 := by
  rw [Served.Fine, service.serve_response, service.serve_raised, replied]
  exact and_iff_left rfl

theorem Service.not_fine_of_failure {failure : Failure}
    (failed : service.reply v.requestId v (service.author store m.limiter v) = .error failure) :
    ¬ (service.serve store m v).Fine ∧ (service.serve store m v).response.status = 500 ∧
      (service.serve store m v).raised = some failure := by
  rw [Served.Fine, service.serve_response, service.serve_raised, failed]
  exact ⟨fun fine => Option.some_ne_none failure fine.2, rfl, rfl⟩

theorem Service.fine_of_preflight (direct : Cors.isPreflight v.request = true) :
    (service.serve store m v).Fine := by
  have author : service.author store m.limiter v = .preflight := if_pos direct
  have replied := congrArg (service.reply v.requestId v) author
  refine (Service.fine_of_reply replied).mpr ?_
  unfold Cors.preflightResponse
  dsimp only
  split
  · exact (by decide : (200 : Int) < 500)
  · exact (by decide : (400 : Int) < 500)

theorem Service.fine_of_limiter {seconds : Int}
    (author : service.author store m.limiter v = .limiter seconds) :
    (service.serve store m v).Fine := by
  have replied := congrArg (service.reply v.requestId v) author
  exact (Service.fine_of_reply replied).mpr (by decide : (429 : Int) < 500)

theorem Service.not_fine_of_other {h : Handler} {kind text : String}
    (author : service.author store m.limiter v = .handler h (.other kind text)) :
    ¬ (service.serve store m v).Fine ∧ (service.serve store m v).response.status = 500 ∧
      ∃ failure, (service.serve store m v).raised = some failure := by
  have failed := congrArg (service.reply v.requestId v) author
  obtain ⟨server_error, status, raised⟩ := Service.not_fine_of_failure failed
  exact ⟨server_error, status, _, raised⟩

omit [Clock τ] in
theorem marking_compress_status (r : Response) :
    (service.marking v.request (Compression.compress v.request r)).status = r.status :=
  compress_status v.request r

/-- Behind the limiter the routes decide. -/
theorem Service.fine_of_routes
    (author : service.author store m.limiter v = service.routesAuthor store v) :
    (service.serve store m v).Fine ↔ Mild (service.routed store v).result := by
  rw [Service.routesAuthor] at author
  cases routed : (service.routed store v).result with
  | ok r =>
      rw [routed] at author
      rw [Service.fine_of_reply (congrArg _ author), marking_compress_status]
      rfl
  | error failure =>
      rw [routed] at author
      have replied := congrArg (service.reply v.requestId v) author
      cases failure with
      | app e =>
          rw [Service.fine_of_reply replied, marking_compress_status]
          exact iff_of_false (by decide : ¬ (500 : Int) < 500) id
      | http status detail headers =>
          rw [Service.fine_of_reply replied, marking_compress_status, httpAnswer_status]
          rfl
      | invalid errors =>
          rw [Service.fine_of_reply replied, marking_compress_status]
          exact iff_of_true (by decide : (422 : Int) < 500) trivial
      | other kind text => exact iff_of_false (Service.not_fine_of_failure replied).1 id

end Answers

/-! Routes -/

section Routes

theorem Route.destination_ne_unreadable {routes : List Route}
    (readable : ∀ r ∈ routes, ∀ path, r.oversized? path = none) (method path : String)
    (digits : Nat) : destination routes method path ≠ .unreadable digits := by
  have reached {r : Route} (member : r ∈ routes) (way : String) (d : Destination) :
      r.reach way d = d := by
    simp only [reach, readable r member way]
  unfold destination
  cases found : (routes.filter (·.matchesPath path)).find?
      fun r => r.hasMethod method || (r.oversized? path).isSome with
  | some r =>
      have member := (List.mem_filter.mp (List.mem_of_find?_eq_some found)).1
      simp only [found, reached member]
      rintro ⟨⟩
  | none =>
      cases here : routes.filter (·.matchesPath path) with
      | cons r rest =>
          rw [here] at found
          simp only [found]
          rintro ⟨⟩
      | nil =>
          simp only [List.find?_nil]
          split
          · rename_i r other
            have member : r ∈ routes := by
              split at other
              · cases other
              · exact List.mem_of_find?_eq_some other
            rw [reached member]
            rintro ⟨⟩
          · rintro ⟨⟩

theorem Route.oversized?_of_standard {r : Route} (member : r ∈ standard) (path : String) :
    r.oversized? path = none := by
  simp only [standard, Pages.table, List.map_cons, List.map_nil, List.cons_append, List.nil_append,
    List.mem_cons, List.not_mem_nil, or_false] at member
  rcases member with rfl | rfl | rfl | rfl | rfl | rfl | rfl <;> exact oversized?_exactly ..

variable {τ : Type} [Clock τ] {service : Service τ} {store : Store} {v : Visit τ}

/-- A visit goes to the health check. -/
def Service.LeadsToHealth (service : Service τ) (v : Visit τ) : Prop :=
  Route.destination service.routes v.request.method v.request.path = .endpoint .health

/-- The time since the start can be stated. -/
def Service.Timed (service : Service τ) (v : Visit τ) : Prop :=
  ∃ uptime finite, Clock.elapsed v.now service.start = .ok uptime ∧
    Numeral.valueOf uptime = .finite finite

theorem Service.mild_health_iff (bundled : service.resolver.OverBundled store.tree) :
    Mild (Health.answer service.resolver store.tree Pages.viewNames service.start v.now).result ↔
      service.Timed v := by
  have surveyed := Health.survey_of_found service.resolver store.tree Pages.viewNames
      (fun _ => true)
    fun view member => bundled.hasView member
  unfold Service.Timed Health.answer
  simp only [surveyed, bind, Except.bind]
  cases Clock.elapsed v.now service.start with
  | error fault =>
      refine iff_of_false ?_ ?_
      · cases fault <;> exact id
      · rintro ⟨_, _, same, _⟩
        cases same
  | ok uptime =>
      simp only [mapError_ok, Health.respond, Health.report]
      cases stated : Numeral.valueOf uptime with
      | finite b => exact iff_of_true (by decide : (200 : Int) < 500) ⟨uptime, b, rfl, stated⟩
      | notANumber =>
          refine iff_of_false id ?_
          rintro ⟨_, b, same, finite⟩
          cases same
          cases stated.symm.trans finite
      | infinite negative =>
          refine iff_of_false id ?_
          rintro ⟨_, b, same, finite⟩
          cases same
          cases stated.symm.trans finite

/-- The routes of a service with the templates that come with it fail in no other way than at the
time that the health check states. -/
theorem Service.mild_routed_iff (plain : service.extra = [])
    (bundled : service.resolver.OverBundled store.tree) (sound : store.Sound service.resolver) :
    Mild (service.routed store v).result ↔ (service.LeadsToHealth v → service.Timed v) := by
  have routes := Service.routes_of_plain plain
  unfold Service.LeadsToHealth Service.routed
  rw [routes]
  cases goes : Route.destination Route.standard v.request.method v.request.path with
  | endpoint e =>
      obtain ⟨r, member, found, has, endpoint⟩ := Route.of_destination goes
      cases e with
      | page p =>
          obtain ⟨page, _⟩ := Route.page_of_standard member endpoint
          have listed : p.view ∈ Pages.viewNames := List.mem_map.mpr ⟨p, page, rfl⟩
          obtain ⟨s, made⟩ := bundled.markup sound listed v.facts []
          have shown : (service.run store v (.page p)).result =
              (service.pageMarkup store v p).map (Resolver.pageOf p.view) := Service.run_page page
          rw [Service.pageMarkup, made] at shown
          refine iff_of_true ?_ (by rintro ⟨⟩)
          dsimp only
          rw [shown]
          exact (by decide : (200 : Int) < 500)
      | apiDocument => exact iff_of_true (by decide : (200 : Int) < 500) (by rintro ⟨⟩)
      | documentation => exact iff_of_true (by decide : (200 : Int) < 500) (by rintro ⟨⟩)
      | health =>
          refine (Service.mild_health_iff bundled).trans ?_
          exact ⟨fun timed _ => timed, fun timed => timed rfl⟩
      | fixed outcome => exact absurd endpoint (Route.ne_fixed_of_standard member)
  | wrongMethod allowed => exact iff_of_true (by decide : (405 : Int) < 500) (by rintro ⟨⟩)
  | redirect target => exact iff_of_true (by decide : (307 : Int) < 500) (by rintro ⟨⟩)
  | unreadable digits =>
      exact absurd goes (Route.destination_ne_unreadable
        (fun r member => Route.oversized?_of_standard member) _ _ _)
  | unknown => exact iff_of_true (by decide : (404 : Int) < 500) (by rintro ⟨⟩)

end Routes

/-! Visits -/

section Visits

variable {τ : Type} [Clock τ] {service : Service τ} {store : Store} {m : Memory τ} {v : Visit τ}

/-- What a visit needs so as not to lead to a server error: a URL with a path, seconds that the
limiter can count where it refuses, and a time to state where the health check is asked. -/
def Service.Serves (service : Service τ) (l : Limiter τ) (v : Visit τ) : Prop :=
  ∃ path, urlPath v.request = .ok path ∧
    (path ∈ Limiter.exemptPaths ∨
      ∀ fault, (l.ask service.limits v.clientName v.now).verdict ≠ .uncountable fault) ∧
    (service.Admits l v → service.LeadsToHealth v → service.Timed v)

theorem Service.serves_of_countable (standard : v.request.Standard) (decodes : v.request.Decodes)
    (named : (∃ host, authority? v.request = .ok (some host)) ∨ Regular v.request.path)
    (countable : ∀ first, ∃ seconds,
      Clock.wholeSeconds first service.limits.window v.now = .ok seconds)
    (timed : service.LeadsToHealth v → service.Timed v) (l : Limiter τ) : service.Serves l v := by
  have reading : urlPath v.request = .ok (String.ofList (behindHost v.request.path.toList)) := by
    rcases named with ⟨host, named⟩ | regular
    · exact urlPath_of_host standard decodes named
    · exact urlPath_of_regular standard decodes regular
  exact ⟨_, reading, .inr (Limiter.verdict_ne_uncountable countable _ _), fun _ => timed⟩

/-- Where the limiter refuses, it only has to count the seconds. -/
theorem Service.fine_of_refused (allows : 1 ≤ service.limits.requests) {path : String}
    (reading : urlPath v.request = .ok path) (refused : ¬ service.Admits m.limiter v)
    (direct : Cors.isPreflight v.request = false) :
    (service.serve store m v).Fine ↔
      ∀ fault, (m.limiter.ask service.limits v.clientName v.now).verdict ≠ .uncountable fault := by
  have counts : path ∉ Limiter.exemptPaths := fun exempt => refused ⟨path, reading, .inl exempt⟩
  have author : service.author store m.limiter v = service.verdictAuthor store v
      (m.limiter.ask service.limits v.clientName v.now).verdict :=
    Service.author_of_counted reading counts direct store
  rcases Limiter.ask_recorded_or_refused allows v.clientName v.now m.limiter with
    ⟨verdict, _⟩ | ⟨held, seconds, verdict⟩ | ⟨fault, verdict⟩
  · exact absurd ⟨path, reading, .inr verdict⟩ refused
  · rw [verdict] at author ⊢
    exact iff_of_true (Service.fine_of_limiter author) fun _ => nofun
  · rw [verdict] at author ⊢
    refine iff_of_false ?_ fun countable => countable fault rfl
    cases fault <;> exact (Service.not_fine_of_other author).1

theorem Service.fine_iff_serves (plain : service.extra = [])
    (bundled : service.resolver.OverBundled store.tree) (sound : store.Sound service.resolver)
    (allows : 1 ≤ service.limits.requests) (direct : Cors.isPreflight v.request = false) :
    (service.serve store m v).Fine ↔ service.Serves m.limiter v := by
  by_cases admitted : service.Admits m.limiter v
  · -- Behind the limiter only the health check can go wrong.
    rw [Service.fine_of_routes (Service.author_of_admits admitted direct store),
      Service.mild_routed_iff plain bundled sound]
    obtain ⟨path, reading, passes⟩ := admitted
    constructor
    · intro timed
      refine ⟨path, reading, passes.imp_right fun verdict fault => ?_, fun _ => timed⟩
      rw [verdict]
      nofun
    · rintro ⟨_, _, _, timed⟩
      exact timed ⟨path, reading, passes⟩
  · cases reading : urlPath v.request with
    | error fault =>
        have author : service.author store m.limiter v = .handler .unexpected (.ofUrl fault) :=
          Service.author_of_unread reading direct store
        refine iff_of_false (Service.not_fine_of_other author).1 ?_
        rintro ⟨path, read, _⟩
        rw [reading] at read
        cases read
    | ok path =>
        rw [Service.fine_of_refused allows reading admitted direct]
        constructor
        · intro countable
          exact ⟨path, reading, .inr countable, fun passed => absurd passed admitted⟩
        · rintro ⟨other, read, passes, _⟩
          refine passes.resolve_left fun exempt => admitted ⟨path, reading, .inl ?_⟩
          rw [reading, Except.ok.injEq] at read
          exact read ▸ exempt

theorem Service.kept_of_visits {s : State τ} (sound : s.store.Sound service.resolver)
    (visits : List (Visit τ)) :
    let last := (service.runEvents s (visits.map .visit)).2.store
    last.files = s.store.files ∧ last.Sound service.resolver := by
  refine (service.runEvents_keeps
    (fun now => now.store.files = s.store.files ∧ now.store.Sound service.resolver)
    (fun _ _ => True) _ ?_ ⟨rfl, sound⟩).2
  rintro now ⟨here, kept⟩ event member
  obtain ⟨v, _, rfl⟩ := List.mem_map.mp member
  have same := service.files_of_serve now.store now.memory v
  refine ⟨trivial, same.trans here, ?_⟩
  unfold Store.Sound
  rw [show (service.step now (.visit v)).2.store.files = now.store.files from same]
  exact service.sound_of_serve now.memory v kept (MarkedTree.tells_self _)

end Visits

/-- The answers of a service that has just the standard routes and the templates that come with it,
after any visits. A visit leads to no server error exactly if it is a preflight, or has a URL with a
path and finds a clock that can be reckoned with. Where the query is no text, there is no URL, and
the failure is passed on to the server; else a host, or a path of the regular form, makes for
one. -/
theorem server_error_iff {τ : Type} [Clock τ] {settings : Settings} {given : Option Resolver}
    {start : τ} {service : Service τ} (created : Service.create settings given start = .ok service)
    (allows : 1 ≤ settings.rateLimitRequests) (initial : State τ)
    (bundled : service.resolver.OverBundled initial.store.tree)
    (sound : initial.store.Sound service.resolver) (visits : List (Visit τ)) (v : Visit τ) :
    let s := (service.runEvents initial (visits.map .visit)).2
    let answer := service.serve s.store s.memory v
    (answer.Fine ↔ Cors.isPreflight v.request = true ∨ service.Serves s.memory.limiter v) ∧
      (v.request.Standard → ¬ v.request.Decodes → Cors.isPreflight v.request = false →
        answer.response.status = 500 ∧ ∃ failure, answer.raised = some failure) ∧
      (v.request.Standard → v.request.Decodes →
        (∃ host, authority? v.request = .ok (some host)) ∨ Regular v.request.path →
        (∀ first, ∃ seconds,
          Clock.wholeSeconds first service.limits.window v.now = .ok seconds) →
        (service.LeadsToHealth v → service.Timed v) → answer.Fine) := by
  have plain := Service.of_create created
  intro s answer
  obtain ⟨files, kept⟩ := service.kept_of_visits sound visits
  have same : s.store.tree = initial.store.tree := congrArg MarkedTree.tree files
  have answered : answer.Fine ↔
      Cors.isPreflight v.request = true ∨ service.Serves s.memory.limiter v := by
    cases direct : Cors.isPreflight v.request with
    | true => exact iff_of_true (Service.fine_of_preflight direct) (.inl rfl)
    | false =>
        have allows : 1 ≤ service.limits.requests := by
          rw [Service.limits, plain.2]
          exact allows
        rw [Service.fine_iff_serves plain.1 (same ▸ bundled) kept allows direct]
        exact (or_iff_right Bool.false_ne_true).symm
  refine ⟨answered, fun standard undecoded direct => ?_, ?_⟩
  · obtain ⟨fault, unread⟩ := urlPath_of_not_decodes standard undecoded
    have author : service.author s.store s.memory.limiter v =
        .handler .unexpected (.ofUrl fault) := Service.author_of_unread unread direct s.store
    exact (Service.not_fine_of_other author).2
  · intro standard decodes named countable timed
    exact answered.mpr (.inr (Service.serves_of_countable standard decodes named countable timed _))

/-- A service with the templates that come with it. -/
def homeService : Service Rat :=
  { settings := {}, resolver := .standard bundledTemplatesDir ".html", start := 0 }

/-- A visit to the first page with the bytes of a query. -/
def homeVisit (query : String) : Visit Rat :=
  { request := { method := "GET", path := "/index", query := query, headers := [("host", "test")] }
    now := 0
    identifier := "01234567-89ab-4def-8123-456789abcdef" }

theorem no_server_error_of_query :
    let s := (homeService.runEvents ⟨.ofTree Bundled.tree, {}⟩ [.visit (homeVisit "")]).2
    (homeService.serve s.store s.memory (homeVisit "q=\u00c3\u00a9")).Fine := by
  have created : Service.create {} none (0 : Rat) = .ok homeService := rfl
  have standard : (homeVisit "q=\u00c3\u00a9").request.Standard := ⟨.inl rfl, nofun⟩
  have decodes : (homeVisit "q=\u00c3\u00a9").request.Decodes :=
    ⟨"q=\u00e9".toList, by decide +kernel⟩
  have elsewhere : ¬ homeService.LeadsToHealth (homeVisit "q=\u00c3\u00a9") := by
    intro health
    have page : Route.destination homeService.routes "GET" "/index" =
        .endpoint (.page ⟨"/index", "handle_index", "index"⟩) :=
      Route.destination_page [] (.head _) (PageRoute.matches_path _) (by decide)
    cases page.symm.trans health
  have answers := server_error_iff created (by decide) ⟨.ofTree Bundled.tree, {}⟩
    Resolver.overBundled_tree (Store.sound_ofTree _ _) [homeVisit ""] (homeVisit "q=\u00c3\u00a9")
  exact answers.2.2 standard decodes (.inl ⟨"test", rfl⟩) (fun _ => ⟨_, rfl⟩)
    fun health => absurd health elsewhere

theorem server_error_of_query :
    Service.create {} none (0 : Rat) = .ok homeService ∧
      homeService.resolver.OverBundled Bundled.tree ∧
      let answer := homeService.serve (.ofTree Bundled.tree) {} (homeVisit "\u00ff")
      answer.response.status = 500 ∧ answer.raised = some (.other "UnicodeDecodeError"
        "'utf-8' codec can't decode byte 0xff in position 0: invalid start byte") := by
  have author : homeService.author (.ofTree Bundled.tree) {} (homeVisit "\u00ff") =
      .handler .unexpected (.other "UnicodeDecodeError"
        "'utf-8' codec can't decode byte 0xff in position 0: invalid start byte") := by
    rfl
  refine ⟨rfl, Resolver.overBundled_tree, ?_⟩
  exact (Service.not_fine_of_failure (congrArg _ author)).2

end PageServer
