import PageServer.Proofs.Service.Exemption
import PageServer.Proofs.Service.HealthReport
import PageServer.Proofs.Service.ServerErrors
import PageServer.Proofs.View.Lookup
/-! What a health check takes to answer. It tells missing files and directories from files, but it
reads the files, so one that is no text ends the check instead of being reported. -/
namespace PageServer

open Http Files Template

namespace Health

variable {r : Resolver} {tree : Tree}

/-- All views that have a template have one that is a text. -/
def Readable (r : Resolver) (tree : Tree) (views : List String) : Prop :=
  ∀ view ∈ views, ∀ bytes, r.Holds tree view bytes → (Node.file bytes).IsText

theorem hasView_cases (r : Resolver) (tree : Tree) (view : String) :
    (r.hasView tree view = .ok false ∧ ¬ r.Has tree view) ∨
      (r.hasView tree view = .ok true ∧ r.Has tree view) ∨
      ∃ text, r.hasView tree view = .error (.other "UnicodeDecodeError" text) := by
  by_cases has : r.Has tree view
  · obtain ⟨bytes, holds⟩ := has
    by_cases text : (Node.file bytes).IsText
    · exact .inr (.inl ⟨Resolver.hasView_of_holds holds text, bytes, holds⟩)
    · obtain ⟨fault, _, failed⟩ := Resolver.hasView_of_unreadable holds text
      exact .inr (.inr ⟨_, failed⟩)
  · exact .inl ⟨Resolver.hasView_of_lacking has, has⟩

open Classical in
theorem hasView_of_readable {views : List String} (readable : Readable r tree views) {view : String}
    (member : view ∈ views) : r.hasView tree view = .ok (decide (r.Has tree view)) := by
  by_cases has : r.Has tree view
  · obtain ⟨bytes, holds⟩ := has
    rw [decide_eq_true ⟨bytes, holds⟩]
    exact Resolver.hasView_of_holds holds (readable view member bytes holds)
  · rw [decide_eq_false has]
    exact Resolver.hasView_of_lacking has

-- By the views: the survey goes on as long as a view can be looked for.
theorem survey_of_unreadable {views : List String} (unreadable : ¬ Readable r tree views) :
    ∃ text, (survey r tree views).result = .error (.other "UnicodeDecodeError" text) := by
  induction views with
  | nil => exact absurd nofun unreadable
  | cons view rest ih =>
      unfold survey
      by_cases failing : ∃ text, r.hasView tree view = .error (.other "UnicodeDecodeError" text)
      · obtain ⟨text, failed⟩ := failing
        rw [failed]
        exact ⟨text, rfl⟩
      · have others : ¬ Readable r tree rest := by
          intro readable
          apply unreadable
          intro other member bytes holds
          rcases List.mem_cons.mp member with rfl | later
          · by_contra bare
            obtain ⟨fault, _, failed⟩ := Resolver.hasView_of_unreadable holds bare
            exact failing ⟨_, failed⟩
          · exact readable other later bytes holds
        obtain ⟨text, failed⟩ := ih others
        obtain ⟨found, looked⟩ : ∃ found, r.hasView tree view = .ok found := by
          rcases hasView_cases r tree view with ⟨looked, _⟩ | ⟨looked, _⟩ | failed
          · exact ⟨_, looked⟩
          · exact ⟨_, looked⟩
          · exact absurd failed failing
        refine ⟨text, ?_⟩
        rw [looked]
        simp only [failed, Except.map]

end Health

section Answer

variable {τ : Type} [Clock τ]

/-- A plain visit to the health check, of a request as it is usual and with a query that is a
text. -/
structure Visit.ForHealth (v : Visit τ) : Prop where
  method : v.request.method = "GET"
  path : v.request.path = "/health"
  standard : v.request.Standard
  decodes : v.request.Decodes

theorem Visit.ForHealth.asks {v : Visit τ} (plain : v.ForHealth) (service : Service τ)
    (l : Limiter τ) : service.AsksHealth l v where
  method := plain.method
  path := plain.path
  admitted := by
    have exempt : v.request.path ∈ Limiter.exemptPaths := by
      rw [plain.path]
      decide
    have reads := (readsAs_iff_of_exempt exempt exempt).mpr rfl
    have reading := (urlPath_eq_iff plain.standard (inert_of_exempt exempt)).mpr
      ⟨plain.decodes, reads⟩
    exact ⟨_, reading, .inl exempt⟩

open Classical in
theorem Service.serve_readable_health {service : Service τ} {store : Store} {m : Memory τ}
    {v : Visit τ} (asks : service.AsksHealth m.limiter v)
    (readable : Health.Readable service.resolver store.tree Pages.viewNames)
    {uptime : Float} {finite : Numeral.Binary}
    (elapsed : Clock.elapsed v.now service.start = .ok uptime)
    (stated : Numeral.valueOf uptime = .finite finite) :
    let report := Health.reportOf Pages.viewNames
      (fun view => decide (service.resolver.Has store.tree view)) uptime
    let answer := service.serve store m v
    answer.raised = none ∧ answer.response.status = 200 ∧
      answer.response.body = .text report.document.json := by
  intro report answer
  have looked : ∀ view ∈ Pages.viewNames,
      service.resolver.hasView store.tree view =
        .ok (decide (service.resolver.Has store.tree view)) :=
    fun _ member => Health.hasView_of_readable readable member
  have answered : (service.routed store v).result = .ok (jsonResponse 200 [] report.document) := by
    rw [Service.routed_health asks]
    exact Health.answer_of_found service.resolver store.tree Pages.viewNames _ _ looked elapsed
      stated
  have author := Service.author_of_admits asks.admitted (Service.direct_of_asks asks) store
  rw [Service.routesAuthor, answered] at author
  obtain ⟨status, body⟩ := Service.serve_route author
  have raised := service.serve_raised store m v
  rw [author] at raised
  exact ⟨raised, status, body⟩

theorem Service.serve_unreadable_health {service : Service τ} {store : Store} {m : Memory τ}
    {v : Visit τ} (asks : service.AsksHealth m.limiter v)
    (unreadable : ¬ Health.Readable service.resolver store.tree Pages.viewNames) :
    (service.serve store m v).response.status = 500 ∧
      ∃ text, (service.serve store m v).raised = some (.other "UnicodeDecodeError" text) := by
  obtain ⟨text, surveyed⟩ := Health.survey_of_unreadable unreadable
  have failed : (service.routed store v).result = .error (.other "UnicodeDecodeError" text) := by
    rw [Service.routed_health asks]
    simp only [Health.answer, surveyed, bind, Except.bind]
  have author := Service.author_of_admits asks.admitted (Service.direct_of_asks asks) store
  rw [Service.routesAuthor, failed] at author
  have replied := congrArg (service.reply v.requestId v) author
  obtain ⟨_, status, raised⟩ := Service.not_fine_of_failure replied
  exact ⟨status, text, raised⟩

/-- A plain visit to the health check, at a time that can be stated, whatever files there are and
whatever the limiter keeps. The visit is answered with a report exactly if each view's template that
is there is a text. The report has all views and no others; a view is available if its template is a
file below the directory, and missing otherwise; the service is healthy if all of them are
available. If a template is no text, the check fails instead of reporting anything, and the failure
is passed on to the server. -/
theorem health_answers_iff_templates_readable (service : Service τ) (store : Store) (m : Memory τ)
    (v : Visit τ) (plain : v.ForHealth) (timed : service.Timed v) :
    let r := service.resolver
    let answer := service.serve store m v
    (answer.response.status = 200 ↔ Health.Readable r store.tree Pages.viewNames) ∧
      (Health.Readable r store.tree Pages.viewNames → answer.raised = none ∧
        ∃ (status : String) (states : List (String × String)) (uptime : Float),
        answer.response.body = .text (Value.dict [("status", .text status),
          ("version", .text "1.0.0"),
          ("views", .dict (states.map fun (view, state) => (view, .text state))),
          ("uptime_seconds", .number (.real uptime))]).json ∧
        Clock.elapsed v.now service.start = .ok uptime ∧
        states.map Prod.fst = Pages.viewNames ∧
        (∀ view ∈ Pages.viewNames, ((view, "available") ∈ states ↔ r.Has store.tree view) ∧
          ((view, "missing") ∈ states ↔ ¬ r.Has store.tree view)) ∧
        (status = "healthy" ↔ ∀ view ∈ Pages.viewNames, r.Has store.tree view) ∧
        (status = "healthy" ∨ status = "degraded")) ∧
      (¬ Health.Readable r store.tree Pages.viewNames → answer.response.status = 500 ∧
        ∃ text, answer.raised = some (.other "UnicodeDecodeError" text)) := by
  classical
  intro r answer
  have asks := plain.asks service m.limiter
  obtain ⟨uptime, finite, elapsed, stated⟩ := timed
  have failing (unreadable : ¬ Health.Readable r store.tree Pages.viewNames) :=
    Service.serve_unreadable_health asks unreadable
  refine ⟨⟨?_, ?_⟩, ?_, failing⟩
  · intro answered
    by_contra unreadable
    have codes := congrArg Status.code (answered.symm.trans (failing unreadable).1)
    exact absurd codes (by decide)
  · intro readable
    exact (Service.serve_readable_health asks readable elapsed stated).2.1
  · intro readable
    obtain ⟨raised, _, body⟩ := Service.serve_readable_health asks readable elapsed stated
    refine ⟨raised, _, (Health.reportOf Pages.viewNames _ uptime).views, uptime, body, elapsed,
      ?_, ?_,
      ?_, Health.status_reportOf _ _ uptime⟩
    · rw [Health.views_reportOf, List.map_map]
      exact List.map_id _
    · intro view member
      rw [Health.mem_views_reportOf, Health.mem_views_reportOf, Health.stateOf_eq_available,
        Health.stateOf_eq_missing]
      simp [member, r]
    · rw [Health.healthy_reportOf]
      simp [Health.mem_views_reportOf, Health.stateOf_eq_missing, r]

/-- A directory with one template, and with a directory in the place of another. -/
def halfFurnished : Tree :=
  ⟨[([['@']], .directory), ([['@'], "templates".toList], .directory),
    ([['@'], "templates".toList, "index.html".toList], .file (Text.encodeUtf8 "Hi".toList)),
    ([['@'], "templates".toList, "login.html".toList], .directory)]⟩

/-- A directory with a template that is no text. -/
def garbled : Tree :=
  ⟨[([['@']], .directory), ([['@'], "templates".toList], .directory),
    ([['@'], "templates".toList, "index.html".toList], .file [0xFF])]⟩

theorem plain_health_visit : (visitTo "/health").ForHealth ∧ greeter.Timed (visitTo "/health") := by
  obtain ⟨_, elapsed, finite⟩ := greeter_asks_health {}
  have decodes : (visitTo "/health").request.Decodes := ⟨[], rfl⟩
  exact ⟨⟨rfl, rfl, ⟨.inl rfl, nofun⟩, decodes⟩, _, _, elapsed, finite⟩

theorem halfFurnished_has_one :
    greeter.resolver.Holds halfFurnished "index" (Text.encodeUtf8 "Hi".toList) ∧
    ¬ greeter.resolver.Has halfFurnished "login" := by
  constructor
  · exact ⟨by decide +kernel, rfl⟩
  · rintro ⟨bytes, _, file⟩
    have directory :
        halfFurnished.find (greeter.resolver.templatePath "login") = .ok .directory := rfl
    rw [directory] at file
    cases file

theorem health_of_halfFurnished :
    let answer := greeter.serve (.ofTree halfFurnished) {} (visitTo "/health")
    answer.response.status = 200 ∧
      ∃ (status : String) (states : List (String × String)) (uptime : Float),
        answer.response.body = .text (Value.dict [("status", .text status),
          ("version", .text "1.0.0"),
          ("views", .dict (states.map fun (view, state) => (view, .text state))),
          ("uptime_seconds", .number (.real uptime))]).json ∧
        ("index", "available") ∈ states ∧ ("login", "missing") ∈ states ∧ status = "degraded" := by
  intro answer
  obtain ⟨plain, timed⟩ := plain_health_visit
  obtain ⟨index, login⟩ := halfFurnished_has_one
  have readable : Health.Readable greeter.resolver halfFurnished Pages.viewNames := by
    intro view member bytes holds
    have views : view = "index" ∨ view = "login" := by
      simpa [Pages.viewNames, Pages.table] using member
    rcases views with rfl | rfl
    · rw [holds.unique index]
      exact ⟨"Hi".toList, by decide +kernel⟩
    · exact absurd ⟨bytes, holds⟩ login
  obtain ⟨status, answers, _⟩ :=
    health_answers_iff_templates_readable greeter (.ofTree halfFurnished) {}
      (visitTo "/health") plain timed
  obtain ⟨_, word, states, uptime, body, _, _, told, healthy, words⟩ := answers readable
  refine ⟨status.mpr readable, word, states, uptime, body, ?_, ?_, ?_⟩
  · exact (told "index" (by decide)).1.mpr ⟨_, index⟩
  · exact (told "login" (by decide)).2.mpr login
  · exact words.resolve_left fun all => login (healthy.mp all "login" (by decide))

/-- A template that is there but is no text is neither reported as available nor as missing: the
check fails. -/
theorem health_fails_of_garbled :
    (visitTo "/health").ForHealth ∧ greeter.Timed (visitTo "/health") ∧
      greeter.resolver.Has garbled "index" ∧
      (greeter.serve (.ofTree garbled) {} (visitTo "/health")).response.status = 500 ∧
      (greeter.serve (.ofTree garbled) {} (visitTo "/health")).raised ≠ none := by
  obtain ⟨plain, timed⟩ := plain_health_visit
  have holds : greeter.resolver.Holds garbled "index" [0xFF] := ⟨by decide +kernel, rfl⟩
  have unreadable : ¬ Health.Readable greeter.resolver
      (Store.ofTree garbled).tree Pages.viewNames := by
    intro readable
    obtain ⟨s, decoded⟩ := readable "index" (by decide) _ holds
    cases decoded
  obtain ⟨status, text, raised⟩ :=
    Service.serve_unreadable_health (m := {}) (plain.asks greeter {}) unreadable
  refine ⟨plain, timed, ⟨_, holds⟩, status, ?_⟩
  rw [raised]
  exact Option.some_ne_none _

end Answer

end PageServer
