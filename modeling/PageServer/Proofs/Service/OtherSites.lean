import PageServer.Proofs.Service.PageAnswer
import PageServer.Proofs.Settings.Origins
/-! What answers grant to pages of other sites. The layer that grants stands inside the last resort
and outside all else, and nothing in it grants anything: so the last resort alone grants no one, and
every other answer grants what the list of origins says. -/
namespace PageServer

open Http Files

section Layers

variable {origins : List String} {request : Request} {origin : String}

def grantsOf (r : Response) : List String :=
  r.headers.values Cors.originHeader

/-- What the list of origins grants to an origin. -/
def granted (origins : List String) (origin : String) : List String :=
  if Cors.allows origins origin then [origin] else []

theorem grantsOf_fullHeaders (status : Status) (headers : Headers) (mediaType : Option String)
    (body : Body) : grantsOf ⟨status, fullHeaders status headers mediaType body, body⟩ =
      headers.values Cors.originHeader :=
  values_fullHeaders _ _ _ _ (by decide) (by decide)

theorem values_mark_origin (asks : request.header? "origin" = some origin) {headers : Headers}
    (bare : headers.values Cors.originHeader = []) :
    Headers.values (Cors.mark origins request headers) Cors.originHeader =
      granted origins origin := by
  have vary : Cors.originHeader ≠ "vary" := by decide
  have credentials : Cors.originHeader ≠ Cors.credentialsHeader := by decide
  have exposed : Cors.originHeader ≠ "access-control-expose-headers" := by decide
  simp only [Cors.mark, asks, Headers.addVary, Headers.values_set_of_ne _ _ _ _ vary, granted]
  split
  · exact Headers.values_set _ _ _
  · rw [Headers.values_set_of_ne _ _ _ _ exposed, Headers.values_set_of_ne _ _ _ _ credentials,
      bare]

theorem grantsOf_preflightResponse (asks : request.header? "origin" = some origin) :
    grantsOf (Cors.preflightResponse origins request) = granted origins origin := by
  have grant : Headers.values (Cors.grant origins origin) Cors.originHeader =
      granted origins origin := by
    unfold Cors.grant granted
    split <;> rfl
  unfold Cors.preflightResponse textResponse
  dsimp only
  -- The list of methods and the names that are asked for stand around the grant.
  cases request.header? "access-control-request-headers" <;>
  split <;>
  · rw [grantsOf_fullHeaders, values_append, values_append, asks, Option.getD_some, grant]
    exact List.append_nil _

theorem status_preflightResponse :
    (Cors.preflightResponse origins request).status = 200 ∨
      (Cors.preflightResponse origins request).status = 400 := by
  unfold Cors.preflightResponse
  dsimp only
  split
  · exact .inl rfl
  · exact .inr rfl

end Layers

section Answers

variable {τ : Type} [Clock τ] {service : Service τ} {store : Store} {m : Memory τ} {v : Visit τ}
  {origin : String}

omit [Clock τ] in
theorem grantsOf_marking (asks : v.request.header? "origin" = some origin) {r : Response}
    (bare : grantsOf r = []) :
    grantsOf (service.marking v.request r) = granted service.settings.origins origin :=
  values_mark_origin asks bare

theorem grantsOf_compress (request : Request) (r : Response) :
    grantsOf (Compression.compress request r) = grantsOf r :=
  values_compress _ _ (by decide) (by decide) (by decide)

/-- No standard route grants anything itself. -/
theorem Service.grants_of_routed (plain : service.extra = []) (store : Store) (v : Visit τ) :
    valuesIn Cors.originHeader (service.routed store v).result = [] := by
  have foreign : Cors.originHeader ∉ routeFields := by decide
  rcases service.values_of_standard plain store v foreign with
    ⟨p, member, _, _, routed⟩ | bare
  · rw [routed, Service.run_page member]
    cases made : service.pageMarkup store v p with
    | ok s => exact grantsOf_fullHeaders ..
    | error failure =>
        cases failure with
        | app e => rfl
        | http status detail headers =>
            exact absurd (.head _) (Service.nearest_of_pageMarkup made)
        | invalid errors => rfl
        | other kind text => rfl
  · exact bare

/-- What a handler answers grants nothing that the failure itself does not. -/
theorem grantsOf_answer? {failure : Failure} {requestId : String} {r : Response}
    {entries : List LogEntry} (answered : failure.answer? requestId = some (r, entries)) :
    grantsOf r = valuesIn Cors.originHeader (.error failure) := by
  cases failure with
  | app e =>
      cases answered
      exact grantsOf_fullHeaders ..
  | http status detail headers =>
      cases answered
      exact values_httpAnswer _ _ _ (by decide) (by decide)
  | invalid errors =>
      cases answered
      exact grantsOf_fullHeaders ..
  | other kind text => cases answered

theorem Service.grants_of_routesReply (plain : service.extra = [])
    (asks : v.request.header? "origin" = some origin) {r : Response}
    (replied : service.reply v.requestId v (service.routesAuthor store v) = .ok r) :
    grantsOf r = granted service.settings.origins origin := by
  have bare := Service.grants_of_routed plain store v
  unfold Service.routesAuthor at replied
  cases routed : (service.routed store v).result with
  | ok response =>
      rw [routed] at replied bare
      cases replied
      exact grantsOf_marking asks ((grantsOf_compress _ _).trans bare)
  | error failure =>
      rw [routed] at replied bare
      simp only [Service.reply] at replied
      split at replied
      · rename_i response entries answered
        cases replied
        exact grantsOf_marking asks
          ((grantsOf_compress _ _).trans ((grantsOf_answer? answered).trans bare))
      · cases replied

theorem Service.grants_of_reply (plain : service.extra = [])
    (asks : v.request.header? "origin" = some origin) {r : Response}
    (replied : service.reply v.requestId v (service.author store m.limiter v) = .ok r) :
    grantsOf r = granted service.settings.origins origin := by
  by_cases preflight : Cors.isPreflight v.request
  · simp only [Service.author, preflight, ↓reduceIte, Service.reply, Except.ok.injEq] at replied
    subst replied
    exact grantsOf_preflightResponse asks
  have direct : Cors.isPreflight v.request = false := by simpa using preflight
  by_cases admitted : service.Admits m.limiter v
  · rw [Service.author_of_admits admitted direct store] at replied
    exact Service.grants_of_routesReply plain asks replied
  · rcases service.author_of_not_admits admitted direct store with
      ⟨_, seconds, _, author⟩ | ⟨kind, text, author⟩
    · rw [author] at replied
      cases replied
      exact grantsOf_marking asks
        (values_refusalResponse seconds (by decide) (by decide) (by decide))
    · rw [author] at replied
      cases replied

theorem Service.grants_of_answered (plain : service.extra = [])
    (asks : v.request.header? "origin" = some origin)
    (answered : (service.serve store m v).raised = none) :
    grantsOf (service.serve store m v).response = granted service.settings.origins origin := by
  rw [service.serve_raised] at answered
  rw [service.serve_response]
  cases replied : service.reply v.requestId v (service.author store m.limiter v) with
  | ok r =>
      rw [← Service.grants_of_reply plain asks replied]
      exact Headers.values_set_of_ne _ _ _ _ (by decide)
  | error failure => simp [replied] at answered

/-- What is passed on to the server is answered by the last resort. -/
theorem Service.response_of_raised {failure : Failure}
    (raised : (service.serve store m v).raised = some failure) :
    (service.serve store m v).response = Failure.unexpectedResponse v.requestId := by
  rw [service.serve_raised] at raised
  rw [service.serve_response]
  cases replied : service.reply v.requestId v (service.author store m.limiter v) with
  | ok r => simp [replied] at raised
  | error reason => rfl

theorem Service.serve_preflight (preflight : Cors.isPreflight v.request = true) :
    (service.serve store m v).raised = none ∧
      ((service.serve store m v).response.status = 200 ∨
        (service.serve store m v).response.status = 400) ∧
      (service.serve store m v).limiter = m.limiter := by
  have author : service.author store m.limiter v = .preflight := by
    simp only [Service.author, preflight, ↓reduceIte]
  refine ⟨?_, ?_, ?_⟩
  · simp only [service.serve_raised, author, Service.reply]
  · rw [service.serve_response, author]
    exact status_preflightResponse
  · simp only [Served.limiter, service.serve_memory, Service.limiterAfter, preflight, ↓reduceIte]

/-- At any time in a run of a service with just the standard routes, whose settings list no
asterisk: an answer to a request with an origin grants that origin if and only if the settings list
it, once and under its own name, and grants nothing else; the one exception is the answer of the
last resort, which grants nothing. Preflights are not counted, whether they get what they ask for
or not. -/
theorem granted_iff_listed {settings : Settings} {given : Option Resolver} {start : τ}
    {service : Service τ} (created : Service.create settings given start = .ok service)
    (named : ¬ settings.Lists "*") (initial : State τ) (events : List (Event τ)) (v : Visit τ)
    {origin : String} (asks : v.request.header? "origin" = some origin) :
    let s := (service.runEvents initial events).2
    let answer := service.serve s.store s.memory v
    let grants := answer.response.headers.values "access-control-allow-origin"
    (¬ settings.Lists origin → grants = []) ∧
      (settings.Lists origin → answer.raised = none → grants = [origin]) ∧
      (∀ failure, answer.raised = some failure →
        answer.response = Failure.unexpectedResponse v.requestId ∧ grants = []) ∧
      (Cors.isPreflight v.request = true → answer.raised = none ∧
        (answer.response.status = 200 ∨ answer.response.status = 400) ∧
        answer.limiter = s.memory.limiter) := by
  have plain := Service.of_create created
  intro s answer grants
  have listed : Cors.allows service.settings.origins origin = true ↔ settings.Lists origin := by
    rw [plain.2, ← Settings.mem_origins_iff]
    rw [← Settings.mem_origins_iff] at named
    simp only [Cors.allows, Bool.or_eq_true, List.contains_iff_mem, or_iff_right named]
  have last (failure : Failure) (raised : answer.raised = some failure) :
      answer.response = Failure.unexpectedResponse v.requestId ∧ grants = [] := by
    have response := Service.response_of_raised raised
    refine ⟨response, ?_⟩
    simp only [grants, answer, response]
    exact values_unexpectedResponse _ (by decide) (by decide) (by decide)
  have others (answered : answer.raised = none) :
      grants = granted service.settings.origins origin :=
    Service.grants_of_answered plain.1 asks answered
  refine ⟨fun unlisted => ?_, fun member answered => ?_, last, Service.serve_preflight⟩
  · cases raised : answer.raised with
    | none => rw [others raised, granted, if_neg (fun allows => unlisted (listed.mp allows))]
    | some failure => exact (last failure raised).2
  · rw [others answered, granted, if_pos (listed.mpr member)]

def neighbourly : Service Rat :=
  { settings := { corsOrigins := " http://a.test ,,http://b.test," }
    resolver := .standard "/@bundled" ".html"
    start := 0 }

def preflightVisit : Visit Rat :=
  { request :=
      { method := "OPTIONS"
        path := "/index"
        headers := [("origin", "http://a.test"), ("access-control-request-method", "GET")] }
    now := 0
    identifier := "01234567-89ab-4def-8123-456789abcdef" }

theorem granted_of_neighbour :
    let answer := neighbourly.serve (.ofTree ⟨[]⟩) {} preflightVisit
    answer.response.headers.values "access-control-allow-origin" = ["http://a.test"] ∧
      answer.limiter.recorded = 0 := by
  have created : Service.create neighbourly.settings (some neighbourly.resolver) (0 : Rat) =
      .ok neighbourly := rfl
  have named : ¬ neighbourly.settings.Lists "*" := by
    rw [← Settings.mem_origins_iff]
    decide +kernel
  have member : neighbourly.settings.Lists "http://a.test" := by
    rw [← Settings.mem_origins_iff]
    decide +kernel
  have asks : preflightVisit.request.header? "origin" = some "http://a.test" := rfl
  obtain ⟨_, grants, _, preflight⟩ :=
    granted_iff_listed created named ⟨.ofTree ⟨[]⟩, {}⟩ [] preflightVisit asks
  obtain ⟨answered, _, limiter⟩ := preflight (by decide +kernel)
  exact ⟨grants member answered, congrArg Limiter.recorded limiter⟩

end Answers

end PageServer
