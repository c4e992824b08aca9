import PageServer.Proofs.Service.Answer
import PageServer.Proofs.Http.UrlPath
/-! Visits that the limiter and the access log leave out. Both decide on the path of the URL, and
the routes on the path of the request, so a request whose URL is read differently can be left out
without being routed to what the exemption is meant for. -/
namespace PageServer

open Http Files

/-! Decisions -/

section Decisions

variable {τ : Type} {v : Visit τ}

/-- The access log leaves a visit out, whatever it leads to. -/
def Visit.Quiet (v : Visit τ) : Prop :=
  ∃ path, urlPath v.request = .ok path ∧
    ∀ requestId served, AccessLog.note v requestId path served = served

theorem quiet_iff_urlPath : v.Quiet ↔ urlPath v.request = .ok AccessLog.quietPath := by
  constructor
  · rintro ⟨path, reading, left⟩
    by_cases quiet : path = AccessLog.quietPath
    · rw [reading, quiet]
    · have noted := left "" ⟨.ok (textResponse 200 [] ""), []⟩
      simp [AccessLog.note, quiet] at noted
  · intro reading
    exact ⟨AccessLog.quietPath, reading, fun requestId served => by simp [AccessLog.note]⟩

variable [Clock τ]

/-- The limiter leaves a visit alone, whatever it keeps and whatever is answered behind it. -/
def Visit.Exempt (v : Visit τ) : Prop :=
  ∀ limits (l : Limiter τ) behind, l.guardVisit limits v behind = (behind, l)

theorem exempt_iff_urlPath :
    v.Exempt ↔ ∃ path ∈ Limiter.exemptPaths, urlPath v.request = .ok path := by
  constructor
  · intro exempt
    have left := exempt ⟨1, 0⟩ {} ⟨.ok (textResponse 200 [] ""), []⟩
    unfold Limiter.guardVisit at left
    cases reading : urlPath v.request with
    | error fault => simp [reading] at left
    | ok path =>
        by_cases member : path ∈ Limiter.exemptPaths
        · exact ⟨path, member, rfl⟩
        -- A first request is recorded, so the limiter does not stay as it was.
        · have recorded :
              (Limiter.ask ⟨1, 0⟩ v.clientName v.now ({} : Limiter τ)).limiter.recorded = 1 := rfl
          rw [reading] at left
          dsimp only at left
          rw [Limiter.guard_of_not_exempt _ _ _ member] at left
          have kept := congrArg (fun outcome => outcome.2.recorded) left
          simp [recorded] at kept
  · rintro ⟨path, member, reading⟩ limits l behind
    simp only [Limiter.guardVisit, reading]
    exact Limiter.guard_of_exempt limits l v member behind

end Decisions

/-! Paths -/

section Paths

variable {τ : Type} {v : Visit τ}

theorem inert_of_exempt {path : String} (exempt : path ∈ Limiter.exemptPaths) : Inert path := by
  simp only [Limiter.exemptPaths, List.mem_cons, List.not_mem_nil, or_false] at exempt
  rcases exempt with rfl | rfl | rfl | rfl
  · exact ⟨"health".toList, by decide, by decide, List.all_iff_forall_prop.mp (by decide)⟩
  · exact ⟨"docs".toList, by decide, by decide, List.all_iff_forall_prop.mp (by decide)⟩
  · exact ⟨"openapi.json".toList, by decide, by decide, List.all_iff_forall_prop.mp (by decide)⟩
  · exact ⟨"redoc".toList, by decide, by decide, List.all_iff_forall_prop.mp (by decide)⟩

theorem quietPath_exempt : AccessLog.quietPath ∈ Limiter.exemptPaths := by decide

theorem exempt_iff [Clock τ] (standard : v.request.Standard) :
    v.Exempt ↔ v.request.Decodes ∧ ∃ path ∈ Limiter.exemptPaths, v.request.ReadsAs path := by
  rw [exempt_iff_urlPath]
  constructor
  · rintro ⟨path, member, reading⟩
    obtain ⟨decodes, reads⟩ := (urlPath_eq_iff standard (inert_of_exempt member)).mp reading
    exact ⟨decodes, path, member, reads⟩
  · rintro ⟨decodes, path, member, reads⟩
    exact ⟨path, member, (urlPath_eq_iff standard (inert_of_exempt member)).mpr ⟨decodes, reads⟩⟩

theorem quiet_iff (standard : v.request.Standard) :
    v.Quiet ↔ v.request.Decodes ∧ v.request.ReadsAs AccessLog.quietPath := by
  rw [quiet_iff_urlPath, urlPath_eq_iff standard (inert_of_exempt quietPath_exempt)]

/-- An exempt path reads as itself and as no other exempt one. -/
theorem readsAs_iff_of_exempt {path : String} (given : v.request.path ∈ Limiter.exemptPaths)
    (exempt : path ∈ Limiter.exemptPaths) : v.request.ReadsAs path ↔ v.request.path = path :=
  readsAs_iff_of_regular (inert_of_exempt given).regular (inert_of_exempt exempt)

end Paths

/-! Routes -/

section Routes

variable {τ : Type} [Clock τ] {v : Visit τ}

/-- A visit is left out exactly if the path that the routes see is one that is meant to be. -/
def Visit.ExemptByRoute (v : Visit τ) : Prop :=
  (v.Exempt ↔ v.request.path ∈ Limiter.exemptPaths) ∧
    (v.Quiet ↔ v.request.path = AccessLog.quietPath)

theorem exemptByRoute_iff (standard : v.request.Standard) :
    v.ExemptByRoute ↔
      (v.request.path ∈ Limiter.exemptPaths → v.request.Decodes) ∧
        (v.request.Decodes → ∀ path ∈ Limiter.exemptPaths, v.request.ReadsAs path →
          v.request.path = path) := by
  unfold Visit.ExemptByRoute
  rw [exempt_iff standard, quiet_iff standard]
  constructor
  · rintro ⟨limited, _⟩
    refine ⟨fun member => (limited.mpr member).1, fun decodes path member reads => ?_⟩
    have given := limited.mp ⟨decodes, path, member, reads⟩
    exact (readsAs_iff_of_exempt given member).mp reads
  · rintro ⟨decodes, genuine⟩
    refine ⟨⟨?_, fun member => ?_⟩, ⟨?_, fun same => ?_⟩⟩
    · rintro ⟨decoded, path, member, reads⟩
      rw [genuine decoded path member reads]
      exact member
    · exact ⟨decodes member, _, member, (readsAs_iff_of_exempt member member).mpr rfl⟩
    · rintro ⟨decoded, reads⟩
      exact genuine decoded _ quietPath_exempt reads
    · have member : v.request.path ∈ Limiter.exemptPaths := same ▸ quietPath_exempt
      exact ⟨decodes member, (readsAs_iff_of_exempt member quietPath_exempt).mpr same⟩

theorem exemptByRoute_of_regular (standard : v.request.Standard) (decodes : v.request.Decodes)
    (regular : Regular v.request.path) : v.ExemptByRoute := by
  refine (exemptByRoute_iff standard).mpr ⟨fun _ => decodes, fun _ path member reads => ?_⟩
  exact (readsAs_iff_of_regular regular (inert_of_exempt member)).mp reads

/-- The limiter answers no exempt visit, and keeps what it kept. -/
theorem serve_of_exempt (exempt : v.Exempt) (service : Service τ) (store : Store) (m : Memory τ) :
    (∀ seconds, service.author store m.limiter v ≠ .limiter seconds) ∧
      (service.serve store m v).limiter = m.limiter := by
  obtain ⟨path, member, reading⟩ := exempt_iff_urlPath.mp exempt
  constructor
  · intro seconds
    simp only [Service.author, reading, member, ↓reduceIte]
    split
    · simp
    · unfold Service.routesAuthor
      split <;> simp
  · simp only [Served.limiter, Service.serve_memory, Service.limiterAfter, reading, member,
      ↓reduceIte, ite_self]

/-- Any other visit is counted or refused, unless the seconds of its refusal cannot be counted. -/
theorem serve_of_not_exempt {path : String} (reading : urlPath v.request = .ok path)
    (counts : path ∉ Limiter.exemptPaths) (direct : Cors.isPreflight v.request = false)
    {service : Service τ} (allows : 1 ≤ service.limits.requests) (store : Store) (m : Memory τ) :
    (service.serve store m v).limiter.recorded = m.limiter.recorded + 1 ∨
      (∃ seconds, service.author store m.limiter v = .limiter seconds ∧
        (service.serve store m v).response.status = 429) ∨
      ∃ fault, service.author store m.limiter v = .handler .unexpected (.ofClock fault) := by
  have kept : (service.serve store m v).limiter =
      (m.limiter.ask service.limits v.clientName v.now).limiter := by
    simp only [Served.limiter, Service.serve_memory, Service.limiterAfter, reading, counts, direct,
      Bool.false_eq_true, ↓reduceIte]
  have author : service.author store m.limiter v =
      service.verdictAuthor store v (m.limiter.ask service.limits v.clientName v.now).verdict := by
    simp only [Service.author, reading, counts, direct, Bool.false_eq_true, ↓reduceIte]
  rcases Limiter.ask_recorded_or_refused allows v.clientName v.now m.limiter with
    ⟨_, recorded⟩ | ⟨held, seconds, refused⟩ | ⟨fault, uncountable⟩
  · rw [kept]
    exact .inl recorded
  · rw [refused] at author
    refine .inr (.inl ⟨seconds, author, ?_⟩)
    rw [service.serve_response, author]
    rfl
  · rw [uncountable] at author
    exact .inr (.inr ⟨fault, author⟩)

/-- When the limiter and the access log leave out just the visits that are routed to the paths meant
for it: a visit to such a path has a query that is a text, and no other path is read as one of them.
That holds of all regular paths, with any host or none. An exempt visit passes the limiter and
leaves it as it is; any other visit to a regular path is counted or refused. -/
theorem exempt_by_route_iff (v : Visit τ) (standard : v.request.Standard) :
    (v.ExemptByRoute ↔
      (v.request.path ∈ Limiter.exemptPaths → v.request.Decodes) ∧
        (v.request.Decodes → ∀ path ∈ Limiter.exemptPaths, v.request.ReadsAs path →
          v.request.path = path)) ∧
      (v.Exempt → ∀ (service : Service τ) store m,
        (∀ seconds, service.author store m.limiter v ≠ .limiter seconds) ∧
          (service.serve store m v).limiter = m.limiter) ∧
      (Regular v.request.path → v.request.Decodes →
        v.ExemptByRoute ∧
          (v.request.path ∉ Limiter.exemptPaths → Cors.isPreflight v.request = false →
            ∀ (service : Service τ) store m, 1 ≤ service.limits.requests →
              (service.serve store m v).limiter.recorded = m.limiter.recorded + 1 ∨
                (∃ seconds, service.author store m.limiter v = .limiter seconds ∧
                  (service.serve store m v).response.status = 429) ∨
                ∃ fault, service.author store m.limiter v =
                  .handler .unexpected (.ofClock fault))) := by
  refine ⟨exemptByRoute_iff standard, serve_of_exempt, fun regular decodes => ?_⟩
  have byRoute := exemptByRoute_of_regular standard decodes regular
  refine ⟨byRoute, fun routed direct service store m allows => ?_⟩
  have reading := urlPath_of_regular standard decodes regular
  refine serve_of_not_exempt reading (fun member => ?_) direct allows store m
  exact routed (byRoute.1.mp (exempt_iff_urlPath.mpr ⟨_, member, reading⟩))

/-- A visit to a path that only looks like one of the exempt ones once a line feed is dropped. -/
def forgedVisit : Visit Rat :=
  { request :=
      { method := "GET", path := "/hea\nlth", headers := [("host", "test")],
        server := some ("127.0.0.1", 8000) }
    now := 0
    identifier := "" }

theorem forgedVisit_exempt_and_unknown :
    forgedVisit.Exempt ∧ forgedVisit.Quiet ∧ ¬ forgedVisit.ExemptByRoute ∧
      Route.destination Route.standard "GET" forgedVisit.request.path = .unknown := by
  have reading : urlPath forgedVisit.request = .ok "/health" := by decide +kernel
  have exempt : forgedVisit.Exempt := exempt_iff_urlPath.mpr ⟨_, quietPath_exempt, reading⟩
  have routed : forgedVisit.request.path ∉ Limiter.exemptPaths := by decide +kernel
  exact ⟨exempt, quiet_iff_urlPath.mpr reading, fun byRoute => routed (byRoute.1.mp exempt), rfl⟩

/-- A visit to a page whose path, query and host all mention an exempt path. -/
def temptingVisit : Visit Rat :=
  { request :=
      { method := "GET", path := "/index?/health#/health", query := "/health",
        headers := [("host", "evil/health")], server := some ("127.0.0.1", 8000) }
    now := 0
    identifier := "" }

theorem temptingVisit_exempt_by_route : temptingVisit.ExemptByRoute := by
  have standard : temptingVisit.request.Standard := by
    refine ⟨.inl rfl, fun name port server c member => ?_⟩
    cases server
    have digits : ∀ c ∈ "127.0.0.1".toList, isNameChar c :=
      List.all_iff_forall_prop.mp (by decide)
    exact digits c member
  have regular : Regular temptingVisit.request.path :=
    ⟨"index?/health#/health".toList, by decide, List.all_iff_forall_prop.mp (by decide)⟩
  have decodes : temptingVisit.request.Decodes := ⟨"/health".toList, by decide +kernel⟩
  exact ((exempt_by_route_iff temptingVisit standard).2.2 regular decodes).1

end Routes

end PageServer
