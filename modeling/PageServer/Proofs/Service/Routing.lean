import PageServer.Service.Basic
/-! Where requests go. The routes of every service come before its own, and no two of them are for
one path, so what reaches a page or the health check does not depend on other routes. -/
namespace PageServer

open Http

/-! Paths -/

/-- A route for exactly one text also takes that text with a line feed behind it. -/
theorem PathPattern.accepts_exactly (text path : String) :
    (exactly text).accepts path = true ↔ path = text ∨ path = text ++ "\n" := by
  have pieces := pieces?_literals text.toList path.toList
  have behind : path = text ++ "\n" ↔ path.toList = text.toList ++ ['\n'] := by
    rw [← String.toList_inj, String.toList_append]
    rfl
  simp only [accepts, exactly, pieces, String.toList_inj, Option.isSome_ite, behind]

/-- The routes match a path to a page. -/
def PageRoute.Matches (p : PageRoute) (path : String) : Prop :=
  (PathPattern.exactly p.path).accepts path = true

theorem PageRoute.matches_path (p : PageRoute) : p.Matches p.path :=
  (PathPattern.accepts_exactly p.path p.path).mpr (.inl rfl)

namespace Route

/-! Destinations -/

section Destinations

variable {routes front back : List Route} {r : Route} {method path : String}

theorem oversized?_exactly (text path : String) (methods : List String) (endpoint : Endpoint) :
    oversized? ⟨.exactly text, methods, endpoint⟩ path = none := by
  simp only [oversized?, PathPattern.exactly, PathPattern.pieces?_literals]
  split <;> rfl

/-- Only a route for the path and the method gets a request to its endpoint. -/
theorem of_destination {e : Endpoint} (reached : destination routes method path = .endpoint e) :
    ∃ r ∈ routes, r.matchesPath path = true ∧ r.hasMethod method = true ∧ r.endpoint = e := by
  unfold destination at reached
  cases found : (routes.filter (·.matchesPath path)).find?
      fun r => r.hasMethod method || (r.oversized? path).isSome with
  | some r =>
      have hit := List.find?_some found
      have member := List.mem_filter.mp (List.mem_of_find?_eq_some found)
      simp only [found, reach] at reached
      cases oversized : r.oversized? path with
      | some digits => simp [oversized] at reached
      | none =>
          simp only [oversized, Destination.endpoint.injEq] at reached
          simp only [oversized, Option.isSome_none, Bool.or_false] at hit
          exact ⟨r, member.1, member.2, hit, reached⟩
  | none =>
      cases here : routes.filter (·.matchesPath path) with
      | cons r rest =>
          rw [here] at found
          simp only [here, found, reduceCtorEq] at reached
      | nil =>
          simp only [here, List.find?_nil] at reached
          split at reached
          · simp only [reach] at reached
            split at reached <;> cases reached
          · cases reached

/-- The only one of the first routes that is for a path gets it before all later routes. -/
theorem destination_of_only (only : front.filter (·.matchesPath path) = [r])
    (readable : r.oversized? path = none) (has : r.hasMethod method = true) :
    destination (front ++ back) method path = .endpoint r.endpoint := by
  simp only [destination, List.filter_append, only, List.cons_append, List.find?_cons, has,
    Bool.true_or, reach, readable]

theorem destination_of_other_method (only : routes.filter (·.matchesPath path) = [r])
    (readable : r.oversized? path = none) (lacks : r.hasMethod method = false) :
    destination routes method path = .wrongMethod (r.methods.mergeSort (· ≤ ·)) := by
  simp only [destination, only, List.find?_cons, lacks, readable, Option.isSome_none,
    Bool.or_false, List.find?_nil]

end Destinations

/-! Standard routes -/

section Standard

variable {p : PageRoute} {method path : String}

def ofPage (p : PageRoute) : Route :=
  ⟨.exactly p.path, Pages.methods, .page p⟩

theorem standard_of_page (member : p ∈ Pages.table) (found : p.Matches path) :
    standard.filter (·.matchesPath path) = [ofPage p] := by
  have paths := (PathPattern.accepts_exactly p.path path).mp found
  simp only [Pages.table, List.mem_cons, List.not_mem_nil, or_false] at member
  rcases member with rfl | rfl <;> rcases paths with rfl | rfl <;> rfl

theorem standard_health :
    standard.filter (·.matchesPath "/health") = [⟨.exactly "/health", ["GET"], .health⟩] := rfl

theorem page_of_standard {r : Route} (member : r ∈ standard) (shown : r.endpoint = .page p) :
    p ∈ Pages.table ∧ r = ofPage p := by
  simp only [standard, Pages.table, List.map_cons, List.map_nil, List.cons_append, List.nil_append,
    List.mem_cons, List.not_mem_nil, or_false] at member
  rcases member with rfl | rfl | rfl | rfl | rfl | rfl | rfl <;> cases shown
  · exact ⟨.head _, rfl⟩
  · exact ⟨.tail _ (.head _), rfl⟩

theorem ne_fixed_of_standard {r : Route} (member : r ∈ standard)
    {outcome : Except Failure Response} : r.endpoint ≠ .fixed outcome := by
  simp only [standard, Pages.table, List.map_cons, List.map_nil, List.cons_append, List.nil_append,
    List.mem_cons, List.not_mem_nil, or_false] at member
  rcases member with rfl | rfl | rfl | rfl | rfl | rfl | rfl <;> nofun

theorem destination_page (extra : List Route) (member : p ∈ Pages.table) (found : p.Matches path)
    (shown : method ∈ Pages.methods) : destination (standard ++ extra) method path =
      .endpoint (.page p) :=
  destination_of_only (standard_of_page member found) (oversized?_exactly ..)
    (List.contains_iff_mem.mpr shown)

theorem destination_page_of_other_method (member : p ∈ Pages.table) (found : p.Matches path)
    (other : method ∉ Pages.methods) :
    destination standard method path = .wrongMethod (Pages.methods.mergeSort (· ≤ ·)) :=
  destination_of_other_method (standard_of_page member found) (oversized?_exactly ..)
    (by simpa [hasMethod, ofPage] using other)

theorem destination_health (extra : List Route) :
    destination (standard ++ extra) "GET" "/health" = .endpoint .health :=
  destination_of_only standard_health (oversized?_exactly ..) rfl

end Standard

end Route

/-- A service without routes of its own has the standard ones. -/
theorem Service.routes_of_plain {τ : Type} {service : Service τ} (plain : service.extra = []) :
    service.routes = Route.standard := by
  rw [Service.routes, plain, List.append_nil]

end PageServer
