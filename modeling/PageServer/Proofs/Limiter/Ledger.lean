import PageServer.Proofs.Limiter.Guard
import PageServer.Proofs.Limiter.Window
import Mathlib.Data.Rat.Floor
/-! The limiter against a ledger. A ledger keeps every admission for good and looks at all of them
each time. The limiter drops times, and whole clients, but gives the same answers: at every moment
all windows that can still be asked for show the same of both. -/
namespace PageServer

open Http

/-- A visit to a limiter, and what the layers behind it would answer. -/
structure Call (τ : Type) where
  visit : Visit τ
  behind : Logged (Except Failure Response)

/-- All admissions so far, in order, each with its client. -/
structure Ledger where
  admissions : List (String × Rat) := []

/-! The ledger as a limiter -/

namespace Ledger

/-- All times at which a client was admitted. -/
def times (ledger : Ledger) (client : String) : List Rat :=
  (ledger.admissions.filter (·.1 == client)).map Prod.snd

def add (ledger : Ledger) (client : String) (now : Rat) : Ledger :=
  ⟨ledger.admissions ++ [(client, now)]⟩

/-- After how many seconds a client is to try again, if it is refused: the seconds until the
earliest of the times that count leaves the window, rounded down, and one more. -/
def refusal? (limits : Limits) (ledger : Ledger) (client : String) (now : Rat) : Option Int :=
  let inside := (ledger.times client).filter fun t => now - limits.window < t
  if limits.requests ≤ inside.length then
    inside.min?.map fun first => ⌊first + limits.window - now⌋ + 1
  else none

/-- The answer to a call, and the ledger afterwards. -/
def answer (limits : Limits) (ledger : Ledger) (call : Call Rat) :
    Except Failure Response × Ledger :=
  match urlPath call.visit.request with
  | .error fault => (.error (.ofUrl fault), ledger)
  | .ok path =>
      if path ∈ Limiter.exemptPaths then (call.behind.result, ledger)
      else match ledger.refusal? limits call.visit.clientName call.visit.now with
        | some seconds => (.ok (Limiter.refusalResponse seconds), ledger)
        | none => (call.behind.result, ledger.add call.visit.clientName call.visit.now)

/-- The answers to calls, one after the other. -/
def answers (limits : Limits) : Ledger → List (Call Rat) → List (Except Failure Response)
  | _, [] => []
  | ledger, call :: rest =>
      let (result, next) := ledger.answer limits call
      result :: answers limits next rest

theorem times_add (ledger : Ledger) (client other : String) (now : Rat) :
    (ledger.add client now).times other =
      ledger.times other ++ if other = client then [now] else [] := by
  by_cases same : other = client
  · subst same
    simp [times, add]
  · simp [times, add, same, Ne.symm same]

end Ledger

/-! The limiter under calls -/

namespace Limiter

/-- The answers to calls, one after the other. -/
def answers {τ : Type} [Clock τ] (limits : Limits) :
    Limiter τ → List (Call τ) → List (Except Failure Response)
  | _, [] => []
  | l, call :: rest =>
      let (served, next) := l.guardVisit limits call.visit call.behind
      served.result :: answers limits next rest

/-- What is kept after calls. -/
def afterCalls {τ : Type} [Clock τ] (limits : Limits) : Limiter τ → List (Call τ) → Limiter τ
  | l, [] => l
  | l, call :: rest => afterCalls limits (l.guardVisit limits call.visit call.behind).2 rest

/-! The simulation -/

section Simulation

/-- The seconds that are left of a window, rounded toward zero, are those rounded down, since there
are some left. -/
theorem wholeSeconds_of_inside {limits : Limits} {first now : Rat}
    (inside : now - limits.window < first) :
    Clock.wholeSeconds first limits.window now = .ok ⌊first + limits.window - now⌋ := by
  -- Seconds are cut off toward zero, which is downward only because some are left.
  have left : 0 ≤ first + limits.window - now := by linarith
  have whole : Int.tdiv (first + limits.window - now).num (first + limits.window - now).den =
      ⌊first + limits.window - now⌋ := by
    rw [Rat.floor_def', Int.tdiv_eq_ediv_of_nonneg (Rat.num_nonneg.mpr left)]
  exact congrArg Except.ok whole

theorem min?_of_ordered {first : Rat} {rest : List Rat}
    (ordered : (first :: rest).Pairwise (· ≤ ·)) : (first :: rest).min? = some first := by
  rw [List.min?_eq_some_iff]
  refine ⟨List.mem_cons_self, fun t member => ?_⟩
  rcases List.mem_cons.mp member with rfl | later
  · exact le_rfl
  · exact (List.pairwise_cons.mp ordered).1 t later

theorem verdictOn_eq_refusal {limits : Limits} (allows : 1 ≤ limits.requests) (ledger : Ledger)
    (client : String) (now : Rat)
    (ordered : (recent (now - limits.window) (ledger.times client)).Pairwise (· ≤ ·)) :
    verdictOn limits (recent (now - limits.window) (ledger.times client)) now =
      match ledger.refusal? limits client now with
      | some seconds =>
          .refused (recent (now - limits.window) (ledger.times client)).length seconds
      | none => .admitted := by
  have filtered : ((ledger.times client).filter fun t => now - limits.window < t) =
      recent (now - limits.window) (ledger.times client) := rfl
  simp only [verdictOn, Ledger.refusal?, filtered]
  by_cases full : limits.requests ≤ (recent (now - limits.window) (ledger.times client)).length
  · cases held : recent (now - limits.window) (ledger.times client) with
    | nil =>
        rw [held, List.length_nil] at full
        omega
    | cons first rest =>
        have inside : now - limits.window < first :=
          ((mem_recent _ first (ledger.times client)).mp (held ▸ List.mem_cons_self)).2
        rw [held] at ordered full
        simp only [full, ↓reduceIte, wholeSeconds_of_inside inside, min?_of_ordered ordered,
          Option.map_some]
  · simp only [full, ↓reduceIte]

/-- What is kept answers like a ledger from a moment on. -/
structure Mirrors (limits : Limits) (now : Rat) (l : Limiter Rat) (ledger : Ledger) : Prop where
  orderly : Orderly now l
  shown : ∀ client, Shows limits now l client (ledger.times client)

variable {limits : Limits} {now later : Rat} {l : Limiter Rat} {ledger : Ledger}

theorem mirrors_empty (limits : Limits) (now : Rat) : Mirrors limits now {} {} where
  orderly := orderly_empty now
  shown := fun _ _ _ => rfl

theorem Mirrors.mono (mirrors : Mirrors limits now l ledger) (follows : now ≤ later) :
    Mirrors limits later l ledger where
  orderly := mirrors.orderly.mono follows
  shown := fun client => (mirrors.shown client).mono follows

theorem Mirrors.cleanUp (mirrors : Mirrors limits now l ledger) :
    Mirrors limits now (l.cleanUp (now - limits.window)) ledger where
  orderly := mirrors.orderly.cleanUp _
  shown := fun client => (mirrors.shown client).cleanUp mirrors.orderly

theorem Mirrors.verdict (mirrors : Mirrors limits now l ledger) (allows : 1 ≤ limits.requests)
    (client : String) :
    (l.ask limits client now).verdict =
      match ledger.refusal? limits client now with
      | some seconds =>
          .refused (recent (now - limits.window) (ledger.times client)).length seconds
      | none => .admitted := by
  have counted := (mirrors.shown client).counted
  have ordered := (mirrors.orderly.counted limits client now).1
  rw [counted] at ordered
  rw [ask_verdict, counted, verdictOn_eq_refusal allows ledger client now ordered]

theorem Mirrors.ask (mirrors : Mirrors limits now l ledger) (allows : 1 ≤ limits.requests)
    (client : String) :
    Mirrors limits now (l.ask limits client now).limiter
      (if (ledger.refusal? limits client now).isSome then ledger else ledger.add client now) where
  orderly := mirrors.orderly.ask le_rfl limits client
  shown := fun other => by
    by_cases same : other = client
    · subst same
      have asked := (mirrors.shown other).ask mirrors.orderly
      have verdict := mirrors.verdict allows other
      rw [ask_verdict, (mirrors.shown other).counted] at verdict
      have admitted := verdictOn_eq_admitted_iff limits
        (recent (now - limits.window) (ledger.times other)) now
      rw [verdict] at admitted
      cases refused : ledger.refusal? limits other now with
      | some seconds =>
          simp only [refused, reduceCtorEq, false_iff] at admitted
          simpa [admission, admitted] using asked
      | none =>
          simp only [refused, true_iff] at admitted
          simpa [admission, admitted, Ledger.times_add] using asked
    · have kept := (mirrors.shown other).ask_of_ne mirrors.orderly same
      cases ledger.refusal? limits client now with
      | some seconds => simpa using kept
      | none => simpa [Ledger.times_add, same] using kept

/-- One call: the same answer, and what is kept still answers like the ledger. -/
theorem Mirrors.call (mirrors : Mirrors limits now l ledger) (allows : 1 ≤ limits.requests)
    (call : Call Rat) (follows : now ≤ call.visit.now) :
    (l.guardVisit limits call.visit call.behind).1.result = (ledger.answer limits call).1 ∧
      Mirrors limits call.visit.now (l.guardVisit limits call.visit call.behind).2
        (ledger.answer limits call).2 := by
  have current := mirrors.mono follows
  cases reading : urlPath call.visit.request with
  | error fault =>
      simp only [guardVisit, Ledger.answer, reading]
      exact ⟨trivial, current⟩
  | ok path =>
      simp only [guardVisit, Ledger.answer, reading]
      by_cases exempt : path ∈ exemptPaths
      · rw [guard_of_exempt limits l call.visit exempt, if_pos exempt]
        exact ⟨rfl, current⟩
      · have verdict := current.verdict allows call.visit.clientName
        have asked := current.ask allows call.visit.clientName
        rw [guard_of_not_exempt limits l call.visit exempt, if_neg exempt, verdict]
        cases refused : ledger.refusal? limits call.visit.clientName call.visit.now with
        | some seconds =>
            rw [refused] at asked
            exact ⟨rfl, asked⟩
        | none =>
            rw [refused] at asked
            exact ⟨rfl, asked⟩

/-- Calls, none of which comes before the moment or before another one in front of it. -/
theorem Mirrors.answers (allows : 1 ≤ limits.requests) (calls : List (Call Rat))
    (mirrors : Mirrors limits now l ledger) (follow : ∀ call ∈ calls, now ≤ call.visit.now)
    (ordered : calls.Pairwise fun a b => a.visit.now ≤ b.visit.now) :
    Limiter.answers limits l calls = ledger.answers limits calls := by
  -- Each call moves the moment from which the limiter mirrors the ledger to its own.
  induction calls generalizing now l ledger with
  | nil => rfl
  | cons call rest ih =>
      obtain ⟨after, others⟩ := List.pairwise_cons.mp ordered
      obtain ⟨same, next⟩ := mirrors.call allows call (follow call List.mem_cons_self)
      simp only [Limiter.answers, Ledger.answers, same]
      exact congrArg (_ :: ·) (ih next after others)

theorem Mirrors.afterCalls (allows : 1 ≤ limits.requests) (calls : List (Call Rat))
    (mirrors : Mirrors limits now l ledger) (follow : ∀ call ∈ calls, now ≤ call.visit.now)
    (ordered : calls.Pairwise fun a b => a.visit.now ≤ b.visit.now)
    (bounded : ∀ call ∈ calls, call.visit.now ≤ later) (ahead : now ≤ later) :
    ∃ ledger, Mirrors limits later (l.afterCalls limits calls) ledger := by
  induction calls generalizing now l ledger with
  | nil => exact ⟨ledger, mirrors.mono ahead⟩
  | cons call rest ih =>
      obtain ⟨after, others⟩ := List.pairwise_cons.mp ordered
      obtain ⟨_, next⟩ := mirrors.call allows call (follow call List.mem_cons_self)
      exact ih next after others (fun other member => bounded other (List.mem_cons_of_mem _ member))
        (bounded call List.mem_cons_self)

/-- From nothing kept, and on a clock that never steps back, the limiter gives every call the
answer that the ledger gives: the same calls pass, and the others are refused for the same seconds.
Wherever clients are forgotten besides, up to the window that ends at some moment between two calls,
all later answers stay the same. -/
theorem limiter_refines_ledger (limits : Limits) (allows : 1 ≤ limits.requests)
    (calls : List (Call Rat))
    (ordered : calls.Pairwise fun a b => a.visit.now ≤ b.visit.now) :
    Limiter.answers limits {} calls = Ledger.answers limits {} calls ∧
      ∀ before after moment, calls = before ++ after →
        (∀ call ∈ before, call.visit.now ≤ moment) → (∀ call ∈ after, moment ≤ call.visit.now) →
        Limiter.answers limits
            ((Limiter.afterCalls limits {} before).cleanUp (moment - limits.window)) after =
          Limiter.answers limits (Limiter.afterCalls limits {} before) after := by
  constructor
  · obtain ⟨first, _, follow⟩ := exists_before (calls.map (·.visit.now)) 0
    rw [List.forall_mem_map] at follow
    exact (mirrors_empty limits first).answers allows calls follow ordered
  -- Both limiters mirror the same ledger at the moment, so both answer like it from then on.
  · rintro before after moment rfl bounded follow
    obtain ⟨early, late, _⟩ := List.pairwise_append.mp ordered
    obtain ⟨first, ahead, start⟩ := exists_before (before.map (·.visit.now)) moment
    rw [List.forall_mem_map] at start
    obtain ⟨ledger, mirrors⟩ :=
      (mirrors_empty limits first).afterCalls allows before start early bounded ahead
    rw [mirrors.answers allows after follow late,
      mirrors.cleanUp.answers allows after follow late]

/-- A call for a page at a moment. -/
def knock (now : Rat) : Call Rat :=
  ⟨{ request := { method := "GET", path := "/index" }, now := now, identifier := "" },
    ⟨.ok (textResponse 200 [] "ok"), []⟩⟩

/-- With one request a second, half a second is too early by one second, and a whole second is
enough: a time exactly at the start of the window does not count. -/
theorem limiter_refines_ledger_of_three :
    Limiter.answers ⟨1, 1⟩ {} [knock 0, knock (1 / 2), knock 1] =
      [.ok (textResponse 200 [] "ok"), .ok (refusalResponse 1),
        .ok (textResponse 200 [] "ok")] := by
  have ordered : [knock 0, knock (1 / 2), knock 1].Pairwise
      fun a b => a.visit.now ≤ b.visit.now := by decide +kernel
  rw [(limiter_refines_ledger ⟨1, 1⟩ (by decide) _ ordered).1]
  have path (now : Rat) : urlPath (knock now).visit.request = .ok "/index" := by
    have reading : urlPath { method := "GET", path := "/index" } = .ok "/index" := by
      decide +kernel
    exact reading
  have counts : "/index" ∉ exemptPaths := by decide +kernel
  have first : Ledger.refusal? ⟨1, 1⟩ {} "unknown" 0 = none := by decide +kernel
  have early : Ledger.refusal? ⟨1, 1⟩ (Ledger.add {} "unknown" 0) "unknown" (1 / 2) = some 1 := by
    decide +kernel
  have again : Ledger.refusal? ⟨1, 1⟩ (Ledger.add {} "unknown" 0) "unknown" 1 = none := by
    decide +kernel
  have client (now : Rat) : (knock now).visit.clientName = "unknown" := rfl
  have moment (now : Rat) : (knock now).visit.now = now := rfl
  simp only [Ledger.answers, Ledger.answer, path, counts, client, moment, first, early, again,
    ↓reduceIte]
  rfl

end Simulation

end Limiter

end PageServer
