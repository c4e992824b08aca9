import PageServer.Proofs.Limiter.Admissions
/-! When to try again. A refusal tells the seconds until the earliest time that counts has left the
window. As long as its client is not admitted, every later window shows what is left of the same
times, whatever else the limiter does, so the client has room when the seconds are over and not
earlier. -/
namespace PageServer

open Http

/-- The limiter admits a call. -/
def Call.Passes (limits : Limits) (l : Limiter Rat) (call : Call Rat) : Prop :=
  call.Counts ∧ (l.ask limits call.visit.clientName call.visit.now).verdict = .admitted

namespace Limiter

/-! Waiting -/

section Waiting

variable {limits : Limits} {now later : Rat} {l : Limiter Rat} {client : String} {times : List Rat}

/-- None of some calls is one by which a client is admitted. -/
def Waits (limits : Limits) (client : String) : Limiter Rat → List (Call Rat) → Prop
  | _, [] => True
  | l, call :: rest =>
      (call.visit.clientName = client → ¬ call.Passes limits l) ∧
        Waits limits client (l.guardVisit limits call.visit call.behind).2 rest

/-- A refusal adds nothing to what later windows show of its own client. -/
theorem Shows.ask_of_not_admitted (shown : Shows limits now l client times)
    (orderly : Orderly now l) (refused : (l.ask limits client now).verdict ≠ .admitted) :
    Shows limits now (l.ask limits client now).limiter client times := by
  have full : ¬ (recent (now - limits.window) times).length < limits.requests := by
    rw [← shown.counted]
    intro room
    exact refused ((ask_verdict ..).trans ((verdictOn_eq_admitted_iff ..).mpr room))
  have asked := shown.ask orderly
  rwa [admission, if_neg full, List.append_nil] at asked

theorem Shows.call (shown : Shows limits now l client times) (orderly : Orderly now l)
    (call : Call Rat) (follows : now ≤ call.visit.now)
    (waits : call.visit.clientName = client → ¬ call.Passes limits l) :
    Shows limits call.visit.now (l.guardVisit limits call.visit call.behind).2 client times ∧
      Orderly call.visit.now (l.guardVisit limits call.visit call.behind).2 := by
  have current := shown.mono follows
  by_cases counts : call.Counts
  · obtain ⟨_, next, _⟩ := guardVisit_of_counts counts limits l {}
    rw [next]
    refine ⟨?_, orderly.ask follows limits call.visit.clientName⟩
    by_cases same : call.visit.clientName = client
    · subst same
      exact current.ask_of_not_admitted (orderly.mono follows) fun admitted =>
        waits rfl ⟨counts, admitted⟩
    · exact current.ask_of_ne (orderly.mono follows) (Ne.symm same)
  · rw [(guardVisit_of_not_counts counts limits l {}).1]
    exact ⟨current, orderly.mono follows⟩

/-- While a client waits, the limiter forgets nothing of it that a later window shows, and adds
nothing. -/
theorem Shows.afterCalls (calls : List (Call Rat)) (shown : Shows limits now l client times)
    (orderly : Orderly now l) (waits : Waits limits client l calls)
    (follow : ∀ call ∈ calls, now ≤ call.visit.now)
    (ordered : calls.Pairwise fun a b => a.visit.now ≤ b.visit.now)
    (bounded : ∀ call ∈ calls, call.visit.now ≤ later) (ahead : now ≤ later) :
    Shows limits later (l.afterCalls limits calls) client times := by
  induction calls generalizing now l with
  | nil => exact shown.mono ahead
  | cons call rest ih =>
      obtain ⟨quiet, others⟩ := waits
      obtain ⟨after, order⟩ := List.pairwise_cons.mp ordered
      obtain ⟨next, current⟩ := shown.call orderly call (follow call List.mem_cons_self) quiet
      exact ih next current others after order
        (fun other member => bounded other (List.mem_cons_of_mem _ member))
        (bounded call List.mem_cons_self)

/-- A window after a refusal shows what it leaves of the window of the refusal. -/
theorem counted_of_waits {call : Call Rat} (orderly : Orderly call.visit.now l)
    (waiting : ¬ call.Passes limits l) {between : List (Call Rat)}
    (waits : Waits limits call.visit.clientName (l.guardVisit limits call.visit call.behind).2
      between)
    (follow : ∀ other ∈ between, call.visit.now ≤ other.visit.now)
    (ordered : between.Pairwise fun a b => a.visit.now ≤ b.visit.now)
    (bounded : ∀ other ∈ between, other.visit.now ≤ later) (ahead : call.visit.now ≤ later) :
    ((l.guardVisit limits call.visit call.behind).2.afterCalls limits between).counted limits
        call.visit.clientName later =
      recent (later - limits.window) (l.counted limits call.visit.clientName call.visit.now) := by
  have unchanged : Shows limits call.visit.now l call.visit.clientName _ := fun _ _ => rfl
  obtain ⟨shown, current⟩ := unchanged.call orderly call le_rfl fun _ => waiting
  have remains := shown.afterCalls between current waits follow ordered bounded ahead
  have moved : call.visit.now - limits.window ≤ later - limits.window := by linarith
  rw [remains.counted]
  exact (recent_recent moved _).symm

end Waiting

/-! The times behind a refusal -/

section Refusals

variable {limits : Limits} {now moment : Rat} {l : Limiter Rat} {client : String} {seconds : Int}

/-- The times on which a refusal rests, the earliest first: as many as the limit allows, all of them
in the window, and the seconds are those until the first one has left it. -/
structure Rests (limits : Limits) (now : Rat) (seconds : Int) (first : Rat) (rest : List Rat) :
    Prop where
  length : (first :: rest).length = limits.requests
  earliest : ∀ t ∈ first :: rest, first ≤ t
  inside : now - limits.window < first
  past : first ≤ now
  counted : seconds = ⌊first + limits.window - now⌋ + 1

theorem rests_of_refused {ledger : Ledger} {held : Nat} (orderly : Orderly now l)
    (records : Records limits l ledger) (allows : 1 ≤ limits.requests)
    (refused : (l.ask limits client now).verdict = .refused held seconds) :
    ∃ first rest, l.counted limits client now = first :: rest ∧
      Rests limits now seconds first rest := by
  have full : limits.requests ≤ (l.counted limits client now).length := by
    by_contra room
    have admitted := (verdictOn_eq_admitted_iff limits _ now).mpr (Nat.lt_of_not_le room)
    rw [← ask_verdict, refused] at admitted
    cases admitted
  have bounded : (l.counted limits client now).length ≤ limits.requests :=
    Nat.le_trans (List.length_filter_le _ _) (records.times client).1
  obtain ⟨ordered, past⟩ := orderly.counted limits client now
  cases times : l.counted limits client now with
  | nil =>
      rw [times, List.length_nil] at full
      omega
  | cons first rest =>
      obtain ⟨verdict, _⟩ := refused_of_counted times full
      rw [ask_verdict, verdict] at refused
      rw [times] at full bounded ordered past
      obtain ⟨_, same⟩ := Verdict.refused.inj refused
      have inside : first ∈ l.counted limits client now := times ▸ List.mem_cons_self
      refine ⟨first, rest, rfl, Nat.le_antisymm bounded full, fun t member => ?_,
        ((mem_recent ..).mp inside).2, past first List.mem_cons_self, same.symm⟩
      rcases List.mem_cons.mp member with rfl | later
      · exact le_rfl
      · exact (List.pairwise_cons.mp ordered).1 t later

variable {first : Rat} {rest : List Rat}

theorem Rests.bounds (rests : Rests limits now seconds first rest) :
    1 ≤ seconds ∧ seconds ≤ limits.window + 1 := by
  have left : 0 ≤ ⌊first + limits.window - now⌋ :=
    Int.floor_nonneg.mpr (by linarith [rests.inside])
  have within : ⌊first + limits.window - now⌋ ≤ limits.window :=
    Int.floor_le_iff.mpr (by linarith [rests.past])
  rw [rests.counted]
  omega

/-- When the seconds are over, at least the first time has left the window. -/
theorem Rests.room (rests : Rests limits now seconds first rest) (waited : now + seconds ≤ moment) :
    (recent (moment - limits.window) (first :: rest)).length < limits.requests := by
  have left : first ≤ moment - limits.window := by
    have fraction := Int.lt_floor_add_one (first + limits.window - now)
    rw [rests.counted, Int.cast_add, Int.cast_one] at waited
    linarith
  have dropped : recent (moment - limits.window) (first :: rest) =
      recent (moment - limits.window) rest := by
    simp [recent, Clock.earlier, not_lt.mpr left]
  rw [dropped, ← rests.length, List.length_cons]
  exact Nat.lt_succ_of_le (List.length_filter_le _ _)

/-- More than a second before they are over, no time has left it. -/
theorem Rests.full (rests : Rests limits now seconds first rest)
    (early : moment < now + seconds - 1) :
    recent (moment - limits.window) (first :: rest) = first :: rest := by
  have inside : moment - limits.window < first := by
    have whole := Int.floor_le (first + limits.window - now)
    rw [rests.counted, Int.cast_add, Int.cast_one] at early
    linarith
  apply List.filter_eq_self.mpr
  intro t member
  exact decide_eq_true (lt_of_lt_of_le inside (rests.earliest t member))

end Refusals

/-! Honesty -/

section Honesty

variable {limits : Limits} {l : Limiter Rat}

theorem orderly_afterCalls (allows : 1 ≤ limits.requests) {calls : List (Call Rat)} {moment : Rat}
    (ordered : calls.Pairwise fun a b => a.visit.now ≤ b.visit.now)
    (bounded : ∀ call ∈ calls, call.visit.now ≤ moment) :
    Orderly moment (Limiter.afterCalls limits {} calls) := by
  obtain ⟨first, ahead, follow⟩ := exists_before (calls.map (·.visit.now)) moment
  rw [List.forall_mem_map] at follow
  obtain ⟨_, mirrors⟩ :=
    (mirrors_empty limits first).afterCalls allows calls follow ordered bounded ahead
  exact mirrors.orderly

/-- The response to a refusal shows the seconds as a header, in its message and in its details. -/
structure Tells (response : Response) (seconds : Int) : Prop where
  status : response.status = 429
  header : response.headers.values "retry-after" = [toString seconds]
  body : response.body = .text (Value.dict
    [("error", .text "rate_limit_exceeded"),
      ("message", .text ("Too many requests. Please wait " ++ toString seconds ++
        " seconds before retrying.")),
      ("details", .dict [("retry_after", .number (.whole seconds))])]).json

theorem tells_refusalResponse (seconds : Int) : Tells (refusalResponse seconds) seconds :=
  ⟨rfl, rfl, rfl⟩

section Again

variable {now : Rat} {seconds : Int} {first : Rat} {rest : List Rat} {next : Call Rat}

theorem Rests.passes_again (rests : Rests limits now seconds first rest) (counts : next.Counts)
    (window : l.counted limits next.visit.clientName next.visit.now =
      recent (next.visit.now - limits.window) (first :: rest))
    (waited : now + seconds ≤ next.visit.now) :
    next.Passes limits l ∧
      (l.guardVisit limits next.visit next.behind).1.result = next.behind.result := by
  obtain ⟨reply, _, _⟩ := guardVisit_of_counts counts limits l {}
  have room := rests.room waited
  rw [← window] at room
  have admitted := (ask_verdict ..).trans ((verdictOn_eq_admitted_iff ..).mpr room)
  rw [admitted] at reply
  exact ⟨⟨counts, admitted⟩, reply⟩

theorem Rests.refused_again (rests : Rests limits now seconds first rest) (counts : next.Counts)
    (window : l.counted limits next.visit.clientName next.visit.now =
      recent (next.visit.now - limits.window) (first :: rest))
    (soon : next.visit.now < now + seconds - 1) :
    ¬ next.Passes limits l ∧ ∃ remaining response,
      (l.guardVisit limits next.visit next.behind).1.result = .ok response ∧
        Tells response remaining := by
  obtain ⟨reply, _, _⟩ := guardVisit_of_counts counts limits l {}
  have full := window.trans (rests.full soon)
  obtain ⟨verdict, _⟩ := refused_of_counted full (by rw [full, rests.length])
  rw [← ask_verdict] at verdict
  rw [verdict] at reply
  refine ⟨?_, _, _, reply, tells_refusalResponse _⟩
  rintro ⟨_, admitted⟩
  rw [verdict] at admitted
  cases admitted

end Again

/-- On a clock that never steps back, a refusal gives at least one second and at most one more than
the window has, and says so in three places alike. If its client is then not admitted before its
next request that counts, whatever other requests there are, that request is admitted when the
seconds are over, and refused again more than one second before that. -/
theorem retry_after_honest (limits : Limits) (allows : 1 ≤ limits.requests)
    (before between : List (Call Rat)) (call next : Call Rat)
    (ordered : (before ++ call :: (between ++ [next])).Pairwise fun a b =>
      a.visit.now ≤ b.visit.now)
    (counts : call.Counts) {held : Nat} {seconds : Int}
    (refused : ((Limiter.afterCalls limits {} before).ask limits call.visit.clientName
      call.visit.now).verdict = .refused held seconds) :
    let decided := (Limiter.afterCalls limits {} before).guardVisit limits call.visit call.behind
    let later := decided.2.afterCalls limits between
    let again := (later.guardVisit limits next.visit next.behind).1.result
    1 ≤ seconds ∧ seconds ≤ limits.window + 1 ∧
      (∃ response, decided.1.result = .ok response ∧ Tells response seconds) ∧
      (Waits limits call.visit.clientName decided.2 between → next.Counts →
        next.visit.clientName = call.visit.clientName →
        (call.visit.now + seconds ≤ next.visit.now →
          next.Passes limits later ∧ again = next.behind.result) ∧
        (next.visit.now < call.visit.now + seconds - 1 → ¬ next.Passes limits later ∧
          ∃ remaining response, again = .ok response ∧ Tells response remaining)) := by
  intro decided later again
  obtain ⟨early, late, across⟩ := List.pairwise_append.mp ordered
  obtain ⟨after, following⟩ := List.pairwise_cons.mp late
  obtain ⟨order, _, ahead⟩ := List.pairwise_append.mp following
  have orderly := orderly_afterCalls allows early fun other member =>
    across other member call List.mem_cons_self
  obtain ⟨first, rest, times, rests⟩ := rests_of_refused orderly
    ((records_empty limits).afterCalls allows before) allows refused
  obtain ⟨answer, _, _⟩ :=
    guardVisit_of_counts counts limits (Limiter.afterCalls limits {} before) {}
  rw [refused] at answer
  obtain ⟨least, most⟩ := rests.bounds
  refine ⟨least, most, ⟨_, answer, tells_refusalResponse seconds⟩, ?_⟩
  intro waits counts_again same
  have waiting : ¬ call.Passes limits (Limiter.afterCalls limits {} before) := by
    rintro ⟨_, admitted⟩
    rw [refused] at admitted
    cases admitted
  have window : later.counted limits next.visit.clientName next.visit.now =
      recent (next.visit.now - limits.window) (first :: rest) := by
    rw [same, ← times]
    exact counted_of_waits orderly waiting waits
      (fun other member => after other (List.mem_append_left [next] member)) order
      (fun other member => ahead other member next List.mem_cons_self)
      (after next (List.mem_append_right between List.mem_cons_self))
  exact ⟨rests.passes_again counts_again window, rests.refused_again counts_again window⟩

/-- One request in ten seconds: a second after it, nine more are left, so the client is told to wait
for ten. A request in the meantime is refused and changes nothing, and after ten seconds the next
one is admitted. -/
theorem retry_after_honest_of_one_in_ten :
    let l := Limiter.afterCalls ⟨1, 10⟩ {} [knock 0]
    (l.ask ⟨1, 10⟩ (knock 1).visit.clientName (knock 1).visit.now).verdict = .refused 1 10 ∧
      (knock 11).Passes ⟨1, 10⟩
        ((l.guardVisit ⟨1, 10⟩ (knock 1).visit (knock 1).behind).2.afterCalls ⟨1, 10⟩
          [knock 2]) := by
  intro l
  have counts (now : Rat) : (knock now).Counts := by
    have reading : urlPath { method := "GET", path := "/index" } = .ok "/index" := by
      decide +kernel
    exact ⟨"/index", reading, by decide +kernel⟩
  have refused : (l.ask ⟨1, 10⟩ (knock 1).visit.clientName (knock 1).visit.now).verdict =
      .refused 1 10 := by
    decide +kernel
  have ordered : ([knock 0] ++ knock 1 :: ([knock 2] ++ [knock 11])).Pairwise
      fun a b => a.visit.now ≤ b.visit.now := by
    decide +kernel
  have waits : Waits ⟨1, 10⟩ (knock 1).visit.clientName
      (l.guardVisit ⟨1, 10⟩ (knock 1).visit (knock 1).behind).2 [knock 2] := by
    refine ⟨fun _ passes => ?_, trivial⟩
    have verdict := passes.2
    revert verdict
    decide +kernel
  obtain ⟨_, _, _, honest⟩ :=
    retry_after_honest ⟨1, 10⟩ (by decide) [knock 0] [knock 2] (knock 1) (knock 11) ordered
      (counts 1) refused
  exact ⟨refused, ((honest waits (counts 11) rfl).1 (by decide +kernel)).1⟩

end Honesty

end Limiter

end PageServer
