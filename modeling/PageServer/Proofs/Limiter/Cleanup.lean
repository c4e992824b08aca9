import PageServer.Proofs.Limiter.Retry
/-! What the limiter drops, on a clock that may step back. Answering a request leaves out times of
its own client, all of which have left the window. After every so many admissions clients are
forgotten, and each is judged by its last time alone. A time inside the window goes with them
exactly if the last time of its client is older than the window, which takes a clock that has
stepped back between two admissions of this client. -/
namespace PageServer

open Http

namespace Limiter

/-! Answering one request -/

section Asking

variable {limits : Limits} {l : Limiter Rat} {own client : String} {now start : Rat}

/-- The last of some times lies before a window. -/
def Stale (start : Rat) (times : List Rat) : Prop :=
  ∃ last, times.getLast? = some last ∧ last < start

theorem isInactive_iff (start : Rat) (times : List Rat) :
    isInactive start times = true ↔ times = [] ∨ Stale start times := by
  cases latest : times.getLast? with
  | none =>
      have nothing := List.getLast?_eq_none_iff.mp latest
      simp [isInactive, nothing]
  | some last =>
      have something : times ≠ [] := by
        intro nothing
        simp [nothing] at latest
      simp [isInactive, latest, Stale, something, Clock.earlier]

/-- What is kept for a client once a request is answered, if the client is not forgotten. -/
def keptAfter (limits : Limits) (l : Limiter Rat) (own : String) (now : Rat) (client : String) :
    List Rat :=
  if client = own then
    l.counted limits own now ++ admission limits (l.counted limits own now) now
  else l.times client

/-- By a request that is admitted, clients are forgotten, and this one is among them. -/
structure Forgets (limits : Limits) (l : Limiter Rat) (own : String) (now : Rat)
    (client : String) : Prop where
  room : (l.counted limits own now).length < limits.requests
  due : l.cleanupDue
  other : client ≠ own
  stale : Stale (now - limits.window) (l.times client)

theorem times_recording (room : (l.counted limits own now).length < limits.requests) :
    (l.recording limits own now).times client = keptAfter limits l own now client := by
  have put : (l.recording limits own now).times client =
      if client = own then l.counted limits own now ++ [now] else l.times client :=
    times_withTimes l own client _
  rw [put, keptAfter, admission, if_pos room]

theorem times_ask_of_forgets (unique : l.Unique) (forgets : Forgets limits l own now client) :
    (l.ask limits own now).limiter.times client = [] := by
  have recorded : (l.recording limits own now).Unique := unique.withTimes own _
  have kept : (l.recording limits own now).times client = l.times client :=
    (times_recording forgets.room).trans (if_neg forgets.other)
  have gone : isInactive (now - limits.window) (l.times client) = true :=
    (isInactive_iff _ _).mpr (.inr forgets.stale)
  rcases ask_cases limits own now l with ⟨full, _⟩ | ⟨_, early, _⟩ | ⟨_, _, _, asked⟩
  · exact absurd full (Nat.not_le.mpr forgets.room)
  · exact absurd forgets.due early
  · rw [asked, times_cleanUp recorded, kept]
    exact if_pos gone

-- A request that is admitted puts its own time last, so its client is never among the forgotten.
theorem times_ask_of_not_forgets (unique : l.Unique) (wide : 0 < limits.window)
    (stays : ¬ Forgets limits l own now client) :
    (l.ask limits own now).limiter.times client = keptAfter limits l own now client := by
  rcases ask_cases limits own now l with ⟨full, asked⟩ | ⟨room, _, asked⟩ | ⟨room, due, _, asked⟩
  · rw [asked, times_withTimes, keptAfter, admission, if_neg (Nat.not_lt.mpr full),
      List.append_nil]
  · rw [asked]
    exact times_recording room
  · have recorded : (l.recording limits own now).Unique := unique.withTimes own _
    rw [asked, times_cleanUp recorded, times_recording room]
    split
    · rename_i inactive
      rcases (isInactive_iff _ _).mp inactive with nothing | stale
      · exact nothing.symm
      · by_cases same : client = own
        · obtain ⟨last, latest, before⟩ := stale
          rw [keptAfter, if_pos same, admission, if_pos room, List.getLast?_concat] at latest
          cases latest
          have positive : (0 : Rat) < limits.window := by exact_mod_cast wide
          change now < now - limits.window at before
          linarith
        · rw [keptAfter, if_neg same] at stale
          exact absurd ⟨room, due, same, stale⟩ stays
    · rfl

theorem recent_keptAfter (limits : Limits) (l : Limiter Rat) (own : String) (now : Rat)
    (client : String) :
    recent (now - limits.window) (l.times client) <+:
      recent (now - limits.window) (keptAfter limits l own now client) := by
  by_cases same : client = own
  · subst same
    have shown : recent (now - limits.window) (l.counted limits client now) =
        recent (now - limits.window) (l.times client) :=
      recent_recent le_rfl (l.times client)
    rw [keptAfter, if_pos rfl, recent_append, shown]
    exact List.prefix_append _ _
  · simp only [keptAfter, same, ↓reduceIte, List.prefix_refl]

theorem keptAfter_ne_nil (allows : 1 ≤ limits.requests) (known : l.times client ≠ []) :
    keptAfter limits l own now client ≠ [] := by
  unfold keptAfter
  split
  · by_cases room : (l.counted limits own now).length < limits.requests
    · rw [admission, if_pos room]
      exact List.append_ne_nil_of_right_ne_nil _ (List.cons_ne_nil _ _)
    · apply List.append_ne_nil_of_left_ne_nil
      apply List.ne_nil_of_length_pos
      omega
  · exact known

end Asking

/-! Clients in the table -/

section Names

variable {limits : Limits} {l : Limiter Rat} {ledger : Ledger}

theorem Records.known_iff (records : Records limits l ledger) (client : String) :
    client ∈ l.clients.map Prod.fst ↔ l.times client ≠ [] := by
  constructor
  · intro known
    obtain ⟨row, member, rfl⟩ := List.mem_map.mp known
    cases found : l.clients.lookup row.1 with
    | none =>
        have differs := List.lookup_eq_none_iff.mp found row member
        simp at differs
    | some times =>
        obtain ⟨front, back, table, _⟩ := List.lookup_eq_some_iff.mp found
        have held : (row.1, times) ∈ l.clients := by
          rw [table]
          exact List.mem_append_right front List.mem_cons_self
        have filled : times ≠ [] := records.nonempty _ held
        rwa [Limiter.times, found]
  · intro kept
    exact List.mem_map_of_mem (mem_of_times_ne_nil kept)

end Names

/-! Calls -/

section Calls

variable {limits : Limits} {l : Limiter Rat} {ledger : Ledger} {call : Call Rat} {client : String}

/-- The limiter decides on a call, and forgets a client with it. -/
def Drops (limits : Limits) (l : Limiter Rat) (call : Call Rat) (client : String) : Prop :=
  call.Counts ∧ Forgets limits l call.visit.clientName call.visit.now client

theorem times_of_drops (unique : l.Unique) (drops : Drops limits l call client) :
    (l.guardVisit limits call.visit call.behind).2.times client = [] := by
  obtain ⟨counts, forgets⟩ := drops
  obtain ⟨_, next, _⟩ := guardVisit_of_counts counts limits l {}
  rw [next]
  exact times_ask_of_forgets unique forgets

theorem times_of_not_drops (unique : l.Unique) (wide : 0 < limits.window)
    (stays : ¬ Drops limits l call client) :
    (l.guardVisit limits call.visit call.behind).2.times client =
        keptAfter limits l call.visit.clientName call.visit.now client ∨
      (l.guardVisit limits call.visit call.behind).2.times client = l.times client := by
  by_cases counts : call.Counts
  · obtain ⟨_, next, _⟩ := guardVisit_of_counts counts limits l {}
    have remembered : ¬ Forgets limits l call.visit.clientName call.visit.now client :=
      fun forgets => stays ⟨counts, forgets⟩
    left
    rw [next]
    exact times_ask_of_not_forgets unique wide remembered
  · right
    rw [(guardVisit_of_not_counts counts limits l {}).1]

theorem recent_of_not_drops (unique : l.Unique) (wide : 0 < limits.window)
    (stays : ¬ Drops limits l call client) :
    recent (call.visit.now - limits.window) (l.times client) <+:
      recent (call.visit.now - limits.window)
        ((l.guardVisit limits call.visit call.behind).2.times client) := by
  rcases times_of_not_drops unique wide stays with asked | passed
  · rw [asked]
    exact recent_keptAfter ..
  · simp only [passed, List.prefix_refl]

theorem Records.known_of_not_drops (records : Records limits l ledger)
    (allows : 1 ≤ limits.requests) (wide : 0 < limits.window)
    (known : client ∈ l.clients.map Prod.fst) (stays : ¬ Drops limits l call client) :
    client ∈ (l.guardVisit limits call.visit call.behind).2.clients.map Prod.fst := by
  have held : l.times client ≠ [] := (records.known_iff client).mp known
  apply ((records.call allows call).known_iff client).mpr
  rcases times_of_not_drops records.unique wide stays with asked | passed
  · rw [asked]
    exact keptAfter_ne_nil allows held
  · rw [passed]
    exact held

theorem times_note_sublist (limits : Limits) (ledger : Ledger) (l : Limiter Rat)
    (call : Call Rat) (client : String) :
    ((ledger.note limits l call).times client).Sublist
      (ledger.times client ++ [call.visit.now]) := by
  have same : (ledger.times client).Sublist (ledger.times client ++ [call.visit.now]) :=
    List.sublist_append_left _ _
  by_cases counts : call.Counts
  · obtain ⟨_, _, noted⟩ := guardVisit_of_counts counts limits l ledger
    rw [noted]
    split
    · rw [Ledger.times_add]
      split
      · exact List.Sublist.refl _
      · rwa [List.append_nil]
    · exact same
  · rwa [(guardVisit_of_not_counts counts limits l ledger).2]

theorem times_afterCalls_sublist (limits : Limits) (calls : List (Call Rat)) (client : String) :
    ((ledger.afterCalls limits l calls).times client).Sublist
      (ledger.times client ++ calls.map (·.visit.now)) := by
  induction calls generalizing ledger l with
  | nil =>
      rw [List.map_nil, List.append_nil]
      exact List.Sublist.refl _
  | cons call rest ih =>
      have noted := times_note_sublist limits ledger l call client
      have extended := noted.append (List.Sublist.refl (rest.map (·.visit.now)))
      rw [List.append_assoc] at extended
      exact ih.trans extended

/-- On a clock that never steps back every client is admitted in the order of time. -/
theorem ordered_afterCalls (limits : Limits) {calls : List (Call Rat)}
    (ordered : calls.Pairwise fun a b => a.visit.now ≤ b.visit.now) (client : String) :
    ((Ledger.afterCalls limits {} {} calls).times client).Pairwise (· ≤ ·) := by
  have listed : ((Ledger.afterCalls limits {} {} calls).times client).Sublist
      (calls.map (·.visit.now)) := times_afterCalls_sublist limits calls client
  exact List.Pairwise.sublist listed (List.pairwise_map.mpr ordered)

theorem Records.recent_of_drops (records : Records limits l ledger)
    (ordered : (ledger.times client).Pairwise (· ≤ ·)) (drops : Drops limits l call client) :
    recent (call.visit.now - limits.window) (l.times client) = [] := by
  have kept : (l.times client).Pairwise (· ≤ ·) := ordered.sublist (records.times client).2
  have inactive : isInactive (call.visit.now - limits.window) (l.times client) = true :=
    (isInactive_iff _ _).mpr (.inr drops.2.stale)
  exact recent_of_inactive kept inactive le_rfl

/-- After any calls, at whatever times the clock shows them, let there be one more. A time that is
kept for a client and lies inside the window of this call is lost exactly if the client is forgotten
with it, and a client that is known is lost exactly then. Otherwise all times inside the window
stay, in their order and with nothing in front of them. A client whose admissions are in the order
of time has no time inside the window when it is forgotten, and on a clock that never steps back
this is every client. -/
theorem live_time_lost_iff (limits : Limits) (allows : 1 ≤ limits.requests)
    (wide : 1 ≤ limits.window) (calls : List (Call Rat)) (call : Call Rat) (client : String) :
    let l := Limiter.afterCalls limits {} calls
    let ledger := Ledger.afterCalls limits {} {} calls
    let next := (l.guardVisit limits call.visit call.behind).2
    let start := call.visit.now - limits.window
    (∀ t ∈ l.times client, start < t → (t ∉ next.times client ↔ Drops limits l call client)) ∧
      (client ∈ l.clients.map Prod.fst →
        (client ∉ next.clients.map Prod.fst ↔ Drops limits l call client)) ∧
      (¬ Drops limits l call client →
        recent start (l.times client) <+: recent start (next.times client)) ∧
      ((ledger.times client).Pairwise (· ≤ ·) → Drops limits l call client →
        ∀ t ∈ l.times client, ¬ start < t) ∧
      (calls.Pairwise (fun a b => a.visit.now ≤ b.visit.now) →
        (ledger.times client).Pairwise (· ≤ ·)) := by
  intro l ledger next start
  have records : Records limits l ledger := (records_empty limits).afterCalls allows calls
  have after : Records limits next (ledger.note limits l call) := records.call allows call
  have remains (stays : ¬ Drops limits l call client) :
      recent start (l.times client) <+: recent start (next.times client) :=
    recent_of_not_drops records.unique wide stays
  have lost (drops : Drops limits l call client) : next.times client = [] :=
    times_of_drops records.unique drops
  refine ⟨?_, ?_, remains, ?_, fun ordered => ordered_afterCalls limits ordered client⟩
  · intro t held inside
    constructor
    · intro gone
      by_contra stays
      have there := (remains stays).subset ((mem_recent start t _).mpr ⟨held, inside⟩)
      exact gone ((mem_recent start t _).mp there).1
    · intro drops
      rw [lost drops]
      exact List.not_mem_nil
  · intro known
    constructor
    · intro gone
      by_contra stays
      exact gone (records.known_of_not_drops allows wide known stays)
    · intro drops known
      exact (after.known_iff client).mp known (lost drops)
  · intro ordered drops t held inside
    have none_inside := records.recent_of_drops ordered drops
    have there := (mem_recent start t _).mpr ⟨held, inside⟩
    rw [none_inside] at there
    exact List.not_mem_nil there

/-- The clock steps back by two seconds, the request at that moment is refused, and the time of the
one before is still there for the next. -/
theorem live_time_lost_iff_of_refusal :
    let l := Limiter.afterCalls ⟨1, 1⟩ {} [knock 5, knock 3]
    5 ∈ l.times "unknown" ∧ (knock 3).visit.now - 1 < 5 ∧
      5 ∈ (l.guardVisit ⟨1, 1⟩ (knock 3).visit (knock 3).behind).2.times "unknown" := by
  intro l
  have held : 5 ∈ l.times "unknown" := by decide +kernel
  have inside : (knock 3).visit.now - 1 < 5 := by decide +kernel
  obtain ⟨lost, _⟩ :=
    live_time_lost_iff ⟨1, 1⟩ (by decide) (by decide) [knock 5, knock 3] (knock 3) "unknown"
  have stays : ¬ Drops ⟨1, 1⟩ l (knock 3) "unknown" := fun drops => drops.2.other rfl
  refine ⟨held, inside, ?_⟩
  by_contra gone
  exact stays ((lost 5 held (by simpa using inside)).mp gone)

/-! A clock that steps back -/

/-- A call for a page by a client. -/
def knockOf (client : String) (now : Rat) : Call Rat :=
  ⟨{ request := { method := "GET", path := "/index", client := some client }, now := now,
      identifier := "" }, ⟨.ok (textResponse 200 [] "ok"), []⟩⟩

theorem knockOf_counts (client : String) (now : Rat) : (knockOf client now).Counts := by
  have reading : urlPath (knockOf client now).visit.request = .ok "/index" := by
    have same : urlPath { method := "GET", path := "/index" } = .ok "/index" := by
      decide +kernel
    exact same
  exact ⟨"/index", reading, by decide +kernel⟩

theorem guardVisit_of_early (now : Rat) (room : (l.times client).length < limits.requests)
    (early : l.recorded % cleanupEvery + 1 < cleanupEvery) :
    (l.guardVisit limits (knockOf client now).visit (knockOf client now).behind).2 =
      l.recording limits client now := by
  obtain ⟨_, next, _⟩ := guardVisit_of_counts (knockOf_counts client now) limits l {}
  have fewer : (l.counted limits client now).length ≤ (l.times client).length :=
    List.length_filter_le _ _
  refine next.trans ?_
  change (l.ask limits client now).limiter = _
  rcases ask_cases limits client now l with ⟨full, _⟩ | ⟨_, _, asked⟩ | ⟨_, due, _⟩
  · omega
  · rw [asked]
  · simp only [cleanupDue, cleanupEvery] at due early
    omega

/-- Until clients are forgotten again, calls of one client only add to its own times. -/
theorem afterCalls_of_early (limits : Limits) (l : Limiter Rat) (client : String) (count : Nat)
    (now : Rat) (room : (l.times client).length + count ≤ limits.requests)
    (early : l.recorded % cleanupEvery + count < cleanupEvery) :
    let next := l.afterCalls limits (List.replicate count (knockOf client now))
    next.recorded = l.recorded + count ∧
      (next.times client).length ≤ (l.times client).length + count ∧
      ∀ other, other ≠ client → next.times other = l.times other := by
  induction count generalizing l with
  | zero => exact ⟨rfl, le_rfl, fun _ _ => rfl⟩
  | succ count ih =>
      have recorded : (l.recording limits client now).recorded = l.recorded + 1 := rfl
      have grown : ((l.recording limits client now).times client).length ≤
          (l.times client).length + 1 := by
        have own : (l.recording limits client now).times client =
            l.counted limits client now ++ [now] :=
          (times_withTimes l client client _).trans (if_pos rfl)
        rw [own, List.length_append]
        exact Nat.add_le_add_right (List.length_filter_le _ _) 1
      have again : (l.recording limits client now).recorded % cleanupEvery + count <
          cleanupEvery := by
        simp only [recorded, cleanupEvery] at early ⊢
        omega
      obtain ⟨total, length, others⟩ := ih (l.recording limits client now) (by omega) again
      rw [List.replicate_succ, Limiter.afterCalls,
        guardVisit_of_early now (by omega) (by omega)]
      refine ⟨by omega, by omega, fun other differ => (others other differ).trans ?_⟩
      exact (times_withTimes l client other _).trans (if_neg differ)

theorem afterCalls_append (limits : Limits) (l : Limiter Rat) (before after : List (Call Rat)) :
    l.afterCalls limits (before ++ after) =
      (l.afterCalls limits before).afterCalls limits after := by
  induction before generalizing l with
  | nil => rfl
  | cons call rest ih => exact ih _

theorem afterCalls_concat (limits : Limits) (l : Limiter Rat) (calls : List (Call Rat))
    (call : Call Rat) : l.afterCalls limits (calls ++ [call]) =
      ((l.afterCalls limits calls).guardVisit limits call.visit call.behind).2 :=
  afterCalls_append limits l calls [call]

/-- The clock steps back between two calls of one client, and another client calls up to the last
but one call before clients are forgotten. -/
def steppingBack : List (Call Rat) :=
  [knockOf "a" 1000, knockOf "a" 900] ++ List.replicate 997 (knockOf "b" 1000)

theorem kept_of_steppingBack :
    let l := Limiter.afterCalls ⟨1000, 60⟩ {} steppingBack
    l.times "a" = [1000, 900] ∧ l.recorded = 999 ∧ (l.times "b").length ≤ 997 := by
  intro l
  have both : (Limiter.afterCalls ⟨1000, 60⟩ {} [knockOf "a" 1000, knockOf "a" 900]).clients =
        [("a", [1000, 900])] ∧
      (Limiter.afterCalls ⟨1000, 60⟩ {} [knockOf "a" 1000, knockOf "a" 900]).recorded = 2 := by
    decide +kernel
  have appended := afterCalls_append ⟨1000, 60⟩ {} [knockOf "a" 1000, knockOf "a" 900]
    (List.replicate 997 (knockOf "b" 1000))
  generalize Limiter.afterCalls ⟨1000, 60⟩ {} [knockOf "a" 1000, knockOf "a" 900] = start
    at both appended
  obtain ⟨table, recorded⟩ := both
  have known : start.times "a" = [1000, 900] := by
    rw [Limiter.times, table]
    rfl
  have unknown : start.times "b" = [] := by
    rw [Limiter.times, table]
    rfl
  have few : (start.times "b").length + 997 ≤ 1000 := by
    rw [unknown]
    decide
  have early : start.recorded % cleanupEvery + 997 < cleanupEvery := by
    rw [recorded]
    decide
  obtain ⟨total, length, others⟩ := afterCalls_of_early ⟨1000, 60⟩ start "b" 997 1000 few early
  rw [← appended] at total length others
  rw [recorded] at total
  rw [unknown] at length
  exact ⟨(others "a" (by decide)).trans known, total, length⟩

theorem records_steppingBack : Records ⟨1000, 60⟩ (Limiter.afterCalls ⟨1000, 60⟩ {} steppingBack)
    (Ledger.afterCalls ⟨1000, 60⟩ {} {} steppingBack) :=
  (records_empty _).afterCalls (by decide) steppingBack

theorem steppingBack_knows :
    "a" ∈ (Limiter.afterCalls ⟨1000, 60⟩ {} steppingBack).clients.map Prod.fst := by
  have kept := kept_of_steppingBack.1
  refine (records_steppingBack.known_iff "a").mpr ?_
  rw [kept]
  exact List.cons_ne_nil _ _

/-- With the thousandth admission the client whose times are out of order is forgotten. -/
theorem steppingBack_drops :
    Drops ⟨1000, 60⟩ (Limiter.afterCalls ⟨1000, 60⟩ {} steppingBack) (knockOf "b" 1000) "a" := by
  obtain ⟨kept, total, few⟩ := kept_of_steppingBack
  refine ⟨knockOf_counts "b" 1000, ?_, ?_, by decide, 900, by rw [kept]; rfl, by decide +kernel⟩
  · have fewer := List.length_filter_le (Clock.earlier (Clock.windowStart (1000 : Rat) 60))
      ((Limiter.afterCalls ⟨1000, 60⟩ {} steppingBack).times "b")
    exact Nat.lt_of_le_of_lt (Nat.le_trans fewer few) (by decide)
  · rw [cleanupDue, total]
    rfl

theorem steppingBack_forgets :
    "a" ∉ (Limiter.afterCalls ⟨1000, 60⟩ {}
      (steppingBack ++ [knockOf "b" 1000])).clients.map Prod.fst := by
  have after := records_steppingBack.call (by decide) (knockOf "b" 1000)
  have gone := times_of_drops records_steppingBack.unique steppingBack_drops
  rw [afterCalls_concat]
  exact fun known => (after.known_iff "a").mp known gone

/-- With a limit of a thousand requests a minute, the client whose times are out of order is judged
by the older one, which is its last. With the thousandth admission it is forgotten, and the time
that lies inside the window still goes with it. -/
theorem live_time_lost_of_step_back :
    let l := Limiter.afterCalls ⟨1000, 60⟩ {} steppingBack
    let next := (l.guardVisit ⟨1000, 60⟩ (knockOf "b" 1000).visit (knockOf "b" 1000).behind).2
    l.times "a" = [1000, 900] ∧ (knockOf "b" 1000).visit.now - 60 < 1000 ∧
      next.times "a" = [] ∧ "a" ∉ next.clients.map Prod.fst := by
  intro l next
  have records : Records ⟨1000, 60⟩ l (Ledger.afterCalls ⟨1000, 60⟩ {} {} steppingBack) :=
    records_steppingBack
  have drops : Drops ⟨1000, 60⟩ l (knockOf "b" 1000) "a" := steppingBack_drops
  have gone : next.times "a" = [] := times_of_drops records.unique drops
  refine ⟨kept_of_steppingBack.1, by decide +kernel, gone, fun known => ?_⟩
  exact ((records.call (by decide) (knockOf "b" 1000)).known_iff "a").mp known gone

end Calls

end Limiter

end PageServer
