import PageServer.Proofs.Limiter.Ledger
/-! What the limiter keeps, on a clock that may step back. Every time that is kept for a client is
one at which that client was admitted; no client is kept without a time, and none with more times
than the limit allows. Refusals only drop times, so there is always one to count from. -/
namespace PageServer

open Http

/-! The limiter's own ledger -/

/-- The limiter has to decide on a call: its URL has a path, and no exempt one. -/
def Call.Counts (call : Call Rat) : Prop :=
  ∃ path, urlPath call.visit.request = .ok path ∧ path ∉ Limiter.exemptPaths

namespace Ledger

/-- The ledger after a call to a limiter: what the limiter admits is put down. -/
def note (limits : Limits) (ledger : Ledger) (l : Limiter Rat) (call : Call Rat) : Ledger :=
  match urlPath call.visit.request with
  | .error _ => ledger
  | .ok path =>
      if path ∈ Limiter.exemptPaths then ledger
      else match (l.ask limits call.visit.clientName call.visit.now).verdict with
        | .admitted => ledger.add call.visit.clientName call.visit.now
        | _ => ledger

/-- The ledger after calls, one after the other. -/
def afterCalls (limits : Limits) : Ledger → Limiter Rat → List (Call Rat) → Ledger
  | ledger, _, [] => ledger
  | ledger, l, call :: rest =>
      afterCalls limits (ledger.note limits l call)
        (l.guardVisit limits call.visit call.behind).2 rest

theorem length_add (ledger : Ledger) (client : String) (now : Rat) :
    (ledger.add client now).admissions.length = ledger.admissions.length + 1 := by
  simp [add]

end Ledger

namespace Limiter

/-! Rows of the table -/

section Rows

variable {τ : Type} {client : String} {times : List τ} {row : String × List τ}

theorem mem_putTimes {table : List (String × List τ)} (member : row ∈ putTimes client times table) :
    row = (client, times) ∨ row ∈ table := by
  induction table with
  | nil => exact .inl (List.mem_singleton.mp member)
  | cons first rest ih =>
      obtain ⟨name, kept⟩ := first
      by_cases here : name = client
      · simp only [putTimes, here, ↓reduceIte, List.mem_cons] at member
        exact member.imp id (List.mem_cons_of_mem _)
      · simp only [putTimes, here, ↓reduceIte, List.mem_cons] at member
        rcases member with rfl | later
        · exact .inr List.mem_cons_self
        · exact (ih later).imp id (List.mem_cons_of_mem _)

theorem mem_of_times_ne_nil {l : Limiter τ} (some_kept : l.times client ≠ []) :
    (client, l.times client) ∈ l.clients := by
  unfold Limiter.times at some_kept ⊢
  cases found : l.clients.lookup client with
  | none => simp [found] at some_kept
  | some times =>
      obtain ⟨front, back, table, _⟩ := List.lookup_eq_some_iff.mp found
      rw [Option.getD_some, table]
      exact List.mem_append_right front List.mem_cons_self

/-- Where a client is kept already, its times are replaced in their place. -/
theorem names_putTimes_of_mem {table : List (String × List τ)}
    (known : client ∈ table.map Prod.fst) :
    (putTimes client times table).map Prod.fst = table.map Prod.fst := by
  induction table with
  | nil => exact absurd known List.not_mem_nil
  | cons first rest ih =>
      obtain ⟨name, kept⟩ := first
      by_cases here : name = client
      · simp [putTimes, here]
      · have later : client ∈ rest.map Prod.fst :=
          (List.mem_cons.mp known).resolve_left (Ne.symm here)
        simp [putTimes, here, ih later]

end Rows

/-! What one request does -/

section Asked

variable {limits : Limits} {l : Limiter Rat} {ledger : Ledger} {client : String} {now : Rat}

/-- Seconds of a refusal are counted from a time inside the window. -/
theorem refused_of_counted {first : Rat} {rest : List Rat}
    (held : l.counted limits client now = first :: rest)
    (full : limits.requests ≤ (l.counted limits client now).length) :
    verdictOn limits (l.counted limits client now) now =
        .refused (l.counted limits client now).length (⌊first + limits.window - now⌋ + 1) ∧
      1 ≤ ⌊first + limits.window - now⌋ + 1 := by
  have inside : now - limits.window < first := by
    have member : first ∈ l.counted limits client now := by
      rw [held]
      exact List.mem_cons_self
    exact ((mem_recent _ first (l.times client)).mp member).2
  have seconds : 0 ≤ ⌊first + limits.window - now⌋ := Int.floor_nonneg.mpr (by linarith)
  refine ⟨?_, by omega⟩
  rw [held] at full ⊢
  simp only [verdictOn, full, ↓reduceIte, wholeSeconds_of_inside inside]

/-- What is kept is what was admitted: how often, and for each client times of its own admissions,
some but no more than the limit. -/
structure Records (limits : Limits) (l : Limiter Rat) (ledger : Ledger) : Prop where
  unique : l.Unique
  counted : l.recorded = ledger.admissions.length
  nonempty : ∀ row ∈ l.clients, row.2 ≠ []
  bounded : ∀ row ∈ l.clients, row.2.length ≤ limits.requests
  admitted : ∀ row ∈ l.clients, row.2.Sublist (ledger.times row.1)

theorem records_empty (limits : Limits) : Records limits {} {} where
  unique := List.nodup_nil
  counted := rfl
  nonempty := fun _ member => absurd member List.not_mem_nil
  bounded := fun _ member => absurd member List.not_mem_nil
  admitted := fun _ member => absurd member List.not_mem_nil

theorem Records.times (records : Records limits l ledger) (client : String) :
    (l.times client).length ≤ limits.requests ∧ (l.times client).Sublist (ledger.times client) := by
  by_cases none_kept : l.times client = []
  · rw [none_kept]
    exact ⟨Nat.zero_le _, List.nil_sublist _⟩
  · have member := mem_of_times_ne_nil none_kept
    exact ⟨records.bounded _ member, records.admitted _ member⟩

theorem Records.counted_sublist (records : Records limits l ledger) (client : String) (now : Rat) :
    (l.counted limits client now).Sublist (ledger.times client) :=
  List.filter_sublist.trans (records.times client).2

theorem sublist_add (ledger : Ledger) (client other : String) (now : Rat) :
    (ledger.times other).Sublist ((ledger.add client now).times other) := by
  rw [Ledger.times_add]
  exact List.sublist_append_left _ _

theorem Records.refused (records : Records limits l ledger) (allows : 1 ≤ limits.requests)
    (full : limits.requests ≤ (l.counted limits client now).length) :
    Records limits (l.withTimes client (l.counted limits client now)) ledger := by
  have held := records.times client
  have fewer : (l.counted limits client now).length ≤ (l.times client).length :=
    List.length_filter_le _ _
  refine ⟨records.unique.withTimes client _, records.counted, ?_, ?_, ?_⟩ <;>
    intro row member <;> rcases mem_putTimes member with rfl | old
  · exact List.ne_nil_of_length_pos (Nat.le_trans allows full)
  · exact records.nonempty row old
  · exact Nat.le_trans fewer held.1
  · exact records.bounded row old
  · exact records.counted_sublist client now
  · exact records.admitted row old

theorem Records.recording (records : Records limits l ledger)
    (room : (l.counted limits client now).length < limits.requests) :
    Records limits (l.recording limits client now) (ledger.add client now) := by
  refine ⟨records.unique.withTimes client _, ?_, ?_, ?_, ?_⟩
  · rw [Ledger.length_add, ← records.counted]
    rfl
  all_goals
    intro row member
    rcases mem_putTimes member with rfl | old
  · exact List.append_ne_nil_of_right_ne_nil _ (List.cons_ne_nil _ _)
  · exact records.nonempty row old
  · rw [List.length_append]
    exact room
  · exact records.bounded row old
  · rw [Ledger.times_add, if_pos rfl]
    exact (records.counted_sublist client now).append (List.Sublist.refl _)
  · exact (records.admitted row old).trans (sublist_add ledger client row.1 now)

theorem Records.cleanUp (records : Records limits l ledger) (start : Rat) :
    Records limits (l.cleanUp start) ledger where
  unique := records.unique.cleanUp start
  counted := records.counted
  nonempty := fun row member => records.nonempty row (List.mem_filter.mp member).1
  bounded := fun row member => records.bounded row (List.mem_filter.mp member).1
  admitted := fun row member => records.admitted row (List.mem_filter.mp member).1

/-- What a request leads to, where some are allowed: it is admitted and put down, or refused for at
least a second, and then only times of its own client are dropped that have left the window. -/
theorem Records.ask (records : Records limits l ledger) (allows : 1 ≤ limits.requests)
    (client : String) (now : Rat) :
    ((l.ask limits client now).verdict = .admitted ∧
        Records limits (l.ask limits client now).limiter (ledger.add client now)) ∨
      ∃ held seconds, (l.ask limits client now).verdict = .refused held seconds ∧ 1 ≤ seconds ∧
        (l.ask limits client now).limiter = l.withTimes client (l.counted limits client now) ∧
        client ∈ l.clients.map Prod.fst ∧
        Records limits (l.ask limits client now).limiter ledger := by
  rcases ask_cases limits client now l with ⟨full, asked⟩ | ⟨room, _, asked⟩ | ⟨room, _, _, asked⟩
  · -- The limit allows some requests, so a client that has reached it has a first time.
    cases held : l.counted limits client now with
    | nil =>
        rw [held, List.length_nil] at full
        omega
    | cons first rest =>
        obtain ⟨verdict, seconds⟩ := refused_of_counted held full
        have kept : l.times client ≠ [] := by
          intro none_kept
          simp [Limiter.counted, none_kept, recent] at held
        have known := List.mem_map_of_mem (f := Prod.fst) (mem_of_times_ne_nil kept)
        rw [asked]
        exact .inr ⟨_, _, verdict, seconds, by rw [held], known, records.refused allows full⟩
  · rw [asked]
    exact .inl ⟨rfl, records.recording room⟩
  · rw [asked]
    exact .inl ⟨rfl, (records.recording room).cleanUp _⟩

end Asked

/-! Calls -/

section Calls

variable {limits : Limits} {l : Limiter Rat} {ledger : Ledger}

/-- The limiter after a refusal: no times are dropped but those of the client that have left the
window, and nothing is put down. -/
structure Trims (limits : Limits) (l next : Limiter Rat) (client : String) (now : Rat) : Prop where
  names : next.clients.map Prod.fst = l.clients.map Prod.fst
  recorded : next.recorded = l.recorded
  own : next.times client = (l.times client).filter fun t => now - limits.window < t
  others : ∀ other, other ≠ client → next.times other = l.times other

theorem trims_withTimes {client : String} (now : Rat) (known : client ∈ l.clients.map Prod.fst) :
    Trims limits l (l.withTimes client (l.counted limits client now)) client now where
  names := names_putTimes_of_mem known
  recorded := rfl
  own := (times_withTimes l client client _).trans (if_pos rfl)
  others := fun other differ => (times_withTimes l client other _).trans (if_neg differ)

theorem guardVisit_of_not_counts {call : Call Rat} (passed : ¬ call.Counts) (limits : Limits)
    (l : Limiter Rat)
    (ledger : Ledger) :
    (l.guardVisit limits call.visit call.behind).2 = l ∧ ledger.note limits l call = ledger := by
  unfold guardVisit Ledger.note
  cases reading : urlPath call.visit.request with
  | error fault => exact ⟨rfl, rfl⟩
  | ok path =>
      have exempt : path ∈ exemptPaths := by
        by_contra counts
        exact passed ⟨path, reading, counts⟩
      simp only [guard_of_exempt limits l call.visit exempt, exempt, ↓reduceIte, and_self]

/-- The answer to a call that counts, and the ledger afterwards, by the verdict. -/
theorem guardVisit_of_counts {call : Call Rat} (counts : call.Counts) (limits : Limits)
    (l : Limiter Rat)
    (ledger : Ledger) :
    let asked := l.ask limits call.visit.clientName call.visit.now
    (l.guardVisit limits call.visit call.behind).1.result =
        replyTo asked.verdict call.behind.result ∧
      (l.guardVisit limits call.visit call.behind).2 = asked.limiter ∧
      ledger.note limits l call =
        if asked.verdict = .admitted then ledger.add call.visit.clientName call.visit.now
        else ledger := by
  obtain ⟨path, reading, counts⟩ := counts
  simp only [guardVisit, Ledger.note, reading, guard_of_not_exempt limits l call.visit counts,
    counts, ↓reduceIte, true_and]
  cases (l.ask limits call.visit.clientName call.visit.now).verdict <;> rfl

theorem Records.call (records : Records limits l ledger) (allows : 1 ≤ limits.requests)
    (call : Call Rat) :
    Records limits (l.guardVisit limits call.visit call.behind).2 (ledger.note limits l call) := by
  by_cases counts : call.Counts
  · obtain ⟨_, kept, noted⟩ := guardVisit_of_counts counts limits l ledger
    rw [kept, noted]
    rcases records.ask allows call.visit.clientName call.visit.now with
      ⟨verdict, next⟩ | ⟨held, seconds, verdict, _, _, _, next⟩
    · rw [if_pos verdict]
      exact next
    · rw [if_neg (by simp [verdict])]
      exact next
  · obtain ⟨kept, noted⟩ := guardVisit_of_not_counts counts limits l ledger
    rw [kept, noted]
    exact records

theorem Records.afterCalls (records : Records limits l ledger) (allows : 1 ≤ limits.requests)
    (calls : List (Call Rat)) :
    Records limits (l.afterCalls limits calls) (ledger.afterCalls limits l calls) := by
  induction calls generalizing l ledger with
  | nil => exact records
  | cons call rest ih => exact ih (records.call allows call)

/-- After any calls, at whatever times the clock shows them, each client kept has some times, no
more than the limit, and they are times at which it was admitted, in that order; the counter tells
how many calls were admitted. Of the next call, one that counts passes and is put down, or it is
refused for at least a second and only times of its own client are dropped that have left the
window. An exempt call passes, and neither does it change anything nor one without a path. -/
theorem kept_are_admissions (limits : Limits) (allows : 1 ≤ limits.requests)
    (calls : List (Call Rat)) :
    let l := Limiter.afterCalls limits {} calls
    let ledger := Ledger.afterCalls limits {} {} calls
    (∀ client times, (client, times) ∈ l.clients →
      times ≠ [] ∧ times.length ≤ limits.requests ∧ times.Sublist (ledger.times client)) ∧
    l.recorded = ledger.admissions.length ∧
    ∀ call : Call Rat,
      let client := call.visit.clientName
      let now := call.visit.now
      let decided := l.guardVisit limits call.visit call.behind
      (call.Counts →
        (decided.1.result = call.behind.result ∧
          ledger.note limits l call = ledger.add client now) ∨
        ∃ seconds, 1 ≤ seconds ∧ decided.1.result = .ok (refusalResponse seconds) ∧
          ledger.note limits l call = ledger ∧ Trims limits l decided.2 client now) ∧
      (¬ call.Counts → decided.2 = l ∧ ledger.note limits l call = ledger) ∧
      ∀ path ∈ exemptPaths, urlPath call.visit.request = .ok path →
        decided = (call.behind, l) := by
  intro l ledger
  have records : Records limits l ledger := (records_empty limits).afterCalls allows calls
  refine ⟨fun client times member => ⟨records.nonempty _ member, records.bounded _ member,
    records.admitted _ member⟩, records.counted, fun call => ?_⟩
  intro client now decided
  refine ⟨fun counts => ?_, fun passed => guardVisit_of_not_counts passed limits l ledger,
    fun path exempt reading => ?_⟩
  · obtain ⟨answer, kept, noted⟩ := guardVisit_of_counts counts limits l ledger
    rcases records.ask allows client now with
      ⟨verdict, _⟩ | ⟨held, seconds, verdict, least, limiter, known, _⟩
    · rw [verdict] at answer
      exact .inl ⟨answer, noted.trans (if_pos verdict)⟩
    · have refused : (l.ask limits client now).verdict ≠ .admitted := by
        rw [verdict]
        nofun
      have next : decided.2 = l.withTimes client (l.counted limits client now) :=
        kept.trans limiter
      rw [verdict] at answer
      refine .inr ⟨seconds, least, answer, noted.trans (if_neg refused), ?_⟩
      rw [next]
      exact trims_withTimes now known
  · simp only [decided, guardVisit, reading]
    exact guard_of_exempt limits l call.visit exempt call.behind

/-- The clock steps back by two seconds behind an admission, which keeps the next request out. -/
theorem kept_are_admissions_of_step_back :
    let l := Limiter.afterCalls ⟨1, 1⟩ {} [knock 5, knock 3]
    l.clients = [("unknown", [5])] ∧ [(5 : Rat)].length ≤ 1 ∧
      [5].Sublist ((Ledger.afterCalls ⟨1, 1⟩ {} {} [knock 5, knock 3]).times "unknown") ∧
      l.recorded = (Ledger.afterCalls ⟨1, 1⟩ {} {} [knock 5, knock 3]).admissions.length := by
  intro l
  have kept : l.clients = [("unknown", [5])] := by decide +kernel
  obtain ⟨rows, counter, _⟩ := kept_are_admissions ⟨1, 1⟩ (by decide) [knock 5, knock 3]
  obtain ⟨_, bounded, admitted⟩ := rows "unknown" [5] (kept ▸ List.mem_cons_self)
  exact ⟨kept, bounded, admitted, counter⟩

end Calls

end Limiter

end PageServer
