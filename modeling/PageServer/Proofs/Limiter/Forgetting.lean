import PageServer.Proofs.Limiter.Cleanup
import Mathlib.Algebra.Group.Action.Defs
import Mathlib.Data.Finset.Card
import Mathlib.Algebra.Order.BigOperators.Group.List
/-! How much the limiter keeps, on a clock that may step back. Only an admission makes a client
known, and every so many admissions the clients without recent times are forgotten, so a client that
is kept was admitted since then, or recently enough at that time. -/
namespace PageServer

open Http

/-! Ledgers by the last time clients were forgotten -/

namespace Ledger

/-- The number of the last admission after which clients were forgotten. -/
def settled (ledger : Ledger) : Nat :=
  ledger.admissions.length - ledger.admissions.length % Limiter.cleanupEvery

/-- The admissions since then. -/
def sinceCleanup (ledger : Ledger) : List (String × Rat) :=
  ledger.admissions.drop ledger.settled

/-- The start of the window by which clients were forgotten then. -/
def cleanupStart? (limits : Limits) (ledger : Ledger) : Option Rat :=
  (ledger.admissions.take ledger.settled).getLast?.map fun admission =>
    admission.2 - limits.window

/-- A client was admitted since clients were last forgotten, or inside the window of that time. -/
def Active (limits : Limits) (ledger : Ledger) (client : String) : Prop :=
  client ∈ ledger.sinceCleanup.map Prod.fst ∨
    ∃ start, ledger.cleanupStart? limits = some start ∧ ∃ t ∈ ledger.times client, start ≤ t

/-- The clients with admissions inside or after the window by which clients were last forgotten. -/
def recentClients (limits : Limits) (ledger : Ledger) : Finset String :=
  match ledger.cleanupStart? limits with
  | none => ∅
  | some start =>
      ((ledger.admissions.filter fun admission => start ≤ admission.2).map Prod.fst).toFinset

section Additions

variable {limits : Limits} {ledger : Ledger} {client : String} {now : Rat}

theorem length_sinceCleanup (ledger : Ledger) :
    ledger.sinceCleanup.length = ledger.admissions.length % Limiter.cleanupEvery := by
  have fewer := Nat.mod_le ledger.admissions.length Limiter.cleanupEvery
  rw [sinceCleanup, List.length_drop, settled]
  omega

theorem settled_add_of_not_due
    (early : (ledger.admissions.length + 1) % Limiter.cleanupEvery ≠ 0) (client : String)
    (now : Rat) : (ledger.add client now).settled = ledger.settled := by
  unfold settled Limiter.cleanupEvery at *
  rw [length_add]
  omega

theorem sinceCleanup_add_of_not_due
    (early : (ledger.admissions.length + 1) % Limiter.cleanupEvery ≠ 0) (client : String)
    (now : Rat) : (ledger.add client now).sinceCleanup = ledger.sinceCleanup ++
      [(client, now)] := by
  have within : ledger.settled ≤ ledger.admissions.length := Nat.sub_le _ _
  rw [sinceCleanup, settled_add_of_not_due early, add, List.drop_append_of_le_length within]
  rfl

theorem cleanupStart?_add_of_not_due
    (early : (ledger.admissions.length + 1) % Limiter.cleanupEvery ≠ 0) (limits : Limits)
    (client : String) (now : Rat) :
    (ledger.add client now).cleanupStart? limits = ledger.cleanupStart? limits := by
  have within : ledger.settled ≤ ledger.admissions.length := Nat.sub_le _ _
  rw [cleanupStart?, settled_add_of_not_due early, add, List.take_append_of_le_length within]
  rfl

theorem cleanupStart?_add_of_due
    (due : (ledger.admissions.length + 1) % Limiter.cleanupEvery = 0) (limits : Limits)
    (client : String) (now : Rat) :
    (ledger.add client now).cleanupStart? limits = some (now - limits.window) := by
  have all : (ledger.add client now).settled = (ledger.add client now).admissions.length := by
    rw [settled, length_add, due, Nat.sub_zero]
  rw [cleanupStart?, all, List.take_length, add, List.getLast?_concat]
  rfl

theorem Active.add (active : ledger.Active limits client)
    (early : (ledger.admissions.length + 1) % Limiter.cleanupEvery ≠ 0) (other : String)
    (now : Rat) : (ledger.add other now).Active limits client := by
  rcases active with since | ⟨start, cleaned, t, member, inside⟩
  · refine .inl ?_
    rw [sinceCleanup_add_of_not_due early, List.map_append]
    exact List.mem_append_left _ since
  · refine .inr ⟨start, ?_, t, (Limiter.sublist_add ledger other client now).mem member, inside⟩
    rw [cleanupStart?_add_of_not_due early, cleaned]

theorem active_add_self
    (early : (ledger.admissions.length + 1) % Limiter.cleanupEvery ≠ 0) (limits : Limits)
    (client : String) (now : Rat) : (ledger.add client now).Active limits client := by
  refine .inl ?_
  rw [sinceCleanup_add_of_not_due early, List.map_append]
  exact List.mem_append_right _ List.mem_cons_self

theorem mem_times {t : Rat} : t ∈ ledger.times client ↔ (client, t) ∈ ledger.admissions := by
  simp [times]

theorem Active.mem (active : ledger.Active limits client) :
    client ∈ (ledger.sinceCleanup.map Prod.fst).toFinset ∪ ledger.recentClients limits := by
  rw [Finset.mem_union]
  rcases active with since | ⟨start, cleaned, t, member, inside⟩
  · exact .inl (List.mem_toFinset.mpr since)
  · refine .inr ?_
    simp only [recentClients, cleaned, List.mem_toFinset, List.mem_map, List.mem_filter,
      decide_eq_true_eq]
    exact ⟨(client, t), ⟨mem_times.mp member, inside⟩, rfl⟩

end Additions

end Ledger

/-! What is kept -/

namespace Limiter

section Forgetting

variable {limits : Limits} {l : Limiter Rat} {ledger : Ledger} {client : String} {now : Rat}

/-- Only clients are kept that are active. -/
def Fresh (limits : Limits) (l : Limiter Rat) (ledger : Ledger) : Prop :=
  ∀ row ∈ l.clients, ledger.Active limits row.1

theorem fresh_of_names {next : Limiter Rat} (fresh : Fresh limits l ledger)
    (names : next.clients.map Prod.fst = l.clients.map Prod.fst) : Fresh limits next ledger := by
  intro row member
  have known : row.1 ∈ l.clients.map Prod.fst := names ▸ List.mem_map_of_mem member
  obtain ⟨old, there, same⟩ := List.mem_map.mp known
  rw [← same]
  exact fresh old there

theorem Fresh.recording (fresh : Fresh limits l ledger)
    (early : (ledger.admissions.length + 1) % cleanupEvery ≠ 0) (client : String) (now : Rat) :
    Fresh limits (l.recording limits client now) (ledger.add client now) := by
  intro row member
  rcases mem_putTimes member with rfl | old
  · exact Ledger.active_add_self early limits client now
  · exact (fresh row old).add early client now

/-- Whoever is kept when clients are forgotten has a last time that is not before the window, and
that is one of its admissions. -/
theorem Records.fresh_cleanUp {start : Rat} (records : Records limits (l.cleanUp start) ledger)
    (cleaned : ledger.cleanupStart? limits = some start) :
    Fresh limits (l.cleanUp start) ledger := by
  intro row member
  have stays := (List.mem_filter.mp member).2
  simp only [isInactive, Bool.not_eq_eq_eq_not, Bool.not_true] at stays
  cases latest : row.2.getLast? with
  | none => simp [latest] at stays
  | some last =>
      simp only [latest, Clock.earlier, decide_eq_false_iff_not, not_lt] at stays
      have own := (records.admitted row member).mem (List.mem_of_getLast? latest)
      exact .inr ⟨start, cleaned, last, own, stays⟩

/-- At an admission after which clients are forgotten, the limiter goes by the window that the
ledger names from then on. -/
theorem Records.forgets (records : Records limits l ledger)
    (admitted : (l.ask limits client now).verdict = .admitted) (due : l.cleanupDue) :
    ∃ start, (ledger.add client now).cleanupStart? limits = some start ∧
      (l.ask limits client now).limiter = (l.recording limits client now).cleanUp start := by
  rcases ask_cases limits client now l with ⟨full, _⟩ | ⟨_, early, _⟩ | ⟨_, _, _, asked⟩
  · exact absurd full (Nat.not_le.mpr (room_of_admitted admitted))
  · exact absurd due early
  · unfold cleanupDue at due
    rw [records.counted] at due
    rw [asked]
    exact ⟨_, Ledger.cleanupStart?_add_of_due due limits client now, rfl⟩

theorem Fresh.ask (fresh : Fresh limits l ledger) (records : Records limits l ledger)
    (allows : 1 ≤ limits.requests) (client : String) (now : Rat) :
    Fresh limits (l.ask limits client now).limiter
      (if (l.ask limits client now).verdict = .admitted then ledger.add client now
        else ledger) := by
  rcases records.ask allows client now with
    ⟨verdict, next⟩ | ⟨held, seconds, verdict, _, limiter, known, _⟩
  · rw [if_pos verdict]
    by_cases due : l.cleanupDue
    · obtain ⟨start, cleaned, limiter⟩ := records.forgets verdict due
      rw [limiter] at next ⊢
      exact next.fresh_cleanUp cleaned
    · obtain ⟨full, _⟩ | ⟨_, early, asked⟩ | ⟨_, due', _⟩ := ask_cases limits client now l
      · exact absurd full (Nat.not_le.mpr (room_of_admitted verdict))
      · unfold cleanupDue at early
        rw [records.counted] at early
        rw [asked]
        exact fresh.recording early client now
      · exact absurd due' due
  · -- A refusal looks up a client that is kept already, so it makes no client known.
    rw [if_neg (by simp [verdict]), limiter]
    exact fresh_of_names fresh (names_putTimes_of_mem known)

theorem Fresh.call (fresh : Fresh limits l ledger) (records : Records limits l ledger)
    (allows : 1 ≤ limits.requests) (call : Call Rat) :
    Fresh limits (l.guardVisit limits call.visit call.behind).2 (ledger.note limits l call) := by
  by_cases counts : call.Counts
  · obtain ⟨_, kept, noted⟩ := guardVisit_of_counts counts limits l ledger
    rw [kept, noted]
    exact fresh.ask records allows _ _
  · obtain ⟨kept, noted⟩ := guardVisit_of_not_counts counts limits l ledger
    rw [kept, noted]
    exact fresh

theorem Fresh.afterCalls (fresh : Fresh limits l ledger) (records : Records limits l ledger)
    (allows : 1 ≤ limits.requests) (calls : List (Call Rat)) :
    Fresh limits (l.afterCalls limits calls) (ledger.afterCalls limits l calls) := by
  induction calls generalizing l ledger with
  | nil => exact fresh
  | cons call rest ih => exact ih (fresh.call records allows call) (records.call allows call)

/-! Bounds -/

theorem Fresh.length_clients_le (fresh : Fresh limits l ledger) (unique : l.Unique) :
    l.clients.length ≤ 999 + (ledger.recentClients limits).card := by
  -- Each kept client is one of two kinds, and of the first there are fewer than admissions between
  -- two times at which clients are forgotten.
  have covered : (l.clients.map Prod.fst).toFinset ⊆
      (ledger.sinceCleanup.map Prod.fst).toFinset ∪ ledger.recentClients limits := by
    intro client member
    obtain ⟨row, there, rfl⟩ := List.mem_map.mp (List.mem_toFinset.mp member)
    exact (fresh row there).mem
  have since : (ledger.sinceCleanup.map Prod.fst).toFinset.card ≤ 999 := by
    have rest := Nat.mod_lt ledger.admissions.length (show 0 < cleanupEvery by decide)
    calc (ledger.sinceCleanup.map Prod.fst).toFinset.card
        ≤ ledger.sinceCleanup.length := by
          simpa using List.toFinset_card_le (ledger.sinceCleanup.map Prod.fst)
      _ = ledger.admissions.length % cleanupEvery := ledger.length_sinceCleanup
      _ ≤ 999 := Nat.le_of_lt_succ rest
  calc l.clients.length
      = (l.clients.map Prod.fst).toFinset.card := by
        rw [List.toFinset_card_of_nodup unique, List.length_map]
    _ ≤ ((ledger.sinceCleanup.map Prod.fst).toFinset ∪ ledger.recentClients limits).card :=
        Finset.card_le_card covered
    _ ≤ (ledger.sinceCleanup.map Prod.fst).toFinset.card + (ledger.recentClients limits).card :=
        Finset.card_union_le _ _
    _ ≤ 999 + (ledger.recentClients limits).card := Nat.add_le_add_right since _

theorem Records.times_le (records : Records limits l ledger) :
    (l.clients.map fun row => row.2.length).sum ≤ limits.requests * l.clients.length := by
  have bound := List.sum_le_card_nsmul (l.clients.map fun row => row.2.length) limits.requests
    (List.forall_mem_map.mpr records.bounded)
  rwa [List.length_map, smul_eq_mul, Nat.mul_comm] at bound

/-- After any calls, at whatever times the clock shows them, every client that is kept was admitted
since clients were last forgotten, or not before the window by which they were. So there are at most
so many clients as there can be admissions since then, and those inside or after that window; and
for each of them there are at most as many times as the limit allows. Calls that are refused or
exempt make no difference. The window is the one of the latest admission whose number calls for it,
and by which the limiter forgets clients at the next such admission. -/
theorem memory_bounded (limits : Limits) (allows : 1 ≤ limits.requests) (calls : List (Call Rat)) :
    let l := Limiter.afterCalls limits {} calls
    let ledger := Ledger.afterCalls limits {} {} calls
    (∀ client ∈ l.clients.map Prod.fst,
      client ∈ (ledger.admissions.drop (l.recorded - l.recorded % 1000)).map Prod.fst ∨
        ∃ start, ledger.cleanupStart? limits = some start ∧
          ∃ t ∈ ledger.times client, start ≤ t) ∧
      l.clients.length ≤ 999 + (ledger.recentClients limits).card ∧
      (l.clients.map fun row => row.2.length).sum ≤
        limits.requests * (999 + (ledger.recentClients limits).card) ∧
      ∀ client now, (l.ask limits client now).verdict = .admitted → (l.recorded + 1) % 1000 = 0 →
        ∃ start, (ledger.add client now).cleanupStart? limits = some start ∧
          (l.ask limits client now).limiter = (l.recording limits client now).cleanUp start := by
  intro l ledger
  have records : Records limits l ledger := (records_empty limits).afterCalls allows calls
  have empty : Fresh limits {} {} := fun _ member => absurd member List.not_mem_nil
  have fresh : Fresh limits l ledger := empty.afterCalls (records_empty limits) allows calls
  have few := fresh.length_clients_le records.unique
  refine ⟨fun client member => ?_, few, Nat.le_trans records.times_le (Nat.mul_le_mul_left _ few),
    fun client now admitted due => records.forgets admitted due⟩
  obtain ⟨row, there, rfl⟩ := List.mem_map.mp member
  rw [records.counted]
  exact fresh row there

/-- The thousandth admission comes after a step back of the clock, and a client is forgotten with
it. -/
theorem memory_bounded_of_step_back :
    let before := Limiter.afterCalls ⟨1000, 60⟩ {} steppingBack
    let l := Limiter.afterCalls ⟨1000, 60⟩ {} (steppingBack ++ [knockOf "b" 1000])
    let ledger := Ledger.afterCalls ⟨1000, 60⟩ {} {} (steppingBack ++ [knockOf "b" 1000])
    "a" ∈ before.clients.map Prod.fst ∧ "a" ∉ l.clients.map Prod.fst ∧
      (∃ start, l = (before.recording ⟨1000, 60⟩ "b" 1000).cleanUp start) ∧
      (l.clients.map fun row => row.2.length).sum ≤
        1000 * (999 + (ledger.recentClients ⟨1000, 60⟩).card) := by
  obtain ⟨_, total, _⟩ := kept_of_steppingBack
  have drops := steppingBack_drops
  have last := afterCalls_concat ⟨1000, 60⟩ {} steppingBack (knockOf "b" 1000)
  have asked := last.trans (guardVisit_of_counts drops.1 ⟨1000, 60⟩ _ {}).2.1
  have admitted : (Limiter.ask ⟨1000, 60⟩ "b" (1000 : Rat)
      (Limiter.afterCalls ⟨1000, 60⟩ {} steppingBack)).verdict = .admitted := by
    rw [ask_verdict, verdictOn_eq_admitted_iff]
    exact drops.2.room
  obtain ⟨_, _, _, forgets⟩ := memory_bounded ⟨1000, 60⟩ (by decide) steppingBack
  obtain ⟨start, _, cleaned⟩ := forgets "b" 1000 admitted (by rw [total])
  obtain ⟨_, _, stored, _⟩ :=
    memory_bounded ⟨1000, 60⟩ (by decide) (steppingBack ++ [knockOf "b" 1000])
  have requests : (⟨1000, 60⟩ : Limits).requests ≤ 1000 := Nat.le_refl 1000
  exact ⟨steppingBack_knows, steppingBack_forgets, ⟨start, asked.trans cleaned⟩,
    Nat.le_trans stored (Nat.mul_le_mul_right _ requests)⟩

end Forgetting

end Limiter

end PageServer
