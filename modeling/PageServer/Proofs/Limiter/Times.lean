import PageServer.Limiter.Basic
import PageServer.Proofs.Value.Entries
import Mathlib.Algebra.Order.Ring.Rat
import Mathlib.Tactic.Linarith
/-! What the limiter keeps for a client, and what asking it does to that. The table of clients is
unique in its names, and for every client the times are in order. Times that have left a window
never come back into a later one, so dropping them, or a client that has no others, shows in no
later window. -/
namespace PageServer.Limiter

/-! The table of clients -/

section Table

variable {τ : Type}

def Unique (l : Limiter τ) : Prop :=
  (l.clients.map Prod.fst).Nodup

theorem lookup_putTimes (client other : String) (times : List τ)
    (table : List (String × List τ)) :
    (putTimes client times table).lookup other =
      if other = client then some times else table.lookup other := by
  induction table with
  | nil => rw [putTimes, lookup_row]
  | cons row rest ih =>
      obtain ⟨name, kept⟩ := row
      by_cases here : name = client
      · subst here
        by_cases same : other = name <;> simp [putTimes, lookup_row, same]
      · simp only [putTimes, here, ↓reduceIte, lookup_row, ih]
        by_cases found : other = name
        · subst found
          simp [here]
        · simp [found]

@[simp]
theorem times_withTimes (l : Limiter τ) (client other : String) (times : List τ) :
    (l.withTimes client times).times other = if other = client then times else l.times other := by
  by_cases same : other = client <;>
    simp [Limiter.times, withTimes, lookup_putTimes, same]

theorem mem_names_putTimes (client name : String) (times : List τ)
    (table : List (String × List τ)) :
    name ∈ (putTimes client times table).map Prod.fst ↔
      name = client ∨ name ∈ table.map Prod.fst := by
  induction table with
  | nil => simp [putTimes]
  | cons row rest ih =>
      obtain ⟨first, kept⟩ := row
      by_cases here : first = client
      · subst here
        simp [putTimes]
      · simp only [putTimes, here, ↓reduceIte, List.map_cons, List.mem_cons, ih]
        tauto

theorem nodup_putTimes (client : String) (times : List τ) (table : List (String × List τ))
    (unique : (table.map Prod.fst).Nodup) :
    ((putTimes client times table).map Prod.fst).Nodup := by
  induction table with
  | nil => simp [putTimes]
  | cons row rest ih =>
      obtain ⟨first, kept⟩ := row
      obtain ⟨fresh, others⟩ := List.nodup_cons.mp unique
      by_cases here : first = client
      · subst here
        simpa [putTimes] using unique
      · simp only [putTimes, here, ↓reduceIte, List.map_cons]
        apply List.nodup_cons.mpr
        refine ⟨?_, ih others⟩
        rw [mem_names_putTimes]
        exact fun member => member.elim here fresh

theorem Unique.withTimes {l : Limiter τ} (unique : l.Unique) (client : String) (times : List τ) :
    (l.withTimes client times).Unique :=
  nodup_putTimes client times l.clients unique

theorem lookup_eq_none_of_fresh (client : String) (table : List (String × List τ))
    (fresh : client ∉ table.map Prod.fst) : table.lookup client = none := by
  rw [List.lookup_eq_none_iff]
  intro row member
  exact bne_iff_ne.mpr fun same => fresh (List.mem_map.mpr ⟨row, member, same.symm⟩)

variable [Clock τ]

theorem Unique.cleanUp {l : Limiter τ} (unique : l.Unique) (start : τ) : (l.cleanUp start).Unique :=
  List.Nodup.sublist (List.filter_sublist.map Prod.fst) unique

-- A row that is dropped uncovers no other row of its client, because there is none.
theorem lookup_active (client : String) (start : τ) (table : List (String × List τ))
    (unique : (table.map Prod.fst).Nodup) :
    (table.filter fun row => !isInactive start row.2).lookup client =
      (table.lookup client).filter fun times => !isInactive start times := by
  induction table with
  | nil => rfl
  | cons row rest ih =>
      obtain ⟨name, kept⟩ := row
      obtain ⟨fresh, others⟩ := List.nodup_cons.mp unique
      rw [List.filter_cons, lookup_row]
      by_cases found : client = name
      · subst found
        have gone := lookup_eq_none_of_fresh client rest fresh
        by_cases quiet : isInactive start kept = true <;>
          simp [quiet, Option.filter, ih others, gone]
      · by_cases quiet : isInactive start kept = true <;>
          simp [quiet, lookup_row, found, ih others]

theorem times_cleanUp {l : Limiter τ} (unique : l.Unique) (start : τ) (client : String) :
    (l.cleanUp start).times client =
      if isInactive start (l.times client) then [] else l.times client := by
  have dropped (found : Option (List τ)) :
      (found.filter fun times => !isInactive start times).getD [] =
        if isInactive start (found.getD []) then [] else found.getD [] := by
    cases found with
    | none => simp [isInactive]
    | some times => by_cases quiet : isInactive start times = true <;> simp [Option.filter, quiet]
  calc (l.cleanUp start).times client
      = ((l.clients.lookup client).filter fun times => !isInactive start times).getD [] :=
        congrArg (Option.getD · []) (lookup_active client start l.clients unique)
    _ = if isInactive start (l.times client) then [] else l.times client := dropped _

end Table

/-! What asking does -/

section Asking

variable {τ : Type} [Clock τ]

/-- The answer to a client of whose times these count. -/
def verdictOn (limits : Limits) (counted : List τ) (now : τ) : Verdict :=
  if limits.requests ≤ counted.length then
    match counted with
    | [] => .unanchored
    | first :: _ =>
        match Clock.wholeSeconds first limits.window now with
        | .ok seconds => .refused counted.length (seconds + 1)
        | .error fault => .uncountable fault
  else .admitted

/-- The times of a client that count at a moment. -/
def counted (limits : Limits) (l : Limiter τ) (client : String) (now : τ) : List τ :=
  recent (Clock.windowStart now limits.window) (l.times client)

/-- What is kept after an admission, before any client is forgotten. -/
def recording (limits : Limits) (l : Limiter τ) (client : String) (now : τ) : Limiter τ :=
  { l.withTimes client (l.counted limits client now ++ [now]) with recorded := l.recorded + 1 }

/-- Whether the next admission is one after which clients are forgotten. -/
def cleanupDue (l : Limiter τ) : Prop :=
  (l.recorded + 1) % cleanupEvery = 0

/-- All that asking can do: refuse and drop what has left the window, or admit and record, with or
without forgetting the clients that have no recent times. -/
theorem ask_cases (limits : Limits) (client : String) (now : τ) (l : Limiter τ) :
    (limits.requests ≤ (l.counted limits client now).length ∧
      l.ask limits client now =
        ⟨verdictOn limits (l.counted limits client now) now,
          l.withTimes client (l.counted limits client now), 0⟩) ∨
    ((l.counted limits client now).length < limits.requests ∧ ¬ l.cleanupDue ∧
      l.ask limits client now = ⟨.admitted, l.recording limits client now, 0⟩) ∨
    ((l.counted limits client now).length < limits.requests ∧ l.cleanupDue ∧
      ∃ forgotten, l.ask limits client now =
        ⟨.admitted, (l.recording limits client now).cleanUp
          (Clock.windowStart now limits.window), forgotten⟩) := by
  by_cases full : limits.requests ≤ (l.counted limits client now).length
  · refine .inl ⟨full, ?_⟩
    have full' := full
    simp only [counted] at full'
    cases times : recent (Clock.windowStart now limits.window) (l.times client) with
    | nil =>
        rw [times] at full'
        simp only [ask, verdictOn, counted, times, full', ↓reduceIte]
    | cons first rest =>
        rw [times] at full'
        cases seconds : Clock.wholeSeconds first limits.window now <;>
          simp only [ask, verdictOn, counted, times, full', seconds, ↓reduceIte]
  · have room := Nat.lt_of_not_le full
    simp only [counted] at full
    by_cases due : l.cleanupDue
    · refine .inr (.inr ⟨room, due, ?_⟩)
      simp only [cleanupDue] at due
      simp only [ask, full, ↓reduceIte, due]
      exact ⟨_, rfl⟩
    · refine .inr (.inl ⟨room, due, ?_⟩)
      simp only [cleanupDue] at due
      simp only [ask, full, ↓reduceIte, due]
      rfl

theorem ask_verdict (limits : Limits) (client : String) (now : τ) (l : Limiter τ) :
    (l.ask limits client now).verdict = verdictOn limits (l.counted limits client now) now := by
  rcases ask_cases limits client now l with ⟨_, asked⟩ | ⟨room, _, asked⟩ | ⟨room, _, _, asked⟩
  · rw [asked]
  · simp only [asked, verdictOn, Nat.not_le.mpr room, ↓reduceIte]
  · simp only [asked, verdictOn, Nat.not_le.mpr room, ↓reduceIte]

theorem verdictOn_eq_admitted_iff (limits : Limits) (counted : List τ) (now : τ) :
    verdictOn limits counted now = .admitted ↔ counted.length < limits.requests := by
  by_cases full : limits.requests ≤ counted.length
  · simp only [verdictOn, full, ↓reduceIte, Nat.not_lt.mpr full, iff_false]
    cases counted with
    | nil => simp
    | cons first rest =>
        cases reading : Clock.wholeSeconds first limits.window now <;> simp [reading]
  · simp [verdictOn, full, Nat.lt_of_not_le full]

theorem room_of_admitted {limits : Limits} {client : String} {now : τ} {l : Limiter τ}
    (admitted : (l.ask limits client now).verdict = .admitted) :
    (l.counted limits client now).length < limits.requests := by
  rw [ask_verdict] at admitted
  exact (verdictOn_eq_admitted_iff ..).mp admitted

/-- Where the limit is not nothing, a request is recorded or refused, unless the seconds of its
refusal cannot be counted. -/
theorem ask_recorded_or_refused {limits : Limits} (allows : 1 ≤ limits.requests) (client : String)
    (now : τ) (l : Limiter τ) :
    ((l.ask limits client now).verdict = .admitted ∧
        (l.ask limits client now).limiter.recorded = l.recorded + 1) ∨
      (∃ held seconds, (l.ask limits client now).verdict = .refused held seconds) ∨
      ∃ fault, (l.ask limits client now).verdict = .uncountable fault := by
  rcases ask_cases limits client now l with ⟨full, asked⟩ | ⟨_, _, asked⟩ | ⟨_, _, _, asked⟩
  · rw [asked]
    simp only [verdictOn, full, ↓reduceIte]
    cases times : l.counted limits client now with
    | nil =>
        rw [times, List.length_nil] at full
        omega
    | cons first rest =>
        dsimp only
        cases Clock.wholeSeconds first limits.window now with
        | ok seconds => exact .inr (.inl ⟨_, _, rfl⟩)
        | error fault => exact .inr (.inr ⟨fault, rfl⟩)
  · rw [asked]
    exact .inl ⟨rfl, rfl⟩
  · rw [asked]
    exact .inl ⟨rfl, rfl⟩

theorem verdict_ne_uncountable {limits : Limits} {now : τ}
    (countable : ∀ first, ∃ seconds, Clock.wholeSeconds first limits.window now = .ok seconds)
    (client : String) (l : Limiter τ) (fault : ClockFault) :
    (l.ask limits client now).verdict ≠ .uncountable fault := by
  rw [ask_verdict]
  unfold verdictOn
  split
  · split
    · nofun
    · rename_i first _ _
      obtain ⟨seconds, counted⟩ := countable first
      rw [counted]
      nofun
  · nofun

/-- An admission is counted once, and its time goes last among the client's. The client is not
forgotten with it, as long as the present is not before its own window. -/
theorem ask_admitted {limits : Limits} {client : String} {now : τ} {l : Limiter τ}
    (admitted : (l.ask limits client now).verdict = .admitted) :
    (l.ask limits client now).limiter.recorded = l.recorded + 1 ∧
      (l.Unique → Clock.earlier now (Clock.windowStart now limits.window) = false →
        (l.ask limits client now).limiter.times client = l.counted limits client now ++ [now]) := by
  have put : (l.recording limits client now).times client = l.counted limits client now ++
      [now] := by
    calc (l.recording limits client now).times client
        = (l.withTimes client (l.counted limits client now ++ [now])).times client := rfl
      _ = l.counted limits client now ++ [now] := by simp
  rcases ask_cases limits client now l with ⟨full, asked⟩ | ⟨_, _, asked⟩ | ⟨_, _, _, asked⟩
  · rw [asked] at admitted
    have room := (verdictOn_eq_admitted_iff limits _ now).mp admitted
    exact absurd full (Nat.not_le.mpr room)
  · rw [asked]
    exact ⟨rfl, fun _ _ => put⟩
  · rw [asked]
    refine ⟨rfl, fun unique current => ?_⟩
    have kept : (l.recording limits client now).Unique :=
      unique.withTimes client (l.counted limits client now ++ [now])
    have active : isInactive (Clock.windowStart now limits.window)
        (l.counted limits client now ++ [now]) = false := by
      simp only [isInactive, List.getLast?_concat, current]
    dsimp only
    rw [times_cleanUp kept, put, active]
    simp

end Asking

end PageServer.Limiter
