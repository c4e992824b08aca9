import PageServer.Proofs.Limiter.Times
import Mathlib.Algebra.Order.Ring.Rat
import Mathlib.Tactic.Linarith
/-! Windows on an exact clock that never steps back. The times kept for a client are in order and
none is ahead of the clock, so what is dropped at the start of one window lies before every later
one, and a client forgotten had nothing that a later window would show. -/
namespace PageServer.Limiter

/-! Windows -/

section Windows

theorem mem_recent (start t : Rat) (times : List Rat) :
    t ∈ recent start times ↔ t ∈ times ∧ start < t := by
  simp [recent, Clock.earlier]

theorem recent_append (start : Rat) (times more : List Rat) :
    recent start (times ++ more) = recent start times ++ recent start more :=
  List.filter_append ..

theorem recent_recent {start later : Rat} (follows : start ≤ later) (times : List Rat) :
    recent later (recent start times) = recent later times := by
  simp only [recent, List.filter_filter]
  apply List.filter_congr
  intro t _
  by_cases inside : later < t
  · simp [Clock.earlier, inside, lt_of_le_of_lt follows inside]
  · simp [Clock.earlier, inside]

-- The last time is the latest, so if it lies before the window then all do. It may also lie
-- exactly at the start: such a client is kept for now, though nothing of it counts any more.
theorem recent_of_inactive {start later : Rat} {times : List Rat}
    (ordered : times.Pairwise (· ≤ ·)) (inactive : isInactive start times = true)
    (follows : start ≤ later) : recent later times = [] := by
  rcases List.eq_nil_or_concat times with rfl | ⟨front, last, rfl⟩
  · rfl
  · rw [List.concat_eq_append] at ordered inactive ⊢
    simp only [isInactive, List.getLast?_append, List.getLast?_singleton, Option.some_or,
      Clock.earlier, decide_eq_true_eq] at inactive
    apply List.filter_eq_nil_iff.mpr
    intro t member
    have latest : t ≤ last := by
      rcases List.mem_append.mp member with early | same
      · exact (List.pairwise_append.mp ordered).2.2 t early last (List.mem_singleton_self last)
      · exact le_of_eq (List.mem_singleton.mp same)
    simp only [Clock.earlier, decide_eq_true_eq, not_lt]
    linarith

end Windows

/-! Clocks that never step back -/

section Order

/-- Some moment lies before all times of a list and before another moment. -/
theorem exists_before (times : List Rat) (moment : Rat) :
    ∃ first, first ≤ moment ∧ ∀ t ∈ times, first ≤ t := by
  induction times with
  | nil => exact ⟨moment, le_rfl, by simp⟩
  | cons time rest ih =>
      obtain ⟨first, before, follow⟩ := ih
      refine ⟨min first time, le_trans (min_le_left _ _) before, fun t member => ?_⟩
      rcases List.mem_cons.mp member with rfl | later
      · exact min_le_right _ _
      · exact le_trans (min_le_left _ _) (follow t later)

/-- The state of a limiter that was last asked at a moment or before: names are unique, times are in
order, and none is ahead. -/
structure Orderly (now : Rat) (l : Limiter Rat) : Prop where
  unique : l.Unique
  ordered : ∀ client, (l.times client).Pairwise (· ≤ ·)
  past : ∀ client, ∀ t ∈ l.times client, t ≤ now

variable {now later : Rat} {l : Limiter Rat}

theorem orderly_empty (now : Rat) : Orderly now {} where
  unique := List.nodup_nil
  ordered := fun _ => List.Pairwise.nil
  past := fun _ _ member => absurd member List.not_mem_nil

theorem Orderly.mono (orderly : Orderly now l) (follows : now ≤ later) : Orderly later l where
  unique := orderly.unique
  ordered := orderly.ordered
  past := fun client t member => le_trans (orderly.past client t member) follows

theorem Orderly.withTimes (orderly : Orderly now l) (client : String) {times : List Rat}
    (ordered : times.Pairwise (· ≤ ·)) (past : ∀ t ∈ times, t ≤ now) :
    Orderly now (l.withTimes client times) where
  unique := orderly.unique.withTimes client times
  ordered := fun other => by
    rw [times_withTimes]
    split
    · exact ordered
    · exact orderly.ordered other
  past := fun other t member => by
    rw [times_withTimes] at member
    split at member
    · exact past t member
    · exact orderly.past other t member

theorem Orderly.cleanUp (orderly : Orderly now l) (start : Rat) :
    Orderly now (l.cleanUp start) where
  unique := orderly.unique.cleanUp start
  ordered := fun client => by
    rw [times_cleanUp orderly.unique]
    split
    · exact List.Pairwise.nil
    · exact orderly.ordered client
  past := fun client t member => by
    rw [times_cleanUp orderly.unique] at member
    split at member
    · exact absurd member List.not_mem_nil
    · exact orderly.past client t member

theorem Orderly.counted (orderly : Orderly now l) (limits : Limits) (client : String)
    (moment : Rat) : (l.counted limits client moment).Pairwise (· ≤ ·) ∧
      ∀ t ∈ l.counted limits client moment, t ≤ now :=
  ⟨(orderly.ordered client).filter _,
    fun t member => orderly.past client t (List.mem_filter.mp member).1⟩

theorem Orderly.recording (orderly : Orderly now l) (limits : Limits) (client : String) :
    Orderly now (l.recording limits client now) := by
  obtain ⟨ordered, past⟩ := orderly.counted limits client now
  have appended : (l.counted limits client now ++ [now]).Pairwise (· ≤ ·) := by
    refine List.pairwise_append.mpr
      ⟨ordered, List.pairwise_singleton _ _, fun t member other same => ?_⟩
    rw [List.mem_singleton.mp same]
    exact past t member
  have kept := orderly.withTimes client appended fun t member => by
    rcases List.mem_append.mp member with early | same
    · exact past t early
    · exact le_of_eq (List.mem_singleton.mp same)
  exact ⟨kept.unique, kept.ordered, kept.past⟩

theorem Orderly.ask (orderly : Orderly now l) (follows : now ≤ later) (limits : Limits)
    (client : String) : Orderly later (l.ask limits client later).limiter := by
  have current := orderly.mono follows
  rcases ask_cases limits client later l with ⟨_, asked⟩ | ⟨_, _, asked⟩ | ⟨_, _, _, asked⟩
  · obtain ⟨ordered, past⟩ := current.counted limits client later
    rw [asked]
    exact current.withTimes client ordered past
  · rw [asked]
    exact current.recording limits client
  · rw [asked]
    exact (current.recording limits client).cleanUp _

theorem Orderly.recent_cleanUp (orderly : Orderly now l) {start moment : Rat}
    (follows : start ≤ moment) (client : String) :
    recent moment ((l.cleanUp start).times client) = recent moment (l.times client) := by
  -- A client is forgotten only if its latest time, and so all of them, is before the window.
  rw [times_cleanUp orderly.unique]
  split
  · next inactive => rw [recent_of_inactive (orderly.ordered client) inactive follows]; rfl
  · rfl

end Order

/-! What later windows show -/

section Shows

/-- From a moment on, every window shows the same of what is kept for a client as of some times. -/
def Shows (limits : Limits) (now : Rat) (l : Limiter Rat) (client : String) (times : List Rat) :
    Prop :=
  ∀ start, now - limits.window ≤ start → recent start (l.times client) = recent start times

/-- What an answer adds to the times at which a client was admitted. -/
def admission (limits : Limits) (counted : List Rat) (now : Rat) : List Rat :=
  if counted.length < limits.requests then [now] else []

variable {limits : Limits} {now later : Rat} {l : Limiter Rat} {client : String} {times : List Rat}

theorem Shows.mono (shown : Shows limits now l client times) (follows : now ≤ later) :
    Shows limits later l client times :=
  fun start inside => shown start (by linarith)

theorem Shows.counted (shown : Shows limits now l client times) :
    l.counted limits client now = recent (now - limits.window) times :=
  shown _ le_rfl

theorem Shows.cleanUp (shown : Shows limits now l client times) (orderly : Orderly later l) :
    Shows limits now (l.cleanUp (now - limits.window)) client times := by
  intro start inside
  rw [orderly.recent_cleanUp inside, shown start inside]

theorem Shows.recording_of_ne (shown : Shows limits now l client times) {other : String}
    (differ : client ≠ other) : Shows limits now (l.recording limits other now) client times := by
  intro start inside
  have kept : (l.recording limits other now).times client = l.times client :=
    (times_withTimes l other client _).trans (if_neg differ)
  rw [kept, shown start inside]

/-- Asking for one client changes nothing that later windows show of the others. -/
theorem Shows.ask_of_ne (shown : Shows limits now l client times) (orderly : Orderly now l)
    {other : String} (differ : client ≠ other) :
    Shows limits now (l.ask limits other now).limiter client times := by
  rcases ask_cases limits other now l with ⟨_, asked⟩ | ⟨_, _, asked⟩ | ⟨_, _, _, asked⟩
  · rw [asked]
    intro start inside
    rw [times_withTimes, if_neg differ, shown start inside]
  · rw [asked]
    exact shown.recording_of_ne differ
  · rw [asked]
    exact (shown.recording_of_ne differ).cleanUp (orderly.recording limits other)

/-- Of a client that asks, later windows show its times and, if it is admitted, one more. -/
theorem Shows.ask (shown : Shows limits now l client times) (orderly : Orderly now l) :
    Shows limits now (l.ask limits client now).limiter client
      (times ++ admission limits (recent (now - limits.window) times) now) := by
  have counted := shown.counted
  have recorded (room : (l.counted limits client now).length < limits.requests) :
      Shows limits now (l.recording limits client now) client
        (times ++ admission limits (recent (now - limits.window) times) now) := by
    intro start inside
    have kept : (l.recording limits client now).times client =
        l.counted limits client now ++ [now] :=
      (times_withTimes l client client _).trans (if_pos rfl)
    rw [counted] at room
    rw [kept, counted, admission, if_pos room, recent_append, recent_append,
      recent_recent inside]
  rcases ask_cases limits client now l with ⟨full, asked⟩ | ⟨room, _, asked⟩ | ⟨room, _, _, asked⟩
  · rw [asked]
    intro start inside
    rw [counted] at full
    rw [times_withTimes, if_pos rfl, counted, admission, if_neg (Nat.not_lt.mpr full),
      List.append_nil, recent_recent inside]
  · rw [asked]
    exact recorded room
  · rw [asked]
    exact (recorded room).cleanUp (orderly.recording limits client)

end Shows

end PageServer.Limiter
