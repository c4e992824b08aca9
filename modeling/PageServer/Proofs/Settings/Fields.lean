import PageServer.Settings.Basic
/-! Fields. What a field keeps of a value is the value converted and normalised; a value that it
does not accept leaves everything as it is, and no field touches another one. -/
namespace PageServer.Settings.Field

/-- What settings keep in a field. -/
def slot (s : Settings) : Field → Value
  | templatesDir => .text s.templatesDir
  | templateSuffix => .text s.templateSuffix
  | corsOrigins => .text s.corsOrigins
  | backendHost => .text s.backendHost
  | backendPort => .number (.whole s.backendPort)
  | logLevel => .text s.logLevel.name
  | rateLimitRequests => .number (.whole s.rateLimitRequests)
  | rateLimitWindow => .number (.whole s.rateLimitWindow)

/-- A value is taken for an integer within limits, which is kept. -/
def Counts (least most : Int) (given kept : Value) : Prop :=
  ∃ n, integerOfValue given = .ok n ∧ least ≤ n ∧ n ≤ most ∧ kept = .number (.whole n)

/-- A field keeps this of a value: a text as it is; a suffix with a dot in front, unless it is empty
or has one; a whole number within the field's limits; a level by its name in capital letters. -/
def Converts (given kept : Value) : Field → Prop
  | templatesDir | corsOrigins | backendHost => ∃ s, given = .text s ∧ kept = .text s
  | templateSuffix => ∃ s, given = .text s ∧
      if s = "" ∨ s.toList.head? = some '.' then kept = .text s else kept = .text ("." ++ s)
  | backendPort => Counts 1024 65535 given kept
  | rateLimitRequests => Counts 1 100000 given kept
  | rateLimitWindow => Counts 1 86400 given kept
  | logLevel => ∃ s, ∃ level ∈ LogLevel.all, given = .text s ∧
      s.toList.map LogLevel.capital = level.name.toList ∧ kept = .text level.name

def Accepts (f : Field) (given : Value) : Prop :=
  ∃ kept, f.Converts given kept

/-! Reading values -/

section Reading

variable {v : Value}

theorem textOfValue_eq_ok_iff {s : String} : textOfValue v = .ok s ↔ v = .text s := by
  cases v <;> simp [textOfValue]

theorem levelOfText_eq_some_iff {s : String} {level : LogLevel} :
    LogLevel.ofText? s = some level ↔ s.toList.map LogLevel.capital = level.name.toList := by
  have named (name : String) : LogLevel.ofName? name = some level ↔ name = level.name := by
    constructor
    · intro found
      have same := List.find?_some found
      exact (beq_iff_eq.mp same).symm
    · rintro rfl
      exact LogLevel.ofName?_name level
  rw [LogLevel.ofText?, named, ← String.toList_inj, String.toList_ofList]

theorem levelOfValue_eq_ok_iff {level : LogLevel} : levelOfValue v = .ok level ↔
    ∃ s, v = .text s ∧ s.toList.map LogLevel.capital = level.name.toList := by
  simp only [← textOfValue_eq_ok_iff, ← levelOfText_eq_some_iff, levelOfValue]
  cases textOfValue v with
  | error c => simp [bind, Except.bind]
  | ok s =>
      simp only [bind, Except.bind, Except.ok.injEq, exists_eq_left']
      cases LogLevel.ofText? s <;> simp

theorem countOfValue_eq_ok_iff {least most m : Nat} : countOfValue least most v = .ok m ↔
    ∃ n, integerOfValue v = .ok n ∧ (least : Int) ≤ n ∧ n ≤ most ∧ m = n.toNat := by
  simp only [countOfValue, bind, Except.bind, pure, Except.pure]
  cases integerOfValue v with
  | error c => simp
  | ok n =>
      simp only [Except.ok.injEq, exists_eq_left']
      have limits (k : Int) := checkLimits_eq_ok_iff least most n k
      cases checked : checkLimits least most n with
      | error c =>
          simp only [checked, reduceCtorEq, false_iff] at limits ⊢
          rintro ⟨reached, below, _⟩
          exact limits n ⟨rfl, reached, below⟩
      | ok k =>
          obtain ⟨rfl, reached, below⟩ := (limits k).mp checked
          simp [reached, below, eq_comm]

end Reading

/-! Storing values -/

section Storing

/-- A field refuses a value with a complaint, whatever settings keep. -/
def Refuses (f : Field) (v : Value) (c : Complaint) : Prop :=
  ∀ s, f.store v s = .error c

/-- A field either refuses a value or keeps it converted, and then all other fields keep what they
had. -/
def Decided (f : Field) (v : Value) : Prop :=
  (¬ f.Accepts v ∧ ∃ c, f.Refuses v c) ∨
    ∃ put : Settings → Settings, ∀ s, f.store v s = .ok (put s) ∧
      f.Converts v (f.slot (put s)) ∧ ∀ g, g ≠ f → g.slot (put s) = g.slot s

theorem decided_of_read {α : Type} {f : Field} {v : Value} (read : Except Complaint α)
    (put : α → Settings → Settings)
    (stores : ∀ s, f.store v s = read.map fun x => put x s)
    (accepted : f.Accepts v → ∃ x, read = .ok x)
    (keeps : ∀ x, read = .ok x → ∀ s, f.Converts v (f.slot (put x s)))
    (frame : ∀ x s g, g ≠ f → g.slot (put x s) = g.slot s) : f.Decided v := by
  cases reading : read with
  | error c =>
      rw [reading] at stores accepted
      refine .inl ⟨fun accepts => ?_, c, stores⟩
      obtain ⟨x, read⟩ := accepted accepts
      cases read
  | ok x =>
      rw [reading] at stores
      exact .inr ⟨put x, fun s => ⟨stores s, keeps x reading s, frame x s⟩⟩

theorem count_of_accepted {least most : Nat} {v : Value}
    (accepts : ∃ kept, Counts least most v kept) :
    ∃ m, countOfValue least most v = .ok m := by
  obtain ⟨_, n, read, reached, below, _⟩ := accepts
  exact ⟨n.toNat, countOfValue_eq_ok_iff.mpr ⟨n, read, reached, below, rfl⟩⟩

theorem counts_of_count {least most m : Nat} {v : Value}
    (read : countOfValue least most v = .ok m) :
    Counts least most v (.number (.whole m)) := by
  obtain ⟨n, whole, reached, below, rfl⟩ := countOfValue_eq_ok_iff.mp read
  have same : (n.toNat : Int) = n :=
    Int.toNat_of_nonneg (Int.le_trans (Int.natCast_nonneg _) reached)
  exact ⟨n, whole, reached, below, by rw [same]⟩

theorem text_of_accepted {v : Value} (accepts : ∃ kept s, v = .text s ∧ kept = Value.text s) :
    ∃ s, textOfValue v = .ok s := by
  obtain ⟨_, s, rfl, _⟩ := accepts
  exact ⟨s, rfl⟩

theorem keeps_text {v : Value} {s : String} (read : textOfValue v = .ok s) :
    ∃ s', v = .text s' ∧ Value.text s = .text s' :=
  ⟨s, textOfValue_eq_ok_iff.mp read, rfl⟩

theorem dotted_cases (s : String) :
    if s = "" ∨ s.toList.head? = some '.' then Value.text (dotted s) = .text s
      else Value.text (dotted s) = .text ("." ++ s) := by
  have same : (s.toList.isEmpty || s.toList.head? == some '.') = true ↔
      s = "" ∨ s.toList.head? = some '.' := by
    rw [Bool.or_eq_true, List.isEmpty_iff, String.toList_eq_nil_iff, beq_iff_eq]
  unfold dotted
  by_cases plain : s = "" ∨ s.toList.head? = some '.'
  · rw [if_pos plain, if_pos (same.mpr plain)]
  · rw [if_neg plain, if_neg (plain ∘ same.mp)]

theorem decided (f : Field) (v : Value) : f.Decided v := by
  cases f with
  | templatesDir =>
      refine decided_of_read (textOfValue v) (fun x s => { s with templatesDir := x })
        (fun _ => rfl) text_of_accepted (fun x read s => keeps_text read) ?_
      intro x s g other
      cases g <;> first | rfl | exact absurd rfl other
  | corsOrigins =>
      refine decided_of_read (textOfValue v) (fun x s => { s with corsOrigins := x })
        (fun _ => rfl) text_of_accepted (fun x read s => keeps_text read) ?_
      intro x s g other
      cases g <;> first | rfl | exact absurd rfl other
  | backendHost =>
      refine decided_of_read (textOfValue v) (fun x s => { s with backendHost := x })
        (fun _ => rfl) text_of_accepted (fun x read s => keeps_text read) ?_
      intro x s g other
      cases g <;> first | rfl | exact absurd rfl other
  | templateSuffix =>
      refine decided_of_read (textOfValue v) (fun x s => { s with templateSuffix := dotted x })
        (fun _ => rfl) ?_ (fun x read s => ⟨x, textOfValue_eq_ok_iff.mp read, dotted_cases x⟩) ?_
      · rintro ⟨_, s, rfl, _⟩
        exact ⟨s, rfl⟩
      · intro x s g other
        cases g <;> first | rfl | exact absurd rfl other
  | backendPort =>
      refine decided_of_read (countOfValue 1024 65535 v) (fun x s => { s with backendPort := x })
        (fun _ => rfl) count_of_accepted (fun x read s => counts_of_count read) ?_
      intro x s g other
      cases g <;> first | rfl | exact absurd rfl other
  | rateLimitRequests =>
      refine decided_of_read (countOfValue 1 100000 v)
        (fun x s => { s with rateLimitRequests := x })
        (fun _ => rfl) count_of_accepted (fun x read s => counts_of_count read) ?_
      intro x s g other
      cases g <;> first | rfl | exact absurd rfl other
  | rateLimitWindow =>
      refine decided_of_read (countOfValue 1 86400 v) (fun x s => { s with rateLimitWindow := x })
        (fun _ => rfl) count_of_accepted (fun x read s => counts_of_count read) ?_
      intro x s g other
      cases g <;> first | rfl | exact absurd rfl other
  | logLevel =>
      refine decided_of_read (levelOfValue v) (fun x s => { s with logLevel := x })
        (fun _ => rfl) ?_ ?_ ?_
      · rintro ⟨_, s, level, _, text, capitals, _⟩
        exact ⟨level, levelOfValue_eq_ok_iff.mpr ⟨s, text, capitals⟩⟩
      · intro level read s
        obtain ⟨text, given, capitals⟩ := levelOfValue_eq_ok_iff.mp read
        exact ⟨text, level, by cases level <;> decide, given, capitals, rfl⟩
      · intro x s g other
        cases g <;> first | rfl | exact absurd rfl other

theorem not_accepts_iff (f : Field) (v : Value) : ¬ f.Accepts v ↔ ∃ c, f.Refuses v c := by
  rcases f.decided v with ⟨refused, complaint⟩ | ⟨put, stores⟩
  · exact iff_of_true refused complaint
  · refine iff_of_false (fun refused => refused ⟨_, (stores {}).2.1⟩) ?_
    rintro ⟨c, refuses⟩
    have kept := refuses {}
    rw [(stores {}).1] at kept
    cases kept

/-- Every default passes the check of its own field. -/
theorem converts_default (f : Field) : f.Converts (f.slot {}) (f.slot {}) := by
  cases f with
  | templatesDir | corsOrigins | backendHost => exact ⟨_, rfl, rfl⟩
  | templateSuffix => exact ⟨".html", rfl, by rw [if_pos (by decide)]; rfl⟩
  | backendPort => exact ⟨8080, rfl, by decide, by decide, rfl⟩
  | rateLimitRequests => exact ⟨300, rfl, by decide, by decide, rfl⟩
  | rateLimitWindow => exact ⟨60, rfl, by decide, by decide, rfl⟩
  | logLevel => exact ⟨"INFO", .info, by decide, rfl, by decide, rfl⟩

theorem Counts.unique {least most : Int} {v kept kept' : Value} (first : Counts least most v kept)
    (second : Counts least most v kept') : kept = kept' := by
  obtain ⟨n, read, _, _, rfl⟩ := first
  obtain ⟨n', read', _, _, rfl⟩ := second
  rw [read] at read'
  cases read'
  rfl

theorem converts_unique {f : Field} {v kept kept' : Value} (first : f.Converts v kept)
    (second : f.Converts v kept') : kept = kept' := by
  cases f with
  | templatesDir | corsOrigins | backendHost =>
      obtain ⟨s, rfl, rfl⟩ := first
      obtain ⟨_, same, rfl⟩ := second
      exact same
  | templateSuffix =>
      obtain ⟨s, rfl, kept⟩ := first
      obtain ⟨_, same, kept'⟩ := second
      cases same
      split at kept <;> simp_all
  | backendPort | rateLimitRequests | rateLimitWindow => exact Counts.unique first second
  | logLevel =>
      obtain ⟨s, level, _, rfl, capitals, rfl⟩ := first
      obtain ⟨_, level', _, same, capitals', rfl⟩ := second
      cases same
      rw [capitals, String.toList_inj] at capitals'
      rw [capitals']

end Storing

end PageServer.Settings.Field
