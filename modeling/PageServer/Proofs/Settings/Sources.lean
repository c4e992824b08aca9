import PageServer.Proofs.Settings.Assignments
import PageServer.Proofs.Settings.Fields
/-! Which value decides a field: that of the first source that names the field. And which names of
the arguments and of the file are left over, as they belong to no field. -/
namespace PageServer.Settings

theorem eq_none_of_some_iff {α : Type} {found : Option α} {gives : α → Prop}
    (spec : ∀ x, found = some x ↔ gives x) (silent : ∀ x, ¬ gives x) : found = none := by
  rw [Option.eq_none_iff_forall_ne_some]
  intro x same
  exact silent x ((spec x).mp same)

namespace Sources

variable (s : Sources) (f : Field)

/-! Sources -/

def environmentAssignments : List (String × Option String) :=
  s.environment.map fun (name, value) => (name, some value)

/-- The file's assignments with the references in their values replaced. -/
def fileAssignments : List (String × Option String) :=
  let outer (name : List Char) : Option (List Char) :=
    (s.environment.reverse.find? (·.1.toList == name)).map (·.2.toList)
  (EnvFile.expandAll outer [] s.file).map fun b => (String.ofList b.name, b.value.map String.ofList)

theorem environmentValues_eq :
    s.environmentValues = normalized s.options (latest s.environmentAssignments) := by
  have named := map_latest Function.injective_id some s.environment
  unfold environmentValues environmentAssignments
  exact congrArg (normalized s.options) named

theorem fileValues_eq : s.fileValues = normalized s.options (latest s.fileAssignments) := by
  have injective : Function.Injective String.ofList := fun _ _ => String.ofList_inj.mp
  unfold fileValues fileAssignments
  dsimp only
  generalize EnvFile.expandAll _ _ _ = bindings
  have named := map_latest injective (Option.map String.ofList)
    (bindings.map fun b => (b.name, b.value))
  rw [List.map_map] at named
  exact congrArg (normalized s.options) named

/-- The first argument that names a field. -/
def Argues (v : Value) : Prop :=
  ∃ front name back, s.arguments = front ++ (name, v) :: back ∧ s.options.normal name = f.name ∧
    ∀ e ∈ front, s.options.normal e.1 ≠ f.name

theorem argument?_eq_some_iff (v : Value) : s.argument? f = some v ↔ s.Argues f v := by
  unfold argument? Argues
  rw [Option.map_eq_some_iff]
  constructor
  · rintro ⟨⟨name, _⟩, found, rfl⟩
    obtain ⟨same, front, back, split, before⟩ := List.find?_eq_some_iff_append.mp found
    exact ⟨front, name, back, split, beq_iff_eq.mp same, fun e member => by
      simpa using before e member⟩
  · rintro ⟨front, name, back, split, same, before⟩
    refine ⟨(name, v), List.find?_eq_some_iff_append.mpr ?_, rfl⟩
    exact ⟨beq_iff_eq.mpr same, front, back, split, fun e member => by simpa using before e member⟩

def Sets (text : String) : Prop :=
  Gives s.options s.environmentAssignments (s.options.outerName f) (some text)

def Writes (text : String) : Prop :=
  Gives s.options s.fileAssignments (s.options.outerName f) (some text)

theorem sets_iff (text : String) :
    (s.environmentValues.lookup (s.options.outerName f)).join = some text ↔ s.Sets f text := by
  rw [environmentValues_eq, Option.join_eq_some_iff, lookup_normalized_iff, Sets]

theorem writes_iff (text : String) :
    (s.fileValues.lookup (s.options.outerName f)).join = some text ↔ s.Writes f text := by
  rw [fileValues_eq, Option.join_eq_some_iff, lookup_normalized_iff, Writes]

/-- The value that decides a field: that of the first argument that names it, or else what the
environment gives, or else what the file gives, or else the default. -/
inductive Decides : Value → Prop
  | argument {v : Value} (argued : s.Argues f v) : Decides v
  | environment {text : String} (unargued : ∀ v, ¬ s.Argues f v) (set : s.Sets f text) :
      Decides (valueOfText s.options text)
  | file {text : String} (unargued : ∀ v, ¬ s.Argues f v) (unset : ∀ text, ¬ s.Sets f text)
      (written : s.Writes f text) : Decides (valueOfText s.options text)
  | default (unargued : ∀ v, ¬ s.Argues f v) (unset : ∀ text, ¬ s.Sets f text)
      (unwritten : ∀ text, ¬ s.Writes f text) : Decides (f.slot {})

theorem winner?_of_decides {v : Value} (decides : s.Decides f v) :
    (s.winner? f).getD (f.slot {}) = v := by
  have no_argument := eq_none_of_some_iff (s.argument?_eq_some_iff f)
  have no_setting := eq_none_of_some_iff (s.sets_iff f)
  have no_writing := eq_none_of_some_iff (s.writes_iff f)
  cases decides with
  | argument argued =>
      simp only [winner?, (s.argument?_eq_some_iff f v).mpr argued]
      rfl
  | environment unargued set =>
      simp only [winner?, no_argument unargued, (s.sets_iff f _).mpr set]
      rfl
  | file unargued unset written =>
      simp only [winner?, no_argument unargued, no_setting unset, (s.writes_iff f _).mpr written]
      rfl
  | default unargued unset unwritten =>
      simp only [winner?, no_argument unargued, no_setting unset, no_writing unwritten]
      rfl

theorem decides_winner? : s.Decides f ((s.winner? f).getD (f.slot {})) := by
  have settled {v : Value} (decides : s.Decides f v) :
      s.Decides f ((s.winner? f).getD (f.slot {})) := by
    rw [s.winner?_of_decides f decides]
    exact decides
  by_cases argued : ∃ v, s.Argues f v
  · obtain ⟨v, argued⟩ := argued
    exact settled (.argument argued)
  have unargued : ∀ v, ¬ s.Argues f v := fun v argues => argued ⟨v, argues⟩
  by_cases set : ∃ text, s.Sets f text
  · obtain ⟨text, set⟩ := set
    exact settled (.environment unargued set)
  have unset : ∀ text, ¬ s.Sets f text := fun text sets => set ⟨text, sets⟩
  by_cases written : ∃ text, s.Writes f text
  · obtain ⟨text, written⟩ := written
    exact settled (.file unargued unset written)
  have unwritten : ∀ text, ¬ s.Writes f text := fun text writes => written ⟨text, writes⟩
  exact settled (.default unargued unset unwritten)

theorem decides_iff (v : Value) : s.Decides f v ↔ (s.winner? f).getD (f.slot {}) = v := by
  constructor
  · exact s.winner?_of_decides f
  · rintro rfl
    exact s.decides_winner? f

theorem decides_unique {v w : Value} (first : s.Decides f v) (second : s.Decides f w) : v = w :=
  ((s.decides_iff f v).mp first).symm.trans ((s.decides_iff f w).mp second)

/-! Names left over -/

/-- A name in the file is accounted for: it is a field's name there, or its bare name. -/
def Known (name : String) : Prop :=
  ∃ f : Field, name = s.options.outerName f ∨
    s.options.fieldPrefix ≠ "" ∧ name = f.name

/-- A name belongs to no field: the file gives it a value other than the empty text, or an argument
has it. -/
inductive Strays (name : String) : Prop
  | file {text : String} (unknown : ¬ s.Known name)
      (written : Gives s.options s.fileAssignments name (some text)) (filled : text ≠ "")
  | argument (unknown : ∀ f : Field, s.options.normal name ≠ f.name)
      (argued : name ∈ s.arguments.map Prod.fst)

theorem isKnown_iff (name : String) : isKnown s.options name = true ↔ s.Known name := by
  simp only [isKnown, List.any_eq_true, Bool.or_eq_true, Bool.and_eq_true, beq_iff_eq, Known,
    decide_eq_true_eq]
  constructor
  · rintro ⟨f, _, known⟩
    exact ⟨f, known⟩
  · rintro ⟨f, known⟩
    exact ⟨f, Field.mem_all f, known⟩

theorem ofName?_isNone_iff (name : String) :
    (Field.ofName? name).isNone = true ↔ ∀ f : Field, name ≠ f.name := by
  rw [Option.isNone_iff_eq_none, Field.ofName?, List.find?_eq_none]
  constructor
  · intro none_has f same
    exact none_has f (Field.mem_all f) (beq_iff_eq.mpr same.symm)
  · intro unknown f _ same
    exact unknown f (beq_iff_eq.mp same).symm

/-- The names left over in the file. -/
def fileStrays : List String :=
  ((s.fileValues.filter fun e => !isKnown s.options e.1).filter fun e =>
    !e.2.all (· == "")).map Prod.fst

theorem unknownNames_eq : s.unknownNames = s.fileStrays ++
    (s.arguments.map Prod.fst).filter fun name =>
      (Field.ofName? (s.options.normal name)).isNone && !s.fileStrays.contains name := by
  have kept (entries : List (String × Option String)) :
      (entries.filterMap fun e =>
          if isKnown s.options e.1 || e.2.all (· == "") then none else some e.1) =
        ((entries.filter fun e => !isKnown s.options e.1).filter fun e =>
          !e.2.all (· == "")).map Prod.fst := by
    induction entries with
    | nil => rfl
    | cons e rest ih =>
        cases known : isKnown s.options e.1 <;> cases empty : e.2.all (· == "") <;>
          simp only [List.filterMap_cons, List.filter_cons, List.map_cons, known, empty, ih,
            Bool.or_false, Bool.or_true, Bool.not_false, Bool.not_true, Bool.false_eq_true,
            ↓reduceIte]
  unfold unknownNames fileStrays
  simp only [kept]

theorem mem_fileStrays_iff (name : String) : name ∈ s.fileStrays ↔
    ¬ s.Known name ∧ ∃ text, text ≠ "" ∧ Gives s.options s.fileAssignments name (some text) := by
  simp only [fileStrays, List.mem_map, List.mem_filter, Bool.not_eq_true', ← s.isKnown_iff,
    ← mem_normalized_iff, ← s.fileValues_eq]
  constructor
  · rintro ⟨⟨_, value⟩, ⟨⟨member, unknown⟩, filled⟩, rfl⟩
    cases value with
    | none => cases filled
    | some text => exact ⟨by simp [unknown], text, by simpa using filled, member⟩
  · rintro ⟨unknown, text, filled, member⟩
    exact ⟨(name, some text), ⟨⟨member, by simpa using unknown⟩, by simpa using filled⟩, rfl⟩

theorem mem_unknownNames_iff (name : String) : name ∈ s.unknownNames ↔ s.Strays name := by
  rw [unknownNames_eq, List.mem_append, List.mem_filter, Bool.and_eq_true, ofName?_isNone_iff]
  constructor
  · rintro (left | ⟨argued, unknown, _⟩)
    · obtain ⟨unknown, text, filled, written⟩ := (s.mem_fileStrays_iff name).mp left
      exact .file unknown written filled
    · exact .argument unknown argued
  · rintro (⟨unknown, written, filled⟩ | ⟨unknown, argued⟩)
    · exact .inl ((s.mem_fileStrays_iff name).mpr ⟨unknown, _, filled, written⟩)
    · by_cases left : name ∈ s.fileStrays
      · exact .inl left
      · exact .inr ⟨argued, unknown, by simpa using left⟩

theorem nodup_unknownNames (distinct : (s.arguments.map Prod.fst).Nodup) :
    s.unknownNames.Nodup := by
  have file : s.fileStrays.Nodup := by
    have names : (s.fileValues.map Prod.fst).Nodup := by
      rw [fileValues_eq]
      exact nodup_names_latest _
    exact names.sublist ((List.filter_sublist.trans List.filter_sublist).map Prod.fst)
  rw [unknownNames_eq, List.nodup_append]
  refine ⟨file, distinct.filter _, ?_⟩
  rintro name left _ right rfl
  have fresh := (List.mem_filter.mp right).2
  simp [left] at fresh

/-! Sources that agree where they decide -/

/-- Another collection of sources has the same arguments and options, the same value in the
environment for each field that no argument names, the same value in the file for each field that
neither names, and the same assignments of names that belong to no field. -/
structure Agrees (s s' : Sources) : Prop where
  options : s'.options = s.options
  arguments : s'.arguments = s.arguments
  environment : ∀ f, (∀ v, ¬ s.Argues f v) → ∀ text, s'.Sets f text ↔ s.Sets f text
  file : ∀ f, (∀ v, ¬ s.Argues f v) → (∀ text, ¬ s.Sets f text) →
    ∀ text, s'.Writes f text ↔ s.Writes f text
  strays : (s'.fileAssignments.filter fun e => !isKnown s.options (s.options.normal e.1)) =
    s.fileAssignments.filter fun e => !isKnown s.options (s.options.normal e.1)

variable {s} {s' : Sources}

theorem Agrees.winner? (agrees : s.Agrees s') (f : Field) : s'.winner? f = s.winner? f := by
  have argument : s'.argument? f = s.argument? f := by
    unfold argument?
    rw [agrees.arguments, agrees.options]
  by_cases argued : ∃ v, s.Argues f v
  · obtain ⟨v, argued⟩ := argued
    have found := (s.argument?_eq_some_iff f v).mpr argued
    simp only [Sources.winner?, argument, found]
    rfl
  have unargued : ∀ v, ¬ s.Argues f v := fun v argues => argued ⟨v, argues⟩
  have environment : (s'.environmentValues.lookup (s.options.outerName f)).join =
      (s.environmentValues.lookup (s.options.outerName f)).join := by
    ext text
    have set := s'.sets_iff f text
    rw [agrees.options] at set
    rw [set, s.sets_iff, agrees.environment f unargued]
  by_cases set : ∃ text, s.Sets f text
  · obtain ⟨text, set⟩ := set
    have found := (s.sets_iff f text).mpr set
    simp only [Sources.winner?, argument, environment, found, agrees.options]
    rfl
  have unset : ∀ text, ¬ s.Sets f text := fun text sets => set ⟨text, sets⟩
  have file : (s'.fileValues.lookup (s.options.outerName f)).join =
      (s.fileValues.lookup (s.options.outerName f)).join := by
    ext text
    have written := s'.writes_iff f text
    rw [agrees.options] at written
    rw [written, s.writes_iff, agrees.file f unargued unset]
  simp only [Sources.winner?, argument, environment, file, agrees.options]

theorem Agrees.unknownNames (agrees : s.Agrees s') : s'.unknownNames = s.unknownNames := by
  have strays : s'.fileStrays = s.fileStrays := by
    have unknown (assignments : List (String × Option String)) :=
      filter_normalized s.options assignments fun name => !isKnown s.options name
    unfold fileStrays
    rw [fileValues_eq, fileValues_eq, agrees.options, unknown, unknown, agrees.strays]
  rw [unknownNames_eq, unknownNames_eq, strays, agrees.arguments, agrees.options]

end Sources

end PageServer.Settings
