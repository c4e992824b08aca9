import Mathlib.Data.List.TakeWhile
import PageServer.Proofs.Logging.Output
/-! From which severity on records are written. Where nothing but the server's access logger has a
level of its own, that level counts for it and for the loggers below it, and the level of the root
for all others. So a record of the access log may be written although it is below the level of the
root. -/
namespace PageServer.Logging

variable {l : Logging} {name logger : String} {reversed : List Char} {level : LogLevel}
  {records : List LogRecord} {r : LogRecord}

/-! Loggers above others -/

/-- No dot follows a dot. -/
def Spaced (s : List Char) : Prop :=
  ¬ ['.', '.'] <:+: s

theorem Spaced.tail {c : Char} {s : List Char} (spaced : Spaced (c :: s)) : Spaced s :=
  fun doubled => spaced (doubled.trans (List.suffix_cons c s).isInfix)

theorem of_mem_above (member : logger ∈ l.above reversed) :
    logger ∈ l.loggers ∧ '.' :: logger.toList.reverse <:+ reversed := by
  fun_induction above l reversed with
  | case1 => cases member
  | case2 rest there ih =>
      rcases List.mem_cons.mp member with rfl | further
      · exact ⟨there, by simp⟩
      · exact ⟨(ih further).1, (ih further).2.trans (List.suffix_cons _ _)⟩
  | case3 => cases member
  | case4 c further absent ih =>
      have beyond := (ih member).2.trans (List.suffix_cons c further)
      exact ⟨(ih member).1, beyond.trans (List.suffix_cons _ _)⟩
  | case5 c rest other ih => exact ⟨(ih member).1, (ih member).2.trans (List.suffix_cons _ _)⟩

-- Only the character behind a dot without a logger is passed over, and that is no dot here.
theorem mem_above_of_spaced (spaced : Spaced reversed) (there : logger ∈ l.loggers)
    (ends : '.' :: logger.toList.reverse <:+ reversed) : logger ∈ l.above reversed := by
  have named (s : List Char) (whole : '.' :: logger.toList.reverse = '.' :: s) :
      logger = String.ofList s.reverse := by
    simp [← (List.cons.inj whole).2]
  fun_induction above l reversed with
  | case1 => cases List.eq_nil_of_suffix_nil ends
  | case2 rest found ih =>
      rcases List.suffix_cons_iff.mp ends with whole | shorter
      · exact named rest whole ▸ List.mem_cons_self
      · exact List.mem_cons_of_mem _ (ih spaced.tail shorter)
  | case3 absent =>
      rcases List.suffix_cons_iff.mp ends with whole | shorter
      · exact absurd (named [] whole ▸ there) absent
      · cases List.eq_nil_of_suffix_nil shorter
  | case4 c further absent ih =>
      rcases List.suffix_cons_iff.mp ends with whole | shorter
      · exact absurd (named (c :: further) whole ▸ there) absent
      · rcases List.suffix_cons_iff.mp shorter with doubled | later
        · have dot : c = '.' := (List.cons.inj doubled).1.symm
          exact absurd ⟨[], further, by simp [dot]⟩ spaced
        · exact ih spaced.tail.tail later
  | case5 c rest other ih =>
      rcases List.suffix_cons_iff.mp ends with whole | shorter
      · exact absurd (List.cons.inj whole).1.symm other
      · exact ih spaced.tail shorter

/-- A name is that of a logger or goes on from it behind a dot. -/
def Extends (logger name : String) : Prop :=
  name = logger ∨ (logger ++ ".").toList <+: name.toList

theorem behind_dot_iff :
    '.' :: logger.toList.reverse <:+ name.toList.reverse ↔
      (logger ++ ".").toList <+: name.toList := by
  rw [← List.reverse_suffix, String.toList_append, List.reverse_append]
  rfl

theorem extends_of_mem_lineage (member : logger ∈ l.lineage name) : Extends logger name := by
  rcases List.mem_cons.mp member with same | higher
  · exact .inl same.symm
  · exact .inr (behind_dot_iff.mp (of_mem_above higher).2)

theorem mem_lineage_of_extends (spaced : Spaced name.toList) (there : logger ∈ l.loggers)
    (goes_on : Extends logger name) : logger ∈ l.lineage name := by
  rcases goes_on with rfl | longer
  · exact List.mem_cons_self
  · apply List.mem_cons_of_mem
    apply mem_above_of_spaced _ there (behind_dot_iff.mpr longer)
    exact fun doubled => spaced (List.reverse_infix.mp doubled)

/-! Levels -/

/-- The log is set up with a level, and no logger but the server's access logger has one of its
own. -/
structure SetTo (level : LogLevel) (l : Logging) : Prop where
  root : l.root = level
  levels : l.levels = [(serverAccessLogger, .warning)]
  there : serverAccessLogger ∈ l.loggers

theorem setTo_setUp (level : LogLevel) (plain : ∀ entry ∈ l.levels, entry.1 = serverAccessLogger) :
    SetTo level (l.setUp level) where
  root := rfl
  levels := by
    have no_other : l.levels.filter (·.1 != serverAccessLogger) = [] := by
      simpa [List.filter_eq_nil_iff] using plain
    simp only [setUp, no_other]
  there := (mem_withLogger l _ _).mpr (.inl rfl)

theorem SetTo.after (set : SetTo level l) (r : LogRecord) : SetTo level (l.after r) where
  root := set.root
  levels := set.levels
  there := (mem_withLogger l _ _).mpr (.inr set.there)

theorem SetTo.afterAll (set : SetTo level l) (records : List LogRecord) :
    SetTo level (l.afterAll records) := by
  induction records generalizing l with
  | nil => exact set
  | cons r rest ih => exact ih (set.after r)

theorem findSome?_lookup_single (key : String) (value : LogLevel) (names : List String) :
    names.findSome? (fun n => List.lookup n [(key, value)]) =
      if key ∈ names then some value else none := by
  induction names with
  | nil => rfl
  | cons n rest ih =>
      by_cases same : n = key
      · simp [same]
      · have absent : List.lookup n [(key, value)] = none := by simp [lookup_row, same]
        rw [List.findSome?_cons, absent]
        simp only [ih, List.mem_cons, Ne.symm same, false_or]

theorem SetTo.levelOf (set : SetTo level l) (name : String) :
    l.levelOf name = if serverAccessLogger ∈ l.lineage name then .warning else level := by
  unfold Logging.levelOf
  rw [set.levels, findSome?_lookup_single, set.root]
  split <;> rfl

/-! Records -/

theorem undecided_afterAll {question : String × Int} (undecided : l.decided.lookup question = none)
    (others : ∀ r ∈ records, r.question ≠ question) :
    (l.afterAll records).decided.lookup question = none := by
  induction records generalizing l with
  | nil => exact undecided
  | cons r rest ih =>
      have apart : question ≠ r.question := (others r List.mem_cons_self).symm
      apply ih _ fun q member => others q (List.mem_cons_of_mem r member)
      simp only [after, withLogger, lookup_row, if_neg apart, undecided]

/-- The level of a record's logger when the first record with the same question comes. -/
theorem enabled_iff_first (undecided : l.decided.lookup r.question = none)
    (records : List LogRecord) :
    (l.afterAll records).enabled r = true ↔
      ((l.afterAll (records.takeWhile (·.question != r.question))).levelOf r.logger : Int) ≤
        r.level := by
  have others : ∀ q ∈ records.takeWhile (·.question != r.question), q.question ≠ r.question :=
    fun q member => by simpa using List.mem_takeWhile_imp member
  rw [enabled_afterAll, enabled, undecided_afterAll undecided others, Option.getD_none,
    decide_eq_true_iff]

/-- One of two levels counts, and this is not the same as both only where the one that counts is
lower and what is compared lies between them. -/
theorem both_levels_iff {below : Prop} [Decidable below] (own configured severity : Int) :
    ((if below then own ≤ severity else configured ≤ severity) ↔
        configured ≤ severity ∧ (below → own ≤ severity)) ↔
      ¬ (below ∧ own ≤ severity ∧ severity < configured) := by
  by_cases position : below
  · simp only [position, if_true, true_implies, true_and]
    omega
  · simp [position]

/-- What is written of records after the log has been set up, be it once or again. A record is taken
if it has the level that counts: that of the server's access logger for this logger and for the
loggers that stood below it when the question first came up, and the configured level for all
others. Loggers that stand below it have its name with a dot and more, and all of these do whose
name has no two dots in a row. It is taken exactly if it has the configured level and, below the
access logger, at least that one's, unless that one's level is the lower one and the record lies
between the two. -/
theorem record_taken_iff (s : Settings) (calls : Nat) (some_call : 0 < calls) (l : Logging)
    (plain : ∀ entry ∈ l.levels, entry.1 = serverAccessLogger) (records : List LogRecord)
    (r : LogRecord) :
    let log := setUpTimes s.logLevel calls l
    let first := log.afterAll (records.takeWhile (·.question != r.question))
    let taken := (log.afterAll records).enabled
    let below := serverAccessLogger ∈ first.lineage r.logger
    log.output records = String.join ((records.filter taken).map LogRecord.line) ∧
      (taken r = true ↔
        if below then (LogLevel.warning : Int) ≤ r.level else (s.logLevel : Int) ≤ r.level) ∧
      (below → Extends serverAccessLogger r.logger) ∧
      (Spaced r.logger.toList → Extends serverAccessLogger r.logger → below) ∧
      ((taken r = true ↔
          (s.logLevel : Int) ≤ r.level ∧ (below → (LogLevel.warning : Int) ≤ r.level)) ↔
        ¬ (below ∧ (LogLevel.warning : Int) ≤ r.level ∧ r.level < (s.logLevel : Int))) := by
  intro log first taken below
  have made : log = l.setUp s.logLevel := setUpTimes_of_pos _ some_call l
  have set : SetTo s.logLevel log := made ▸ setTo_setUp s.logLevel plain
  have single : log.handlers = 1 := by rw [made]; rfl
  have undecided : log.decided.lookup r.question = none := by rw [made]; rfl
  have then_set : SetTo s.logLevel first := set.afterAll _
  have decides : taken r = true ↔
      if below then (LogLevel.warning : Int) ≤ r.level else (s.logLevel : Int) ≤ r.level := by
    rw [enabled_iff_first undecided records, then_set.levelOf]
    split <;> rfl
  refine ⟨output_of_single single records, decides, extends_of_mem_lineage,
    fun spaced => mem_lineage_of_extends spaced then_set.there, ?_⟩
  rw [decides]
  exact both_levels_iff _ _ _

/-- A message on a logger at the start of 1970. -/
def said (logger : String) (level : LogLevel) (message : String) : LogRecord :=
  ⟨logger, level, .text message, [], .whole 0⟩

/-- Between two dots in a row a logger may stand that comes late. -/
def lateLogger : List LogRecord :=
  [said "app" .error "a", said "uvicorn.access.http" .warning "b",
    said "uvicorn.access..x" .warning "c", said "uvicorn.access." .warning "d",
    said "uvicorn.access..x" .error "e", said "uvicorn.access..x" .warning "f"]

theorem record_taken_iff_of_lateLogger :
    0 < 2 ∧ (∀ entry ∈ (usedLog).levels, entry.1 = serverAccessLogger) ∧
      (setUpTimes .critical 2 usedLog).output lateLogger =
        "1970-01-01T00:00:00 [WARNING] uvicorn.access.http: b\n" ++
        "1970-01-01T00:00:00 [WARNING] uvicorn.access.: d\n" ++
        "1970-01-01T00:00:00 [ERROR] uvicorn.access..x: e\n" ∧
      ((setUpTimes .critical 2 usedLog).afterAll lateLogger).enabled
        (said "uvicorn.access..x" .error "again") = true := by
  have plain : ∀ entry ∈ usedLog.levels, entry.1 = serverAccessLogger := by simp [usedLog]
  obtain ⟨written, decides, _⟩ := record_taken_iff { logLevel := .critical } 2 (by decide) usedLog
    plain lateLogger (said "uvicorn.access..x" .error "again")
  exact ⟨by decide, plain, written.trans (by decide +kernel), decides.mpr (by decide +kernel)⟩

/-- A record of the access log below the configured level is written. -/
theorem access_warning_written_below_error :
    (said serverAccessLogger .warning "slow").level < (LogLevel.error : Int) ∧
      (setUpTimes .error 1 {}).output [said serverAccessLogger .warning "slow"] =
        "1970-01-01T00:00:00 [WARNING] uvicorn.access: slow\n" := by
  decide +kernel

end PageServer.Logging
