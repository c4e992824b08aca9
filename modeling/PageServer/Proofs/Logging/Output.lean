import PageServer.Logging.Console
import PageServer.Proofs.Value.Entries
import PageServer.Settings.Basic
/-! What the log writes. Whether a logger takes records of a severity is decided at the first one
and holds for those that follow. So the output consists of the lines of the records that the log
takes in the end, in their order. Setting the log up again changes nothing, since it is made anew
from the level alone. -/
namespace PageServer

namespace LogRecord

variable {r : LogRecord}

/-- Whether a record has a line: its message can be filled in, and its time can be written. -/
def isTellable (r : LogRecord) : Bool :=
  match r.text?, r.timestamp? with
  | .ok _, some _ => true
  | _, _ => false

theorem isTellable_iff :
    r.isTellable = true ↔ ∃ time text, r.timestamp? = some time ∧ r.text? = .ok text ∧
      r.line = time.text ++ " [" ++ LogLevel.nameOfSeverity r.level ++ "] " ++ r.logger ++ ": " ++
        text ++ "\n" := by
  unfold isTellable line
  cases r.text? with
  | error fault => simp
  | ok text => cases r.timestamp? <;> simp

theorem line_of_not_tellable (untellable : ¬ r.isTellable = true) : r.line = "" := by
  unfold isTellable at untellable
  unfold line
  cases filled : r.text? with
  | error fault => rfl
  | ok text =>
      cases dated : r.timestamp? with
      | none => rfl
      | some time => simp [filled, dated] at untellable

end LogRecord

namespace Logging

variable {l : Logging} {r : LogRecord} {question : String × Int} {answer : Bool}

/-! Decisions -/

theorem enabled_of_decided (known : l.decided.lookup r.question = some answer) :
    l.enabled r = answer := by
  simp only [enabled, known, Option.getD_some]

theorem enabled_congr {q : LogRecord} (same : q.question = r.question) :
    l.enabled q = l.enabled r := by
  obtain ⟨logger, level⟩ := Prod.mk.inj same
  simp only [enabled, same, logger, level]

theorem decided_after : (l.after r).decided.lookup r.question = some (l.enabled r) := by
  simp [after]

theorem decided_after_of_known (known : l.decided.lookup question = some answer) (r : LogRecord) :
    (l.after r).decided.lookup question = some answer := by
  by_cases same : question = r.question
  · subst same
    rw [decided_after, enabled_of_decided known]
  · simp only [after, withLogger, lookup_row, if_neg same, known]

theorem decided_afterAll (known : l.decided.lookup question = some answer)
    (records : List LogRecord) : (l.afterAll records).decided.lookup question = some answer := by
  induction records generalizing l with
  | nil => exact known
  | cons r rest ih => exact ih (decided_after_of_known known r)

theorem enabled_afterAll_cons (rest : List LogRecord) :
    (l.afterAll (r :: rest)).enabled r = l.enabled r :=
  enabled_of_decided (decided_afterAll decided_after rest)

theorem afterAll_append (before rest : List LogRecord) :
    l.afterAll (before ++ rest) = (l.afterAll before).afterAll rest :=
  List.foldl_append

/-- What is decided about a record at its turn is not decided otherwise later. -/
theorem enabled_at_turn (before rest : List LogRecord) :
    (l.afterAll (before ++ r :: rest)).enabled r = (l.afterAll before).enabled r := by
  rw [afterAll_append, enabled_afterAll_cons]

/-- The first record with the same question decides. -/
theorem enabled_afterAll (records : List LogRecord) :
    (l.afterAll records).enabled r =
      (l.afterAll (records.takeWhile (·.question != r.question))).enabled r := by
  induction records generalizing l with
  | nil => rfl
  | cons q rest ih =>
      by_cases same : q.question = r.question
      · have none_before : (q :: rest).takeWhile (·.question != r.question) = [] := by simp [same]
        rw [none_before, ← enabled_congr same, ← enabled_congr same, enabled_afterAll_cons]
        rfl
      · have later : (q :: rest).takeWhile (·.question != r.question) =
            q :: rest.takeWhile (·.question != r.question) := by simp [same]
        rw [later]
        exact ih

/-! Output -/

theorem written_of_single (single : l.handlers = 1) :
    l.written r = if l.enabled r then r.line else "" := by
  simp [written, single]

theorem output_of_single (single : l.handlers = 1) (records : List LogRecord) :
    l.output records =
      String.join ((records.filter (l.afterAll records).enabled).map LogRecord.line) := by
  induction records generalizing l with
  | nil => rfl
  | cons r rest ih =>
      have tail := @ih (l.after r) single
      -- The log in the end is asked about the first record too, and the rest has not changed its
      -- answer.
      have head : ((l.after r).afterAll rest).enabled r = l.enabled r := enabled_afterAll_cons rest
      rw [output, written_of_single single, tail]
      change _ = String.join (((r :: rest).filter ((l.after r).afterAll rest).enabled).map _)
      rw [List.filter_cons, head]
      cases l.enabled r <;> simp

/-- Records without a line leave no trace. -/
theorem join_lines (records : List LogRecord) :
    String.join (records.map LogRecord.line) =
      String.join ((records.filter LogRecord.isTellable).map LogRecord.line) := by
  induction records with
  | nil => rfl
  | cons r rest ih =>
      by_cases tellable : r.isTellable = true
      · simp [tellable, ih]
      · simp [tellable, ih, LogRecord.line_of_not_tellable tellable]

theorem setUpTimes_of_pos (level : LogLevel) {calls : Nat} (some_call : 0 < calls) (l : Logging) :
    setUpTimes level calls l = l.setUp level := by
  obtain ⟨more, rfl⟩ := Nat.exists_eq_add_one.mpr some_call
  induction more generalizing l with
  | zero => rfl
  | succ n ih =>
      change setUpTimes level (n + 1) (l.setUp level) = _
      rw [ih _ n.succ_pos, setUp_setUp]

/-- However often the log has been set up, it is as if it had been set up once: it has the level of
the settings and one handler, and it writes the same. What it writes is a line for each record that
it takes and that has a line, in order: the time, the level, the logger and the message. A record
that has no line is left out. -/
theorem set_up_often_as_once (s : Settings) (calls : Nat) (some_call : 0 < calls) (l : Logging)
    (records : List LogRecord) :
    let once := setUpTimes s.logLevel 1 l
    let log := setUpTimes s.logLevel calls l
    log.root = once.root ∧ log.root = s.logLevel ∧ log.handlers = 1 ∧
      log.output records = once.output records ∧
      log.output records = String.join ((records.filter fun r =>
        (log.afterAll records).enabled r && r.isTellable).map LogRecord.line) ∧
      (∀ before r rest, records = before ++ r :: rest →
        (log.afterAll records).enabled r = (log.afterAll before).enabled r) ∧
      ∀ r : LogRecord, r.isTellable = true ↔
        ∃ time text, r.timestamp? = some time ∧ r.text? = .ok text ∧
          r.line = time.text ++ " [" ++ LogLevel.nameOfSeverity r.level ++ "] " ++ r.logger ++
            ": " ++
            text ++ "\n" := by
  intro once log
  have same : log = once := by
    change setUpTimes _ calls l = setUpTimes _ 1 l
    rw [setUpTimes_of_pos _ some_call, setUpTimes_of_pos _ Nat.one_pos]
  have single : log.handlers = 1 := by
    rw [same]
    rfl
  refine ⟨by rw [same], by rw [same]; rfl, single, by rw [same], ?_, ?_, fun r => r.isTellable_iff⟩
  · rw [output_of_single single, join_lines, List.filter_filter]
    simp only [Bool.and_comm]
  · intro before r rest split
    rw [split, enabled_at_turn]

/-- A message without places, to which an argument is given all the same. -/
def overfilled : LogRecord :=
  ⟨"a", LogLevel.info, .text "once", [.text "x"], .whole 10⟩

/-- A record with a line, the one without, and two more, of which one is below the level. -/
def mixed : List LogRecord :=
  [⟨"a", LogLevel.info, .text "%s up", [.text "all"], .whole 10⟩, overfilled,
    ⟨"a.b", 25, .text "done", [], .whole 60⟩, ⟨"a.b", 15, .text "hidden", [], .whole 61⟩]

/-- A log that has two handlers and has refused records of a logger. -/
def usedLog : Logging :=
  { root := .error, handlers := 2, loggers := ["a"], decided := [(("a", 20), false)] }

theorem set_up_often_as_once_of_two :
    0 < 2 ∧ (setUpTimes .info 2 usedLog).root = .info ∧ (setUpTimes .info 2 usedLog).handlers = 1 ∧
      (setUpTimes .info 2 usedLog).output mixed =
        "1970-01-01T00:00:10 [INFO] a: all up\n1970-01-01T00:01:00 [Level 25] a.b: done\n" := by
  obtain ⟨_, level, single, _, written, _⟩ :=
    set_up_often_as_once { logLevel := .info } 2 (by decide) usedLog mixed
  exact ⟨by decide, level, single, written.trans (by decide +kernel)⟩

/-- A record that the log takes need not be written. -/
theorem overfilled_left_out :
    (setUpTimes .info 1 {}).enabled overfilled = true ∧
      ∀ time message : String, (setUpTimes .info 1 {}).output [overfilled] ≠
        time ++ " [INFO] a: " ++ message ++ "\n" := by
  have silent : (setUpTimes .info 1 {}).output [overfilled] = "" := by decide +kernel
  refine ⟨by decide +kernel, fun time message shown => ?_⟩
  rw [silent] at shown
  simp at shown

end Logging

end PageServer
