import Mathlib.Algebra.Group.Nat.Defs
import Mathlib.Data.List.TakeWhile
import PageServer.Proofs.Settings.Resolution
/-! Settings that were accepted. They are in canonical form, which every field keeps as it is, both
as a value and written down as a text; so settings can be built again from what they hold. -/
namespace PageServer.Settings

open Text Numeral

/-! Written integers -/

section Integers

theorem isDigit_of_charIsDigit {c : Char} (digit : c.isDigit = true) : isDigit c = true := by
  simp only [Char.isDigit, Bool.and_eq_true, decide_eq_true_eq] at digit
  simp only [isDigit, Bool.and_eq_true, decide_eq_true_eq]
  exact digit

theorem isDigit_of_written (n : Nat) : ∀ c ∈ Nat.toDigits 10 n, isDigit c = true := by
  intro c member
  apply isDigit_of_charIsDigit
  exact Nat.isDigit_of_mem_toDigits (by decide) (by decide) member

theorem digitsValue_written (n : Nat) : digitsValue (Nat.toDigits 10 n) = n := by
  have read := Nat.ofDigitChars_toDigits (b := 10) (n := n) (by decide) (by decide)
  rwa [Nat.ofDigitChars_eq_foldl] at read

-- By the number without its last digit, with which the digits start as long as it is not zero.
theorem written_ne_zero {n : Nat} (positive : 0 < n) : (Nat.toDigits 10 n).head? ≠ some '0' := by
  induction n using Nat.strongRecOn with
  | ind n ih =>
      rw [Nat.toDigits_eq_if (by decide)]
      split
      · rename_i single
        have digits : ∀ m < 10, 0 < m → m.digitChar ≠ '0' := by decide
        simpa using digits n single positive
      · rename_i several
        have front := ih (n / 10) (by omega) (by omega)
        have some_front : Nat.toDigits 10 (n / 10) ≠ [] := by
          apply List.ne_nil_of_length_pos
          exact Nat.length_toDigits_pos
        rwa [List.head?_append_of_ne_nil _ some_front]

theorem bareInteger_unsigned {s : List Char} (unsigned : s.head? ≠ some '-')
    (digits : ∀ c ∈ s, isDigit c = true) (filled : s ≠ []) (short : s.length ≤ mostDigits)
    (plain : s.head? = some '0' → s.length ≤ 1) : bareInteger s = .ok (digitsValue s) := by
  have all : s.takeWhile isDigit = s := List.takeWhile_eq_self_iff.mpr digits
  have nothing_behind : s.dropWhile isDigit = [] := List.dropWhile_eq_nil_iff.mpr digits
  unfold bareInteger
  split
  rename_i negative ds split_off
  split at split_off
  · exact absurd rfl unsigned
  · cases split_off
    simpa [all, nothing_behind, filled, Nat.not_lt.mpr short] using plain

theorem bareInteger_written {n : Nat} (short : n < 10 ^ mostDigits) :
    bareInteger (Nat.toDigits 10 n) = .ok n := by
  have filled : Nat.toDigits 10 n ≠ [] := List.ne_nil_of_length_pos Nat.length_toDigits_pos
  have fits : (Nat.toDigits 10 n).length ≤ mostDigits :=
    (Nat.length_toDigits_le_iff (by decide) (by decide)).mpr short
  have unsigned : (Nat.toDigits 10 n).head? ≠ some '-' := by
    intro minus
    have digit := isDigit_of_written n '-' (List.mem_of_head? minus)
    exact absurd digit (by decide)
  -- A zero stands in front only where there is nothing else.
  have plain : (Nat.toDigits 10 n).head? = some '0' → (Nat.toDigits 10 n).length ≤ 1 := by
    intro zero
    rcases Nat.eq_zero_or_pos n with rfl | positive
    · decide
    · exact absurd zero (written_ne_zero positive)
  rw [bareInteger_unsigned unsigned (isDigit_of_written n) filled fits plain, digitsValue_written]

theorem integerOfValue_written {n : Nat} (short : n < 10 ^ mostDigits) :
    integerOfValue (.text (toString n)) = .ok n := by
  have digits : (toString n).toList = Nat.toDigits 10 n := by
    rw [Nat.toString_eq_repr, Nat.repr, String.toList_ofList]
  simp only [integerOfValue, integerOfText, digits, bareInteger_written short]

end Integers

/-! Settings that every field keeps -/

/-- Settings as they are after normalisation: the level has one of the five names in capital
letters, the suffix is empty or starts with a dot, and the numbers are within their limits. -/
structure Canonical (s : Settings) : Prop where
  level : s.logLevel.name ∈ ["DEBUG", "INFO", "WARNING", "ERROR", "CRITICAL"]
  suffix : s.templateSuffix = "" ∨ s.templateSuffix.toList.head? = some '.'
  port : 1024 ≤ s.backendPort ∧ s.backendPort ≤ 65535
  requests : 1 ≤ s.rateLimitRequests ∧ s.rateLimitRequests ≤ 100000
  window : 1 ≤ s.rateLimitWindow ∧ s.rateLimitWindow ≤ 86400

namespace Field

theorem Counts.limits {least most : Int} {v : Value} {n : Nat}
    (counts : Counts least most v (.number (.whole n))) : least ≤ n ∧ n ≤ most := by
  obtain ⟨m, _, reached, below, same⟩ := counts
  cases same
  exact ⟨reached, below⟩

theorem counts_self {least most : Int} {n : Nat} (limits : least ≤ n ∧ n ≤ most) :
    Counts least most (.number (.whole n)) (.number (.whole n)) :=
  ⟨n, rfl, limits.1, limits.2, rfl⟩

theorem counts_shown {least most : Int} {n : Nat} (limits : least ≤ n ∧ n ≤ most)
    (short : n < 10 ^ mostDigits) :
    Counts least most (.text (Value.number (.whole n)).shown) (.number (.whole n)) := by
  have numeral : (Value.number (.whole n)).shown = toString n := rfl
  rw [numeral]
  exact ⟨n, integerOfValue_written short, limits.1, limits.2, rfl⟩

theorem converts_level (level : LogLevel) :
    ∃ s, ∃ level' ∈ LogLevel.all, Value.text level.name = .text s ∧
      s.toList.map LogLevel.capital = level'.name.toList ∧
      Value.text level.name = .text level'.name := by
  have capitals : level.name.toList.map LogLevel.capital = level.name.toList := by
    cases level <;> decide
  have known : level ∈ LogLevel.all := by
    cases level <;> decide
  exact ⟨level.name, level, known, rfl, capitals, rfl⟩

end Field

theorem canonical_of_kept {s : Settings} (kept : ∀ f : Field, ∃ v, f.Converts v (f.slot s)) :
    s.Canonical := by
  obtain ⟨_, port⟩ := kept .backendPort
  obtain ⟨_, requests⟩ := kept .rateLimitRequests
  obtain ⟨_, window⟩ := kept .rateLimitWindow
  have port := Field.Counts.limits port
  have requests := Field.Counts.limits requests
  have window := Field.Counts.limits window
  constructor
  case level => cases s.logLevel <;> decide
  case suffix =>
    obtain ⟨_, suffix, _, kept⟩ := kept .templateSuffix
    split at kept
    · rename_i plain
      cases kept
      exact plain
    · have dotted : s.templateSuffix = "." ++ suffix := Value.text.inj kept
      right
      rw [dotted, String.toList_append]
      rfl
  case port => omega
  case requests => omega
  case window => omega

section Kept

variable {s : Settings} (canonical : s.Canonical) (f : Field)
include canonical

theorem Canonical.converts_self : f.Converts (f.slot s) (f.slot s) := by
  obtain ⟨_, suffix, port, requests, window⟩ := canonical
  cases f with
  | templatesDir | corsOrigins | backendHost => exact ⟨_, rfl, rfl⟩
  | templateSuffix => exact ⟨_, rfl, by rw [if_pos suffix]; rfl⟩
  | backendPort => exact Field.counts_self (by omega)
  | rateLimitRequests => exact Field.counts_self (by omega)
  | rateLimitWindow => exact Field.counts_self (by omega)
  | logLevel => exact Field.converts_level s.logLevel

theorem Canonical.converts_shown : f.Converts (.text (f.slot s).shown) (f.slot s) := by
  have itself := canonical.converts_self f
  obtain ⟨_, _, port, requests, window⟩ := canonical
  have short {n : Nat} (below : n ≤ 100000) : n < 10 ^ mostDigits :=
    Nat.lt_of_lt_of_le (Nat.lt_succ_of_le below)
      (Nat.le_trans (by decide : 100001 ≤ 10 ^ 6) (Nat.pow_le_pow_right (by decide) (by decide)))
  cases f with
  -- A text is its own written form.
  | templatesDir | corsOrigins | backendHost | templateSuffix | logLevel => exact itself
  | backendPort => exact Field.counts_shown (by omega) (short (by omega))
  | rateLimitRequests => exact Field.counts_shown (by omega) (short (by omega))
  | rateLimitWindow => exact Field.counts_shown (by omega) (short (by omega))

end Kept

theorem eq_of_slots {s t : Settings} (same : ∀ f : Field, f.slot s = f.slot t) : s = t := by
  have whole {m n : Nat} (equal : Value.number (.whole m) = .number (.whole n)) : m = n := by
    cases equal
    rfl
  have level : s.logLevel = t.logLevel := by
    have names : s.logLevel.name = t.logLevel.name := Value.text.inj (same .logLevel)
    have read := LogLevel.ofName?_name s.logLevel
    rw [names, LogLevel.ofName?_name] at read
    exact (Option.some.inj read).symm
  cases s
  cases t
  rw [Settings.mk.injEq]
  exact ⟨Value.text.inj (same .templatesDir), Value.text.inj (same .templateSuffix),
    Value.text.inj (same .corsOrigins), Value.text.inj (same .backendHost),
    whole (same .backendPort), level, whole (same .rateLimitRequests),
    whole (same .rateLimitWindow)⟩

/-! Entries that name each field once -/

section EachOnce

variable {α : Type} {entries : List (String × α)} {spelled : Field → String} {values : Field → α}
variable {compare : String → String} (named : ∀ f, compare (spelled f) = f.name)
variable (each : entries.Perm (Field.all.map fun f => (spelled f, values f)))

include each in
theorem entry_of_field (f : Field) : (spelled f, values f) ∈ entries :=
  each.mem_iff.mpr (List.mem_map_of_mem f.mem_all)

include named

theorem spelled_injective : Function.Injective spelled := by
  intro f g same
  have names : f.name = g.name := by rw [← named f, same, named g]
  have found := f.ofName?_name
  rw [names, g.ofName?_name] at found
  exact (Option.some.inj found).symm

include each

theorem nodup_entry_names : (entries.map Prod.fst).Nodup := by
  have names := each.map Prod.fst
  rw [List.map_map] at names
  rw [names.nodup_iff]
  have unique : Field.all.Nodup := by decide
  exact unique.map (spelled_injective named)

theorem entry_named {e : String × α} (member : e ∈ entries) :
    ∃ f, compare e.1 = f.name ∧ e = (spelled f, values f) := by
  obtain ⟨f, _, rfl⟩ := List.mem_map.mp (each.mem_iff.mp member)
  exact ⟨f, named f, rfl⟩

theorem entry_eq_of_name {e : String × α} (member : e ∈ entries) {f : Field}
    (same : compare e.1 = f.name) : e = (spelled f, values f) := by
  obtain ⟨g, names, rfl⟩ := entry_named named each member
  have fields : spelled g = spelled f := by
    have found := f.ofName?_name
    rw [← same, names, g.ofName?_name] at found
    rw [Option.some.inj found]
  have again := spelled_injective named fields
  rw [again]

end EachOnce

/-! Building settings again -/

namespace Sources

theorem resolve_of_decided {s : Sources} {target : Settings}
    (decided : ∀ f, ∃ v, s.Decides f v ∧ f.Converts v (f.slot target))
    (none_left : ∀ name, ¬ s.Strays name) : ∃ r, resolve s = .ok r ∧ r.settings = target := by
  rcases s.resolve_cases with ⟨_, _, r, resolved, converted⟩ | ⟨faulty, _⟩
  · refine ⟨r, resolved, eq_of_slots ?_⟩
    intro f
    obtain ⟨v, decides, converts⟩ := decided f
    exact Field.converts_unique (converted f v decides) converts
  · rw [s.complaints_eq_nil_iff, s.unknownNames_eq_nil_iff] at faulty
    refine absurd ⟨?_, none_left⟩ faulty
    intro f v decides
    obtain ⟨w, decides', converts⟩ := decided f
    rw [s.decides_unique f decides decides']
    exact ⟨_, converts⟩

theorem lowerText_name (f : Field) : Text.lowerText f.name = f.name := by
  cases f <;> decide +kernel

theorem normal_name (o : Options) (f : Field) : o.normal f.name = f.name := by
  unfold Options.normal
  split
  · rfl
  · exact lowerText_name f

-- Nothing is given by a file that assigns nothing.
theorem not_gives_nothing (o : Options) (name : String) (value : Option String) :
    ¬ Gives o [] name value := by
  rintro ⟨_, _, ⟨found, _⟩, _⟩
  cases found

theorem lookup_reverse_iff_of_nodup {α : Type} {entries : List (String × α)}
    (unique : (entries.map Prod.fst).Nodup) {name : String} {value : α} :
    entries.reverse.lookup name = some value ↔ (name, value) ∈ entries := by
  have reversed := entries.reverse_perm
  rw [lookup_eq_some_iff_of_nodup ((reversed.map Prod.fst).nodup_iff.mpr unique),
    reversed.mem_iff]

theorem resolve_named_arguments {target : Settings} (canonical : target.Canonical) (o : Options)
    (environment : List (String × String)) {arguments : Entries}
    (each : arguments.Perm (Field.all.map fun f => (f.name, f.slot target))) :
    ∃ r, resolve ⟨o, arguments, environment, []⟩ = .ok r ∧ r.settings = target := by
  have named : ∀ f : Field, o.normal f.name = f.name := normal_name o
  apply resolve_of_decided
  · intro f
    obtain ⟨front, back, split⟩ := List.append_of_mem (entry_of_field each f)
    refine ⟨f.slot target, .argument ⟨front, f.name, back, split, named f, ?_⟩,
      canonical.converts_self f⟩
    -- An entry before it under its name would be a second one.
    intro e before same
    have member : e ∈ arguments := split ▸ List.mem_append_left _ before
    obtain rfl := entry_eq_of_name named each member same
    have unique := nodup_entry_names named each
    rw [split, List.map_append, List.map_cons, List.nodup_append] at unique
    exact unique.2.2 _ (List.mem_map_of_mem before) _ List.mem_cons_self rfl
  · rintro name (⟨_, written, _⟩ | ⟨unknown, argued⟩)
    · exact not_gives_nothing o name _ written
    · obtain ⟨e, member, rfl⟩ := List.mem_map.mp argued
      obtain ⟨f, known, _⟩ := entry_named named each member
      exact unknown f known

theorem resolve_spelled_environment {target : Settings} (canonical : target.Canonical)
    {spelled : Field → String} (named : ∀ f, Text.lowerText (spelled f) = f.name)
    {environment : List (String × String)}
    (each : environment.Perm (Field.all.map fun f => (spelled f, (f.slot target).shown))) :
    ∃ r, resolve { environment } = .ok r ∧ r.settings = target := by
  have assigned : (environmentAssignments { environment }).Perm
      (Field.all.map fun f => (spelled f, some (f.slot target).shown)) := by
    have entries := each.map fun e => (e.1, some e.2)
    rwa [List.map_map] at entries
  have unique := nodup_entry_names named assigned
  apply resolve_of_decided
  · intro f
    have outer : Options.outerName {} f = f.name := by
      rw [Options.outerName, String.empty_append, normal_name]
    have unargued : ∀ v, ¬ Sources.Argues { environment } f v := by
      rintro v ⟨front, name, back, split, _⟩
      exact absurd split.symm (by simp)
    refine ⟨.text (f.slot target).shown, .environment unargued ?_, canonical.converts_shown f⟩
    refine ⟨spelled f, (named f).trans outer.symm, ⟨?_, nofun⟩, ?_⟩
    · exact (lookup_reverse_iff_of_nodup unique).mpr (entry_of_field assigned f)
    · -- No other name of the environment is compared as this one.
      rintro other value same ⟨found, _⟩
      have member := (lookup_reverse_iff_of_nodup unique).mp found
      have entry := entry_eq_of_name named assigned member (same.trans outer)
      cases entry
      exact Nat.le_refl _
  · rintro name (⟨_, written, _⟩ | ⟨_, argued⟩)
    · exact not_gives_nothing {} name _ written
    · exact absurd argued List.not_mem_nil

end Sources

/-- Settings that were accepted, from whatever sources, are canonical. They come out the same when
all their fields are given again as arguments, in any order, under any options and any environment
and without a file; and also when nothing is given but an environment in which each field's value
is written as a text, in any order and under names in letters of any case. -/
theorem accepted_settings_round_trip (s : Sources) (r : Resolved) (accepted : resolve s = .ok r) :
    r.settings.Canonical ∧
      (∀ (o : Options) (environment : List (String × String)) (arguments : Entries),
        arguments.Perm (Field.all.map fun f => (f.name, f.slot r.settings)) →
        ∃ r', resolve ⟨o, arguments, environment, []⟩ = .ok r' ∧ r'.settings = r.settings) ∧
      ∀ (spelled : Field → String) (environment : List (String × String)),
        (∀ f, Text.lowerText (spelled f) = f.name) →
        environment.Perm (Field.all.map fun f => (spelled f, (f.slot r.settings).shown)) →
        ∃ r', resolve { environment } = .ok r' ∧ r'.settings = r.settings := by
  have canonical : r.settings.Canonical := by
    apply canonical_of_kept
    intro f
    rcases s.resolve_cases with ⟨_, _, r', resolved, converted⟩ | ⟨_, rejected⟩
    · rw [accepted] at resolved
      cases resolved
      exact ⟨_, converted f _ (s.decides_winner? f)⟩
    · rw [accepted] at rejected
      cases rejected
  refine ⟨canonical, ?_, ?_⟩
  · intro o environment arguments each
    exact Sources.resolve_named_arguments canonical o environment each
  · intro spelled environment named each
    exact Sources.resolve_spelled_environment canonical named each

/-- Sources in which a level has a letter of another alphabet, a suffix lacks its dot and a number
is written loosely. -/
def loose : Sources :=
  { environment := [("Log_Level", "ınfo"), ("TEMPLATE_SUFFIX", "txt")]
    file := [⟨"backend_port".toList, some " 0_9_000.0 ".toList⟩] }

theorem settings_of_loose_round_trip : ∃ r, resolve loose = .ok r ∧ r.settings.Canonical ∧
    ∃ r', resolve { environment := Field.all.map fun f =>
      (String.ofList (f.name.toList.map Char.toUpper), (f.slot r.settings).shown) } = .ok r' ∧
      r'.settings = r.settings := by
  have settled : (resolve loose).toOption.isSome = true := by decide +kernel
  obtain ⟨r, accepted⟩ : ∃ r, resolve loose = .ok r := by
    cases outcome : resolve loose with
    | ok r => exact ⟨r, rfl⟩
    | error rejection => simp [outcome, Except.toOption] at settled
  have round_trip := accepted_settings_round_trip loose r accepted
  have spelled : ∀ f : Field,
      Text.lowerText (String.ofList (f.name.toList.map Char.toUpper)) = f.name := by
    intro f
    cases f <;> decide +kernel
  exact ⟨r, accepted, round_trip.1, round_trip.2.2 _ _ spelled (.refl _)⟩

end PageServer.Settings
