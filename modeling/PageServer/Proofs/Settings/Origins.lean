import PageServer.Settings.Basic
import PageServer.Proofs.Text.Pieces
import PageServer.Proofs.Text.Trim
/-! The origins that settings list: the entries between commas without the blanks around them, as
far as anything is left of them. Lists that are joined by a comma are listed one after the other,
and every list of origins is read again from its joined text. -/
namespace PageServer.Settings

open Text

/-- An origin is an entry of the list: it is what is left of a piece between commas without the
blanks around it. -/
def Lists (s : Settings) (origin : String) : Prop :=
  origin ≠ "" ∧ Trimmed isBlank origin.toList ∧
    ∃ pieces, joinWith [','] pieces = s.corsOrigins.toList ∧ (∀ piece ∈ pieces, ',' ∉ piece) ∧
      ∃ left right, left ++ origin.toList ++ right ∈ pieces ∧
        (∀ c ∈ left, isBlank c = true) ∧ ∀ c ∈ right, isBlank c = true

theorem mem_origins_iff (s : Settings) (origin : String) : origin ∈ s.origins ↔ s.Lists origin := by
  have member : origin ∈ s.origins ↔ origin ≠ "" ∧
      ∃ piece ∈ splitAt ',' s.corsOrigins.toList, trim isBlank piece = origin.toList := by
    simp only [origins, splitOrigins, List.mem_map, List.mem_filter, Bool.not_eq_true',
      List.isEmpty_eq_false_iff]
    constructor
    · rintro ⟨_, ⟨⟨piece, among, rfl⟩, filled⟩, rfl⟩
      refine ⟨fun empty => filled ?_, piece, among, String.toList_ofList.symm⟩
      rw [← String.toList_ofList (l := trim isBlank piece), empty]
      rfl
    · rintro ⟨filled, piece, among, trimmed⟩
      refine ⟨origin.toList, ⟨⟨piece, among, trimmed⟩, ?_⟩, String.ofList_toList⟩
      exact fun empty => filled (String.toList_eq_nil_iff.mp empty)
  rw [member]
  refine and_congr_right fun filled => ?_
  have some_left : origin.toList ≠ [] := fun empty => filled (String.toList_eq_nil_iff.mp empty)
  constructor
  · rintro ⟨piece, among, left⟩
    obtain ⟨trimmed, front, back, rfl, before, behind⟩ := (trim_eq_iff some_left).mp left
    exact ⟨trimmed, splitAt ',' s.corsOrigins.toList, joinWith_splitAt _,
      fun piece => not_mem_of_mem_splitAt, front, back, among, before, behind⟩
  -- There is only one way to take a text apart at its commas.
  · rintro ⟨trimmed, pieces, joined, whole, front, back, among, before, behind⟩
    have split := splitAt_joinWith (List.ne_nil_of_mem among) whole
    rw [joined] at split
    exact ⟨_, split ▸ among, trim_of_trimmed trimmed before behind some_left⟩

/-! Lists joined and taken apart -/

def withOrigins (s : Settings) (text : String) : Settings :=
  { s with corsOrigins := text }

/-- What can be an entry of a list. -/
structure IsEntry (origin : String) : Prop where
  filled : origin ≠ ""
  whole : ',' ∉ origin.toList
  trimmed : Trimmed isBlank origin.toList

theorem Lists.isEntry {s : Settings} {origin : String} (lists : s.Lists origin) :
    IsEntry origin := by
  obtain ⟨filled, trimmed, pieces, -, whole, left, right, among, -⟩ := lists
  refine ⟨filled, fun comma => whole _ among ?_, trimmed⟩
  exact List.mem_append_left right (List.mem_append_right left comma)

theorem splitOrigins_append (s t : List Char) :
    splitOrigins (s ++ ',' :: t) = splitOrigins s ++ splitOrigins t := by
  simp only [splitOrigins, splitAt_append_sep, List.map_append, List.filter_append]

theorem splitOrigins_of_no_comma {s : List Char} (absent : ',' ∉ s) :
    splitOrigins s = [trim isBlank s].filter (!·.isEmpty) := by
  simp only [splitOrigins, splitAt_of_not_mem absent, List.map_singleton]

theorem comma_not_mem_of_blank {s : List Char} (blank : ∀ c ∈ s, isBlank c = true) : ',' ∉ s :=
  fun comma => absurd (blank ',' comma) (by decide)

section Joining

variable (settings : Settings)

theorem origins_append (s t : String) :
    (settings.withOrigins (s ++ "," ++ t)).origins =
      (settings.withOrigins s).origins ++ (settings.withOrigins t).origins := by
  have joined : (s ++ "," ++ t).toList = s.toList ++ ',' :: t.toList := by simp
  simp only [origins, withOrigins, joined, splitOrigins_append, List.map_append]

theorem origins_of_blank {s : String} (blank : ∀ c ∈ s.toList, isBlank c = true) :
    (settings.withOrigins s).origins = [] := by
  have nothing : trim isBlank s.toList = [] := by
    rw [trim, List.dropWhile_eq_nil_iff.mpr blank]
    rfl
  simp [origins, withOrigins, splitOrigins_of_no_comma (comma_not_mem_of_blank blank), nothing]

theorem origins_of_entry {origin left right : String} (entry : IsEntry origin)
    (before : ∀ c ∈ left.toList, isBlank c = true) (behind : ∀ c ∈ right.toList, isBlank c = true) :
    (settings.withOrigins (left ++ origin ++ right)).origins = [origin] := by
  have some_left : origin.toList ≠ [] := mt String.toList_eq_nil_iff.mp entry.filled
  have spread : (left ++ origin ++ right).toList = left.toList ++ origin.toList ++
      right.toList := by
    simp
  have absent : ',' ∉ left.toList ++ origin.toList ++ right.toList := by
    simp only [List.mem_append, not_or]
    exact ⟨⟨comma_not_mem_of_blank before, entry.whole⟩, comma_not_mem_of_blank behind⟩
  have listed : splitOrigins (left.toList ++ origin.toList ++ right.toList) = [origin.toList] := by
    rw [splitOrigins_of_no_comma absent, trim_of_trimmed entry.trimmed before behind some_left]
    simp [some_left]
  simp only [origins, withOrigins, spread, listed, List.map_singleton, String.ofList_toList]

theorem origins_intercalate {list : List String} (entries : ∀ origin ∈ list, IsEntry origin) :
    (settings.withOrigins (",".intercalate list)).origins = list := by
  induction list with
  | nil => rfl
  | cons origin rest ih =>
      have first : (settings.withOrigins origin).origins = [origin] := by
        have alone : (settings.withOrigins ("" ++ origin ++ "")).origins = [origin] :=
          settings.origins_of_entry (entries origin List.mem_cons_self) (by simp) (by simp)
        simpa using alone
      have others := ih fun other member => entries other (List.mem_cons_of_mem origin member)
      by_cases last : rest = []
      · rw [last, String.intercalate_singleton, first]
      · rw [String.intercalate_cons_of_ne_nil last, origins_append, first, others]
        rfl

theorem isEntry_of_mem_origins {s origin : String}
    (member : origin ∈ (settings.withOrigins s).origins) : IsEntry origin :=
  ((mem_origins_iff _ origin).mp member).isEntry

end Joining

/-- Any text is taken for the list of origins. A comma between two texts joins their lists. Every
entry has something in it, but no comma, and no blank at its ends; lists of such entries and no
others are read again from their joined text, and so the joined list of any text is read as the list
of that text. Blanks around an entry leave no trace, nor do blanks alone. -/
theorem origins_join_and_split (settings : Settings) :
    (∀ s, Field.corsOrigins.store (.text s) settings = .ok (settings.withOrigins s)) ∧
      (∀ s t, (settings.withOrigins (s ++ "," ++ t)).origins =
        (settings.withOrigins s).origins ++ (settings.withOrigins t).origins) ∧
      (∀ s, ∀ origin ∈ (settings.withOrigins s).origins, IsEntry origin) ∧
      (∀ list, (settings.withOrigins (",".intercalate list)).origins = list ↔
        ∀ origin ∈ list, IsEntry origin) ∧
      (∀ s, (settings.withOrigins (",".intercalate (settings.withOrigins s).origins)).origins =
        (settings.withOrigins s).origins) ∧
      (∀ s : String, (∀ c ∈ s.toList, isBlank c = true) → (settings.withOrigins s).origins = []) ∧
      ∀ origin left right : String, IsEntry origin → (∀ c ∈ left.toList, isBlank c = true) →
        (∀ c ∈ right.toList, isBlank c = true) →
        (settings.withOrigins (left ++ origin ++ right)).origins = [origin] := by
  have entries (s : String) : ∀ origin ∈ (settings.withOrigins s).origins, IsEntry origin :=
    fun origin => settings.isEntry_of_mem_origins
  refine ⟨fun s => rfl, settings.origins_append, entries, fun list => ⟨fun same => ?_, ?_⟩,
    fun s => settings.origins_intercalate (entries s), fun s => settings.origins_of_blank,
    fun origin left right => settings.origins_of_entry⟩
  · have read := entries (",".intercalate list)
    rwa [same] at read
  · exact settings.origins_intercalate

theorem origins_join_and_split_of_two :
    (∀ origin ∈ ["http://a.test", "http://b.test"], IsEntry origin) ∧
      (withOrigins {} (",".intercalate ["http://a.test", "http://b.test"])).origins =
        ["http://a.test", "http://b.test"] ∧
      (withOrigins {} ("\u3000 " ++ "http://a.test" ++ "\u00A0")).origins = ["http://a.test"] := by
  have entry (origin : String) (filled : origin ≠ "") (whole : ',' ∉ origin.toList)
      (trimmed : trim isBlank origin.toList = origin.toList) : IsEntry origin :=
    ⟨filled, whole, trimmed ▸ trimmed_trim isBlank origin.toList⟩
  have first : IsEntry "http://a.test" := entry _ (by decide) (by decide) (by decide +kernel)
  have second : IsEntry "http://b.test" := entry _ (by decide) (by decide) (by decide +kernel)
  have entries : ∀ origin ∈ ["http://a.test", "http://b.test"], IsEntry origin := by
    simpa using ⟨first, second⟩
  have before : ∀ c ∈ "\u3000 ".toList, isBlank c = true := by
    simp [isBlank, isWhiteSpace]
  have behind : ∀ c ∈ "\u00A0".toList, isBlank c = true := by
    simp [isBlank, isWhiteSpace]
  obtain ⟨-, -, -, joined, -, -, around⟩ := origins_join_and_split {}
  exact ⟨entries, (joined _).mpr entries, around _ _ _ first before behind⟩

end PageServer.Settings
