import PageServer.Proofs.Service.Startup
/-! Whether the start goes through. The check of the templates looks up the directory and, in it, a
file for each view of a page. Whatever it finds or misses is logged, and the service goes on. Only a
path that cannot be looked up for its length ends the check, and the start with it. -/
namespace PageServer

open Files Template Text

/-! The check -/

section Check

variable {tree : Tree} {root : PathName} {suffix : String} {views : List String}

theorem nodeNamed_of_overlong {name : PathName} (overlong : tree.Overlong name.text) :
    nodeNamed tree name = .error (.inaccessible ⟨.nameTooLong, name⟩) := by
  have stops := Tree.find_nameTooLong_iff.mpr overlong
  simp only [nodeNamed, stops]

theorem nodeNamed_of_not_overlong {name : PathName} (usual : ¬ tree.Overlong name.text) :
    nodeNamed tree name = .ok (tree.find name.text).toOption := by
  have goes : tree.find name.text ≠ .error .nameTooLong := mt Tree.find_nameTooLong_iff.mp usual
  unfold nodeNamed
  cases found : tree.find name.text with
  | ok node => rfl
  | error fault =>
      cases fault with
      | nameTooLong => exact absurd found goes
      | _ => rfl

/-- Whether there is no file at a path. -/
def lacksFile (tree : Tree) (name : PathName) : Bool :=
  match tree.find name.text with
  | .ok (.file _) => false
  | _ => true

theorem missingTemplates_of_usual
    (usual : ∀ view ∈ views, ¬ tree.Overlong (root.join (view ++ suffix).toList).text) :
    missingTemplates tree root suffix views =
      .ok ((views.filter fun view => lacksFile tree (root.join (view ++ suffix).toList)).map
        fun view => .missingTemplate view
          (String.ofList (root.join (view ++ suffix).toList).text)) := by
  apply missingTemplates_of_looked
  intro view member
  refine ⟨_, nodeNamed_of_not_overlong (usual view member), ?_⟩
  unfold lacksFile
  cases tree.find (root.join (view ++ suffix).toList).text with
  | error fault => simp [Except.toOption]
  | ok node => cases node <;> simp [Except.toOption]

-- By the views: the first one with a path that is too long ends the check.
theorem missingTemplates_of_overlong
    (overlong : ∃ view ∈ views, tree.Overlong (root.join (view ++ suffix).toList).text) :
    ∃ view ∈ views, tree.Overlong (root.join (view ++ suffix).toList).text ∧
      missingTemplates tree root suffix views =
        .error (.inaccessible ⟨.nameTooLong, root.join (view ++ suffix).toList⟩) := by
  induction views with
  | nil =>
      obtain ⟨view, member, _⟩ := overlong
      cases member
  | cons view rest ih =>
      by_cases here : tree.Overlong (root.join (view ++ suffix).toList).text
      · refine ⟨view, List.mem_cons_self, here, ?_⟩
        simp only [missingTemplates, nodeNamed_of_overlong here, bind, Except.bind]
      · have later : ∃ view ∈ rest, tree.Overlong (root.join (view ++ suffix).toList).text := by
          obtain ⟨other, member, long⟩ := overlong
          rcases List.mem_cons.mp member with rfl | further
          · exact absurd long here
          · exact ⟨other, further, long⟩
        obtain ⟨other, member, long, failed⟩ := ih later
        refine ⟨other, List.mem_cons_of_mem view member, long, ?_⟩
        simp only [missingTemplates, nodeNamed_of_not_overlong here, failed, bind, Except.bind]

/-- The check looks up a path that is too long: that of the directory or, if this is there, that of
a view's template. -/
def CheckBlocked (tree : Tree) (root : PathName) (suffix : String) (views : List String) : Prop :=
  tree.Overlong root.text ∨ (tree.find root.text = .ok .directory ∧
    ∃ view ∈ views, tree.Overlong (root.join (view ++ suffix).toList).text)

variable {templatesDir : String}

theorem checkViews_of_blocked
    (blocked : CheckBlocked tree (.ofPath templatesDir.toList) suffix views) :
    ∃ path : PathName, tree.Overlong path.text ∧
      checkViews tree templatesDir suffix views = .error (.inaccessible ⟨.nameTooLong, path⟩) := by
  by_cases whole : tree.Overlong (PathName.ofPath templatesDir.toList).text
  · refine ⟨_, whole, ?_⟩
    simp only [checkViews, nodeNamed_of_overlong whole, bind, Except.bind]
  · obtain ⟨there, some_long⟩ := blocked.resolve_left whole
    obtain ⟨view, _, long, failed⟩ := missingTemplates_of_overlong some_long
    refine ⟨_, long, ?_⟩
    simp only [checkViews, nodeNamed_of_not_overlong whole, there, Except.toOption, failed, bind,
      Except.bind]

theorem checkViews_of_not_blocked
    (free : ¬ CheckBlocked tree (.ofPath templatesDir.toList) suffix views) :
    checkViews tree templatesDir suffix views = .ok () ∨
      ∃ problems, checkViews tree templatesDir suffix views = .error (.invalid problems) := by
  obtain ⟨whole, others⟩ := not_or.mp free
  have decided (problems : List SetupProblem) (found : Except SetupFault Unit)
      (same : found = if problems.isEmpty then .ok () else .error (.invalid problems)) :
      found = .ok () ∨ ∃ problems, found = .error (.invalid problems) := by
    rw [same]
    split
    · exact .inl rfl
    · exact .inr ⟨problems, rfl⟩
  by_cases there : tree.find (PathName.ofPath templatesDir.toList).text = .ok .directory
  · have usual : ∀ view ∈ views, ¬ tree.Overlong
        ((PathName.ofPath templatesDir.toList).join (view ++ suffix).toList).text :=
      fun view member long => others ⟨there, view, member, long⟩
    have missing := missingTemplates_of_usual usual
    apply decided
    simp only [checkViews, nodeNamed_of_not_overlong whole, there, Except.toOption, missing, bind,
      Except.bind]
    rfl
  · right
    refine ⟨[.notDirectory (String.ofList (PathName.ofPath templatesDir.toList).text)], ?_⟩
    simp only [checkViews, nodeNamed_of_not_overlong whole, bind, Except.bind]
    cases looked : tree.find (PathName.ofPath templatesDir.toList).text with
    | error fault => rfl
    | ok node =>
        cases node with
        | file bytes => rfl
        | directory => exact absurd looked there

/-- Components and paths within the bounds for lookups, whatever files there are. -/
structure Resolver.Short (r : Resolver) (views : List String) : Prop where
  directory : r.templatesDir ≠ ""
  above : ∀ part ∈ properParts r.templatesDir.toList, (encodeUtf8 part).length ≤ mostNameBytes
  below : ∀ view ∈ views, ∀ part ∈ properParts (r.templateName view).toList,
    (encodeUtf8 part).length ≤ mostNameBytes
  fits : ∀ view ∈ views, (encodeUtf8 (r.templatePath view)).length < tooManyPathBytes

variable {r : Resolver}

theorem Resolver.Short.filled (short : r.Short views) : r.templatesDir.toList ≠ [] := by
  simpa using short.directory

theorem Resolver.Short.not_blocked (short : r.Short views) (some_view : views ≠ [])
    (relative : ∀ view ∈ views, (r.templateName view).toList.head? ≠ some '/') (tree : Tree) :
    ¬ CheckBlocked tree (.ofPath r.templatesDir.toList) r.suffix views := by
  have filled := short.filled
  rintro (whole | ⟨_, view, member, long⟩)
  · obtain ⟨view, member⟩ := List.exists_mem_of_ne_nil views some_view
    have fits : (encodeUtf8 r.templatesDir.toList).length < tooManyPathBytes :=
      Nat.lt_of_le_of_lt (Tree.utf8_le_filePath _ _) (short.fits view member)
    exact Tree.text_not_nameTooLong filled fits short.above (Tree.find_nameTooLong_iff.mpr whole)
  · change tree.Overlong ((PathName.ofPath r.templatesDir.toList).join
      (r.templateName view).toList).text at long
    rw [PathName.join_eq_ofPath filled (relative view member)] at long
    exact Tree.text_not_nameTooLong (Resolver.templatePath_ne_nil filled view)
      (short.fits view member)
      (Resolver.short_templatePath filled short.above (short.below view member))
      (Tree.find_nameTooLong_iff.mpr long)

end Check

/-! The start -/

namespace Service

variable {τ : Type} {service : Service τ} {tree : Tree}

/-- The check that the start makes meets a path that is too long. -/
def StartBlocked (service : Service τ) (tree : Tree) : Prop :=
  CheckBlocked tree (.ofPath service.resolver.templatesDir.toList) service.resolver.suffix
    Pages.viewNames

/-- The entries in front of those by the check. -/
def opening : List LogEntry :=
  [ruler, note ("pagedemo " ++ Health.version ++ " starting up...")]

/-- The entries behind those by the check. -/
def closing (service : Service τ) : List LogEntry :=
  [note ("Templates: " ++ service.resolver.templatesDir)] ++ Pages.table.map pageEntry ++
    [note ("Server ready at http://" ++ service.settings.backendHost ++ ":" ++
      toString service.settings.backendPort), ruler]

/-- The entry about problems that the check has found. -/
def problemEntry (problems : List SetupProblem) : LogEntry :=
  ⟨startupLogger, .error, "Configuration error: " ++ (SetupFault.invalid problems).message, none,
    none⟩

theorem startupEntries_of_checked {checked : List LogEntry}
    (check : service.checkEntries tree = .ok checked) :
    service.startupEntries tree = .ok (opening ++ checked ++ service.closing) := by
  simp only [startupEntries, check, opening, closing, bind, Except.bind, pure, Except.pure,
    List.append_assoc]

theorem startupEntries_of_blocked (blocked : service.StartBlocked tree) :
    ∃ path : PathName, tree.Overlong path.text ∧
      service.startupEntries tree = .error (.inaccessible ⟨.nameTooLong, path⟩) := by
  obtain ⟨path, long, failed⟩ := checkViews_of_blocked blocked
  refine ⟨path, long, ?_⟩
  simp only [startupEntries, checkEntries, failed, bind, Except.bind]

theorem startupEntries_of_not_blocked (free : ¬ service.StartBlocked tree) :
    (checkViews tree service.resolver.templatesDir service.resolver.suffix Pages.viewNames =
          .ok () ∧
        service.startupEntries tree = .ok (opening ++ service.closing)) ∨
      ∃ problems,
        checkViews tree service.resolver.templatesDir service.resolver.suffix Pages.viewNames =
            .error (.invalid problems) ∧
          service.startupEntries tree =
            .ok (opening ++ [problemEntry problems] ++ service.closing) := by
  rcases checkViews_of_not_blocked free with passes | ⟨problems, fails⟩
  · have check : service.checkEntries tree = .ok [] := by
      simp only [checkEntries, passes]
    have entries := startupEntries_of_checked check
    rw [List.append_nil] at entries
    exact .inl ⟨passes, entries⟩
  · have check : service.checkEntries tree = .ok [problemEntry problems] := by
      simp only [checkEntries, fails, problemEntry]
    exact .inr ⟨problems, fails, startupEntries_of_checked check⟩

theorem relative_of_page (r : Resolver) :
    ∀ view ∈ Pages.viewNames, (r.templateName view).toList.head? ≠ some '/' := by
  intro view member
  simp only [Pages.viewNames, Pages.table, List.map_cons, List.map_nil, List.mem_cons,
    List.not_mem_nil, or_false] at member
  rcases member with rfl | rfl <;>
  · rw [Resolver.templateName, String.toList_append]
    rintro ⟨⟩

/-- Where the directory is there, a page's template whose name is too long stops the start. -/
theorem startBlocked_of_long_name (filled : service.resolver.templatesDir ≠ "")
    (there : tree.find (PathName.ofPath service.resolver.templatesDir.toList).text = .ok .directory)
    {view : String} (member : view ∈ Pages.viewNames)
    (noNul : '\x00' ∉ (service.resolver.templateName view).toList)
    (whole : '/' ∉ (service.resolver.templateName view).toList)
    (long : mostNameBytes < (encodeUtf8 (service.resolver.templateName view).toList).length) :
    service.StartBlocked tree := by
  have path : service.resolver.templatesDir.toList ≠ [] := by simpa using filled
  exact .inr ⟨there, view, member, Tree.overlong_of_long_name path there noNul whole long⟩

/-- The start with any files. It goes through unless the path of the directory is too long to be
looked up or, in the directory, that of a template of a page's view. Then the service logs its
templates and its pages and is ready, and what is wrong is told in one entry before that, if
anything is. Otherwise the start ends with the path that is too long. Where all components and paths
are within the bounds, no files can keep the service from starting. -/
theorem startup_completes_iff {τ : Type} (service : Service τ) (tree : Tree) :
    let check := checkViews tree service.resolver.templatesDir service.resolver.suffix
      Pages.viewNames
    ((∃ entries, service.startupEntries tree = .ok entries) ↔ ¬ service.StartBlocked tree) ∧
      (∀ entries, service.startupEntries tree = .ok entries →
        (check = .ok () ∧ entries = opening ++ service.closing) ∨
        ∃ problems, check = .error (.invalid problems) ∧
          entries = opening ++ [problemEntry problems] ++ service.closing) ∧
      (service.StartBlocked tree → ∃ path : PathName, tree.Overlong path.text ∧
        service.startupEntries tree = .error (.inaccessible ⟨.nameTooLong, path⟩)) ∧
      (service.resolver.Short Pages.viewNames → ∀ files, ¬ service.StartBlocked files) ∧
      shutdownEntries.map (·.message) = ["pagedemo shutting down...", "Shutdown complete."] := by
  intro check
  refine ⟨⟨?_, fun free => ?_⟩, ?_, startupEntries_of_blocked, fun short files => ?_, rfl⟩
  · rintro ⟨entries, started⟩ blocked
    obtain ⟨path, _, failed⟩ := startupEntries_of_blocked blocked
    cases started.symm.trans failed
  · rcases startupEntries_of_not_blocked free with ⟨_, started⟩ | ⟨problems, _, started⟩
    · exact ⟨_, started⟩
    · exact ⟨_, started⟩
  · intro entries started
    by_cases blocked : service.StartBlocked tree
    · obtain ⟨path, _, failed⟩ := startupEntries_of_blocked blocked
      cases started.symm.trans failed
    · rcases startupEntries_of_not_blocked blocked with ⟨passes, same⟩ | ⟨problems, fails, same⟩
      · exact .inl ⟨passes, Except.ok.inj (started.symm.trans same)⟩
      · exact .inr ⟨problems, fails, Except.ok.inj (started.symm.trans same)⟩
  · exact short.not_blocked (List.cons_ne_nil _ _) (relative_of_page service.resolver) files

/-- One of the two pages has no template, which is told, and the service starts. -/
theorem startup_completes_of_greeting :
    ∃ problems, greeter.startupEntries greeting =
      .ok (opening ++ [problemEntry problems] ++ greeter.closing) := by
  have short : greeter.resolver.Short Pages.viewNames := by
    constructor <;> decide +kernel
  obtain ⟨completes, entries_of, _, bounded, _⟩ := startup_completes_iff greeter greeting
  obtain ⟨entries, started⟩ := completes.mpr (bounded short greeting)
  have check : checkViews greeting greeter.resolver.templatesDir greeter.resolver.suffix
      Pages.viewNames ≠ .ok () := by
    decide +kernel
  rcases entries_of entries started with ⟨passes, _⟩ | ⟨problems, _, same⟩
  · exact absurd passes check
  · exact ⟨problems, same ▸ started⟩

/-- A service whose templates' names end with too long a suffix. -/
def overburdened : Service Rat :=
  { settings := {}
    resolver := .standard "/@/templates" ("." ++ String.ofList (List.replicate 300 'x'))
    start := 0 }

theorem startup_ends_of_long_suffix :
    Resolver.make? .standard "/@/templates" ("." ++ String.ofList (List.replicate 300 'x')) =
        some overburdened.resolver ∧
      ∃ path : PathName, overburdened.startupEntries greeting =
        .error (.inaccessible ⟨.nameTooLong, path⟩) := by
  have name : (overburdened.resolver.templateName "index").toList =
      "index.".toList ++ List.replicate 300 'x' := by
    simp only [Resolver.templateName, overburdened, Resolver.standard, String.toList_append,
      String.toList_ofList]
    rfl
  have bare {c : Char} (front : c ∉ "index.".toList) (other : c ≠ 'x') :
      c ∉ (overburdened.resolver.templateName "index").toList := by
    rw [name, List.mem_append]
    rintro (early | late)
    · exact front early
    · exact other (List.eq_of_mem_replicate late)
  have long : mostNameBytes <
      (encodeUtf8 (overburdened.resolver.templateName "index").toList).length := by
    have letters (count : Nat) :
        (List.flatMap utf8Bytes (List.replicate count 'x')).length = count := by
      have one : (utf8Bytes 'x').length = 1 := by decide
      rw [List.length_flatMap, List.map_replicate, List.sum_replicate_nat, one, Nat.mul_one]
    rw [name, encodeUtf8, List.flatMap_append, List.length_append, letters]
    unfold mostNameBytes
    omega
  have blocked : overburdened.StartBlocked greeting :=
    startBlocked_of_long_name (by decide) (by decide +kernel) (.head _)
      (bare (by decide) (by decide)) (bare (by decide) (by decide)) long
  obtain ⟨path, _, failed⟩ := startupEntries_of_blocked blocked
  exact ⟨rfl, path, failed⟩

end Service

end PageServer
