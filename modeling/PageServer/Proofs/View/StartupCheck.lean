import PageServer.View.StartupCheck
import PageServer.Proofs.Files.Lookup
import PageServer.Proofs.View.Markup
/-! The check of the templates against the resolver. The check looks up normal names of joined
paths, the resolver goes down part by part from the directory as it was written. Both find the same
files, so the check reports the views that the resolver misses. -/
namespace PageServer

open Files Template Text

/-! Views that are missed -/

namespace Resolver

/-- Whether a view is looked for and has no template. -/
def misses (r : Resolver) (tree : Tree) (view : String) : Bool :=
  match r.hasView tree view with
  | .ok false => true
  | _ => false

/-- The path at which a view's template is looked for. -/
def templatePath (r : Resolver) (view : String) : List Char :=
  filePath r.templatesDir.toList (properParts (r.templateName view).toList)

/-- The problem that a view without a template is. -/
def missingProblem (r : Resolver) (view : String) : SetupProblem :=
  .missingTemplate view (String.ofList
    ((PathName.ofPath r.templatesDir.toList).join (r.templateName view).toList).text)

/-- Views whose templates' names stay below the directory, and paths to them that can be looked
up. -/
structure Ordinary (r : Resolver) (views : List String) : Prop where
  directory : r.templatesDir ≠ ""
  relative : ∀ view ∈ views, (r.templateName view).toList.head? ≠ some '/'
  straight : ∀ view ∈ views, dotDot ∉ components (r.templateName view).toList
  shortNames : ∀ view ∈ views, ∀ part ∈ components (r.templateName view).toList,
    (encodeUtf8 part).length ≤ mostNameBytes
  shortDirectory : ∀ part ∈ components r.templatesDir.toList,
    (encodeUtf8 part).length ≤ mostNameBytes
  fits : ∀ view ∈ views, (encodeUtf8 (r.templatePath view)).length < tooManyPathBytes

variable {r : Resolver} {tree : Tree} {view : String} {views : List String}

theorem misses_iff : r.misses tree view = true ↔ r.hasView tree view = .ok false := by
  unfold misses
  split
  · simp [*]
  · rename_i other
    simpa using other

theorem misses_iff_no_file (straight : dotDot ∉ components (r.templateName view).toList) :
    r.misses tree view = true ↔ ∀ bytes, tree.find (r.templatePath view) ≠ .ok (.file bytes) := by
  have parts : nameParts? (r.templateName view).toList =
      some (properParts (r.templateName view).toList) := by
    simp only [nameParts?, List.contains_eq_mem, straight, decide_false, Bool.false_eq_true,
      ↓reduceIte]
    rfl
  have file : tree.fileBytes? (filePath r.templatesDir.toList
      (properParts (r.templateName view).toList)) = tree.fileBytes? (r.templatePath view) := rfl
  rw [misses_iff, hasView, sourceOf, fileOf, parts]
  simp only [file]
  unfold Tree.fileBytes?
  cases tree.find (r.templatePath view) with
  | error fault => simp [bind, Except.bind]
  | ok node =>
      cases node with
      | directory => simp [bind, Except.bind]
      | file bytes =>
          cases decoded : decodeUtf8 bytes <;> simp [bind, Except.bind, Except.map, decoded]

end Resolver

/-! Lookups of the check -/

section Lookups

variable {tree : Tree} {path : List Char}

theorem nodeNamed_ofPath (filled : path ≠ [])
    (fits : (encodeUtf8 path).length < tooManyPathBytes)
    (short : ∀ part ∈ properParts path, (encodeUtf8 part).length ≤ mostNameBytes) :
    nodeNamed tree (.ofPath path) = .ok (tree.find (PathName.ofPath path).text).toOption := by
  have looked : tree.find (PathName.ofPath path).text ≠ .error .nameTooLong :=
    Tree.text_not_nameTooLong filled fits short
  unfold nodeNamed
  cases found : tree.find (PathName.ofPath path).text with
  | ok node => rfl
  | error fault =>
      cases fault with
      | nameTooLong => exact absurd found looked
      | _ => rfl

theorem missingTemplates_of_looked (tree : Tree) (root : PathName) (suffix : String)
    (views : List String) (missing : String → Bool)
    (looked : ∀ view ∈ views, ∃ node,
      nodeNamed tree (root.join (view ++ suffix).toList) = .ok node ∧
      (missing view = false ↔ ∃ bytes, node = some (.file bytes))) :
    missingTemplates tree root suffix views = .ok ((views.filter missing).map fun view =>
      .missingTemplate view (String.ofList (root.join (view ++ suffix).toList).text)) := by
  induction views with
  | nil => rfl
  | cons view rest ih =>
      obtain ⟨node, here, there⟩ := looked view List.mem_cons_self
      have others := ih fun other member => looked other (.tail _ member)
      unfold missingTemplates
      simp only [here, others, bind, Except.bind]
      cases gone : missing view with
      | false =>
          obtain ⟨bytes, rfl⟩ := there.mp gone
          rw [List.filter_cons_of_neg (by simp [gone])]
          rfl
      | true =>
          rw [List.filter_cons_of_pos gone]
          split
          · rename_i bytes
            exact absurd (there.mpr ⟨bytes, rfl⟩) (by simp [gone])
          · rfl

end Lookups

/-! The check as a whole -/

namespace Resolver

variable {r : Resolver} {tree : Tree} {view : String} {views : List String}

theorem properParts_templatePath (filled : r.templatesDir.toList ≠ []) (view : String) :
    properParts (r.templatePath view) =
      properParts r.templatesDir.toList ++ properParts (r.templateName view).toList :=
  congrArg PathName.parts (PathName.ofPath_filePath filled
    (fun _ => isProper_of_mem) fun _ => slash_not_mem_of_mem)

theorem short_templatePath (filled : r.templatesDir.toList ≠ [])
    (above : ∀ part ∈ properParts r.templatesDir.toList, (encodeUtf8 part).length ≤ mostNameBytes)
    (below : ∀ part ∈ properParts (r.templateName view).toList,
      (encodeUtf8 part).length ≤ mostNameBytes) :
    ∀ part ∈ properParts (r.templatePath view), (encodeUtf8 part).length ≤ mostNameBytes := by
  intro part among
  rw [properParts_templatePath filled, List.mem_append] at among
  rcases among with up | down
  · exact above part up
  · exact below part down

theorem templatePath_ne_nil (filled : r.templatesDir.toList ≠ []) (view : String) :
    r.templatePath view ≠ [] := by
  intro empty
  have start := Tree.prefix_filePath r.templatesDir.toList
      (properParts (r.templateName view).toList)
  have path : filePath r.templatesDir.toList (properParts (r.templateName view).toList) =
      [] := empty
  rw [path] at start
  exact filled (List.prefix_nil.mp start)

/-- A name without proper parts stays at the directory. -/
theorem templatePath_of_stays (stays : properParts (r.templateName view).toList = []) :
    r.templatePath view = r.templatesDir.toList := by
  rw [templatePath, stays]
  rfl

/-- A path that is too long as a whole cannot be looked up, and ends the check. -/
theorem checkViews_of_long (filled : r.templatesDir.toList ≠ [])
    (relative : (r.templateName view).toList.head? ≠ some '/')
    (noNul : '\x00' ∉ r.templatePath view)
    (long : tooManyPathBytes ≤ (encodeUtf8 (PathName.ofPath (r.templatePath view)).text).length)
    (root : nodeNamed tree (.ofPath r.templatesDir.toList) = .ok (some .directory))
    (rest : List String) :
    checkViews tree r.templatesDir r.suffix (view :: rest) =
      .error (.inaccessible ⟨.nameTooLong, .ofPath (r.templatePath view)⟩) := by
  have joined : (PathName.ofPath r.templatesDir.toList).join (view ++ r.suffix).toList =
      .ofPath (r.templatePath view) :=
    PathName.join_eq_ofPath filled relative
  rw [← PathName.mem_text (by decide) (by decide)] at noNul
  have stopped : tree.find (PathName.ofPath (r.templatePath view)).text = .error .nameTooLong :=
    Tree.find_of_long (PathName.text_ne_nil _) noNul long
  have unknown : nodeNamed tree (.ofPath (r.templatePath view)) =
      .error (.inaccessible ⟨.nameTooLong, .ofPath (r.templatePath view)⟩) := by
    simp only [nodeNamed, stopped]
  simp only [checkViews, root, missingTemplates, joined, unknown, bind, Except.bind]

theorem Ordinary.filled (ordinary : r.Ordinary views) : r.templatesDir.toList ≠ [] := by
  simpa using ordinary.directory

theorem Ordinary.short (ordinary : r.Ordinary views) (member : view ∈ views) :
    ∀ part ∈ properParts (r.templatePath view), (encodeUtf8 part).length ≤ mostNameBytes :=
  short_templatePath ordinary.filled
    (fun part above => ordinary.shortDirectory part (List.mem_filter.mp above).1)
    fun part below => ordinary.shortNames view member part (List.mem_filter.mp below).1

theorem Ordinary.nodeNamed_template (ordinary : r.Ordinary views) (member : view ∈ views) :
    nodeNamed tree ((PathName.ofPath r.templatesDir.toList).join (r.templateName view).toList) =
      .ok (tree.find (PathName.ofPath (r.templatePath view)).text).toOption := by
  rw [PathName.join_eq_ofPath ordinary.filled (ordinary.relative view member)]
  exact nodeNamed_ofPath (templatePath_ne_nil ordinary.filled view) (ordinary.fits view member)
    (ordinary.short member)

theorem Ordinary.directory_fits (ordinary : r.Ordinary views) (some_view : views ≠ []) :
    (encodeUtf8 r.templatesDir.toList).length < tooManyPathBytes := by
  obtain ⟨view, member⟩ := List.exists_mem_of_ne_nil views some_view
  exact Nat.lt_of_le_of_lt (Tree.utf8_le_filePath _ _) (ordinary.fits view member)

theorem Ordinary.nodeNamed_directory (ordinary : r.Ordinary views) (some_view : views ≠ []) :
    nodeNamed tree (.ofPath r.templatesDir.toList) =
      .ok (tree.find (PathName.ofPath r.templatesDir.toList).text).toOption := by
  refine nodeNamed_ofPath ordinary.filled (ordinary.directory_fits some_view) ?_
  exact fun part among => ordinary.shortDirectory part (List.mem_filter.mp among).1

/-- In a directory that is there, the check finds the files that the resolver finds. -/
theorem Ordinary.misses_eq_false_iff (ordinary : r.Ordinary views) (member : view ∈ views)
    (root : tree.find (PathName.ofPath r.templatesDir.toList).text = .ok .directory) :
    r.misses tree view = false ↔
      ∃ bytes, tree.find (PathName.ofPath (r.templatePath view)).text = .ok (.file bytes) := by
  have missed : r.misses tree view = true ↔
      ∀ bytes, tree.find (r.templatePath view) ≠ .ok (.file bytes) :=
    misses_iff_no_file (ordinary.straight view member)
  rw [← Bool.not_eq_true, missed]
  push Not
  constructor
  · rintro ⟨bytes, found⟩
    exact ⟨bytes, Tree.find_text found⟩
  · rintro ⟨bytes, found⟩
    refine ⟨bytes, Tree.find_of_text (templatePath_ne_nil ordinary.filled view)
      (ordinary.fits view member) found (.inr ?_)⟩
    -- The directory itself is no file, so the name goes below it.
    have goes : properParts (r.templateName view).toList ≠ [] := by
      intro stays
      rw [templatePath_of_stays stays, root] at found
      cases found
    exact Tree.endsProper_filePath _ goes (fun _ => isProper_of_mem) fun _ => slash_not_mem_of_mem

theorem Ordinary.checkViews_of_directory (ordinary : r.Ordinary views) (some_view : views ≠ [])
    (root : tree.find r.templatesDir.toList = .ok .directory) :
    checkViews tree r.templatesDir r.suffix views =
      if (views.filter (r.misses tree)).isEmpty then .ok ()
      else .error (.invalid ((views.filter (r.misses tree)).map r.missingProblem)) := by
  have root := Tree.find_text root
  have problems := missingTemplates_of_looked tree (.ofPath r.templatesDir.toList) r.suffix views
    (r.misses tree) (by
      intro view member
      refine ⟨_, ordinary.nodeNamed_template member, ?_⟩
      rw [ordinary.misses_eq_false_iff member root]
      cases tree.find (PathName.ofPath (r.templatePath view)).text <;> simp [Except.toOption])
  unfold checkViews
  simp only [ordinary.nodeNamed_directory some_view, root, problems, bind, Except.bind,
    Except.toOption, List.isEmpty_map]
  split <;> rfl

/-- Without the directory, some view is missed, unless a file stands in the directory's place and no
view's name says anything more. -/
theorem Ordinary.misses_of_no_directory (ordinary : r.Ordinary views) (some_view : views ≠ [])
    (below : (∃ bytes, tree.find r.templatesDir.toList = .ok (.file bytes)) →
      ∃ view ∈ views, properParts (r.templateName view).toList ≠ [])
    (root : tree.find r.templatesDir.toList ≠ .ok .directory) :
    ∃ view ∈ views, r.misses tree view = true := by
  -- Below what is no directory nothing is found.
  have missed : ∀ view ∈ views, properParts (r.templateName view).toList ≠ [] →
      r.misses tree view = true := by
    intro view member goes
    refine (misses_iff_no_file (ordinary.straight view member)).mpr fun bytes found => root ?_
    exact Tree.directory_of_below ordinary.filled goes (fun _ => isProper_of_mem)
      (fun _ => slash_not_mem_of_mem) found
  by_cases named : ∃ view ∈ views, properParts (r.templateName view).toList ≠ []
  · obtain ⟨view, member, goes⟩ := named
    exact ⟨view, member, missed view member goes⟩
  · obtain ⟨view, member⟩ := List.exists_mem_of_ne_nil views some_view
    refine ⟨view, member, (misses_iff_no_file (ordinary.straight view member)).mpr ?_⟩
    intro bytes found
    have stays : properParts (r.templateName view).toList = [] := by
      by_contra goes
      exact named ⟨view, member, goes⟩
    exact named (below ⟨bytes, templatePath_of_stays stays ▸ found⟩)

theorem Ordinary.checkViews_of_no_directory (ordinary : r.Ordinary views) (some_view : views ≠ [])
    (root : tree.find r.templatesDir.toList ≠ .ok .directory) :
    checkViews tree r.templatesDir r.suffix views =
      .error (.invalid [.notDirectory
        (String.ofList (PathName.ofPath r.templatesDir.toList).text)]) := by
  have other : tree.find (PathName.ofPath r.templatesDir.toList).text ≠ .ok .directory := by
    intro found
    exact root (Tree.find_of_text ordinary.filled (ordinary.directory_fits some_view) found
      (.inl rfl))
  unfold checkViews
  simp only [ordinary.nodeNamed_directory some_view, bind, Except.bind]
  split
  · rename_i found
    cases looked : tree.find (PathName.ofPath r.templatesDir.toList).text with
    | error fault => simp [looked, Except.toOption] at found
    | ok node =>
        rw [looked] at found
        exact absurd (looked.trans (congrArg Except.ok (Option.some.inj found))) other
  · rfl

end Resolver

end PageServer
