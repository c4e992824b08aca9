import PageServer.Bundled
import PageServer.View.Resolver
import PageServer.Service.Pages
import PageServer.Proofs.Template.Steady
import PageServer.Proofs.View.Outcomes
/-! Views of the templates that come with the service. Their pages are steady, so they have markup
for every request. -/
namespace PageServer

open Files Template Text

namespace Bundled

/-- The templates that come with the service, by name. -/
def sources : List (String × String) :=
  [("base.html", layout), ("index.html", indexPage), ("login.html", loginPage)]

/-- Whether a source makes a steady page that extends the pages of some names. -/
def makesSteady (name : String) (parents : List String) (source : List Char) : Bool :=
  match prepare name source with
  | .ok page => page.isSteady && page.parents == parents
  | .error _ => false

/-- Whether a text is what its bytes are read as. -/
def readsBack (s : List Char) : Bool :=
  match decodeUtf8 (encodeUtf8 s) with
  | .ok t => unifyLineEnds t == s
  | .error _ => false

/-- Whether a source makes such a page, and is also what its bytes are read as. -/
def isSound (name : String) (parents : List String) (source : List Char) : Bool :=
  makesSteady name parents source && readsBack source

-- The texts are spelled out before they are read, since taking characters out of joined texts one by
-- one would take much longer.
theorem layout_sound : isSound "base.html" [] layout.toList = true := by
  unfold layout
  simp only [String.toList_append, String.reduceToList]
  decide +kernel

theorem indexPage_sound : isSound "index.html" ["base.html"] indexPage.toList = true := by
  unfold indexPage
  simp only [String.toList_append, String.reduceToList]
  decide +kernel

theorem loginPage_sound : isSound "login.html" ["base.html"] loginPage.toList = true := by
  unfold loginPage
  simp only [String.toList_append, String.reduceToList]
  decide +kernel

theorem isSound_iff {name : String} {parents : List String} {source : List Char} :
    isSound name parents source = true ↔
      makesSteady name parents source = true ∧ readsBack source = true :=
  Bool.and_eq_true_iff

theorem sourceOf_of_readsBack {tree : Tree} {directory name : String} {text : List Char}
    (file : fileOf tree directory name = .ok (encodeUtf8 text)) (same : readsBack text = true) :
    sourceOf tree directory name = .ok text := by
  unfold readsBack at same
  rw [sourceOf, file]
  cases decoded : decodeUtf8 (encodeUtf8 text) with
  | error fault => simp [decoded] at same
  | ok t =>
      simp only [decoded, beq_iff_eq] at same
      simp only [bind, Except.bind, decoded, mapError_ok, Except.map, same]

theorem layout_mem : ("base.html", layout) ∈ sources := by
  simp [sources]

theorem source_of_view {view : String} (member : view ∈ Pages.viewNames) :
    ∃ source, (view ++ ".html", source) ∈ sources ∧
      isSound (view ++ ".html") ["base.html"] source.toList = true := by
  have names : Pages.viewNames = ["index", "login"] := rfl
  rw [names, List.mem_cons, List.mem_singleton] at member
  rcases member with rfl | rfl
  · exact ⟨indexPage, by simp [sources], indexPage_sound⟩
  · exact ⟨loginPage, by simp [sources], loginPage_sound⟩

variable {name : String} {parents : List String} {source : List Char}

theorem page_of_makesSteady (steady : makesSteady name parents source = true) :
    ∃ page, prepare name source = .ok page ∧ page.isSteady = true ∧ page.parents = parents := by
  unfold makesSteady at steady
  cases made : prepare name source with
  | error fault => simp [made] at steady
  | ok page =>
      simp only [made, Bool.and_eq_true, beq_iff_eq] at steady
      exact ⟨page, rfl, steady⟩

/-- A template that is there is the page of its source. -/
theorem pages_of_makesSteady {r : Resolver} {tree : Tree}
    (there : sourceOf tree r.templatesDir name = .ok source)
    (steady : makesSteady name parents source = true) :
    ∃ page, r.pages tree name = .ok page ∧ page.isSteady = true ∧ page.parents = parents := by
  obtain ⟨page, made, good⟩ := page_of_makesSteady steady
  refine ⟨page, ?_, good⟩
  simp only [Resolver.pages_of_source there, made, mapError_ok]

end Bundled

namespace Resolver

variable {r : Resolver} {tree : Tree} {view : String}

/-- The resolver finds the templates that come with the service. -/
structure OverBundled (r : Resolver) (tree : Tree) : Prop where
  language : r.language = .standard
  suffix : r.suffix = ".html"
  sources : ∀ entry ∈ Bundled.sources, sourceOf tree r.templatesDir entry.1 = .ok entry.2.toList

/-- The templates lie where the resolver looks for them unless it is told otherwise. -/
theorem overBundled_tree : (standard bundledTemplatesDir ".html").OverBundled Bundled.tree where
  language := rfl
  suffix := rfl
  sources := by
    intro entry member
    simp only [Bundled.sources, List.mem_cons, List.not_mem_nil, or_false] at member
    rcases member with rfl | rfl | rfl
    · exact Bundled.sourceOf_of_readsBack rfl (Bundled.isSound_iff.mp Bundled.layout_sound).2
    · exact Bundled.sourceOf_of_readsBack rfl (Bundled.isSound_iff.mp Bundled.indexPage_sound).2
    · exact Bundled.sourceOf_of_readsBack rfl (Bundled.isSound_iff.mp Bundled.loginPage_sound).2

theorem OverBundled.source (bundled : r.OverBundled tree) (member : view ∈ Pages.viewNames) :
    ∃ source, sourceOf tree r.templatesDir (r.templateName view) = .ok source ∧
      Bundled.makesSteady (r.templateName view) ["base.html"] source = true := by
  obtain ⟨source, listed, sound⟩ := Bundled.source_of_view member
  have there := bundled.sources _ listed
  rw [templateName, bundled.suffix]
  exact ⟨source.toList, there, (Bundled.isSound_iff.mp sound).1⟩

theorem OverBundled.hasView (bundled : r.OverBundled tree) (member : view ∈ Pages.viewNames) :
    r.hasView tree view = .ok true := by
  obtain ⟨source, there, _⟩ := bundled.source member
  simp only [Resolver.hasView, there]

/-- The pages of the service are rendered for every request. -/
theorem OverBundled.plainText_writable (bundled : r.OverBundled tree) (member : view ∈ Pages.viewNames)
    (facts : RequestFacts) (model : Entries) :
    ∃ s, r.plainText tree facts view model = .ok s ∧ Writable s := by
  have layout := bundled.sources _ Bundled.layout_mem
  obtain ⟨base, fetched, steady, no_parent⟩ :=
    Bundled.pages_of_makesSteady layout (Bundled.isSound_iff.mp Bundled.layout_sound).1
  have base_stands : base.Stands (r.pages tree) 1 := by
    refine ⟨steady, fun name among => ?_⟩
    rw [no_parent] at among
    exact nomatch among
  obtain ⟨source, there, made⟩ := bundled.source member
  obtain ⟨page, found, steady, extends_base⟩ := Bundled.pages_of_makesSteady there made
  have stands : page.Stands (r.pages tree) 2 := by
    refine ⟨steady, fun name among => ?_⟩
    rw [extends_base, List.mem_singleton] at among
    exact ⟨base, among ▸ fetched, base_stands⟩
  obtain ⟨s, rendered, plain⟩ := page.render_of_stands (by decide) stands (names view model) facts
  refine ⟨s, ?_, plain⟩
  simp only [Resolver.plainText, found, bind, Except.bind, rendered]

/-- The pages of the service have markup for every request, whatever sources are kept. -/
theorem OverBundled.markup {store : Store} (bundled : r.OverBundled store.tree)
    (sound : store.Sound r) (member : view ∈ Pages.viewNames) (facts : RequestFacts)
    (model : Entries) : ∃ s, r.markup store facts view model = .ok s := by
  obtain ⟨s, rendered, plain⟩ := bundled.plainText_writable member facts model
  have yields := (rendered_of_plainText bundled.language sound rendered nofun).1
  refine ⟨String.ofList s, markup_of_whole (yields.trans ?_)⟩
  rw [← Markup.ofText_of_writable plain]
  rfl

end Resolver

end PageServer
