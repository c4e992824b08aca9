import PageServer.Health.Check
import PageServer.Proofs.View.Outcomes
/-! What views and health checks see of a tree of files: the sources of templates in the resolver's
directory, and nothing else unless a template looks outside. Trees with the same sources are alike
to them. -/
namespace PageServer

open Files Template

/-- All templates of a directory have the same sources, or are missing or unreadable alike. -/
def SameTemplates (directory : String) (tree tree' : Tree) : Prop :=
  ∀ name, sourceOf tree directory name = sourceOf tree' directory name

section Views

variable {r : Resolver} {tree tree' : Tree} {store store' : Store} {facts : RequestFacts}
  {view : String} {model : Entries}

theorem load_congr {directory : String} (same : SameTemplates directory tree tree')
    (language : Language) : load language tree directory = load language tree' directory := by
  funext name
  simp only [load, same name]

theorem Resolver.hasView_congr (same : SameTemplates r.templatesDir tree tree') (view : String) :
    r.hasView tree view = r.hasView tree' view := by
  simp only [hasView, same (r.templateName view)]

/-- Rendering a view does not look outside. -/
def Resolver.Inward (r : Resolver) (store : Store) (facts : RequestFacts) (view : String)
    (model : Entries) : Prop :=
  ∀ source cache, r.fetch store.files store.cache (r.templateName view) = (.ok source, cache) →
    (r.language.render (r.templateName view) source (names view model) facts).Inward
      (r.fetch store.files) ⟨cache, []⟩

/-- Where sources are kept soundly, rendering looks outside if it does so when all of them are read
anew. -/
theorem Resolver.inward_iff (sound : store.Sound r) :
    r.Inward store facts view model ↔
      ∀ source, load r.language store.tree r.templatesDir (r.templateName view) = .ok source →
        (r.language.render (r.templateName view) source (names view model) facts).Inward
          (Work.reading (load r.language store.tree r.templatesDir)) ⟨(), []⟩ := by
  have serves := Cache.serves_load r.language r.templatesDir store.files
  obtain ⟨found, kept⟩ := serves _ sound (r.templateName view)
  have anew (source : List Char) : (r.language.render (r.templateName view) source
      (names view model) facts).Inward (r.fetch store.files)
        ⟨(r.fetch store.files store.cache (r.templateName view)).2, []⟩ ↔ _ :=
    serves.inward_iff kept _ []
  constructor
  · intro inward source loaded
    exact (anew source).mp (inward source _ (Prod.ext (found.trans loaded) rfl))
  · intro inward source cache fetched
    have loaded : load r.language store.tree r.templatesDir (r.templateName view) = .ok source := by
      rw [← fetch_eq sound, fetched]
    have same : (r.fetch store.files store.cache (r.templateName view)).2 = cache := by rw [fetched]
    rw [← same]
    exact (anew source).mpr (inward source loaded)

/-- Whether rendering looks outside depends on the templates, not on the sources kept. -/
theorem Resolver.Inward.congr (inward : r.Inward store facts view model)
    (same : SameTemplates r.templatesDir store.tree store'.tree) (sound : store.Sound r)
    (sound' : store'.Sound r) : r.Inward store' facts view model := by
  rw [inward_iff sound, load_congr same] at inward
  rw [inward_iff sound']
  exact inward

/-- In the standard language, what plain rendering follows does not look outside. -/
theorem Resolver.inward_of_plainText (standard : r.language = .standard) (sound : store.Sound r)
    (within : ∀ what, r.plainText store.tree facts view model ≠ .error (.beyond what)) :
    r.Inward store facts view model := by
  rw [inward_iff sound, standard]
  intro source loaded
  obtain ⟨page, made, there⟩ := page_of_source loaded
  have answered := answer_standard (load .standard store.tree r.templatesDir) made
    (names view model) facts
  refine (Work.run_of_answer answered (fun what beyond => within what ?_) store.outside).1
  simp only [plainText, there, bind, Except.bind]
  exact map_eq_error_iff.mp beyond

end Views

end PageServer
