import PageServer.Fault.Handler
import PageServer.View.Resolver
import PageServer.Proofs.Template.Cache
/-! Views that are shown and views that are not. A view is not found exactly where its own template
is not there; whatever else goes wrong, in its template or in others that it refers to, is answered
otherwise. -/
namespace PageServer

open Files Template Http

section Faults

variable {ε ε' α : Type} (change : ε → ε')

@[simp]
theorem mapError_ok (value : α) : (Except.ok value : Except ε α).mapError change = .ok value := rfl

@[simp]
theorem mapError_error (fault : ε) :
    (Except.error fault : Except ε α).mapError change = .error (change fault) := rfl

theorem ok_of_bind {ε α β : Type} {first : Except ε α} {next : α → Except ε β} {result : β}
    (done : (first >>= next) = .ok result) :
    ∃ value, first = .ok value ∧ next value = .ok result := by
  cases first with
  | error fault => cases done
  | ok value => exact ⟨value, rfl, done⟩

end Faults

/-! Sources -/

namespace Template

theorem RenderFault.ofSource_ne_notFound (fault : SourceFault) (message : String) :
    ofSource fault ≠ .notFound message := by
  cases fault <;> nofun

/-- A template is not there if it has no source, and in no other case. -/
theorem load_notFound_iff (language : Language) (tree : Tree) (directory name message : String) :
    load language tree directory name = .error (.notFound message) ↔
      sourceOf tree directory name = .error (.notFound message) := by
  unfold load
  cases sourceOf tree directory name with
  | error fault => simp [bind, Except.bind]
  | ok source =>
      cases checked : language.fault? name source with
      | none => simp [bind, Except.bind, checked, pure, Except.pure]
      | some fault =>
          simp [bind, Except.bind, checked, throw, throwThe, MonadExceptOf.throw,
            RenderFault.ofSource_ne_notFound]

end Template

/-- The sources that are kept for a resolver are those that its templates have, or are no longer
current. -/
def Store.Sound (store : Store) (r : Resolver) : Prop :=
  store.cache.Sound r.language r.templatesDir store.files

theorem Store.sound_ofTree (tree : Tree) (r : Resolver) : (Store.ofTree tree).Sound r :=
  Cache.sound_nil

namespace Resolver

variable (r : Resolver) (store : Store) (facts : RequestFacts) (view : String) (model : Entries)

/-- A view is missing if its own template is not there. -/
def Lacks (r : Resolver) (store : Store) (view : String) : Prop :=
  ∃ message, (r.fetch store.files store.cache (r.templateName view)).1 = .error (.notFound message)

/-- What a view's template is rendered to, and what has changed on the way. -/
def rendered (r : Resolver) (store : Store) (facts : RequestFacts) (view : String)
    (model : Entries) : Except RenderFault Markup × Session Cache :=
  match r.fetch store.files store.cache (r.templateName view) with
  | (.ok source, cache) =>
      (r.language.render (r.templateName view) source (names view model) facts).run
        (r.fetch store.files) store.outside ⟨cache, []⟩
  | (.error fault, cache) => (.error fault, ⟨cache, []⟩)

variable {r store view}

theorem compose_of_lacks (lacks : r.Lacks store view) :
    r.compose store facts view model =
      (.error (r.notFound view), (r.rendered store facts view model).2) := by
  obtain ⟨message, missing⟩ := lacks
  unfold compose rendered
  rcases fetched : r.fetch store.files store.cache (r.templateName view) with ⟨source, cache⟩
  rw [fetched] at missing
  subst missing
  simp only [fetched]

theorem compose_of_found (found : ¬ r.Lacks store view) :
    r.compose store facts view model =
      (r.outcome view (r.rendered store facts view model).1,
        (r.rendered store facts view model).2) := by
  unfold compose rendered
  unfold Lacks at found
  rcases fetched : r.fetch store.files store.cache (r.templateName view) with ⟨source, cache⟩
  rw [fetched] at found
  cases source with
  | ok source => simp only [fetched]
  | error fault =>
      cases fault with
      | notFound message => exact absurd ⟨message, rfl⟩ found
      | _ => simp only [fetched, outcome]

theorem compose_session :
    (r.compose store facts view model).2 = (r.rendered store facts view model).2 := by
  by_cases lacks : r.Lacks store view
  · rw [compose_of_lacks facts model lacks]
  · rw [compose_of_found facts model lacks]

theorem markup_of_lacks (lacks : r.Lacks store view) :
    r.markup store facts view model = .error (r.notFound view) := by
  rw [markup, compose_of_lacks facts model lacks]

theorem markup_of_found (found : ¬ r.Lacks store view) :
    r.markup store facts view model = r.outcome view (r.rendered store facts view model).1 := by
  rw [markup, compose_of_found facts model found]

variable (r) in
theorem nearest_notFound (view : String) :
    Handler.nearest (r.notFound view).errorClass = .viewNotFound := rfl

variable (r) in
theorem nearest_renderFailure (view : String) (fault : RenderFault) :
    Handler.nearest (r.renderFailure view fault).errorClass = .viewRender ∨
      Handler.nearest (r.renderFailure view fault).errorClass = .unexpected := by
  unfold renderFailure
  split
  · exact .inl rfl
  · exact .inr rfl

/-- Markup fails where the view's own template is not there, or at rendering it, or at characters
without bytes. -/
theorem error_of_markup {failure : Failure}
    (failed : r.markup store facts view model = .error failure) :
    (r.Lacks store view ∧ failure = r.notFound view) ∨
      (¬ r.Lacks store view ∧ ((∃ fault, failure = r.renderFailure view fault) ∨
        ∃ text, failure = .other "UnicodeEncodeError" text)) := by
  by_cases lacks : r.Lacks store view
  · rw [markup_of_lacks facts model lacks] at failed
    cases failed
    exact .inl ⟨lacks, rfl⟩
  · rw [markup_of_found facts model lacks] at failed
    refine .inr ⟨lacks, ?_⟩
    unfold outcome at failed
    split at failed
    · cases failed
    · cases failed
      exact .inr ⟨_, rfl⟩
    · cases failed
      exact .inl ⟨_, rfl⟩

theorem nearest_of_markup {failure : Failure}
    (failed : r.markup store facts view model = .error failure) :
    (r.Lacks store view ∧ Handler.nearest failure.errorClass = .viewNotFound) ∨
      (¬ r.Lacks store view ∧ (Handler.nearest failure.errorClass = .viewRender ∨
        Handler.nearest failure.errorClass = .unexpected)) := by
  rcases error_of_markup facts model failed with
    ⟨lacks, rfl⟩ | ⟨found, ⟨fault, rfl⟩ | ⟨text, rfl⟩⟩
  · exact .inl ⟨lacks, r.nearest_notFound view⟩
  · exact .inr ⟨found, r.nearest_renderFailure view fault⟩
  · exact .inr ⟨found, .inr rfl⟩

/-! Kept sources -/

section Sound

variable (sound : store.Sound r)
include sound

theorem fetch_eq (name : String) : (r.fetch store.files store.cache name).1 =
    load r.language store.tree r.templatesDir name :=
  sound.fetch_eq name

/-- Reading a view's source and fetching its template agree on whether it is there. -/
theorem hasView_eq_false_iff (view : String) :
    r.hasView store.tree view = .ok false ↔ r.Lacks store view := by
  simp only [Lacks, fetch_eq sound, load_notFound_iff, hasView]
  cases sourceOf store.tree r.templatesDir (r.templateName view) with
  | ok source => simp
  | error fault => cases fault <;> simp

/-- Where sources are kept soundly, the markup of a view is made as if all of them were read
anew. -/
theorem rendered_of_load {source : List Char}
    (loaded : load r.language store.tree r.templatesDir (r.templateName view) = .ok source) :
    let work := r.language.render (r.templateName view) source (names view model) facts
    let anew := work.run (Work.reading (load r.language store.tree r.templatesDir)) store.outside
      ⟨(), []⟩
    (r.rendered store facts view model).1 = anew.1 ∧
      (r.rendered store facts view model).2.edits = anew.2.edits := by
  have serves := Cache.serves_load r.language r.templatesDir store.files
  obtain ⟨found, kept⟩ := serves _ sound (r.templateName view)
  have fetched : r.fetch store.files store.cache (r.templateName view) =
      (.ok source, (r.fetch store.files store.cache (r.templateName view)).2) :=
    Prod.ext (found.trans loaded) rfl
  unfold rendered
  rw [fetched]
  exact serves.run kept _ store.outside []

theorem rendered_of_unloaded {fault : RenderFault}
    (unloaded : load r.language store.tree r.templatesDir (r.templateName view) = .error fault) :
    (r.rendered store facts view model).1 = .error fault ∧
      (r.rendered store facts view model).2.edits = [] := by
  have fetched : r.fetch store.files store.cache (r.templateName view) =
      (.error fault, (r.fetch store.files store.cache (r.templateName view)).2) :=
    Prod.ext ((fetch_eq sound _).trans unloaded) rfl
  unfold rendered
  rw [fetched]
  exact ⟨rfl, rfl⟩

end Sound

/-- What is kept after a view was shown is sound wherever marks tell, if what was kept before is. -/
theorem sound_of_present {next : MarkedTree}
    (sound : store.cache.Sound r.language r.templatesDir next) (tells : store.files.Tells next) :
    (r.present store facts view model).cache.Sound r.language r.templatesDir next := by
  have keeps (cache : Cache) (sound : cache.Sound r.language r.templatesDir next) (name : String) :
      (r.fetch store.files cache name).2.Sound r.language r.templatesDir next :=
    sound.fetch_later tells name
  have kept : (r.present store facts view model).cache =
      (r.compose store facts view model).2.kept :=
    rfl
  rw [kept, compose_session]
  have first := keeps _ sound (r.templateName view)
  unfold rendered
  rcases fetched : r.fetch store.files store.cache (r.templateName view) with ⟨source, cache⟩
  rw [fetched] at first
  cases source with
  | ok source => exact Work.run_keeps keeps _ _ first
  | error fault => exact first

/-! Responses -/

/-- The response that shows the markup of a view. -/
def pageOf (view s : String) : Response :=
  ⟨200, fullHeaders 200 [(viewHeader, view)] (some "text/html") (.text s), .text s⟩

theorem respond_eq (named : headerText view = .ok view) (s : String) :
    respond view s = .ok (pageOf view s) := by
  have plain : headerText "text/html" = .ok "text/html" := rfl
  simp only [respond, named, Http.respond, Option.mapM_some, plain, bind, Except.bind, pure,
    Except.pure, Functor.map, Except.map, mapError_ok, pageOf]

theorem present_result : (r.present store facts view model).result =
    (r.markup store facts view model).bind (respond view) := rfl

theorem present_of_named (named : headerText view = .ok view) :
    (r.present store facts view model).result =
      (r.markup store facts view model).map (pageOf view) := by
  rw [present_result]
  cases r.markup store facts view model with
  | error failure => rfl
  | ok s => exact respond_eq named s

end Resolver

end PageServer
