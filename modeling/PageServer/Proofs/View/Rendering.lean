import PageServer.Proofs.Template.Reaching
import PageServer.Proofs.View.Lookup
import PageServer.Proofs.View.Markup
/-! Rendering views in the standard language. As long as templates neither look outside nor change
the model nor go beyond what is followed, a view's markup is what plain rendering makes of the
sources in the resolver's directory, whatever sources are kept; and that stops exactly at the faults
that rendering gets to, however far below the view's own template they lie. -/
namespace PageServer.Resolver

open Files Template Http Text

variable {r : Resolver} {store : Store} {tree : Tree} {facts : RequestFacts} {view : String}
  {model : Entries} {fault : RenderFault} {bytes : List UInt8} {s : List Char}

/-! Views with templates -/

theorem lacks_iff (sound : store.Sound r) : r.Lacks store view ↔ ¬ r.Has store.tree view := by
  rw [← hasView_eq_false_iff sound]
  constructor
  · rintro none ⟨bytes, holds⟩
    by_cases text : (Node.file bytes).IsText
    · rw [hasView_of_holds holds text] at none
      cases none
    · obtain ⟨fault, _, unread⟩ := hasView_of_unreadable holds text
      rw [unread] at none
      cases none
  · exact hasView_of_lacking

/-- The pages of the sources in a resolver's directory. -/
def pages (r : Resolver) (tree : Tree) : String → Except RenderFault Page :=
  pagesFrom (load .standard tree r.templatesDir)

/-- What a view's templates come to by plain rendering: the text that its own one is rendered to. -/
def plainText (r : Resolver) (tree : Tree) (facts : RequestFacts) (view : String)
    (model : Entries) : Except RenderFault (List Char) := do
  let page ← r.pages tree (r.templateName view)
  page.render (.plain (r.pages tree)) (names view model) facts

theorem pages_of_source {name : String} {source : List Char}
    (there : sourceOf tree r.templatesDir name = .ok source) :
    r.pages tree name = (prepare name source).mapError .ofSource := by
  unfold pages pagesFrom load
  rw [there]
  cases made : prepare name source with
  | ok page => simp [bind, Except.bind, Language.standard, made, pure, Except.pure]
  | error fault => simp [bind, Except.bind, Language.standard, made, throw, throwThe,
      MonadExceptOf.throw]

/-- A source that is sound makes the page of its name. -/
theorem page_of_source {name : String} {source : List Char}
    (loaded : load .standard tree r.templatesDir name = .ok source) :
    ∃ page, prepare name source = .ok page ∧ r.pages tree name = .ok page := by
  unfold load at loaded
  cases read : sourceOf tree r.templatesDir name with
  | error fault => simp [read, bind, Except.bind] at loaded
  | ok text =>
      cases made : prepare name text with
      | error fault =>
          simp [read, bind, Except.bind, Language.standard, made, throw, throwThe,
            MonadExceptOf.throw] at loaded
      | ok page =>
          have same : text = source := by
            simpa [read, bind, Except.bind, Language.standard, made, pure, Except.pure] using loaded
          subst same
          exact ⟨page, made, by rw [pages_of_source read, made, mapError_ok]⟩

/-- Markup is what plain rendering comes to, and the model is left alone, unless rendering goes
beyond what is followed. -/
theorem rendered_of_plainText (standard : r.language = .standard) (sound : store.Sound r)
    {x : Except RenderFault (List Char)} (plain : r.plainText store.tree facts view model = x)
    (within : ∀ what, x ≠ .error (.beyond what)) :
    (r.rendered store facts view model).1 = x.map .ofText ∧
      (r.rendered store facts view model).2.edits = [] := by
  cases loaded : load .standard store.tree r.templatesDir (r.templateName view) with
  | error fault =>
      have unread : r.pages store.tree (r.templateName view) = .error fault := by
        simp only [pages, pagesFrom, loaded, Except.bind]
      simp only [plainText, unread, bind, Except.bind] at plain
      subst plain
      exact rendered_of_unloaded facts model sound (by rw [standard]; exact loaded)
  | ok source =>
      obtain ⟨page, made, there⟩ := page_of_source loaded
      simp only [plainText, there, bind, Except.bind] at plain
      have answered := answer_standard (load .standard store.tree r.templatesDir) made
        (names view model) facts
      rw [← pages, plain] at answered
      have inside (what : String) : x.map Markup.ofText ≠ .error (.beyond what) :=
        fun beyond => within what (map_eq_error_iff.mp beyond)
      obtain ⟨_, _, ran⟩ := Work.run_of_answer answered inside store.outside
      obtain ⟨result, edits⟩ := rendered_of_load facts model sound (by rw [standard]; exact loaded)
      rw [standard, ran] at result edits
      exact ⟨result, edits⟩

/-! Faults on the way -/

/-- A fault that plain rendering of a view with a template stops at: its template is no text, or its
text makes no page, or rendering the page gets to a point that meets the fault. -/
inductive Meets (r : Resolver) (tree : Tree) (facts : RequestFacts) (view : String)
    (model : Entries) : RenderFault → Prop
  | unreadable {bytes : List UInt8} {fault : Utf8Fault} (holds : r.Holds tree view bytes)
      (bare : decodeUtf8 bytes = .error fault) : Meets r tree facts view model (.undecodable fault)
  | unprepared {bytes : List UInt8} {s : List Char} {fault : SourceFault}
      (holds : r.Holds tree view bytes) (text : decodeUtf8 bytes = .ok s)
      (faulty : prepare (r.templateName view) (unifyLineEnds s) = .error fault) :
      Meets r tree facts view model (.ofSource fault)
  | reached {page : Page} {fault : RenderFault}
      (made : r.pages tree (r.templateName view) = .ok page)
      (arises : Arises (r.pages tree) commonNames (page.start (names view model) facts) fault) :
      Meets r tree facts view model fault

/-- Rendering a view takes more jumps than there are, as it does where templates include each other
without end. -/
def Exceeds (r : Resolver) (tree : Tree) (facts : RequestFacts) (view : String) (model : Entries) :
    Prop :=
  r.plainText tree facts view model = .error .tooDeep

theorem pages_of_holds (holds : r.Holds tree view bytes) :
    r.pages tree (r.templateName view) =
      ((decodeUtf8 bytes).mapError .undecodable).bind fun s =>
        (prepare (r.templateName view) (unifyLineEnds s)).mapError .ofSource := by
  have source := sourceOf_of_holds holds
  cases decoded : decodeUtf8 bytes with
  | error fault =>
      simp only [decoded, mapError_error, Except.map] at source
      simp only [pages, pagesFrom, load, source, bind, Except.bind, mapError_error]
  | ok s =>
      rw [decoded] at source
      exact pages_of_source source

theorem Meets.has (meets : r.Meets tree facts view model fault) : r.Has tree view := by
  cases meets with
  | unreadable holds bare => exact ⟨_, holds⟩
  | unprepared holds text faulty => exact ⟨_, holds⟩
  | reached made arises =>
      by_contra lacking
      obtain ⟨message, missing⟩ := sourceOf_of_lacking lacking
      simp [pages, pagesFrom, load, missing, bind, Except.bind] at made

theorem Meets.fails (meets : r.Meets tree facts view model fault) :
    r.plainText tree facts view model = .error fault := by
  cases meets with
  | unreadable holds bare =>
      simp only [plainText, pages_of_holds holds, bare, mapError_error, Except.bind, bind]
  | unprepared holds text faulty =>
      simp only [plainText, pages_of_holds holds, text, faulty, mapError_ok, mapError_error,
        Except.bind, bind]
  | reached made arises =>
      simp only [plainText, made, bind, Except.bind, Page.render_eq]
      exact arises.fails

/-- Where a view has a template, nothing but such a fault ends its plain rendering early, as long as
there are jumps. -/
theorem meets_of_plainText (has : r.Has tree view) (other : fault ≠ .tooDeep)
    (failed : r.plainText tree facts view model = .error fault) :
    r.Meets tree facts view model fault := by
  obtain ⟨bytes, holds⟩ := has
  unfold plainText at failed
  rcases bind_eq_error_iff.mp failed with unmade | ⟨page, made, unrendered⟩
  · rw [pages_of_holds holds] at unmade
    cases decoded : decodeUtf8 bytes with
    | error reason =>
        simp only [decoded, mapError_error, Except.bind, Except.error.injEq] at unmade
        subst unmade
        exact .unreadable holds decoded
    | ok s =>
        cases made : prepare (r.templateName view) (unifyLineEnds s) with
        | ok page => simp [decoded, made, Except.bind] at unmade
        | error reason =>
            simp only [decoded, made, mapError_ok, mapError_error, Except.bind,
              Except.error.injEq] at unmade
            subst unmade
            exact .unprepared holds decoded made
  · rw [Page.render_eq, fails_iff_arises other] at unrendered
    exact .reached made unrendered

end PageServer.Resolver
