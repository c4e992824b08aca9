import PageServer.Proofs.View.Rendering
/-! How showing a view turns out. A view that has no template is not found. One that has a template
is shown, unless reading the template or rendering it stops at a fault, or the text or the view's
name cannot be sent. A fault is told apart by its kind alone: that it may lie in a template far
below the view's own one, even in one that is missing there, changes nothing. All this is so in any
language of templates; in the standard one the faults on the way are known. -/
namespace PageServer.Resolver

open Files Template Http Text

variable {r : Resolver} {store : Store} {facts : RequestFacts} {view : String} {model : Entries}
  {fault : RenderFault} {failure : Failure} {s message : String}

/-! Ways it can go -/

/-- The view's template is there, and it comes to markup. -/
def Yields (r : Resolver) (store : Store) (facts : RequestFacts) (view : String) (model : Entries)
    (markup : Markup) : Prop :=
  (r.rendered store facts view model).1 = .ok markup

/-- The view's template is there, but reading it or rendering it ends at a fault. -/
def Stops (r : Resolver) (store : Store) (facts : RequestFacts) (view : String) (model : Entries)
    (fault : RenderFault) : Prop :=
  ¬ r.Lacks store view ∧ (r.rendered store facts view model).1 = .error fault

/-- Rendering the view changes no entry of the model. -/
def Spares (r : Resolver) (store : Store) (facts : RequestFacts) (view : String) (model : Entries) :
    Prop :=
  ∀ source cache, r.fetch store.files store.cache (r.templateName view) = (.ok source, cache) →
    (r.language.render (r.templateName view) source (names view model) facts).Sparing
      (r.fetch store.files) store.outside ⟨cache, []⟩

theorem Yields.found {markup : Markup} (yields : r.Yields store facts view model markup) :
    ¬ r.Lacks store view := by
  rintro ⟨message, missing⟩
  unfold Yields rendered at yields
  split at yields
  · rename_i fetched
    rw [fetched] at missing
    cases missing
  · cases yields

theorem cases_of_view (r : Resolver) (store : Store) (facts : RequestFacts) (view : String)
    (model : Entries) : r.Lacks store view ∨ (∃ fault, r.Stops store facts view model fault) ∨
      ∃ markup, r.Yields store facts view model markup := by
  by_cases lacks : r.Lacks store view
  · exact .inl lacks
  · cases rendered : (r.rendered store facts view model).1 with
    | error fault => exact .inr (.inl ⟨fault, lacks, rendered⟩)
    | ok markup => exact .inr (.inr ⟨markup, rendered⟩)

/-! Answers -/

theorem values_pageOf (view s : String) :
    (pageOf view s).headers.values viewHeader = [view] :=
  rfl

theorem present_of_failed_markup (failed : r.markup store facts view model = .error failure) :
    (r.present store facts view model).result = .error failure := by
  rw [present_result, failed]
  rfl

theorem present_of_lacks (lacks : r.Lacks store view) :
    (r.present store facts view model).result = .error (r.notFound view) :=
  present_of_failed_markup (markup_of_lacks facts model lacks)

theorem present_of_stops (stops : r.Stops store facts view model fault) :
    (r.present store facts view model).result = .error (r.renderFailure view fault) := by
  apply present_of_failed_markup
  rw [markup_of_found facts model stops.1, stops.2]
  rfl

theorem present_of_halved (yields : r.Yields store facts view model (.halved message)) :
    (r.present store facts view model).result = .error (.other "UnicodeEncodeError" message) := by
  apply present_of_failed_markup
  rw [markup_of_found facts model yields.found, yields]
  rfl

theorem markup_of_whole (yields : r.Yields store facts view model (.whole s)) :
    r.markup store facts view model = .ok s := by
  rw [markup_of_found facts model yields.found, yields]
  rfl

/-- A text is shown under the view's name if that can be header text. -/
theorem present_of_whole (yields : r.Yields store facts view model (.whole s)) :
    (r.present store facts view model).result =
      match latin1Fault? view.toList with
      | some fault => .error (.other "UnicodeEncodeError" fault.message)
      | none => .ok (pageOf view s) := by
  have made := markup_of_whole yields
  cases outside : latin1Fault? view.toList with
  | some fault =>
      rw [present_result, made]
      simp only [Except.bind, respond, headerText, outside, bind, mapError_error]
      rfl
  | none =>
      have named : headerText view = .ok view := by simp only [headerText, outside]
      rw [present_of_named facts model named, made]
      rfl

theorem present_of_latin1 (yields : r.Yields store facts view model (.whole s))
    (latin1 : ∀ c ∈ view.toList, isLatin1 c = true) :
    (r.present store facts view model).result = .ok (pageOf view s) := by
  rw [present_of_whole yields, (latin1Fault?_eq_none_iff _).mpr latin1]

theorem present_of_unnamed (yields : r.Yields store facts view model (.whole s))
    (outside : ¬ ∀ c ∈ view.toList, isLatin1 c = true) :
    ∃ message, (r.present store facts view model).result =
      .error (.other "UnicodeEncodeError" message) := by
  rw [← latin1Fault?_eq_none_iff] at outside
  obtain ⟨fault, found⟩ := Option.ne_none_iff_exists'.mp outside
  exact ⟨fault.message, by rw [present_of_whole yields, found]⟩

/-! Failures told apart -/

theorem renderFailure_of_ofTemplates (view : String) (ofTemplates : fault.ofTemplates = true) :
    r.renderFailure view fault = .app ⟨.standard .render,
      .text (AppError.renderMessage (.text view)), .dict [("template", .text (view ++ r.suffix)),
        ("cause", .text fault.message), ("view_name", .text view)], some (.text view), none⟩ := by
  unfold renderFailure
  rw [if_pos ofTemplates]
  rfl

theorem renderFailure_of_other (view : String) (other : fault.ofTemplates = false) :
    r.renderFailure view fault = .other fault.kind fault.message := by
  unfold renderFailure
  rw [if_neg (by simp [other])]
  rfl

/-- An application's error is raised for a view without a template, or for a fault of templates, and
in no other case. -/
theorem app_cases {e : AppError}
    (failed : (r.present store facts view model).result = .error (.app e)) :
    (r.Lacks store view ∧ e.errorClass = .standard .notFound) ∨
      ∃ fault, r.Stops store facts view model fault ∧ fault.ofTemplates = true ∧
        e.errorClass = .standard .render := by
  rcases r.cases_of_view store facts view model with
    lacks | ⟨fault, stops⟩ | ⟨s | message, yields⟩
  · rw [present_of_lacks lacks] at failed
    cases failed
    exact .inl ⟨lacks, rfl⟩
  · rw [present_of_stops stops] at failed
    cases ofTemplates : fault.ofTemplates with
    | true =>
        rw [renderFailure_of_ofTemplates view ofTemplates] at failed
        cases failed
        exact .inr ⟨fault, stops, ofTemplates, rfl⟩
    | false =>
        rw [renderFailure_of_other view ofTemplates] at failed
        cases failed
  · rw [present_of_whole yields] at failed
    split at failed <;> cases failed
  · rw [present_of_halved yields] at failed
    cases failed

theorem notFound_iff_lacks : (∃ e, (r.present store facts view model).result = .error (.app e) ∧
    e.errorClass = .standard .notFound) ↔ r.Lacks store view := by
  constructor
  · rintro ⟨e, failed, isNotFound⟩
    rcases app_cases failed with ⟨lacks, _⟩ | ⟨fault, _, _, isRender⟩
    · exact lacks
    · rw [isRender] at isNotFound
      cases isNotFound
  · intro lacks
    exact ⟨_, present_of_lacks lacks, rfl⟩

theorem render_iff_stops : (∃ e, (r.present store facts view model).result = .error (.app e) ∧
    e.errorClass = .standard .render) ↔
      ∃ fault, r.Stops store facts view model fault ∧ fault.ofTemplates = true := by
  constructor
  · rintro ⟨e, failed, isRender⟩
    rcases app_cases failed with ⟨_, isNotFound⟩ | ⟨fault, stops, ofTemplates, _⟩
    · rw [isRender] at isNotFound
      cases isNotFound
    · exact ⟨fault, stops, ofTemplates⟩
  · rintro ⟨fault, stops, ofTemplates⟩
    have failed := present_of_stops stops
    rw [renderFailure_of_ofTemplates view ofTemplates] at failed
    exact ⟨_, failed, rfl⟩

/-! Models -/

/-- The model's entries are taken over as they are; the view's name stands behind them. -/
theorem prefix_names (view : String) (model : Entries) : model <+: names view model := by
  unfold names Entries.setDefault
  split
  · exact List.prefix_refl _
  · exact List.prefix_append _ _

theorem lookup_names (view : String) (model : Entries) (name : String) :
    (names view model).lookup name =
      (model.lookup name).or (if name = "view_name" then some (.text view) else none) := by
  unfold names Entries.setDefault Entries.get?
  by_cases same : name = "view_name"
  · subst same
    cases given : model.lookup "view_name" <;> simp [List.lookup_append, given]
  · have apart : (name == "view_name") = false := by simpa using same
    split <;> simp [List.lookup_append, List.lookup_cons, apart]

theorem model_of_edits (unedited : (r.rendered store facts view model).2.edits = []) :
    (r.present store facts view model).model = model := by
  have model_after : (r.present store facts view model).model =
      edited model (r.compose store facts view model).2.edits := rfl
  rw [model_after, compose_session, unedited]
  exact List.map_id' model

theorem Spares.edits (spares : r.Spares store facts view model) :
    (r.rendered store facts view model).2.edits = [] := by
  unfold rendered
  split
  · rename_i source cache fetched
    exact (spares source cache fetched).edits
  · rfl

/-! The standard language -/

section Standard

variable (standard : r.language = .standard) (sound : store.Sound r)
include standard sound

/-- A fault on the way ends showing the view, and nothing has changed the model until then. -/
theorem Meets.stops (meets : r.Meets store.tree facts view model fault)
    (within : ∀ what, fault ≠ .beyond what) :
    r.Stops store facts view model fault ∧ (r.present store facts view model).model = model := by
  obtain ⟨failed, unedited⟩ := rendered_of_plainText standard sound meets.fails
    fun what same => within what (Except.error.inj same)
  have found : ¬ r.Lacks store view := by
    rw [lacks_iff sound]
    exact not_not_intro meets.has
  exact ⟨⟨found, failed⟩, model_of_edits unedited⟩

/-- Where there is no fault on the way, the view comes to markup. -/
theorem yields_of_unmet (has : r.Has store.tree view)
    (unmet : ∀ fault, ¬ r.Meets store.tree facts view model fault)
    (fits : ¬ r.Exceeds store.tree facts view model) :
    ∃ s, r.plainText store.tree facts view model = .ok s ∧
      r.Yields store facts view model (.ofText s) ∧
      (r.present store facts view model).model = model := by
  cases rendered : r.plainText store.tree facts view model with
  | error fault =>
      by_cases deep : fault = .tooDeep
      · subst deep
        exact absurd rendered fits
      · exact absurd (meets_of_plainText has deep rendered) (unmet fault)
  | ok s =>
      obtain ⟨made, unedited⟩ := rendered_of_plainText standard sound rendered nofun
      exact ⟨s, rfl, made, model_of_edits unedited⟩

end Standard

/-- A view is not found exactly if its own template is not there. If it is there, a fault of
templates that rendering ends at is a failure to render this view and names this view's template;
any other fault is passed on. Otherwise the markup that the templates come to is shown under the
view's name; the names in it are the model's own, and the view's name unless the model has that. The
model is as it was before if no template changes it. In the standard language rendering ends at
whatever fault it gets to, however deep. -/
theorem present_classifies_failures (r : Resolver) (store : Store) (facts : RequestFacts)
    (view : String) (model : Entries) :
    let shown := r.present store facts view model
    ((∃ e, shown.result = .error (.app e) ∧ e.errorClass = .standard .notFound) ↔
        r.Lacks store view) ∧
      ((∃ e, shown.result = .error (.app e) ∧ e.errorClass = .standard .render) ↔
        ∃ fault, r.Stops store facts view model fault ∧ fault.ofTemplates = true) ∧
      (∀ fault, r.Stops store facts view model fault →
        if fault.ofTemplates then
          ∃ e, shown.result = .error (.app e) ∧ e.errorClass = .standard .render ∧
            e.view = some (.text view) ∧ e.context = .dict [("template", .text (view ++ r.suffix)),
              ("cause", .text fault.message), ("view_name", .text view)]
        else shown.result = .error (.other fault.kind fault.message)) ∧
      (¬ r.Lacks store view → (∀ fault, ¬ r.Stops store facts view model fault) →
        ∃ markup, r.Yields store facts view model markup) ∧
      (∀ s, r.Yields store facts view model (.whole s) →
        ((∀ c ∈ view.toList, isLatin1 c = true) →
          ∃ response, shown.result = .ok response ∧ response.status = 200 ∧
            response.headers.values viewHeader = [view] ∧ response.body = .text s) ∧
        ((¬ ∀ c ∈ view.toList, isLatin1 c = true) →
          ∃ message, shown.result = .error (.other "UnicodeEncodeError" message))) ∧
      (∀ message, r.Yields store facts view model (.halved message) →
        shown.result = .error (.other "UnicodeEncodeError" message)) ∧
      (model <+: names view model ∧ ∀ name, (names view model).lookup name =
        (model.lookup name).or (if name = "view_name" then some (.text view) else none)) ∧
      (r.Spares store facts view model → shown.model = model) ∧
      (store.Sound r → (r.Lacks store view ↔ ¬ r.Has store.tree view)) ∧
      (r.language = .standard → store.Sound r →
        (∀ fault, r.Meets store.tree facts view model fault → (∀ what, fault ≠ .beyond what) →
          r.Stops store facts view model fault ∧ shown.model = model) ∧
        (r.Has store.tree view → (∀ fault, ¬ r.Meets store.tree facts view model fault) →
          ¬ r.Exceeds store.tree facts view model →
            ∃ s, r.plainText store.tree facts view model = .ok s ∧
              r.Yields store facts view model (.ofText s) ∧ shown.model = model)) := by
  refine ⟨notFound_iff_lacks, render_iff_stops, fun fault stops => ?_, fun found unstopped => ?_,
    fun s yields => ?_, fun message yields => present_of_halved yields,
    ⟨prefix_names view model, lookup_names view model⟩, fun spares => model_of_edits spares.edits,
    lacks_iff, fun standard sound => ⟨fun fault meets => meets.stops standard sound,
      yields_of_unmet standard sound⟩⟩
  · have failed := present_of_stops stops
    cases ofTemplates : fault.ofTemplates with
    | true =>
        rw [renderFailure_of_ofTemplates view ofTemplates] at failed
        exact ⟨_, failed, rfl, rfl, rfl⟩
    | false =>
        rw [renderFailure_of_other view ofTemplates] at failed
        exact failed
  · rcases r.cases_of_view store facts view model with lacks | ⟨fault, stops⟩ | yields
    · exact absurd lacks found
    · exact absurd stops (unstopped fault)
    · exact yields
  · refine ⟨fun latin1 => ?_, present_of_unnamed yields⟩
    exact ⟨_, present_of_latin1 yields latin1, rfl, values_pageOf view _, rfl⟩

/-- A page that extends another one, and in whose block a template is included that is not there. -/
def brokenBelow : Tree :=
  let file (s : String) : Files.Node := .file (encodeUtf8 s.toList)
  ⟨[([['@']], .directory), ([['@'], "pages".toList], .directory),
    ([['@'], "pages".toList, "index.html".toList], file ("\x7b% extends 'base.html' %\x7d" ++
      "\x7b% block body %\x7d\x7b% include 'gone.html' %\x7d\x7b% endblock %\x7d")),
    ([['@'], "pages".toList, "base.html".toList],
      file "<body>\x7b% block body %\x7d\x7b% endblock %\x7d</body>")]⟩

theorem plainText_brokenBelow :
    plainText (.standard "/@/pages" ".html") brokenBelow ⟨"", [], []⟩ "index" [] =
      .error (.notFound "'gone.html' not found in search path: '/@/pages'") := by
  decide +kernel

theorem failure_of_brokenBelow :
    let shown := present (.standard "/@/pages" ".html") (.ofTree brokenBelow)
      ⟨"", [], []⟩ "index" []
    ∃ e, shown.result = .error (.app e) ∧ e.errorClass = .standard .render ∧
      e.context = .dict [("template", .text "index.html"),
        ("cause", .text "'gone.html' not found in search path: '/@/pages'"),
        ("view_name", .text "index")] := by
  have has : Has (.standard "/@/pages" ".html") brokenBelow "index" := by
    refine ⟨_, ?_, rfl⟩
    decide +kernel
  have meets := meets_of_plainText has (by simp) plainText_brokenBelow
  obtain ⟨_, _, failures, _, _, _, _, _, _, standard⟩ :=
    present_classifies_failures (.standard "/@/pages" ".html") (.ofTree brokenBelow) ⟨"", [], []⟩
      "index" []
  obtain ⟨stops, _⟩ := (standard rfl (Store.sound_ofTree _ _)).1 _ meets (by simp)
  obtain ⟨e, failed, isRender, -, context⟩ := failures _ stops
  exact ⟨e, failed, isRender, context⟩

/-- A page that empties a list that it was given. -/
def emptying : Tree :=
  ⟨[([['@']], .directory), ([['@'], "pages".toList], .directory),
    ([['@'], "pages".toList, "index.html".toList],
      .file (encodeUtf8 "\x7b\x7b items.clear() \x7d\x7d".toList))]⟩

/-- Showing a view may change the model of the caller. -/
theorem model_emptied_by_view :
    let model : Entries := [("items", .list [.number (.whole 1)])]
    let shown := present (.standard "/@/pages" ".html") (.ofTree emptying)
      ⟨"", [], []⟩ "index" model
    shown.result.isOk = true ∧
      shown.model.map (fun (name, v) => (name, v.json)) = [("items", "[]")] ∧
      shown.model ≠ model := by
  intro model shown
  have emptied : shown.model.map (fun (name, v) => (name, v.json)) = [("items", "[]")] := by
    decide +kernel
  refine ⟨by decide +kernel, emptied, fun same => ?_⟩
  have before : model.map (fun (name, v) => (name, v.json)) = [("items", "[1]")] := by
    decide +kernel
  rw [same, before] at emptied
  simp at emptied

end PageServer.Resolver
