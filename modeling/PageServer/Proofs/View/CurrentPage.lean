import Mathlib.Data.List.Infix
import PageServer.Proofs.Template.Questions
import PageServer.Proofs.View.Bundled
import PageServer.Proofs.View.Outcomes
/-! The mark of the current page. The layout marks the link to the page whose view the name of the
view stands for. Nothing else that the model or the request holds shows in the pages that come with
the service. -/
namespace PageServer

open Files Template Text

theorem Value.same_text_iff {v : Value} {s : String} : v.same (.text s) = true ↔ v = .text s := by
  cases v <;> simp [same, number?]

/-- The number of places at which a text stands in another one. -/
def occurrences (part whole : List Char) : Nat :=
  whole.tails.countP part.isPrefixOf

theorem occurrences_eq_zero_iff {part whole : List Char} :
    occurrences part whole = 0 ↔ ¬ part <:+: whole := by
  rw [occurrences, List.countP_eq_zero, List.infix_iff_prefix_suffix]
  constructor
  · rintro none ⟨t, front, back⟩
    exact none t ((List.mem_tails _ _).mpr back) (List.isPrefixOf_iff_prefix.mpr front)
  · intro absent t back front
    exact absent ⟨t, List.isPrefixOf_iff_prefix.mp front, (List.mem_tails _ _).mp back⟩

def currentMark : List Char :=
  "aria-current=\"page\"".toList

/-- A link that carries the mark. -/
def markedLink (path : String) : List Char :=
  "<a href=\"".toList ++ path.toList ++ "\" ".toList ++ currentMark ++ ">".toList

/-- What the view's name stands for in its templates. -/
def Resolver.current (view : String) (model : Entries) : Value :=
  (model.get? "view_name").getD (.text view)

namespace Bundled

/-- What the layout asks: whether the page shown is the one that a link leads to. -/
def questions : List Question :=
  Pages.table.map fun page => ⟨"view_name", page.view, by decide⟩

/-- The pages of texts that are given. -/
def pagesOf (given : List (String × List Char)) (name : String) : Except RenderFault Page :=
  match given.lookup name with
  | some text => (prepare name text).mapError .ofSource
  | none => .error (.notFound name)

/-- What a view shows where its name stands for a value. -/
def shownBy (given : List (String × List Char)) (view : String) (v : Value) :
    Except RenderFault (List Char) := do
  let page ← pagesOf given (view ++ ".html")
  page.render (.plain (pagesOf given)) (Resolver.names view [("view_name", v)]) ⟨"", [], []⟩

/-- A text marks the link to the page whose view a value is, and no other link. -/
def Marks (v : Value) (s : List Char) : Prop :=
  (∀ page ∈ Pages.table, v.same (.text page.view) = true →
      occurrences currentMark s = 1 ∧ occurrences (markedLink page.path) s = 1) ∧
    ((∀ page ∈ Pages.table, v.same (.text page.view) = false) → occurrences currentMark s = 0)

instance (v : Value) (s : List Char) : Decidable (Marks v s) :=
  inferInstanceAs (Decidable (_ ∧ _))

def asksAt (given : List (String × List Char)) (name : String) : Bool :=
  match pagesOf given name with
  | .ok page => page.onlyAsks questions ["base.html"]
  | .error _ => false

def marksAt (given : List (String × List Char)) (view : String) (v : Value) : Bool :=
  match shownBy given view v with
  | .ok s => encodingFault? s = none ∧ Marks v s
  | .error _ => false

/-- The views of the pages, and a value that is none of them. -/
def samples : List Value :=
  .none :: Pages.table.map fun page => .text page.view

def texts : List (String × List Char) :=
  [("base.html", layout.toList), ("index.html", indexPage.toList),
    ("login.html", loginPage.toList)]

theorem lookup_texts {name source : String} (listed : (name, source) ∈ sources) :
    texts.lookup name = some source.toList := by
  simp only [sources, List.mem_cons, List.not_mem_nil, or_false, Prod.mk.injEq] at listed
  rcases listed with ⟨rfl, rfl⟩ | ⟨rfl, rfl⟩ | ⟨rfl, rfl⟩ <;>
    simp [texts, List.lookup_cons]

-- One theorem, since spelling out the texts takes longer than rendering all the pages.
theorem texts_sound : (∀ name ∈ sources.map Prod.fst, asksAt texts name = true) ∧
    ∀ view ∈ Pages.viewNames, ∀ v ∈ samples, marksAt texts view v = true := by
  unfold texts layout indexPage loginPage
  simp only [String.toList_append, String.reduceToList]
  decide +kernel

theorem onlyAsks_of_source {name source : String} (listed : (name, source) ∈ sources) {page : Page}
    (found : pagesOf texts name = .ok page) : page.onlyAsks questions ["base.html"] = true := by
  have asks := texts_sound.1 name (List.mem_map_of_mem listed)
  rw [asksAt, found] at asks
  exact asks

theorem shown_of_sample {view : String} (member : view ∈ Pages.viewNames) {sample : Value}
    (among : sample ∈ samples) :
    ∃ s, shownBy texts view sample = .ok s ∧ encodingFault? s = none ∧ Marks sample s := by
  have marked := texts_sound.2 view member sample among
  unfold marksAt at marked
  split at marked
  · rename_i s shown
    exact ⟨s, shown, of_decide_eq_true marked⟩
  · cases marked

theorem exists_sample (v : Value) :
    ∃ sample ∈ samples, ∀ page ∈ Pages.table,
      v.same (.text page.view) = sample.same (.text page.view) := by
  by_cases listed : ∃ page ∈ Pages.table, v = .text page.view
  · obtain ⟨page, member, rfl⟩ := listed
    refine ⟨.text page.view, ?_, fun _ _ => rfl⟩
    exact List.mem_cons_of_mem _ (List.mem_map_of_mem member)
  · refine ⟨.none, List.mem_cons_self, fun page member => ?_⟩
    rw [Bool.eq_iff_iff, Value.same_text_iff, Value.same_text_iff]
    constructor
    · intro same
      exact absurd ⟨page, member, same⟩ listed
    · nofun

theorem Marks.of_alike {v w : Value} {s : List Char} (marks : Marks w s)
    (alike : ∀ page ∈ Pages.table, v.same (.text page.view) = w.same (.text page.view)) :
    Marks v s := by
  constructor
  · intro page member same
    exact marks.1 page member (alike page member ▸ same)
  · intro other
    exact marks.2 fun page member => alike page member ▸ other page member

end Bundled

namespace Resolver

variable {r : Resolver} {tree : Tree} {view : String} {facts : RequestFacts} {model : Entries}

theorem lookup_values (model : Entries) (name : String) :
    (model.map fun (name, v) => (name, Datum.value v)).lookup name =
      (model.lookup name).map Datum.value := by
  induction model with
  | nil => rfl
  | cons entry rest ih =>
      obtain ⟨key, v⟩ := entry
      cases same : name == key <;> simp [List.lookup_cons, same, ih]

theorem answer_names (q : Question) (name : q.name = "view_name") :
    q.answer (bindingsOf (names view model) facts ++ commonNames) =
      (current view model).same (.text q.text) := by
  rw [Question.answer, name, List.lookup_append, bindingsOf, List.lookup_append, lookup_values,
    lookup_names]
  cases found : model.lookup "view_name" <;>
    simp [current, Entries.get?, found, Datum.text, Datum.same]

theorem OverBundled.pages_eq (bundled : r.OverBundled tree) {name source : String}
    (listed : (name, source) ∈ Bundled.sources) :
    r.pages tree name = Bundled.pagesOf Bundled.texts name := by
  have there : sourceOf tree r.templatesDir name = .ok source.toList := bundled.sources _ listed
  rw [pages_of_source there, Bundled.pagesOf, Bundled.lookup_texts listed]

theorem OverBundled.sameParents (bundled : r.OverBundled tree) :
    SameParents Bundled.questions ["base.html"] (r.pages tree)
      (Bundled.pagesOf Bundled.texts) := by
  intro name member
  rw [List.mem_singleton] at member
  subst member
  have same := bundled.pages_eq Bundled.layout_mem
  constructor
  · exact same
  · intro page loaded
    exact Bundled.onlyAsks_of_source Bundled.layout_mem (same ▸ loaded)

/-- The name of the view is all that a page shows of the model and the request. -/
theorem OverBundled.plainText_eq (bundled : r.OverBundled tree) (member : view ∈ Pages.viewNames)
    {v : Value} (alike : ∀ page ∈ Pages.table,
      (current view model).same (.text page.view) = v.same (.text page.view)) :
    r.plainText tree facts view model = Bundled.shownBy Bundled.texts view v := by
  obtain ⟨source, listed, _⟩ := Bundled.source_of_view member
  rw [plainText, templateName, bundled.suffix, bundled.pages_eq listed, Bundled.shownBy]
  -- Comparing the two continuations before a page is found would unfold all the jumps there are.
  simp only [bind, Except.bind]
  cases found : Bundled.pagesOf Bundled.texts (view ++ ".html") with
  | error fault => rfl
  | ok page =>
      apply Page.render_alike bundled.sameParents (Bundled.onlyAsks_of_source listed found)
      intro q among
      obtain ⟨page, listed, rfl⟩ := List.mem_map.mp among
      rw [answer_names _ rfl, answer_names _ rfl]
      exact alike page listed

theorem shown_of_current (member : view ∈ Pages.viewNames) (v : Value) :
    ∃ s, encodingFault? s = none ∧ Bundled.Marks v s ∧
      ∀ (r : Resolver) (tree : Tree), r.OverBundled tree → ∀ facts model, current view model = v →
        r.plainText tree facts view model = .ok s := by
  obtain ⟨sample, among, alike⟩ := Bundled.exists_sample v
  obtain ⟨s, shown, plain, marks⟩ := Bundled.shown_of_sample member among
  refine ⟨s, plain, marks.of_alike alike, ?_⟩
  intro r tree bundled facts model same
  rw [bundled.plainText_eq member (same ▸ alike), shown]

theorem latin1_of_view : ∀ view ∈ Pages.viewNames, ∀ c ∈ view.toList, isLatin1 c = true := by
  simp [Pages.viewNames, Pages.table, isLatin1]

/-- What a page of the service shows is decided by what the name of its view stands for, whatever
sources are kept. If that is the view of a page, the one mark of the text is on the link to that
page; otherwise there is no mark at all. -/
theorem bundled_pages_mark_current (member : view ∈ Pages.viewNames) :
    ∃ shown : Value → String,
      (∀ (r : Resolver) (store : Store), r.OverBundled store.tree → store.Sound r →
        ∀ facts model, ∃ response, (r.present store facts view model).result = .ok response ∧
          response.body = .text (shown (current view model))) ∧
      (∀ page ∈ Pages.table,
        occurrences currentMark (shown (.text page.view)).toList = 1 ∧
          occurrences (markedLink page.path) (shown (.text page.view)).toList = 1) ∧
      ∀ v, (∀ page ∈ Pages.table, v ≠ .text page.view) →
        ¬ currentMark <:+: (shown v).toList := by
  choose shown plain marks rendered using shown_of_current member
  refine ⟨fun v => String.ofList (shown v), ?_, ?_, ?_⟩
  · intro r store bundled sound facts model
    have rendered := rendered _ r store.tree bundled facts model rfl
    have made := (rendered_of_plainText bundled.language sound rendered nofun).1
    have whole : Markup.ofText (shown (current view model)) =
        .whole (String.ofList (shown (current view model))) := by
      simp only [Markup.ofText, plain]
    rw [Except.map, whole] at made
    exact ⟨_, present_of_latin1 made (latin1_of_view view member), rfl⟩
  · intro page listed
    rw [String.toList_ofList]
    exact (marks (.text page.view)).1 page listed (Value.same_text_iff.mpr rfl)
  · intro v other
    rw [String.toList_ofList, ← occurrences_eq_zero_iff]
    apply (marks v).2
    intro page listed
    rw [Bool.eq_false_iff, Ne, Value.same_text_iff]
    exact other page listed

theorem current_marked_for_login :
    ∃ response body, (present (.standard bundledTemplatesDir ".html") (.ofTree Bundled.tree)
        ⟨"", [], []⟩ "index" [("title", .text "aria-current"),
          ("view_name", .text "login")]).result =
          .ok response ∧
      response.body = .text body ∧ occurrences currentMark body.toList = 1 ∧
      occurrences (markedLink "/login") body.toList = 1 := by
  obtain ⟨shown, presents, marks, -⟩ := @bundled_pages_mark_current "index" (by decide)
  obtain ⟨response, presented, body⟩ := presents _ (.ofTree Bundled.tree) overBundled_tree
    (Store.sound_ofTree _ _) ⟨"", [], []⟩ [("title", .text "aria-current"),
      ("view_name", .text "login")]
  exact ⟨response, _, presented, body,
    marks ⟨"/login", "handle_login", "login"⟩ (by decide)⟩

end Resolver

end PageServer
