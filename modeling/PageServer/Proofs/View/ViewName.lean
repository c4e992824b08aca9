import PageServer.Proofs.View.Outcomes
import PageServer.View.ModelAndView
/-! The header that names the view shown. A view may have any name that is not empty, but header
text is sent in the first 256 characters, one byte each. So a name made of these comes back as it
was, and a view with another name is not shown, although its template is there and renders. -/
namespace PageServer

/-! Bytes of header text -/

namespace Text

variable {c : Char} {s : List Char}

/-- The bytes of a text in the first 256 characters. -/
def latin1Bytes (s : List Char) : List UInt8 :=
  s.map fun c => UInt8.ofNat c.toNat

/-- The text of bytes, each of which is a character. -/
def ofLatin1 (bytes : List UInt8) : List Char :=
  bytes.map fun b => Char.ofNat b.toNat

theorem ofNat_byte_iff : Char.ofNat (UInt8.ofNat c.toNat).toNat = c ↔ isLatin1 c = true := by
  have byte : (UInt8.ofNat c.toNat).toNat = c.toNat % 256 := UInt8.toNat_ofNat'
  have valid : (c.toNat % 256).isValidChar := .inl (by omega)
  have back : (Char.ofNat (c.toNat % 256)).toNat = c.toNat % 256 := by
    rw [Char.ofNat, dif_pos valid]
    rfl
  rw [← Char.toNat_inj, byte, back, isLatin1, decide_eq_true_iff]
  omega

theorem ofLatin1_latin1Bytes_iff : ofLatin1 (latin1Bytes s) = s ↔ ∀ c ∈ s, isLatin1 c = true := by
  induction s with
  | nil => simp [ofLatin1, latin1Bytes]
  | cons c rest ih =>
      have parts : ofLatin1 (latin1Bytes (c :: rest)) =
          Char.ofNat (UInt8.ofNat c.toNat).toNat :: ofLatin1 (latin1Bytes rest) := rfl
      rw [parts, List.cons.injEq, ofNat_byte_iff, ih, List.forall_mem_cons]

end Text

/-! Names of views -/

open Files Template Http Text

namespace ModelAndView

theorem ofFields_of_view {view : String} (filled : view ≠ "") (model : Entries) :
    ofFields [(viewField, .text view), (modelField, .dict model)] =
      .ok ⟨.text view, .dict model, fieldNames⟩ := by
  have some_text : Checked.someText [viewField] (.text view) = .ok view := by
    simp [Checked.someText, filled]
  have checked : check [(viewField, .text view), (modelField, .dict model)] = .ok (view, model) :=
    (Checked.both_eq_ok_iff _ _ _ _).mpr ⟨some_text, rfl⟩
  unfold ofFields
  rw [checked]
  rfl

/-- A view may have any name that is not empty. -/
theorem accepts_view_iff (view : String) (model : Entries) :
    (∃ m, ofFields [(viewField, .text view), (modelField, .dict model)] = .ok m ∧
      m.viewName = .text view ∧ m.model = .dict model) ↔ view ≠ "" := by
  constructor
  · rintro ⟨m, accepted, _⟩ rfl
    cases accepted
  · intro filled
    exact ⟨_, ofFields_of_view filled model, rfl, rfl⟩

end ModelAndView

namespace Resolver

variable {r : Resolver} {store : Store} {facts : RequestFacts} {view : String} {model : Entries}
  {failure : Failure}

theorem entries_of_failed (failed : (r.present store facts view model).result = .error failure) :
    (r.present store facts view model).entries = [] := by
  have entries : (r.present store facts view model).entries =
      if (r.present store facts view model).result.isOk then [r.renderedEntry view] else [] := rfl
  rw [entries, failed]
  rfl

/-- A view of any name that is not empty is accepted. If its template is there and comes to markup,
it is shown with status 200 and one header that names it, which reads as the view's name once it has
been sent, exactly if the markup is a text that has bytes and the name is in the first 256
characters. Otherwise nothing is shown or logged, and the failure says which character of the text
or of the name is at fault. -/
theorem view_header_round_trips_iff (r : Resolver) (store : Store) (facts : RequestFacts)
    (view : String) (model : Entries) (markup : Markup)
    (yields : r.Yields store facts view model markup) :
    let shown := r.present store facts view model
    ((∃ m, ModelAndView.ofFields [(ModelAndView.viewField, .text view),
        (ModelAndView.modelField, .dict model)] = .ok m ∧
        m.viewName = .text view ∧ m.model = .dict model) ↔ view ≠ "") ∧
      ((∃ response s, shown.result = .ok response ∧ response.status = 200 ∧
        (response.headers.values viewHeader).map
        (fun value => ofLatin1 (latin1Bytes value.toList)) =
          [view.toList] ∧ markup = .whole s ∧ response.body = .text s) ↔
        (∃ s, markup = .whole s) ∧ ∀ c ∈ view.toList, isLatin1 c = true) ∧
      (∀ message, markup = .halved message →
        shown.result = .error (.other "UnicodeEncodeError" message) ∧ shown.entries = []) ∧
      (∀ s fault, markup = .whole s → latin1Fault? view.toList = some fault →
        shown.result = .error (.other "UnicodeEncodeError" fault.message) ∧
          shown.entries = []) := by
  intro shown
  refine ⟨ModelAndView.accepts_view_iff view model, ⟨?_, ?_⟩, ?_, ?_⟩
  · rintro ⟨response, s, sent, _, _, rfl, _⟩
    have outcome : shown.result = _ := present_of_whole yields
    rw [outcome] at sent
    cases outside : latin1Fault? view.toList with
    | some fault => simp [outside] at sent
    | none => exact ⟨⟨s, rfl⟩, (latin1Fault?_eq_none_iff _).mp outside⟩
  · rintro ⟨⟨s, rfl⟩, latin1⟩
    refine ⟨pageOf view s, s, present_of_latin1 yields latin1, rfl, ?_, rfl, rfl⟩
    rw [values_pageOf, List.map_singleton, ofLatin1_latin1Bytes_iff.mpr latin1]
  · rintro message rfl
    have failed : shown.result = _ := present_of_halved yields
    exact ⟨failed, entries_of_failed failed⟩
  · rintro s fault rfl outside
    have failed : shown.result = .error (.other "UnicodeEncodeError" fault.message) := by
      have outcome : shown.result = _ := present_of_whole yields
      rw [outcome, outside]
    exact ⟨failed, entries_of_failed failed⟩

/-- Two views that greet by their names, of which one is not in the first 256 characters. -/
def greetings : Tree :=
  let greeting : Files.Node := .file (encodeUtf8 "<p>\x7b\x7b view_name \x7d\x7d</p>".toList)
  ⟨[([['@']], .directory), ([['@'], "pages".toList], .directory),
    ([['@'], "pages".toList, "é.html".toList], greeting),
    ([['@'], "pages".toList, "☃.html".toList], greeting)]⟩

theorem yields_accented :
    Yields (.standard "/@/pages" ".html") (.ofTree greetings) ⟨"", [], []⟩ "é" []
      (.whole "<p>é</p>") := by
  have plain : plainText (.standard "/@/pages" ".html") greetings ⟨"", [], []⟩ "é" [] =
      .ok "<p>é</p>".toList := by decide +kernel
  exact (rendered_of_plainText rfl (Store.sound_ofTree _ _) plain nofun).1

theorem yields_snowy :
    Yields (.standard "/@/pages" ".html") (.ofTree greetings) ⟨"", [], []⟩ "☃" []
      (.whole "<p>☃</p>") := by
  have plain : plainText (.standard "/@/pages" ".html") greetings ⟨"", [], []⟩ "☃" [] =
      .ok "<p>☃</p>".toList := by decide +kernel
  exact (rendered_of_plainText rfl (Store.sound_ofTree _ _) plain nofun).1

theorem view_header_of_accented :
    Yields (.standard "/@/pages" ".html") (.ofTree greetings) ⟨"", [], []⟩ "é" []
        (.whole "<p>é</p>") ∧
      ∃ response s, (present (.standard "/@/pages" ".html") (.ofTree greetings) ⟨"", [], []⟩ "é"
        []).result = .ok response ∧ response.status = 200 ∧
        (response.headers.values viewHeader).map
        (fun value => ofLatin1 (latin1Bytes value.toList)) =
          ["é".toList] ∧ Markup.whole "<p>é</p>" = .whole s ∧ response.body = .text s := by
  obtain ⟨_, shown_iff, _⟩ := view_header_round_trips_iff (.standard "/@/pages" ".html")
    (.ofTree greetings) ⟨"", [], []⟩ "é" [] _ yields_accented
  have named : latin1Fault? "é".toList = none := by decide +kernel
  exact ⟨yields_accented, shown_iff.mpr ⟨⟨_, rfl⟩, (latin1Fault?_eq_none_iff _).mp named⟩⟩

/-- A view that is accepted, and whose template renders, need not be shown. -/
theorem snowy_view_not_shown :
    (∃ m, ModelAndView.ofFields [(ModelAndView.viewField, .text "☃")] = .ok m) ∧
      Yields (.standard "/@/pages" ".html") (.ofTree greetings) ⟨"", [], []⟩ "☃" []
        (.whole "<p>☃</p>") ∧
      ∀ response, (present (.standard "/@/pages" ".html") (.ofTree greetings) ⟨"", [], []⟩ "☃"
        []).result ≠ .ok response := by
  have outside : latin1Fault? "☃".toList ≠ none := by decide +kernel
  obtain ⟨message, failed⟩ := present_of_unnamed yields_snowy fun latin1 =>
    outside ((latin1Fault?_eq_none_iff _).mpr latin1)
  refine ⟨⟨_, rfl⟩, yields_snowy, fun response shown => ?_⟩
  rw [failed] at shown
  cases shown

end Resolver

end PageServer
