import PageServer.Proofs.Template.Work
import PageServer.Template.Rendering
/-! Plain rendering: each name has one page, the model stays as it is, and nothing lies outside. It
is what rendering as work answers. So whatever holds of plain rendering holds of that work as long
as it stays within its bounds. -/
namespace PageServer.Template

/-- The effects where each name has one page, the model stays as it is, and nothing lies outside. -/
def Effects.plain (fetch : String → Except RenderFault Page) : Effects (Except RenderFault) where
  lift := id
  fetch name := .ok (fetch name)
  retrieve _ := .ok none
  look := .error (.beyond "looks outside")
  edit _ _ := .error (.beyond "changes the model")

section Plain

variable (fetch : String → Except RenderFault Page)

@[simp]
theorem Effects.plain_lift {α : Type} (x : Except RenderFault α) : (plain fetch).lift x = x := rfl

@[simp]
theorem Effects.plain_fetch (name : String) : (plain fetch).fetch name = pure (fetch name) := rfl

@[simp]
theorem Effects.plain_retrieve (key : String) : (plain fetch).retrieve key = pure none := rfl

@[simp]
theorem Effects.plain_look : (plain fetch).look = .error (.beyond "looks outside") := rfl

@[simp]
theorem Effects.plain_edit (key : String) (v : Value) :
    (plain fetch).edit key v = .error (.beyond "changes the model") := rfl

theorem firstPage_plain (names : Datum) (tried rest : List Datum) :
    ∃ selected, firstPage (.plain fetch) names tried rest = .ok selected := by
  induction rest with
  | nil => exact ⟨_, rfl⟩
  | cons d rest ih =>
      obtain ⟨later, found⟩ := ih
      unfold firstPage
      cases templateName d with
      | error fault => cases fault <;> simp [found, bind, Except.bind, pure, Except.pure]
      | ok name =>
          cases first : fetch name with
          | error fault => cases fault <;> simp [first, found, bind, Except.bind, pure, Except.pure]
          | ok page => simp [first, bind, Except.bind, pure, Except.pure]

/-- Selecting a page has an outcome, even if that is that there is none. -/
theorem selectPage_plain (d : Datum) : ∃ selected, selectPage (.plain fetch) d = .ok selected := by
  unfold selectPage
  split
  any_goals exact ⟨_, rfl⟩
  split
  · exact ⟨_, rfl⟩
  · split
    · exact firstPage_plain fetch d _ _
    · exact ⟨_, rfl⟩

/-- A name is bound to what the frames around bind it to, or else to what the page does. -/
theorem Surroundings.find_plain (s : Surroundings) (name : String) :
    s.find (.plain fetch) name = .ok (s.bindings.lookup name) := by
  unfold find bindings
  rw [List.lookup_append]
  cases s.bound.lookup name with
  | some d => rfl
  | none =>
      dsimp only [Option.none_or]
      split <;> rfl

end Plain

/-- The pages that sources make. -/
def pagesFrom (source : String → Except RenderFault (List Char)) (name : String) :
    Except RenderFault Page :=
  (source name).bind fun text => (prepare name text).mapError .ofSource

variable (source : String → Except RenderFault (List Char))

/-! Expressions -/

section Expressions

/-- The answers of a scope. -/
def Scope.answers (scope : Scope Work) : Scope (Except RenderFault) :=
  { lift := fun x => (scope.lift x).answer source
    find := fun name => (scope.find name).answer source
    outside := fun way d ds => (scope.outside way d ds).answer source
    call := fun d ds => (scope.call d ds).answer source }

variable (scope : Scope Work)

@[simp]
theorem Scope.answers_lift {α : Type} (x : Except RenderFault α) :
    (scope.answers source).lift x = (scope.lift x).answer source := rfl

@[simp]
theorem Scope.answers_find (name : String) :
    (scope.answers source).find name = (scope.find name).answer source := rfl

@[simp]
theorem Scope.answers_outside (way : Way) (d : Datum) (ds : List Datum) :
    (scope.answers source).outside way d ds = (scope.outside way d ds).answer source := rfl

@[simp]
theorem Scope.answers_call (d : Datum) (ds : List Datum) :
    (scope.answers source).call d ds = (scope.call d ds).answer source := rfl

@[simp]
theorem answer_ite {α : Type} (test : Prop) [Decidable test] (yes no : Work α) :
    (if test then yes else no).answer source =
      if test then yes.answer source else no.answer source :=
  apply_ite (Work.answer source) test yes no

mutual

theorem Expression.answer_eval (e : Expression) :
    (e.eval scope).answer source = e.eval (scope.answers source) := by
  cases e with
  | name written identifier => simp [Expression.eval]
  | literal v => simp [Expression.eval]
  | tuple items => simp [Expression.eval, answer_evalAll items]
  | member owner s => simp [Expression.eval, Expression.answer_eval owner]
  | element owner n => simp [Expression.eval, Expression.answer_eval owner]
  | call callee arguments =>
      simp [Expression.eval, Expression.answer_eval callee, answer_evalAll arguments]
  | arithmetic op a b =>
      simp [Expression.eval, Expression.answer_eval a, Expression.answer_eval b]
  | comparison first others =>
      simp [Expression.eval, Expression.answer_eval first, answer_allHold]
  | negation e => simp [Expression.eval, Expression.answer_eval e]
  | conjunction a b =>
      simp [Expression.eval, Expression.answer_eval a, Expression.answer_eval b]
  | alternative a b =>
      simp [Expression.eval, Expression.answer_eval a, Expression.answer_eval b]
  | choice test yes no =>
      simp [Expression.eval, Expression.answer_eval test, Expression.answer_eval yes,
        answer_evalOption no]
  | outside way written identifier arguments =>
      simp [Expression.eval, answer_evalAll arguments]

theorem answer_evalAll (es : List Expression) :
    (evalAll scope es).answer source = evalAll (scope.answers source) es := by
  cases es with
  | nil => simp [evalAll]
  | cons e rest => simp [evalAll, Expression.answer_eval e, answer_evalAll rest]

theorem answer_allHold (d : Datum) (others : List (Comparison × Expression)) :
    (allHold scope d others).answer source = allHold (scope.answers source) d others := by
  cases others with
  | nil => simp [allHold]
  | cons other rest =>
      obtain ⟨c, e⟩ := other
      simp [allHold, Expression.answer_eval e, answer_allHold _ rest]

theorem answer_evalOption (e : Option Expression) :
    (evalOption scope e).answer source = evalOption (scope.answers source) e := by
  cases e with
  | none => simp [evalOption]
  | some e => simp [evalOption, Expression.answer_eval e]

end

end Expressions

/-! Nodes -/

section Nodes

/-- The answers of jumps. -/
def Jumps.answers (jumps : Jumps Work) : Jumps (Except RenderFault) :=
  { block := fun c name level => (jumps.block c name level).answer source
    page := fun c page => (jumps.page c page).answer source }

variable (jumps : Jumps Work) (common : Bindings)

@[simp]
theorem answer_lift {α : Type} (x : Except RenderFault α) :
    (Effects.ofWork.lift x).answer source = x :=
  Work.answer_ofExcept source x

@[simp]
theorem answer_fetch (name : String) :
    (Effects.ofWork.fetch name).answer source = pure (pagesFrom source name) := rfl

@[simp]
theorem answer_retrieve (key : String) :
    (Effects.ofWork.retrieve key).answer source = pure none := rfl

@[simp]
theorem answer_look :
    Effects.ofWork.look.answer source = .error (.beyond "looks outside") := rfl

@[simp]
theorem answer_edit (key : String) (v : Value) :
    (Effects.ofWork.edit key v).answer source = .error (.beyond "changes the model") := rfl

theorem answer_firstPage (names : Datum) (tried rest : List Datum) :
    (firstPage .ofWork names tried rest).answer source =
      firstPage (.plain (pagesFrom source)) names tried rest := by
  induction rest with
  | nil => simp [firstPage]
  | cons d rest ih =>
      cases named : templateName d with
      | error fault => cases fault <;> simp [firstPage, named, ih]
      | ok name =>
          cases found : pagesFrom source name with
          | error fault => cases fault <;> simp [firstPage, named, found, ih]
          | ok page => simp [firstPage, named, found]

theorem answer_selectPage (d : Datum) :
    (selectPage .ofWork d).answer source = selectPage (.plain (pagesFrom source)) d := by
  unfold selectPage
  split
  any_goals simp
  split
  · rfl
  · split
    · exact answer_firstPage source d _ _
    · rfl

theorem Surroundings.answer_find (s : Surroundings) (name : String) :
    (s.find .ofWork name).answer source = s.find (.plain (pagesFrom source)) name := by
  unfold find
  split
  · simp
  · simp

theorem answer_outsideDatum (way : Way) (d : Datum) (ds : List Datum) :
    (outsideDatum .ofWork way d ds).answer source =
      outsideDatum (.plain (pagesFrom source)) way d ds := by
  unfold outsideDatum
  split <;> simp

theorem answer_callDatum (d : Datum) (ds : List Datum) :
    (callDatum .ofWork jumps d ds).answer source =
      callDatum (.plain (pagesFrom source)) (jumps.answers source) d ds := by
  unfold callDatum
  split <;> simp [Jumps.answers]

theorem Surroundings.answers_scope (s : Surroundings) :
    (s.scope .ofWork jumps).answers source =
      s.scope (.plain (pagesFrom source)) (jumps.answers source) := by
  unfold scope Scope.answers
  congr
  · funext α x
    exact answer_lift source x
  · funext name
    exact s.answer_find source name
  · funext way d ds
    exact answer_outsideDatum source way d ds
  · funext d ds
    exact answer_callDatum source jumps d ds

theorem Surroundings.answer_eval (s : Surroundings) (e : Expression) :
    (e.eval (s.scope .ofWork jumps)).answer source =
      e.eval (s.scope (.plain (pagesFrom source)) (jumps.answers source)) := by
  rw [Expression.answer_eval, answers_scope]

theorem answer_mapM {α β : Type} (f : α → Work β) (xs : List α) :
    (xs.mapM f).answer source = xs.mapM fun x => (f x).answer source := by
  induction xs with
  | nil => simp
  | cons x rest ih => simp [ih]

mutual

theorem Node.answer_render (s : Surroundings) (node : Node) :
    (node.render .ofWork jumps common s).answer source =
      node.render (.plain (pagesFrom source)) (jumps.answers source) common s := by
  cases node with
  | text t => simp [Node.render]
  | output e =>
      simp only [Node.render]
      split
      · simp
      · split
        · simp
        · simp [s.answer_eval]
  | choice test yes no goesOn =>
      simp [Node.render, s.answer_eval, answer_renderAll s yes, answer_renderAll s no]
  | loop target items body otherwise counted =>
      simp [Node.render, s.answer_eval, answer_renderAll s otherwise, answer_mapM,
        fun s => answer_renderAll s body]
  | block name body => simp [Node.render, Jumps.answers]
  | extending e => simp [Node.render]
  | including e ifThere alone =>
      simp only [Node.render, Work.answer_bind, s.answer_eval, answer_selectPage]
      congr
      funext d
      congr
      funext selected
      cases selected with
      | ok page => rfl
      | error fault => simp

theorem answer_renderAll (s : Surroundings) (nodes : List Node) :
    (renderAll .ofWork jumps common s nodes).answer source =
      renderAll (.plain (pagesFrom source)) (jumps.answers source) common s nodes := by
  cases nodes with
  | nil => simp [renderAll]
  | cons node rest => simp [renderAll, Node.answer_render s node, answer_renderAll s rest]

end

mutual

theorem Node.answer_advance (page : Page) (p : Progress) (node : Node) :
    (node.advance .ofWork jumps common page p).answer source =
      node.advance (.plain (pagesFrom source)) (jumps.answers source) common page p := by
  cases node with
  | choice test yes no goesOn =>
      simp [Node.advance, Surroundings.answer_eval, answer_advanceAll page p yes,
        answer_advanceAll page p no]
  | extending e =>
      simp only [Node.advance]
      split
      · simp
      · simp [Surroundings.answer_eval]
  | block name body =>
      simp only [Node.advance]
      split
      · simp
      · simp [Node.answer_render]
  | _ => simp [Node.advance, Node.answer_render]

theorem answer_advanceAll (page : Page) (p : Progress) (nodes : List Node) :
    (advanceAll .ofWork jumps common page p nodes).answer source =
      advanceAll (.plain (pagesFrom source)) (jumps.answers source) common page p nodes := by
  cases nodes with
  | nil => simp [advanceAll]
  | cons node rest =>
      simp [advanceAll, Node.answer_advance page p node, fun p => answer_advanceAll page p rest]

end

theorem Progress.answer_finish (p : Progress) :
    (p.finish jumps).answer source = p.finish (jumps.answers source) := by
  unfold finish
  split <;> simp [Jumps.answers]

end Nodes

/-! Pages -/

theorem answers_jumpsOf (common : Bindings) (depth : Nat) :
    (jumpsOf .ofWork common depth).answers source =
      jumpsOf (.plain (pagesFrom source)) common depth := by
  induction depth with
  | zero => rfl
  | succ depth ih =>
      unfold jumpsOf
      dsimp only [Jumps.answers]
      congr
      · funext c name level
        split
        · rw [answer_renderAll, ih]
        · rfl
      · funext c page
        rw [Work.answer_bind, answer_advanceAll, ih]
        congr
        funext p
        rw [Progress.answer_finish, ih]

/-- What a page is rendered to as work is what plain rendering gives. -/
theorem Page.answer_render (page : Page) (model : Entries) (facts : RequestFacts) :
    (page.render .ofWork model facts).answer source =
      page.render (.plain (pagesFrom source)) model facts := by
  unfold render
  rw [← answers_jumpsOf]
  rfl

theorem answer_standard {name : String} {text : List Char} {page : Page}
    (made : prepare name text = .ok page) (model : Entries) (facts : RequestFacts) :
    (Language.standard.render name text model facts).answer source =
      (page.render (.plain (pagesFrom source)) model facts).map .ofText := by
  have prepared : (Except.ok page : Except SourceFault Page).mapError RenderFault.ofSource =
      .ok page := rfl
  simp only [Language.standard, made, prepared, Work.answer_bind, Work.answer_ofExcept]
  simp only [bind, Except.bind, Page.answer_render]
  cases page.render (.plain (pagesFrom source)) model facts <;> rfl

end PageServer.Template
