import PageServer.Proofs.Template.Plain
/-! Pages that only ask. A question is whether a name stands for a text. A page that shows no data,
and whose conditions are questions, shows the same whatever its names stand for, as long as the
answers are the same. -/
namespace PageServer.Template

/-- Whether a name stands for a text. Names that frames bind by themselves are not asked about. -/
structure Question where
  name : String
  text : String
  free : name ∉ [selfName, superName]
  deriving DecidableEq

/-- The answer to a question where names are bound. -/
def Question.answer (q : Question) (bindings : Bindings) : Bool :=
  ((bindings.lookup q.name).getD (.unbound q.name)).same (.text q.text)

def Bindings.Alike (questions : List Question) (bindings bindings' : Bindings) : Prop :=
  ∀ q ∈ questions, q.answer bindings = q.answer bindings'

/-- The question that an expression is. -/
def Expression.question? : Expression → Option Question
  | .comparison (.name _ identifier) [(.equal, .literal (.text s))] =>
      if free : identifier ∉ [selfName, superName] then some ⟨identifier, s, free⟩ else none
  | _ => none

theorem Expression.eval_of_question {e : Expression} {q : Question} (asks : e.question? = some q)
    (fetch : String → Except RenderFault Page) (jumps : Jumps (Except RenderFault))
    (s : Surroundings) :
    e.eval (s.scope (.plain fetch) jumps) = .ok (.value (.bool (q.answer s.bindings))) := by
  unfold question? at asks
  split at asks
  · rename_i written identifier text
    split at asks
    · cases asks
      have found : (s.scope (.plain fetch) jumps).find identifier =
          .ok (s.bindings.lookup identifier) := s.find_plain fetch identifier
      simp only [eval, allHold, found, bind, Except.bind, pure, Except.pure, Comparison.holds,
        Question.answer]
      cases s.bindings.lookup identifier with
      | none => rfl
      | some d =>
          by_cases holds : d.same (.value (.text text)) <;>
            simp [Datum.text, holds, Surroundings.scope]
    · cases asks
  · cases asks

theorem Question.answer_append (q : Question) {bound : Bindings}
    (own : ∀ entry ∈ bound, entry.1 ∈ [selfName, superName]) (names : Bindings) :
    q.answer (bound ++ names) = q.answer names := by
  have apart : bound.lookup q.name = none := by
    rw [List.lookup_eq_none_iff]
    intro entry member
    have other : q.name ≠ entry.1 := fun same => q.free (same ▸ own entry member)
    simpa using other
  rw [answer, answer, List.lookup_append, apart, Option.none_or]

theorem Bindings.Alike.append {questions : List Question} {names names' : Bindings}
    (alike : Alike questions names names') {bound bound' : Bindings}
    (own : ∀ entry ∈ bound, entry.1 ∈ [selfName, superName])
    (own' : ∀ entry ∈ bound', entry.1 ∈ [selfName, superName]) :
    Alike questions (bound ++ names) (bound' ++ names') := by
  intro q member
  rw [q.answer_append own, q.answer_append own', alike q member]

theorem selfBindings_own (nodes : List Node) (c : Context Datum) :
    ∀ entry ∈ selfBindings nodes c, entry.1 ∈ [selfName, superName] := by
  intro entry member
  unfold selfBindings at member
  split at member <;> simp_all

theorem blockBindings_own (name : String) (level : Nat) (body : List Node) (c : Context Datum) :
    ∀ entry ∈ blockBindings name level body c, entry.1 ∈ [selfName, superName] := by
  intro entry member
  rcases List.mem_append.mp member with self | super
  · exact selfBindings_own body c entry self
  · split at super <;> simp_all

/-! Pages -/

section Forms

variable (questions : List Question) (parents : List String)

mutual

/-- Whether a node consists of texts, blocks, conditions that are some questions, and pages of some
names that it extends. -/
def Node.onlyAsks : Node → Bool
  | .text _ => true
  | .choice test yes no _ =>
      test.question?.any questions.contains && allOnlyAsk yes && allOnlyAsk no
  | .block .. => true
  | .extending (.literal (.text name)) => parents.contains name
  | _ => false

def allOnlyAsk : List Node → Bool
  | [] => true
  | node :: rest => node.onlyAsks && allOnlyAsk rest

end

def Page.onlyAsks (page : Page) : Bool :=
  allOnlyAsk questions parents page.nodes &&
    page.blocks.all fun entry => allOnlyAsk questions parents entry.2.body

/-! Two runs -/

/-- Contexts in which the answers and the blocks in force are the same. -/
structure Context.Alike (c c' : Context Datum) : Prop where
  names : Bindings.Alike questions c.names c'.names
  blocks : c.blocks = c'.blocks
  asks : ∀ entry ∈ c.blocks, allOnlyAsk questions parents entry.2.body = true

structure Surroundings.Alike (s s' : Surroundings) : Prop where
  silent : s.silent = s'.silent
  context : Context.Alike questions parents s.context s'.context
  bindings : Bindings.Alike questions s.bindings s'.bindings

/-- Jumps that come to the same from contexts that are alike. -/
structure Jumps.Alike (jumps jumps' : Jumps (Except RenderFault)) : Prop where
  block : ∀ c c', Context.Alike questions parents c c' → ∀ name level,
    jumps.block c name level = jumps'.block c' name level
  page : ∀ c c', Context.Alike questions parents c c' → ∀ page : Page,
    page.onlyAsks questions parents = true → jumps.page c page = jumps'.page c' page

structure Progress.Alike (p p' : Progress) : Prop where
  text : p.text = p'.text
  parent : p.parent = p'.parent
  context : Context.Alike questions parents p.context p'.context
  asks : ∀ page, p.parent = some page → page.onlyAsks questions parents = true

/-- Two steps fail in the same way, or both lead on. -/
inductive SameStep : Except RenderFault Progress → Except RenderFault Progress → Prop
  | fails (fault : RenderFault) : SameStep (.error fault) (.error fault)
  | leads {p p' : Progress} (alike : Progress.Alike questions parents p p') :
      SameStep (.ok p) (.ok p')

/-- Pages of some names are the same ones in two collections, and they only ask. -/
def SameParents (fetch fetch' : String → Except RenderFault Page) : Prop :=
  ∀ name ∈ parents, fetch name = fetch' name ∧
    ∀ page, fetch name = .ok page → page.onlyAsks questions parents = true

end Forms

section Runs

variable {questions : List Question} {parents : List String}
  {fetch fetch' : String → Except RenderFault Page} {jumps jumps' : Jumps (Except RenderFault)}
  {common common' : Bindings} {page : Page}

theorem question_of_onlyAsks {test : Expression} {yes no : List Node} {goesOn : Bool}
    (asks : (Node.choice test yes no goesOn).onlyAsks questions parents = true) :
    (∃ q ∈ questions, test.question? = some q) ∧ allOnlyAsk questions parents yes = true ∧
      allOnlyAsk questions parents no = true := by
  simp only [Node.onlyAsks, Bool.and_eq_true, Option.any_eq_true] at asks
  obtain ⟨⟨⟨q, question, member⟩, first⟩, other⟩ := asks
  exact ⟨⟨q, List.contains_iff_mem.mp member, question⟩, first, other⟩

theorem parent_of_onlyAsks {e : Expression}
    (asks : (Node.extending e).onlyAsks questions parents = true) :
    ∃ name ∈ parents, e = .literal (.text name) := by
  cases e with
  | literal v =>
      cases v with
      | text name => exact ⟨name, List.contains_iff_mem.mp asks, rfl⟩
      | _ => cases asks
  | _ => cases asks

/-- The test of a condition has the same outcome in both runs. -/
theorem Surroundings.Alike.test {s s' : Surroundings}
    (alike : Surroundings.Alike questions parents s s')
    (fetch fetch' : String → Except RenderFault Page) (jumps jumps' : Jumps (Except RenderFault))
    {test : Expression} {q : Question} (member : q ∈ questions)
    (question : test.question? = some q) :
    test.eval (s.scope (.plain fetch) jumps) = .ok (.value (.bool (q.answer s.bindings))) ∧
      test.eval (s'.scope (.plain fetch') jumps') = .ok (.value (.bool (q.answer s.bindings))) := by
  constructor
  · exact Expression.eval_of_question question _ _ _
  · rw [alike.bindings q member]
    exact Expression.eval_of_question question _ _ _

mutual

theorem Node.render_alike (same : Jumps.Alike questions parents jumps jumps') {s s' : Surroundings}
    (alike : Surroundings.Alike questions parents s s') (node : Node)
    (asks : node.onlyAsks questions parents = true) :
    node.render (.plain fetch) jumps common s = node.render (.plain fetch') jumps' common' s' := by
  cases node with
  | text t => simp only [Node.render, alike.silent]
  | choice test yes no goesOn =>
      obtain ⟨⟨q, member, question⟩, first, other⟩ := question_of_onlyAsks asks
      obtain ⟨here, there⟩ := alike.test fetch fetch' jumps jumps' member question
      simp only [Node.render, here, there, bind, Except.bind]
      rw [renderAll_alike same alike yes first, renderAll_alike same alike no other]
  | block name body => exact same.block _ _ alike.context name 0
  | extending e => rfl
  | _ => cases asks

theorem renderAll_alike (same : Jumps.Alike questions parents jumps jumps') {s s' : Surroundings}
    (alike : Surroundings.Alike questions parents s s') (nodes : List Node)
    (asks : allOnlyAsk questions parents nodes = true) :
    renderAll (.plain fetch) jumps common s nodes =
      renderAll (.plain fetch') jumps' common' s' nodes := by
  cases nodes with
  | nil => rfl
  | cons node rest =>
      obtain ⟨first, others⟩ := Bool.and_eq_true_iff.mp asks
      rw [renderAll, renderAll, Node.render_alike same alike node first,
        renderAll_alike same alike rest others]

end

theorem Progress.Alike.surroundings {p p' : Progress}
    (alike : Progress.Alike questions parents p p') (page : Page) :
    Surroundings.Alike questions parents (p.surroundings page) (p'.surroundings page) where
  silent := by simp only [Progress.surroundings, alike.parent]
  context := alike.context
  bindings := alike.context.names.append (selfBindings_own _ _) (selfBindings_own _ _)

/-- The same text is added in both runs. -/
theorem Progress.Alike.add {p p' : Progress} (alike : Progress.Alike questions parents p p')
    {rendered rendered' : Except RenderFault (List Char)} (same : rendered = rendered') :
    SameStep questions parents
      (rendered >>= fun t => pure { p with text := p.text ++ t })
      (rendered' >>= fun t => pure { p' with text := p'.text ++ t }) := by
  subst same
  cases rendered with
  | error fault => exact .fails fault
  | ok t => exact .leads ⟨by rw [alike.text], alike.parent, alike.context, alike.asks⟩

theorem Context.Alike.extend {c c' : Context Datum} (alike : Context.Alike questions parents c c')
    {parent : Page} (asks : parent.onlyAsks questions parents = true) :
    Context.Alike questions parents { c with blocks := c.blocks ++ parent.blocks }
      { c' with blocks := c'.blocks ++ parent.blocks } where
  names := alike.names
  blocks := by rw [alike.blocks]
  asks entry member := by
    rcases List.mem_append.mp member with old | added
    · exact alike.asks entry old
    · exact List.all_eq_true.mp (Bool.and_eq_true_iff.mp asks).2 entry added

theorem SameStep.bind {outcome outcome' : Except RenderFault Progress}
    (step : SameStep questions parents outcome outcome')
    {next next' : Progress → Except RenderFault Progress}
    (further : ∀ p p', Progress.Alike questions parents p p' →
      SameStep questions parents (next p) (next' p')) :
    SameStep questions parents (outcome >>= next) (outcome' >>= next') := by
  cases step with
  | fails fault => exact .fails fault
  | leads alike => exact further _ _ alike

theorem SameStep.bind_eq {α : Type} {outcome outcome' : Except RenderFault Progress}
    (step : SameStep questions parents outcome outcome')
    {next next' : Progress → Except RenderFault α}
    (further : ∀ p p', Progress.Alike questions parents p p' → next p = next' p') :
    outcome >>= next = outcome' >>= next' := by
  cases step with
  | fails fault => rfl
  | leads alike => exact further _ _ alike

theorem Node.advance_extending_alike (known : SameParents questions parents fetch fetch')
    {p p' : Progress} (alike : Progress.Alike questions parents p p') {name : String}
    (member : name ∈ parents) :
    SameStep questions parents
      ((Node.extending (.literal (.text name))).advance (.plain fetch) jumps common page p)
      ((Node.extending (.literal (.text name))).advance
        (.plain fetch') jumps' common' page p') := by
  obtain ⟨fetched, asking⟩ := known name member
  simp only [Node.advance, alike.parent]
  split
  · exact .fails _
  · simp only [Expression.eval, templateName, Effects.plain_lift, Effects.plain_fetch, Bind.bind,
      Except.bind, Pure.pure, Except.pure, ← fetched]
    cases found : fetch name with
    | error fault => exact .fails fault
    | ok parent =>
        refine .leads ⟨alike.text, rfl, alike.context.extend (asking parent found), ?_⟩
        rintro _ ⟨⟩
        exact asking parent found

mutual

/-- One step at the top level of a page. -/
theorem Node.advance_alike (same : Jumps.Alike questions parents jumps jumps')
    (known : SameParents questions parents fetch fetch') {p p' : Progress}
    (alike : Progress.Alike questions parents p p') (node : Node)
    (asks : node.onlyAsks questions parents = true) :
    SameStep questions parents (node.advance (.plain fetch) jumps common page p)
      (node.advance (.plain fetch') jumps' common' page p') := by
  have around := alike.surroundings page
  cases node with
  | text t => exact alike.add (Node.render_alike same around (.text t) asks)
  | choice test yes no goesOn =>
      obtain ⟨⟨q, member, question⟩, first, other⟩ := question_of_onlyAsks asks
      obtain ⟨here, there⟩ := around.test fetch fetch' jumps jumps' member question
      simp only [Node.advance, here, there, Bind.bind, Except.bind]
      split
      · exact advanceAll_alike same known alike yes first
      · exact advanceAll_alike same known alike no other
  | block name body =>
      have silence : p'.parent.isSome = p.parent.isSome := by rw [alike.parent]
      simp only [Node.advance, silence]
      split
      · exact .leads alike
      · exact alike.add (Node.render_alike same around (.block name body) asks)
  | extending e =>
      obtain ⟨name, member, rfl⟩ := parent_of_onlyAsks asks
      exact Node.advance_extending_alike known alike member
  | _ => cases asks

theorem advanceAll_alike (same : Jumps.Alike questions parents jumps jumps')
    (known : SameParents questions parents fetch fetch') {p p' : Progress}
    (alike : Progress.Alike questions parents p p') (nodes : List Node)
    (asks : allOnlyAsk questions parents nodes = true) :
    SameStep questions parents (advanceAll (.plain fetch) jumps common page p nodes)
      (advanceAll (.plain fetch') jumps' common' page p' nodes) := by
  cases nodes with
  | nil => exact .leads alike
  | cons node rest =>
      obtain ⟨first, others⟩ := Bool.and_eq_true_iff.mp asks
      apply (Node.advance_alike same known alike node first).bind
      intro p p' further
      exact advanceAll_alike same known further rest others

end

theorem Context.Alike.block {c c' : Context Datum} (alike : Context.Alike questions parents c c')
    (name : String) (level : Nat) (body : List Node) (escapes : Bool) :
    Surroundings.Alike questions parents ⟨c, blockBindings name level body c, escapes, false⟩
      ⟨c', blockBindings name level body c', escapes, false⟩ where
  silent := rfl
  context := alike
  bindings := alike.names.append (blockBindings_own _ _ _ _) (blockBindings_own _ _ _ _)

/-- With the same depth left, jumps come to the same in both runs. -/
theorem jumpsOf_alike (known : SameParents questions parents fetch fetch') (depth : Nat) :
    Jumps.Alike questions parents (jumpsOf (.plain fetch) common depth)
      (jumpsOf (.plain fetch') common' depth) := by
  -- The induction is on the depth alone: what the nodes of one page or block come to is known from
  -- the jumps that they may make.
  induction depth with
  | zero => exact ⟨fun _ _ _ _ _ => rfl, fun _ _ _ _ _ => rfl⟩
  | succ depth ih =>
      constructor
      · intro c c' alike name level
        simp only [jumpsOf, ← alike.blocks]
        split
        · rename_i b found
          obtain ⟨entry, among, rfl⟩ := List.mem_map.mp (List.mem_of_getElem? found)
          apply renderAll_alike ih (alike.block name level entry.2.body entry.2.escapes)
          exact alike.asks entry (List.mem_filter.mp among).1
        · rfl
      · intro c c' alike page asks
        have start : Progress.Alike questions parents ⟨[], none, c⟩ ⟨[], none, c'⟩ :=
          ⟨rfl, rfl, alike, fun parent extended => absurd extended (Option.some_ne_none parent).symm⟩
        apply (advanceAll_alike ih known start page.nodes (Bool.and_eq_true_iff.mp asks).1).bind_eq
        intro p p' further
        simp only [Progress.finish, ← further.parent, ← further.text]
        cases extended : p.parent with
        | none => rfl
        | some parent =>
            simp only [ih.page _ _ further.context parent (further.asks parent extended)]

/-- A page that only asks shows the same wherever its questions have the same answers. -/
theorem Page.render_alike (known : SameParents questions parents fetch fetch') {page : Page}
    (asks : page.onlyAsks questions parents = true) {model model' : Entries}
    {facts facts' : RequestFacts}
    (alike : Bindings.Alike questions (bindingsOf model facts ++ commonNames)
      (bindingsOf model' facts' ++ commonNames)) :
    page.render (.plain fetch) model facts = page.render (.plain fetch') model' facts' := by
  apply (jumpsOf_alike known mostJumps).page _ _ _ page asks
  exact ⟨alike, rfl, List.all_eq_true.mp (Bool.and_eq_true_iff.mp asks).2⟩

end Runs

end PageServer.Template
