import Mathlib.Data.List.TakeWhile
import PageServer.Proofs.Template.Plain
import PageServer.Text.Surrogate
/-! Pages that are always rendered. A page of plain texts, of tests that compare names with
literals, of blocks of such parts, and of at most one page that it extends by name cannot fail,
whatever its names are bound to, as long as the pages that it extends are there and are of that
kind. -/
namespace PageServer.Template

open Text

/-- A text that has bytes. -/
def Writable (s : List Char) : Prop :=
  ∀ c ∈ s, half? c = none

theorem writable_nil : Writable [] :=
  fun _ member => nomatch member

theorem Writable.append {front back : List Char} (first : Writable front) (last : Writable back) :
    Writable (front ++ back) := by
  intro c member
  rcases List.mem_append.mp member with before | after
  · exact first c before
  · exact last c after

theorem Writable.encodingFault? {s : List Char} (writable : Writable s) :
    encodingFault? s = none := by
  have plain : s.takeWhile (fun c => (half? c).isNone) = s := by
    rw [List.takeWhile_eq_self_iff]
    intro c member
    rw [writable c member]
    rfl
  simp [Text.encodingFault?, firstHalves?, plain]

theorem Markup.ofText_of_writable {s : List Char} (plain : Writable s) :
    Markup.ofText s = .whole (String.ofList s) := by
  simp only [Markup.ofText, plain.encodingFault?]

/-! Parts -/

section Parts

/-- Names and literals stand for something in every scope of bindings. -/
def Expression.isAtom : Expression → Bool
  | .name .. => true
  | .literal _ => true
  | _ => false

def Expression.isSteady : Expression → Bool
  | .comparison first [(.equal, second)] => first.isAtom && second.isAtom
  | e => e.isAtom

mutual

/-- Texts, and choices between such nodes. -/
def Node.isFlat : Node → Bool
  | .text s => s.all fun c => (half? c).isNone
  | .choice test yes no _ => test.isSteady && allFlat yes && allFlat no
  | _ => false

def allFlat : List Node → Bool
  | [] => true
  | node :: rest => node.isFlat && allFlat rest

end

variable (fetch : String → Except RenderFault Page) (jumps : Jumps (Except RenderFault))
  (s : Surroundings)

theorem Expression.eval_of_isAtom {e : Expression} (atom : e.isAtom = true) :
    ∃ d, e.eval (s.scope (.plain fetch) jumps) = .ok d := by
  cases e with
  | name written identifier =>
      have found : (s.scope (.plain fetch) jumps).find identifier = _ :=
        s.find_plain fetch identifier
      simp only [eval, found]
      exact ⟨_, rfl⟩
  | literal v => exact ⟨_, rfl⟩
  | _ => cases atom

theorem Expression.eval_of_isSteady {e : Expression} (steady : e.isSteady = true) :
    ∃ d, e.eval (s.scope (.plain fetch) jumps) = .ok d := by
  unfold isSteady at steady
  split at steady
  · rename_i first second
    obtain ⟨left, right⟩ := Bool.and_eq_true_iff.mp steady
    obtain ⟨a, first⟩ := eval_of_isAtom fetch jumps s left
    obtain ⟨b, second⟩ := eval_of_isAtom fetch jumps s right
    simp only [eval, allHold, first, second, bind, Except.bind, Comparison.holds]
    cases a.same b <;> exact ⟨_, rfl⟩
  · exact eval_of_isAtom fetch jumps s steady

end Parts

section Nodes

variable (fetch : String → Except RenderFault Page) (jumps : Jumps (Except RenderFault))
  (common : Bindings)

mutual

theorem Node.render_of_flat (s : Surroundings) (node : Node) (flat : node.isFlat = true) :
    ∃ t, node.render (.plain fetch) jumps common s = .ok t ∧ Writable t := by
  cases node with
  | text t =>
      have plain : Writable t := by
        intro c member
        simpa using List.all_eq_true.mp flat c member
      refine ⟨_, rfl, ?_⟩
      cases s.silent
      · exact plain
      · exact writable_nil
  | choice test yes no goesOn =>
      obtain ⟨both, other⟩ := Bool.and_eq_true_iff.mp flat
      obtain ⟨steady, first⟩ := Bool.and_eq_true_iff.mp both
      obtain ⟨d, tested⟩ := Expression.eval_of_isSteady fetch jumps s steady
      simp only [Node.render, tested, bind, Except.bind]
      cases d.truthy
      · exact renderAll_of_flat s no other
      · exact renderAll_of_flat s yes first
  | _ => cases flat

theorem renderAll_of_flat (s : Surroundings) (nodes : List Node) (flat : allFlat nodes = true) :
    ∃ t, renderAll (.plain fetch) jumps common s nodes = .ok t ∧ Writable t := by
  cases nodes with
  | nil => exact ⟨[], rfl, writable_nil⟩
  | cons node rest =>
      obtain ⟨first, others⟩ := Bool.and_eq_true_iff.mp flat
      obtain ⟨t, rendered, plain⟩ := Node.render_of_flat s node first
      obtain ⟨more, after, writable⟩ := renderAll_of_flat s rest others
      refine ⟨t ++ more, ?_, plain.append writable⟩
      simp only [renderAll, rendered, after, bind, Except.bind, pure, Except.pure]

end

variable (page : Page)

mutual

/-- At the top level of a page, flat nodes only add their text to it. -/
theorem Node.advance_of_flat (p : Progress) (node : Node) (flat : node.isFlat = true) :
    ∃ t, Writable t ∧
      node.advance (.plain fetch) jumps common page p = .ok { p with text := p.text ++ t } := by
  cases node with
  | text t =>
      obtain ⟨shown, rendered, plain⟩ :=
        Node.render_of_flat fetch jumps common (p.surroundings page) (.text t) flat
      refine ⟨shown, plain, ?_⟩
      simp only [Node.advance, rendered, bind, Except.bind, pure, Except.pure]
  | choice test yes no goesOn =>
      obtain ⟨both, other⟩ := Bool.and_eq_true_iff.mp flat
      obtain ⟨steady, first⟩ := Bool.and_eq_true_iff.mp both
      obtain ⟨d, tested⟩ := Expression.eval_of_isSteady fetch jumps (p.surroundings page) steady
      simp only [Node.advance, tested, bind, Except.bind]
      cases d.truthy
      · exact advanceAll_of_flat p no other
      · exact advanceAll_of_flat p yes first
  | _ => cases flat

theorem advanceAll_of_flat (p : Progress) (nodes : List Node) (flat : allFlat nodes = true) :
    ∃ t, Writable t ∧
      advanceAll (.plain fetch) jumps common page p nodes = .ok { p with text := p.text ++ t } := by
  cases nodes with
  | nil =>
      refine ⟨[], writable_nil, ?_⟩
      rw [advanceAll, List.append_nil]
      rfl
  | cons node rest =>
      obtain ⟨first, others⟩ := Bool.and_eq_true_iff.mp flat
      obtain ⟨t, plain, advanced⟩ := Node.advance_of_flat p node first
      obtain ⟨more, writable, after⟩ :=
        advanceAll_of_flat { p with text := p.text ++ t } rest others
      refine ⟨t ++ more, plain.append writable, ?_⟩
      simp only [advanceAll, advanced, after, bind, Except.bind, List.append_assoc]

end

end Nodes

/-! Pages -/

section Pages

/-- Nodes at the top level of a page that is always rendered. -/
def Node.isSteady : Node → Bool
  | .block .. => true
  | .extending (.literal (.text _)) => true
  | node => node.isFlat

/-- The name of the page that a node extends. -/
def Node.parents : Node → List String
  | .extending (.literal (.text name)) => [name]
  | _ => []

def Page.parents (page : Page) : List String :=
  page.nodes.flatMap Node.parents

def Page.isSteady (page : Page) : Bool :=
  page.nodes.all Node.isSteady && page.parents.length ≤ 1 &&
    page.blocks.all fun entry => allFlat entry.2.body

/-- A page is steady, and so are those that it extends, which are so many at most with itself. -/
def Page.Stands (fetch : String → Except RenderFault Page) : Nat → Page → Prop
  | 0, _ => False
  | depth + 1, page => page.isSteady = true ∧
      ∀ name ∈ page.parents, ∃ parent, fetch name = .ok parent ∧ parent.Stands fetch depth

theorem Page.Stands.isSteady {fetch : String → Except RenderFault Page} {depth : Nat} {page : Page}
    (stands : page.Stands fetch depth) : page.isSteady = true := by
  cases depth with
  | zero => exact stands.elim
  | succ depth => exact stands.1

/-- All blocks in force are flat. -/
def Context.Flat (c : Context Datum) : Prop :=
  ∀ entry ∈ c.blocks, allFlat entry.2.body = true

/-- What is sure of the rendering of a steady page on its way. -/
structure Progress.Sound (fits : Page → Prop) (p : Progress) : Prop where
  text : Writable p.text
  blocks : p.context.Flat
  parent : ∀ page, p.parent = some page → fits page

variable {fetch : String → Except RenderFault Page} {common : Bindings}

theorem Context.Flat.append {c : Context Datum} (flat : c.Flat) {page : Page}
    (steady : page.isSteady = true) :
      Context.Flat { c with blocks := c.blocks ++ page.blocks } := by
  intro entry member
  rcases List.mem_append.mp member with old | added
  · exact flat entry old
  · exact List.all_eq_true.mp (Bool.and_eq_true_iff.mp steady).2 entry added

theorem jumpsOf_block {c : Context Datum} (flat : c.Flat) (depth : Nat) (name : String)
    (level : Nat) : ∃ t, (jumpsOf (.plain fetch) common (depth + 1)).block c name level = .ok t ∧
      Writable t := by
  simp only [jumpsOf]
  split
  · rename_i b found
    have member := List.mem_of_getElem? found
    obtain ⟨entry, among, rfl⟩ := List.mem_map.mp member
    exact renderAll_of_flat fetch _ common _ _ (flat entry (List.mem_filter.mp among).1)
  · exact ⟨[], rfl, writable_nil⟩

/-- A step at the top level of a steady page: texts are added, and a page may be extended, unless
one already is. -/
theorem Node.advance_of_steady (common : Bindings) (page : Page)
    {jumps : Jumps (Except RenderFault)} {p : Progress}
    {fits : Page → Prop} {node : Node}
    (blocks : ∀ c : Context Datum, c.Flat → ∀ name, ∃ t, jumps.block c name 0 = .ok t ∧ Writable t)
    (sound : p.Sound fits) (steady : node.isSteady = true)
    (first : node.parents ≠ [] → p.parent = none)
    (known : ∀ name ∈ node.parents, ∃ parent, fetch name = .ok parent ∧ parent.isSteady = true ∧
      fits parent) :
    ∃ q, node.advance (.plain fetch) jumps common page p = .ok q ∧ q.Sound fits ∧
      (node.parents = [] → q.parent = p.parent) := by
  unfold isSteady at steady
  split at steady
  · rename_i name body
    cases extended : p.parent with
    | some parent =>
        refine ⟨p, ?_, sound, fun _ => extended⟩
        simp [advance, extended, pure, Except.pure]
    | none =>
        obtain ⟨t, jumped, plain⟩ := blocks p.context sound.blocks name
        refine ⟨{ p with text := p.text ++ t }, ?_,
          ⟨sound.text.append plain, sound.blocks, sound.parent⟩, fun _ => extended⟩
        have rendered : (Node.block name body).render (.plain fetch) jumps common
            (p.surroundings page) =
            .ok t := jumped
        simp [advance, extended, rendered, bind, Except.bind, pure, Except.pure]
  · rename_i name
    obtain ⟨parent, there, steady, good⟩ := known name (List.mem_singleton.mpr rfl)
    have single := first (List.cons_ne_nil _ _)
    refine ⟨⟨p.text, some parent, { p.context with
        blocks := p.context.blocks ++ parent.blocks }⟩, ?_, ⟨sound.text, sound.blocks.append steady,
      fun other same => Option.some.inj same ▸ good⟩,
        fun none => absurd none (List.cons_ne_nil _ _)⟩
    simp [advance, single, Expression.eval, templateName, there, bind, Except.bind, pure,
      Except.pure]
  · obtain ⟨t, plain, advanced⟩ := advance_of_flat fetch jumps common page p node steady
    exact ⟨_, advanced, ⟨sound.text.append plain, sound.blocks, sound.parent⟩, fun _ => rfl⟩

theorem advanceAll_of_steady (common : Bindings) (page : Page) {jumps : Jumps (Except RenderFault)}
    {fits : Page → Prop}
    (blocks : ∀ c : Context Datum, c.Flat → ∀ name, ∃ t, jumps.block c name 0 = .ok t ∧ Writable t)
    (nodes : List Node) {p : Progress} (sound : p.Sound fits)
    (steady : nodes.all Node.isSteady = true) (once : (nodes.flatMap Node.parents).length ≤ 1)
    (first : nodes.flatMap Node.parents ≠ [] → p.parent = none)
    (known : ∀ name ∈ nodes.flatMap Node.parents, ∃ parent, fetch name = .ok parent ∧
      parent.isSteady = true ∧ fits parent) :
    ∃ q, advanceAll (.plain fetch) jumps common page p nodes = .ok q ∧ q.Sound fits := by
  induction nodes generalizing p with
  | nil => exact ⟨p, by rw [advanceAll]; rfl, sound⟩
  | cons node rest ih =>
      obtain ⟨here, others⟩ := Bool.and_eq_true_iff.mp steady
      rw [List.flatMap_cons] at once first known
      obtain ⟨q, advanced, after, same⟩ := Node.advance_of_steady common page blocks sound here
        (fun some => first (List.append_ne_nil_of_left_ne_nil some _))
        fun name member => known name (List.mem_append_left _ member)
      rw [List.length_append] at once
      obtain ⟨last, advancedAll, finished⟩ := ih after others (by omega)
        (fun some => by
          -- A page that the rest extends is the only one.
          have none : node.parents = [] := by
            have := List.length_pos_iff.mpr some
            exact List.eq_nil_of_length_eq_zero (by omega)
          rw [same none]
          exact first (List.append_ne_nil_of_right_ne_nil _ some))
        fun name member => known name (List.mem_append_right _ member)
      refine ⟨last, ?_, finished⟩
      simp only [advanceAll, advanced, advancedAll, bind, Except.bind]

/-- A page that stands is rendered wherever enough jumps are left for the pages it extends. -/
theorem jumpsOf_page (depth : Nat) {n : Nat} (enough : depth < n) {page : Page}
    (stands : page.Stands fetch depth) {c : Context Datum} (flat : c.Flat) :
    ∃ t, (jumpsOf (.plain fetch) common n).page c page = .ok t ∧ Writable t := by
  -- By the number of pages: each is rendered with one jump less than the one that it is extended
  -- by.
  induction depth generalizing n page c with
  | zero => exact stands.elim
  | succ depth ih =>
      obtain ⟨n, rfl⟩ : ∃ m, n = m + 1 := ⟨n - 1, by omega⟩
      obtain ⟨steady, parents⟩ := stands
      obtain ⟨both, _⟩ := Bool.and_eq_true_iff.mp steady
      obtain ⟨nodes, once⟩ := Bool.and_eq_true_iff.mp both
      have blocks (c : Context Datum) (flat : c.Flat) (name : String) :
          ∃ t, (jumpsOf (.plain fetch) common n).block c name 0 = .ok t ∧ Writable t := by
        obtain ⟨m, rfl⟩ : ∃ m, n = m + 1 := ⟨n - 1, by omega⟩
        exact jumpsOf_block flat m name 0
      have start : Progress.Sound (fun parent => parent.Stands fetch depth) ⟨[], none, c⟩ :=
        ⟨writable_nil, flat, fun _ none => nomatch none⟩
      have known : ∀ name ∈ page.nodes.flatMap Node.parents, ∃ parent, fetch name = .ok parent ∧
          parent.isSteady = true ∧ parent.Stands fetch depth := by
        intro name member
        obtain ⟨parent, there, good⟩ := parents name member
        exact ⟨parent, there, good.isSteady, good⟩
      obtain ⟨q, advanced, sound⟩ := advanceAll_of_steady common page blocks page.nodes start nodes
        (of_decide_eq_true once) (fun _ => rfl) known
      cases extended : q.parent with
      | none =>
          refine ⟨q.text, ?_, sound.text⟩
          simp only [jumpsOf, advanced, Progress.finish, extended, bind, Except.bind, pure,
            Except.pure]
      | some parent =>
          have fewer : depth < n := by omega
          obtain ⟨t, rendered, plain⟩ := ih fewer (sound.parent parent extended) sound.blocks
          refine ⟨q.text ++ t, ?_, sound.text.append plain⟩
          simp only [jumpsOf, advanced, Progress.finish, extended, rendered, bind, Except.bind,
            pure, Except.pure]

theorem Page.render_of_stands {depth : Nat} (enough : depth < mostJumps) {page : Page}
    (stands : page.Stands fetch depth) (model : Entries) (facts : RequestFacts) :
    ∃ t, page.render (.plain fetch) model facts = .ok t ∧ Writable t :=
  jumpsOf_page depth enough stands
    (List.all_eq_true.mp (Bool.and_eq_true_iff.mp stands.isSteady).2)

end Pages

end PageServer.Template
