import PageServer.Proofs.Template.Calls
import PageServer.Proofs.Template.Plain
/-! Where rendering gets to, and where it fails. Rendering stands at points, with some nodes left;
it goes on past nodes, down into branches, rounds and blocks, and to other pages. It fails exactly
if it gets to a point that meets a fault by itself, however deep that lies, unless it runs out of
jumps. -/
namespace PageServer.Template

open Relation

/-! Failing computations -/

section Failing

variable {ε α β : Type} {fault : ε}

theorem bind_eq_error_iff {x : Except ε α} {next : α → Except ε β} :
    (x >>= next) = .error fault ↔ x = .error fault ∨ ∃ a, x = .ok a ∧ next a = .error fault := by
  cases x <;> simp [bind, Except.bind]

theorem map_eq_error_iff {x : Except ε α} {change : α → β} :
    x.map change = .error fault ↔ x = .error fault := by
  cases x <;> simp [Except.map]

theorem fmap_eq_error_iff {x : Except ε α} {change : α → β} :
    change <$> x = .error fault ↔ x = .error fault :=
  map_eq_error_iff

theorem pure_ne_error {a : α} : (pure a : Except ε α) ≠ .error fault :=
  nofun

-- By the list: the first element that fails ends the computation.
theorem mapM_eq_error_iff {f : α → Except ε β} {xs : List α} :
    xs.mapM f = .error fault ↔ ∃ front x back, xs = front ++ x :: back ∧
      (∀ y ∈ front, ∃ b, f y = .ok b) ∧ f x = .error fault := by
  induction xs with
  | nil => simp [pure_ne_error]
  | cons first rest ih =>
      simp only [List.mapM_cons, bind_eq_error_iff, pure_ne_error, and_false, exists_false,
        or_false, ih]
      constructor
      · rintro (failed | ⟨b, passed, front, x, back, rfl, before, failed⟩)
        · exact ⟨[], first, rest, rfl, nofun, failed⟩
        · refine ⟨first :: front, x, back, rfl, ?_, failed⟩
          intro y member
          rcases List.mem_cons.mp member with rfl | later
          · exact ⟨b, passed⟩
          · exact before y later
      · rintro ⟨front, x, back, split, before, failed⟩
        cases front with
        | nil =>
            cases split
            exact .inl failed
        | cons y front =>
            cases split
            obtain ⟨b, passed⟩ := before first List.mem_cons_self
            have others : ∀ z ∈ front, ∃ b, f z = .ok b := fun z later => before z (.tail _ later)
            exact .inr ⟨b, passed, front, x, back, rfl, others, failed⟩

end Failing

/-! Failing nodes -/

section Nodes

variable {fetch : String → Except RenderFault Page} {jumps : Jumps (Except RenderFault)}
  {common : Bindings} {s : Surroundings} {fault : RenderFault}

theorem render_output_fails_iff {e : Expression} :
    (Node.output e).render (.plain fetch) jumps common s = .error fault ↔
      s.silent = false ∧
        ((s.emptied? e = none ∧ e.eval (s.scope (.plain fetch) jumps) = .error fault) ∨
          (s.emptied? e ≠ none ∧ fault = .beyond "changes the model")) := by
  unfold Node.render
  cases silent : s.silent with
  | true => simp [pure_ne_error]
  | false =>
      cases emptied : s.emptied? e with
      | none => simp [fmap_eq_error_iff]
      | some entry => simp [fmap_eq_error_iff, eq_comm (a := fault)]

theorem render_choice_fails_iff {test : Expression} {yes no : List Node} {goesOn : Bool} :
    (Node.choice test yes no goesOn).render (.plain fetch) jumps common s = .error fault ↔
      test.eval (s.scope (.plain fetch) jumps) = .error fault ∨
        ∃ d, test.eval (s.scope (.plain fetch) jumps) = .ok d ∧
          renderAll (.plain fetch) jumps common s (if d.truthy then yes else no) = .error fault := by
  unfold Node.render
  rw [bind_eq_error_iff]
  refine or_congr_right (exists_congr fun d => and_congr_right fun _ => ?_)
  cases d.truthy <;> simp

theorem render_loop_fails_iff {target : String} {items : Expression} {body otherwise : List Node}
    {counted : Bool} :
    (Node.loop target items body otherwise counted).render (.plain fetch) jumps common s =
        .error fault ↔
      items.eval (s.scope (.plain fetch) jumps) = .error fault ∨
        ∃ d, items.eval (s.scope (.plain fetch) jumps) = .ok d ∧
          (d.items = .error fault ∨
            (d.items = .ok [] ∧ renderAll (.plain fetch) jumps common s otherwise = .error fault) ∨
            ∃ data front entry back, d.items = .ok data ∧ data.zipIdx = front ++ entry :: back ∧
              (∀ e ∈ front, ∃ t, renderAll (.plain fetch) jumps common
                (s.round target counted data e) body = .ok t) ∧
              renderAll (.plain fetch) jumps common (s.round target counted data entry) body =
                .error fault) := by
  unfold Node.render
  simp only [bind_eq_error_iff]
  refine or_congr_right (exists_congr fun d => and_congr_right fun _ => or_congr_right ?_)
  constructor
  · rintro ⟨data, row, failed⟩
    cases data with
    | nil => exact .inl ⟨row, by simpa using failed⟩
    | cons first rest =>
        right
        rw [if_neg (by simp), bind_eq_error_iff] at failed
        obtain ⟨front, entry, back, split, before, here⟩ :=
          mapM_eq_error_iff.mp (failed.resolve_right (by simp [pure_ne_error]))
        exact ⟨_, front, entry, back, row, split, before, here⟩
  · rintro (⟨empty, failed⟩ | ⟨data, front, entry, back, row, split, before, here⟩)
    · exact ⟨[], empty, by simpa using failed⟩
    · refine ⟨data, row, ?_⟩
      have filled : data ≠ [] := by
        rintro rfl
        simp at split
      rw [if_neg (by simpa using filled), bind_eq_error_iff]
      exact .inl (mapM_eq_error_iff.mpr ⟨front, entry, back, split, before, here⟩)

theorem render_including_fails_iff {e : Expression} {ifThere alone : Bool} :
    (Node.including e ifThere alone).render (.plain fetch) jumps common s = .error fault ↔
      e.eval (s.scope (.plain fetch) jumps) = .error fault ∨
        ∃ d, e.eval (s.scope (.plain fetch) jumps) = .ok d ∧
          ((selectPage (.plain fetch) d = .ok (.error fault) ∧
              ¬ (ifThere = true ∧ fault.isAbsence = true)) ∨
            ∃ page, selectPage (.plain fetch) d = .ok (.ok page) ∧
              jumps.page (s.contextOf common alone page) page = .error fault) := by
  unfold Node.render
  rw [bind_eq_error_iff]
  refine or_congr_right (exists_congr fun d => and_congr_right fun _ => ?_)
  obtain ⟨outcome, selected⟩ := selectPage_plain fetch d
  rw [selected]
  cases outcome with
  | ok page => simp [bind, Except.bind]
  | error other =>
      simp only [bind, Except.bind, Effects.plain_lift, reduceCtorEq, false_and, exists_false,
        or_false, Except.error.injEq, Except.ok.injEq]
      split
      · rename_i ignored
        have ignored : ifThere = true ∧ other.isAbsence = true := by simpa using ignored
        refine iff_of_false pure_ne_error ?_
        rintro ⟨rfl, counts⟩
        exact counts ignored
      · rename_i counts
        have counts : ¬ (ifThere = true ∧ other.isAbsence = true) := by simpa using counts
        constructor
        · intro failed
          cases failed
          exact ⟨rfl, counts⟩
        · rintro ⟨rfl, _⟩
          rfl

theorem renderAll_cons_fails_iff {node : Node} {rest : List Node} :
    renderAll (.plain fetch) jumps common s (node :: rest) = .error fault ↔
      node.render (.plain fetch) jumps common s = .error fault ∨
        ∃ t, node.render (.plain fetch) jumps common s = .ok t ∧
          renderAll (.plain fetch) jumps common s rest = .error fault := by
  simp only [renderAll, bind_eq_error_iff, pure_ne_error, and_false, exists_false, or_false]

theorem advanceAll_cons_fails_iff {page : Page} {p : Progress} {node : Node} {rest : List Node} :
    advanceAll (.plain fetch) jumps common page p (node :: rest) = .error fault ↔
      node.advance (.plain fetch) jumps common page p = .error fault ∨
        ∃ q, node.advance (.plain fetch) jumps common page p = .ok q ∧
          advanceAll (.plain fetch) jumps common page q rest = .error fault := by
  simp only [advanceAll, bind_eq_error_iff]

/-- A node that is rendered at the top level as it would be inside the page: it neither decides
between others nor extends, and it is no block of a page that extends another. -/
def Node.Sinks (p : Progress) : Node → Prop
  | .choice .. => False
  | .extending _ => False
  | .block .. => p.parent = none
  | _ => True

theorem advance_of_sinks {page : Page} {p : Progress} {node : Node} (sinks : node.Sinks p) :
    node.advance (.plain fetch) jumps common page p = (do
      let t ← node.render (.plain fetch) jumps common (p.surroundings page)
      return { p with text := p.text ++ t }) := by
  cases node with
  | choice | extending => exact sinks.elim
  | block name body =>
      have alone : p.parent = none := sinks
      simp [Node.advance, alone]
  | _ => simp only [Node.advance]

theorem advanceAll_append {page : Page} {p : Progress} {front back : List Node} :
    advanceAll (.plain fetch) jumps common page p (front ++ back) = (do
      let q ← advanceAll (.plain fetch) jumps common page p front
      advanceAll (.plain fetch) jumps common page q back) := by
  induction front generalizing p with
  | nil => simp only [List.nil_append, advanceAll, pure_bind]
  | cons node rest ih =>
      simp only [List.cons_append, advanceAll, bind_assoc]
      exact congrArg _ (funext fun q => ih)

theorem advance_choice {page : Page} {p : Progress} {test : Expression} {yes no : List Node}
    {goesOn : Bool} {d : Datum}
    (decided : test.eval ((p.surroundings page).scope (.plain fetch) jumps) = .ok d) :
    (Node.choice test yes no goesOn).advance (.plain fetch) jumps common page p =
      advanceAll (.plain fetch) jumps common page p (if d.truthy then yes else no) := by
  simp only [Node.advance, decided, bind, Except.bind]
  split <;> rfl

theorem advance_extending_fails_iff {page : Page} {p : Progress} {e : Expression} :
    (Node.extending e).advance (.plain fetch) jumps common page p = .error fault ↔
      (p.parent ≠ none ∧ fault = .extendedTwice) ∨
        (p.parent = none ∧
          (e.eval ((p.surroundings page).scope (.plain fetch) jumps) = .error fault ∨
            ∃ d, e.eval ((p.surroundings page).scope (.plain fetch) jumps) = .ok d ∧
              (templateName d).bind fetch = .error fault)) := by
  unfold Node.advance
  cases alone : p.parent with
  | some parent => simp [eq_comm]
  | none =>
      have fetched (d : Datum) : (templateName d).bind fetch = (templateName d >>= fetch) := rfl
      simp only [Option.isSome_none, Bool.false_eq_true, ↓reduceIte, Effects.plain_lift,
        Effects.plain_fetch, pure_bind, fetched, bind_eq_error_iff, pure_ne_error, and_false,
        exists_false, or_false, ne_eq, not_true, false_and, false_or, true_and]

end Nodes

/-! Points -/

/-- Where rendering stands with a depth of jumps left: at the top level of a page or inside it,
where some nodes are left. -/
inductive Point where
  | top (depth : Nat) (page : Page) (p : Progress) (nodes : List Node)
  | inside (depth : Nat) (s : Surroundings) (nodes : List Node)

namespace Point

/-- The start of a page in a context. -/
def ofPage (depth : Nat) (c : Context Datum) (page : Page) : Point :=
  .top depth page ⟨[], none, c⟩ page.nodes

/-- The start of a block. -/
def ofBlock (depth : Nat) (c : Context Datum) (name : String) (level : Nat) (b : Block) : Point :=
  .inside depth ⟨c, blockBindings name level b.body c, b.escapes, false⟩ b.body

def depth : Point → Nat
  | .top depth .. => depth
  | .inside depth .. => depth

/-- What is evaluated next, before anything else, and where. -/
def asks? : Point → Option (Expression × Surroundings)
  | .inside _ s (.output e :: _) =>
      if s.silent || (s.emptied? e).isSome then none else some (e, s)
  | .inside _ s (.choice test .. :: _) => some (test, s)
  | .inside _ s (.loop _ items .. :: _) => some (items, s)
  | .inside _ s (.including e .. :: _) => some (e, s)
  | .top _ page p (.choice test .. :: _) => some (test, p.surroundings page)
  | .top _ page p (.extending e :: _) =>
      if p.parent.isSome then none else some (e, p.surroundings page)
  | _ => none

variable (fetch : String → Except RenderFault Page) (common : Bindings)

/-- What can be jumped to from there. -/
def jumps (x : Point) : Jumps (Except RenderFault) :=
  jumpsOf (.plain fetch) common x.depth

/-- What comes of the nodes that are left, and at the top level of all that follows them. -/
def outcome : Point → Except RenderFault (List Char)
  | .top depth page p nodes => do
      let q ← advanceAll (.plain fetch) (jumpsOf (.plain fetch) common depth) common page p nodes
      q.finish (jumpsOf (.plain fetch) common depth)
  | .inside depth s nodes =>
      renderAll (.plain fetch) (jumpsOf (.plain fetch) common depth) common s nodes

variable {fetch common} {depth level : Nat} {c : Context Datum} {name : String}

theorem outcome_ofPage (page : Page) :
    (jumpsOf (.plain fetch) common (depth + 1)).page c page =
      (ofPage depth c page).outcome fetch common :=
  rfl

theorem outcome_ofBlock {b : Block} (known : (c.blocks.named name)[level]? = some b) :
    (jumpsOf (.plain fetch) common (depth + 1)).block c name level =
      (ofBlock depth c name level b).outcome fetch common := by
  simp only [jumpsOf, known]
  rfl

end Point

/-! Ways -/

section Ways

variable (fetch : String → Except RenderFault Page) (common : Bindings)

/-- One step of rendering: past a node that was rendered, down into a branch, a round or a block, to
an included page, to a block that an expression calls, or from the end of a page to the one that it
extends. -/
inductive Goes : Point → Point → Prop
  | past {depth : Nat} {s : Surroundings} {node : Node} {rest : List Node} {t : List Char}
      (rendered : node.render (.plain fetch) (jumpsOf (.plain fetch) common depth) common s =
        .ok t) :
      Goes (.inside depth s (node :: rest)) (.inside depth s rest)
  | branch {depth : Nat} {s : Surroundings} {test : Expression} {yes no rest : List Node}
      {goesOn : Bool} {d : Datum}
      (decided : test.eval (s.scope (.plain fetch) (jumpsOf (.plain fetch) common depth)) = .ok d) :
      Goes (.inside depth s (.choice test yes no goesOn :: rest))
        (.inside depth s (if d.truthy then yes else no))
  | round {depth : Nat} {s : Surroundings} {target : String} {items : Expression}
      {body otherwise rest : List Node} {counted : Bool} {d : Datum} {data : List Datum}
      {front back : List (Datum × Nat)} {entry : Datum × Nat}
      (given : items.eval (s.scope (.plain fetch) (jumpsOf (.plain fetch) common depth)) = .ok d)
      (row : d.items = .ok data) (rounds : data.zipIdx = front ++ entry :: back)
      (before : ∀ e ∈ front, ∃ t,
        renderAll (.plain fetch) (jumpsOf (.plain fetch) common depth) common
          (s.round target counted data e) body = .ok t) :
      Goes (.inside depth s (.loop target items body otherwise counted :: rest))
        (.inside depth (s.round target counted data entry) body)
  | otherwise {depth : Nat} {s : Surroundings} {target : String} {items : Expression}
      {body otherwise rest : List Node} {counted : Bool} {d : Datum}
      (given : items.eval (s.scope (.plain fetch) (jumpsOf (.plain fetch) common depth)) = .ok d)
      (empty : d.items = .ok []) :
      Goes (.inside depth s (.loop target items body otherwise counted :: rest))
        (.inside depth s otherwise)
  | block {depth : Nat} {s : Surroundings} {name : String} {body rest : List Node} {b : Block}
      (known : (s.context.blocks.named name)[0]? = some b) :
      Goes (.inside (depth + 1) s (.block name body :: rest)) (.ofBlock depth s.context name 0 b)
  | including {depth : Nat} {s : Surroundings} {e : Expression} {ifThere alone : Bool}
      {rest : List Node} {d : Datum} {page : Page}
      (named : e.eval (s.scope (.plain fetch) (jumpsOf (.plain fetch) common (depth + 1))) = .ok d)
      (selected : selectPage (.plain fetch) d = .ok (.ok page)) :
      Goes (.inside (depth + 1) s (.including e ifThere alone :: rest))
        (.ofPage depth (s.contextOf common alone page) page)
  | call {x : Point} {depth level : Nat} {e : Expression} {s : Surroundings} {name : String}
      {c : Context Datum} {b : Block} (asks : x.asks? = some (e, s)) (left : x.depth = depth + 1)
      (calls : e.Calls (s.scope (.plain fetch) (x.jumps fetch common)) (.block name level c) [])
      (known : (c.blocks.named name)[level]? = some b) :
      Goes x (.ofBlock depth { c with fixed := true } name level b)
  | onTop {depth : Nat} {page : Page} {p q : Progress} {node : Node} {rest : List Node}
      (advanced : node.advance (.plain fetch) (jumpsOf (.plain fetch) common depth) common page p =
        .ok q) :
      Goes (.top depth page p (node :: rest)) (.top depth page q rest)
  | branchOnTop {depth : Nat} {page : Page} {p : Progress} {test : Expression}
      {yes no rest : List Node} {goesOn : Bool} {d : Datum}
      (decided : test.eval ((p.surroundings page).scope (.plain fetch)
        (jumpsOf (.plain fetch) common depth)) = .ok d) :
      Goes (.top depth page p (.choice test yes no goesOn :: rest))
        (.top depth page p ((if d.truthy then yes else no) ++ rest))
  | down {depth : Nat} {page : Page} {p : Progress} {node : Node} {rest : List Node}
      (sinks : node.Sinks p) :
      Goes (.top depth page p (node :: rest)) (.inside depth (p.surroundings page) [node])
  | parent {depth : Nat} {page parent : Page} {p : Progress} (extended : p.parent = some parent) :
      Goes (.top (depth + 1) page p []) (.ofPage depth p.context parent)

/-- Rendering gets from one point to another. -/
def Reaches : Point → Point → Prop :=
  ReflTransGen (Goes fetch common)

/-- A point meets a fault by itself: what it evaluates fails although all blocks that are called
there are rendered, what a loop runs over is no row, a page that is included or extended is not to
be had, a second page is extended, or the model would be changed. -/
inductive Meets : Point → RenderFault → Prop
  | expression {x : Point} {e : Expression} {s : Surroundings} {fault : RenderFault}
      (asks : x.asks? = some (e, s))
      (failed : e.eval (s.scope (.plain fetch) (x.jumps fetch common)) = .error fault)
      (calls : ∀ name level c,
        e.Calls (s.scope (.plain fetch) (x.jumps fetch common)) (.block name level c) [] →
        ∃ t, (x.jumps fetch common).block { c with fixed := true } name level = .ok t) :
      Meets x fault
  | row {depth : Nat} {s : Surroundings} {target : String} {items : Expression}
      {body otherwise rest : List Node} {counted : Bool} {d : Datum} {fault : RenderFault}
      (given : items.eval (s.scope (.plain fetch) (jumpsOf (.plain fetch) common depth)) = .ok d)
      (failed : d.items = .error fault) :
      Meets (.inside depth s (.loop target items body otherwise counted :: rest)) fault
  | included {depth : Nat} {s : Surroundings} {e : Expression} {ifThere alone : Bool}
      {rest : List Node} {d : Datum} {fault : RenderFault}
      (named : e.eval (s.scope (.plain fetch) (jumpsOf (.plain fetch) common depth)) = .ok d)
      (failed : selectPage (.plain fetch) d = .ok (.error fault))
      (counts : ¬ (ifThere = true ∧ fault.isAbsence = true)) :
      Meets (.inside depth s (.including e ifThere alone :: rest)) fault
  | extended {depth : Nat} {page : Page} {p : Progress} {e : Expression} {rest : List Node}
      {d : Datum} {fault : RenderFault} (alone : p.parent = none)
      (named : e.eval ((p.surroundings page).scope (.plain fetch)
        (jumpsOf (.plain fetch) common depth)) = .ok d)
      (failed : (templateName d).bind fetch = .error fault) :
      Meets (.top depth page p (.extending e :: rest)) fault
  | emptied {depth : Nat} {s : Surroundings} {e : Expression} {rest : List Node}
      (loud : s.silent = false) (empties : s.emptied? e ≠ none) :
      Meets (.inside depth s (.output e :: rest)) (.beyond "changes the model")
  | twice {depth : Nat} {page parent : Page} {p : Progress} {e : Expression} {rest : List Node}
      (already : p.parent = some parent) :
      Meets (.top depth page p (.extending e :: rest)) .extendedTwice

end Ways

section Faults

variable {fetch : String → Except RenderFault Page} {common : Bindings} {x y : Point}
  {fault : RenderFault}

theorem Point.top_fails_of_node {depth : Nat} {page : Page} {p : Progress} {node : Node}
    {rest : List Node}
    (failed : node.advance (.plain fetch) (jumpsOf (.plain fetch) common depth) common page p =
      .error fault) :
    (Point.top depth page p (node :: rest)).outcome fetch common = .error fault := by
  simp only [Point.outcome, advanceAll, failed, bind, Except.bind]

theorem Point.inside_fails_of_node {depth : Nat} {s : Surroundings} {node : Node} {rest : List Node}
    (failed : node.render (.plain fetch) (jumpsOf (.plain fetch) common depth) common s =
      .error fault) :
    (Point.inside depth s (node :: rest)).outcome fetch common = .error fault :=
  renderAll_cons_fails_iff.mpr (.inl failed)

/-- Where what is evaluated next fails, everything does. -/
theorem Point.fails_of_asked {e : Expression} {s : Surroundings} (asks : x.asks? = some (e, s))
    (failed : e.eval (s.scope (.plain fetch) (x.jumps fetch common)) = .error fault) :
    x.outcome fetch common = .error fault := by
  unfold Point.asks? at asks
  split at asks
  · split at asks
    · cases asks
    · rename_i loud
      cases asks
      obtain ⟨loud, steady⟩ : s.silent = false ∧ s.emptied? e = none := by simpa using loud
      exact inside_fails_of_node (render_output_fails_iff.mpr ⟨loud, .inl ⟨steady, failed⟩⟩)
  · cases asks
    exact inside_fails_of_node (render_choice_fails_iff.mpr (.inl failed))
  · cases asks
    exact inside_fails_of_node (render_loop_fails_iff.mpr (.inl failed))
  · cases asks
    exact inside_fails_of_node (render_including_fails_iff.mpr (.inl failed))
  · cases asks
    apply top_fails_of_node
    simp only [Node.advance, bind_eq_error_iff]
    exact .inl failed
  · split at asks
    · cases asks
    · rename_i alone
      cases asks
      apply top_fails_of_node
      refine advance_extending_fails_iff.mpr (.inr ⟨?_, .inl failed⟩)
      simpa using alone
  · cases asks

/-- What fails behind a step fails before it. -/
theorem Goes.fails (goes : Goes fetch common x y)
    (failed : y.outcome fetch common = .error fault) : x.outcome fetch common = .error fault := by
  cases goes with
  | past rendered => exact renderAll_cons_fails_iff.mpr (.inr ⟨_, rendered, failed⟩)
  | branch decided =>
      exact Point.inside_fails_of_node (render_choice_fails_iff.mpr (.inr ⟨_, decided, failed⟩))
  | round given row rounds before =>
      exact Point.inside_fails_of_node (render_loop_fails_iff.mpr (.inr ⟨_, given, .inr (.inr
        ⟨_, _, _, _, row, rounds, before, failed⟩)⟩))
  | otherwise given empty =>
      exact Point.inside_fails_of_node (render_loop_fails_iff.mpr (.inr ⟨_, given, .inr (.inl
        ⟨empty, failed⟩)⟩))
  | block known =>
      apply Point.inside_fails_of_node
      rw [← Point.outcome_ofBlock known] at failed
      exact failed
  | including named selected =>
      rw [← Point.outcome_ofPage] at failed
      exact Point.inside_fails_of_node (render_including_fails_iff.mpr (.inr ⟨_, named, .inr
        ⟨_, selected, failed⟩⟩))
  | @call _ _ _ _ _ _ c _ asks left calls known =>
      rw [← Point.outcome_ofBlock (c := { c with fixed := true }) known, ← left] at failed
      apply Point.fails_of_asked asks
      apply calls.fails
      simp only [Surroundings.scope, callDatum, bind_eq_error_iff]
      exact .inl failed
  | onTop advanced =>
      simp only [Point.outcome, advanceAll, advanced, bind, Except.bind]
      exact failed
  | branchOnTop decided =>
      simp only [Point.outcome, advanceAll_append] at failed
      simp only [Point.outcome, advanceAll, advance_choice decided]
      exact failed
  | down sinks =>
      apply Point.top_fails_of_node
      rw [advance_of_sinks sinks, bind_eq_error_iff]
      have alone := renderAll_cons_fails_iff.mp failed
      refine .inl (alone.resolve_right ?_)
      rintro ⟨_, _, nothing⟩
      cases nothing
  | parent extended =>
      rw [← Point.outcome_ofPage] at failed
      simp only [Point.outcome, advanceAll, pure, Except.pure, bind, Except.bind, Progress.finish,
        extended, failed]

/-- A point that meets a fault fails with it. -/
theorem Meets.fails (meets : Meets fetch common x fault) :
    x.outcome fetch common = .error fault := by
  cases meets with
  | expression asks failed calls => exact Point.fails_of_asked asks failed
  | row given failed =>
      exact Point.inside_fails_of_node (render_loop_fails_iff.mpr (.inr ⟨_, given, .inl failed⟩))
  | included named failed counts =>
      exact Point.inside_fails_of_node (render_including_fails_iff.mpr (.inr ⟨_, named, .inl
        ⟨failed, counts⟩⟩))
  | extended alone named failed =>
      exact Point.top_fails_of_node (advance_extending_fails_iff.mpr (.inr ⟨alone, .inr
        ⟨_, named, failed⟩⟩))
  | emptied loud empties =>
      exact Point.inside_fails_of_node (render_output_fails_iff.mpr ⟨loud, .inr ⟨empties, rfl⟩⟩)
  | twice already =>
      apply Point.top_fails_of_node
      exact advance_extending_fails_iff.mpr (.inl ⟨by simp [already], rfl⟩)

theorem Reaches.fails (reaches : Reaches fetch common x y)
    (failed : y.outcome fetch common = .error fault) : x.outcome fetch common = .error fault := by
  -- By the steps, from the last one back.
  induction reaches using ReflTransGen.head_induction_on with
  | refl => exact failed
  | head goes _ ih => exact goes.fails ih

end Faults

/-! Origins of faults -/

section Origins

variable {fetch : String → Except RenderFault Page} {common : Bindings} {fault : RenderFault}

/-- A fault comes from some point that is reached and meets it. -/
def Arises (fetch : String → Except RenderFault Page) (common : Bindings) (x : Point)
    (fault : RenderFault) : Prop :=
  ∃ y, Reaches fetch common x y ∧ Meets fetch common y fault

theorem Arises.of_meets {x : Point} (meets : Meets fetch common x fault) :
    Arises fetch common x fault :=
  ⟨x, .refl, meets⟩

theorem Arises.fails {x : Point} (arises : Arises fetch common x fault) :
    x.outcome fetch common = .error fault := by
  obtain ⟨y, reaches, meets⟩ := arises
  exact reaches.fails meets.fails

theorem Arises.of_goes {x y : Point} (goes : Goes fetch common x y)
    (arises : Arises fetch common y fault) : Arises fetch common x fault := by
  obtain ⟨z, reaches, meets⟩ := arises
  exact ⟨z, .head goes reaches, meets⟩

/-- Whatever fails with one jump less has its fault from somewhere. -/
def Traced (fetch : String → Except RenderFault Page) (common : Bindings) (fault : RenderFault)
    (depth : Nat) : Prop :=
  ∀ below, depth = below + 1 → ∀ x : Point, x.depth = below →
    x.outcome fetch common = .error fault → Arises fetch common x fault

section Blocks

variable {depth : Nat} (other : fault ≠ .tooDeep) (traced : Traced fetch common fault depth)
include other traced

/-- A block that fails is known, and its fault comes from its nodes. -/
theorem arises_of_block {c : Context Datum} {name : String} {level : Nat}
    (failed : (jumpsOf (.plain fetch) common depth).block c name level = .error fault) :
    ∃ below b, depth = below + 1 ∧ (c.blocks.named name)[level]? = some b ∧
      Arises fetch common (.ofBlock below c name level b) fault := by
  cases depth with
  | zero =>
      cases failed
      exact absurd rfl other
  | succ below =>
      cases known : (c.blocks.named name)[level]? with
      | none => simp [jumpsOf, known, pure_ne_error] at failed
      | some b =>
          rw [Point.outcome_ofBlock known] at failed
          exact ⟨below, b, rfl, rfl, traced below rfl _ rfl failed⟩

theorem arises_of_page {c : Context Datum} {page : Page}
    (failed : (jumpsOf (.plain fetch) common depth).page c page = .error fault) :
    ∃ below, depth = below + 1 ∧ Arises fetch common (.ofPage below c page) fault := by
  cases depth with
  | zero =>
      cases failed
      exact absurd rfl other
  | succ below =>
      rw [Point.outcome_ofPage] at failed
      exact ⟨below, rfl, traced below rfl _ rfl failed⟩

/-- What is evaluated next either fails by itself or because a block that it calls does. -/
theorem arises_of_asked {x : Point} (here : x.depth = depth) {e : Expression} {s : Surroundings}
    (asks : x.asks? = some (e, s))
    (failed : e.eval (s.scope (.plain fetch) (x.jumps fetch common)) = .error fault) :
    Arises fetch common x fault := by
  by_cases calls : ∀ name level c,
      e.Calls (s.scope (.plain fetch) (x.jumps fetch common)) (.block name level c) [] →
        ∃ t, (x.jumps fetch common).block { c with fixed := true } name level = .ok t
  · exact .of_meets (.expression asks failed calls)
  · simp only [Classical.not_forall] at calls
    obtain ⟨name, level, c, called, unrendered⟩ := calls
    cases rendered : (x.jumps fetch common).block { c with fixed := true } name level with
    | ok t => exact absurd ⟨t, rendered⟩ unrendered
    | error reason =>
        have failed' : e.eval (s.scope (.plain fetch) (x.jumps fetch common)) = .error reason := by
          apply called.fails
          simp only [Surroundings.scope, callDatum, bind_eq_error_iff]
          exact .inl rendered
        rw [failed] at failed'
        cases failed'
        rw [Point.jumps, here] at rendered
        obtain ⟨below, b, left, known, arises⟩ := arises_of_block other traced rendered
        exact .of_goes (.call asks (here.trans left) called known) arises

end Blocks

section Walks

variable {depth : Nat} {page : Page}

mutual

theorem Node.arises_inside (other : fault ≠ .tooDeep) (traced : Traced fetch common fault depth)
    (s : Surroundings) (node : Node) (rest : List Node)
    (failed : node.render (.plain fetch) (jumpsOf (.plain fetch) common depth) common s =
      .error fault) :
    Arises fetch common (.inside depth s (node :: rest)) fault := by
  cases node with
  | text t => cases failed
  | output e =>
      obtain ⟨loud, ⟨steady, unevaluated⟩ | ⟨empties, rfl⟩⟩ := render_output_fails_iff.mp failed
      · have asks : (Point.inside depth s (.output e :: rest)).asks? = some (e, s) := by
          simp [Point.asks?, loud, steady]
        exact arises_of_asked other traced rfl asks unevaluated
      · exact .of_meets (.emptied loud empties)
  | choice test yes no goesOn =>
      rcases render_choice_fails_iff.mp failed with undecided | ⟨d, decided, branch⟩
      · exact arises_of_asked other traced rfl rfl undecided
      · apply Arises.of_goes (.branch decided)
        cases truth : d.truthy with
        | true =>
            rw [truth] at branch
            exact arises_inside other traced s yes branch
        | false =>
            rw [truth] at branch
            exact arises_inside other traced s no branch
  | loop target items body otherwise counted =>
      rcases render_loop_fails_iff.mp failed with unevaluated | ⟨d, given, no_row |
        ⟨empty, without⟩ | ⟨data, front, entry, back, row, rounds, before, round⟩⟩
      · exact arises_of_asked other traced rfl rfl unevaluated
      · exact .of_meets (.row given no_row)
      · exact .of_goes (.otherwise given empty) (arises_inside other traced s otherwise without)
      · exact .of_goes (.round given row rounds before) (arises_inside other traced _ body round)
  | block name body =>
      obtain ⟨below, b, rfl, known, arises⟩ := arises_of_block other traced failed
      exact .of_goes (.block known) arises
  | extending e => cases failed
  | including e ifThere alone =>
      rcases render_including_fails_iff.mp failed with unevaluated | ⟨d, named,
        ⟨unselected, counts⟩ | ⟨page, selected, unrendered⟩⟩
      · exact arises_of_asked other traced rfl rfl unevaluated
      · exact .of_meets (.included named unselected counts)
      · obtain ⟨below, rfl, arises⟩ := arises_of_page other traced unrendered
        exact .of_goes (.including named selected) arises

theorem arises_inside (other : fault ≠ .tooDeep) (traced : Traced fetch common fault depth)
    (s : Surroundings) (nodes : List Node)
    (failed : renderAll (.plain fetch) (jumpsOf (.plain fetch) common depth) common s nodes =
      .error fault) :
    Arises fetch common (.inside depth s nodes) fault := by
  cases nodes with
  | nil => cases failed
  | cons node rest =>
      rcases renderAll_cons_fails_iff.mp failed with here | ⟨t, rendered, behind⟩
      · exact Node.arises_inside other traced s node rest here
      · exact .of_goes (.past rendered) (arises_inside other traced s rest behind)

end

mutual

theorem Node.arises_on_top (other : fault ≠ .tooDeep) (traced : Traced fetch common fault depth)
    (p : Progress) (node : Node) (rest : List Node)
    (failed : node.advance (.plain fetch) (jumpsOf (.plain fetch) common depth) common page p =
      .error fault) :
    Arises fetch common (.top depth page p (node :: rest)) fault := by
  have down (sinks : node.Sinks p) :
      Arises fetch common (.top depth page p (node :: rest)) fault := by
    rw [advance_of_sinks sinks, bind_eq_error_iff] at failed
    have unrendered := failed.resolve_right (by simp [pure_ne_error])
    exact .of_goes (.down sinks) (Node.arises_inside other traced _ node [] unrendered)
  cases node with
  | choice test yes no goesOn =>
      cases decided : test.eval
        ((p.surroundings page).scope (.plain fetch) (jumpsOf (.plain fetch) common depth)) with
      | error reason =>
          simp only [Node.advance, decided, bind, Except.bind] at failed
          cases failed
          exact arises_of_asked other traced rfl rfl decided
      | ok d =>
          rw [advance_choice decided] at failed
          apply Arises.of_goes (.branchOnTop decided)
          cases truth : d.truthy with
          | true =>
              rw [truth] at failed
              exact arises_on_top other traced p yes rest failed
          | false =>
              rw [truth] at failed
              exact arises_on_top other traced p no rest failed
  | extending e =>
      rcases advance_extending_fails_iff.mp failed with ⟨already, rfl⟩ |
        ⟨alone, unevaluated | ⟨d, named, unfetched⟩⟩
      · obtain ⟨parent, already⟩ := Option.ne_none_iff_exists'.mp already
        exact .of_meets (.twice already)
      · have asks : (Point.top depth page p (.extending e :: rest)).asks? =
            some (e, p.surroundings page) := by
          simp [Point.asks?, alone]
        exact arises_of_asked other traced rfl asks unevaluated
      · exact .of_meets (.extended alone named unfetched)
  | block name body =>
      cases extended : p.parent with
      | some parent => simp [Node.advance, extended, pure_ne_error] at failed
      | none => exact down extended
  | text | output | loop | including => exact down trivial

theorem arises_on_top (other : fault ≠ .tooDeep) (traced : Traced fetch common fault depth)
    (p : Progress) (nodes rest : List Node)
    (failed : advanceAll (.plain fetch) (jumpsOf (.plain fetch) common depth) common page p nodes =
      .error fault) :
    Arises fetch common (.top depth page p (nodes ++ rest)) fault := by
  cases nodes with
  | nil => cases failed
  | cons node others =>
      rcases advanceAll_cons_fails_iff.mp failed with here | ⟨q, advanced, behind⟩
      · exact Node.arises_on_top other traced p node (others ++ rest) here
      · exact .of_goes (.onTop advanced) (arises_on_top other traced q others rest behind)

end

/-- Rendering gets past the nodes of a page that can be rendered. -/
theorem reaches_end {p q : Progress} {nodes : List Node}
    (advanced : advanceAll (.plain fetch)
      (jumpsOf (.plain fetch) common depth) common page p nodes = .ok q) :
    Reaches fetch common (.top depth page p nodes) (.top depth page q []) := by
  induction nodes generalizing p with
  | nil =>
      cases advanced
      exact .refl
  | cons node rest ih =>
      unfold advanceAll at advanced
      cases here : node.advance (.plain fetch)
        (jumpsOf (.plain fetch) common depth) common page p with
      | error reason => simp [here, bind, Except.bind] at advanced
      | ok next =>
          simp only [here, bind, Except.bind] at advanced
          exact .head (.onTop here) (ih advanced)

theorem arises_of_point (other : fault ≠ .tooDeep) (traced : Traced fetch common fault depth)
    {x : Point} (here : x.depth = depth)
    (failed : x.outcome fetch common = .error fault) : Arises fetch common x fault := by
  subst here
  cases x with
  | inside depth s nodes => exact arises_inside other traced s nodes failed
  | top depth page p nodes =>
      rcases bind_eq_error_iff.mp failed with inside | ⟨q, advanced, behind⟩
      · have arises := arises_on_top other traced p nodes [] inside
        rwa [List.append_nil] at arises
      · cases extended : q.parent with
        | none => simp [Progress.finish, extended, pure_ne_error] at behind
        | some parent =>
            simp only [Progress.finish, extended, bind_eq_error_iff, pure_ne_error, and_false,
              exists_false, or_false] at behind
            obtain ⟨below, rfl, z, reaches, meets⟩ := arises_of_page other traced behind
            exact ⟨z, (reaches_end advanced).trans (.head (.parent extended) reaches), meets⟩

theorem traced_everywhere (other : fault ≠ .tooDeep) (depth : Nat) :
    Traced fetch common fault depth := by
  induction depth with
  | zero => exact nofun
  | succ depth ih =>
      intro below same x here failed
      cases same
      exact arises_of_point other ih here failed

/-- Rendering fails with a fault exactly if it gets to a point that meets the fault, through any
pages, blocks, rounds and calls, as long as jumps are left. -/
theorem fails_iff_arises (other : fault ≠ .tooDeep) (x : Point) :
    x.outcome fetch common = .error fault ↔ Arises fetch common x fault := by
  constructor
  · exact arises_of_point other (traced_everywhere other x.depth) rfl
  · exact Arises.fails

end Walks

end Origins

/-! Pages -/

/-- Where the rendering of a page starts. -/
def Page.start (model : Entries) (facts : RequestFacts) (page : Page) : Point :=
  .ofPage (mostJumps - 1) (page.context model facts) page

theorem Page.render_eq (fetch : String → Except RenderFault Page) (model : Entries)
    (facts : RequestFacts) (page : Page) :
    page.render (.plain fetch) model facts = (page.start model facts).outcome fetch commonNames :=
  rfl

end PageServer.Template
