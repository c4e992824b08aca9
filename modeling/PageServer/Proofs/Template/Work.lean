import PageServer.Template.Effects
/-! Work done in several ways. What work comes to depends on the sources that it fetches, not on how
they are kept in between, and it depends on what lies outside only if it looks there. -/
namespace PageServer.Template.Work

variable {α β σ : Type}

theorem map_id (w : Work α) : id <$> w = w := by
  induction w with
  | done | failed => rfl
  | fetch name next ih => exact congrArg (fetch name) (funext ih)
  | retrieve key next ih => exact congrArg (retrieve key) (funext ih)
  | look next ih => exact congrArg look (funext ih)
  | edit key v next ih => exact congrArg (edit key v) ih

theorem bind_bind {γ : Type} (w : Work α) (f : α → Work β) (g : β → Work γ) :
    w >>= f >>= g = w >>= fun a => f a >>= g := by
  induction w with
  | done | failed => rfl
  | fetch name next ih => exact congrArg (fetch name) (funext ih)
  | retrieve key next ih => exact congrArg (retrieve key) (funext ih)
  | look next ih => exact congrArg look (funext ih)
  | edit key v next ih => exact congrArg (edit key v) ih

instance : LawfulMonad Work :=
  LawfulMonad.mk' Work map_id (fun _ _ => rfl) bind_bind

/-! Ways to fetch sources -/

section Ways

/-- A way to fetch sources, of which some may be kept. -/
abbrev Fetching (σ : Type) := σ → String → Except RenderFault (List Char) × σ

variable (fetching : Fetching σ)

/-- Work that does not look outside when it is done with a way to fetch sources. -/
def Inward : Work α → Session σ → Prop
  | done _, _ => True
  | failed _, _ => True
  | fetch name next, s =>
      (next (fetching s.kept name).1).Inward { s with kept := (fetching s.kept name).2 }
  | retrieve key next, s => (next (s.edits.lookup key)).Inward s
  | look _, _ => False
  | edit key v next, s => next.Inward { s with edits := s.edits.set key v }

variable {fetching}

/-- Work that changes no entry of the model when it is done with what lies outside. -/
def Sparing (fetching : Fetching σ) (outside : Outside) : Work α → Session σ → Prop
  | done _, _ => True
  | failed _, _ => True
  | fetch name next, s =>
      (next (fetching s.kept name).1).Sparing fetching outside
        { s with kept := (fetching s.kept name).2 }
  | retrieve key next, s => (next (s.edits.lookup key)).Sparing fetching outside s
  | look next, s => (next outside).Sparing fetching outside s
  | edit .., _ => False

theorem Sparing.edits {w : Work α} {s : Session σ} {outside : Outside}
    (sparing : w.Sparing fetching outside s) : (w.run fetching outside s).2.edits = s.edits := by
  induction w generalizing s with
  | done | failed => rfl
  | fetch name next ih => exact ih _ sparing
  | retrieve key next ih => exact ih _ sparing
  | look next ih => exact ih _ sparing
  | edit key v next ih => exact sparing.elim

/-- Sources that are read anew each time. -/
def reading (source : String → Except RenderFault (List Char)) : Fetching Unit :=
  fun _ name => (source name, ())

/-- A way to fetch sources gives these as long as what is kept fits, and it keeps what fits. -/
def Serves (fetching : Fetching σ) (fits : σ → Prop)
    (source : String → Except RenderFault (List Char)) : Prop :=
  ∀ kept, fits kept → ∀ name, (fetching kept name).1 = source name ∧ fits (fetching kept name).2

variable {fits : σ → Prop} {source : String → Except RenderFault (List Char)} {kept : σ}

/-- What holds of the sources kept wherever something is fetched holds of them after any work. -/
theorem run_keeps (keeps : ∀ kept, fits kept → ∀ name, fits (fetching kept name).2) (w : Work α)
    (outside : Outside) {s : Session σ} (good : fits s.kept) :
    fits (w.run fetching outside s).2.kept := by
  induction w generalizing s with
  | done | failed => exact good
  | fetch name next ih => exact ih _ (keeps _ good name)
  | retrieve key next ih => exact ih _ good
  | look next ih => exact ih _ good
  | edit key v next ih => exact ih good

/-- Work that does not look outside comes to the same, and keeps the same, with two ways to fetch
sources that agree wherever what is kept fits. -/
theorem Inward.run_eq {fetching' : Fetching σ}
    (same : ∀ kept, fits kept → ∀ name, fetching kept name = fetching' kept name)
    (keeps : ∀ kept, fits kept → ∀ name, fits (fetching kept name).2) {w : Work α} {s : Session σ}
    (inward : w.Inward fetching s) (good : fits s.kept) (outside outside' : Outside) :
    w.run fetching outside s = w.run fetching' outside' s := by
  induction w generalizing s with
  | done | failed => rfl
  | fetch name next ih =>
      simp only [Work.run, ← same s.kept good name]
      exact ih _ inward (keeps _ good name)
  | retrieve key next ih => exact ih _ inward good
  | look next ih => exact inward.elim
  | edit key v next ih => exact ih inward good

/-- It makes no difference to work whether sources are kept or read anew. -/
theorem Serves.run (serves : Serves fetching fits source) (good : fits kept) (w : Work α)
    (outside : Outside) (edits : Entries) :
    let held := w.run fetching outside ⟨kept, edits⟩
    let anew := w.run (reading source) outside ⟨(), edits⟩
    held.1 = anew.1 ∧ held.2.edits = anew.2.edits := by
  -- By the work: what is kept changes where something is fetched, and there it goes on fitting.
  induction w generalizing kept edits with
  | done | failed => exact ⟨rfl, rfl⟩
  | fetch name next ih =>
      obtain ⟨same, fitting⟩ := serves kept good name
      simp only [Work.run, reading, same]
      exact ih _ fitting edits
  | retrieve key next ih => exact ih _ good edits
  | look next ih => exact ih _ good edits
  | edit key v next ih => exact ih good _

theorem Serves.inward_iff (serves : Serves fetching fits source) (good : fits kept) (w : Work α)
    (edits : Entries) :
    w.Inward fetching ⟨kept, edits⟩ ↔ w.Inward (reading source) ⟨(), edits⟩ := by
  induction w generalizing kept edits with
  | done | failed | look => exact Iff.rfl
  | fetch name next ih =>
      obtain ⟨same, fitting⟩ := serves kept good name
      simp only [Inward, reading, same]
      exact ih _ fitting edits
  | retrieve key next ih => exact ih _ good edits
  | edit key v next ih => exact ih good _

end Ways

/-! Answers -/

section Answers

variable (source : String → Except RenderFault (List Char))

/-- What work comes to where each name has one source, as long as it neither looks outside nor
changes anything. -/
def answer : Work α → Except RenderFault α
  | done a => .ok a
  | failed fault => .error fault
  | fetch name next => (next (source name)).answer
  | retrieve _ next => (next none).answer
  | look _ => .error (.beyond "looks outside")
  | edit .. => .error (.beyond "changes the model")

@[simp]
theorem answer_pure (a : α) : (pure a : Work α).answer source = pure a := rfl

@[simp]
theorem answer_ofExcept (x : Except RenderFault α) : (ofExcept x).answer source = x := by
  cases x <;> rfl

@[simp]
theorem answer_bind (w : Work α) (next : α → Work β) :
    (w >>= next).answer source = w.answer source >>= fun a => (next a).answer source := by
  induction w with
  | done | failed | look | edit => rfl
  | fetch name later ih => exact ih _
  | retrieve key later ih => exact ih none

@[simp]
theorem answer_map (f : α → β) (w : Work α) : (f <$> w).answer source = f <$> w.answer source := by
  rw [map_eq_pure_bind, map_eq_pure_bind, answer_bind]
  rfl

variable {source}

/-- Work that stays within its bounds comes to its answer when it is done, and leaves everything but
the sources kept as it was. -/
theorem run_of_answer {w : Work α} {x : Except RenderFault α} (answered : w.answer source = x)
    (within : ∀ what, x ≠ .error (.beyond what)) (outside : Outside) :
    w.Inward (reading source) ⟨(), []⟩ ∧ w.Sparing (reading source) outside ⟨(), []⟩ ∧
      w.run (reading source) outside ⟨(), []⟩ = (x, ⟨(), []⟩) := by
  induction w with
  | done a =>
      subst answered
      exact ⟨trivial, trivial, rfl⟩
  | failed fault =>
      subst answered
      exact ⟨trivial, trivial, rfl⟩
  | fetch name next ih => exact ih _ answered
  | retrieve key next ih => exact ih none answered
  | look next => exact absurd answered.symm (within _)
  | edit key v next => exact absurd answered.symm (within _)

end Answers

end PageServer.Template.Work
