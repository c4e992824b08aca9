import PageServer.Proofs.Service.Answer
import PageServer.Proofs.Service.Run
import PageServer.Proofs.View.Templates
/-! Sources that a service keeps. Pages keep the sources that they use, and nothing else changes
what is kept. Where marks tell files apart all along a run, what is kept is sound at every moment of
it. -/
namespace PageServer

open Http Files Template

/-! Visits -/

section Visits

variable {τ : Type} [Clock τ] (service : Service τ) (store : Store) (m : Memory τ) (v : Visit τ)

theorem Service.serve_store :
    (service.serve store m v).store = service.storeAfter store m.limiter v := by
  simp only [serve]
  cases (service.outcome store { m with requestId := v.requestId } v).1.result <;> rfl

theorem Service.files_of_serve : (service.serve store m v).store.files = store.files := by
  rw [serve_store]
  unfold storeAfter routedStore runStore
  repeat' split <;> try rfl

variable {store}

/-- What is kept after a visit is sound wherever marks tell, if what was kept before is. -/
theorem Service.sound_of_serve {next : MarkedTree}
    (sound : store.cache.Sound service.resolver.language service.resolver.templatesDir next)
    (tells : store.files.Tells next) :
    (service.serve store m v).store.cache.Sound service.resolver.language
      service.resolver.templatesDir next := by
  rw [serve_store]
  unfold storeAfter routedStore runStore
  split
  · split
    · split
      · exact sound
      · exact Resolver.sound_of_present _ _ sound tells
      · exact sound
    · exact sound
  · exact sound

end Visits

/-! Runs -/

section Runs

variable {τ : Type}

/-- The files and their marks after an event. -/
def Event.filesAfter (files : MarkedTree) : Event τ → MarkedTree
  | .visit _ => files
  | .write path node mark => ⟨(files.tree.write (templatesPath.join path.toList) node).1, mark⟩
  | .remove path mark => ⟨(files.tree.removeFile (templatesPath.join path.toList)).1, mark⟩

/-- The files and their marks at the moments of a run. -/
def stages (files : MarkedTree) : List (Event τ) → List MarkedTree
  | [] => [files]
  | event :: rest => files :: stages (event.filesAfter files) rest

/-- Every change counts: at any two moments of a run, places that bear the same mark hold the
same. -/
def MarksTell (files : MarkedTree) (events : List (Event τ)) : Prop :=
  (stages files events).Pairwise MarkedTree.Tells

/-- What is kept is sound now and at every later moment of a run. -/
def Store.Lasts (store : Store) (r : Resolver) (events : List (Event τ)) : Prop :=
  ∀ files ∈ stages store.files events, store.cache.Sound r.language r.templatesDir files

theorem mem_stages (files : MarkedTree) (events : List (Event τ)) :
    files ∈ stages files events := by
  cases events <;> exact List.mem_cons_self

theorem MarksTell.next {files : MarkedTree} {event : Event τ} {rest : List (Event τ)}
    (tell : MarksTell files (event :: rest)) : MarksTell (event.filesAfter files) rest :=
  (List.pairwise_cons.mp tell).2

variable {r : Resolver} {store : Store}

theorem Store.Lasts.sound {events : List (Event τ)} (lasts : store.Lasts r events) :
    store.Sound r :=
  lasts _ (mem_stages _ _)

variable [Clock τ] {service : Service τ} {s : State τ}

theorem Service.files_of_step (event : Event τ) :
    (service.step s event).2.store.files = event.filesAfter s.store.files := by
  cases event with
  | visit v => exact service.files_of_serve s.store s.memory v
  | write path node mark => rfl
  | remove path mark => rfl

theorem MarksTell.step {event : Event τ} {rest : List (Event τ)}
    (tell : MarksTell s.store.files (event :: rest)) :
    MarksTell (service.step s event).2.store.files rest := by
  rw [service.files_of_step]
  exact tell.next

/-- A step keeps what is kept sound for the rest of the run. -/
theorem Store.Lasts.step {event : Event τ} {rest : List (Event τ)}
    (lasts : s.store.Lasts service.resolver (event :: rest))
    (tell : MarksTell s.store.files (event :: rest)) :
    (service.step s event).2.store.Lasts service.resolver rest := by
  obtain ⟨first, _⟩ := List.pairwise_cons.mp tell
  intro files member
  rw [service.files_of_step] at member
  have sound := lasts files (.tail _ member)
  cases event with
  | visit v => exact service.sound_of_serve s.memory v sound (first files member)
  | write path node mark => exact sound
  | remove path mark => exact sound

/-- Where every change counts, what is kept is sound at the end of a run. -/
theorem Store.Lasts.run {events : List (Event τ)}
    (lasts : s.store.Lasts service.resolver events) (tell : MarksTell s.store.files events) :
    (service.runEvents s events).2.store.Sound service.resolver := by
  induction events generalizing s with
  | nil => exact lasts.sound
  | cons event rest ih => exact ih (lasts.step tell) tell.step

end Runs

end PageServer
