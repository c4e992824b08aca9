import PageServer.Proofs.Service.Answer
/-! Visits that the limiter lets through, and what answers the others. -/
namespace PageServer

open Http Files

section Admission

variable {τ : Type} [Clock τ] {service : Service τ} {l : Limiter τ} {v : Visit τ}

/-- The limiter lets a visit through: its path is exempt, or its client has room in the window. -/
def Service.Admits (service : Service τ) (l : Limiter τ) (v : Visit τ) : Prop :=
  ∃ path, urlPath v.request = .ok path ∧
    (path ∈ Limiter.exemptPaths ∨
      (l.ask service.limits v.clientName v.now).verdict = .admitted)

theorem Service.author_of_admits (admitted : service.Admits l v)
    (direct : Cors.isPreflight v.request = false) (store : Store) :
    service.author store l v = service.routesAuthor store v := by
  obtain ⟨path, reading, exempt | verdict⟩ := admitted
  · simp only [Service.author, direct, reading, exempt, Bool.false_eq_true, ↓reduceIte]
  · simp only [Service.author, direct, reading, verdict, Service.verdictAuthor,
      Bool.false_eq_true, ↓reduceIte, ite_self]

theorem Service.author_of_unread {fault : UrlFault} (unread : urlPath v.request = .error fault)
    (direct : Cors.isPreflight v.request = false) (store : Store) :
    service.author store l v = .handler .unexpected (.ofUrl fault) := by
  simp only [Service.author, direct, unread, Bool.false_eq_true, ↓reduceIte]

/-- On a path that counts, the verdict decides. -/
theorem Service.author_of_counted {path : String} (reading : urlPath v.request = .ok path)
    (counts : path ∉ Limiter.exemptPaths) (direct : Cors.isPreflight v.request = false)
    (store : Store) :
    service.author store l v =
      service.verdictAuthor store v (l.ask service.limits v.clientName v.now).verdict := by
  simp only [Service.author, direct, reading, counts, Bool.false_eq_true, ↓reduceIte]

/-- What answers a visit that does not get to the routes. -/
theorem Service.author_of_not_admits (refused : ¬ service.Admits l v)
    (direct : Cors.isPreflight v.request = false) (store : Store) :
    (∃ held seconds, (l.ask service.limits v.clientName v.now).verdict = .refused held seconds ∧
        service.author store l v = .limiter seconds) ∨
      ∃ kind text, service.author store l v = .handler .unexpected (.other kind text) := by
  cases reading : urlPath v.request with
  | error fault =>
      exact .inr ⟨_, _, Service.author_of_unread reading direct store⟩
  | ok path =>
      have counts : path ∉ Limiter.exemptPaths := fun exempt =>
        refused ⟨path, reading, .inl exempt⟩
      rw [Service.author_of_counted reading counts direct store]
      cases verdict : (l.ask service.limits v.clientName v.now).verdict with
      | admitted => exact absurd ⟨path, reading, .inr verdict⟩ refused
      | refused held seconds => exact .inl ⟨held, seconds, rfl, rfl⟩
      | unanchored => exact .inr ⟨_, _, rfl⟩
      | uncountable fault => cases fault <;> exact .inr ⟨_, _, rfl⟩

end Admission

end PageServer
