import Mathlib.Data.List.Forall2
import PageServer.Service.Run
/-! Runs of a service, event by event. -/
namespace PageServer.Service

variable {τ : Type} [Clock τ] (service : Service τ)

/-- What every step keeps holds at the end of a run, and what every step shows is shown by each of
its events. -/
theorem runEvents_keeps (kept : State τ → Prop) (shown : Event τ → Outcome τ → Prop)
    (events : List (Event τ))
    (step : ∀ s, kept s → ∀ event ∈ events,
      shown event (service.step s event).1 ∧ kept (service.step s event).2)
    {s : State τ} (start : kept s) :
    List.Forall₂ shown events (service.runEvents s events).1 ∧
      kept (service.runEvents s events).2 := by
  induction events generalizing s with
  | nil => exact ⟨.nil, start⟩
  | cons event rest ih =>
      obtain ⟨first, next⟩ := step s start event List.mem_cons_self
      obtain ⟨others, last⟩ := ih (fun s here e member => step s here e (.tail _ member)) next
      exact ⟨.cons first others, last⟩

end PageServer.Service
