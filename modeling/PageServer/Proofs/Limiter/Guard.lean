import PageServer.Proofs.Limiter.Times
import PageServer.Service.Guard
/-! The limiter in front of a service: what it makes of an answer behind it, and what it keeps. -/
namespace PageServer.Limiter

open Http

section Guard

variable {τ : Type} [Clock τ]

/-- The answer by a verdict. -/
def replyTo (verdict : Verdict) (behind : Except Failure Response) : Except Failure Response :=
  match verdict with
  | .admitted => behind
  | .refused _ seconds => .ok (refusalResponse seconds)
  | .unanchored => .error unanchoredFailure
  | .uncountable fault => .error (.ofClock fault)

theorem guard_of_exempt (limits : Limits) (l : Limiter τ) (v : Visit τ)
    {path : String} (exempt : path ∈ exemptPaths) (behind : Logged (Except Failure Response)) :
    l.guard limits v path behind = (behind, l) := by
  simp only [guard, List.contains_eq_mem, exempt, decide_true, ↓reduceIte]

/-- The entries by a decision about a client. -/
def entriesBy (limits : Limits) (client : String) (decision : Decision τ) (behind : List LogEntry) :
    List LogEntry :=
  match decision.verdict with
  | .admitted => forgottenEntries decision.forgotten ++ behind
  | .refused held _ => [refusalEntry limits client held]
  | .unanchored => []
  | .uncountable _ => []

theorem guard_of_not_exempt (limits : Limits) (l : Limiter τ) (v : Visit τ)
    {path : String} (counts : path ∉ exemptPaths) (behind : Logged (Except Failure Response)) :
    l.guard limits v path behind =
      (⟨replyTo (l.ask limits v.clientName v.now).verdict behind.result,
          entriesBy limits v.clientName (l.ask limits v.clientName v.now) behind.entries⟩,
        (l.ask limits v.clientName v.now).limiter) := by
  simp only [guard, entriesBy, List.contains_eq_mem, counts, decide_false, Bool.false_eq_true,
    ↓reduceIte]
  cases (l.ask limits v.clientName v.now).verdict <;> rfl

end Guard

end PageServer.Limiter
