import PageServer.Limiter.Clock
import PageServer.Logging.Entry
/-! Limits on how often a client is served. For every client the times at which it was admitted are
kept, as long as they may matter: a request is refused if as many of them as the limit allows lie
inside the window that ends now. Times that have left the window are dropped when the client asks
again, and after every so many admitted requests all clients without recent times are forgotten. -/
namespace PageServer

structure Limits where
  requests : Nat
  window : Int
  deriving DecidableEq, Repr

/-- What is kept: how many requests have been admitted, and when those of each client were. -/
structure Limiter (τ : Type) where
  recorded : Nat := 0
  clients : List (String × List τ) := []
  deriving Inhabited

/-- The answer to a request. A refusal tells how many times counted and after how many seconds to
try again. With a limit of nothing there is no time to count from, and the seconds may be too many
to be counted. -/
inductive Verdict where
  | admitted
  | refused (held : Nat) (retryAfter : Int)
  | unanchored
  | uncountable (fault : ClockFault)
  deriving DecidableEq, Repr

/-- An answer, what is kept afterwards, and how many clients have been forgotten with it. -/
structure Decision (τ : Type) where
  verdict : Verdict
  limiter : Limiter τ
  forgotten : Nat

namespace Limiter

variable {τ : Type}

/-- After so many admitted requests each, clients without recent times are forgotten. -/
def cleanupEvery : Nat := 1000

def times (l : Limiter τ) (client : String) : List τ :=
  (l.clients.lookup client).getD []

def putTimes (client : String) (times : List τ) : List (String × List τ) → List (String × List τ)
  | [] => [(client, times)]
  | (c, ts) :: rest =>
      if c = client then (client, times) :: rest else (c, ts) :: putTimes client times rest

def withTimes (l : Limiter τ) (client : String) (times : List τ) : Limiter τ :=
  { l with clients := putTimes client times l.clients }

variable [Clock τ]

def recent (start : τ) (times : List τ) : List τ :=
  times.filter (Clock.earlier start)

/-- Whether a client is forgotten: no time is kept for it, or the last one is before the window. -/
def isInactive (start : τ) (times : List τ) : Bool :=
  match times.getLast? with
  | none => true
  | some last => Clock.earlier last start

/-- Forgets the clients without recent times. -/
def cleanUp (start : τ) (l : Limiter τ) : Limiter τ :=
  { l with clients := l.clients.filter fun (_, times) => !isInactive start times }

def ask (limits : Limits) (client : String) (now : τ) (l : Limiter τ) : Decision τ :=
  let start := Clock.windowStart now limits.window
  let counted := recent start (l.times client)
  if limits.requests ≤ counted.length then
    let verdict := match counted with
      | [] => .unanchored
      | first :: _ =>
          match Clock.wholeSeconds first limits.window now with
          | .ok seconds => .refused counted.length (seconds + 1)
          | .error fault => .uncountable fault
    ⟨verdict, l.withTimes client counted, 0⟩
  else
    let kept : Limiter τ :=
      { l.withTimes client (counted ++ [now]) with recorded := l.recorded + 1 }
    if kept.recorded % cleanupEvery = 0 then
      let cleaned := kept.cleanUp start
      ⟨.admitted, cleaned, kept.clients.length - cleaned.clients.length⟩
    else ⟨.admitted, kept, 0⟩

end Limiter

/-! What the limiter logs -/

namespace Limiter

def loggerName : String := "pagedemo.middleware.rate_limit"

/-- The entry about clients forgotten, if there are any. -/
def forgottenEntries (count : Nat) : List LogEntry :=
  if count = 0 then []
  else [⟨loggerName, .debug, "Cleaned up " ++ toString count ++ " inactive IP entries", none, none⟩]

def refusalEntry (limits : Limits) (client : String) (held : Nat) : LogEntry :=
  ⟨loggerName, .warning, "Rate limit exceeded for IP " ++ client ++ ": " ++ toString held ++
    " requests in " ++ toString limits.window ++ "s window", none, none⟩

def exemptPaths : List String := ["/health", "/docs", "/openapi.json", "/redoc"]

/-- The name under which requests without a client are counted. -/
def unknownClient : String := "unknown"

end Limiter

end PageServer
