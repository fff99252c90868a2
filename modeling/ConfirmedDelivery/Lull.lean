/-!
# Lulls

A lull is what happens to a state while somebody waits: it is stirred some number of times, each time
with some events, until the time is up. Whoever waits looks at the state after each stir and stops
as soon as there is what was waited for (`Lull.watch`).
-/

namespace ConfirmedDelivery

/-- What happens during a wait, up to its bound. -/
inductive Lull (ε σ : Type) where
  | timeUp (events : List ε) (state : σ)
  | stir (events : List ε) (state : σ) (next : Lull ε σ)

namespace Lull

variable {ε σ α : Type}

/-- Follows a lull, taking in events and states, until `done` holds. Tells whether it came to hold
before the time was up. -/
def watch (absorb : α → List ε → σ → α) (done : α → Bool) (a : α) : Lull ε σ → Bool × α
  | .timeUp events s => (false, absorb a events s)
  | .stir events s next =>
    let b := absorb a events s
    if done b then (true, b) else watch absorb done b next

/-- Lets the time run out: all events and the state at the end. -/
def toEnd : Lull ε σ → List ε × σ
  | .timeUp events s => (events, s)
  | .stir events _ next => (events ++ next.toEnd.1, next.toEnd.2)

/-- The same lull seen through other eyes. -/
def map {ε' σ' : Type} (f : List ε → σ → List ε') (g : σ → σ') : Lull ε σ → Lull ε' σ'
  | .timeUp events s => .timeUp (f events s) (g s)
  | .stir events s next => .stir (f events s) (g s) (next.map f g)

end Lull

end ConfirmedDelivery
