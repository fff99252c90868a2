import ConfirmedDelivery.Confirm
import ConfirmedDelivery.Dict

/-!
# What is in flight

Everything sent and not yet answered for, by tag. Next to the entries stands the count that whoever
waits for the end can see; it is brought up to date by a step of its own (`InFlight.publish`), so
that what an answer settles can be written down before a waiter learns of it. Every complete
operation ends with that step: `shown_add`, `shown_resolve`.
-/

namespace ConfirmedDelivery

universe u

/-- Unanswered items by tag, and the count that a waiter sees. -/
structure InFlight (α : Type u) where
  entries : Dict Tag α
  shown : Nat

namespace InFlight

variable {α : Type u}

/-- Nothing in flight. -/
def empty : InFlight α := ⟨∅, 0⟩

instance : EmptyCollection (InFlight α) := ⟨empty⟩

/-- The number of items in flight. -/
def size (f : InFlight α) : Nat := f.entries.size

/-- Whether nothing is in flight. -/
def isEmpty (f : InFlight α) : Bool := f.size == 0

/-- The tags in flight, ascending. -/
def tags (f : InFlight α) : List Tag := f.entries.keys

/-- The item under a tag. -/
def get? (f : InFlight α) (t : Tag) : Option α := f.entries.get? t

/-- Lets waiters see the count as it now is. -/
def publish (f : InFlight α) : InFlight α := { f with shown := f.size }

/-- The item under its tag, unless the tag is taken. -/
def record? (f : InFlight α) (t : Tag) (a : α) : Option (InFlight α) :=
  if f.entries.contains t then none else some { f with entries := f.entries.insert t a }

/-- Records an item and lets waiters see it; a tag that is taken is refused. -/
def add? (f : InFlight α) (t : Tag) (a : α) : Option (InFlight α) :=
  (f.record? t a).map publish

/-- Takes out everything up to a tag, in ascending order: what is in flight is cut in two at the next
tag and keeps the upper part, of which there is none above the greatest tag. -/
def withdrawUpTo (f : InFlight α) (t : Tag) : List (Tag × α) × InFlight α :=
  match t.next? with
  | some bound =>
    let parts := f.entries.splitOff bound
    (parts.1.entries, { f with entries := parts.2 })
  | none => (f.entries.entries, { f with entries := ∅ })

/-- Takes out the item under a tag. -/
def withdrawOne (f : InFlight α) (t : Tag) : List (Tag × α) × InFlight α :=
  match f.entries.get? t with
  | some a => ([(t, a)], { f with entries := f.entries.erase t })
  | none => ([], f)

/-- Takes out what the scope covers, in ascending order of tags. Waiters see nothing of it yet. -/
def withdraw (f : InFlight α) (s : Scope) : List (Tag × α) × InFlight α :=
  if s.multiple then f.withdrawUpTo s.tag else f.withdrawOne s.tag

/-- Takes out what the scope covers, runs `settle` on it if it is anything at all, and only then
lets waiters see the new count. -/
def resolveWith {β : Type u} (f : InFlight α) (s : Scope) (settle : List (Tag × α) → β → β) (b : β) :
    List (Tag × α) × β × InFlight α :=
  let w := f.withdraw s
  if w.1.isEmpty then (w.1, b, f) else (w.1, settle w.1 b, w.2.publish)

/-- Takes out what the scope covers. -/
def resolve (f : InFlight α) (s : Scope) : List (Tag × α) × InFlight α :=
  let r := f.resolveWith s (fun _ => id) PUnit.unit
  (r.1, r.2.2)

/-- Takes out everything up to a tag. -/
def resolveUpTo (f : InFlight α) (t : Tag) : List (Tag × α) × InFlight α := f.resolve ⟨t, true⟩

/-- Takes out the item under a tag. -/
def resolveOne (f : InFlight α) (t : Tag) : Option α × InFlight α :=
  let r := f.resolve ⟨t, false⟩
  (r.1.getLast?.map Prod.snd, r.2)

/-- Whether a waiter sees that nothing is left. -/
def drained (f : InFlight α) : Bool := f.shown == 0

theorem shown_publish (f : InFlight α) : f.publish.shown = f.publish.size := rfl

theorem shown_add {f g : InFlight α} {t : Tag} {a : α} (h : f.add? t a = some g) :
    g.shown = g.size := by
  obtain ⟨r, -, rfl⟩ := Option.map_eq_some_iff.1 h
  rfl

theorem shown_resolve {f : InFlight α} (s : Scope) (h : f.shown = f.size) :
    (f.resolve s).2.shown = (f.resolve s).2.size := by
  dsimp only [resolve, resolveWith]
  split
  · exact h
  · rfl

end InFlight

end ConfirmedDelivery
