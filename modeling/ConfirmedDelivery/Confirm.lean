/-!
# Confirms

A broker answers for published messages by tag. A confirm that is `multiple` speaks for every tag
up to and including its own; any other speaks for its own tag only (`Scope.covers`).
-/

namespace ConfirmedDelivery

/-- The number a channel gives to a message as it is sent. -/
abbrev Tag := UInt64

/-- The tag after this one, if there is one. -/
def Tag.next? (t : Tag) : Option Tag := if t.toNat + 1 < UInt64.size then some (t + 1) else none

/-- What the broker decided. -/
inductive Verdict where
  | acked
  | nacked
deriving DecidableEq

/-- The tags that one answer speaks for. -/
structure Scope where
  tag : Tag
  multiple : Bool
deriving DecidableEq

/-- One answer of the broker. -/
structure Confirm extends Scope where
  verdict : Verdict
deriving DecidableEq

/-- Whether the tag `t` is spoken for. -/
def Scope.covers (s : Scope) (t : Tag) : Bool :=
  if s.multiple then decide (t ≤ s.tag) else t == s.tag

theorem Scope.covers_multiple {s t : Tag} : Scope.covers ⟨s, true⟩ t = true ↔ t ≤ s := by
  simp [Scope.covers]

theorem Scope.covers_single {s t : Tag} : Scope.covers ⟨s, false⟩ t = true ↔ t = s := by
  simp [Scope.covers]

/-- The broker took the messages in scope. -/
def Confirm.ack (tag : Tag) (multiple : Bool) : Confirm := ⟨⟨tag, multiple⟩, .acked⟩

/-- The broker refused the messages in scope. -/
def Confirm.nack (tag : Tag) (multiple : Bool) : Confirm := ⟨⟨tag, multiple⟩, .nacked⟩

end ConfirmedDelivery
