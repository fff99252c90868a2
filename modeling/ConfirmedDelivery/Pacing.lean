import ConfirmedDelivery.Text.Casing

/-!
# Pacing

How a round waits for confirms while it sends. A pacing is read from its name or its short name, in
any case, with hyphens for underscores and blanks around it.
-/

namespace ConfirmedDelivery

/-- When a round stops to wait for confirms. -/
inductive Pacing where
  /-- After each batch of messages. -/
  | batched
  /-- After each message. -/
  | perMessage
  /-- Only when all are sent. -/
  | streaming
deriving DecidableEq

namespace Pacing

def name : Pacing → String
  | .batched => "batched"
  | .perMessage => "per_message"
  | .streaming => "streaming"

/-- Every pacing under its name. -/
def all : List (String × Pacing) :=
  [("batched", .batched), ("per_message", .perMessage), ("streaming", .streaming)]

/-- The form in which names are compared. -/
def normalize (text : String) : String :=
  String.ofList ((Text.toLower (Text.trim text)).toList.map (fun c => if c = '-' then '_' else c))

/-- The pacing with that name, or a sentence that says there is none. -/
def read (text : String) : Except String Pacing :=
  let name := normalize text
  if name = "batched" ∨ name = "batch" then .ok .batched
  else if name = "per_message" ∨ name = "single" then .ok .perMessage
  else if name = "streaming" ∨ name = "async" then .ok .streaming
  else .error ("unknown confirm strategy: " ++ name)

end Pacing

end ConfirmedDelivery
