import ConfirmedDelivery.Confirm
import ConfirmedDelivery.Json.Fault
import ConfirmedDelivery.Span

/-!
# What can go wrong

A link to a broker has its faults; publishing fails for one of these, for what the broker answered or
did not answer in time, or for settings that cannot be had. Two failures tell that the link broke its
own promise on tags and must never be met by trying again (`Failure.breaksPromise`).
-/

namespace ConfirmedDelivery

/-- A fault of the link to a broker. -/
inductive LinkFault where
  | connectionClosed (reason : String)
  | sessionClosed
  | unknownDestination (name : String)
  | confirmModeRequired
deriving DecidableEq

namespace LinkFault

/-- The fault as a sentence. -/
def message : LinkFault → String
  | .connectionClosed reason => "Connection closed: " ++ reason
  | .sessionClosed => "Session is closed"
  | .unknownDestination name => "Unknown destination: " ++ name
  | .confirmModeRequired => "Session is not in confirm mode"

/-- The fault with its parts named. -/
def details : LinkFault → String
  | .connectionClosed reason => "ConnectionClosed(" ++ Text.quoted reason ++ ")"
  | .sessionClosed => "SessionClosed"
  | .unknownDestination name => "UnknownDestination(" ++ Text.quoted name ++ ")"
  | .confirmModeRequired => "ConfirmModeRequired"

end LinkFault

/-- Why a file's text cannot be had. -/
inductive FileFault where
  | missing
  | directory
  | notText
  | other (reason : String)
deriving DecidableEq

namespace FileFault

/-- The fault as a sentence. -/
def message : FileFault → String
  | .missing => "No such file or directory (os error 2)"
  | .directory => "Is a directory (os error 21)"
  | .notText => "stream did not contain valid UTF-8"
  | .other reason => reason

/-- The fault with its parts named. -/
def details : FileFault → String
  | .missing =>
    "Os \x7b code: 2, kind: NotFound, message: \"No such file or directory\" \x7d"
  | .directory => "Os \x7b code: 21, kind: IsADirectory, message: \"Is a directory\" \x7d"
  | .notText =>
    "Error \x7b kind: InvalidData, message: \"stream did not contain valid UTF-8\" \x7d"
  | .other reason => "Custom \x7b kind: Other, error: " ++ Text.quoted reason ++ " \x7d"

end FileFault

/-- Why a message, a list of messages or the settings for them did not get through. -/
inductive Failure where
  | confirmationTimeout (outstanding : Nat) (timeout : Span)
  | batchConfirmTimeout (batch : Nat) (timeout : Span)
  | link (fault : LinkFault)
  | duplicateTag (tag : Tag)
  | tagMismatch (expected assigned : Tag)
  | retriesExhausted (rounds remaining : Nat)
  | deadlineExceeded (elapsed : Span) (remaining : Nat)
  | configuration (reason : String)
  | file (fault : FileFault)
  | json (fault : Json.Fault)

namespace Failure

/-- The failure as a sentence. -/
def message : Failure → String
  | .confirmationTimeout outstanding timeout =>
    toString outstanding ++ " message(s) could not be confirmed within " ++ timeout.text
  | .batchConfirmTimeout batch timeout =>
    "Batch " ++ toString batch ++ " was not confirmed within " ++ timeout.text
  | .link fault => "Transport error: " ++ fault.message
  | .duplicateTag tag => "Duplicate sequence number " ++ toString tag ++ " in outbox"
  | .tagMismatch expected assigned =>
    "Sequence mismatch: expected " ++ toString expected ++ ", transport assigned "
      ++ toString assigned
  | .retriesExhausted rounds remaining =>
    "Gave up after " ++ toString rounds ++ " retry round(s), " ++ toString remaining
      ++ " message(s) still nacked"
  | .deadlineExceeded elapsed remaining =>
    "Retry deadline exceeded after " ++ elapsed.text ++ ", " ++ toString remaining
      ++ " message(s) still nacked"
  | .configuration reason => "Configuration error: " ++ reason
  | .file fault => "IO error: " ++ fault.message
  | .json fault => "JSON error: " ++ fault.message

/-- A name and its fields in braces. -/
def braced (name : String) (fields : List (String × String)) : String :=
  name ++ " \x7b "
    ++ ", ".intercalate (fields.map (fun f => f.1 ++ ": " ++ f.2)) ++ " \x7d"

/-- The failure with its parts named. -/
def details : Failure → String
  | .confirmationTimeout outstanding timeout =>
    braced "ConfirmationTimeout" [("outstanding", toString outstanding), ("timeout", timeout.text)]
  | .batchConfirmTimeout batch timeout =>
    braced "BatchConfirmTimeout" [("batch", toString batch), ("timeout", timeout.text)]
  | .link fault => "Transport(" ++ fault.details ++ ")"
  | .duplicateTag tag => "DuplicateSequence(" ++ toString tag ++ ")"
  | .tagMismatch expected assigned =>
    braced "SequenceMismatch" [("expected", toString expected), ("assigned", toString assigned)]
  | .retriesExhausted rounds remaining =>
    braced "RetriesExhausted" [("rounds", toString rounds), ("remaining", toString remaining)]
  | .deadlineExceeded elapsed remaining =>
    braced "RetryDeadlineExceeded" [("elapsed", elapsed.text), ("remaining", toString remaining)]
  | .configuration reason => "Config(" ++ Text.quoted reason ++ ")"
  | .file fault => "Io(" ++ fault.details ++ ")"
  | .json fault => "Json(" ++ fault.details ++ ")"

/-- Whether the link broke its promise on tags. -/
def breaksPromise : Failure → Bool
  | .duplicateTag _ => true
  | .tagMismatch _ _ => true
  | _ => false

end Failure

end ConfirmedDelivery
