import ConfirmedDelivery.Attributes
import ConfirmedDelivery.Text.TypePath

/-!
# Messages

A message has an identifier, the name of its type, a body and attributes. The name of its type
decides where it goes: the destination is the name in snake case.
-/

namespace ConfirmedDelivery

/-- A number of 128 bits that tells one message from all others. -/
abbrev MessageId := BitVec 128

namespace MessageId

/-- Groups of hexadecimal digits. -/
def groups : List Nat → List Char → List String
  | [], _ => []
  | n :: ns, cs => String.ofList (cs.take n) :: groups ns (cs.drop n)

/-- The identifier as text: 32 hexadecimal digits in five groups. -/
def text (id : MessageId) : String :=
  "-".intercalate (groups [8, 4, 4, 4, 12] (Text.paddedHex 32 id.toNat).toList)

/-- The version that the identifier names. -/
def version (id : MessageId) : Nat := id.toNat / twoPow 76 % 16

/-- An identifier of version four with the given bits elsewhere. -/
def ofBits (bits : MessageId) : MessageId :=
  (bits &&& ~~~(0xF000C000000000000000 : MessageId)) ||| (0x40008000000000000000 : MessageId)

end MessageId

/-- Something to deliver. The wall clock's time at which it was made is left out: it is only sent along
with the message, and nobody who gets the message looks at it. -/
structure Message where
  id : MessageId
  kind : String
  body : ByteArray
  attributes : Attributes

namespace Message

/-- A message with a JSON body. Its kind is the short name of the type it is a value of. -/
def ofJson (id : MessageId) (typeName : String) (value : Json) : Message :=
  ⟨id, Text.TypePath.shortName typeName, value.render.toUTF8, .empty⟩

/-- Where the message goes. -/
def destination (m : Message) : String := Text.snakeCase m.kind

end Message

/-- What travels with a body, but for the time at which the message was made. -/
structure Properties where
  persistent : Bool
  contentType : String
  kind : String
  messageId : MessageId
  headers : Dict String String
deriving DecidableEq

/-- What travels with the body of a message. -/
def Message.properties (m : Message) (contentType : String) (persistent : Bool) : Properties :=
  ⟨persistent, contentType, m.kind, m.id, m.attributes.headers⟩

end ConfirmedDelivery
