import MessageFlow.Program.Basic

/-!
The steps that all posts share: reading the address before, and judging the answer after.
-/

namespace MessageFlow.Delivery

/-- The address to which a post goes. A relative one is a path at no host. -/
def address (url : String) : Operation Address :=
  match (do (← Address.read url) |> Address.resolve {} : Except AddressError Address) with
  | .ok address => pure address
  | .error error => throw (.address error)

/-- A value for a header, which holds ASCII alone. -/
def header (value : String) : Operation String :=
  if value.toList.all Text.isAscii then pure value else throw (.foreignHeader value)

/-- A value for the body of a post, without numbers that have no text. -/
def body (value : Json) : Operation Json :=
  if value.isFinite then pure value else throw .numberWithoutText

/-- Whether the answer is one of the accepted codes. An answer of no host cannot be received; that
none came is a normal outcome. -/
def isAccepted (address : Address) (codes : List Int) : PostOutcome → Operation Bool
  | .status code =>
    if address.isAbsolute then pure (codes.contains code) else throw (.unknownScheme address.text)
  | .unreachable => pure false
  | .crashed => throw .transportCrashed

end MessageFlow.Delivery
