/-!
# Socket addresses

Addresses of datagrams travel through the tunnel unread, as texts. Only where a socket of the same
family has to be opened does their form matter: an address with square brackets is of version six.
-/

namespace SipOverRelay

/-- A socket address in its canonical text form. -/
abbrev Address := String

/-- The content of a datagram. -/
abbrev Bytes := List UInt8

namespace Address

/-- Addresses of version six are written in brackets. -/
def isVersionSix (address : Address) : Bool := address.toList.head? = some '['

/-- The address that stands for any local address of the same family, with any port. -/
def unspecifiedFor (remote : Address) : Address :=
  if remote.isVersionSix then "[::]:0" else "0.0.0.0:0"

/-- The part of an address in front of its port, without brackets. -/
def host (address : Address) : String :=
  let chars := address.toList
  let host := (chars.reverse.dropWhile (· ≠ ':')).drop 1 |>.reverse
  String.ofList (host.filter fun c => c ≠ '[' && c ≠ ']')

end Address

end SipOverRelay
