import SipOverRelay.Text.Numeral

/-!
# Relay servers

A server is the address of one tunnel relay. Beside it may run a reflector, a service that sends
every datagram back and so tells whether datagrams get through without a tunnel. The text form of a
server is its host and port, followed by the reflector's port and delay if it has one. A host that
contains a colon is written in square brackets.
-/

namespace SipOverRelay

/-- The datagram reflector that runs next to a relay. -/
structure Reflector where
  /-- Port that sends datagrams back. -/
  port : UInt16
  /-- Longest round trip, in milliseconds, that still counts as direct reachability. -/
  delay : UInt32
  deriving DecidableEq

/-- Address of one tunnel relay. -/
structure Server where
  /-- Host name or literal address, without brackets. -/
  host : String
  /-- Port of the relay itself. -/
  port : UInt16
  /-- The reflector next to the relay, if there is one. -/
  reflector : Option Reflector := none
  deriving DecidableEq

namespace Server

/-- A server without a host can be kept but never reached. -/
def isUsable (server : Server) : Bool := server.host ≠ ""

/-- Host and port joined by a colon, with brackets around a host that has a colon itself. -/
def authority (host : List Char) (port : UInt16) : List Char :=
  if ':' ∈ host then
    '[' :: host ++ ']' :: ':' :: Text.numeral port.toNat
  else
    host ++ ':' :: Text.numeral port.toNat

/-- The part of a token that describes the reflector. -/
def reflectorSuffix : Option Reflector → List Char
  | none => []
  | some r => ':' :: Text.numeral r.port.toNat ++ ':' :: Text.numeral r.delay.toNat

/-- The text form of a server. -/
def token (server : Server) : List Char :=
  authority server.host.toList server.port ++ reflectorSuffix server.reflector

/-- The text form of a server, as a string. -/
def text (server : Server) : String := String.ofList server.token

/-- Where the reflector is reached: the server's host with the reflector's port. -/
def reflectorTarget? (server : Server) : Option String :=
  server.reflector.map fun r => String.ofList (authority server.host.toList r.port)

end Server

end SipOverRelay
