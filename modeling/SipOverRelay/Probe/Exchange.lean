import SipOverRelay.Address

/-!
# The exchange with a reflector

A run of a probe looks up its reflector and binds a socket. Then it sends the same eight random
bytes again and again and waits for them to come back unchanged. Whatever else comes in is ignored;
failures on the way are put down and change nothing. All of it has to be done within one length of
time, the look-up included: when that is up the reflector counts as not reachable.
-/

namespace SipOverRelay.Probe

/-- What looking up the reflector gives. -/
inductive Lookup where
  /-- The addresses found, the preferred one first. -/
  | found (addresses : List Address)
  /-- The look-up failed. -/
  | failed (why : String)
  /-- There was no answer before the time was up. -/
  | late
  deriving DecidableEq

/-- The network as a run finds it. -/
structure Network where
  /-- What looking up the reflector gives. -/
  lookup : Lookup
  /-- Why no socket can be bound to a local address, if that is so. -/
  refusal : Address → Option String

/-- What can happen to a run that has a socket. -/
inductive Happening where
  /-- It is time to send the packet again; sending may fail. -/
  | resend (failure : Option String)
  /-- A datagram came in. -/
  | datagram (data : Bytes) (source : Address)
  /-- Receiving failed. -/
  | receiveFailed (why : String)
  /-- The time allowed for the run is up. -/
  | timeUp
  deriving DecidableEq

/-- How a run ends. -/
inductive Ending where
  /-- The packet came back. -/
  | reflected
  /-- There was no address or no socket. -/
  | failed (why : String)
  /-- The time was up. -/
  | late
  deriving DecidableEq

/-- Whether the reflector counts as reachable. -/
def Ending.isReachable : Ending → Bool
  | .reflected => true
  | .failed _ => false
  | .late => false

/-- A failure that a run puts down and carries on after. -/
inductive Note where
  /-- The packet could not be sent. -/
  | sendFailed (remote : Address) (why : String)
  /-- Receiving failed. -/
  | receiveFailed (remote : Address) (why : String)
  deriving DecidableEq

/-- The wording of a note. -/
def Note.message : Note → String
  | .sendFailed remote why => "mirror probe send to " ++ remote ++ " " ++ why
  | .receiveFailed remote why => "mirror probe recv from " ++ remote ++ " " ++ why

/-- How many bytes of a datagram there is room for. -/
def bufferSize : Nat := 64

/-- The packet that carries a nonce: its eight bytes, most significant first. -/
def packet (nonce : UInt64) : Bytes :=
  (List.range 8).map fun i => (nonce >>> UInt64.ofNat (8 * (7 - i))).toUInt8

/-- Reads a datagram into the front of a buffer. Gives the number of bytes read; those that do not
fit are lost, and what the buffer held behind them stays. -/
def receiveInto (buffer data : Bytes) : Nat × Bytes :=
  (min data.length buffer.length, data.take buffer.length ++ buffer.drop data.length)

/-- A run that has a socket. -/
structure Exchange where
  /-- The packet that is sent and waited for. -/
  request : Bytes
  /-- Where it is sent to. -/
  remote : Address
  /-- Where datagrams are read into. -/
  buffer : Bytes := List.replicate bufferSize 0
  /-- What was sent and where to, oldest first. -/
  sent : List (Bytes × Address) := []
  /-- The failures so far, oldest first. -/
  notes : List Note := []
  /-- How the run ended, if it has. -/
  ending : Option Ending := none
  deriving DecidableEq

namespace Exchange

/-- A run for a nonce, before anything has happened. -/
def start (nonce : UInt64) (remote : Address) : Exchange where
  request := packet nonce
  remote := remote

/-- A datagram comes in: the run is over if the bytes read are the packet. -/
def receive (e : Exchange) (data : Bytes) : Exchange :=
  let (length, buffer) := receiveInto e.buffer data
  { e with buffer, ending := if buffer.take length = e.request then some .reflected else none }

/-- The run after one happening. A run that is over meets nothing more. -/
def meet (e : Exchange) (happening : Happening) : Exchange :=
  if e.ending.isSome then
    e
  else
    match happening with
    | .resend none => { e with sent := e.sent ++ [(e.request, e.remote)] }
    | .resend (some why) => { e with notes := e.notes ++ [.sendFailed e.remote why] }
    | .datagram data _ => e.receive data
    | .receiveFailed why => { e with notes := e.notes ++ [.receiveFailed e.remote why] }
    | .timeUp => { e with ending := some .late }

/-- The run after a sequence of happenings. -/
def after (e : Exchange) (happenings : List Happening) : Exchange := happenings.foldl meet e

end Exchange

/-- The address that a run for a target sends to, once it has a socket to do so; else how the run
ends. -/
def Network.remote? (network : Network) (target : String) : Except Ending Address :=
  match network.lookup with
  | .found (remote :: _) =>
    match network.refusal remote.unspecifiedFor with
    | none => .ok remote
    | some why => .error (.failed why)
  | .found [] => .error (.failed ("no address for " ++ target))
  | .failed why => .error (.failed why)
  | .late => .error .late

/-- How a run ends, if it does. -/
def ending? (target : String) (network : Network) (nonce : UInt64)
    (happenings : List Happening) : Option Ending :=
  match network.remote? target with
  | .ok remote => ((Exchange.start nonce remote).after happenings).ending
  | .error ending => some ending

/-- What a run reports, if it does: whether the reflector is reachable. -/
def report? (target : String) (network : Network) (nonce : UInt64)
    (happenings : List Happening) : Option Bool :=
  (ending? target network nonce happenings).map Ending.isReachable

end SipOverRelay.Probe
