/-!
# The mailbox of the tunnel

Relays and probes report on their own time; what they report is posted to a mailbox and taken out,
all at once and in order, when the tunnel's owner ticks. Every post gets the next number.
-/

namespace SipOverRelay

/-- Something that happened outside and that the tunnel reacts to on its next tick. -/
inductive Event where
  /-- The relay with this generation number gained or lost its connection. -/
  | connectivity (connected : Bool) (relay : Nat)
  /-- The probe of this candidate in this detection run has finished. -/
  | probed (reachable : Bool) (run index : Nat)
  deriving DecidableEq

/-- An event as log messages show it. -/
def Event.describe : Event → String
  | .connectivity connected relay =>
    "ConnectivityChanged \x7b connected: " ++ toString connected ++ ", relay: " ++ toString relay ++
      " \x7d"
  | .probed reachable run index =>
    "ProbeResult \x7b udp_reachable: " ++ toString reachable ++ ", run: " ++ toString run ++
      ", index: " ++ toString index ++ " \x7d"

/-- A posted event with its number. -/
structure Posted where
  /-- How many events were posted before this one. -/
  seq : Nat
  /-- What was posted. -/
  event : Event
  deriving DecidableEq

/-- Events that wait for the next tick, oldest first. -/
structure Mailbox where
  /-- The number of the next post. -/
  next : Nat := 0
  /-- What has not been taken out yet. -/
  waiting : List Posted := []
  deriving DecidableEq

namespace Mailbox

/-- Posts an event under the next number. -/
def post (m : Mailbox) (event : Event) : Mailbox :=
  ⟨m.next + 1, m.waiting ++ [⟨m.next, event⟩]⟩

/-- Posts an event. Gives the number under which it was posted. -/
def push (m : Mailbox) (event : Event) : Nat × Mailbox := (m.next, m.post event)

/-- What is left when everything has been taken out; numbering goes on. -/
def cleared (m : Mailbox) : Mailbox := ⟨m.next, []⟩

/-- Takes everything out. Gives what waited, oldest first. -/
def drain (m : Mailbox) : List Posted × Mailbox := (m.waiting, m.cleared)

/-- Posting appends. -/
@[simp] theorem waiting_post (m : Mailbox) (event : Event) :
    (m.post event).waiting = m.waiting ++ [⟨m.next, event⟩] := rfl

/-- Posting uses up one number. -/
@[simp] theorem next_post (m : Mailbox) (event : Event) : (m.post event).next = m.next + 1 := rfl

/-- Nothing waits after everything was taken out. -/
@[simp] theorem waiting_cleared (m : Mailbox) : m.cleared.waiting = [] := rfl

/-- Taking events out does not restart the numbering. -/
@[simp] theorem next_cleared (m : Mailbox) : m.cleared.next = m.next := rfl

end Mailbox

end SipOverRelay
