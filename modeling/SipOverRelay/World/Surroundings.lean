import SipOverRelay.Failure
import SipOverRelay.Notice
import SipOverRelay.World.Ledger

/-!
# The world around the tunnel

The tunnel works among engines, relays, streams and probes that have a will of their own. Any type
that answers the tunnel's questions and reacts to its calls can stand for them. The world keeps such
a state together with the ledger and the history of calls, the mailbox that reports are posted to
with the senders of what was posted, and the log.
-/

namespace SipOverRelay

/-- A state of the surroundings: it answers questions, and reacts to calls by changing and by
reporting. -/
class Surroundings (σ : Type) where
  /-- Whether the signaling engine is registered. -/
  isRegistered : σ → Bool
  /-- Whether the registration has been taken back. -/
  isDeregistered : σ → Bool
  /-- Whether a relay says that it runs. -/
  isStarted : σ → RelayId → Bool
  /-- Whether a relay says that it is connected. -/
  isReady : σ → RelayId → Bool
  /-- Whether a relay can be created now. -/
  relayOffer : σ → Except Failure Unit
  /-- Whether a relay would open a stream now. -/
  offersStream : σ → RelayId → UInt16 → Bool
  /-- Whether a probe of a server can be created now. -/
  offersProbe : σ → Server → Bool
  /-- Sixteen random bits. -/
  randomBits : σ → UInt16
  /-- What a stream answers to sending a datagram now. -/
  sendAnswer : σ → StreamId → Bytes → Address → Except Failure Nat
  /-- What a stream answers to receiving into a buffer of some size now. -/
  receiveAnswer : σ → StreamId → Nat → Except Failure (Option (Bytes × Address))
  /-- Whether a datagram waits on a stream. -/
  hasPending : σ → StreamId → Bool
  /-- What the native wait answers now: the number of ready descriptors and the sets it leaves. -/
  awaitAnswer : σ → Option Micros → Interest → Except Failure Nat × Interest
  /-- The time that the clock shows. -/
  clock : σ → Micros
  /-- Descriptor from which the signaling engine reads. -/
  nativeSocket : σ → Nat
  /-- Descriptor that wakes the signaling engine. -/
  controlSocket : σ → Nat
  /-- What a call changes, and what is reported before it returns. -/
  react : Call → σ → σ × List Report

/-- A call together with what it met. -/
structure Moment (σ : Type) where
  /-- The surroundings before the call. -/
  scene : σ
  /-- The probes that had reported before the call. -/
  reported : List ProbeId
  /-- The call. -/
  call : Call

/-- Whoever posts an event. -/
inductive Sender where
  /-- A relay, under the generation number that the tunnel gave it. -/
  | relay (relay : RelayId)
  /-- A probe, under the tag that the tunnel gave it. -/
  | probe (probe : ProbeId)
  /-- The tunnel itself, on behalf of a candidate without a probe. -/
  | tunnel
  /-- Anybody else who got hold of the mailbox. -/
  | stranger
  deriving DecidableEq

/-- An event together with whoever posted it. -/
structure Letter where
  /-- Who posted it. -/
  sender : Sender
  /-- What was posted. -/
  event : Event
  deriving DecidableEq

/-- The surroundings with all that passed between them and the tunnel. -/
structure World (σ : Type) where
  /-- The state of the surroundings themselves. -/
  scene : σ
  /-- How things stand as far as calls decide it. -/
  ledger : Ledger
  /-- Reports that wait for the next tick. -/
  mailbox : Mailbox := {}
  /-- Everything that was ever posted to the present tunnel, in order. -/
  letters : List Letter := []
  /-- All calls with what they met, newest first. -/
  history : List (Moment σ) := []
  /-- All notices, newest first. -/
  notices : List Notice := []
  /-- The probes that have reported; a second report of one is lost. -/
  reported : List ProbeId := []
  /-- Relays below this number belong to tunnels that are gone; their reports are lost. -/
  oldRelays : Nat := 0
  /-- Probes below this number belong to tunnels that are gone; their reports are lost. -/
  oldProbes : Nat := 0

namespace World

variable {σ : Type}

/-- All calls, newest first. -/
def calls (w : World σ) : List Call := w.history.map Moment.call

/-- Writes a notice into the log. -/
def note (w : World σ) (notice : Notice) : World σ := { w with notices := notice :: w.notices }

/-- Writes several notices into the log, in order. -/
def noteAll (w : World σ) (notices : List Notice) : World σ := notices.foldl note w

/-- Posts an event on somebody's behalf. -/
def post (w : World σ) (sender : Sender) (event : Event) : World σ :=
  { w with mailbox := w.mailbox.post event, letters := w.letters ++ [⟨sender, event⟩] }

/-- The generation number under which a relay reports to the present tunnel. -/
def listener? (w : World σ) (relay : RelayId) : Option Nat :=
  if relay < w.oldRelays then none else (w.ledger.relays[relay]?).bind RelayRecord.listener

/-- The tag under which a probe may still report to the present tunnel. -/
def awaited? (w : World σ) (probe : ProbeId) : Option (Nat × Nat) :=
  if probe < w.oldProbes || w.reported.contains probe then none
  else (w.ledger.probes[probe]?).bind ProbeRecord.tag

/-- Takes a report in. A relay's report is posted under the generation number it was given; a
probe's first report is posted under its tag. Nothing else is posted. -/
def deliver (w : World σ) : Report → World σ
  | .relay relay connected =>
    match w.listener? relay with
    | some generation => w.post (.relay relay) (.connectivity connected generation)
    | none => w
  | .probe probe reachable =>
    match w.awaited? probe with
    | some (run, index) =>
      { w with reported := probe :: w.reported }.post (.probe probe) (.probed reachable run index)
    | none => w

/-- Makes a call: it is written down, the surroundings react, and what they report is taken in. -/
def perform [Surroundings σ] (w : World σ) (call : Call) : World σ :=
  let (scene, reports) := Surroundings.react call w.scene
  reports.foldl deliver
    { w with
      scene
      ledger := w.ledger.apply call
      history := ⟨w.scene, w.reported, call⟩ :: w.history }

/-- What came of a report: nothing, or a relay's letter under the number it was given, or a probe's
letter under its tag. -/
theorem deliver_cases (w : World σ) (report : Report) :
    w.deliver report = w ∨
    (∃ relay connected generation, w.listener? relay = some generation ∧
      w.deliver report = w.post (.relay relay) (.connectivity connected generation)) ∨
    (∃ probe reachable run index, w.awaited? probe = some (run, index) ∧
      w.deliver report = { w with reported := probe :: w.reported }.post (.probe probe)
        (.probed reachable run index)) := by
  cases report with
  | relay relay connected =>
    simp only [deliver]
    cases hl : w.listener? relay with
    | none => exact .inl rfl
    | some generation => exact .inr (.inl ⟨relay, connected, generation, hl, rfl⟩)
  | probe probe reachable =>
    simp only [deliver]
    cases ha : w.awaited? probe with
    | none => exact .inl rfl
    | some tag => exact .inr (.inr ⟨probe, reachable, tag.1, tag.2, ha, rfl⟩)

/-- A report changes neither the surroundings, nor the ledger, nor the history, nor the log. -/
theorem deliver_frame (w : World σ) (report : Report) :
    (w.deliver report).scene = w.scene ∧ (w.deliver report).ledger = w.ledger ∧
      (w.deliver report).history = w.history ∧ (w.deliver report).notices = w.notices := by
  cases report with
  | relay relay connected => simp only [deliver]; split <;> simp [post]
  | probe probe reachable => simp only [deliver]; split <;> simp [post]

/-- Several reports change no more than one does. -/
theorem foldl_deliver_frame (w : World σ) (reports : List Report) :
    (reports.foldl deliver w).scene = w.scene ∧ (reports.foldl deliver w).ledger = w.ledger ∧
      (reports.foldl deliver w).history = w.history ∧
      (reports.foldl deliver w).notices = w.notices := by
  induction reports generalizing w with
  | nil => exact ⟨rfl, rfl, rfl, rfl⟩
  | cons report reports ih =>
    have h := w.deliver_frame report
    have t := ih (w.deliver report)
    exact ⟨t.1.trans h.1, t.2.1.trans h.2.1, t.2.2.1.trans h.2.2.1, t.2.2.2.trans h.2.2.2⟩

/-- A call moves the ledger by that call alone. -/
@[simp] theorem ledger_perform [Surroundings σ] (w : World σ) (call : Call) :
    (w.perform call).ledger = w.ledger.apply call :=
  (foldl_deliver_frame _ _).2.1

/-- A call is written down with what it met. -/
@[simp] theorem history_perform [Surroundings σ] (w : World σ) (call : Call) :
    (w.perform call).history = ⟨w.scene, w.reported, call⟩ :: w.history :=
  (foldl_deliver_frame _ _).2.2.1

/-- A call changes the surroundings as they please. -/
@[simp] theorem scene_perform [Surroundings σ] (w : World σ) (call : Call) :
    (w.perform call).scene = (Surroundings.react call w.scene).1 :=
  (foldl_deliver_frame _ _).1

/-- A call writes nothing into the log. -/
@[simp] theorem notices_perform [Surroundings σ] (w : World σ) (call : Call) :
    (w.perform call).notices = w.notices :=
  (foldl_deliver_frame _ _).2.2.2

/-- Makes several calls in order. -/
def performAll [Surroundings σ] (w : World σ) (calls : List Call) : World σ :=
  calls.foldl perform w

/-- The world as the next tunnel finds it: nobody hears the relays and probes of this one any
more. -/
def retire (w : World σ) : World σ :=
  { w with
    mailbox := {}
    letters := []
    oldRelays := w.ledger.relays.length
    oldProbes := w.ledger.probes.length }

end World

end SipOverRelay
