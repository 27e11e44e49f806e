import SipOverRelay.Proofs.MediaAccounts
import SipOverRelay.Proofs.MediaServing
import SipOverRelay.Rehearsal.Stage

/-!
# The streams of media sockets

A media engine creates sockets from one relay and sends, receives, closes and gives up in any order,
while the relay may refuse streams and streams may fail at any time. The socket with some number has
the stream with that number, counted from those the relay had opened before. Whether the stream is
open is told by what was asked and answered: from the creation of the socket until it is first
closed or given up. The answer to every request and the call made for it follow from that, so each
stream is closed once, when its socket is first closed or given up, and carries nothing afterwards.
-/

namespace SipOverRelay

namespace MediaService

variable {σ : Type}

/-- The sockets, their streams and the calls made for them since some time are those that the past
tells of. -/
structure Follows (relay : RelayId) (w : World σ) (s : MediaService σ) : Prop where
  /-- The relay is the same. -/
  relay_eq : s.relay = relay
  /-- It exists. -/
  exists_relay : relay < s.world.ledger.relays.length
  /-- The sockets are those that the past tells of. -/
  sockets : MediaMatch relay (w.ledger.streamsOf relay).length s.past s.sockets
  /-- The streams were opened and closed as the past tells. -/
  streams : s.world.ledger.streamsOf relay = w.ledger.streamsOf relay ++ s.past.records
  /-- So were the calls made. -/
  made : ∃ made, s.world.calls = made ++ w.calls ∧
    MediaAccounts relay (w.ledger.streamsOf relay).length s.past made

namespace Follows

variable {relay : RelayId} {w : World σ} {s : MediaService σ}

theorem start (hrelay : relay < w.ledger.relays.length) :
    Follows relay w (MediaService.start relay w) where
  relay_eq := rfl
  exists_relay := hrelay
  sockets := ⟨rfl, fun _ => rfl⟩
  streams := (List.append_nil _).symm
  made := ⟨[], rfl, .empty relay _⟩

variable [Surroundings σ]

/-- Every request is served as the past tells. -/
theorem serves (h : Follows relay w s) (request : MediaRequest) :
    MediaServed relay (w.ledger.streamsOf relay).length s.past s.world request
      (s.sockets.serve s.relay s.world request) := by
  obtain ⟨made, -, haccounts⟩ := h.made
  have hlength : (s.world.ledger.streamsOf relay).length =
      (w.ledger.streamsOf relay).length + s.past.ports.length := by
    rw [h.streams, List.length_append, MediaPast.records, List.length_mapIdx]
  rw [h.relay_eq]
  exact h.sockets.serves haccounts.known hlength request

/-- What was asked and answered before, with the request and its answer. -/
theorem past_serve (h : Follows relay w s) (request : MediaRequest) :
    (s.serve request).past = s.past ++
      [(request, s.past.dueAnswer relay (w.ledger.streamsOf relay).length s.world.scene
        request)] := by
  rw [← (h.serves request).answer]
  rfl

/-- The request makes the call that it should. -/
theorem performs_serve (h : Follows relay w s) (request : MediaRequest) :
    s.world.Performs
      (s.past.dueCall? relay (w.ledger.streamsOf relay).length s.world.scene request)
      (s.serve request).world :=
  (h.serves request).call

/-- A request keeps all as the past tells. -/
theorem serve (h : Follows relay w s) (request : MediaRequest) :
    Follows relay w (s.serve request) := by
  have hturn := s.past.turn relay (w.ledger.streamsOf relay).length s.world.scene request
  rw [← h.past_serve request] at hturn
  have hperforms := h.performs_serve request
  obtain ⟨made, hcalls, haccounts⟩ := h.made
  constructor
  · exact h.relay_eq
  · rw [hperforms.ledger]
    exact Ledger.lt_length_turn h.exists_relay hturn
  · rw [h.past_serve]
    exact (h.serves request).sockets
  · rw [hperforms.ledger]
    exact Ledger.streamsOf_turn h.exists_relay h.streams haccounts.known hturn
  · refine ⟨_, ?_, haccounts.turn hturn⟩
    rw [hperforms.calls, hcalls, List.append_assoc]

/-- So does everything that can happen. -/
theorem meet (h : Follows relay w s) (happening : MediaHappening σ) :
    Follows relay w (s.meet happening) := by
  cases happening with
  | request request => exact h.serve request
  | stir change => exact ⟨h.relay_eq, h.exists_relay, h.sockets, h.streams, h.made⟩
  | report report =>
    have hledger : (s.world.deliver report).ledger = s.world.ledger :=
      (s.world.deliver_frame report).2.1
    refine ⟨h.relay_eq, ?_, h.sockets, ?_, ?_⟩
    · exact hledger ▸ h.exists_relay
    · exact (congrArg (·.streamsOf relay) hledger).trans h.streams
    · obtain ⟨made, hcalls, haccounts⟩ := h.made
      exact ⟨made, (s.world.calls_deliver report).trans hcalls, haccounts⟩

theorem after (h : Follows relay w s) (happenings : List (MediaHappening σ)) :
    Follows relay w (s.after happenings) := by
  induction happenings generalizing s with
  | nil => exact h
  | cons happening rest ih => exact ih (h.meet happening)

end Follows

variable [Surroundings σ]

/-- Media sockets made from a relay, whatever is asked of them in whatever order, and whatever the
surroundings do meanwhile. The relay has opened one more stream for every socket that was created,
for its port, and has closed it once if the socket was closed or given up, and else never; the
socket with some number has that stream until then, and no other. Of the calls made, as many open
streams as there were sockets created; those that close close one of these streams through this
relay, each at most once; datagrams pass over these streams only, and over none that was closed
before. Every further request gets the answer and makes the call, if any, that the past tells. -/
theorem media_streams_live_once (relay : RelayId) (w : World σ)
    (hrelay : relay < w.ledger.relays.length) (happenings : List (MediaHappening σ)) :
    let base := (w.ledger.streamsOf relay).length
    let s := (start relay w).after happenings
    s.world.ledger.streamsOf relay = w.ledger.streamsOf relay ++
        s.past.ports.mapIdx (fun id port => ⟨port, if s.past.IsClosed id then 1 else 0⟩) ∧
      (∀ id, s.sockets.find? id =
        if s.past.IsHeld id then
          some ⟨relay, if s.past.IsClosed id then none else some ⟨relay, base + id⟩⟩
        else none) ∧
      (∃ made, s.world.calls = made ++ w.calls ∧
        made.countP (Call.opens relay) = s.past.ports.length ∧
        (∀ id, made.count (.closeStream relay ⟨relay, base + id⟩) =
          if s.past.IsClosed id then 1 else 0) ∧
        (∀ closer stream, .closeStream closer stream ∈ made →
          closer = relay ∧ ∃ id < s.past.ports.length, stream = ⟨relay, base + id⟩) ∧
        (∀ call ∈ made, ∀ stream, call.carrier? = some stream →
          ∃ id < s.past.ports.length, stream = ⟨relay, base + id⟩) ∧
        SilentAfterClose made) ∧
      ∀ request,
        (s.serve request).past =
            s.past ++ [(request, s.past.dueAnswer relay base s.world.scene request)] ∧
          (s.serve request).world.calls =
            (s.past.dueCall? relay base s.world.scene request).toList ++ s.world.calls := by
  intro base s
  have hfollows : Follows relay w s := (Follows.start hrelay).after happenings
  obtain ⟨made, hcalls, haccounts⟩ := hfollows.made
  refine ⟨hfollows.streams, fun id => ?_, ⟨made, hcalls, haccounts.opened, haccounts.closes,
    haccounts.closed, haccounts.carried, haccounts.silent⟩, fun request =>
    ⟨hfollows.past_serve request, (hfollows.performs_serve request).calls⟩⟩
  rw [hfollows.sockets.find?, MediaPast.socket?, MediaPast.stream?]
  by_cases hheld : s.past.IsHeld id
  · by_cases hclosed : s.past.IsClosed id <;> simp [MediaPast.HasStream, hheld, hclosed, base]
  · rw [if_neg hheld, if_neg hheld]

/-- A relay that has opened a stream for signaling. -/
def signalingWorld : World Rehearsal.Stage :=
  World.performAll ⟨{}, { engine := ⟨⟨5060, 5060, 5061, 0⟩, .stun⟩ }, {}, [], [], [], [], 0, 0⟩
    [.createRelay, .openStream 0 5060]

/-- Two sockets are created before the relay refuses a third one. One is used after it was closed,
and closed twice before it is given up; the stream of the other fails, and it is given up without
being closed. -/
def bustle : List (MediaHappening Rehearsal.Stage) :=
  [.request (.create .audio 7078), .request (.create .audioControl 7079),
    .stir (·.onRelay 0 fun relay => { relay with refusesStreams := true }),
    .request (.create .video 9078), .request (.send 0 [1, 2] "peer"),
    .stir (·.onStream ⟨0, 2⟩ fun stream => { stream with failing := true }),
    .request (.send 1 [3] "peer"), .request (.receive 1 9), .request (.close 0),
    .request (.close 0), .request (.send 0 [4, 5, 6] "peer"), .request (.receive 0 9),
    .request (.drop 0), .request (.drop 1), .request (.drop 2)]

/-- In the end either socket's stream has been closed once and the stream for signaling has not; the
relay was asked for nothing else than was due. -/
theorem bustle_closes_each_stream_once :
    0 < signalingWorld.ledger.relays.length ∧
      ((start 0 signalingWorld).after bustle).past.map Prod.snd =
        [.created 0, .created 1, .refused, .sent 2, .sent 1, .received none, .done, .done, .sent 3,
          .received none, .done, .done, .unknown] ∧
      ((start 0 signalingWorld).after bustle).world.ledger.streamsOf 0 =
        [⟨5060, 0⟩, ⟨7078, 1⟩, ⟨7079, 1⟩] ∧
      ((start 0 signalingWorld).after bustle).world.calls =
        [.closeStream 0 ⟨0, 2⟩, .closeStream 0 ⟨0, 1⟩, .receive ⟨0, 2⟩ 9, .send ⟨0, 2⟩ [3] "peer",
          .send ⟨0, 1⟩ [1, 2] "peer", .missStream 0 9078, .openStream 0 7079,
          .openStream 0 7078] ++ signalingWorld.calls ∧
      ((start 0 signalingWorld).after bustle).sockets.find? 1 = none := by
  have hrelay : 0 < signalingWorld.ledger.relays.length := by decide
  obtain ⟨hstreams, hsockets, -, -⟩ := media_streams_live_once 0 signalingWorld hrelay bustle
  have hpast : ((start 0 signalingWorld).after bustle).past.map Prod.snd =
      [.created 0, .created 1, .refused, .sent 2, .sent 1, .received none, .done, .done, .sent 3,
        .received none, .done, .done, .unknown] := by decide
  refine ⟨hrelay, hpast, ?_, by decide, ?_⟩
  · rw [hstreams]
    decide
  · rw [hsockets 1]
    decide

end MediaService

end SipOverRelay
