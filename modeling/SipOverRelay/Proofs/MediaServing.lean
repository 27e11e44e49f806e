import SipOverRelay.Proofs.MediaPast

/-!
# Media sockets do what their past tells

Every request to media sockets is answered as their past tells, makes the call that it tells, and
leaves the sockets that it tells of then.
-/

namespace SipOverRelay

/-! ### What media sockets do -/

namespace World

variable {σ : Type}

/-- One call was made, or none, and perhaps something was written into the log. -/
structure Performs (w : World σ) (call : Option Call) (v : World σ) : Prop where
  /-- The call was written down. -/
  calls : v.calls = call.toList ++ w.calls
  /-- The ledger moved by it. -/
  ledger : v.ledger = call.elim w.ledger w.ledger.apply

namespace Performs

variable {w v : World σ} {call : Option Call}

theorem refl (w : World σ) : w.Performs none w := ⟨rfl, rfl⟩

theorem perform [Surroundings σ] (w : World σ) (call : Call) :
    w.Performs (some call) (w.perform call) := ⟨calls_perform w call, ledger_perform w call⟩

theorem note (h : w.Performs call v) (notice : Notice) : w.Performs call (v.note notice) :=
  ⟨h.calls, h.ledger⟩

end Performs

end World

namespace MediaSocket

variable {σ : Type} [Surroundings σ] (w : World σ) (relay : RelayId)

/-- What counts as sent is what the stream answers; without a stream or an answer it is all. -/
theorem fst_send (stream : Option StreamId) (data : Bytes) (dest : Address) :
    (send ⟨relay, stream⟩ w data dest).1 =
      (stream.bind fun stream =>
        (Surroundings.sendAnswer w.scene stream data dest).toOption).getD data.length := by
  unfold send World.sendOn
  cases stream with
  | none => rfl
  | some stream =>
    dsimp only [Option.bind_some]
    cases Surroundings.sendAnswer w.scene stream data dest <;> rfl

/-- Sending comes down to one call to the stream, if there is one. -/
theorem performs_send (stream : Option StreamId) (data : Bytes) (dest : Address) :
    w.Performs (stream.map (Call.send · data dest)) (send ⟨relay, stream⟩ w data dest).2 := by
  unfold send World.sendOn
  cases stream with
  | none => exact .refl w
  | some stream =>
    have hsent := World.Performs.perform w (.send stream data dest)
    dsimp only
    cases Surroundings.sendAnswer w.scene stream data dest with
    | error why => exact hsent.note _
    | ok length => exact hsent

/-- What is received is what the stream answers; without a stream or an answer it is nothing. -/
theorem fst_receive (stream : Option StreamId) (size : Nat) :
    (receive ⟨relay, stream⟩ w size).1 =
      (stream.bind fun stream =>
        (Surroundings.receiveAnswer w.scene stream size).toOption).getD none := by
  unfold receive World.receiveOn
  cases stream with
  | none => rfl
  | some stream =>
    dsimp only [Option.bind_some]
    cases Surroundings.receiveAnswer w.scene stream size <;> rfl

/-- Receiving comes down to one call to the stream, if there is one. -/
theorem performs_receive (stream : Option StreamId) (size : Nat) :
    w.Performs (stream.map (Call.receive · size)) (receive ⟨relay, stream⟩ w size).2 := by
  unfold receive World.receiveOn
  cases stream with
  | none => exact .refl w
  | some stream =>
    have hreceived := World.Performs.perform w (.receive stream size)
    dsimp only
    cases Surroundings.receiveAnswer w.scene stream size with
    | error why => exact hreceived.note _
    | ok datagram => exact hreceived

/-- A closed socket has no stream and belongs to the relay it belonged to. -/
theorem fst_close (stream : Option StreamId) : (close ⟨relay, stream⟩ w).1 = ⟨relay, none⟩ := by
  cases stream <;> rfl

/-- Closing comes down to one call to the socket's relay, if there is a stream to close. -/
theorem performs_close (stream : Option StreamId) :
    w.Performs (stream.map (Call.closeStream relay)) (close ⟨relay, stream⟩ w).2 := by
  cases stream with
  | none => exact .refl w
  | some stream => exact .perform w (.closeStream relay stream)

end MediaSocket

/-! ### What requests make of the sockets -/

namespace MediaSockets

/-- A new socket gets the next number. -/
theorem find?_concat (sockets : MediaSockets) (socket : MediaSocket) (id : Nat) :
    find? (sockets ++ [some socket]) id =
      if id = sockets.length then some socket else find? sockets id := by
  rw [find?, find?]
  by_cases hlt : id < sockets.length
  · rw [if_neg (by omega), List.getElem?_append_left hlt]
  · have hold : sockets[id]? = none := List.getElem?_eq_none (by omega)
    rw [List.getElem?_append_right (by omega), hold]
    by_cases heq : id = sockets.length
    · simp [heq]
    · rw [if_neg heq, List.getElem?_eq_none (by simp; omega)]

/-- A socket that is found has a number in use. -/
theorem lt_of_find? {sockets : MediaSockets} {id : Nat} {socket : MediaSocket}
    (h : find? sockets id = some socket) : id < sockets.length := by
  by_contra hge
  rw [find?, List.getElem?_eq_none (by omega)] at h
  cases h

/-- A socket is replaced, or given up, under its number. -/
theorem find?_set {sockets : MediaSockets} {id : Nat} (h : id < sockets.length)
    (socket : Option MediaSocket) (other : Nat) :
    find? (sockets.set id socket) other = if id = other then socket else find? sockets other := by
  rw [find?, find?, List.getElem?_set]
  split
  · simp
  · rfl

end MediaSockets

/-- The sockets are those that the past tells of. -/
structure MediaMatch (relay : RelayId) (base : Nat) (past : MediaPast) (sockets : MediaSockets) :
    Prop where
  /-- Each socket that was created has its number. -/
  size : sockets.length = past.ports.length
  /-- It is as it should be. -/
  find? : ∀ id, sockets.find? id = past.socket? relay base id

namespace MediaMatch

variable {relay : RelayId} {base id : Nat} {past later : MediaPast} {sockets : MediaSockets}

/-- A socket that is held is found, with its stream unless that has been closed. -/
theorem find?_of_isHeld (h : MediaMatch relay base past sockets) (hheld : past.IsHeld id) :
    sockets.find? id = some ⟨relay, past.stream? relay base id⟩ := by
  rw [h.find?, MediaPast.socket?, if_pos hheld]

/-- A socket that is not held is not found. -/
theorem find?_of_not_isHeld (h : MediaMatch relay base past sockets) (hheld : ¬past.IsHeld id) :
    sockets.find? id = none := by
  rw [h.find?, MediaPast.socket?, if_neg hheld]

/-- Sockets are as before if none is created, closed or given up. -/
theorem congr (h : MediaMatch relay base past sockets) (hports : later.ports = past.ports)
    (hgone : ∀ id, later.IsGone id ↔ past.IsGone id)
    (hclosed : ∀ id, later.IsClosed id ↔ past.IsClosed id) :
    MediaMatch relay base later sockets where
  size := by rw [hports, h.size]
  find? id := by
    have hheld : later.IsHeld id ↔ past.IsHeld id := by
      rw [MediaPast.IsHeld, MediaPast.IsHeld, hports, hgone]
    have hstream : later.HasStream id ↔ past.HasStream id := by
      rw [MediaPast.HasStream, MediaPast.HasStream, hheld, hclosed]
    rw [h.find?]
    simp only [MediaPast.socket?, MediaPast.stream?, hheld, hstream]

/-- A request that ends nothing and creates nothing leaves all sockets as they are. -/
theorem keep (h : MediaMatch relay base past sockets) {request : MediaRequest}
    {answer : MediaAnswer}
    (hport : MediaPast.newPort? (request, answer) = none)
    (hends : ∀ id, ¬((request = .close id ∨ request = .drop id) ∧ answer = .done)) :
    MediaMatch relay base (past ++ [(request, answer)]) sockets := by
  refine h.congr (MediaPast.ports_kept hport) (fun id => ?_) fun id =>
    MediaPast.isClosed_kept (hends id)
  rw [MediaPast.isGone_concat, or_iff_left]
  exact fun hdrop => hends id ⟨.inr hdrop.1, hdrop.2⟩

/-- A new socket has a stream of its own. -/
theorem create (h : MediaMatch relay base past sockets)
    (hknown : ∀ id, past.IsClosed id → id < past.ports.length) {port : UInt16}
    (hports : later.ports = past.ports ++ [port])
    (hgone : ∀ id, later.IsGone id ↔ past.IsGone id)
    (hclosed : ∀ id, later.IsClosed id ↔ past.IsClosed id) :
    MediaMatch relay base later
      (sockets ++ [some ⟨relay, some ⟨relay, base + past.ports.length⟩⟩]) := by
  have hlength : later.ports.length = past.ports.length + 1 := by
    rw [hports, List.length_append, List.length_singleton]
  constructor
  · rw [List.length_append, List.length_singleton, h.size, hlength]
  · intro id
    rw [MediaSockets.find?_concat, h.size]
    split
    · next hnew =>
      have hunclosed : ¬past.IsClosed id := fun hid => absurd (hknown id hid) (by omega)
      have hheld : later.IsHeld id :=
        ⟨by omega, fun hid => hunclosed (.inr ((hgone id).1 hid))⟩
      have hstream : later.HasStream id := ⟨hheld, fun hid => hunclosed ((hclosed id).1 hid)⟩
      rw [MediaPast.socket?, if_pos hheld, MediaPast.stream?, if_pos hstream, hnew]
    · next hold =>
      have hlt : id < later.ports.length ↔ id < past.ports.length := by omega
      have hheld : later.IsHeld id ↔ past.IsHeld id := by
        rw [MediaPast.IsHeld, MediaPast.IsHeld, hgone, hlt]
      have hstream : later.HasStream id ↔ past.HasStream id := by
        rw [MediaPast.HasStream, MediaPast.HasStream, hheld, hclosed]
      rw [h.find?]
      simp only [MediaPast.socket?, MediaPast.stream?, hheld, hstream]

/-- A closed socket is held on without a stream. -/
theorem close (h : MediaMatch relay base past sockets) (hheld : past.IsHeld id) :
    MediaMatch relay base (past ++ [(.close id, .done)]) (sockets.set id (some ⟨relay, none⟩)) := by
  have hports : MediaPast.ports (past ++ [(.close id, .done)]) = past.ports :=
    MediaPast.ports_kept rfl
  have hin (other : Nat) :
      MediaPast.IsHeld (past ++ [(.close id, .done)]) other ↔ past.IsHeld other := by
    simp [MediaPast.IsHeld, hports, MediaPast.isGone_concat]
  have hstream (other : Nat) : MediaPast.HasStream (past ++ [(.close id, .done)]) other ↔
      past.HasStream other ∧ id ≠ other := by
    simp only [MediaPast.HasStream, hin, MediaPast.isClosed_ended (.inl rfl), not_or, and_assoc,
      ne_eq]
  have hsize : id < sockets.length := MediaSockets.lt_of_find? (h.find?_of_isHeld hheld)
  constructor
  · rw [List.length_set, hports, h.size]
  · intro other
    rw [MediaSockets.find?_set hsize, h.find?]
    by_cases hsame : id = other
    · subst hsame
      simp [MediaPast.socket?, MediaPast.stream?, hin, hstream, hheld]
    · simp [MediaPast.socket?, MediaPast.stream?, hin, hstream, hsame]

/-- A socket that was given up is not known any more. -/
theorem drop (h : MediaMatch relay base past sockets) (hheld : past.IsHeld id) :
    MediaMatch relay base (past ++ [(.drop id, .done)]) (sockets.set id none) := by
  have hports : MediaPast.ports (past ++ [(.drop id, .done)]) = past.ports :=
    MediaPast.ports_kept rfl
  have hin (other : Nat) : MediaPast.IsHeld (past ++ [(.drop id, .done)]) other ↔
      past.IsHeld other ∧ id ≠ other := by
    simp only [MediaPast.IsHeld, hports, MediaPast.isGone_concat, MediaRequest.drop.injEq,
      and_true, not_or, and_assoc, ne_eq]
  have hstream (other : Nat) : MediaPast.HasStream (past ++ [(.drop id, .done)]) other ↔
      past.HasStream other ∧ id ≠ other := by
    simp only [MediaPast.HasStream, hin, MediaPast.isClosed_ended (.inr rfl), not_or, ne_eq]
    tauto
  have hsize : id < sockets.length := MediaSockets.lt_of_find? (h.find?_of_isHeld hheld)
  constructor
  · rw [List.length_set, hports, h.size]
  · intro other
    rw [MediaSockets.find?_set hsize, h.find?]
    by_cases hsame : id = other
    · subst hsame
      simp [MediaPast.socket?, hin]
    · simp [MediaPast.socket?, MediaPast.stream?, hin, hstream, hsame]

end MediaMatch

/-- A request to sockets that are those the past tells of: it is answered as it should be, makes the
call that it should, and leaves the sockets that the past tells of then. -/
structure MediaServed {σ : Type} [Surroundings σ] (relay : RelayId) (base : Nat) (past : MediaPast)
    (w : World σ) (request : MediaRequest) (served : MediaAnswer × MediaSockets × World σ) :
    Prop where
  /-- The answer. -/
  answer : served.1 = past.dueAnswer relay base w.scene request
  /-- The call. -/
  call : w.Performs (past.dueCall? relay base w.scene request) served.2.2
  /-- The sockets. -/
  sockets : MediaMatch relay base (past ++ [(request, past.dueAnswer relay base w.scene request)])
    served.2.1

namespace MediaMatch

variable {σ : Type} [Surroundings σ] {relay : RelayId} {base id : Nat} {past : MediaPast}
  {sockets : MediaSockets} {w : World σ} {request : MediaRequest}

/-- A stream is asked for. -/
theorem serves_create (h : MediaMatch relay base past sockets)
    (hknown : ∀ id, past.IsClosed id → id < past.ports.length)
    (hstreams : (w.ledger.streamsOf relay).length = base + past.ports.length)
    (kind : MediaKind) (port : UInt16) :
    MediaServed relay base past w (.create kind port)
      (sockets.serve relay w (.create kind port)) := by
  by_cases hoffer : Surroundings.offersStream w.scene relay port = true
  · have hserve : sockets.serve relay w (.create kind port) =
        (.created sockets.length, sockets ++ [some ⟨relay, some ⟨relay, base + past.ports.length⟩⟩],
          (w.perform (.openStream relay port)).note (.mediaTunneled kind port)) := by
      simp [MediaSockets.serve, MediaSocket.create, hoffer, hstreams]
    rw [hserve]
    have hanswer : past.dueAnswer relay base w.scene (.create kind port) =
        .created past.ports.length := by
      simp [MediaPast.dueAnswer, hoffer]
    constructor
    · rw [hanswer, h.size]
    · simp only [MediaPast.dueCall?, hoffer, if_true]
      exact (World.Performs.perform w _).note _
    · rw [hanswer]
      exact h.create hknown MediaPast.ports_concat
        (fun id => by simp [MediaPast.isGone_concat]) fun id => MediaPast.isClosed_kept (by simp)
  · have hserve : sockets.serve relay w (.create kind port) = (.refused, sockets,
        (w.perform (.missStream relay port)).note (.mediaRefused kind port)) := by
      simp [MediaSockets.serve, MediaSocket.create, hoffer]
    have hanswer : past.dueAnswer relay base w.scene (.create kind port) = .refused := by
      simp [MediaPast.dueAnswer, hoffer]
    rw [hserve]
    constructor
    · rw [hanswer]
    · simp only [MediaPast.dueCall?, hoffer]
      exact (World.Performs.perform w _).note _
    · rw [hanswer]
      exact h.keep rfl (by simp)

/-- A request about a socket that is not held comes to nothing. -/
theorem serves_unknown (h : MediaMatch relay base past sockets) (hid : request.id? = some id)
    (hheld : ¬past.IsHeld id) :
    MediaServed relay base past w request (sockets.serve relay w request) := by
  have hstream : ¬past.HasStream id := fun hstream => hheld hstream.1
  have hserve : sockets.serve relay w request = (.unknown, sockets, w) := by
    cases request <;> cases hid <;>
      simp only [MediaSockets.serve, h.find?_of_not_isHeld hheld]
  have hanswer : past.dueAnswer relay base w.scene request = .unknown := by
    cases request <;> cases hid <;> exact if_pos hheld
  have hcall : past.dueCall? relay base w.scene request = none := by
    cases request <;> cases hid <;> exact if_neg hstream
  have hport : MediaPast.newPort? (request, .unknown) = none := by
    cases request <;> rfl
  rw [hserve]
  refine ⟨hanswer.symm, ?_, ?_⟩
  · rw [hcall]
    exact .refl w
  · rw [hanswer]
    exact h.keep hport (by simp)

/-- A datagram is sent. -/
theorem serves_send (h : MediaMatch relay base past sockets) (hheld : past.IsHeld id) (data : Bytes)
    (dest : Address) :
    MediaServed relay base past w (.send id data dest)
      (sockets.serve relay w (.send id data dest)) := by
  have hcall : past.dueCall? relay base w.scene (.send id data dest) =
      (past.stream? relay base id).map (Call.send · data dest) := by
    simp only [MediaPast.dueCall?, MediaPast.stream?]
    split <;> rfl
  have hanswer : past.dueAnswer relay base w.scene (.send id data dest) =
      .sent (((past.stream? relay base id).bind fun stream =>
        (Surroundings.sendAnswer w.scene stream data dest).toOption).getD data.length) := by
    simp only [MediaPast.dueAnswer, MediaPast.stream?, if_neg (not_not_intro hheld)]
    split <;> rfl
  simp only [MediaSockets.serve, h.find?_of_isHeld hheld]
  constructor
  · rw [hanswer, MediaSocket.fst_send]
  · rw [hcall]
    exact MediaSocket.performs_send w relay _ data dest
  · exact h.keep rfl (by simp)

/-- A datagram is asked for. -/
theorem serves_receive (h : MediaMatch relay base past sockets) (hheld : past.IsHeld id)
    (size : Nat) :
    MediaServed relay base past w (.receive id size)
      (sockets.serve relay w (.receive id size)) := by
  have hcall : past.dueCall? relay base w.scene (.receive id size) =
      (past.stream? relay base id).map (Call.receive · size) := by
    simp only [MediaPast.dueCall?, MediaPast.stream?]
    split <;> rfl
  have hanswer : past.dueAnswer relay base w.scene (.receive id size) =
      .received (((past.stream? relay base id).bind fun stream =>
        (Surroundings.receiveAnswer w.scene stream size).toOption).getD none) := by
    simp only [MediaPast.dueAnswer, MediaPast.stream?, if_neg (not_not_intro hheld)]
    split <;> rfl
  simp only [MediaSockets.serve, h.find?_of_isHeld hheld]
  constructor
  · rw [hanswer, MediaSocket.fst_receive]
  · rw [hcall]
    exact MediaSocket.performs_receive w relay _ size
  · exact h.keep rfl (by simp)

/-- The call made for closing a socket or giving it up closes its stream, if it has one. -/
theorem performs_ends (hcall : past.dueCall? relay base w.scene request =
      if past.HasStream id then some (.closeStream relay ⟨relay, base + id⟩) else none) :
    w.Performs (past.dueCall? relay base w.scene request)
      (MediaSocket.close ⟨relay, past.stream? relay base id⟩ w).2 := by
  have hclose : past.dueCall? relay base w.scene request =
      (past.stream? relay base id).map (Call.closeStream relay) := by
    rw [hcall, MediaPast.stream?]
    split <;> rfl
  rw [hclose]
  exact MediaSocket.performs_close w relay _

/-- A socket is closed. -/
theorem serves_close (h : MediaMatch relay base past sockets) (hheld : past.IsHeld id) :
    MediaServed relay base past w (.close id) (sockets.serve relay w (.close id)) := by
  have hanswer : past.dueAnswer relay base w.scene (.close id) = .done :=
    if_neg (not_not_intro hheld)
  simp only [MediaSockets.serve, h.find?_of_isHeld hheld]
  refine ⟨hanswer.symm, performs_ends rfl, ?_⟩
  rw [hanswer, MediaSocket.fst_close]
  exact h.close hheld

/-- A socket is given up. -/
theorem serves_drop (h : MediaMatch relay base past sockets) (hheld : past.IsHeld id) :
    MediaServed relay base past w (.drop id) (sockets.serve relay w (.drop id)) := by
  have hanswer : past.dueAnswer relay base w.scene (.drop id) = .done :=
    if_neg (not_not_intro hheld)
  simp only [MediaSockets.serve, h.find?_of_isHeld hheld]
  refine ⟨hanswer.symm, performs_ends rfl, ?_⟩
  rw [hanswer]
  exact h.drop hheld

/-- Every request is served as the past tells. -/
theorem serves (h : MediaMatch relay base past sockets)
    (hknown : ∀ id, past.IsClosed id → id < past.ports.length)
    (hstreams : (w.ledger.streamsOf relay).length = base + past.ports.length)
    (request : MediaRequest) :
    MediaServed relay base past w request (sockets.serve relay w request) := by
  cases hid : request.id? with
  | none =>
    cases request with
    | create kind port => exact h.serves_create hknown hstreams kind port
    | _ => cases hid
  | some id =>
    by_cases hheld : past.IsHeld id
    · cases request with
      | create kind port => cases hid
      | send other data dest => cases hid; exact h.serves_send hheld data dest
      | receive other size => cases hid; exact h.serves_receive hheld size
      | close other => cases hid; exact h.serves_close hheld
      | drop other => cases hid; exact h.serves_drop hheld
    · exact h.serves_unknown hid hheld

end MediaMatch

end SipOverRelay
