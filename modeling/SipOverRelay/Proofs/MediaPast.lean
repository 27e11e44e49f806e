import SipOverRelay.Proofs.Traffic
import SipOverRelay.Tunnel.MediaRun

/-!
# What the past of media sockets tells

What was asked of media sockets and answered tells which sockets there are, which of them still have
a stream, what the next request should be answered and which call should be made for it. The sockets
do not keep that past; that they do what it tells is shown elsewhere. Here it is shown what such
requests do to the streams: each is one of five turns.
-/

namespace SipOverRelay

/-- The socket that a request is about. -/
def MediaRequest.id? : MediaRequest → Option Nat
  | .create _ _ => none
  | .send id _ _ | .receive id _ | .close id | .drop id => some id

namespace MediaPast

/-! ### What the past tells -/

/-- The port of the socket that was created, if one was. -/
def newPort? : MediaRequest × MediaAnswer → Option UInt16
  | (.create _ port, .created _) => some port
  | _ => none

/-- The ports of the sockets that were created, in order. -/
def ports (past : MediaPast) : List UInt16 := past.filterMap newPort?

/-- A socket was given up. -/
def IsGone (past : MediaPast) (id : Nat) : Prop := (.drop id, .done) ∈ past

/-- A socket was closed or given up. -/
def IsClosed (past : MediaPast) (id : Nat) : Prop := (.close id, .done) ∈ past ∨ past.IsGone id

/-- A socket was created and not given up. -/
def IsHeld (past : MediaPast) (id : Nat) : Prop := id < past.ports.length ∧ ¬past.IsGone id

/-- A socket was created and neither closed nor given up. -/
def HasStream (past : MediaPast) (id : Nat) : Prop := past.IsHeld id ∧ ¬past.IsClosed id

instance (past : MediaPast) (id : Nat) : Decidable (past.IsGone id) :=
  inferInstanceAs (Decidable (_ ∈ _))

instance (past : MediaPast) (id : Nat) : Decidable (past.IsClosed id) :=
  inferInstanceAs (Decidable (_ ∨ _))

instance (past : MediaPast) (id : Nat) : Decidable (past.IsHeld id) :=
  inferInstanceAs (Decidable (_ ∧ _))

instance (past : MediaPast) (id : Nat) : Decidable (past.HasStream id) :=
  inferInstanceAs (Decidable (_ ∧ _))

variable {past later : MediaPast} {request : MediaRequest} {answer : MediaAnswer} {id : Nat}

theorem ports_concat :
    ports (past ++ [(request, answer)]) = past.ports ++ (newPort? (request, answer)).toList := by
  rw [ports, List.filterMap_append, ports]
  cases hport : newPort? (request, answer) <;> simp [hport]

theorem isGone_concat :
    IsGone (past ++ [(request, answer)]) id ↔
      past.IsGone id ∨ request = .drop id ∧ answer = .done := by
  simp [IsGone, eq_comm]

theorem isClosed_concat :
    IsClosed (past ++ [(request, answer)]) id ↔
      past.IsClosed id ∨ (request = .close id ∨ request = .drop id) ∧ answer = .done := by
  rw [IsClosed, IsClosed, isGone_concat]
  simp only [List.mem_append, List.mem_singleton, Prod.mk.injEq, eq_comm]
  tauto

/-- How the streams of the sockets should stand: each was opened for its socket's port, and was
closed once if its socket was closed or given up, else never. -/
def records (past : MediaPast) : List StreamRecord :=
  past.ports.mapIdx fun id port => ⟨port, if past.IsClosed id then 1 else 0⟩

/-- The stream that the socket with some number should have, of a relay that had opened some streams
before. -/
def stream? (past : MediaPast) (relay : RelayId) (base id : Nat) : Option StreamId :=
  if past.HasStream id then some ⟨relay, base + id⟩ else none

/-- The socket that should have some number. -/
def socket? (past : MediaPast) (relay : RelayId) (base id : Nat) : Option MediaSocket :=
  if past.IsHeld id then some ⟨relay, past.stream? relay base id⟩ else none

section Due

variable {σ : Type} [Surroundings σ] (past : MediaPast) (relay : RelayId) (base : Nat) (scene : σ)

/-- What a request should be answered, of a relay that had opened some streams before. Sockets that
are not held are not known. Without a stream, or if the stream fails, all counts as sent and nothing
is received. -/
def dueAnswer : MediaRequest → MediaAnswer
  | .create _ port =>
    if Surroundings.offersStream scene relay port then .created past.ports.length else .refused
  | .send id data dest =>
    if ¬past.IsHeld id then .unknown
    else if past.HasStream id then
      .sent ((Surroundings.sendAnswer scene ⟨relay, base + id⟩ data dest).toOption.getD data.length)
    else .sent data.length
  | .receive id size =>
    if ¬past.IsHeld id then .unknown
    else if past.HasStream id then
      .received ((Surroundings.receiveAnswer scene ⟨relay, base + id⟩ size).toOption.getD none)
    else .received none
  | .close id | .drop id => if ¬past.IsHeld id then .unknown else .done

/-- The call that should be made for a request, if any. -/
def dueCall? : MediaRequest → Option Call
  | .create _ port =>
    if Surroundings.offersStream scene relay port then some (.openStream relay port)
    else some (.missStream relay port)
  | .send id data dest =>
    if past.HasStream id then some (.send ⟨relay, base + id⟩ data dest) else none
  | .receive id size =>
    if past.HasStream id then some (.receive ⟨relay, base + id⟩ size) else none
  | .close id | .drop id =>
    if past.HasStream id then some (.closeStream relay ⟨relay, base + id⟩) else none

end Due

/-- What a request does to the streams, with the call it makes: nothing, or nothing since the relay
refuses, or it passes a datagram on over an open one, or it opens one, or it closes one. -/
inductive Turn (relay : RelayId) (base : Nat) (past later : MediaPast) : Option Call → Prop
  /-- No call is made. -/
  | rests (ports : later.ports = past.ports) (closed : ∀ id, later.IsClosed id ↔ past.IsClosed id) :
      Turn relay base past later none
  /-- The relay refuses a stream. -/
  | refuses (port : UInt16) (ports : later.ports = past.ports)
      (closed : ∀ id, later.IsClosed id ↔ past.IsClosed id) :
      Turn relay base past later (some (.missStream relay port))
  /-- A datagram is passed on over the stream of a socket. -/
  | carries (call : Call) (id : Nat) (carrier : call.carrier? = some ⟨relay, base + id⟩)
      (stream : past.HasStream id)
      (ports : later.ports = past.ports) (closed : ∀ id, later.IsClosed id ↔ past.IsClosed id) :
      Turn relay base past later (some call)
  /-- A socket is created with a stream of its own. -/
  | opens (port : UInt16) (ports : later.ports = past.ports ++ [port])
      (closed : ∀ id, later.IsClosed id ↔ past.IsClosed id) :
      Turn relay base past later (some (.openStream relay port))
  /-- The stream of a socket is closed. -/
  | closes (id : Nat) (stream : past.HasStream id)
      (ports : later.ports = past.ports)
      (closed : ∀ other, later.IsClosed other ↔ past.IsClosed other ∨ id = other) :
      Turn relay base past later (some (.closeStream relay ⟨relay, base + id⟩))

/-- Whoever creates no socket adds no port. -/
theorem ports_kept (h : newPort? (request, answer) = none) :
    ports (past ++ [(request, answer)]) = past.ports := by
  rw [ports_concat, h]
  exact List.append_nil _

/-- Whoever neither closes a socket nor gives one up leaves all as they are. -/
theorem isClosed_kept (h : ¬((request = .close id ∨ request = .drop id) ∧ answer = .done)) :
    IsClosed (past ++ [(request, answer)]) id ↔ past.IsClosed id := by
  rw [isClosed_concat, or_iff_left h]

/-- Whoever closes a socket or gives it up closes its stream. -/
theorem isClosed_ended (h : request = .close id ∨ request = .drop id) (other : Nat) :
    IsClosed (past ++ [(request, .done)]) other ↔ past.IsClosed other ∨ id = other := by
  rw [isClosed_concat]
  rcases h with rfl | rfl <;> simp

/-- To close a socket and to give it up does the same to its stream. -/
theorem turn_ends {relay : RelayId} {base : Nat} (h : request = .close id ∨ request = .drop id) :
    Turn relay base past (past ++ [(request, if ¬past.IsHeld id then .unknown else .done)])
      (if past.HasStream id then some (.closeStream relay ⟨relay, base + id⟩) else none) := by
  have hports (answer : MediaAnswer) : ports (past ++ [(request, answer)]) = past.ports := by
    apply ports_kept
    rcases h with rfl | rfl <;> rfl
  by_cases hheld : past.IsHeld id
  · rw [if_neg (not_not_intro hheld)]
    by_cases hclosed : past.IsClosed id
    · rw [if_neg fun hopen => hopen.2 hclosed]
      refine .rests (hports _) fun other => ?_
      rw [isClosed_ended h, or_iff_left_of_imp]
      rintro rfl
      exact hclosed
    · rw [if_pos ⟨hheld, hclosed⟩]
      exact .closes id ⟨hheld, hclosed⟩ (hports _) (isClosed_ended h)
  · rw [if_pos hheld, if_neg fun hopen => hheld hopen.1]
    exact .rests (hports _) fun other => isClosed_kept (by simp)

/-- To use a socket does nothing to its stream but pass a datagram on. -/
theorem turn_uses {relay : RelayId} {base : Nat} {call : Call}
    (hcall : call.carrier? = some ⟨relay, base + id⟩)
    (hport : ∀ answer, newPort? (request, answer) = none)
    (hrequest : ∀ other, ¬(request = .close other ∨ request = .drop other))
    (answer : MediaAnswer) :
    Turn relay base past (past ++ [(request, answer)])
      (if past.HasStream id then some call else none) := by
  have hkept (other : Nat) :
      IsClosed (past ++ [(request, answer)]) other ↔ past.IsClosed other :=
    isClosed_kept fun hends => hrequest other hends.1
  split
  · next hopen => exact .carries call id hcall hopen (ports_kept (hport _)) hkept
  · exact .rests (ports_kept (hport _)) hkept

/-- Every request, if it comes to what it should, is a turn. -/
theorem turn {σ : Type} [Surroundings σ] (past : MediaPast) (relay : RelayId) (base : Nat)
    (scene : σ) (request : MediaRequest) :
    Turn relay base past (past ++ [(request, past.dueAnswer relay base scene request)])
      (past.dueCall? relay base scene request) := by
  cases request with
  | create kind port =>
    have hkept (answer : MediaAnswer) (other : Nat) :
        IsClosed (past ++ [(.create kind port, answer)]) other ↔ past.IsClosed other :=
      isClosed_kept (by simp)
    simp only [dueAnswer, dueCall?]
    split
    · exact .opens port ports_concat (hkept _)
    · exact .refuses port (ports_kept rfl) (hkept _)
  | send id data dest => exact turn_uses rfl (fun _ => rfl) (by simp) _
  | receive id size => exact turn_uses rfl (fun _ => rfl) (by simp) _
  | close id => exact turn_ends (.inl rfl)
  | drop id => exact turn_ends (.inr rfl)

/-! ### What turns make of the records -/

section Records

variable {relay : RelayId} {base : Nat}

/-- The same ports and the same closings make the same records. -/
theorem records_congr (hports : later.ports = past.ports)
    (hclosed : ∀ id, later.IsClosed id ↔ past.IsClosed id) : later.records = past.records := by
  simp only [records, hports, hclosed]

/-- A new socket adds a record. -/
theorem records_opens {port : UInt16} (hports : later.ports = past.ports ++ [port])
    (hclosed : ∀ id, later.IsClosed id ↔ past.IsClosed id)
    (hnew : ¬past.IsClosed past.ports.length) : later.records = past.records ++ [⟨port, 0⟩] := by
  simp only [records, hports, hclosed, List.mapIdx_concat, if_neg hnew]

/-- A closing is counted in the record of the stream. -/
theorem records_closes (hports : later.ports = past.ports)
    (hclosed : ∀ other, later.IsClosed other ↔ past.IsClosed other ∨ id = other)
    (hopen : ¬past.IsClosed id) :
    later.records = past.records.modify id fun r => { r with closes := r.closes + 1 } := by
  refine List.ext_getElem? fun other => ?_
  simp only [records, hports, hclosed, List.getElem?_modify, List.getElem?_mapIdx]
  by_cases hsame : id = other
  · subst hsame
    cases past.ports[id]? <;> simp [hopen]
  · cases past.ports[other]? <;> simp [hsame]

end Records

end MediaPast

end SipOverRelay
