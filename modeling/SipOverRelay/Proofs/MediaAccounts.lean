import SipOverRelay.Proofs.MediaPast
import SipOverRelay.Proofs.Tending

/-!
# The accounts of media streams

With every turn the calls made for media sockets, and the records that a relay keeps of its streams,
stay what the past tells: a stream for every socket, closed once when its socket is closed or given
up, and silent afterwards.
-/

namespace SipOverRelay

/-! ### What turns make of the calls -/

/-- No datagram ever passed over a stream that had been closed; the calls are given newest first. -/
def SilentAfterClose (calls : List Call) : Prop :=
  ∀ call past stream, call :: past <:+ calls → call.carrier? = some stream →
    ∀ closer, .closeStream closer stream ∉ past

namespace SilentAfterClose

variable {calls : List Call} {call : Call}

theorem nil : SilentAfterClose [] := by
  intro call past stream hs _
  exact absurd (List.suffix_nil.mp hs) (List.cons_ne_nil _ _)

/-- A call may follow unless it passes a datagram on over a stream that has been closed. -/
theorem cons (h : SilentAfterClose calls)
    (hcall : ∀ stream, call.carrier? = some stream → ∀ closer, .closeStream closer stream ∉ calls) :
    SilentAfterClose (call :: calls) := by
  intro other past stream hs hcarrier
  rcases List.suffix_cons_iff.mp hs with he | hs
  · obtain ⟨rfl, rfl⟩ := List.cons.inj he
    exact hcall stream hcarrier
  · exact h other past stream hs hcarrier

end SilentAfterClose

/-- The calls made for media sockets of a relay that had opened some streams before, against what
was asked and answered; the calls are given newest first. -/
structure MediaAccounts (relay : RelayId) (base : Nat) (past : MediaPast) (made : List Call) :
    Prop where
  /-- Only sockets that were created were closed or given up. -/
  known : ∀ id, past.IsClosed id → id < past.ports.length
  /-- A stream was opened for every socket that was created. -/
  opened : made.countP (Call.opens relay) = past.ports.length
  /-- It was closed once if the socket was closed or given up, and else never. -/
  closes : ∀ id, made.count (.closeStream relay ⟨relay, base + id⟩) =
    if past.IsClosed id then 1 else 0
  /-- No other stream was closed, and none through another relay. -/
  closed : ∀ closer stream, .closeStream closer stream ∈ made →
    closer = relay ∧ ∃ id < past.ports.length, stream = ⟨relay, base + id⟩
  /-- No datagram passed over another stream. -/
  carried : ∀ call ∈ made, ∀ stream, call.carrier? = some stream →
    ∃ id < past.ports.length, stream = ⟨relay, base + id⟩
  /-- No datagram passed over a stream that had been closed. -/
  silent : SilentAfterClose made

namespace MediaAccounts

variable {relay : RelayId} {base id : Nat} {past later : MediaPast} {made : List Call} {call : Call}

theorem empty (relay : RelayId) (base : Nat) : MediaAccounts relay base [] [] where
  known id h := by simp [MediaPast.IsClosed, MediaPast.IsGone] at h
  opened := rfl
  closes id := by simp [MediaPast.IsClosed, MediaPast.IsGone]
  closed closer stream h := absurd h List.not_mem_nil
  carried call h := absurd h List.not_mem_nil
  silent := .nil

/-- What is asked and answered matters as far as sockets are created and closed. -/
theorem congr (h : MediaAccounts relay base past made) (hports : later.ports = past.ports)
    (hclosed : ∀ id, later.IsClosed id ↔ past.IsClosed id) :
    MediaAccounts relay base later made where
  known id := by simpa only [hports, hclosed] using h.known id
  opened := by rw [hports, h.opened]
  closes id := by simpa only [hclosed] using h.closes id
  closed := by simpa only [hports] using h.closed
  carried := by simpa only [hports] using h.carried
  silent := h.silent

/-- A stream that is open has not been closed so far. -/
theorem not_mem_of_hasStream (h : MediaAccounts relay base past made) (hopen : past.HasStream id)
    (closer : RelayId) : .closeStream closer ⟨relay, base + id⟩ ∉ made := by
  intro hmem
  have hcloser : closer = relay := (h.closed _ _ hmem).1
  have hcount := h.closes id
  rw [if_neg hopen.2, List.count_eq_zero] at hcount
  rw [hcloser] at hmem
  exact hcount hmem

/-- A call that neither opens nor closes a stream may be made if it passes nothing on, or passes a
datagram on over an open stream. -/
theorem pass (h : MediaAccounts relay base past made) (hopens : call.opens relay = false)
    (hcloses : ∀ closer stream, call ≠ .closeStream closer stream)
    (hcarrier : ∀ stream, call.carrier? = some stream →
      ∃ id, past.HasStream id ∧ stream = ⟨relay, base + id⟩) :
    MediaAccounts relay base past (call :: made) where
  known := h.known
  opened := by rw [List.countP_cons_of_neg (by simp [hopens]), h.opened]
  closes id := by rw [List.count_cons_of_ne (hcloses _ _), h.closes id]
  closed closer stream hmem := by
    rcases List.mem_cons.1 hmem with heq | hmem
    · exact absurd heq.symm (hcloses closer stream)
    · exact h.closed closer stream hmem
  carried other hmem stream hother := by
    rcases List.mem_cons.1 hmem with rfl | hmem
    · obtain ⟨id, hopen, heq⟩ := hcarrier stream hother
      exact ⟨id, hopen.1.1, heq⟩
    · exact h.carried other hmem stream hother
  silent := by
    refine h.silent.cons fun stream hcall closer => ?_
    obtain ⟨id, hopen, rfl⟩ := hcarrier stream hcall
    exact h.not_mem_of_hasStream hopen closer

/-- Opening a stream for a new socket. -/
theorem opens {port : UInt16} (h : MediaAccounts relay base past made)
    (hports : later.ports = past.ports ++ [port])
    (hclosed : ∀ id, later.IsClosed id ↔ past.IsClosed id) :
    MediaAccounts relay base later (.openStream relay port :: made) := by
  have hmore : later.ports.length = past.ports.length + 1 := by simp [hports]
  have hold : past.ports.length ≤ later.ports.length := by omega
  constructor
  · intro id hid
    exact Nat.lt_of_lt_of_le (h.known id ((hclosed id).1 hid)) hold
  · rw [List.countP_cons_of_pos (by simp [Call.opens]), h.opened, hmore]
  · intro id
    rw [List.count_cons_of_ne (by simp), h.closes id]
    simp only [hclosed]
  · intro closer stream hmem
    rcases List.mem_cons.1 hmem with heq | hmem
    · cases heq
    · obtain ⟨hcloser, id, hid, heq⟩ := h.closed closer stream hmem
      exact ⟨hcloser, id, Nat.lt_of_lt_of_le hid hold, heq⟩
  · intro call hmem stream hcarrier
    rcases List.mem_cons.1 hmem with rfl | hmem
    · cases hcarrier
    · obtain ⟨id, hid, heq⟩ := h.carried call hmem stream hcarrier
      exact ⟨id, Nat.lt_of_lt_of_le hid hold, heq⟩
  · exact h.silent.cons fun stream hcarrier => by cases hcarrier

/-- Closing the stream of a socket that has one. -/
theorem close (h : MediaAccounts relay base past made) (hopen : past.HasStream id)
    (hports : later.ports = past.ports)
    (hclosed : ∀ other, later.IsClosed other ↔ past.IsClosed other ∨ id = other) :
    MediaAccounts relay base later (.closeStream relay ⟨relay, base + id⟩ :: made) := by
  constructor
  · intro other hother
    rw [hports]
    rcases (hclosed other).1 hother with hother | rfl
    · exact h.known other hother
    · exact hopen.1.1
  · rw [List.countP_cons_of_neg (by simp [Call.opens]), h.opened, hports]
  · intro other
    by_cases hsame : id = other
    · subst hsame
      have hzero := h.closes id
      rw [if_neg hopen.2] at hzero
      rw [List.count_cons_self, hzero, if_pos ((hclosed id).2 (.inr rfl))]
    · have hother : later.IsClosed other ↔ past.IsClosed other := by
        rw [hclosed, or_iff_left hsame]
      rw [List.count_cons_of_ne (by simpa using hsame), h.closes other]
      simp only [hother]
  · intro closer stream hmem
    rw [hports]
    rcases List.mem_cons.1 hmem with heq | hmem
    · cases heq
      exact ⟨rfl, id, hopen.1.1, rfl⟩
    · exact h.closed closer stream hmem
  · intro call hmem stream hcarrier
    rw [hports]
    rcases List.mem_cons.1 hmem with rfl | hmem
    · cases hcarrier
    · exact h.carried call hmem stream hcarrier
  · exact h.silent.cons fun stream hcarrier => by cases hcarrier

/-- The accounts are right after every turn. -/
theorem turn {call : Option Call} (h : MediaAccounts relay base past made)
    (ht : MediaPast.Turn relay base past later call) :
    MediaAccounts relay base later (call.toList ++ made) := by
  cases ht with
  | rests ports closed => exact h.congr ports closed
  | refuses port ports closed =>
    exact (h.pass rfl (by simp) fun stream hcarrier => by cases hcarrier).congr ports closed
  | carries call id carrier stream ports closed =>
    have hopens : call.opens relay = false := by
      cases call <;> first | rfl | cases carrier
    have hcloses (closer : RelayId) (other : StreamId) : call ≠ .closeStream closer other := by
      rintro rfl
      cases carrier
    have hcarrier (other : StreamId) (hother : call.carrier? = some other) :
        ∃ id, past.HasStream id ∧ other = ⟨relay, base + id⟩ :=
      ⟨id, stream, Option.some.inj (hother.symm.trans carrier)⟩
    exact (h.pass hopens hcloses hcarrier).congr ports closed
  | opens port ports closed => exact h.opens ports closed
  | closes id stream ports closed => exact h.close stream ports closed

end MediaAccounts

/-! ### What turns make of the ledger -/

namespace Ledger

variable (l : Ledger) (relay : RelayId)

/-- Whatever is said to a relay, the number of relays stays. -/
theorem length_onRelay (f : RelayRecord → RelayRecord) :
    (l.onRelay relay f).relays.length = l.relays.length := by
  simp [onRelay]

/-- A relay that exists adds a record for a stream it opens. -/
theorem streamsOf_openStream (port : UInt16) (h : relay < l.relays.length) :
    (l.apply (.openStream relay port)).streamsOf relay = l.streamsOf relay ++ [⟨port, 0⟩] := by
  simp [streamsOf, apply, onRelay, h]

/-- A closing is counted in the record of the stream. -/
theorem streamsOf_closeStream (closer : RelayId) (index : Nat) :
    (l.apply (.closeStream closer ⟨relay, index⟩)).streamsOf relay =
      (l.streamsOf relay).modify index fun r => { r with closes := r.closes + 1 } := by
  simp only [streamsOf, apply, onRelay, List.getElem?_modify, if_pos]
  cases l.relays[relay]? <;> simp [RelayRecord.closeStream]

variable {l : Ledger} {relay : RelayId} {old : List StreamRecord} {past later : MediaPast}
  {call : Option Call}

/-- The records of the streams stay as they should be with every turn. -/
theorem streamsOf_turn (hrelay : relay < l.relays.length)
    (hstreams : l.streamsOf relay = old ++ past.records)
    (hknown : ∀ id, past.IsClosed id → id < past.ports.length)
    (ht : MediaPast.Turn relay old.length past later call) :
    (call.elim l l.apply).streamsOf relay = old ++ later.records := by
  cases ht with
  | rests ports closed => exact hstreams.trans (by rw [MediaPast.records_congr ports closed])
  | refuses port ports closed =>
    rw [MediaPast.records_congr ports closed, ← hstreams]
    exact l.streamsOf_onRelay relay relay fun _ => rfl
  | carries call id carrier stream ports closed =>
    rw [MediaPast.records_congr ports closed, ← hstreams]
    cases call <;> first | rfl | cases carrier
  | opens port ports closed =>
    have hnew : ¬past.IsClosed past.ports.length := fun h => Nat.lt_irrefl _ (hknown _ h)
    rw [MediaPast.records_opens ports closed hnew, ← List.append_assoc, ← hstreams]
    exact l.streamsOf_openStream relay port hrelay
  | closes id stream ports closed =>
    have hmodify : (old ++ past.records).modify (old.length + id)
        (fun r => { r with closes := r.closes + 1 }) =
          old ++ past.records.modify id fun r => { r with closes := r.closes + 1 } :=
      List.modifyTailIdx_add _ _ _ _
    rw [MediaPast.records_closes ports closed stream.2, ← hmodify, ← hstreams]
    exact l.streamsOf_closeStream relay relay _

/-- No turn makes a relay vanish. -/
theorem lt_length_turn (hrelay : relay < l.relays.length)
    (ht : MediaPast.Turn relay old.length past later call) :
    relay < (call.elim l l.apply).relays.length := by
  cases ht with
  | rests ports closed => exact hrelay
  | carries call id carrier stream ports closed =>
    cases call <;> first | exact hrelay | cases carrier
  | refuses | opens | closes => exact Nat.lt_of_lt_of_eq hrelay (l.length_onRelay _ _).symm

end Ledger

end SipOverRelay
