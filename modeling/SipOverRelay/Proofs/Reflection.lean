import SipOverRelay.Probe.Exchange

/-!
# What a run of a probe reports

A run compares the bytes it has read with its packet. A datagram that does not fit into the buffer
is cut off, but the packet is shorter than the buffer, so no datagram is cut off to the packet, and
the packet itself is read whole: the bytes read are the packet exactly if the datagram is. Every
happening therefore either ends the run on its own account or leaves it waiting as before, and how a
run ends is told by the first happening of the former kind.
-/

namespace SipOverRelay.Probe

/-- The number that bytes stand for, the most significant first. -/
def bigEndian (bytes : Bytes) : Nat :=
  bytes.foldl (fun value byte => 256 * value + byte.toNat) 0

/-- A packet has eight bytes. -/
@[simp] theorem length_packet (nonce : UInt64) : (packet nonce).length = 8 := by
  simp [packet]

/-- One more byte moves the others up by one place. -/
theorem bigEndian_concat (bytes : Bytes) (byte : UInt8) :
    bigEndian (bytes ++ [byte]) = 256 * bigEndian bytes + byte.toNat := by
  rw [bigEndian, List.foldl_append, List.foldl_cons, List.foldl_nil, bigEndian]

/-- The byte of a number that stands before so many bits. -/
theorem toNat_byte (nonce : UInt64) {bits : Nat} (h : bits < 64) :
    (nonce >>> UInt64.ofNat bits).toUInt8.toNat = (nonce.toNat >>> bits) % 256 := by
  have hbits : bits % 2 ^ 64 % 64 = bits := by omega
  rw [UInt64.toNat_toUInt8, UInt64.toNat_shiftRight, UInt64.toNat_ofNat', hbits]

/-- The first bytes of a packet spell what its nonce is without the other ones. -/
theorem bigEndian_first (nonce : UInt64) {count : Nat} (h : count ≤ 8) :
    bigEndian ((List.range count).map fun i => (nonce >>> UInt64.ofNat (8 * (7 - i))).toUInt8) =
      nonce.toNat >>> (8 * (8 - count)) := by
  induction count with
  | zero =>
    have hlt : nonce.toNat < 2 ^ 64 := nonce.toNat_lt
    exact (Nat.shiftRight_eq_zero _ _ hlt).symm
  | succ count ih =>
    have hbits : 8 * (8 - count) = 8 * (7 - count) + 8 := by omega
    have hnext : 8 * (8 - (count + 1)) = 8 * (7 - count) := by omega
    have hcut (n : Nat) : 256 * (n >>> 8) + n % 256 = n := by
      rw [Nat.shiftRight_eq_div_pow]
      exact Nat.div_add_mod n 256
    rw [List.range_succ, List.map_append, List.map_singleton, bigEndian_concat, ih (by omega),
      toNat_byte nonce (by omega), hbits, hnext, Nat.shiftRight_add]
    exact hcut _

/-- A packet spells its nonce. -/
theorem bigEndian_packet (nonce : UInt64) : bigEndian (packet nonce) = nonce.toNat := by
  have hall := bigEndian_first nonce (Nat.le_refl 8)
  rw [Nat.sub_self, Nat.mul_zero, Nat.shiftRight_zero] at hall
  exact hall

/-- The bytes read are as much of the datagram as fits into the buffer. -/
theorem take_receiveInto (buffer data : Bytes) :
    (receiveInto buffer data).2.take (receiveInto buffer data).1 = data.take buffer.length := by
  have hlength : (data.take buffer.length).length = min data.length buffer.length := by
    rw [List.length_take, Nat.min_comm]
  simp only [receiveInto]
  rw [← hlength, List.take_left]

/-- Reading leaves a buffer as long as it was. -/
theorem length_receiveInto (buffer data : Bytes) :
    (receiveInto buffer data).2.length = buffer.length := by
  simp only [receiveInto, List.length_append, List.length_take, List.length_drop]
  omega

/-- A datagram is read as the packet only if it is the packet. -/
theorem take_bufferSize_eq_packet_iff (nonce : UInt64) (data : Bytes) :
    data.take bufferSize = packet nonce ↔ data = packet nonce := by
  constructor
  · intro hread
    have hlength : min bufferSize data.length = 8 := by
      rw [← List.length_take, hread, length_packet]
    have hfits : data.length ≤ bufferSize := by
      simp only [bufferSize] at hlength ⊢
      omega
    rw [← hread, List.take_of_length_le hfits]
  · intro hdata
    have hfits : data.length ≤ bufferSize := by
      rw [hdata, length_packet, bufferSize]
      omega
    rw [List.take_of_length_le hfits, hdata]

/-- How a happening ends a run for a nonce that is under way, if it does. -/
def Happening.decides (nonce : UInt64) : Happening → Option Ending
  | .datagram data _ => if data = packet nonce then some .reflected else none
  | .timeUp => some .late
  | .resend _ => none
  | .receiveFailed _ => none

/-- Only the packet itself, from whomever, ends a run well. -/
theorem Happening.decides_eq_reflected_iff (nonce : UInt64) (happening : Happening) :
    happening.decides nonce = some .reflected ↔
      ∃ source, happening = .datagram (packet nonce) source := by
  cases happening <;> simp [decides]

/-- Every other end of a run that has a socket is the end of its time. -/
theorem Happening.decides_eq_some_iff_of_ne (nonce : UInt64) (happening : Happening)
    {ending : Ending} (hending : ending ≠ .reflected) :
    happening.decides nonce = some ending ↔ happening = .timeUp ∧ ending = .late := by
  have hne : Ending.reflected ≠ ending := hending.symm
  cases happening with
  | datagram data source => simp [decides, hne]
  | timeUp => simp [decides, eq_comm]
  | resend failure => simp [decides]
  | receiveFailed why => simp [decides]

/-- A happening that is neither the packet nor the end of the time ends no run. -/
theorem Happening.decides_eq_none (nonce : UInt64) {happening : Happening}
    (htime : happening ≠ .timeUp)
    (hpacket : ∀ source, happening ≠ .datagram (packet nonce) source) :
    happening.decides nonce = none := by
  cases hdecides : happening.decides nonce with
  | none => rfl
  | some ending =>
    by_cases hreflected : ending = .reflected
    · rw [hreflected, decides_eq_reflected_iff] at hdecides
      obtain ⟨source, hsource⟩ := hdecides
      exact absurd hsource (hpacket source)
    · exact absurd ((decides_eq_some_iff_of_ne nonce happening hreflected).1 hdecides).1 htime

namespace Exchange

/-- A run that sends and waits for the packet of a nonce. -/
structure Awaits (nonce : UInt64) (remote : Address) (e : Exchange) : Prop where
  /-- The packet is what it compares with. -/
  request_eq : e.request = packet nonce
  /-- One reflector is asked. -/
  remote_eq : e.remote = remote
  /-- The buffer has its size. -/
  length_buffer : e.buffer.length = bufferSize
  /-- Nothing else was sent, and to nobody else. -/
  sent_eq : ∀ message ∈ e.sent, message = (packet nonce, remote)

variable {nonce : UInt64} {remote : Address} {e : Exchange}

theorem awaits_start : (start nonce remote).Awaits nonce remote where
  request_eq := rfl
  remote_eq := rfl
  length_buffer := by simp [start]
  sent_eq := by simp [start]

/-- Whatever happens, a run goes on sending and waiting for the same packet. -/
theorem Awaits.meet (he : e.Awaits nonce remote) (happening : Happening) :
    (e.meet happening).Awaits nonce remote := by
  unfold Exchange.meet
  split
  · exact he
  · cases happening with
    | resend failure =>
      cases failure with
      | none =>
        refine ⟨he.request_eq, he.remote_eq, he.length_buffer, fun message hm => ?_⟩
        rcases List.mem_append.1 hm with hm | hm
        · exact he.sent_eq message hm
        · rw [List.mem_singleton.1 hm, he.request_eq, he.remote_eq]
      | some why => exact ⟨he.request_eq, he.remote_eq, he.length_buffer, he.sent_eq⟩
    | datagram data source =>
      have hbuffer := length_receiveInto e.buffer data
      exact ⟨he.request_eq, he.remote_eq, hbuffer.trans he.length_buffer, he.sent_eq⟩
    | receiveFailed why => exact ⟨he.request_eq, he.remote_eq, he.length_buffer, he.sent_eq⟩
    | timeUp => exact ⟨he.request_eq, he.remote_eq, he.length_buffer, he.sent_eq⟩

/-- One happening: a run that is over stays over, and one that is not ends as the happening has
it. -/
theorem Awaits.ending_meet (he : e.Awaits nonce remote) (happening : Happening) :
    (e.meet happening).ending = e.ending.or (happening.decides nonce) := by
  cases hending : e.ending with
  | some ending => simp [Exchange.meet, hending]
  | none =>
    cases happening with
    | resend failure => cases failure <;> simp [Exchange.meet, hending, Happening.decides]
    | datagram data source =>
      have hread : (receiveInto e.buffer data).2.take (receiveInto e.buffer data).1 =
          data.take bufferSize := by
        rw [take_receiveInto, he.length_buffer]
      simp [Exchange.meet, hending, receive, hread, he.request_eq, take_bufferSize_eq_packet_iff,
        Happening.decides]
    | receiveFailed why => simp [Exchange.meet, hending, Happening.decides]
    | timeUp => simp [Exchange.meet, hending, Happening.decides]

theorem Awaits.after (he : e.Awaits nonce remote) (happenings : List Happening) :
    (e.after happenings).Awaits nonce remote := by
  induction happenings generalizing e with
  | nil => exact he
  | cons happening rest ih => exact ih (he.meet happening)

/-- A whole run ends as the first happening has it that ends it at all. -/
theorem Awaits.ending_after (he : e.Awaits nonce remote) (happenings : List Happening) :
    (e.after happenings).ending =
      e.ending.or (happenings.findSome? (Happening.decides nonce)) := by
  induction happenings generalizing e with
  | nil => simp [Exchange.after]
  | cons happening rest ih =>
    have hrest : (e.after (happening :: rest)).ending =
        (e.meet happening).ending.or (rest.findSome? (Happening.decides nonce)) :=
      ih (he.meet happening)
    rw [hrest, he.ending_meet, Option.or_assoc]
    cases hdecides : happening.decides nonce <;> simp [hdecides]

end Exchange

/-- A network lets a run send to an address: it is the preferred one for the reflector's name, and a
socket of its family can be bound. -/
def Network.Admits (network : Network) (remote : Address) : Prop :=
  (∃ others, network.lookup = .found (remote :: others)) ∧
    network.refusal remote.unspecifiedFor = none

/-- A run gets an address to send to exactly if the network admits it. -/
theorem Network.remote?_eq_ok_iff (network : Network) (target : String) (remote : Address) :
    network.remote? target = .ok remote ↔ network.Admits remote := by
  obtain ⟨lookup, refusal⟩ := network
  cases lookup with
  | failed why => simp [Network.remote?, Admits]
  | late => simp [Network.remote?, Admits]
  | found addresses =>
    cases addresses with
    | nil => simp [Network.remote?, Admits]
    | cons first others =>
      cases hrefusal : refusal first.unspecifiedFor <;> simp [Network.remote?, Admits, hrefusal]
      · intro hremote
        rw [← hremote, hrefusal]
      · intro hremote
        rw [← hremote, hrefusal]
        simp

/-- A run that gets no address to send to does not find its reflector. -/
theorem Network.isReachable_of_remote? {network : Network} {target : String} {ending : Ending}
    (hremote : network.remote? target = .error ending) : ending.isReachable = false := by
  unfold Network.remote? at hremote
  repeat' split at hremote
  all_goals cases hremote
  all_goals simp [Ending.isReachable]

/-- With an address to send to, the first happening that ends the run decides what it reports. -/
theorem report?_of_admits {network : Network} {remote : Address} (hnet : network.Admits remote)
    (target : String) (nonce : UInt64) (happenings : List Happening) :
    report? target network nonce happenings =
      (happenings.findSome? (Happening.decides nonce)).map Ending.isReachable := by
  have hremote := (network.remote?_eq_ok_iff target remote).2 hnet
  have hstart : (Exchange.start nonce remote).Awaits nonce remote := Exchange.awaits_start
  have hopen : (Exchange.start nonce remote).ending = none := rfl
  simp only [report?, ending?, hremote]
  rw [hstart.ending_after, hopen, Option.none_or]

/-- Without an address to send to, every run reports that the reflector is not reachable. -/
theorem report?_of_not_admits {network : Network} (hnet : ∀ remote, ¬network.Admits remote)
    (target : String) (nonce : UInt64) (happenings : List Happening) :
    report? target network nonce happenings = some false := by
  cases hremote : network.remote? target with
  | ok remote => exact absurd ((network.remote?_eq_ok_iff target remote).1 hremote) (hnet remote)
  | error ending =>
    simp [report?, ending?, hremote, Network.isReachable_of_remote? hremote]

/-- A run ends in some way if one of its happenings ends it so and none before that ends it
otherwise. -/
theorem findSome?_decides_eq_some_iff (nonce : UInt64) (happenings : List Happening)
    (ending : Ending) :
    happenings.findSome? (Happening.decides nonce) = some ending ↔
      ∃ before last after, happenings = before ++ last :: after ∧
        last.decides nonce = some ending ∧
        ∀ happening ∈ before, ∀ other, happening.decides nonce = some other → other = ending := by
  constructor
  · intro hends
    obtain ⟨before, last, after, hsplit, hlast, hbefore⟩ := List.findSome?_eq_some_iff.1 hends
    refine ⟨before, last, after, hsplit, hlast, fun happening hmem other hother => ?_⟩
    rw [hbefore happening hmem] at hother
    cases hother
  · rintro ⟨before, last, after, rfl, hlast, hbefore⟩
    rw [List.findSome?_append, List.findSome?_cons_of_isSome (by simp [hlast]), hlast]
    cases hfirst : before.findSome? (Happening.decides nonce) with
    | none => rfl
    | some other =>
      obtain ⟨happening, hmem, hother⟩ := List.exists_of_findSome?_eq_some hfirst
      rw [hbefore happening hmem other hother, Option.some_or]

/-- The packet ends a run if it comes in before the time is up. -/
theorem ends_reflected_iff (nonce : UInt64) (happenings : List Happening) :
    happenings.findSome? (Happening.decides nonce) = some .reflected ↔
      ∃ before source after,
        happenings = before ++ .datagram (packet nonce) source :: after ∧ .timeUp ∉ before := by
  rw [findSome?_decides_eq_some_iff]
  constructor
  · rintro ⟨before, last, after, rfl, hlast, hbefore⟩
    obtain ⟨source, rfl⟩ := (Happening.decides_eq_reflected_iff nonce last).1 hlast
    refine ⟨before, source, after, rfl, fun htime => ?_⟩
    cases hbefore .timeUp htime .late rfl
  · rintro ⟨before, source, after, rfl, htime⟩
    have hlast := (Happening.decides_eq_reflected_iff nonce _).2 ⟨source, rfl⟩
    refine ⟨before, _, after, rfl, hlast, fun happening hmem other hother => ?_⟩
    by_cases hreflected : other = .reflected
    · exact hreflected
    · obtain ⟨rfl, -⟩ := (Happening.decides_eq_some_iff_of_ne nonce happening hreflected).1 hother
      exact absurd hmem htime

/-- The end of its time ends a run if the packet has not come in before. -/
theorem ends_late_iff (nonce : UInt64) (happenings : List Happening) :
    happenings.findSome? (Happening.decides nonce) = some .late ↔
      ∃ before after, happenings = before ++ .timeUp :: after ∧
        ∀ source, .datagram (packet nonce) source ∉ before := by
  rw [findSome?_decides_eq_some_iff]
  constructor
  · rintro ⟨before, last, after, rfl, hlast, hbefore⟩
    obtain ⟨rfl, -⟩ := (Happening.decides_eq_some_iff_of_ne nonce last (by simp)).1 hlast
    refine ⟨before, after, rfl, fun source hmem => ?_⟩
    have hpacket := (Happening.decides_eq_reflected_iff nonce _).2 ⟨source, rfl⟩
    cases hbefore _ hmem _ hpacket
  · rintro ⟨before, after, rfl, hpacket⟩
    refine ⟨before, .timeUp, after, rfl, rfl, fun happening hmem other hother => ?_⟩
    by_cases hreflected : other = .reflected
    · rw [hreflected, Happening.decides_eq_reflected_iff] at hother
      obtain ⟨source, rfl⟩ := hother
      exact absurd hmem (hpacket source)
    · exact ((Happening.decides_eq_some_iff_of_ne nonce happening hreflected).1 hother).2

/-- A run that has a socket ends in one of two ways. -/
theorem findSome?_decides_ne_failed (nonce : UInt64) (happenings : List Happening) (why : String) :
    happenings.findSome? (Happening.decides nonce) ≠ some (.failed why) := by
  intro hends
  obtain ⟨happening, -, hfailed⟩ := List.exists_of_findSome?_eq_some hends
  cases ((Happening.decides_eq_some_iff_of_ne nonce happening (by simp)).1 hfailed).2

/-- With an address to send to, a run reports that the reflector is reachable exactly if the packet
ends it. -/
theorem report?_eq_true_iff {network : Network} {remote : Address} (hnet : network.Admits remote)
    (target : String) (nonce : UInt64) (happenings : List Happening) :
    report? target network nonce happenings = some true ↔
      happenings.findSome? (Happening.decides nonce) = some .reflected := by
  rw [report?_of_admits hnet]
  cases happenings.findSome? (Happening.decides nonce) with
  | none => simp
  | some ending => cases ending <;> simp [Ending.isReachable]

/-- With an address to send to, a run reports that the reflector is not reachable exactly if the end
of its time ends it. -/
theorem report?_eq_false_iff {network : Network} {remote : Address} (hnet : network.Admits remote)
    (target : String) (nonce : UInt64) (happenings : List Happening) :
    report? target network nonce happenings = some false ↔
      happenings.findSome? (Happening.decides nonce) = some .late := by
  rw [report?_of_admits hnet]
  cases hends : happenings.findSome? (Happening.decides nonce) with
  | none => simp
  | some ending =>
    cases ending with
    | reflected => simp [Ending.isReachable]
    | late => simp [Ending.isReachable]
    | failed why => exact absurd hends (findSome?_decides_ne_failed nonce happenings why)

/-- What comes before a run is ended makes no difference to what it reports. -/
theorem report?_append {network : Network} {remote : Address} (hnet : network.Admits remote)
    (target : String) (nonce : UInt64) {before : List Happening}
    (hbefore : ∀ happening ∈ before, happening.decides nonce = none) (rest : List Happening) :
    report? target network nonce (before ++ rest) = report? target network nonce rest := by
  have hnone : before.findSome? (Happening.decides nonce) = none :=
    List.findSome?_eq_none_iff.2 hbefore
  rw [report?_of_admits hnet, report?_of_admits hnet, List.findSome?_append, hnone,
    Option.none_or]

/-- A probe reports that its reflector is reachable if and only if the packet comes back in time.
With an address to send to, in whatever order sending, failures and datagrams come: the report is
favourable exactly if some datagram before the end of the time has the packet for its first 64
bytes, which is to say that it is the packet, eight bytes that spell the nonce; it is unfavourable
exactly if the time is up before that; nothing else ends the run or makes a difference, and nothing
but the packet is ever sent. Without an address to send to the report is unfavourable. -/
theorem reachable_iff_packet_in_time (target : String) (network : Network) (nonce : UInt64) :
    (∀ remote, network.Admits remote →
      (∀ happenings,
        (report? target network nonce happenings = some true ↔
          ∃ before data source after, happenings = before ++ .datagram data source :: after ∧
            data.take 64 = packet nonce ∧ .timeUp ∉ before) ∧
        (report? target network nonce happenings = some false ↔
          ∃ before after, happenings = before ++ .timeUp :: after ∧
            ∀ source data, data.take 64 = packet nonce → .datagram data source ∉ before) ∧
        ∀ message ∈ ((Exchange.start nonce remote).after happenings).sent,
          message = (packet nonce, remote)) ∧
      ∀ before, .timeUp ∉ before →
        (∀ source data, data.take 64 = packet nonce → .datagram data source ∉ before) →
        report? target network nonce before = none ∧
          ∀ rest, report? target network nonce (before ++ rest) =
            report? target network nonce rest) ∧
    ((∀ remote, ¬network.Admits remote) →
      ∀ happenings, report? target network nonce happenings = some false) ∧
    (packet nonce).length = 8 ∧ bigEndian (packet nonce) = nonce.toNat ∧
    ∀ data : Bytes, data.take 64 = packet nonce ↔ data = packet nonce := by
  have hread : ∀ data : Bytes, data.take 64 = packet nonce ↔ data = packet nonce :=
    take_bufferSize_eq_packet_iff nonce
  simp only [hread, forall_eq]
  refine ⟨fun remote hnet => ⟨fun happenings => ⟨?_, ?_, ?_⟩, fun before htime hpacket => ?_⟩,
    fun hnet => report?_of_not_admits hnet target nonce, length_packet nonce,
    bigEndian_packet nonce, fun data => trivial⟩
  · rw [report?_eq_true_iff hnet, ends_reflected_iff]
    constructor
    · rintro ⟨before, source, after, hsplit, htime⟩
      exact ⟨before, _, source, after, hsplit, rfl, htime⟩
    · rintro ⟨before, data, source, after, hsplit, rfl, htime⟩
      exact ⟨before, source, after, hsplit, htime⟩
  · rw [report?_eq_false_iff hnet, ends_late_iff]
  · exact (Exchange.awaits_start.after happenings).sent_eq
  · have hbefore : ∀ happening ∈ before, happening.decides nonce = none := by
      intro happening hmem
      refine Happening.decides_eq_none nonce (fun h => ?_) fun source h => ?_
      · exact htime (h ▸ hmem)
      · exact hpacket source (h ▸ hmem)
    refine ⟨?_, report?_append hnet target nonce hbefore⟩
    have hnone := report?_append hnet target nonce hbefore []
    rw [List.append_nil] at hnone
    rw [hnone, report?_of_admits hnet, List.findSome?_nil, Option.map_none]

/-- A network with sockets of version four only, on which the reflector has an address of either
version. -/
def fourOnly : Network where
  lookup := .found ["192.0.2.1:5000", "[2001:db8::1]:5000"]
  refusal := fun address => if address = "[::]:0" then some "not supported" else none

/-- Failures, and datagrams that come close to the packet of the nonce 0x0102030405060708: cut
short, empty, lengthened, changed, and too long for the buffer. -/
def nearMisses : List Happening :=
  [.resend (some "network unreachable"), .datagram [1, 2, 3, 4, 5, 6, 7] "192.0.2.1:5000",
    .datagram [] "192.0.2.1:5000", .datagram [1, 2, 3, 4, 5, 6, 7, 8, 0] "192.0.2.1:5000",
    .receiveFailed "connection refused", .datagram [1, 2, 3, 4, 5, 6, 7, 9] "192.0.2.1:5000",
    .resend none, .datagram ([1, 2, 3, 4, 5, 6, 7, 8] ++ List.replicate 92 0) "192.0.2.1:5000",
    .datagram (List.replicate 64 0 ++ [1, 2, 3, 4, 5, 6, 7, 8]) "192.0.2.1:5000"]

/-- Near misses neither end a run nor change what it reports: the packet does, be it from a
stranger, if the time is not up. -/
theorem near_misses_are_ignored :
    fourOnly.Admits "192.0.2.1:5000" ∧ .timeUp ∉ nearMisses ∧
      report? "reflector.example:5000" fourOnly 0x0102030405060708 nearMisses = none ∧
      report? "reflector.example:5000" fourOnly 0x0102030405060708
        (nearMisses ++ [.datagram [1, 2, 3, 4, 5, 6, 7, 8] "198.51.100.7:9", .timeUp]) =
          some true ∧
      report? "reflector.example:5000" fourOnly 0x0102030405060708
        (nearMisses ++ [.timeUp, .datagram [1, 2, 3, 4, 5, 6, 7, 8] "192.0.2.1:5000"]) =
          some false := by
  have hnet : fourOnly.Admits "192.0.2.1:5000" := ⟨⟨_, rfl⟩, by decide⟩
  have htime : .timeUp ∉ nearMisses := by decide
  obtain ⟨hruns, -, -, -, hread⟩ :=
    reachable_iff_packet_in_time "reflector.example:5000" fourOnly 0x0102030405060708
  obtain ⟨hreports, hignored⟩ := hruns _ hnet
  have hmissed : ∀ source data, data.take 64 = packet 0x0102030405060708 →
      .datagram data source ∉ nearMisses := by
    intro source data hdata hmem
    have hnone : ∀ happening ∈ nearMisses,
        Happening.decides 0x0102030405060708 happening = none := by decide
    have hnot := hnone _ hmem
    simp [Happening.decides, (hread data).1 hdata] at hnot
  refine ⟨hnet, htime, (hignored nearMisses htime hmissed).1, ?_, ?_⟩
  · exact (hreports _).1.2 ⟨nearMisses, _, _, _, rfl, by decide, htime⟩
  · exact (hreports _).2.1.2 ⟨nearMisses, _, rfl, hmissed⟩

end SipOverRelay.Probe
