import SipOverRelay.Proofs.Interleaving
import SipOverRelay.Proofs.Signaling

/-!
# What passes through the hook

The signaling engine may keep the hook for as long as it likes and use it at any time: before the
tunnel is ready, in the midst of a tick, after it was turned off or dropped. What the hook reaches
is what the tunnel signals through at that time. This is the one stream that is open, if any, as
the calls made so far tell: the first stream of the relay that is held. So no datagram ever passes
over a stream that has been closed, and each passes once. Since relays are alive one after the
other, and nothing is said to one before it is created, streams are open one after the other at
every moment between two calls.
-/

namespace SipOverRelay

namespace Call

/-- The stream that a datagram passes over. -/
def carrier? : Call → Option StreamId
  | .send stream _ _ | .receive stream _ => some stream
  | _ => none

/-- Whether a relay opens a stream. -/
def opens (relay : RelayId) : Call → Bool
  | .openStream opener _ => opener = relay
  | _ => false

/-- Only calls about traffic carry datagrams. -/
theorem carrier?_of_aspect {call : Call} (h : call.aspect ≠ .traffic) : call.carrier? = none := by
  cases call <;> first | rfl | exact absurd rfl h

/-- Opening a stream is a milestone of the relay that opens it. -/
theorem eq_of_opens {relay : RelayId} {call : Call} (h : call.opens relay = true) :
    ∃ port, call = .openStream relay port := by
  cases call <;> simp [opens] at h
  exact ⟨_, by rw [h]⟩

end Call

/-- A stream is open after some calls. -/
structure IsOpen (calls : List Call) (stream : StreamId) : Prop where
  /-- Its relay has opened one stream. -/
  opened : calls.countP (Call.opens stream.relay) = 1
  /-- It is that one. -/
  first : stream.index = 0
  /-- It has not been closed. -/
  unclosed : ∀ relay, .closeStream relay stream ∉ calls
  /-- Its relay has not been ended. -/
  unended : .destroyRelay stream.relay ∉ calls

/-- Every datagram passed over a stream that was open then; the calls are given newest first. -/
def Attended (calls : List Call) : Prop :=
  ∀ call past stream, call :: past <:+ calls → call.carrier? = some stream → IsOpen past stream

namespace Attended

variable {calls more : List Call}

theorem nil : Attended [] := by
  intro call past stream hs _
  exact absurd (List.suffix_nil.mp hs) (List.cons_ne_nil _ _)

/-- Calls that carry no datagram may be made at any time. -/
theorem quiet (h : Attended calls) (hm : ∀ call ∈ more, call.carrier? = none) :
    Attended (more ++ calls) := by
  intro call past stream hs hc
  have hnot : call ∉ more := by
    intro hmem
    rw [hm call hmem] at hc
    cases hc
  exact h call past stream (suffix_of_not_mem hs hnot) hc

/-- A datagram may pass over a stream that is open. -/
theorem carry (h : Attended calls) {call : Call} {stream : StreamId}
    (hc : call.carrier? = some stream) (ho : IsOpen calls stream) : Attended (call :: calls) := by
  intro other past carrier hs hcarrier
  rcases List.suffix_cons_iff.mp hs with he | hs
  · obtain ⟨rfl, rfl⟩ := List.cons.inj he
    rw [hc] at hcarrier
    rw [← Option.some.inj hcarrier]
    exact ho
  · exact h other past carrier hs hcarrier

end Attended

/-! ### Nothing is said to a relay before it is created -/

/-- At no time has anything been said to a relay that was not created; the calls are given oldest
first. -/
def Born (calls : List Call) : Prop :=
  ∀ past, past <+: calls → ∀ call ∈ past, ∀ relay, call.relay? = some relay → relay < created past

namespace Born

variable {calls more : List Call}

theorem empty : Born [] := by
  intro past hp call hm
  rw [List.prefix_nil.mp hp] at hm
  exact absurd hm List.not_mem_nil

/-- Whoever is spoken to has been created. -/
theorem lt_created (h : Born calls) {call : Call} {relay : RelayId} (hm : call ∈ calls)
    (hr : call.relay? = some relay) : relay < created calls :=
  h calls List.prefix_rfl call hm relay hr

/-- Those who have been created may be spoken to. -/
theorem append (h : Born calls)
    (hm : ∀ call ∈ more, ∀ relay, call.relay? = some relay → relay < created calls) :
    Born (calls ++ more) := by
  intro past hp call hc relay hr
  rcases prefix_append_cases hp with hp | ⟨later, hl, rfl⟩
  · exact h past hp call hc relay hr
  · have hlt : relay < created calls := by
      rcases List.mem_append.mp hc with hc | hc
      · exact h.lt_created hc hr
      · exact hm call (hl.subset hc) relay hr
    rw [created_append]
    exact Nat.lt_of_lt_of_le hlt (Nat.le_add_right _ _)

/-- So it was at every earlier moment. -/
theorem of_prefix (h : Born calls) {past : List Call} (hp : past <+: calls) : Born past :=
  fun told ht => h told (ht.trans hp)

end Born

/-- The relay of a stream that is open is alive. -/
theorem IsOpen.alive {calls : List Call} {stream : StreamId} (h : IsOpen calls stream)
    (hb : Born (calls.filter Call.concernsRelay).reverse) :
    Alive (calls.filter Call.concernsRelay).reverse stream.relay := by
  have hpos : 0 < calls.countP (Call.opens stream.relay) := by
    rw [h.opened]
    exact Nat.one_pos
  obtain ⟨call, hm, hopens⟩ := List.countP_pos_iff.mp hpos
  obtain ⟨port, rfl⟩ := Call.eq_of_opens hopens
  constructor
  · exact hb.lt_created (List.mem_reverse.mpr (List.mem_filter.mpr ⟨hm, rfl⟩)) rfl
  · intro hd
    exact h.unended (List.mem_filter.mp (List.mem_reverse.mp hd)).1

/-- At no moment were two streams open; the calls are given newest first. -/
def OpenInTurn (calls : List Call) : Prop :=
  ∀ past, past <:+ calls → ∀ stream other, IsOpen past stream → IsOpen past other → stream = other

variable {σ : Type}

namespace World

variable {w v : World σ} {relay : RelayId}

/-- Streams are open one after the other, since relays are alive one after the other. -/
theorem openInTurn (hb : Born w.relayCalls) (ht : InTurn w.relayCalls) : OpenInTurn w.calls := by
  intro past hp stream other hs ho
  have hpast : (past.filter Call.concernsRelay).reverse <+: w.relayCalls :=
    List.reverse_prefix.mpr (hp.filter _)
  have hborn : Born (past.filter Call.concernsRelay).reverse := hb.of_prefix hpast
  have hrelay : stream.relay = other.relay := ht _ hpast _ _ (hs.alive hborn) (ho.alive hborn)
  have hindex : stream.index = other.index := hs.first.trans ho.first.symm
  cases stream
  cases other
  cases hrelay
  cases hindex
  rfl

/-- What was said to a relay concerns relays. -/
theorem mem_relayCalls {call : Call} (hr : call.relay? = some relay) :
    call ∈ w.relayCalls ↔ call ∈ w.calls := by
  simp [relayCalls, Call.concernsRelay_of_relay hr]

/-- A milestone in the life of a relay is found among all calls. -/
theorem mem_milestones {call : Call} (hr : call.relay? = some relay)
    (hm : call.isMilestone = true) :
    call ∈ (w.biography relay).filter Call.isMilestone ↔ call ∈ w.calls := by
  rw [List.mem_filter, biography, List.mem_filter, mem_relayCalls hr]
  simp [hr, hm]

/-- How often a relay opened a stream can be told from the milestones of its life. -/
theorem countP_opens (w : World σ) (relay : RelayId) :
    w.calls.countP (Call.opens relay) =
      ((w.biography relay).filter Call.isMilestone).countP (Call.opens relay) := by
  -- The biography is what three filters leave of the calls; a call that opens passes all of them.
  have hsame (call : Call) : call.opens relay = true ↔
      (((call.opens relay && call.isMilestone) && decide (call.relay? = some relay)) &&
        call.concernsRelay) = true := by
    constructor
    · intro h
      obtain ⟨port, rfl⟩ := Call.eq_of_opens h
      simp [Call.opens, Call.isMilestone, Call.relay?, Call.concernsRelay]
    · intro h
      simp only [Bool.and_eq_true] at h
      exact h.1.1.1
  rw [biography, relayCalls, List.countP_filter, List.countP_filter, List.countP_reverse,
    List.countP_filter]
  exact List.countP_congr fun call _ => hsame call

end World

namespace Station

variable {legs : List (Leg σ)} {s t : Station σ} {w : World σ} {relay : RelayId}
  {opened finished : Bool} {stream : StreamId} {found : EngineSettings}

namespace Lived

/-- A relay opened one stream in its life, or none. -/
theorem countP_opens (h : Lived legs relay opened finished (w.biography relay)) :
    w.calls.countP (Call.opens relay) = if opened then 1 else 0 := by
  obtain ⟨port, hp⟩ := h.milestones
  rw [World.countP_opens, hp]
  cases opened <;> cases finished <;> simp [Call.opens, ending, firstStream]

/-- A stream is closed through the relay that opened it, and only when its life ends. -/
theorem of_closed (h : Lived legs relay opened finished (w.biography relay))
    (hc : .closeStream relay stream ∈ w.calls) : finished = true ∧ stream.relay = relay := by
  obtain ⟨port, hp⟩ := h.milestones
  have hm : .closeStream relay stream ∈ (w.biography relay).filter Call.isMilestone :=
    (World.mem_milestones rfl rfl).mpr hc
  rw [hp] at hm
  cases opened <;> cases finished <;> simp [ending, firstStream] at hm
  rw [hm]
  exact ⟨rfl, rfl⟩

end Lived

/-- A leg says nothing to a relay that has not been created. -/
theorem Orderly.born (h : Orderly found legs s) (hb : Born s.world.relayCalls) (ht : s.Tends t) :
    Born t.world.relayCalls := by
  cases ht with
  | uses told calls everyday =>
    rw [calls]
    refine hb.append fun call hm relay hr => h.lt_of_held ?_
    rw [← (everyday call hm).2, hr]
  | raises opened free calls =>
    have hnew : Born (s.world.relayCalls ++ [.createRelay]) := by
      refine hb.append fun call hm relay hr => ?_
      rw [List.mem_singleton.mp hm] at hr
      cases hr
    rw [h.booked.length_relays] at calls
    rw [calls, List.append_cons]
    refine hnew.append fun call hm relay hr => ?_
    rw [relay_of_mem_upbringing hm] at hr
    cases hr
    rw [created_append]
    exact Nat.lt_succ_self _
  | ends relay held calls =>
    rw [calls]
    refine hb.append fun call hm other hr => ?_
    rw [relay_of_mem_ending hm] at hr
    cases hr
    exact h.lt_of_held held

/-- When the tunnel is dropped nothing is said to a relay that has not been created. -/
theorem Orderly.born_drop [Surroundings σ] (h : Orderly found legs s)
    (hb : Born s.world.relayCalls) : Born s.drop.relayCalls := by
  rw [relayCalls_drop]
  refine hb.append fun call hm other hr => ?_
  cases held : s.tunnel.relay with
  | none =>
    rw [held] at hm
    cases hm
  | some relay =>
    rw [held] at hm
    rw [relay_of_mem_ending hm] at hr
    cases hr
    exact h.lt_of_held held

/-- Once all relays have come to their end no stream is open any more. -/
theorem Concluded.not_isOpen (h : Concluded legs w) (hb : Born w.relayCalls) (stream : StreamId) :
    ¬ IsOpen w.calls stream :=
  fun ho => h.gone stream.relay (ho.alive hb)

/-- The stream that the held relay opened is open. -/
theorem Orderly.isOpen_of_signaling (h : Orderly found legs s) (hb : Born s.world.relayCalls)
    (hs : s.tunnel.signaling = some stream) :
    s.tunnel.relay = some stream.relay ∧ IsOpen s.world.calls stream := by
  cases held : s.tunnel.relay with
  | none =>
    rw [h.poised.slot held] at hs
    cases hs
  | some relay =>
    obtain ⟨opened, hl, hfirst⟩ := h.lived relay (h.lt_of_held held)
    have hstream : firstStream relay opened = some stream := (hfirst held).symm.trans hs
    cases opened with
    | false => cases hstream
    | true =>
      have he : stream = ⟨relay, 0⟩ := (Option.some.inj hstream).symm
      subst he
      refine ⟨rfl, hl.countP_opens, rfl, fun other hc => ?_, fun hd => ?_⟩
      -- Only the relay itself could have closed it, and that only at the end of its life.
      · have hlt : other < created s.world.relayCalls :=
          hb.lt_created ((World.mem_relayCalls rfl).mpr hc) rfl
        obtain ⟨_, hother, _⟩ := h.lived other hlt
        obtain ⟨hover, hsame⟩ := hother.of_closed hc
        have hnot : s.tunnel.relay ≠ some other := of_decide_eq_true hover
        rw [← hsame] at hnot
        exact hnot held
      · exact ((h.held relay).mpr held).2 ((World.mem_relayCalls rfl).mpr hd)

/-- A stream that is open is the one that the tunnel signals through. -/
theorem Orderly.signaling_of_isOpen (h : Orderly found legs s) (hb : Born s.world.relayCalls)
    (ho : IsOpen s.world.calls stream) : s.tunnel.signaling = some stream := by
  have halive : Alive s.world.relayCalls stream.relay := ho.alive hb
  have held : s.tunnel.relay = some stream.relay := (h.held stream.relay).mp halive
  obtain ⟨opened, hl, hfirst⟩ := h.lived stream.relay halive.1
  have hcount := hl.countP_opens
  rw [ho.opened] at hcount
  cases opened with
  | false => cases hcount
  | true =>
    rw [hfirst held, firstStream, if_pos rfl, ← ho.first]

/-- The tunnel signals through the stream that is open, and there is no other one. -/
theorem Orderly.signaling_iff (h : Orderly found legs s) (hb : Born s.world.relayCalls)
    (stream : StreamId) :
    s.tunnel.signaling = some stream ↔ IsOpen s.world.calls stream :=
  ⟨fun hs => (h.isOpen_of_signaling hb hs).2, h.signaling_of_isOpen hb⟩

end Station

/-! ### What the hook does -/

namespace World

/-- The datagrams that passed over streams, newest first. -/
def transfers (w : World σ) : List Call := w.calls.filter (·.carrier?.isSome)

/-- Calls that carry no datagram leave the datagrams as they are. -/
theorem transfers_of_quiet {w v : World σ} {more : List Call} (h : v.calls = more ++ w.calls)
    (hm : ∀ call ∈ more, call.carrier? = none) : v.transfers = w.transfers := by
  have hnone : more.filter (·.carrier?.isSome) = [] :=
    List.filter_eq_nil_iff.mpr fun call hc => by simp [hm call hc]
  rw [transfers, h, List.filter_append, hnone, List.nil_append, transfers]

/-- What is no traffic carries no datagram. -/
theorem Unfolds.quiet [Surroundings σ] {aspects : List Aspect} {w v : World σ}
    (h : w.Unfolds aspects v) (ht : .traffic ∉ aspects) :
    ∃ more : List Call, v.calls = more ++ w.calls ∧ ∀ call ∈ more, call.carrier? = none := by
  obtain ⟨more, hcalls, haspect⟩ := h.calls_append
  refine ⟨more, hcalls, fun call hm => Call.carrier?_of_aspect fun he => ?_⟩
  exact ht (he ▸ haspect call hm)

end World

namespace Progress

/-- The call that passes a datagram on when the hook is used, if there is a stream to pass it on
to. -/
def passes (p : Progress σ) : Occurrence σ → Option Call
  | .happens (.send data dest) => p.station.tunnel.signaling.map (Call.send · data dest)
  | .happens (.receive size) => p.station.tunnel.signaling.map (Call.receive · size)
  | _ => none

/-- A datagram is passed on over the stream that the tunnel signals through. -/
theorem carrier_of_passes {p : Progress σ} {occurrence : Occurrence σ} {call : Call}
    (h : p.passes occurrence = some call) :
    ∃ stream, p.station.tunnel.signaling = some stream ∧ call.carrier? = some stream := by
  unfold passes at h
  split at h
  · obtain ⟨stream, hs, rfl⟩ := Option.map_eq_some_iff.mp h
    exact ⟨stream, hs, rfl⟩
  · obtain ⟨stream, hs, rfl⟩ := Option.map_eq_some_iff.mp h
    exact ⟨stream, hs, rfl⟩
  · cases h

end Progress

variable [Surroundings σ]

namespace Hook

variable (w : World σ) (signaling : Option StreamId)

/-- What counts as sent is what the stream answers; without an answer it is all. -/
theorem fst_send (data : Bytes) (dest : Address) :
    (Hook.send w signaling data dest).1 =
      (signaling.bind fun stream =>
        (Surroundings.sendAnswer w.scene stream data dest).toOption).getD data.length := by
  unfold Hook.send World.sendOn
  cases signaling with
  | none => rfl
  | some stream =>
    dsimp only [Option.bind_some]
    cases Surroundings.sendAnswer w.scene stream data dest <;> rfl

/-- What is received is what the stream answers; without an answer it is nothing. -/
theorem fst_receive (size : Nat) :
    (Hook.receive w signaling size).1 =
      (signaling.bind fun stream =>
        (Surroundings.receiveAnswer w.scene stream size).toOption).getD none := by
  unfold Hook.receive World.receiveOn
  cases signaling with
  | none => rfl
  | some stream =>
    dsimp only [Option.bind_some]
    cases Surroundings.receiveAnswer w.scene stream size <;> rfl

/-- Receiving through the hook comes down to one call to the signaling stream, if there is one. -/
theorem calls_receive (size : Nat) :
    (Hook.receive w signaling size).2.calls =
      (signaling.map (Call.receive · size)).toList ++ w.calls := by
  unfold Hook.receive World.receiveOn
  cases signaling with
  | none => rfl
  | some stream =>
    have hs : (w.perform (.receive stream size)).calls = .receive stream size :: w.calls :=
      w.calls_perform _
    dsimp only
    cases Surroundings.receiveAnswer w.scene stream size with
    | error why => exact hs
    | ok datagram => exact hs

end Hook

/-! ### Along the run -/

namespace Progress

/-- The calls that pass datagrams on, oldest first. -/
def passed (p : Progress σ) : List (Occurrence σ) → List Call
  | [] => []
  | occurrence :: occurrences =>
    (p.passes occurrence).toList ++ (p.meet occurrence).passed occurrences

/-- An occurrence passes its datagram on, if the hook is used, or makes calls that carry none. -/
theorem calls_meet (p : Progress σ) (occurrence : Occurrence σ) :
    (p.meet occurrence).station.world.calls =
        (p.passes occurrence).toList ++ p.station.world.calls ∨
      p.passes occurrence = none ∧ ∃ more : List Call,
        (p.meet occurrence).station.world.calls = more ++ p.station.world.calls ∧
          ∀ call ∈ more, call.carrier? = none := by
  cases occurrence with
  | happens happening =>
    cases happening with
    | operate operation =>
      simp only [meet]
      split
      · split
        · exact .inl rfl
        · next ho => exact .inr ⟨rfl, (p.station.unfolds_operate ho).quiet (by decide)⟩
      · exact .inl rfl
    | post event => exact .inl rfl
    | report report => exact .inl (p.station.world.calls_deliver report)
    | stir change => exact .inl rfl
    | send data dest => exact .inl (Hook.calls_send _ _ _ _)
    | receive size => exact .inl (Hook.calls_receive _ _ _)
  | handles =>
    simp only [meet]
    split
    · exact .inl rfl
    · next posted batch _ =>
      exact .inr ⟨rfl, (p.station.unfolds_handle posted).quiet (by decide)⟩
  | drains => exact .inl rfl

/-- An occurrence passes on its own datagram and no other one. -/
theorem transfers_meet (p : Progress σ) (occurrence : Occurrence σ) :
    (p.meet occurrence).station.world.transfers =
      (p.passes occurrence).toList ++ p.station.world.transfers := by
  rcases p.calls_meet occurrence with hcalls | ⟨hnone, more, hcalls, hquiet⟩
  · have hown : (p.passes occurrence).toList.filter (·.carrier?.isSome) =
        (p.passes occurrence).toList := by
      refine List.filter_eq_self.mpr fun call hm => ?_
      obtain ⟨stream, _, hc⟩ := carrier_of_passes (Option.mem_toList.mp hm)
      rw [hc]
      rfl
    rw [World.transfers, hcalls, List.filter_append, hown, World.transfers]
  · rw [hnone]
    exact World.transfers_of_quiet hcalls hquiet

/-- All datagrams are passed on once, in the order in which the hook is used. -/
theorem transfers_after (p : Progress σ) (occurrences : List (Occurrence σ)) :
    (p.after occurrences).station.world.transfers =
      (p.passed occurrences).reverse ++ p.station.world.transfers := by
  induction occurrences generalizing p with
  | nil => rfl
  | cons occurrence occurrences ih =>
    have hlater := ih (p.meet occurrence)
    rw [transfers_meet] at hlater
    have hone : (p.passes occurrence).toList.reverse = (p.passes occurrence).toList := by
      cases p.passes occurrence <;> rfl
    rw [passed, List.reverse_append, hone, List.append_assoc]
    exact hlater

/-- The relays of a run in progress are in order, and every datagram passed over a stream that was
open. -/
structure Serving (found : EngineSettings) (p : Progress σ) : Prop where
  /-- The relays are in order. -/
  orderly : ∃ legs, Station.Orderly found legs p.station
  /-- Nothing was said to a relay before it was created. -/
  born : Born p.station.world.relayCalls
  /-- Every datagram passed over a stream that was open. -/
  attended : Attended p.station.world.calls

namespace Serving

variable {found : EngineSettings} {p : Progress σ}

/-- The hook serves on, whatever comes next. -/
theorem meet (h : Serving found p) (occurrence : Occurrence σ) :
    Serving found (p.meet occurrence) := by
  obtain ⟨legs, horderly⟩ := h.orderly
  constructor
  · rcases (p.advances_meet occurrence).leadsTo with hs | hl
    · rw [hs]
      exact ⟨legs, horderly⟩
    · exact ⟨_, horderly.step hl⟩
  · rcases (p.advances_meet occurrence).leadsTo with hs | hl
    · rw [hs]
      exact h.born
    · exact horderly.born h.born (horderly.poised.tends hl)
  · rcases p.calls_meet occurrence with hcalls | ⟨_, more, hcalls, hquiet⟩
    · rw [hcalls]
      cases hp : p.passes occurrence with
      | none => exact h.attended
      | some call =>
        obtain ⟨stream, hs, hc⟩ := carrier_of_passes hp
        exact h.attended.carry hc (horderly.isOpen_of_signaling h.born hs).2
    · rw [hcalls]
      exact h.attended.quiet hquiet

theorem fresh (tuning : Tuning) (scene : σ) (found : EngineSettings) :
    Serving found (Progress.fresh tuning scene found) where
  orderly := ⟨[], Station.orderly_fresh tuning scene found⟩
  born := .empty
  attended := .nil

end Serving

end Progress

/-! ### After the tunnel was dropped -/

namespace Station

/-- A dropped tunnel leaves the hook no stream. -/
theorem Poised.signaling_ended {s : Station σ} (h : s.Poised) :
    s.ended.tunnel.signaling = none := by
  have ha : s.abandon.Poised := (Leaves.abandon s).poised h
  unfold ended
  split
  · exact s.abandon.signaling_stopRelay ha.slot
  · next hnone => exact ha.slot (Option.not_isSome_iff_eq_none.mp hnone)

end Station

namespace Progress

/-- Whenever the engine uses the hook, in the midst of a tick or between two, before the tunnel is
ready or long after it was turned off: what the hook reaches is the one stream that is open, which
the held relay opened, or nothing. What it does comes down to one call to that stream, whose answer
it gives; without a stream or an answer all counts as sent and nothing is received. So all datagrams
are passed on once and in order, each over a stream that was open then; and at no moment, in the
midst of a request either, there is more than one such stream. When the tunnel is dropped no stream
is left open, and the hook does nothing any more, in whatever world. -/
theorem hook_reaches_only_the_open_stream (tuning : Tuning) (scene : σ) (found : EngineSettings)
    (occurrences : List (Occurrence σ)) :
    let start := fresh tuning scene found
    let s := (start.after occurrences).station
    (∀ stream, s.tunnel.signaling = some stream ↔ IsOpen s.world.calls stream) ∧
      (∀ stream, s.tunnel.signaling = some stream → s.tunnel.relay = some stream.relay) ∧
      (∀ data dest,
        (Hook.send s.world s.tunnel.signaling data dest).1 =
            (s.tunnel.signaling.bind fun stream =>
              (Surroundings.sendAnswer s.world.scene stream data dest).toOption).getD data.length ∧
          (Hook.send s.world s.tunnel.signaling data dest).2.calls =
            (s.tunnel.signaling.map (Call.send · data dest)).toList ++ s.world.calls) ∧
      (∀ size,
        (Hook.receive s.world s.tunnel.signaling size).1 =
            (s.tunnel.signaling.bind fun stream =>
              (Surroundings.receiveAnswer s.world.scene stream size).toOption).getD none ∧
          (Hook.receive s.world s.tunnel.signaling size).2.calls =
            (s.tunnel.signaling.map (Call.receive · size)).toList ++ s.world.calls) ∧
      s.world.transfers = (start.passed occurrences).reverse ∧
      s.drop.transfers = s.world.transfers ∧ Attended s.drop.calls ∧ OpenInTurn s.drop.calls ∧
      s.world.calls <:+ s.drop.calls ∧ (∀ stream, ¬ IsOpen s.drop.calls stream) ∧
      ∀ (w : World σ) (data : Bytes) (dest : Address) (size : Nat),
        Hook.send w s.ended.tunnel.signaling data dest = (data.length, w) ∧
          Hook.receive w s.ended.tunnel.signaling size = (none, w) := by
  intro start s
  have hstart : Serving found start := .fresh tuning scene found
  have hserving : Serving found (start.after occurrences) :=
    after_induction (fun _ occurrence h => h.meet occurrence) hstart occurrences
  obtain ⟨legs, horderly⟩ := hserving.orderly
  have hborn : Born s.world.relayCalls := hserving.born
  have htransfers : s.world.transfers = (start.passed occurrences).reverse :=
    (start.transfers_after occurrences).trans (List.append_nil _)
  -- Dropping the tunnel carries no datagram, so what held of the datagrams holds on.
  obtain ⟨more, hcalls, hquiet⟩ := s.unfolds_ended.quiet (by decide)
  have hdrop : s.drop.calls = more ++ s.world.calls := s.calls_drop.trans hcalls
  have hattended : Attended s.drop.calls := by
    rw [hdrop]
    exact hserving.attended.quiet hquiet
  obtain ⟨hconcluded, _⟩ := horderly.drop
  have hgone : Born s.drop.relayCalls := horderly.born_drop hborn
  have hnone : s.ended.tunnel.signaling = none := horderly.poised.signaling_ended
  refine ⟨horderly.signaling_iff hborn, fun _ hs => (horderly.isOpen_of_signaling hborn hs).1,
    fun data dest => ⟨Hook.fst_send _ _ _ _, Hook.calls_send _ _ _ _⟩,
    fun size => ⟨Hook.fst_receive _ _ _, Hook.calls_receive _ _ _⟩, htransfers,
    World.transfers_of_quiet hdrop hquiet, hattended, World.openInTurn hgone hconcluded.inTurn,
    ⟨more, hdrop.symm⟩, hconcluded.not_isOpen hgone, fun w data dest size => ?_⟩
  rw [hnone]
  exact ⟨rfl, rfl⟩

/-- The engine uses the hook before there is a stream, while the first relay's stream works and
after it has failed, while the tunnel is off, and when the second relay has opened a stream. -/
def restless : List (Occurrence Rehearsal.Stage) :=
  [.happens (.send [0] "peer"), .happens (.operate (.enable true)), .happens (.send [1] "peer"),
    .happens (.stir (·.onStream ⟨0, 0⟩ fun stream => { stream with failing := true })),
    .happens (.receive 9), .happens (.operate (.enable false)), .happens (.send [2] "peer"),
    .happens (.operate (.enable true)), .happens (.send [3] "peer")]

/-- In the end the second relay's stream is open and the first one's is not, and three of the five
uses of the hook have reached a stream. -/
theorem restless_hook_reaches_open_streams :
    let s :=
      ((fresh {} ({} : Rehearsal.Stage) ⟨⟨5060, 5060, 5061, 0⟩, .stun⟩).after restless).station
    s.tunnel.signaling = some ⟨1, 0⟩ ∧ IsOpen s.world.calls ⟨1, 0⟩ ∧
      ¬ IsOpen s.world.calls ⟨0, 0⟩ ∧
      s.world.transfers = [.send ⟨1, 0⟩ [3] "peer", .receive ⟨0, 0⟩ 9, .send ⟨0, 0⟩ [1] "peer"] ∧
      (Hook.send s.world s.tunnel.signaling [4, 5] "peer").1 = 2 ∧
      ∀ stream, ¬ IsOpen s.drop.calls stream := by
  intro s
  have hs : s.tunnel.signaling = some ⟨1, 0⟩ := by decide
  obtain ⟨hopen, _, _, _, _, _, _, _, _, hdropped, _⟩ := hook_reaches_only_the_open_stream {}
    ({} : Rehearsal.Stage) ⟨⟨5060, 5060, 5061, 0⟩, .stun⟩ restless
  refine ⟨hs, (hopen _).mp hs, fun hfirst => ?_, by decide, by decide, hdropped⟩
  have hother : s.tunnel.signaling = some ⟨0, 0⟩ := (hopen _).mpr hfirst
  rw [hs] at hother
  cases hother

end Progress

end SipOverRelay
