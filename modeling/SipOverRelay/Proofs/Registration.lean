import SipOverRelay.Proofs.Tending
import SipOverRelay.Rehearsal.Stage

/-!
# When the engine registers

The engine is asked to register again in two places only: when the link has gone ready, after
everything has been led through the relay, and when the tunnel has been turned off, after everything
has been given back. Both times this is the last call of its leg, so how things stood at the time of
the call can be read off the calls before it. The registration is taken back only when the engine
says that there is one.
-/

namespace SipOverRelay

variable {σ : Type} [Surroundings σ]

/-- A call that does not make the engine register, and takes a registration back only while the
engine says that there is one. -/
def Moment.IsDiscreet (moment : Moment σ) : Prop :=
  moment.call ≠ .resumeRegistration ∧
    (moment.call = .pauseRegistration → Surroundings.isRegistered moment.scene = true)

/-- What is done between two states of the world does not make the engine register, and takes no
registration back that is not there. -/
def World.Discreetly (w v : World σ) : Prop :=
  ∃ more, v.history = more ++ w.history ∧ ∀ moment ∈ more, moment.IsDiscreet

namespace World

variable {u v w : World σ}

namespace Discreetly

/-- Nothing is done. -/
theorem of_history (h : v.history = w.history) : w.Discreetly v :=
  ⟨[], h, fun _ hm => absurd hm List.not_mem_nil⟩

theorem refl (w : World σ) : w.Discreetly w := of_history rfl

theorem trans (h : w.Discreetly v) (k : v.Discreetly u) : w.Discreetly u := by
  obtain ⟨first, hf, hdf⟩ := h
  obtain ⟨second, hs, hds⟩ := k
  refine ⟨second ++ first, by rw [hs, hf, List.append_assoc], fun moment hm => ?_⟩
  rcases List.mem_append.mp hm with hm | hm
  · exact hds moment hm
  · exact hdf moment hm

/-- One more call is made. -/
theorem perform (h : w.Discreetly v) {call : Call} (hr : call ≠ .resumeRegistration)
    (hp : call = .pauseRegistration → Surroundings.isRegistered v.scene = true) :
    w.Discreetly (v.perform call) := by
  refine h.trans ⟨[⟨v.scene, v.reported, call⟩], v.history_perform call, fun moment hm => ?_⟩
  rw [List.mem_singleton.mp hm]
  exact ⟨hr, hp⟩

/-- One more notice is written. -/
theorem note (h : w.Discreetly v) (notice : Notice) : w.Discreetly (v.note notice) := h

/-- What is told to relays and probes and how the engines are set up has nothing to do with the
registration. -/
theorem of_unfolds {aspects : List Aspect} (h : w.Unfolds aspects v) (ha : .passing ∉ aspects) :
    w.Discreetly v := by
  induction h with
  | refl => exact refl w
  | perform _ call hc ih =>
    have hn (other : Call) (ho : other.aspect = .passing) : call ≠ other := by
      rintro rfl
      exact ha (ho ▸ hc)
    exact ih.perform (hn _ rfl) fun he => absurd he (hn _ rfl)
  | note _ notice _ ih => exact ih.note notice
  | answer _ _ _ _ ih => exact ih

/-- The calls made in between are added to those before, and none of them makes the engine
register. -/
theorem calls_eq (h : w.Discreetly v) :
    ∃ more : List Call, v.calls = more ++ w.calls ∧ .resumeRegistration ∉ more := by
  obtain ⟨more, hm, hd⟩ := h
  refine ⟨more.map Moment.call, by rw [World.calls, hm, List.map_append, World.calls], fun hr => ?_⟩
  obtain ⟨moment, hmem, he⟩ := List.mem_map.mp hr
  exact (hd moment hmem).1 he

end Discreetly

end World

namespace Station

open World (Discreetly)

variable {s t u : Station σ}

theorem discreetly_pollDeregistration (s : Station σ) (left pauses : Nat) :
    s.world.Discreetly (s.pollDeregistration left pauses).2.world := by
  have hd (s : Station σ) : s.world.Discreetly (s.call .driveEngine).world :=
    (Discreetly.refl _).perform (by simp) (by simp)
  induction left generalizing s pauses with
  | zero =>
    unfold pollDeregistration
    dsimp only
    split
    · exact hd s
    · exact (hd s).note _
  | succ left ih =>
    unfold pollDeregistration
    dsimp only
    split
    · exact hd s
    · have hs : s.world.Discreetly ((s.call .driveEngine).call
          (.sleep (.ofMillis s.tunnel.tuning.deregistrationPause))).world :=
        (hd s).perform (by simp) (by simp)
      exact hs.trans (ih _ _)

/-- The registration is taken back if the engine says that there is one. -/
theorem discreetly_awaitDeregistration (s : Station σ) :
    s.world.Discreetly s.awaitDeregistration.2.world := by
  unfold awaitDeregistration
  split
  · next hr =>
    have hp : s.world.Discreetly (s.call .pauseRegistration).world :=
      (Discreetly.refl _).perform (by simp) fun _ => hr
    exact hp.trans (discreetly_pollDeregistration _ _ _)
  · exact .refl _

theorem discreetly_startRelay (s : Station σ) : s.world.Discreetly s.startRelay.world := by
  rcases s.unfolds_startRelay_or_missed with hu | ⟨why, he⟩
  · exact .of_unfolds hu (by decide)
  · rw [he]
    exact ((Discreetly.refl _).perform (by simp) (by simp)).note _

theorem discreetly_turnOn (s : Station σ) : s.world.Discreetly s.turnOn.world := by
  have hwait := ((s.note .turningOn).modify fun t =>
    { t with link := .on s.world.ledger.engine .connecting }).discreetly_awaitDeregistration
  exact hwait.trans (discreetly_startRelay _)

theorem discreetly_goDisconnected (s : Station σ) (settings : EngineSettings) :
    s.world.Discreetly (s.goDisconnected settings).world := by
  unfold goDisconnected
  dsimp only
  split
  · next hr =>
    have hp : s.world.Discreetly ((s.note .linkLost).call .pauseRegistration).world :=
      ((Discreetly.refl _).note _).perform (by simp) fun _ => hr
    exact hp.perform (by simp) (by simp)
  · exact (Discreetly.refl _).note _

/-- Signaling and media have been led through the relay that the tunnel holds. -/
structure Led (t : Tunnel) (l : Ledger) : Prop where
  /-- The signaling engine works through the tunnel's hook. -/
  hook : l.hook = some t.hook
  /-- The media engine gets its streams from the held relay. -/
  media : ∃ relay, t.relay = some relay ∧ l.media = some relay
  /-- The signaling engine copes with no firewall and listens for datagrams only. -/
  engine : l.engine.AreTunneled

/-- Everything that the tunnel had taken over has been given back. -/
structure GivenBack (t : Tunnel) (calls : List Call) (l : Ledger) : Prop where
  /-- The signaling engine has its native transport. -/
  hook : l.hook = none
  /-- The media engine has its own sockets. -/
  media : l.media = none
  /-- The signaling engine has the settings that the link kept for it. -/
  engine : t.link.restore? = some l.engine
  /-- The relay that the tunnel held, if any, has been ended. -/
  relay : ∀ relay, t.relay = some relay → .destroyRelay relay ∈ calls

/-- What one leg does about the registration. -/
inductive Registers (s t : Station σ) : Prop where
  /-- The engine is not made to register, and the link neither goes ready nor off. -/
  | keeps (calls : s.world.Discreetly t.world) (ready : Leg.goesReady ⟨s, t⟩ = false)
    (off : Leg.goesOff ⟨s, t⟩ = false)
  /-- The link goes ready, and the engine registers once everything has been led through the
  relay. -/
  | comes (w : World σ) (calls : s.world.Discreetly w)
    (resumes : t.world.history = (w.perform .resumeRegistration).history)
    (led : Led s.tunnel t.world.ledger) (ready : Leg.goesReady ⟨s, t⟩ = true)
    (off : Leg.goesOff ⟨s, t⟩ = false)
  /-- The tunnel is turned off, and the engine registers once everything has been given back. -/
  | goes (w : World σ) (calls : s.world.Discreetly w)
    (resumes : t.world.history = (w.perform .resumeRegistration).history)
    (given : GivenBack s.tunnel w.calls t.world.ledger) (ready : Leg.goesReady ⟨s, t⟩ = false)
    (off : Leg.goesOff ⟨s, t⟩ = true)

namespace Registers

/-- Where the link stays as it is, nothing has to be done about the registration. -/
theorem of_link (calls : s.world.Discreetly t.world) (hl : t.tunnel.link = s.tunnel.link) :
    s.Registers t :=
  .keeps calls (Leg.goesReady_eq_false (by rw [hl])) (Leg.goesOff_eq_false (by rw [hl]))

/-- What comes before in the same leg is no matter if it leaves the core of the tunnel alone. -/
theorem after (h : u.Registers t) (calls : s.world.Discreetly u.world)
    (hc : u.tunnel.core = s.tunnel.core) : s.Registers t := by
  obtain ⟨hhook, _, hrelay, _, hlink⟩ := Tunnel.core_eq_iff.mp hc
  have hready : Leg.goesReady ⟨s, t⟩ = Leg.goesReady ⟨u, t⟩ := by
    simp only [Leg.goesReady, hlink]
  have hoff : Leg.goesOff ⟨s, t⟩ = Leg.goesOff ⟨u, t⟩ := by
    simp only [Leg.goesOff, hlink]
  cases h with
  | keeps more ready off => exact .keeps (calls.trans more) (hready ▸ ready) (hoff ▸ off)
  | comes w more resumes led ready off =>
    refine .comes w (calls.trans more) resumes ⟨?_, ?_, led.engine⟩ (hready ▸ ready) (hoff ▸ off)
    · rw [← hhook]
      exact led.hook
    · rw [← hrelay]
      exact led.media
  | goes w more resumes given ready off =>
    refine .goes w (calls.trans more) resumes ⟨given.hook, given.media, ?_, ?_⟩ (hready ▸ ready)
      (hoff ▸ off)
    · rw [← hlink]
      exact given.engine
    · rw [← hrelay]
      exact given.relay

/-- Going ready comes to its end with the registration. -/
theorem goReady {relay : RelayId} {settings : EngineSettings} {phase : Phase}
    (hr : s.tunnel.relay = some relay) (hl : s.tunnel.link = .on settings phase)
    (hp : phase ≠ .ready) : s.Registers (s.goReady relay settings) := by
  let switched := ((s.note .linkUp).call (.setPolicy .noFirewall)).installHooks relay
  let w := switched.world.perform
    (.setPorts (.udpOnly (ephemeralPort (Surroundings.randomBits switched.world.scene))))
  have hw : (s.goReady relay settings).world = w.perform .resumeRegistration := rfl
  have hu : s.world.Unfolds [.settings, .routing] w :=
    (((World.Unfolds.refl.note _ rfl).perform _ (by simp)).performAll _ (by simp)).perform _
      (by simp)
  obtain ⟨hhook, hmedia, hengine⟩ := s.ledger_goReady relay settings
  refine .comes w (.of_unfolds hu (by decide)) (congrArg _ hw) ⟨hhook, ⟨relay, hr, hmedia⟩, hengine⟩
    ?_ ?_
  · simp [Leg.goesReady, hl, Link.phase?, hp, Station.goReady]
  · simp [Leg.goesOff, hl, Link.isOn, Station.goReady]

/-- Turning off comes to its end with the registration. -/
theorem turnOff {settings : EngineSettings} {phase : Phase}
    (hl : s.tunnel.link = .on settings phase) : s.Registers (s.turnOff settings) := by
  let waited := (s.note .turningOff).awaitDeregistration.2
  let stopped := (waited.modify fun t => { t with link := .off }).stopRelay
  let w := (stopped.restore settings).world
  have hw : (s.turnOff settings).world = w.perform .resumeRegistration := rfl
  have hcalls : s.world.Discreetly w := by
    have hwait : s.world.Discreetly waited.world :=
      discreetly_awaitDeregistration (s.note .turningOff)
    have hstop : waited.world.Discreetly stopped.world :=
      .of_unfolds (unfolds_stopRelay (waited.modify fun t => { t with link := .off })) (by decide)
    have hrestore : stopped.world.Discreetly w :=
      .of_unfolds (stopped.unfolds_restore settings) (by decide)
    exact (hwait.trans hstop).trans hrestore
  -- Making the engine register does not touch the ledger, so it stands as it did at the call.
  obtain ⟨hhook, hmedia, hengine⟩ := s.ledger_turnOff settings
  obtain ⟨_, ht⟩ := s.tunnel_turnOff settings
  refine .goes w hcalls (congrArg _ hw) ⟨hhook, hmedia, ?_, fun relay held => ?_⟩ ?_ ?_
  · rw [hl, hengine]
    rfl
  · have hended : .destroyRelay relay ∈ (s.turnOff settings).world.relayCalls := by
      rw [relayCalls_turnOff, held]
      exact List.mem_append_right _ (List.mem_append_right _ List.mem_cons_self)
    have hmem := List.mem_of_mem_filter (List.mem_reverse.mp hended)
    rw [hw, World.calls_perform] at hmem
    rcases List.mem_cons.mp hmem with he | hm
    · cases he
    · exact hm
  · simp [Leg.goesReady, ht, Link.phase?]
  · simp [Leg.goesOff, hl, ht, Link.isOn]

theorem note (s : Station σ) (notice : Notice) : s.Registers (s.note notice) :=
  .of_link ((Discreetly.refl _).note _) rfl

theorem enable (s : Station σ) (on : Bool) : s.Registers (s.enable on) := by
  rcases s.enable_cases on with ⟨_, hl, he⟩ | ⟨settings, phase, _, hl, he⟩ | ⟨_, he⟩
  · obtain ⟨t, ht, htunnel, _⟩ := s.turnOn_eq_startRelay
    have hlink : s.turnOn.tunnel.link = .on s.world.ledger.engine .connecting := by
      rw [ht, t.rest_startRelay.1, htunnel]
    rw [he]
    refine .keeps s.discreetly_turnOn ?_ ?_
    · simp [Leg.goesReady, hlink, Link.phase?]
    · simp [Leg.goesOff, hl, Link.isOn]
  · rw [he]
    exact .turnOff hl
  · rw [he]
    exact .note s _

theorem onConnectivity (s : Station σ) (connected : Bool) (generation : Nat) :
    s.Registers (s.onConnectivity connected generation) := by
  rcases s.onConnectivity_cases connected generation with
    ⟨_, he⟩ | ⟨relay, hr, _, ⟨_, he⟩ | ⟨settings, phase, hl,
      ⟨_, _, he⟩ | ⟨⟨_, hp⟩, he⟩ | ⟨_, he⟩⟩⟩
  · rw [he]
    exact .note s _
  · rw [he]
    exact .note s _
  · rw [he]
    exact .of_link (.refl _) rfl
  · rw [he]
    exact .goReady hr hl hp
  · have ht := s.tunnel_goDisconnected settings
    rw [he]
    refine .keeps (s.discreetly_goDisconnected settings) ?_ ?_
    · simp [Leg.goesReady, ht, Link.phase?]
    · simp [Leg.goesOff, ht, Link.isOn]

theorem onProbed (s : Station σ) (reachable : Bool) (run index : Nat) :
    s.Registers (s.onProbed reachable run index) := by
  have habandon (notice : Notice) : s.world.Discreetly (s.note notice).abandon.world :=
    ((Discreetly.refl _).note notice).trans
      (.of_unfolds (s.note notice).unfolds_abandon (by decide))
  rcases s.onProbed_cases reachable run index with
    ⟨_, he⟩ | ⟨_, ⟨_, he⟩ | ⟨_, _, he⟩ | ⟨_, _, he⟩⟩
  · rw [he]
    exact .note s _
  · rw [he]
    exact (enable _ _).after (habandon _) (core_abandon _)
  · rw [he]
    exact (enable _ _).after (habandon _) (core_abandon _)
  · have hstart : s.world.Discreetly (s.startProbe (index + 1)).2.world :=
      .of_unfolds (s.unfolds_startProbe _) (by decide)
    rw [he]
    exact (enable _ _).after (hstart.note _) (s.core_startProbe _)

theorem operate (s : Station σ) {operation : Operation} (ho : operation ≠ .iterate) :
    s.Registers (s.operate operation) := by
  rcases s.operate_cases ho with ⟨on, he⟩ | he | ⟨hc, hu⟩
  · rw [he]
    exact enable s on
  · have hcalls : s.world.Discreetly s.reconnect.world := by
      rcases s.reconnect_cases with ⟨_, hu⟩ | ⟨_, _, hs⟩
      · exact .of_unfolds hu (by decide)
      · rw [hs]
        exact s.discreetly_startRelay
    rw [he]
    exact .of_link hcalls s.rest_reconnect.1
  · exact .of_link (.of_unfolds hu (by decide)) (Tunnel.core_eq_iff.mp hc).2.2.2.2

theorem handle (s : Station σ) (posted : Posted) : s.Registers (s.handle posted) := by
  unfold Station.handle
  cases posted.event with
  | connectivity connected generation =>
    exact (onConnectivity (s.note (.handling posted)) connected generation).after
      ((Discreetly.refl _).note _) rfl
  | probed reachable run index =>
    exact (onProbed (s.note (.handling posted)) reachable run index).after
      ((Discreetly.refl _).note _) rfl

end Registers

theorem discreetly_send (w : World σ) (signaling : Option StreamId) (data : Bytes)
    (dest : Address) : w.Discreetly (Hook.send w signaling data dest).2 := by
  unfold Hook.send World.sendOn
  cases signaling with
  | none => exact .refl w
  | some stream =>
    have hs : w.Discreetly (w.perform (.send stream data dest)) :=
      (Discreetly.refl w).perform (by simp) (by simp)
    dsimp only
    rcases Surroundings.sendAnswer w.scene stream data dest with why | length
    · exact hs.note _
    · exact hs

theorem discreetly_receive (w : World σ) (signaling : Option StreamId) (size : Nat) :
    w.Discreetly (Hook.receive w signaling size).2 := by
  unfold Hook.receive World.receiveOn
  cases signaling with
  | none => exact .refl w
  | some stream =>
    have hr : w.Discreetly (w.perform (.receive stream size)) :=
      (Discreetly.refl w).perform (by simp) (by simp)
    dsimp only
    rcases Surroundings.receiveAnswer w.scene stream size with why | datagram
    · exact hr.note _
    · exact hr

/-- Every leg of a run does one of these things about the registration. -/
theorem LeadsTo.registers (h : s.LeadsTo t) : s.Registers t := by
  cases h with
  | operate operation ho => exact .operate s ho
  | aside happening ha =>
    cases happening with
    | operate operation => exact absurd rfl (ha operation)
    | post event => exact .of_link (.of_history rfl) rfl
    | report report => exact .of_link (.of_history (s.world.deliver_frame report).2.2.1) rfl
    | stir change => exact .of_link (.of_history rfl) rfl
    | send data dest => exact .of_link (discreetly_send _ _ _ _) rfl
    | receive size => exact .of_link (discreetly_receive _ _ _) rfl
  | take => exact .of_link (.of_history rfl) rfl
  | handle posted => exact .handle s posted

/-- The registrations of a run and its legs belong together. -/
structure Registered (found : EngineSettings) (legs : List (Leg σ)) (w : World σ) : Prop where
  /-- Whenever the engine was made to register, this was the last call of a leg on which the link
  went ready, with everything led through the relay, or off, with everything given back. -/
  resumed : ∀ older, .resumeRegistration :: older <:+ w.calls →
    ∃ leg ∈ legs, leg.after.world.calls = .resumeRegistration :: older ∧
      (leg.goesReady = true ∧
          Led leg.before.tunnel (Ledger.replay { engine := found } older) ∨
        leg.goesOff = true ∧
          GivenBack leg.before.tunnel older (Ledger.replay { engine := found } older))
  /-- On each of these legs the engine was made to register once. -/
  count : w.calls.count .resumeRegistration = legs.countP Leg.goesReady + legs.countP Leg.goesOff
  /-- A registration was taken back only while the engine said that there was one. -/
  paused : ∀ moment ∈ w.history, moment.call = .pauseRegistration →
    Surroundings.isRegistered moment.scene = true

namespace Registered

variable {found : EngineSettings} {legs : List (Leg σ)} {w v : World σ}

/-- What has nothing to do with the registration changes nothing about this. -/
theorem discreet (h : Registered found legs w) (hd : w.Discreetly v) : Registered found legs v := by
  obtain ⟨more, hcalls, hnone⟩ := hd.calls_eq
  refine ⟨fun older ho => ?_, ?_, fun moment hm hp => ?_⟩
  · rw [hcalls] at ho
    exact h.resumed older (suffix_of_not_mem ho hnone)
  · rw [hcalls, List.count_append, List.count_eq_zero.mpr hnone, Nat.zero_add]
    exact h.count
  · obtain ⟨since, hh, hall⟩ := hd
    rw [hh] at hm
    rcases List.mem_append.mp hm with hm | hm
    · exact (hall moment hm).2 hp
    · exact h.paused moment hm hp

/-- One more leg, on which the engine is not made to register. -/
theorem keep (h : Registered found legs w) {leg : Leg σ} (hr : leg.goesReady = false)
    (ho : leg.goesOff = false) : Registered found (legs ++ [leg]) w := by
  refine ⟨fun older hs => ?_, ?_, h.paused⟩
  · obtain ⟨past, hm, rest⟩ := h.resumed older hs
    exact ⟨past, List.mem_append_left _ hm, rest⟩
  · rw [List.countP_append, List.countP_append, List.countP_singleton, List.countP_singleton, hr,
      ho]
    exact h.count

/-- One more leg, which comes to its end with the registration. -/
theorem resume (h : Registered found legs w) {leg : Leg σ}
    (hb : leg.after.world.Booked { engine := found })
    (hh : leg.after.world.history = (w.perform .resumeRegistration).history)
    (hone : leg.goesReady.toNat + leg.goesOff.toNat = 1)
    (hstands : leg.goesReady = true ∧ Led leg.before.tunnel leg.after.world.ledger ∨
      leg.goesOff = true ∧ GivenBack leg.before.tunnel w.calls leg.after.world.ledger) :
    Registered found (legs ++ [leg]) leg.after.world := by
  have hcalls : leg.after.world.calls = .resumeRegistration :: w.calls := by
    rw [World.calls, hh, World.history_perform, List.map_cons, World.calls]
  have hledger : leg.after.world.ledger = Ledger.replay { engine := found } w.calls := by
    rw [hb, hcalls]
    rfl
  rw [hledger] at hstands
  refine ⟨fun older hs => ?_, ?_, fun moment hm hp => ?_⟩
  · rw [hcalls] at hs
    rcases List.suffix_cons_iff.mp hs with he | hs
    · have holder : older = w.calls := (List.cons.inj he).2
      rw [holder]
      exact ⟨leg, List.mem_append_right _ List.mem_cons_self, hcalls, hstands⟩
    · obtain ⟨past, hm, rest⟩ := h.resumed older hs
      exact ⟨past, List.mem_append_left _ hm, rest⟩
  · have hc := h.count
    rw [hcalls, List.count_cons_self, List.countP_append, List.countP_append,
      List.countP_singleton, List.countP_singleton]
    cases hr : leg.goesReady <;> cases ho : leg.goesOff <;> simp [hr, ho] at hone ⊢ <;> omega
  · rw [hh, World.history_perform] at hm
    rcases List.mem_cons.mp hm with rfl | hm
    · cases hp
    · exact h.paused moment hm hp

/-- Every leg of a run keeps registrations and legs together. -/
theorem step (h : Registered found legs s.world) (hl : s.LeadsTo t)
    (hb : t.world.Booked { engine := found }) : Registered found (legs ++ [⟨s, t⟩]) t.world := by
  cases hl.registers with
  | keeps calls ready off => exact (h.discreet calls).keep ready off
  | comes w calls resumes led ready off =>
    exact (h.discreet calls).resume hb resumes (by rw [ready, off]; rfl) (.inl ⟨ready, led⟩)
  | goes w calls resumes given ready off =>
    exact (h.discreet calls).resume hb resumes (by rw [ready, off]; rfl) (.inr ⟨off, given⟩)

end Registered

/-- Dropping the tunnel has nothing to do with the registration. -/
theorem discreetly_drop (s : Station σ) : s.world.Discreetly s.drop := by
  have ha : s.world.Unfolds [.probe, .routing, .relay] s.abandon.world :=
    s.unfolds_abandon.mono (by decide)
  have hall : s.world.Unfolds [.probe, .routing, .relay]
      (if s.abandon.tunnel.relay.isSome then s.abandon.stopRelay else s.abandon).world := by
    split
    · exact ha.andThen s.abandon.unfolds_stopRelay (by decide)
    · exact ha
  exact (Discreetly.of_unfolds hall (by decide)).trans (.of_history rfl)

/-- In every run, up to the end of the tunnel, the engine is made to register only when the link has
gone ready and everything is led through the relay, or when the tunnel has been turned off and
everything is given back; and as often as this happens. It is made to take its registration back
only when it has just said that it has one. -/
theorem registers_only_when_settled (tuning : Tuning) (scene : σ) (found : EngineSettings)
    (run : List (Happening σ)) :
    let start := fresh tuning scene found
    Registered found (start.legs run) (start.after run).world ∧
      Registered found (start.legs run) (start.after run).drop := by
  intro start
  have hbooked : start.world.Booked { engine := found } := rfl
  have hfresh : Registered found [] start.world := by
    refine ⟨fun older hs => ?_, rfl, fun _ hm => absurd hm List.not_mem_nil⟩
    exact absurd (List.suffix_nil.mp hs) (List.cons_ne_nil _ _)
  have hall := legs_induction
    (I := fun legs s => s.world.Booked { engine := found } ∧ Registered found legs s.world)
    (fun _ _ _ ⟨hb, h⟩ hl => ⟨hl.booked hb, h.step hl (hl.booked hb)⟩) ⟨hbooked, hfresh⟩ run
  exact ⟨hall.2, hall.2.discreet (discreetly_drop _)⟩

/-- A registered engine is taken over once the relay has connected, and is given back. -/
def thereAndBack : List (Happening Rehearsal.Stage) :=
  [.operate (.enable true), .report (.relay 0 true), .operate .iterate, .operate (.enable false)]

/-- The engine registers twice in that run, once after it was made to listen for datagrams only, the
last time with everything given back. -/
theorem last_registration_is_settled :
    ∃ s : Station Rehearsal.Stage,
      s = (fresh {} { registration := .registered } ⟨⟨5060, 5060, 5061, 0⟩, .stun⟩).after
        thereAndBack ∧
      s.world.calls.count .resumeRegistration = 2 ∧ .pauseRegistration ∈ s.world.calls ∧
      [.resumeRegistration, .setPorts ⟨1024, 0, 0, 0⟩] <:+: s.world.calls ∧
      ∃ older, s.world.calls = .resumeRegistration :: older ∧
        ∃ leg : Leg Rehearsal.Stage, leg.after.world.calls = .resumeRegistration :: older ∧
          (leg.goesReady = true ∧ Led leg.before.tunnel (Ledger.replay
              { engine := ⟨⟨5060, 5060, 5061, 0⟩, .stun⟩ } older) ∨
            leg.goesOff = true ∧ GivenBack leg.before.tunnel older (Ledger.replay
              { engine := ⟨⟨5060, 5060, 5061, 0⟩, .stun⟩ } older)) := by
  obtain ⟨hrun, _⟩ := registers_only_when_settled {}
    ({ registration := .registered } : Rehearsal.Stage) ⟨⟨5060, 5060, 5061, 0⟩, .stun⟩ thereAndBack
  have hlast : ((fresh {} ({ registration := .registered } : Rehearsal.Stage)
      ⟨⟨5060, 5060, 5061, 0⟩, .stun⟩).after thereAndBack).world.calls = .resumeRegistration ::
        ((fresh {} ({ registration := .registered } : Rehearsal.Stage)
          ⟨⟨5060, 5060, 5061, 0⟩, .stun⟩).after thereAndBack).world.calls.tail := by decide
  obtain ⟨leg, _, hleg, hstands⟩ := hrun.resumed _ ⟨[], hlast.symm⟩
  exact ⟨_, rfl, by decide, by decide, by decide, _, hlast, leg, hleg, hstands⟩

end Station

end SipOverRelay
