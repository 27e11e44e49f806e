import SipOverRelay.Proofs.Unfolding

/-!
# What each function of the tunnel does

For every function of the tunnel there is one account of the tunnel's own state afterwards and one
of the aspects of its calls. The proofs about whole runs rest on these accounts and do not look
into the functions again.
-/

namespace SipOverRelay

/-- What the tunnel knows about relay, hook and link: the part of its state that neither servers nor
proxy, signaling stream or detection belong to. -/
def Tunnel.core (t : Tunnel) : Hook × Bool × Option RelayId × Nat × Link :=
  (t.hook, t.hooksInstalled, t.relay, t.generation, t.link)

theorem Tunnel.core_eq_iff {t u : Tunnel} : t.core = u.core ↔
    t.hook = u.hook ∧ t.hooksInstalled = u.hooksInstalled ∧ t.relay = u.relay ∧
      t.generation = u.generation ∧ t.link = u.link := by
  simp only [core, Prod.mk.injEq]

/-- The settings of an engine that signals through a relay: there is no firewall to cope with, and
it listens for datagrams alone, on a port made from 16 random bits that is none of the reserved
ones. -/
def EngineSettings.AreTunneled (settings : EngineSettings) : Prop :=
  ∃ bits port : UInt16, port = 1024 + (bits &&& 0xDFFF) ∧ 1024 ≤ port ∧
    settings = ⟨{ udp := port, tcp := 0, tls := 0, dtls := 0 }, .noFirewall⟩

theorem EngineSettings.areTunneled_udpOnly (bits : UInt16) :
    AreTunneled ⟨.udpOnly (ephemeralPort bits), .noFirewall⟩ :=
  ⟨bits, ephemeralPort bits, rfl, le_ephemeralPort bits, rfl⟩

namespace World

variable {σ : Type} [Surroundings σ]

/-- The world with one more probe, which was started under a tag. -/
def probing (w : World σ) (server : Server) (run index : Nat) : World σ :=
  (w.perform (.createProbe server)).perform (.startProbe w.ledger.probes.length run index)

theorem unfolds_probing (w : World σ) (server : Server) (run index : Nat) :
    w.Unfolds [.probe] (w.probing server run index) :=
  (Unfolds.refl.perform _ (by simp)).perform _ (by simp)

end World

namespace Station

open World (Unfolds)

variable {σ : Type}

/-- The station in another world. -/
def within (s : Station σ) (w : World σ) : Station σ := { s with world := w }

@[simp] theorem tunnel_within (s : Station σ) (w : World σ) : (s.within w).tunnel = s.tunnel := rfl

@[simp] theorem world_within (s : Station σ) (w : World σ) : (s.within w).world = w := rfl

variable [Surroundings σ]

/-! ### The registration -/

theorem tunnel_pollDeregistration (s : Station σ) (left pauses : Nat) :
    (s.pollDeregistration left pauses).2.tunnel = s.tunnel := by
  induction left generalizing s pauses with
  | zero => unfold pollDeregistration; dsimp only; split <;> rfl
  | succ left ih =>
    unfold pollDeregistration
    dsimp only
    split
    · rfl
    · rw [ih]
      rfl

theorem unfolds_pollDeregistration (s : Station σ) (left pauses : Nat) :
    s.world.Unfolds [.passing] (s.pollDeregistration left pauses).2.world := by
  have hd (s : Station σ) : s.world.Unfolds [.passing] (s.call .driveEngine).world :=
    Unfolds.refl.perform _ (by simp)
  induction left generalizing s pauses with
  | zero =>
    unfold pollDeregistration
    dsimp only
    split
    · exact hd s
    · exact (hd s).note _ rfl
  | succ left ih =>
    unfold pollDeregistration
    dsimp only
    split
    · exact hd s
    · have hs := (hd s).perform (.sleep (.ofMillis s.tunnel.tuning.deregistrationPause)) (by simp)
      exact hs.trans (ih ((s.call .driveEngine).call (.sleep _)) _)

/-- Waiting for the registration to go leaves the tunnel as it is. -/
@[simp] theorem tunnel_awaitDeregistration (s : Station σ) :
    s.awaitDeregistration.2.tunnel = s.tunnel := by
  unfold awaitDeregistration
  split
  · exact tunnel_pollDeregistration _ _ _
  · rfl

theorem unfolds_awaitDeregistration (s : Station σ) :
    s.world.Unfolds [.passing] s.awaitDeregistration.2.world := by
  unfold awaitDeregistration
  split
  · have hp : s.world.Unfolds [.passing] (s.call .pauseRegistration).world :=
      Unfolds.refl.perform _ (by simp)
    exact hp.trans (unfolds_pollDeregistration _ _ _)
  · exact .refl

/-! ### The relay -/

theorem unfolds_callRelay (s : Station σ) {c : RelayId → Call} {aspects : List Aspect}
    (hc : ∀ relay, (c relay).aspect ∈ aspects) :
    s.world.Unfolds aspects (s.callRelay c).world := by
  unfold callRelay
  split
  · exact Unfolds.refl.perform _ (hc _)
  · exact .refl

/-- Asking for the signaling stream changes nothing but the signaling stream. -/
theorem tunnel_openSignaling (s : Station σ) (relay : RelayId) :
    ∃ signaling, (s.openSignaling relay).tunnel = { s.tunnel with signaling } := by
  unfold openSignaling
  dsimp only
  split
  · exact ⟨_, rfl⟩
  · split
    · exact ⟨_, rfl⟩
    · exact ⟨_, rfl⟩

theorem unfolds_openSignaling (s : Station σ) (relay : RelayId) :
    s.world.Unfolds [.relay] (s.openSignaling relay).world := by
  unfold openSignaling
  dsimp only
  split
  · exact .refl
  · split
    · exact Unfolds.refl.perform _ (by simp)
    · exact (Unfolds.refl.perform _ (by simp)).note _ rfl

/-- After the number that it reports under, a new relay is told nothing but what relays are told. -/
theorem aspect_of_mem_introduction_tail (t : Tunnel) (relay : RelayId) :
    ∀ call ∈ (introduction t relay).tail, call.aspect ∈ [Aspect.relay] := by
  intro call hc
  rw [introduction, List.cons_append, List.tail_cons] at hc
  rcases List.mem_append.mp hc with hm | hm
  · obtain ⟨server, _, rfl⟩ := List.mem_map.mp hm
    simp
  · split at hm
    · rw [List.mem_singleton.mp hm]
      simp
    · cases hm

/-- What happened when a relay was to be created: there is none, or there is a new one that reports
under the next generation number. -/
theorem createRelay_cases (s : Station σ) :
    (s.createRelay.1 = none ∧ s.createRelay.2.tunnel = s.tunnel ∧
      s.world.Unfolds [.passing] s.createRelay.2.world) ∨
    (s.createRelay.1 = some s.world.ledger.relays.length ∧
      s.createRelay.2.tunnel =
        { s.tunnel with
          relay := some s.world.ledger.relays.length
          generation := s.tunnel.generation + 1 } ∧
      ((s.world.perform .createRelay).perform
        (.listen s.world.ledger.relays.length (s.tunnel.generation + 1))).Unfolds [.relay]
          s.createRelay.2.world) := by
  unfold createRelay
  cases Surroundings.relayOffer s.world.scene with
  | error why => exact .inl ⟨rfl, rfl, (Unfolds.refl.perform _ (by simp)).note _ rfl⟩
  | ok _ =>
    have htold := aspect_of_mem_introduction_tail
      { s.tunnel with generation := s.tunnel.generation + 1 } s.world.ledger.relays.length
    exact .inr ⟨rfl, rfl, Unfolds.refl.performAll _ htold⟩

/-- What happened when a relay was to be started: the held one was started, or there was none and
none could be created, or a new one was created and started. -/
theorem startRelay_cases (s : Station σ) :
    (∃ relay signaling, s.tunnel.relay = some relay ∧
      s.startRelay.tunnel = { s.tunnel with signaling } ∧
      s.world.Unfolds [.relay] s.startRelay.world) ∨
    (s.tunnel.relay = none ∧ s.startRelay.tunnel = s.tunnel ∧
      s.world.Unfolds [.passing] s.startRelay.world) ∨
    (∃ signaling, s.tunnel.relay = none ∧
      s.startRelay.tunnel =
        { s.tunnel with
          relay := some s.world.ledger.relays.length
          generation := s.tunnel.generation + 1
          signaling } ∧
      ((s.world.perform .createRelay).perform
        (.listen s.world.ledger.relays.length (s.tunnel.generation + 1))).Unfolds [.relay]
          s.startRelay.world) := by
  have hstart (t : Station σ) (relay : RelayId) :
      t.world.Unfolds [.relay] ((t.call (.startRelay relay)).openSignaling relay).world :=
    (Unfolds.refl.perform _ (by simp)).trans
      ((t.call (.startRelay relay)).unfolds_openSignaling relay)
  unfold startRelay obtainRelay
  cases hr : s.tunnel.relay with
  | some relay =>
    obtain ⟨signaling, hs⟩ := (s.call (.startRelay relay)).tunnel_openSignaling relay
    exact .inl ⟨relay, signaling, rfl, hs, hstart s relay⟩
  | none =>
    rcases hc : s.createRelay with ⟨found, t⟩
    have hcases := s.createRelay_cases
    rw [hc] at hcases
    rcases hcases with ⟨rfl, ht, hu⟩ | ⟨rfl, ht, hu⟩
    · exact .inr (.inl ⟨rfl, ht, hu⟩)
    · obtain ⟨signaling, hs⟩ :=
        (t.call (.startRelay s.world.ledger.relays.length)).tunnel_openSignaling _
      exact .inr (.inr ⟨signaling, rfl, hs.trans (by rw [tunnel_call, ht]), hu.trans (hstart t _)⟩)

/-- Starting a relay touches neither link nor servers nor detection. -/
theorem rest_startRelay (s : Station σ) : s.startRelay.tunnel.link = s.tunnel.link ∧
    s.startRelay.tunnel.servers = s.tunnel.servers ∧
      s.startRelay.tunnel.detection = s.tunnel.detection := by
  rcases s.startRelay_cases with ⟨_, _, _, ht, _⟩ | ⟨_, ht, _⟩ | ⟨_, _, ht, _⟩
  · rw [ht]
    exact ⟨rfl, rfl, rfl⟩
  · rw [ht]
    exact ⟨rfl, rfl, rfl⟩
  · rw [ht]
    exact ⟨rfl, rfl, rfl⟩

theorem unfolds_startRelay (s : Station σ) :
    s.world.Unfolds [.roster, .relay, .passing] s.startRelay.world := by
  rcases s.startRelay_cases with ⟨_, _, _, _, hu⟩ | ⟨_, _, hu⟩ | ⟨_, _, _, hu⟩
  · exact hu.mono (by decide)
  · exact hu.mono (by decide)
  · have hc : s.world.Unfolds [.roster, .relay, .passing]
        ((s.world.perform .createRelay).perform
          (.listen s.world.ledger.relays.length (s.tunnel.generation + 1))) :=
      (Unfolds.refl.perform _ (by simp)).perform _ (by simp)
    exact hc.andThen hu (by decide)

/-- Starting a relay is a matter of the roster and of what relays are told, unless there is none and
none can be created. -/
theorem unfolds_startRelay_or_missed (s : Station σ) :
    s.world.Unfolds [.roster, .relay] s.startRelay.world ∨
      ∃ why, s.startRelay.world = (s.world.perform .missRelay).note (.relayUnavailable why) := by
  have hstart (t : Station σ) (relay : RelayId) :
      t.world.Unfolds [.roster, .relay]
        ((t.call (.startRelay relay)).openSignaling relay).world :=
    (Unfolds.refl.perform _ (by simp)).andThen
      ((t.call (.startRelay relay)).unfolds_openSignaling relay) (by decide)
  unfold startRelay obtainRelay
  cases s.tunnel.relay with
  | some relay => exact .inl (hstart s relay)
  | none =>
    unfold createRelay
    cases Surroundings.relayOffer s.world.scene with
    | error why => exact .inr ⟨why, rfl⟩
    | ok _ =>
      have htold (t : Tunnel) (relay : RelayId) :
          ∀ call ∈ introduction t relay, call.aspect ∈ [Aspect.roster, .relay] := by
        intro call hm
        rcases List.mem_cons.mp hm with rfl | hm
        · simp
        · have ha := aspect_of_mem_introduction_tail t relay call hm
          exact List.mem_cons_of_mem _ ha
      have hc : s.world.Unfolds [.roster, .relay] (s.call .createRelay).world :=
        Unfolds.refl.perform _ (by simp)
      refine .inl (Unfolds.trans ?_ (hstart _ _))
      exact hc.performAll _ (htold _ _)

/-! ### Hook, media source and settings -/

/-- The engines get hook and media source, and the tunnel knows. -/
theorem ledger_installHooks (s : Station σ) (relay : RelayId) :
    (s.installHooks relay).world.ledger =
      { s.world.ledger with hook := some s.tunnel.hook, media := some relay } := by
  simp [installHooks, World.performAll, Ledger.apply]

/-- The engines lose hook and media source. -/
theorem ledger_uninstallHooks (s : Station σ) :
    s.uninstallHooks.world.ledger = { s.world.ledger with hook := none, media := none } := by
  simp [uninstallHooks, World.performAll, Ledger.apply]

theorem unfolds_uninstallHooks (s : Station σ) :
    s.world.Unfolds [.routing] s.uninstallHooks.world :=
  Unfolds.refl.performAll _ (by simp)

/-- The engine gets its settings back. -/
theorem ledger_restore (s : Station σ) (settings : EngineSettings) :
    (s.restore settings).world.ledger = { s.world.ledger with engine := settings } := by
  simp [restore, World.performAll, Ledger.apply]

theorem unfolds_restore (s : Station σ) (settings : EngineSettings) :
    s.world.Unfolds [.settings] (s.restore settings).world :=
  Unfolds.refl.performAll _ (by simp)

/-! ### Turning on and off -/

/-- Closing the signaling stream leaves none. -/
theorem tunnel_closeSignaling (s : Station σ) (relay : RelayId) :
    (s.closeSignaling relay).tunnel = { s.tunnel with signaling := none } := by
  unfold closeSignaling
  split
  · rfl
  · next h => rw [← h]

theorem unfolds_closeSignaling (s : Station σ) (relay : RelayId) :
    s.world.Unfolds [.relay] (s.closeSignaling relay).world := by
  unfold closeSignaling
  split
  · exact Unfolds.refl.perform _ (by simp)
  · exact .refl

/-- After stopping no relay is held and no hook is installed. -/
theorem tunnel_stopRelay (s : Station σ) :
    ∃ signaling, s.stopRelay.tunnel =
      { s.tunnel with relay := none, hooksInstalled := false, signaling } := by
  unfold stopRelay
  dsimp only
  split
  · exact ⟨none, by rw [tunnel_call, tunnel_closeSignaling]; rfl⟩
  · next h =>
    refine ⟨s.tunnel.signaling, ?_⟩
    have hr : s.tunnel.relay = none := h
    rw [← hr]
    rfl

/-- After the hooks are gone, a relay is ended with calls that concern it alone. -/
theorem unfolds_stopRelay_of_uninstalled (s : Station σ) :
    s.uninstallHooks.world.Unfolds [.relay] s.stopRelay.world := by
  unfold stopRelay
  dsimp only
  split
  · exact (unfolds_closeSignaling (s.uninstallHooks.modify _) _).perform _ (by simp)
  · exact .refl

theorem unfolds_stopRelay (s : Station σ) :
    s.world.Unfolds [.routing, .relay] s.stopRelay.world :=
  (s.unfolds_uninstallHooks.mono (by decide)).andThen s.unfolds_stopRelay_of_uninstalled (by decide)

/-- After stopping the engines work on their own. -/
theorem routing_stopRelay (s : Station σ) :
    s.stopRelay.world.ledger.hook = none ∧ s.stopRelay.world.ledger.media = none := by
  have hr := s.unfolds_stopRelay_of_uninstalled.routing_eq (by decide)
  rw [ledger_uninstallHooks] at hr
  exact hr

/-- Turning on remembers the settings, waits, and starts a relay. -/
theorem turnOn_eq_startRelay (s : Station σ) :
    ∃ t : Station σ, s.turnOn = t.startRelay ∧
      t.tunnel = { s.tunnel with link := .on s.world.ledger.engine .connecting } ∧
      s.world.Unfolds [.passing] t.world := by
  refine ⟨_, rfl, ?_, ?_⟩
  · rw [tunnel_awaitDeregistration]
    rfl
  · have hn : s.world.Unfolds [.passing] (s.note .turningOn).world := Unfolds.refl.note _ rfl
    exact hn.trans ((s.note .turningOn).modify _).unfolds_awaitDeregistration

theorem unfolds_turnOn (s : Station σ) :
    s.world.Unfolds [.roster, .relay, .passing] s.turnOn.world := by
  obtain ⟨t, ht, _, hu⟩ := s.turnOn_eq_startRelay
  rw [ht]
  exact (hu.mono (by decide)).trans t.unfolds_startRelay

/-- After turning off the tunnel holds nothing. -/
theorem tunnel_turnOff (s : Station σ) (settings : EngineSettings) :
    ∃ signaling, (s.turnOff settings).tunnel =
      { s.tunnel with link := .off, relay := none, hooksInstalled := false, signaling } := by
  have hw := (s.note .turningOff).tunnel_awaitDeregistration
  obtain ⟨signaling, hs⟩ := tunnel_stopRelay
    ((s.note .turningOff).awaitDeregistration.2.modify fun t => { t with link := .off })
  refine ⟨signaling, hs.trans ?_⟩
  rw [tunnel_modify, hw]
  rfl

theorem unfolds_turnOff (s : Station σ) (settings : EngineSettings) :
    s.world.Unfolds [.settings, .routing, .relay, .passing] (s.turnOff settings).world := by
  have hn : s.world.Unfolds [.settings, .routing, .relay, .passing] (s.note .turningOff).world :=
    Unfolds.refl.note _ rfl
  have hw := hn.andThen (s.note .turningOff).unfolds_awaitDeregistration (by decide)
  have hs := hw.andThen
    (unfolds_stopRelay
      ((s.note .turningOff).awaitDeregistration.2.modify fun t => { t with link := .off }))
    (by decide)
  exact (hs.andThen (unfolds_restore _ settings) (by decide)).perform _ (by simp)

/-- After turning off the engines work on their own, with the settings given back. -/
theorem ledger_turnOff (s : Station σ) (settings : EngineSettings) :
    (s.turnOff settings).world.ledger.hook = none ∧
      (s.turnOff settings).world.ledger.media = none ∧
      (s.turnOff settings).world.ledger.engine = settings := by
  have hr := routing_stopRelay
    ((s.note .turningOff).awaitDeregistration.2.modify fun t => { t with link := .off })
  unfold turnOff
  rw [world_call, World.ledger_perform, ledger_restore]
  exact ⟨hr.1, hr.2, rfl⟩

/-- Turning the tunnel on or off does it, or it is already as wanted. -/
theorem enable_cases (s : Station σ) (on : Bool) :
    (on = true ∧ s.tunnel.link = .off ∧ s.enable on = s.turnOn) ∨
    (∃ settings phase, on = false ∧ s.tunnel.link = .on settings phase ∧
      s.enable on = s.turnOff settings) ∨
    (s.tunnel.link.isOn = on ∧ s.enable on = s.note (.alreadyThere on)) := by
  unfold enable
  cases on <;> cases s.tunnel.link <;> simp [Link.isOn]

/-- Turned on the link is on, and turned off it is off. -/
theorem isOn_enable (s : Station σ) (on : Bool) : (s.enable on).tunnel.link.isOn = on := by
  rcases s.enable_cases on with ⟨rfl, _, h⟩ | ⟨settings, _, rfl, _, h⟩ | ⟨hl, h⟩
  · obtain ⟨t, ht, htunnel, _⟩ := s.turnOn_eq_startRelay
    rw [h, ht, t.rest_startRelay.1, htunnel]
    rfl
  · obtain ⟨_, ht⟩ := s.tunnel_turnOff settings
    rw [h, ht]
    rfl
  · rw [h]
    exact hl

/-- Turning the tunnel on or off touches neither servers nor detection. -/
theorem rest_enable (s : Station σ) (on : Bool) :
    (s.enable on).tunnel.servers = s.tunnel.servers ∧
      (s.enable on).tunnel.detection = s.tunnel.detection := by
  rcases s.enable_cases on with ⟨_, _, h⟩ | ⟨settings, _, _, _, h⟩ | ⟨_, h⟩
  · obtain ⟨t, ht, htunnel, _⟩ := s.turnOn_eq_startRelay
    rw [h, ht, t.rest_startRelay.2.1, t.rest_startRelay.2.2, htunnel]
    exact ⟨rfl, rfl⟩
  · obtain ⟨_, ht⟩ := s.tunnel_turnOff settings
    rw [h, ht]
    exact ⟨rfl, rfl⟩
  · rw [h]
    exact ⟨rfl, rfl⟩

theorem unfolds_enable (s : Station σ) (on : Bool) :
    s.world.Unfolds [.settings, .routing, .roster, .relay, .passing] (s.enable on).world := by
  rcases s.enable_cases on with ⟨_, _, h⟩ | ⟨settings, _, _, _, h⟩ | ⟨_, h⟩
  · rw [h]
    exact s.unfolds_turnOn.mono (by decide)
  · rw [h]
    exact (s.unfolds_turnOff settings).mono (by decide)
  · rw [h]
    exact Unfolds.refl.note _ rfl

/-- What happened on connecting anew: nothing, or the held relay was told, or one was started. -/
theorem reconnect_cases (s : Station σ) :
    (s.reconnect.tunnel = s.tunnel ∧ s.world.Unfolds [.relay] s.reconnect.world) ∨
    (s.tunnel.link.isOn = true ∧ s.tunnel.relay = none ∧ s.reconnect = s.startRelay) := by
  unfold reconnect
  split
  · next hon =>
    split
    · exact .inl ⟨rfl, Unfolds.refl.perform _ (by simp)⟩
    · next hr => exact .inr ⟨hon, hr, rfl⟩
  · exact .inl ⟨rfl, .refl⟩

/-- Connecting anew touches neither link nor servers nor detection. -/
theorem rest_reconnect (s : Station σ) : s.reconnect.tunnel.link = s.tunnel.link ∧
    s.reconnect.tunnel.servers = s.tunnel.servers ∧
      s.reconnect.tunnel.detection = s.tunnel.detection := by
  rcases s.reconnect_cases with ⟨ht, _⟩ | ⟨_, _, h⟩
  · rw [ht]
    exact ⟨rfl, rfl, rfl⟩
  · rw [h]
    exact s.rest_startRelay

theorem unfolds_reconnect (s : Station σ) :
    s.world.Unfolds [.roster, .relay, .passing] s.reconnect.world := by
  rcases s.reconnect_cases with ⟨_, h⟩ | ⟨_, _, h⟩
  · exact h.mono (by decide)
  · rw [h]
    exact s.unfolds_startRelay

/-! ### Detection -/

/-- Whatever the candidate was, there is none afterwards. -/
@[simp] theorem tunnel_abandon (s : Station σ) :
    s.abandon.tunnel =
      { s.tunnel with detection := { s.tunnel.detection with current := none } } := by
  unfold abandon
  dsimp only
  split <;> rfl

theorem core_abandon (s : Station σ) : s.abandon.tunnel.core = s.tunnel.core := by
  rw [tunnel_abandon]
  rfl

theorem unfolds_abandon (s : Station σ) : s.world.Unfolds [.probe] s.abandon.world := by
  unfold abandon
  dsimp only
  split
  · exact Unfolds.refl.perform _ (by simp)
  · exact .refl

@[simp] theorem tunnel_advance (s : Station σ) (candidate : Candidate) :
    (s.advance candidate).tunnel =
      { s.tunnel with detection := { s.tunnel.detection with current := some candidate } } := by
  rw [advance, tunnel_modify, tunnel_abandon]

/-- What happened when the candidate at a place was to be tried: there is none, or it has a probe
now, or it has none and its result was posted at once. -/
theorem startProbe_cases (s : Station σ) (index : Nat) :
    (Server.candidate? s.tunnel.servers index = none ∧ s.startProbe index = (false, s)) ∨
    (∃ server, Server.candidate? s.tunnel.servers index = some server ∧
      s.startProbe index =
        (true, (s.within (s.world.probing server s.tunnel.detection.run index)).advance
          ⟨index, some s.world.ledger.probes.length⟩)) ∨
    (∃ server, Server.candidate? s.tunnel.servers index = some server ∧
      s.startProbe index =
        (true, ((s.call (.missProbe server)).advance ⟨index, none⟩).post .tunnel
          (.probed false s.tunnel.detection.run index))) := by
  unfold startProbe
  cases Server.candidate? s.tunnel.servers index with
  | none => exact .inl ⟨rfl, rfl⟩
  | some server =>
    cases ho : Surroundings.offersProbe s.world.scene server with
    | true => exact .inr (.inl ⟨server, rfl, by simp [ho]; rfl⟩)
    | false => exact .inr (.inr ⟨server, rfl, by simp [ho]⟩)

/-- Trying a candidate changes nothing but the candidate. -/
theorem tunnel_startProbe (s : Station σ) (index : Nat) :
    ∃ current, (s.startProbe index).2.tunnel =
      { s.tunnel with detection := { s.tunnel.detection with current } } := by
  rcases s.startProbe_cases index with ⟨_, h⟩ | ⟨_, _, h⟩ | ⟨_, _, h⟩
  · exact ⟨s.tunnel.detection.current, by rw [h]⟩
  · exact ⟨_, by rw [h, tunnel_advance]; rfl⟩
  · exact ⟨_, by rw [h, tunnel_post, tunnel_advance]; rfl⟩

/-- If there is a candidate at the place it is the current one afterwards. -/
theorem tunnel_startProbe_of_isSome (s : Station σ) {index : Nat}
    (h : (Server.candidate? s.tunnel.servers index).isSome) :
    ∃ probe, (s.startProbe index).2.tunnel =
      { s.tunnel with
        detection := { s.tunnel.detection with current := some ⟨index, probe⟩ } } := by
  rcases s.startProbe_cases index with ⟨hn, _⟩ | ⟨_, _, he⟩ | ⟨_, _, he⟩
  · rw [hn] at h
    cases h
  · exact ⟨_, by rw [he, tunnel_advance]; rfl⟩
  · exact ⟨_, by rw [he, tunnel_post, tunnel_advance]; rfl⟩

theorem core_startProbe (s : Station σ) (index : Nat) :
    (s.startProbe index).2.tunnel.core = s.tunnel.core := by
  obtain ⟨current, h⟩ := s.tunnel_startProbe index
  rw [h]
  rfl

theorem unfolds_startProbe (s : Station σ) (index : Nat) :
    s.world.Unfolds [.probe] (s.startProbe index).2.world := by
  rcases s.startProbe_cases index with ⟨_, h⟩ | ⟨server, _, h⟩ | ⟨server, _, h⟩
  · rw [h]
    exact .refl
  · rw [h]
    exact (s.world.unfolds_probing server _ index).trans (unfolds_abandon (s.within _))
  · rw [h]
    have hm : s.world.Unfolds [.probe] (s.call (.missProbe server)).world :=
      Unfolds.refl.perform _ (by simp)
    exact (hm.trans (unfolds_abandon (s.call (.missProbe server)))).answer _ _ (by simp)

/-! ### Reports of the relay -/

theorem unfolds_goReady (s : Station σ) (relay : RelayId) (settings : EngineSettings) :
    s.world.Unfolds [.settings, .routing, .passing] (s.goReady relay settings).world :=
  (((Unfolds.refl.note _ rfl).perform _ (by simp)).performAll _ (by simp)).performAll _ (by simp)

/-- Once ready, signaling and media go through the relay. -/
theorem ledger_goReady (s : Station σ) (relay : RelayId) (settings : EngineSettings) :
    (s.goReady relay settings).world.ledger.hook = some s.tunnel.hook ∧
      (s.goReady relay settings).world.ledger.media = some relay ∧
      (s.goReady relay settings).world.ledger.engine.AreTunneled := by
  let t := ((s.note .linkUp).call (.setPolicy .noFirewall)).installHooks relay
  have ht : t.world.ledger =
      ⟨⟨s.world.ledger.engine.ports, .noFirewall⟩, some s.tunnel.hook, some relay,
        s.world.ledger.relays, s.world.ledger.probes⟩ := by
    rw [ledger_installHooks, world_call, World.ledger_perform]
    rfl
  have hl : (s.goReady relay settings).world.ledger =
      { t.world.ledger with
        engine := ⟨.udpOnly (ephemeralPort (Surroundings.randomBits t.world.scene)),
          t.world.ledger.engine.policy⟩ } := by
    simp [goReady, World.performAll, Ledger.apply, t]
  rw [hl, ht]
  exact ⟨rfl, rfl, EngineSettings.areTunneled_udpOnly _⟩

/-- Losing the connection changes nothing but the link. -/
theorem tunnel_goDisconnected (s : Station σ) (settings : EngineSettings) :
    (s.goDisconnected settings).tunnel = { s.tunnel with link := .on settings .disconnected } := by
  unfold goDisconnected
  dsimp only
  split <;> rfl

theorem unfolds_goDisconnected (s : Station σ) (settings : EngineSettings) :
    s.world.Unfolds [.passing] (s.goDisconnected settings).world := by
  unfold goDisconnected
  dsimp only
  split
  · exact (Unfolds.refl.note _ rfl).performAll _ (by simp)
  · exact Unfolds.refl.note _ rfl

/-! ### Events -/

/-- What happened on a relay's report: nothing, if no relay is held or the report is not the held
one's; nothing, if the link is off or has long been ready; or the link went ready or was lost. -/
theorem onConnectivity_cases (s : Station σ) (connected : Bool) (generation : Nat) :
    ((s.tunnel.relay = none ∨ generation ≠ s.tunnel.generation) ∧
      s.onConnectivity connected generation = s.note (.staleRelay generation)) ∨
    ∃ relay, s.tunnel.relay = some relay ∧ generation = s.tunnel.generation ∧
      ((s.tunnel.link = .off ∧ s.onConnectivity connected generation = s.note .relayWhileOff) ∨
      ∃ settings phase, s.tunnel.link = .on settings phase ∧
        ((connected = true ∧ phase = .ready ∧ s.onConnectivity connected generation = s) ∨
        ((connected = true ∧ phase ≠ .ready) ∧
          s.onConnectivity connected generation = s.goReady relay settings) ∨
        (connected = false ∧
          s.onConnectivity connected generation = s.goDisconnected settings))) := by
  unfold onConnectivity
  cases s.tunnel.relay with
  | none => exact .inl ⟨.inl rfl, rfl⟩
  | some relay =>
    by_cases hg : generation = s.tunnel.generation
    · refine .inr ⟨relay, rfl, hg, ?_⟩
      cases s.tunnel.link with
      | off => exact .inl ⟨rfl, by simp [hg]⟩
      | on settings phase =>
        refine .inr ⟨settings, phase, rfl, ?_⟩
        cases connected with
        | false => exact .inr (.inr ⟨rfl, by simp [hg]⟩)
        | true =>
          by_cases hp : phase = .ready
          · exact .inl ⟨rfl, hp, by simp [hg, hp]⟩
          · exact .inr (.inl ⟨⟨rfl, hp⟩, by simp [hg, hp]⟩)
    · exact .inl ⟨.inr hg, by simp [hg]⟩

/-- A relay's report does not turn the tunnel on or off, and touches neither servers nor
detection. -/
theorem rest_onConnectivity (s : Station σ) (connected : Bool) (generation : Nat) :
    (s.onConnectivity connected generation).tunnel.link.isOn = s.tunnel.link.isOn ∧
      (s.onConnectivity connected generation).tunnel.servers = s.tunnel.servers ∧
        (s.onConnectivity connected generation).tunnel.detection = s.tunnel.detection := by
  rcases s.onConnectivity_cases connected generation with
    ⟨_, h⟩ | ⟨_, _, _, ⟨_, h⟩ | ⟨settings, phase, hl, ⟨_, _, h⟩ | ⟨_, h⟩ | ⟨_, h⟩⟩⟩
  · rw [h]
    exact ⟨rfl, rfl, rfl⟩
  · rw [h]
    exact ⟨rfl, rfl, rfl⟩
  · rw [h]
    exact ⟨rfl, rfl, rfl⟩
  · rw [h, hl]
    exact ⟨rfl, rfl, rfl⟩
  · rw [h, hl, tunnel_goDisconnected]
    exact ⟨rfl, rfl, rfl⟩

/-- What happened on a probe's result: nothing, if it is not the current candidate's; or the tunnel
was turned off; or it was turned on, after the last candidate or with another one on trial. -/
theorem onProbed_cases (s : Station σ) (reachable : Bool) (run index : Nat) :
    (s.tunnel.detection.isCurrent run index = false ∧
      s.onProbed reachable run index = s.note (.staleProbe run index)) ∨
    (s.tunnel.detection.isCurrent run index = true ∧
      ((reachable = true ∧
        s.onProbed reachable run index = (s.note .tunnelNotRequired).abandon.enable false) ∨
      (reachable = false ∧ Server.candidate? s.tunnel.servers (index + 1) = none ∧
        s.onProbed reachable run index = (s.note (.tunnelRequired false)).abandon.enable true) ∨
      (reachable = false ∧ (Server.candidate? s.tunnel.servers (index + 1)).isSome ∧
        s.onProbed reachable run index =
          ((s.startProbe (index + 1)).2.note (.tunnelRequired true)).enable true))) := by
  unfold onProbed
  cases hc : s.tunnel.detection.isCurrent run index with
  | false => exact .inl ⟨rfl, rfl⟩
  | true =>
    refine .inr ⟨rfl, ?_⟩
    cases reachable with
    | true => exact .inl ⟨rfl, rfl⟩
    | false =>
      rcases s.startProbe_cases (index + 1) with ⟨hn, h⟩ | ⟨_, hn, h⟩ | ⟨_, hn, h⟩
      · exact .inr (.inl ⟨rfl, hn, by simp [h]⟩)
      · exact .inr (.inr ⟨rfl, by simp [hn], by simp [h]⟩)
      · exact .inr (.inr ⟨rfl, by simp [hn], by simp [h]⟩)

/-- Acting on a result keeps whatever is kept by notices, by giving candidates up, by turning on and
off, and by trying the next candidate when it is its turn. -/
theorem onProbed_induction {I : Station σ → Prop} {s : Station σ} {run index : Nat}
    (hnote : ∀ t notice, notice.handled? = none → I t → I (t.note notice))
    (habandon : ∀ t, I t → I t.abandon) (henable : ∀ t on, I t → I (t.enable on))
    (hnext : s.tunnel.detection.isCurrent run index = true → I (s.startProbe (index + 1)).2)
    (h : I s) (reachable : Bool) : I (s.onProbed reachable run index) := by
  rcases s.onProbed_cases reachable run index with
    ⟨_, he⟩ | ⟨hc, ⟨_, he⟩ | ⟨_, _, he⟩ | ⟨_, _, he⟩⟩
  · rw [he]
    exact hnote _ _ rfl h
  · rw [he]
    exact henable _ _ (habandon _ (hnote _ _ rfl h))
  · rw [he]
    exact henable _ _ (habandon _ (hnote _ _ rfl h))
  · rw [he]
    exact henable _ _ (hnote _ _ rfl (hnext hc))

theorem unfolds_onConnectivity (s : Station σ) (connected : Bool) (generation : Nat) :
    s.world.Unfolds [.settings, .routing, .passing]
      (s.onConnectivity connected generation).world := by
  rcases s.onConnectivity_cases connected generation with
    ⟨_, h⟩ | ⟨_, _, _, ⟨_, h⟩ | ⟨_, _, _, ⟨_, _, h⟩ | ⟨_, h⟩ | ⟨_, h⟩⟩⟩
  · rw [h]
    exact Unfolds.refl.note _ rfl
  · rw [h]
    exact Unfolds.refl.note _ rfl
  · rw [h]
    exact .refl
  · rw [h]
    exact unfolds_goReady _ _ _
  · rw [h]
    exact (unfolds_goDisconnected _ _).mono (by decide)

theorem unfolds_onProbed (s : Station σ) (reachable : Bool) (run index : Nat) :
    s.world.Unfolds [.settings, .routing, .roster, .relay, .probe, .passing]
      (s.onProbed reachable run index).world := by
  refine onProbed_induction
    (I := fun t => s.world.Unfolds [.settings, .routing, .roster, .relay, .probe, .passing] t.world)
    ?_ ?_ ?_ ?_ .refl reachable
  · exact fun t notice hn ht => ht.note notice hn
  · exact fun t ht => ht.andThen t.unfolds_abandon (by decide)
  · exact fun t on ht => ht.andThen (t.unfolds_enable on) (by decide)
  · exact fun _ => (s.unfolds_startProbe _).mono (by decide)

/-- An event is noted first, and then acted upon. -/
theorem unfolds_handle (s : Station σ) (posted : Posted) :
    (s.world.note (.handling posted)).Unfolds
      [.settings, .routing, .roster, .relay, .probe, .passing] (s.handle posted).world := by
  unfold handle
  cases posted.event with
  | connectivity connected generation =>
    exact (unfolds_onConnectivity (s.note (.handling posted)) _ _).mono (by decide)
  | probed reachable run index =>
    exact unfolds_onProbed (s.note (.handling posted)) _ _ _

/-! ### Requests -/

/-- Adding a server changes nothing but the list of servers. -/
theorem tunnel_addServer (s : Station σ) (server : Server) :
    (s.addServer server).tunnel = { s.tunnel with servers := s.tunnel.servers ++ [server] } := by
  unfold addServer
  dsimp only
  rw [tunnel_modify, tunnel_callRelay]
  split <;> rfl

theorem unfolds_addServer (s : Station σ) (server : Server) :
    s.world.Unfolds [.relay] (s.addServer server).world := by
  have hw : s.world.Unfolds [.relay]
      (if server.isUsable then s else s.note .hostlessServer).world := by
    split
    · exact .refl
    · exact Unfolds.refl.note _ rfl
  exact hw.trans (unfolds_callRelay (if server.isUsable then s else s.note .hostlessServer)
    fun _ => by simp)

theorem tunnel_clearServers (s : Station σ) :
    s.clearServers.tunnel =
      { s.tunnel with
        servers := []
        detection := { s.tunnel.detection with current := none } } := by
  rw [clearServers, tunnel_callRelay, tunnel_abandon]
  rfl

theorem unfolds_clearServers (s : Station σ) :
    s.world.Unfolds [.relay, .probe] s.clearServers.world :=
  ((unfolds_abandon (s.modify _)).mono (by decide)).trans (unfolds_callRelay _ fun _ => by simp)

theorem tunnel_setProxy (s : Station σ) (proxy : Proxy) :
    (s.setProxy proxy).tunnel = { s.tunnel with proxy } :=
  tunnel_callRelay _ _

theorem unfolds_setProxy (s : Station σ) (proxy : Proxy) :
    s.world.Unfolds [.relay] (s.setProxy proxy).world :=
  unfolds_callRelay (s.modify _) fun _ => by simp

theorem tunnel_setProxyAuth (s : Station σ) (username password : Option String) :
    (s.setProxyAuth username password).tunnel =
      { s.tunnel with proxy := { s.tunnel.proxy with username, password } } :=
  tunnel_callRelay _ _

theorem unfolds_setProxyAuth (s : Station σ) (username password : Option String) :
    s.world.Unfolds [.relay] (s.setProxyAuth username password).world :=
  unfolds_callRelay (s.modify _) fun _ => by simp

/-- Stopping detection gives the candidate up, and perhaps says so. -/
theorem stopAutoDetect_cases (s : Station σ) :
    ∃ t, (t = s ∨ t = s.note .detectionStopped) ∧ s.stopAutoDetect = t.abandon := by
  unfold stopAutoDetect
  split
  · exact ⟨_, .inr rfl, rfl⟩
  · exact ⟨_, .inl rfl, rfl⟩

/-- A new run, before its first candidate: the old one's candidate is given up, and the runs are
counted on. -/
def renumbered (s : Station σ) : Station σ :=
  s.abandon.modify fun t => { t with detection := { t.detection with run := t.detection.run + 1 } }

@[simp] theorem world_renumbered (s : Station σ) : s.renumbered.world = s.abandon.world := rfl

@[simp] theorem tunnel_renumbered (s : Station σ) :
    s.renumbered.tunnel = { s.tunnel with detection := ⟨s.tunnel.detection.run + 1, none⟩ } := by
  rw [renumbered, tunnel_modify, tunnel_abandon]

theorem unfolds_renumbered (s : Station σ) : s.world.Unfolds [.probe] s.renumbered.world :=
  s.unfolds_abandon

/-- Detection begins with the first candidate, under a new run and with no other one left. -/
theorem autoDetect_cases (s : Station σ) :
    (Server.candidate? s.tunnel.servers 0 = none ∧ s.autoDetect = s.note .nothingToProbe) ∨
    ((Server.candidate? s.tunnel.servers 0).isSome ∧
      ∃ t, (t = s ∨ t = s.note .detectionRestarted) ∧
        s.autoDetect = (t.renumbered.startProbe 0).2) := by
  unfold autoDetect
  cases Server.candidate? s.tunnel.servers 0 with
  | none => exact .inl ⟨rfl, rfl⟩
  | some server =>
    refine .inr ⟨rfl, ?_⟩
    cases s.tunnel.detection.inProgress with
    | true => exact ⟨_, .inr rfl, rfl⟩
    | false => exact ⟨_, .inl rfl, rfl⟩

theorem core_stopAutoDetect (s : Station σ) : s.stopAutoDetect.tunnel.core = s.tunnel.core := by
  obtain ⟨t, rfl | rfl, h⟩ := s.stopAutoDetect_cases
  · rw [h, core_abandon]
  · rw [h, core_abandon]
    rfl

theorem core_autoDetect (s : Station σ) : s.autoDetect.tunnel.core = s.tunnel.core := by
  rcases s.autoDetect_cases with ⟨_, h⟩ | ⟨_, t, rfl | rfl, h⟩
  · rw [h]
    rfl
  · rw [h, core_startProbe, tunnel_renumbered]
    rfl
  · rw [h, core_startProbe, tunnel_renumbered]
    rfl

theorem unfolds_stopAutoDetect (s : Station σ) :
    s.world.Unfolds [.probe] s.stopAutoDetect.world := by
  obtain ⟨t, rfl | rfl, h⟩ := s.stopAutoDetect_cases
  · rw [h]
    exact unfolds_abandon _
  · rw [h]
    exact (Unfolds.refl.note .detectionStopped rfl).trans
      (unfolds_abandon (s.note .detectionStopped))

theorem unfolds_autoDetect (s : Station σ) : s.world.Unfolds [.probe] s.autoDetect.world := by
  rcases s.autoDetect_cases with ⟨_, h⟩ | ⟨_, t, ht, h⟩
  · rw [h]
    exact Unfolds.refl.note _ rfl
  · rw [h]
    have hn : s.world.Unfolds [.probe] t.world := by
      rcases ht with rfl | rfl
      · exact .refl
      · exact Unfolds.refl.note _ rfl
    exact (hn.trans t.unfolds_renumbered).trans (t.renumbered.unfolds_startProbe 0)

/-- A request turns the tunnel on or off, or connects anew, or leaves the core of the tunnel alone
and tells the relay and probes at most. -/
theorem operate_cases (s : Station σ) {operation : Operation} (h : operation ≠ .iterate) :
    (∃ on, s.operate operation = s.enable on) ∨ s.operate operation = s.reconnect ∨
    ((s.operate operation).tunnel.core = s.tunnel.core ∧
      s.world.Unfolds [.relay, .probe] (s.operate operation).world) := by
  have hadd (server : Server) : (s.addServer server).tunnel.core = s.tunnel.core ∧
      s.world.Unfolds [.relay, .probe] (s.addServer server).world :=
    ⟨by rw [tunnel_addServer]; rfl, (s.unfolds_addServer server).mono (by decide)⟩
  cases operation with
  | addServer server => exact .inr (.inr (hadd server))
  | addServerWithReflector server reflector => exact .inr (.inr (hadd _))
  | clearServers =>
    have ht : s.clearServers.tunnel.core = s.tunnel.core := by rw [tunnel_clearServers]; rfl
    exact .inr (.inr ⟨ht, s.unfolds_clearServers⟩)
  | setProxy proxy =>
    have ht : (s.setProxy proxy).tunnel.core = s.tunnel.core := by rw [tunnel_setProxy]; rfl
    exact .inr (.inr ⟨ht, (s.unfolds_setProxy proxy).mono (by decide)⟩)
  | setProxyAuth username password =>
    have ht : (s.setProxyAuth username password).tunnel.core = s.tunnel.core := by
      rw [tunnel_setProxyAuth]
      rfl
    exact .inr (.inr ⟨ht, (s.unfolds_setProxyAuth username password).mono (by decide)⟩)
  | enable on => exact .inl ⟨on, rfl⟩
  | reconnect => exact .inr (.inl rfl)
  | autoDetect => exact .inr (.inr ⟨s.core_autoDetect, s.unfolds_autoDetect.mono (by decide)⟩)
  | stopAutoDetect =>
    exact .inr (.inr ⟨s.core_stopAutoDetect, s.unfolds_stopAutoDetect.mono (by decide)⟩)
  | iterate => exact absurd rfl h

/-- Every request but a tick is a matter of calls, notices and posts. -/
theorem unfolds_operate (s : Station σ) {operation : Operation} (h : operation ≠ .iterate) :
    s.world.Unfolds [.settings, .routing, .roster, .relay, .probe, .passing]
      (s.operate operation).world := by
  rcases s.operate_cases h with ⟨on, he⟩ | he | ⟨_, hu⟩
  · rw [he]
    exact (s.unfolds_enable on).mono (by decide)
  · rw [he]
    exact s.unfolds_reconnect.mono (by decide)
  · exact hu.mono (by decide)

/-! ### The end of the tunnel -/

/-- What becomes of the tunnel when it is dropped. The hook keeps what is left of it. -/
def ended (s : Station σ) : Station σ :=
  if s.abandon.tunnel.relay.isSome then s.abandon.stopRelay else s.abandon

theorem calls_drop (s : Station σ) : s.drop.calls = s.ended.world.calls := rfl

theorem unfolds_ended (s : Station σ) :
    s.world.Unfolds [.routing, .relay, .probe] s.ended.world := by
  have ha : s.world.Unfolds [.routing, .relay, .probe] s.abandon.world :=
    s.unfolds_abandon.mono (by decide)
  unfold ended
  split
  · exact ha.andThen s.abandon.unfolds_stopRelay (by decide)
  · exact ha

end Station

end SipOverRelay
