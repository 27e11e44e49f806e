import SipOverRelay.Proofs.Course

/-!
# The override of the engine

The tunnel takes five things over from the engines: the ports, the firewall policy, the hook, the
source of streams, and its own note that the last two are installed. They are switched by separate
calls, and yet they stand together after everything that may happen: either the engines work as they
were found, or they work through the held relay altogether.
-/

namespace SipOverRelay.Station

variable {σ : Type} {found : EngineSettings} {hook : Hook} {s t : Station σ}

/-- The engines work on their own, with the settings that were found. -/
structure Untouched (found : EngineSettings) (s : Station σ) : Prop where
  /-- The tunnel knows that nothing is installed. -/
  installed : s.tunnel.hooksInstalled = false
  /-- The signaling engine has its native transport. -/
  hook : s.world.ledger.hook = none
  /-- The media engine has its own sockets. -/
  media : s.world.ledger.media = none
  /-- The signaling engine has its own settings. -/
  engine : s.world.ledger.engine = found

/-- The engines work through the tunnel, which keeps the settings that were found. -/
structure Overridden (found : EngineSettings) (s : Station σ) : Prop where
  /-- The tunnel knows that hook and media source are installed. -/
  installed : s.tunnel.hooksInstalled = true
  /-- The signaling engine works through the tunnel's hook. -/
  hook : s.world.ledger.hook = some s.tunnel.hook
  /-- The media engine gets its streams from the held relay. -/
  media : ∃ relay, s.tunnel.relay = some relay ∧ s.world.ledger.media = some relay
  /-- The signaling engine copes with no firewall and listens on one port, for datagrams, that was
  drawn for it and is none of the reserved ones. -/
  engine : s.world.ledger.engine.AreTunneled
  /-- The link has been ready since the tunnel was turned on, and keeps what was found. -/
  link : ∃ phase, s.tunnel.link = .on found phase ∧ phase ≠ .connecting

/-- The two situations exclude each other. -/
theorem Untouched.not_overridden (h : Untouched found s) : ¬ Overridden found s := by
  intro ho
  have hi := h.installed
  rw [ho.installed] at hi
  cases hi

/-- What every happening keeps: one of the two situations holds, a link that is on will give back
what was found, and the hook is the one that the tunnel was built with. -/
structure Governed (found : EngineSettings) (hook : Hook) (s : Station σ) : Prop where
  /-- The tunnel's hook never changes. -/
  own : s.tunnel.hook = hook
  /-- Only the settings that were found are given back. -/
  restores : ∀ settings phase, s.tunnel.link = .on settings phase → settings = found
  /-- One of the two situations holds. -/
  whole : Untouched found s ∨ Overridden found s

/-- A link that is off leaves the engines untouched. -/
theorem Governed.untouched_of_off (h : Governed found hook s) (hl : s.tunnel.link = .off) :
    Untouched found s := by
  rcases h.whole with hu | ho
  · exact hu
  · obtain ⟨phase, hp, _⟩ := ho.link
    rw [hl] at hp
    cases hp

/-- Where settings and routing of the engines stay, they stay untouched. -/
theorem Untouched.congr (h : Untouched found s)
    (he : t.world.ledger.engine = s.world.ledger.engine)
    (hr : t.world.ledger.hook = s.world.ledger.hook ∧ t.world.ledger.media = s.world.ledger.media)
    (hi : t.tunnel.hooksInstalled = s.tunnel.hooksInstalled) : Untouched found t where
  installed := hi.trans h.installed
  hook := hr.1.trans h.hook
  media := hr.2.trans h.media
  engine := he.trans h.engine

/-- Where settings and routing of the engines and the core of the tunnel stay, nothing changes
here. -/
theorem Governed.congr (h : Governed found hook s)
    (he : t.world.ledger.engine = s.world.ledger.engine)
    (hr : t.world.ledger.hook = s.world.ledger.hook ∧ t.world.ledger.media = s.world.ledger.media)
    (hc : t.tunnel.core = s.tunnel.core) : Governed found hook t := by
  obtain ⟨hhook, hinstalled, hrelay, _, hlink⟩ := Tunnel.core_eq_iff.mp hc
  refine ⟨hhook.trans h.own, ?_, ?_⟩
  · rw [hlink]
    exact h.restores
  · rcases h.whole with hw | hw
    · exact .inl (hw.congr he hr hinstalled)
    · refine .inr ⟨hinstalled.trans hw.installed, ?_, ?_, ?_, ?_⟩
      · rw [hr.1, hhook]
        exact hw.hook
      · rw [hr.2, hrelay]
        exact hw.media
      · rw [he]
        exact hw.engine
      · rw [hlink]
        exact hw.link

theorem Governed.note (h : Governed found hook s) (notice : Notice) :
    Governed found hook (s.note notice) :=
  h.congr rfl ⟨rfl, rfl⟩ rfl

variable [Surroundings σ]

/-- Calls about neither settings nor routing keep the engines untouched. -/
theorem Untouched.of_unfolds (h : Untouched found s) {aspects : List Aspect}
    (hu : s.world.Unfolds aspects t.world) (hi : t.tunnel.hooksInstalled = s.tunnel.hooksInstalled)
    (ha : aspects ⊆ [.roster, .relay, .probe, .traffic, .passing]) : Untouched found t := by
  have hw := hu.mono ha
  exact h.congr (hw.engine_eq (by decide)) (hw.routing_eq (by decide)) hi

namespace Governed

/-- What touches neither the core of the tunnel nor settings and routing changes nothing here. -/
theorem of_unfolds (h : Governed found hook s) {aspects : List Aspect}
    (hu : s.world.Unfolds aspects t.world) (hc : t.tunnel.core = s.tunnel.core)
    (ha : aspects ⊆ [.roster, .relay, .probe, .traffic, .passing]) : Governed found hook t := by
  have hw := hu.mono ha
  exact h.congr (hw.engine_eq (by decide)) (hw.routing_eq (by decide)) hc

/-- Starting a relay does not touch the engines: if they are overridden, a relay is held already. -/
theorem startRelay (h : Governed found hook s) : Governed found hook s.startRelay := by
  rcases s.startRelay_cases with ⟨_, _, _, ht, hu⟩ | ⟨_, ht, hu⟩ | ⟨signaling, hr, ht, hu⟩
  · exact h.of_unfolds hu (by rw [ht]; rfl) (by decide)
  · exact h.of_unfolds hu (by rw [ht]) (by decide)
  · have hw : Untouched found s := by
      rcases h.whole with hw | hw
      · exact hw
      · obtain ⟨relay, hm, _⟩ := hw.media
        rw [hr] at hm
        cases hm
    refine ⟨?_, ?_, .inl (hw.of_unfolds s.unfolds_startRelay ?_ (by decide))⟩
    · rw [ht]
      exact h.own
    · rw [ht]
      exact h.restores
    · rw [ht]

/-- The settings that turning on remembers are the ones that were found. -/
theorem turnOn (h : Governed found hook s) (hl : s.tunnel.link = .off) :
    Governed found hook s.turnOn := by
  have hw := h.untouched_of_off hl
  obtain ⟨t, ht, htunnel, hu⟩ := s.turnOn_eq_startRelay
  have hg : Governed found hook t := by
    refine ⟨?_, ?_, .inl (hw.of_unfolds hu ?_ (by decide))⟩
    · rw [htunnel]
      exact h.own
    · intro settings phase hon
      rw [htunnel, hw.engine] at hon
      cases hon
      rfl
    · rw [htunnel]
  rw [ht]
  exact hg.startRelay

/-- Turning off gives back what was found. -/
theorem turnOff (h : Governed found hook s) {settings : EngineSettings} {phase : Phase}
    (hl : s.tunnel.link = .on settings phase) : Governed found hook (s.turnOff settings) := by
  obtain ⟨signaling, ht⟩ := s.tunnel_turnOff settings
  obtain ⟨hhook, hmedia, hengine⟩ := s.ledger_turnOff settings
  refine ⟨?_, ?_, .inl ⟨?_, hhook, hmedia, ?_⟩⟩
  · rw [ht]
    exact h.own
  · intro settings phase hon
    rw [ht] at hon
    cases hon
  · rw [ht]
  · rw [hengine]
    exact h.restores _ _ hl

theorem enable (h : Governed found hook s) (on : Bool) : Governed found hook (s.enable on) := by
  rcases s.enable_cases on with ⟨_, hl, he⟩ | ⟨settings, phase, _, hl, he⟩ | ⟨_, he⟩
  · rw [he]
    exact h.turnOn hl
  · rw [he]
    exact h.turnOff hl
  · rw [he]
    exact h.note _

/-- Going ready overrides the engines, whatever the situation was. -/
theorem goReady (h : Governed found hook s) {relay : RelayId} {settings : EngineSettings}
    {phase : Phase} (hr : s.tunnel.relay = some relay) (hl : s.tunnel.link = .on settings phase) :
    Governed found hook (s.goReady relay settings) := by
  obtain ⟨hhook, hmedia, hengine⟩ := s.ledger_goReady relay settings
  have hs := h.restores _ _ hl
  subst hs
  have ho : Overridden settings (s.goReady relay settings) :=
    ⟨rfl, hhook, ⟨relay, hr, hmedia⟩, hengine, .ready, rfl, by decide⟩
  refine ⟨h.own, ?_, .inr ho⟩
  intro _ _ hon
  cases hon
  rfl

/-- Losing the connection leaves the engines in their situation. -/
theorem goDisconnected (h : Governed found hook s) {settings : EngineSettings} {phase : Phase}
    (hl : s.tunnel.link = .on settings phase) :
    Governed found hook (s.goDisconnected settings) := by
  have hs := h.restores _ _ hl
  subst hs
  have ht := s.tunnel_goDisconnected settings
  have hu := s.unfolds_goDisconnected settings
  have hrouting := hu.routing_eq (by decide)
  refine ⟨?_, ?_, ?_⟩
  · rw [ht]
    exact h.own
  · intro _ _ hon
    rw [ht] at hon
    cases hon
    rfl
  · rcases h.whole with hw | hw
    · exact .inl (hw.of_unfolds hu (by rw [ht]) (by decide))
    · refine .inr ⟨?_, ?_, ?_, ?_, .disconnected, ?_, by decide⟩
      · rw [ht]
        exact hw.installed
      · rw [hrouting.1, ht]
        exact hw.hook
      · rw [hrouting.2, ht]
        exact hw.media
      · rw [hu.engine_eq (by decide)]
        exact hw.engine
      · rw [ht]

theorem onConnectivity (h : Governed found hook s) (connected : Bool) (generation : Nat) :
    Governed found hook (s.onConnectivity connected generation) := by
  rcases s.onConnectivity_cases connected generation with
    ⟨_, he⟩ | ⟨relay, hr, _, ⟨_, he⟩ | ⟨settings, phase, hl, ⟨_, _, he⟩ | ⟨_, he⟩ | ⟨_, he⟩⟩⟩
  · rw [he]
    exact h.note _
  · rw [he]
    exact h.note _
  · rw [he]
    exact h
  · rw [he]
    exact h.goReady hr hl
  · rw [he]
    exact h.goDisconnected hl

/-- Giving a candidate up is no matter. -/
theorem abandon (h : Governed found hook s) : Governed found hook s.abandon :=
  h.of_unfolds s.unfolds_abandon s.core_abandon (by decide)

/-- Trying a candidate is no matter. -/
theorem startProbe (h : Governed found hook s) (index : Nat) :
    Governed found hook (s.startProbe index).2 :=
  h.of_unfolds (s.unfolds_startProbe index) (s.core_startProbe index) (by decide)

theorem onProbed (h : Governed found hook s) (reachable : Bool) (run index : Nat) :
    Governed found hook (s.onProbed reachable run index) := by
  refine onProbed_induction ?_ ?_ ?_ ?_ h reachable
  · exact fun _ notice _ ht => ht.note notice
  · exact fun _ ht => ht.abandon
  · exact fun _ on ht => ht.enable on
  · exact fun _ => h.startProbe (index + 1)

theorem operate (h : Governed found hook s) {operation : Operation} (ho : operation ≠ .iterate) :
    Governed found hook (s.operate operation) := by
  rcases s.operate_cases ho with ⟨on, he⟩ | he | ⟨hc, hu⟩
  · rw [he]
    exact h.enable on
  · rw [he]
    rcases s.reconnect_cases with ⟨ht, hu⟩ | ⟨_, _, he⟩
    · exact h.of_unfolds hu (congrArg _ ht) (by decide)
    · rw [he]
      exact h.startRelay
  · exact h.of_unfolds hu hc (by decide)

/-- Handling an event keeps the engines in one of the two situations. -/
theorem handle (h : Governed found hook s) (posted : Posted) :
    Governed found hook (s.handle posted) := by
  have hn := h.note (.handling posted)
  unfold Station.handle
  cases posted.event with
  | connectivity connected generation => exact hn.onConnectivity connected generation
  | probed reachable run index => exact hn.onProbed reachable run index

/-- Every step of a run keeps the engines in one of the two situations. -/
theorem kept (allowed : Happening σ → Prop) : Kept allowed fun _ s => Governed found hook s where
  operate _ _ _ h _ ho := h.operate ho
  post _ _ _ _ h _ := h.congr rfl ⟨rfl, rfl⟩ rfl
  report _ s report _ h := by
    have hl := (s.world.deliver_frame report).2.1
    exact h.congr (congrArg _ hl) ⟨congrArg _ hl, congrArg _ hl⟩ rfl
  stir _ _ _ h := h.congr rfl ⟨rfl, rfl⟩ rfl
  hook _ _ _ _ h hu := h.of_unfolds hu rfl (by decide)
  tick _ _ h := h.congr rfl ⟨rfl, rfl⟩ rfl
  handle _ _ _ _ h := h.handle _

end Governed

/-- A new tunnel has not touched the engines. -/
theorem governed_fresh (tuning : Tuning) (scene : σ) (found : EngineSettings) :
    Governed found (fresh tuning scene found).tunnel.hook (fresh tuning scene found) where
  own := rfl
  restores := nofun
  whole := .inl ⟨rfl, rfl, rfl, rfl⟩

/-- After any run exactly one of two situations holds: the engines work on their own with the
settings that were found, or they work through the held relay and the very hook that the tunnel was
built with. Nothing is assumed of what is posted, of the relays or of the probes. -/
theorem untouched_xor_overridden (tuning : Tuning) (scene : σ) (found : EngineSettings)
    (run : List (Happening σ)) :
    ((fresh tuning scene found).after run).tunnel.hook = (fresh tuning scene found).tunnel.hook ∧
      (((fresh tuning scene found).after run).Untouched found ∨
        ((fresh tuning scene found).after run).Overridden found) ∧
      ¬ (((fresh tuning scene found).after run).Untouched found ∧
        ((fresh tuning scene found).after run).Overridden found) := by
  have hr : (fresh tuning scene found).Reaches (fun _ => True) []
      ((fresh tuning scene found).after run) :=
    Reaches.start.after fun _ _ => trivial
  have hg := hr.of_kept (Governed.kept _) (filed_fresh tuning scene found)
    (governed_fresh tuning scene found)
  refine ⟨hg.own, hg.whole, ?_⟩
  rintro ⟨hu, ho⟩
  exact hu.not_overridden ho

end SipOverRelay.Station
