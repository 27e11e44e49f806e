import SipOverRelay.Proofs.Lives

/-!
# What a dropped tunnel leaves behind

A tunnel that is dropped ends its relay and gives the engines their own transports back, as turning
it off does. The settings it leaves as they are. As long as the link has not been ready since the
tunnel was turned on these are the settings that were found; afterwards they are those of a tunnel
that is no more, although the link has kept what the engine should get back.
-/

namespace SipOverRelay.Station

variable {σ : Type} {found : EngineSettings} {hook : Hook} {s : Station σ}

/-- While the link has not been ready nothing is installed. -/
theorem Governed.uninstalled_of_connecting (h : Governed found hook s)
    (hl : s.tunnel.link = .on found .connecting) : s.tunnel.hooksInstalled = false := by
  rcases h.whole with hu | ho
  · exact hu.installed
  · obtain ⟨phase, hphase, hne⟩ := ho.link
    rw [hl] at hphase
    cases hphase
    exact absurd rfl hne

variable [Surroundings σ]

/-- Dropping the tunnel does not touch the settings of the engine. -/
theorem engine_drop (s : Station σ) : s.drop.ledger.engine = s.world.ledger.engine :=
  s.unfolds_ended.engine_eq (by decide)

/-- A tunnel with nothing installed leaves the settings that were found. -/
theorem Governed.engine_drop_of_uninstalled (h : Governed found hook s)
    (hi : s.tunnel.hooksInstalled = false) : s.drop.ledger.engine = found := by
  rcases h.whole with hu | ho
  · exact s.engine_drop.trans hu.engine
  · have hinstalled := ho.installed
    rw [hi] at hinstalled
    cases hinstalled

/-- A tunnel with hook and media source installed leaves its own settings. -/
theorem Governed.engine_drop_of_installed (h : Governed found hook s)
    (hi : s.tunnel.hooksInstalled = true) : s.drop.ledger.engine.AreTunneled := by
  rcases h.whole with hu | ho
  · have huninstalled := hu.installed
    rw [hi] at huninstalled
    cases huninstalled
  · rw [s.engine_drop]
    exact ho.engine

/-- Turning the tunnel off, unlike dropping it, gives back what was found. -/
theorem Governed.untouched_turnedOff (h : Governed found hook s) :
    (s.enable false).Untouched found := by
  have hoff := s.isOn_enable false
  refine (h.enable false).untouched_of_off ?_
  cases hl : (s.enable false).tunnel.link with
  | off => rfl
  | on settings phase =>
    rw [hl] at hoff
    cases hoff

/-- Whenever a tunnel is dropped, neither hook nor media source is left, and the engine keeps the
settings that it has. If nothing was installed these are the ones that were found. Otherwise they
are the tunnel's own; turning it off instead would have given back what was found, which its link
has kept all the time. -/
theorem dropped_tunnel_leaves_settings (tuning : Tuning) (scene : σ) (found : EngineSettings)
    (run : List (Happening σ)) :
    let s := (fresh tuning scene found).after run
    s.drop.ledger.hook = none ∧ s.drop.ledger.media = none ∧
      s.drop.ledger.engine = s.world.ledger.engine ∧
      (s.tunnel.hooksInstalled = false → s.drop.ledger.engine = found) ∧
      (s.tunnel.hooksInstalled = true → s.drop.ledger.engine.AreTunneled) ∧
      ∀ settings phase, s.tunnel.link = .on settings phase →
        settings = found ∧ (phase = .connecting → s.tunnel.hooksInstalled = false) ∧
          (s.enable false).Untouched found := by
  intro s
  have hg : Governed found (fresh tuning scene found).tunnel.hook s :=
    (Reaches.start.after fun _ _ => trivial).of_kept (Governed.kept fun _ => True)
      (filed_fresh tuning scene found) (governed_fresh tuning scene found)
  obtain ⟨hhook, hmedia⟩ := hg.routing_drop
  refine ⟨hhook, hmedia, s.engine_drop, hg.engine_drop_of_uninstalled,
    hg.engine_drop_of_installed, fun settings phase hl => ?_⟩
  have hs : settings = found := hg.restores settings phase hl
  subst hs
  refine ⟨rfl, ?_, hg.untouched_turnedOff⟩
  rintro rfl
  exact hg.uninstalled_of_connecting hl

/-- The engine as it is found: behind a firewall, with three ports. -/
def firewalled : EngineSettings := ⟨⟨10000, 5060, 5061, 0⟩, .ice⟩

/-- A tunnel that is dropped while its relay has not connected yet leaves everything as it was
found. -/
theorem dropped_while_connecting_leaves_found :
    ∃ s : Station Rehearsal.Stage,
      s = (fresh {} {} firewalled).after [.operate (.enable true)] ∧
      s.tunnel.relay = some 0 ∧ s.tunnel.link = .on firewalled .connecting ∧
      s.drop.ledger.hook = none ∧ s.drop.ledger.media = none ∧
      s.drop.ledger.engine = firewalled := by
  obtain ⟨hhook, hmedia, _, hfound, _, hon⟩ := dropped_tunnel_leaves_settings {}
    ({} : Rehearsal.Stage) firewalled [.operate (.enable true)]
  obtain ⟨_, hconnecting, _⟩ := hon firewalled .connecting (by decide)
  exact ⟨_, rfl, by decide, by decide, hhook, hmedia, hfound (hconnecting rfl)⟩

/-- A tunnel that is dropped once its relay has connected leaves an engine that listens on the
tunnel's port and copes with no firewall. Turning it off would have given back what was found. -/
theorem dropped_while_ready_leaves_override :
    ∃ s : Station Rehearsal.Stage,
      s = (fresh {} {} firewalled).after
        [.operate (.enable true), .report (.relay 0 true), .operate .iterate] ∧
      s.tunnel.link = .on firewalled .ready ∧
      s.drop.ledger.engine = ⟨⟨1024, 0, 0, 0⟩, .noFirewall⟩ ∧
      s.drop.ledger.engine ≠ firewalled ∧
      (s.enable false).world.ledger.engine = firewalled :=
  ⟨_, rfl, by decide, by decide, by decide, by decide⟩

end SipOverRelay.Station
