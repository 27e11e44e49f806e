import SipOverRelay.Proofs.Deregistration
import SipOverRelay.Rehearsal.Stage

/-!
# How often the engine is driven

The tunnel drives the engine while it waits for a registration to go, which it does before it turns
on or off, and once more when the connection is lost. An event turns the tunnel on or off at most
once. So the bound on the pauses of one wait bounds what turning on, turning off and a whole tick
ask of the engine.
-/

namespace SipOverRelay

variable {σ : Type}

/-- What is done between two states of the world does not drive the engine. -/
def World.Undriven (w v : World σ) : Prop :=
  ∃ more, v.calls = more ++ w.calls ∧ .driveEngine ∉ more

namespace World.Undriven

variable {u v w : World σ}

theorem of_calls (h : v.calls = w.calls) : w.Undriven v := ⟨[], h, List.not_mem_nil⟩

theorem trans (h : w.Undriven v) (k : v.Undriven u) : w.Undriven u := by
  obtain ⟨first, hf, hdf⟩ := h
  obtain ⟨second, hs, hds⟩ := k
  refine ⟨second ++ first, by rw [hs, hf, List.append_assoc], fun hm => ?_⟩
  exact (List.mem_append.mp hm).elim hds hdf

/-- The engine has been driven as often as before. -/
theorem count_eq (h : w.Undriven v) :
    v.calls.count .driveEngine = w.calls.count .driveEngine := by
  obtain ⟨more, hm, hd⟩ := h
  rw [hm, List.count_append, List.count_eq_zero.mpr hd, Nat.zero_add]

variable [Surroundings σ]

/-- One more call is made. -/
theorem perform (h : w.Undriven v) {call : Call} (hc : call ≠ .driveEngine) :
    w.Undriven (v.perform call) :=
  h.trans ⟨[call], v.calls_perform call, fun hm => hc (List.mem_singleton.mp hm).symm⟩

/-- What is told to relays and probes and how the engines are set up does not drive the engine. -/
theorem of_unfolds {aspects : List Aspect} (h : w.Unfolds aspects v) (ha : .passing ∉ aspects) :
    w.Undriven v := by
  obtain ⟨more, hm, haspects⟩ := h.calls_append
  exact ⟨more, hm, fun hd => ha (haspects _ hd)⟩

end World.Undriven

namespace Station

variable {s t u : Station σ}

/-- Between two stations the tuning stays and the engine is driven so often at most. -/
structure Drives (n : Nat) (s t : Station σ) : Prop where
  /-- The tuning stays. -/
  tuning : t.tunnel.tuning = s.tunnel.tuning
  /-- The engine is driven so often at most. -/
  count : t.world.calls.count .driveEngine ≤ s.world.calls.count .driveEngine + n

namespace Drives

variable {m n : Nat}

theorem of_undriven (ht : t.tunnel.tuning = s.tunnel.tuning) (hu : s.world.Undriven t.world) :
    Drives 0 s t :=
  ⟨ht, hu.count_eq.le⟩

theorem mono (h : Drives m s t) (hle : m ≤ n) : Drives n s t :=
  ⟨h.tuning, h.count.trans (Nat.add_le_add_left hle _)⟩

theorem trans (h : Drives m s t) (k : Drives n t u) : Drives (m + n) s u where
  tuning := k.tuning.trans h.tuning
  count := by
    have hm := h.count
    have hn := k.count
    omega

theorem note (s : Station σ) (notice : Notice) : Drives 0 s (s.note notice) := ⟨rfl, le_refl _⟩

end Drives

variable [Surroundings σ]

theorem undriven_startRelay (s : Station σ) : s.world.Undriven s.startRelay.world := by
  rcases s.unfolds_startRelay_or_missed with hu | ⟨why, he⟩
  · exact .of_unfolds hu (by decide)
  · rw [he]
    exact (World.Undriven.of_calls rfl).perform (by simp)

/-- Turning the tunnel on or off begins with a wait for the registration to go, and does not drive
the engine afterwards. -/
theorem undriven_enable (s : Station σ) {on : Bool} (h : s.tunnel.link.isOn ≠ on) :
    s.awaitDeregistration.2.world.Undriven (s.enable on).world := by
  -- The wait begins after a notice, and on the way on after a change of the link: neither matters.
  have hwait (t : Station σ) (hw : t.world.scene = s.world.scene)
      (ht : t.tunnel.tuning = s.tunnel.tuning) (hcalls : t.world.calls = s.world.calls) :
      s.awaitDeregistration.2.world.Undriven t.awaitDeregistration.2.world := by
    refine .of_calls ?_
    rw [calls_awaitDeregistration, calls_awaitDeregistration, waiting_congr hw ht, hcalls]
  rcases s.enable_cases on with ⟨_, _, he⟩ | ⟨settings, _, _, _, he⟩ | ⟨hl, _⟩
  · rw [he]
    exact (hwait ((s.note .turningOn).modify _) rfl rfl rfl).trans (undriven_startRelay _)
  · rw [he]
    have hw := hwait (s.note .turningOff) rfl rfl rfl
    have hstop := hw.trans (.of_unfolds (unfolds_stopRelay
      ((s.note .turningOff).awaitDeregistration.2.modify fun t => { t with link := .off }))
      (by decide))
    exact (hstop.trans (.of_unfolds (unfolds_restore _ settings) (by decide))).perform (by simp)
  · exact absurd hl h

theorem tuning_enable (s : Station σ) (on : Bool) :
    (s.enable on).tunnel.tuning = s.tunnel.tuning := by
  rcases s.enable_cases on with ⟨_, _, he⟩ | ⟨settings, _, _, _, he⟩ | ⟨_, he⟩
  · obtain ⟨t, ht, htunnel, _⟩ := s.turnOn_eq_startRelay
    rw [he, ht]
    rcases t.startRelay_cases with ⟨_, _, _, hs, _⟩ | ⟨_, hs, _⟩ | ⟨_, _, hs, _⟩ <;>
      rw [hs, htunnel]
  · obtain ⟨_, ht⟩ := s.tunnel_turnOff settings
    rw [he, ht]
  · rw [he]
    rfl

namespace Drives

/-- One wait for the registration to go. -/
theorem awaitDeregistration (s : Station σ) :
    Drives (s.tunnel.tuning.deregistrationPolls + 1) s s.awaitDeregistration.2 where
  tuning := congrArg _ s.tunnel_awaitDeregistration
  count := by
    have hwait := s.count_driveEngine_waiting
    rw [calls_awaitDeregistration, List.count_append]
    omega

/-- Turning the tunnel on or off takes one wait at most. -/
theorem enable (s : Station σ) (on : Bool) :
    Drives (s.tunnel.tuning.deregistrationPolls + 1) s (s.enable on) := by
  refine ⟨s.tuning_enable on, ?_⟩
  by_cases hon : s.tunnel.link.isOn = on
  · have he : s.enable on = s.note (.alreadyThere on) := by
      rcases s.enable_cases on with ⟨rfl, hl, _⟩ | ⟨_, _, rfl, hl, _⟩ | ⟨_, he⟩
      · simp [hl, Link.isOn] at hon
      · simp [hl, Link.isOn] at hon
      · exact he
    rw [he]
    exact Nat.le_add_right _ _
  · rw [(s.undriven_enable hon).count_eq]
    exact (awaitDeregistration s).count

/-- What was done before without driving the engine is no matter. -/
theorem thenEnable (h : Drives 0 s t) (on : Bool) :
    Drives (s.tunnel.tuning.deregistrationPolls + 1) s (t.enable on) := by
  have he := enable t on
  rw [h.tuning] at he
  exact (h.trans he).mono (Nat.zero_add _).le

theorem abandon (s : Station σ) : Drives 0 s s.abandon :=
  of_undriven (by rw [tunnel_abandon]) (.of_unfolds s.unfolds_abandon (by decide))

theorem startProbe (s : Station σ) (index : Nat) : Drives 0 s (s.startProbe index).2 := by
  obtain ⟨_, ht⟩ := s.tunnel_startProbe index
  exact of_undriven (by rw [ht]) (.of_unfolds (s.unfolds_startProbe index) (by decide))

theorem goReady (s : Station σ) (relay : RelayId) (settings : EngineSettings) :
    Drives 0 s (s.goReady relay settings) := by
  have hpolicy : s.world.Undriven ((s.note .linkUp).call (.setPolicy .noFirewall)).world :=
    (World.Undriven.of_calls rfl).perform (by simp)
  have hhooks : s.world.Undriven
      (((s.note .linkUp).call (.setPolicy .noFirewall)).installHooks relay).world :=
    (hpolicy.perform (by simp)).perform (by simp)
  exact of_undriven rfl ((hhooks.perform (by simp)).perform (by simp))

/-- A lost connection takes one iteration of the engine at most. -/
theorem goDisconnected (s : Station σ) (settings : EngineSettings) :
    Drives 1 s (s.goDisconnected settings) := by
  refine ⟨by rw [tunnel_goDisconnected], ?_⟩
  unfold Station.goDisconnected
  dsimp only
  split
  · have hcalls : (((s.note .linkLost).call .pauseRegistration).call .driveEngine).world.calls =
        .driveEngine :: .pauseRegistration :: s.world.calls := by
      rw [world_call, World.calls_perform, world_call, World.calls_perform]
      rfl
    refine (congrArg (List.count .driveEngine) hcalls).le.trans ?_
    simp
  · exact Nat.le_succ _

theorem onConnectivity (s : Station σ) (connected : Bool) (generation : Nat) :
    Drives (s.tunnel.tuning.deregistrationPolls + 1) s (s.onConnectivity connected generation) := by
  rcases s.onConnectivity_cases connected generation with
    ⟨_, he⟩ | ⟨relay, _, _, ⟨_, he⟩ | ⟨settings, _, _, ⟨_, _, he⟩ | ⟨_, he⟩ | ⟨_, he⟩⟩⟩
  · rw [he]
    exact (note s _).mono (Nat.zero_le _)
  · rw [he]
    exact (note s _).mono (Nat.zero_le _)
  · rw [he]
    exact ⟨rfl, Nat.le_add_right _ _⟩
  · rw [he]
    exact (goReady s relay settings).mono (Nat.zero_le _)
  · rw [he]
    exact (goDisconnected s settings).mono (Nat.succ_le_succ (Nat.zero_le _))

theorem onProbed (s : Station σ) (reachable : Bool) (run index : Nat) :
    Drives (s.tunnel.tuning.deregistrationPolls + 1) s (s.onProbed reachable run index) := by
  rcases s.onProbed_cases reachable run index with
    ⟨_, he⟩ | ⟨_, ⟨_, he⟩ | ⟨_, _, he⟩ | ⟨_, _, he⟩⟩
  · rw [he]
    exact (note s _).mono (Nat.zero_le _)
  · rw [he]
    exact ((note s _).trans (abandon _)).thenEnable false
  · rw [he]
    exact ((note s _).trans (abandon _)).thenEnable true
  · rw [he]
    exact ((startProbe s (index + 1)).trans (note _ _)).thenEnable true

/-- Handling an event takes one wait at most. -/
theorem handle (s : Station σ) (posted : Posted) :
    Drives (s.tunnel.tuning.deregistrationPolls + 1) s (s.handle posted) := by
  have hn := note s (.handling posted)
  unfold Station.handle
  cases posted.event with
  | connectivity connected generation =>
    exact (hn.trans (onConnectivity _ connected generation)).mono (Nat.zero_add _).le
  | probed reachable run index =>
    exact (hn.trans (onProbed _ reachable run index)).mono (Nat.zero_add _).le

/-- Handling some events takes as many waits at most. -/
theorem handleAll (s : Station σ) (batch : List Posted) :
    Drives (batch.length * (s.tunnel.tuning.deregistrationPolls + 1)) s
      (batch.foldl Station.handle s) := by
  induction batch generalizing s with
  | nil => exact (of_undriven rfl (.of_calls rfl)).mono (Nat.zero_le _)
  | cons posted batch ih =>
    have hfirst := handle s posted
    have hrest := ih (s.handle posted)
    rw [hfirst.tuning] at hrest
    refine (hfirst.trans hrest).mono ?_
    rw [List.length_cons, Nat.succ_mul, Nat.add_comm]

/-- A tick takes a wait for each event at most. -/
theorem iterate (s : Station σ) :
    Drives (s.world.mailbox.waiting.length * (s.tunnel.tuning.deregistrationPolls + 1)) s
      s.iterate := by
  have hemptied : Drives 0 s s.emptied := ⟨rfl, le_refl _⟩
  exact (hemptied.trans (handleAll s.emptied s.world.mailbox.waiting)).mono (Nat.zero_add _).le

end Drives

/-- Whatever the engine answers, a wait for the registration to go is bounded. An engine that is not
registered is left in peace. Any other is asked to take the registration back, and looked at until
it has done so or the pauses are used up: it is driven once for each look, which is once more than
there are pauses, and a notice is written only if even the last look was in vain. Turning the tunnel
on or off begins with the calls of that wait and does not drive the engine afterwards; a tick drives
it as often as so many waits do as there are events, at most. -/
theorem wait_for_deregistration_is_bounded (s : Station σ) :
    let most := s.tunnel.tuning.deregistrationPolls
    let first := firstYes (gone s.tunnel.pause (s.call .pauseRegistration).world.scene)
    (Surroundings.isRegistered s.world.scene = false → s.awaitDeregistration = (0, s)) ∧
    (Surroundings.isRegistered s.world.scene = true →
      ∃ pauses : Nat, pauses = min first most ∧ s.awaitDeregistration.1 = pauses ∧
        s.awaitDeregistration.2.world.calls =
          polling s.tunnel.pause pauses ++ .pauseRegistration :: s.world.calls ∧
        (polling s.tunnel.pause pauses).count .driveEngine = pauses + 1 ∧
        (polling s.tunnel.pause pauses).count (.sleep s.tunnel.pause) = pauses ∧
        s.awaitDeregistration.2.world.notices =
          (if most < first then [.deregistrationTimeout] else []) ++ s.world.notices) ∧
    (∀ on, s.tunnel.link.isOn ≠ on →
      ∃ done, (s.enable on).world.calls = done ++ s.awaitDeregistration.2.world.calls ∧
        .driveEngine ∉ done) ∧
    s.awaitDeregistration.2.world.calls.count .driveEngine ≤
      s.world.calls.count .driveEngine + (most + 1) ∧
    s.iterate.world.calls.count .driveEngine ≤
      s.world.calls.count .driveEngine + s.world.mailbox.waiting.length * (most + 1) := by
  intro most first
  refine ⟨awaitDeregistration_of_unregistered, fun hr => ?_, fun on hon => s.undriven_enable hon,
    (Drives.awaitDeregistration s).count, (Drives.iterate s).count⟩
  have hpolled := polled_awaitDeregistration hr
  refine ⟨s.awaitDeregistration.1, hpolled.more_eq, rfl, ?_, count_driveEngine_polling _ _,
    count_sleep_polling _ _, ?_⟩
  · rw [hpolled.calls, world_call, World.calls_perform]
    rfl
  · have hnotices := hpolled.notices_eq
    rwa [world_call, World.notices_perform] at hnotices

/-- An engine that takes its registration back in three iterations, and a tunnel that allows for
just as many looks. -/
def unhurried : Station Rehearsal.Stage :=
  fresh { deregistrationPolls := 2 } { registration := .registered, deregisterAfter := some 3 }
    ⟨⟨10000, 5060, 5061, 0⟩, .ice⟩

/-- The last look finds the registration gone. Both pauses have been made then, the engine has been
driven three times, which is all that turning on asks of it, and nothing is noted. -/
theorem unhurried_is_gone_at_last_look :
    Surroundings.isRegistered unhurried.world.scene = true ∧
      unhurried.awaitDeregistration.1 = 2 ∧
      unhurried.awaitDeregistration.2.world.calls =
        [.driveEngine, .sleep 20000, .driveEngine, .sleep 20000, .driveEngine,
          .pauseRegistration] ∧
      unhurried.awaitDeregistration.2.world.notices = [] ∧
      unhurried.tunnel.link.isOn ≠ true ∧
      ∃ done, (unhurried.enable true).world.calls =
        done ++ unhurried.awaitDeregistration.2.world.calls ∧ .driveEngine ∉ done := by
  have hr : Surroundings.isRegistered unhurried.world.scene = true := by decide
  have hoff : unhurried.tunnel.link.isOn ≠ true := by decide
  have hfirst : firstYes (gone unhurried.tunnel.pause
      (unhurried.call .pauseRegistration).world.scene) = 2 :=
    firstYes_eq (n := 2) (by decide) (by decide)
  have hmost : ((unhurried.tunnel.tuning.deregistrationPolls : Nat) : ℕ∞) = 2 := rfl
  obtain ⟨_, hwait, henable, _⟩ := wait_for_deregistration_is_bounded unhurried
  obtain ⟨pauses, hpauses, hfst, hcalls, _, _, hnotices⟩ := hwait hr
  rw [hfirst, hmost, min_self] at hpauses
  rw [hfirst, hmost, if_neg (lt_irrefl _)] at hnotices
  have htwo : pauses = 2 := by exact_mod_cast hpauses
  subst htwo
  exact ⟨hr, hfst, hcalls, hnotices, hoff, henable true hoff⟩

end Station

end SipOverRelay
