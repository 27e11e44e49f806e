import SipOverRelay.Proofs.Lives

/-!
# What a ready tunnel signals through

A relay is asked for the signaling stream once, right after it has been started. What it answers
then is what the tunnel signals through for as long as it holds the relay: neither a report that the
relay is connected nor connecting anew asks again. So a relay that refused the stream and connects
later makes the tunnel ready all the same, and every datagram that the signaling engine sends from
then on counts as sent and goes nowhere.
-/

namespace SipOverRelay

variable {σ : Type} [Surroundings σ]

/-- Sending through the hook comes down to one call to the signaling stream, if there is one. -/
theorem Hook.calls_send (w : World σ) (signaling : Option StreamId) (data : Bytes)
    (dest : Address) : (Hook.send w signaling data dest).2.calls =
      (signaling.map (Call.send · data dest)).toList ++ w.calls := by
  unfold Hook.send World.sendOn
  cases signaling with
  | none => rfl
  | some stream =>
    have hs : (w.perform (.send stream data dest)).calls = .send stream data dest :: w.calls :=
      w.calls_perform _
    dsimp only
    rcases Surroundings.sendAnswer w.scene stream data dest with why | length
    · exact hs
    · exact hs

namespace Station

/-- In every run a ready tunnel signals through the stream that the held relay opened when it was
asked, which was once; if the relay refused then, nothing is sent and all counts as sent. -/
theorem ready_signals_through_first_answer (tuning : Tuning) (scene : σ) (found : EngineSettings)
    (run : List (Happening σ)) :
    let s := (fresh tuning scene found).after run
    s.isReady = true → ∃ relay opened port, s.tunnel.relay = some relay ∧
      (s.world.biography relay).filter Call.isMilestone =
        [.startRelay relay, if opened then .openStream relay port else .missStream relay port] ∧
      s.tunnel.signaling = firstStream relay opened ∧
      ∀ data dest,
        (Hook.send s.world s.tunnel.signaling data dest).2.calls =
          (if opened then [.send ⟨relay, 0⟩ data dest] else []) ++ s.world.calls ∧
        (opened = false → (Hook.send s.world s.tunnel.signaling data dest).1 = data.length) := by
  intro s hready
  have horderly : Orderly found ((fresh tuning scene found).legs run) s :=
    orderly_after tuning scene found run
  obtain ⟨relay, held, _⟩ := (Option.any_eq_true _ _).mp (Bool.and_eq_true_iff.mp hready).2
  obtain ⟨opened, hl, hs⟩ := horderly.lived relay (horderly.lt_of_held held)
  obtain ⟨port, hport⟩ := hl.milestones
  refine ⟨relay, opened, port, held, by simpa [held] using hport, hs held, fun data dest => ?_⟩
  rw [hs held]
  refine ⟨?_, fun hrefused => ?_⟩
  · rw [Hook.calls_send]
    cases opened <;> rfl
  · rw [hrefused]
    rfl

/-- The tunnel is turned on, and its relay connects at once; the next tick hears of it. -/
def connected (stage : Rehearsal.Stage) : Station Rehearsal.Stage :=
  (fresh {} { stage with connectsOnStart := true } ⟨⟨5060, 5060, 5061, 0⟩, .stun⟩).after
    [.operate (.enable true), .operate .iterate]

/-- A relay that opened the stream carries what is sent. -/
theorem opened_stream_carries_signaling :
    (connected {}).isReady = true ∧ (connected {}).tunnel.signaling = some ⟨0, 0⟩ ∧
      ∀ data dest,
        (Hook.send (connected {}).world (connected {}).tunnel.signaling data dest).2.calls =
          .send ⟨0, 0⟩ data dest :: (connected {}).world.calls := by
  have hready : (connected {}).isReady = true := by decide
  have hstream : (connected {}).tunnel.signaling = some ⟨0, 0⟩ := by decide
  obtain ⟨relay, opened, _, _, _, hs, hsend⟩ :=
    ready_signals_through_first_answer {} _ _ _ hready
  refine ⟨hready, hstream, fun data dest => ?_⟩
  have hfirst : firstStream relay opened = some ⟨0, 0⟩ := hs.symm.trans hstream
  cases opened with
  | false => cases hfirst
  | true =>
    have hrelay : relay = 0 := congrArg StreamId.relay (Option.some.inj hfirst)
    subst hrelay
    exact (hsend data dest).1

/-- A relay that has refused the stream connects. Later it would open streams, the tunnel connects
anew, and the relay reports once more. -/
def refused : Station Rehearsal.Stage :=
  (connected { refusesStreams := true }).after
    [.stir fun stage => stage.onRelay 0 fun relay => { relay with refusesStreams := false },
      .operate .reconnect, .report (.relay 0 true), .operate .iterate]

/-- All the time the tunnel is ready without a signaling stream, and what is sent goes nowhere. -/
theorem refused_stream_leaves_ready_tunnel_silent :
    (connected { refusesStreams := true }).isReady = true ∧
      (connected { refusesStreams := true }).tunnel.signaling = none ∧
      refused.isReady = true ∧ refused.tunnel.signaling = none ∧
      ∀ data dest, Hook.send refused.world refused.tunnel.signaling data dest =
        (data.length, refused.world) := by
  have hnone : refused.tunnel.signaling = none := by decide
  refine ⟨by decide, by decide, by decide, hnone, fun data dest => ?_⟩
  rw [hnone]
  rfl

end Station

end SipOverRelay
