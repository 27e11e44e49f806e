import SipOverRelay.Proofs.Course

/-!
# The legs of a run

A run goes from station to station. A tick takes the mail out and then handles one event after the
other; any other happening is a single leg. What every leg keeps holds wherever the run comes to,
and what the legs add up to is what the run comes to.
-/

namespace SipOverRelay

variable {σ : Type}

/-- A part of a run that leads from one station to the next. -/
structure Leg (σ : Type) where
  /-- The station before. -/
  before : Station σ
  /-- The station after. -/
  after : Station σ

namespace Leg

/-- The link goes ready on this leg. -/
def goesReady (leg : Leg σ) : Bool :=
  leg.after.tunnel.link.phase? = some .ready && leg.before.tunnel.link.phase? ≠ some .ready

/-- The tunnel is turned off on this leg. -/
def goesOff (leg : Leg σ) : Bool := leg.before.tunnel.link.isOn && !leg.after.tunnel.link.isOn

/-- A leg on which the link keeps its phase does not go ready. -/
theorem goesReady_eq_false {leg : Leg σ}
    (h : leg.after.tunnel.link.phase? = leg.before.tunnel.link.phase?) :
    leg.goesReady = false := by
  rw [goesReady, h]
  by_cases hp : leg.before.tunnel.link.phase? = some .ready <;> simp [hp]

/-- A leg on which the link stays on, or stays off, does not go off. -/
theorem goesOff_eq_false {leg : Leg σ}
    (h : leg.after.tunnel.link.isOn = leg.before.tunnel.link.isOn) : leg.goesOff = false := by
  rw [goesOff, h]
  exact Bool.and_not_self _

end Leg

/-- Everything that the ledger knows, it knows from the calls. -/
def World.Booked (start : Ledger) (w : World σ) : Prop := w.ledger = start.replay w.calls

namespace World.Booked

variable {start : Ledger} {w v : World σ}

theorem congr (h : w.Booked start) (hl : v.ledger = w.ledger) (hh : v.history = w.history) :
    v.Booked start := by
  rw [Booked, calls, hh, hl]
  exact h

theorem deliver (h : w.Booked start) (report : Report) : (w.deliver report).Booked start :=
  h.congr (w.deliver_frame report).2.1 (w.deliver_frame report).2.2.1

variable [Surroundings σ]

theorem perform (h : w.Booked start) (call : Call) : (w.perform call).Booked start := by
  rw [Booked, ledger_perform, calls_perform, Ledger.replay_cons, h]

/-- Whatever the tunnel does is booked. -/
theorem unfolds (h : w.Booked start) {aspects : List Aspect} (hu : w.Unfolds aspects v) :
    v.Booked start := by
  induction hu with
  | refl => exact h
  | perform _ call _ ih => exact ih.perform call
  | note _ _ _ ih => exact ih.congr rfl rfl
  | answer _ _ _ _ ih => exact ih.congr rfl rfl

end World.Booked

variable [Surroundings σ]

namespace Station

/-- The legs of handling some events, one after the other. -/
def legsOfBatch (s : Station σ) : List Posted → List (Leg σ)
  | [] => []
  | posted :: batch => ⟨s, s.handle posted⟩ :: (s.handle posted).legsOfBatch batch

/-- The legs of a happening: those of a tick, or a single one. -/
def legsOf (s : Station σ) : Happening σ → List (Leg σ)
  | .operate .iterate => ⟨s, s.emptied⟩ :: s.emptied.legsOfBatch s.world.mailbox.waiting
  | happening => [⟨s, s.meet happening⟩]

/-- The legs of a run, in order. -/
def legs (s : Station σ) : List (Happening σ) → List (Leg σ)
  | [] => []
  | happening :: run => s.legsOf happening ++ (s.meet happening).legs run

/-- A single leg may lead from one station to the next. -/
inductive LeadsTo (s : Station σ) : Station σ → Prop where
  /-- The owner makes a request that is no tick. -/
  | operate (operation : Operation) (ho : operation ≠ .iterate) : LeadsTo s (s.operate operation)
  /-- Something happens that is no request. -/
  | aside (happening : Happening σ) (ha : ∀ operation, happening ≠ .operate operation) :
    LeadsTo s (s.meet happening)
  /-- A tick takes the mail out. -/
  | take : LeadsTo s s.emptied
  /-- A tick handles an event. -/
  | handle (posted : Posted) : LeadsTo s (s.handle posted)

/-- A happening is a tick, or it is a single leg. -/
theorem legsOf_cases (s : Station σ) (happening : Happening σ) :
    happening = .operate .iterate ∨
      s.LeadsTo (s.meet happening) ∧ s.legsOf happening = [⟨s, s.meet happening⟩] := by
  cases happening with
  | operate operation =>
    by_cases ho : operation = .iterate
    · exact .inl (congrArg _ ho)
    · refine .inr ⟨.operate operation ho, ?_⟩
      cases operation <;> first | rfl | exact absurd rfl ho
  | post event => exact .inr ⟨.aside _ (by simp), rfl⟩
  | report report => exact .inr ⟨.aside _ (by simp), rfl⟩
  | stir change => exact .inr ⟨.aside _ (by simp), rfl⟩
  | send data dest => exact .inr ⟨.aside _ (by simp), rfl⟩
  | receive size => exact .inr ⟨.aside _ (by simp), rfl⟩

/-- What holds at first and is carried on by every leg holds of the legs and the station that a run
comes to. -/
theorem legs_induction {I : List (Leg σ) → Station σ → Prop}
    (hstep : ∀ past s t, I past s → s.LeadsTo t → I (past ++ [⟨s, t⟩]) t) {s : Station σ}
    (h : I [] s) (run : List (Happening σ)) : I (s.legs run) (s.after run) := by
  have hbatch (batch : List Posted) : ∀ (past : List (Leg σ)) (s : Station σ), I past s →
      I (past ++ s.legsOfBatch batch) (batch.foldl Station.handle s) := by
    induction batch with
    | nil =>
      intro past s h
      rw [legsOfBatch, List.append_nil]
      exact h
    | cons posted batch ih =>
      intro past s h
      have hn := ih _ _ (hstep past s _ h (.handle posted))
      rwa [List.append_assoc] at hn
  have hrun (run : List (Happening σ)) : ∀ (past : List (Leg σ)) (s : Station σ), I past s →
      I (past ++ s.legs run) (s.after run) := by
    induction run with
    | nil =>
      intro past s h
      rw [legs, List.append_nil]
      exact h
    | cons happening run ih =>
      intro past s h
      rw [legs, ← List.append_assoc]
      refine ih _ _ ?_
      rcases s.legsOf_cases happening with rfl | ⟨hl, he⟩
      -- On a tick the leg that empties the mailbox comes before those that handle its events.
      · have ht := hbatch s.world.mailbox.waiting _ _ (hstep past s _ h .take)
        rwa [List.append_assoc] at ht
      · rw [he]
        exact hstep past s _ h hl
  exact hrun run [] s h

/-- What every leg keeps holds after the run and at both ends of each of its legs. -/
theorem of_legs {I : Station σ → Prop} (hstep : ∀ s t, I s → s.LeadsTo t → I t) {s : Station σ}
    (h : I s) (run : List (Happening σ)) :
    I (s.after run) ∧
      ∀ leg ∈ s.legs run, I leg.before ∧ leg.before.LeadsTo leg.after ∧ I leg.after := by
  refine legs_induction
    (I := fun past t => I t ∧
      ∀ leg ∈ past, I leg.before ∧ leg.before.LeadsTo leg.after ∧ I leg.after)
    ?_ ⟨h, fun _ hm => absurd hm List.not_mem_nil⟩ run
  rintro past s t ⟨hs, hp⟩ hl
  have ht := hstep s t hs hl
  refine ⟨ht, fun leg hm => ?_⟩
  rcases List.mem_append.mp hm with hm | hm
  · exact hp leg hm
  · rw [List.mem_singleton.mp hm]
    exact ⟨hs, hl, ht⟩

/-- Every leg is booked. -/
theorem LeadsTo.booked {start : Ledger} {s t : Station σ} (h : s.LeadsTo t)
    (hb : s.world.Booked start) : t.world.Booked start := by
  cases h with
  | operate operation ho => exact hb.unfolds (unfolds_operate _ ho)
  | aside happening ha =>
    cases happening with
    | operate operation => exact absurd rfl (ha operation)
    | post event => exact hb.congr rfl rfl
    | report report => exact hb.deliver report
    | stir change => exact hb.congr rfl rfl
    | send data dest => exact hb.unfolds (Hook.unfolds_send _ _ _ _)
    | receive size => exact hb.unfolds (Hook.unfolds_receive _ _ _)
  | take => exact hb.congr rfl rfl
  | handle posted =>
    have hn : (s.note (.handling posted)).world.Booked start := hb.congr rfl rfl
    exact hn.unfolds (unfolds_handle _ _)

end Station

end SipOverRelay
