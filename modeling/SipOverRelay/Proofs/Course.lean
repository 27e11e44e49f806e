import SipOverRelay.Proofs.Conduct
import SipOverRelay.Proofs.Mail

/-!
# The course of a run

A run goes through stations between two requests and through stations in the midst of a tick. What
holds of all of them is shown step by step: requests, happenings aside, the begin of a tick, and
the handling of one event.
-/

namespace SipOverRelay

variable {σ : Type}

/-- Somebody who is no relay says that a relay gained or lost its connection. -/
def Happening.forgesReport : Happening σ → Bool
  | .post (.connectivity _ _) => true
  | _ => false

/-- Somebody who is no probe says what a probe found. -/
def Happening.forgesResult : Happening σ → Bool
  | .post (.probed _ _ _) => true
  | _ => false

variable [Surroundings σ]

/-- The stations that a run goes through, each with the events that the tick in progress has taken
out of the mailbox and not handled yet. -/
inductive Station.Reaches (allowed : Happening σ → Prop) (start : Station σ) :
    List Posted → Station σ → Prop where
  /-- The run begins. -/
  | start : Reaches allowed start [] start
  /-- Between two ticks the owner makes a request. -/
  | operate {s : Station σ} (h : Reaches allowed start [] s) (operation : Operation)
      (ok : allowed (.operate operation)) (ho : operation ≠ .iterate) :
      Reaches allowed start [] (s.operate operation)
  /-- Something happens that is no request; this may be in the midst of a tick. -/
  | aside {batch : List Posted} {s : Station σ} (h : Reaches allowed start batch s)
      (happening : Happening σ) (ok : allowed happening)
      (ha : ∀ operation, happening ≠ .operate operation) :
      Reaches allowed start batch (s.meet happening)
  /-- A tick begins. -/
  | tick {s : Station σ} (h : Reaches allowed start [] s) (ok : allowed (.operate .iterate)) :
      Reaches allowed start s.world.mailbox.waiting s.emptied
  /-- The tick handles its next event. -/
  | handle {posted : Posted} {batch : List Posted} {s : Station σ}
      (h : Reaches allowed start (posted :: batch) s) :
      Reaches allowed start batch (s.handle posted)

namespace Station.Reaches

variable {allowed : Happening σ → Prop} {start s : Station σ} {batch : List Posted}

/-- A tick handles its events one by one. -/
theorem handleAll (h : start.Reaches allowed batch s) :
    start.Reaches allowed [] (batch.foldl Station.handle s) := by
  induction batch generalizing s with
  | nil => exact h
  | cons posted batch ih => exact ih h.handle

/-- After every happening between two ticks the run goes on. -/
theorem meet (h : start.Reaches allowed [] s) (happening : Happening σ) (ok : allowed happening) :
    start.Reaches allowed [] (s.meet happening) := by
  cases happening with
  | operate operation =>
    by_cases ho : operation = .iterate
    · subst ho
      exact (h.tick ok).handleAll
    · exact h.operate operation ok ho
  | post event => exact h.aside _ ok nofun
  | report report => exact h.aside _ ok nofun
  | stir change => exact h.aside _ ok nofun
  | send data dest => exact h.aside _ ok nofun
  | receive size => exact h.aside _ ok nofun

/-- A run goes through the stations after all its happenings. -/
theorem after (h : start.Reaches allowed [] s) {happenings : List (Happening σ)}
    (ok : ∀ happening ∈ happenings, allowed happening) :
    start.Reaches allowed [] (s.after happenings) := by
  induction happenings generalizing s with
  | nil => exact h
  | cons happening happenings ih =>
    refine ih (h.meet happening (ok _ List.mem_cons_self)) fun later hl => ?_
    exact ok later (List.mem_cons_of_mem _ hl)

end Station.Reaches

/-- Sending through the hook calls the signaling stream at most. -/
theorem Hook.unfolds_send (w : World σ) (signaling : Option StreamId) (data : Bytes)
    (dest : Address) : w.Unfolds [.traffic] (Hook.send w signaling data dest).2 := by
  unfold Hook.send World.sendOn
  cases signaling with
  | none => exact .refl
  | some stream =>
    have hs : w.Unfolds [.traffic] (w.perform (.send stream data dest)) :=
      World.Unfolds.refl.perform _ (by simp)
    dsimp only
    rcases Surroundings.sendAnswer w.scene stream data dest with why | length
    · exact hs.note (.sendFailed dest why) rfl
    · exact hs

/-- Receiving through the hook calls the signaling stream at most. -/
theorem Hook.unfolds_receive (w : World σ) (signaling : Option StreamId) (size : Nat) :
    w.Unfolds [.traffic] (Hook.receive w signaling size).2 := by
  unfold Hook.receive World.receiveOn
  cases signaling with
  | none => exact .refl
  | some stream =>
    have hs : w.Unfolds [.traffic] (w.perform (.receive stream size)) :=
      World.Unfolds.refl.perform _ (by simp)
    dsimp only
    rcases Surroundings.receiveAnswer w.scene stream size with why | datagram
    · exact hs.note (.receiveFailed why) rfl
    · exact hs

namespace Station

/-- A property of the stations of a run that holds after a step if it held before. The order of the
mail may be taken for granted. -/
structure Kept (allowed : Happening σ → Prop) (I : List Posted → Station σ → Prop) : Prop where
  /-- A request between two ticks. -/
  operate : ∀ s operation, s.world.Filed [] → I [] s → allowed (.operate operation) →
    operation ≠ .iterate → I [] (s.operate operation)
  /-- Somebody posts an event. -/
  post : ∀ batch s event, s.world.Filed batch → I batch s → allowed (.post event) →
    I batch (s.post .stranger event)
  /-- A relay or a probe reports. -/
  report : ∀ batch s report, s.world.Filed batch → I batch s →
    I batch (s.within (s.world.deliver report))
  /-- The surroundings change. -/
  stir : ∀ batch s scene, I batch s → I batch (s.within { s.world with scene })
  /-- The hook is used. -/
  hook : ∀ batch s w, s.world.Filed batch → I batch s → s.world.Unfolds [.traffic] w →
    I batch (s.within w)
  /-- A tick begins. -/
  tick : ∀ s, s.world.Filed [] → I [] s → I s.world.mailbox.waiting s.emptied
  /-- The tick handles an event. -/
  handle : ∀ posted batch s, s.world.Filed (posted :: batch) → I (posted :: batch) s →
    I batch (s.handle posted)

namespace Reaches

variable {allowed : Happening σ → Prop} {start s : Station σ} {batch : List Posted}

/-- The order of the mail is kept. -/
theorem filed (h : start.Reaches allowed batch s) (hf : start.world.Filed []) :
    s.world.Filed batch := by
  induction h with
  | start => exact hf
  | operate _ operation _ ho ih => exact ih.unfolds (unfolds_operate _ ho)
  | aside _ happening _ ha ih =>
    cases happening with
    | operate operation => exact absurd rfl (ha operation)
    | post event => exact ih.post _ _
    | report report => exact ih.deliver report
    | stir change => exact ⟨ih.next, ih.order⟩
    | send data dest => exact ih.unfolds (Hook.unfolds_send _ _ _ _)
    | receive size => exact ih.unfolds (Hook.unfolds_receive _ _ _)
  | tick _ _ ih => exact ih.take
  | handle _ ih => exact ih.handle.unfolds (unfolds_handle _ _)

/-- What every step keeps holds all along the run. -/
theorem of_kept {I : List Posted → Station σ → Prop} (hI : Kept allowed I)
    (hf : start.world.Filed []) (h0 : I [] start) (h : start.Reaches allowed batch s) :
    I batch s := by
  induction h with
  | start => exact h0
  | operate h operation ok ho ih => exact hI.operate _ operation (h.filed hf) ih ok ho
  | @aside _ s h happening ok ha ih =>
    cases happening with
    | operate operation => exact absurd rfl (ha operation)
    | post event => exact hI.post _ s event (h.filed hf) ih ok
    | report report => exact hI.report _ s report (h.filed hf) ih
    | stir change => exact hI.stir _ s _ ih
    | send data dest => exact hI.hook _ s _ (h.filed hf) ih (Hook.unfolds_send _ _ _ _)
    | receive size => exact hI.hook _ s _ (h.filed hf) ih (Hook.unfolds_receive _ _ _)
  | tick h _ ih => exact hI.tick _ (h.filed hf) ih
  | handle h ih => exact hI.handle _ _ _ (h.filed hf) ih

end Reaches

/-- Handling some events adds them to the handled ones, and letters are only added. -/
theorem handled_foldl_handle (s : Station σ) (batch : List Posted) :
    (batch.foldl handle s).world.handled = batch.reverse ++ s.world.handled ∧
      s.world.letters <+: (batch.foldl handle s).world.letters := by
  induction batch generalizing s with
  | nil => exact ⟨rfl, List.prefix_rfl⟩
  | cons posted batch ih =>
    have hu := s.unfolds_handle posted
    have hletters : s.world.letters <+: (s.handle posted).world.letters := hu.letters_prefix
    obtain ⟨hh, hl⟩ := ih (s.handle posted)
    refine ⟨?_, hletters.trans hl⟩
    rw [List.foldl_cons, hh, hu.handled_eq, World.handled_note_handling, List.reverse_cons,
      List.append_assoc]
    rfl

/-- After a tick everything has been read that was posted before. -/
theorem mem_readings_iterate {s : Station σ} (hf : s.world.Filed []) {α : Type}
    {f : Letter → Option α} {a : α} (h : a ∈ s.world.letters.filterMap f) :
    a ∈ s.iterate.world.readings f := by
  obtain ⟨letter, hm, ha⟩ := List.mem_filterMap.mp h
  obtain ⟨seq, hs⟩ := List.mem_iff_getElem?.mp hm
  obtain ⟨hlt, he⟩ := List.getElem?_eq_some_iff.mp hs
  have hmail : Posted.mk seq letter.event ∈
      s.world.handled.reverse ++ [] ++ s.world.mailbox.waiting := by
    rw [hf.order]
    exact List.mem_mapIdx.mpr ⟨seq, hlt, by rw [he]⟩
  obtain ⟨hh, hl⟩ := s.emptied.handled_foldl_handle s.world.mailbox.waiting
  refine List.mem_filterMap.mpr ⟨⟨seq, letter.event⟩, ?_, ?_⟩
  · rw [iterate, hh]
    rw [List.append_nil] at hmail
    rcases List.mem_append.mp hmail with hm | hm
    · exact List.mem_append_right _ (List.mem_reverse.mp hm)
    · exact List.mem_append_left _ (List.mem_reverse.mpr hm)
  · obtain ⟨more, hmore⟩ := hl
    have hlater : s.iterate.world.letters[seq]? = some letter := by
      rw [iterate, ← hmore]
      exact (List.getElem?_append_left hlt).trans hs
    rw [World.reading, hlater, Option.bind_some, ha]

/-- A new tunnel has no mail. -/
theorem filed_fresh (tuning : Tuning) (scene : σ) (settings : EngineSettings) :
    (fresh tuning scene settings).world.Filed [] :=
  .empty rfl rfl rfl

end Station

end SipOverRelay
