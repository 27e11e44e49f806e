import Mathlib.Data.List.Flatten
import SipOverRelay.Proofs.Legs
import SipOverRelay.Rehearsal.Stage

/-!
# Mail in the midst of ticks

Relays, probes and anybody who got hold of the mailbox post at any time, in the midst of a tick as
well, and whoever holds the mailbox may take the mail out before a tick does. A run in progress is
followed here event by event, with a record of who took out what. Nobody but a tick handles
anything, and a tick acts on what waited when it began, one event after the other: the record of the
ticks is what has been handled and what is being handled, and the record of all withdrawals together
with what waits is what was posted.
-/

namespace SipOverRelay

/-- The next thing that happens to a tunnel and its mailbox. -/
inductive Occurrence (σ : Type) where
  /-- Something happens as in a run; of a tick this is only the beginning. -/
  | happens (happening : Happening σ)
  /-- The tick in progress handles its next event. -/
  | handles
  /-- Somebody who is no tick takes the mail out. -/
  | drains

/-- What happens is a request, or none. -/
theorem Happening.operate_or_aside {σ : Type} (happening : Happening σ) :
    (∃ operation, happening = .operate operation) ∨
      ∀ operation, happening ≠ .operate operation := by
  cases happening with
  | operate operation => exact .inl ⟨operation, rfl⟩
  | _ => exact .inr fun _ => nofun

/-- A tick begins. -/
def Occurrence.beginsTick {σ : Type} : Occurrence σ → Bool
  | .happens (.operate .iterate) => true
  | _ => false

/-- Mail that was taken out. -/
structure Withdrawal where
  /-- Whether a tick took it, to handle it. -/
  byTick : Bool
  /-- What was taken. -/
  mail : List Posted
  deriving DecidableEq

/-- A run in progress, perhaps in the midst of a tick. -/
structure Progress (σ : Type) where
  /-- How far the run has come. -/
  station : Station σ
  /-- What the tick in progress has still to handle. -/
  batch : List Posted := []
  /-- All that was taken out so far, in order. -/
  withdrawals : List Withdrawal := []

namespace Progress

variable {σ : Type}

/-- What was taken out by anybody. -/
def drained (p : Progress σ) : List Posted := p.withdrawals.flatMap Withdrawal.mail

/-- What was taken out by ticks. -/
def ticked (p : Progress σ) : List Posted :=
  (p.withdrawals.filter Withdrawal.byTick).flatMap Withdrawal.mail

/-- Changes the station. -/
def onStation (p : Progress σ) (f : Station σ → Station σ) : Progress σ :=
  { p with station := f p.station }

/-- Everything that waits is taken out. -/
def withdraw (p : Progress σ) (byTick : Bool) : Progress σ :=
  { p with
    station := p.station.emptied
    withdrawals := p.withdrawals ++ [⟨byTick, p.station.world.mailbox.drain.1⟩] }

/-- A tick takes out what waits, to handle it. -/
def take (p : Progress σ) : Progress σ :=
  { p.withdraw true with batch := p.station.world.mailbox.waiting }

/-- Somebody who is no tick takes out what waits. -/
def drain (p : Progress σ) : Progress σ := p.withdraw false

@[simp] theorem drained_withdraw (p : Progress σ) (byTick : Bool) :
    (p.withdraw byTick).drained = p.drained ++ p.station.world.mailbox.waiting := by
  simp [drained, withdraw, Mailbox.drain]

@[simp] theorem ticked_withdraw (p : Progress σ) (byTick : Bool) :
    (p.withdraw byTick).ticked =
      p.ticked ++ if byTick then p.station.world.mailbox.waiting else [] := by
  cases byTick <;> simp [ticked, withdraw, Mailbox.drain]

@[simp] theorem drained_take (p : Progress σ) :
    p.take.drained = p.drained ++ p.station.world.mailbox.waiting :=
  p.drained_withdraw true

@[simp] theorem ticked_take (p : Progress σ) :
    p.take.ticked = p.ticked ++ p.station.world.mailbox.waiting :=
  p.ticked_withdraw true

/-- Ticks take out no more than is taken out. -/
theorem ticked_sublist_drained (p : Progress σ) : p.ticked.Sublist p.drained :=
  List.filter_sublist.flatMap _

variable [Surroundings σ]

/-- A new tunnel, before anything has happened to its mail. -/
def fresh (tuning : Tuning) (scene : σ) (found : EngineSettings) : Progress σ :=
  { station := .fresh tuning scene found }

/-- What comes next. The owner makes requests only between two ticks; everything else may happen in
the midst of one, too. -/
def meet (p : Progress σ) : Occurrence σ → Progress σ
  | .happens (.operate operation) =>
    if p.batch = [] then
      if operation = .iterate then p.take else p.onStation (·.operate operation)
    else p
  | .happens happening => p.onStation (·.meet happening)
  | .handles =>
    match p.batch with
    | [] => p
    | posted :: batch => { p with station := p.station.handle posted, batch }
  | .drains => p.drain

/-- How far the run has come after these occurrences. -/
def after (p : Progress σ) (occurrences : List (Occurrence σ)) : Progress σ :=
  occurrences.foldl meet p

/-- A tick begins, unless one is in progress. -/
def tick (p : Progress σ) : Progress σ := p.meet (.happens (.operate .iterate))

/-- Between two ticks a tick takes out what waits. -/
theorem tick_of_idle {p : Progress σ} (h : p.batch = []) : p.tick = p.take := by
  simp [tick, meet, h]

/-- What is no request happens in the midst of a tick as well. -/
theorem meet_aside (p : Progress σ) {happening : Happening σ}
    (h : ∀ operation, happening ≠ .operate operation) :
    p.meet (.happens happening) = p.onStation (·.meet happening) := by
  cases happening with
  | operate operation => exact absurd rfl (h operation)
  | _ => rfl

/-- What one occurrence does. -/
inductive Advances (p : Progress σ) : Progress σ → Prop where
  /-- Nothing: a request has to wait for the end of the tick, or no event is left to handle. -/
  | stays : Advances p p
  /-- The owner makes a request that is no tick. -/
  | operates (idle : p.batch = []) (operation : Operation) (ho : operation ≠ .iterate) :
    Advances p (p.onStation (·.operate operation))
  /-- Something happens that is no request. -/
  | aside (happening : Happening σ) (ha : ∀ operation, happening ≠ .operate operation) :
    Advances p (p.onStation (·.meet happening))
  /-- A tick takes the mail out. -/
  | takes (idle : p.batch = []) : Advances p p.take
  /-- The tick handles an event. -/
  | handles (posted : Posted) (batch : List Posted) (hb : p.batch = posted :: batch) :
    Advances p { p with station := p.station.handle posted, batch }
  /-- Somebody who is no tick takes the mail out. -/
  | drains : Advances p p.drain

theorem advances_meet (p : Progress σ) (occurrence : Occurrence σ) :
    p.Advances (p.meet occurrence) := by
  cases occurrence with
  | happens happening =>
    rcases happening.operate_or_aside with ⟨operation, rfl⟩ | ha
    · simp only [meet]
      split
      · next hb =>
        split
        · exact .takes hb
        · next ho => exact .operates hb operation ho
      · exact .stays
    · rw [p.meet_aside ha]
      exact .aside happening ha
  | handles =>
    simp only [meet]
    split
    · exact .stays
    · next posted batch hb => exact .handles posted batch hb
  | drains => exact .drains

/-- An occurrence leaves the station alone, or it is a leg of the run. -/
theorem Advances.leadsTo {p q : Progress σ} (h : p.Advances q) :
    q.station = p.station ∨ p.station.LeadsTo q.station := by
  cases h with
  | stays => exact .inl rfl
  | operates _ operation ho => exact .inr (.operate operation ho)
  | aside happening ha => exact .inr (.aside happening ha)
  | takes _ => exact .inr .take
  | handles posted _ _ => exact .inr (.handle posted)
  | drains => exact .inr .take

/-- What every occurrence keeps holds all along. -/
theorem after_induction {I : Progress σ → Prop}
    (hI : ∀ p occurrence, I p → I (p.meet occurrence)) {p : Progress σ} (h : I p)
    (occurrences : List (Occurrence σ)) : I (p.after occurrences) := by
  induction occurrences generalizing p with
  | nil => exact h
  | cons occurrence occurrences ih => exact ih (hI p occurrence h)

/-- If nobody interrupts it, a tick handles everything that waited, as an iteration does. -/
theorem after_handles (s : Station σ) (batch : List Posted) (withdrawals : List Withdrawal) :
    (⟨s, batch, withdrawals⟩ : Progress σ).after (List.replicate batch.length .handles) =
      ⟨batch.foldl Station.handle s, [], withdrawals⟩ := by
  induction batch generalizing s with
  | nil => rfl
  | cons posted batch ih => exact ih (s.handle posted)

/-- After a tick that nobody interrupts the station is the one after an iteration. -/
theorem tick_handles_of_idle {p : Progress σ} (h : p.batch = []) :
    p.tick.after (List.replicate p.station.world.mailbox.waiting.length .handles) =
      { p.take with station := p.station.iterate, batch := [] } := by
  rw [tick_of_idle h]
  exact after_handles _ _ _

/-- As long as no tick begins, none takes anything out. -/
theorem ticked_meet (p : Progress σ) {occurrence : Occurrence σ}
    (h : occurrence.beginsTick = false) : (p.meet occurrence).ticked = p.ticked := by
  cases occurrence with
  | happens happening =>
    cases happening with
    | operate operation =>
      simp only [meet]
      split
      · split
        · next ho =>
          subst ho
          cases h
        · rfl
      · rfl
    | _ => rfl
  | handles =>
    simp only [meet]
    split
    · rfl
    · rfl
  | drains => simp [meet, drain]

theorem ticked_after (p : Progress σ) {occurrences : List (Occurrence σ)}
    (h : ∀ occurrence ∈ occurrences, occurrence.beginsTick = false) :
    (p.after occurrences).ticked = p.ticked := by
  induction occurrences generalizing p with
  | nil => rfl
  | cons occurrence occurrences ih =>
    have hrest := ih (p.meet occurrence) fun other ho => h other (List.mem_cons_of_mem _ ho)
    exact hrest.trans (p.ticked_meet (h occurrence List.mem_cons_self))

end Progress

/-! ### Mail comes in -/

namespace World

variable {σ : Type}

/-- Between two states of the world mail may have come in, and nothing else happened to it. -/
structure Gathers (w v : World σ) : Prop where
  /-- What was posted is where it was, or waits. -/
  numbered : ∀ gone, w.Numbered gone → v.Numbered gone
  /-- Nothing was handled. -/
  handled : v.handled = w.handled

namespace Gathers

variable {w v : World σ}

theorem deliver (w : World σ) (report : Report) : w.Gathers (w.deliver report) :=
  ⟨fun _ h => h.deliver report, w.handled_deliver report⟩

theorem of_unfolds [Surroundings σ] {aspects : List Aspect} (h : w.Unfolds aspects v) :
    w.Gathers v :=
  ⟨fun _ hn => hn.unfolds h, h.handled_eq⟩

end Gathers

end World

namespace Station

variable {σ : Type} [Surroundings σ]

/-- What it is to act on events, each in its turn: it is noted that the event is being handled, and
then a relay's report is taken as news of the connection, and a probe's result as news of the
candidate. -/
inductive ActsOn : List Posted → Station σ → Station σ → Prop where
  /-- Without events nothing is done. -/
  | nothing (s : Station σ) : ActsOn [] s s
  /-- The first event is a relay's report. -/
  | report {s t : Station σ} (seq : Nat) (connected : Bool) (generation : Nat) {later : List Posted}
    (rest : ActsOn later ((s.note (.handling ⟨seq, .connectivity connected generation⟩)
      ).onConnectivity connected generation) t) :
    ActsOn (⟨seq, .connectivity connected generation⟩ :: later) s t
  /-- The first event is the result of a probe. -/
  | result {s t : Station σ} (seq : Nat) (reachable : Bool) (run index : Nat) {later : List Posted}
    (rest : ActsOn later ((s.note (.handling ⟨seq, .probed reachable run index⟩)
      ).onProbed reachable run index) t) :
    ActsOn (⟨seq, .probed reachable run index⟩ :: later) s t

/-- Events that are handled one after the other are acted upon. -/
theorem actsOn_foldl_handle (s : Station σ) (batch : List Posted) :
    ActsOn batch s (batch.foldl handle s) := by
  induction batch generalizing s with
  | nil => exact .nothing s
  | cons posted later ih =>
    obtain ⟨seq, event⟩ := posted
    cases event with
    | connectivity connected generation => exact .report seq connected generation (ih _)
    | probed reachable run index => exact .result seq reachable run index (ih _)

/-- An event that is handled is acted upon. -/
theorem actsOn_handle (s : Station σ) (posted : Posted) : ActsOn [posted] s (s.handle posted) :=
  s.actsOn_foldl_handle [posted]

/-- What is no request takes no mail out and handles none. -/
theorem gathers_meet (s : Station σ) {happening : Happening σ}
    (h : ∀ operation, happening ≠ .operate operation) :
    s.world.Gathers (s.meet happening).world := by
  cases happening with
  | operate operation => exact absurd rfl (h operation)
  | post event => exact ⟨fun _ hn => hn.post _ _, rfl⟩
  | report report => exact .deliver _ _
  | stir change => exact ⟨fun _ hn => hn.congr rfl rfl, rfl⟩
  | send data dest => exact .of_unfolds (Hook.unfolds_send _ _ _ _)
  | receive size => exact .of_unfolds (Hook.unfolds_receive _ _ _)

end Station

/-! ### Nothing is lost -/

namespace Progress

variable {σ : Type} {p : Progress σ}

/-- Nothing is handled but by the tick in progress. -/
theorem handled_meet [Surroundings σ] (p : Progress σ) {occurrence : Occurrence σ}
    (h : occurrence ≠ .handles) :
    (p.meet occurrence).station.world.handled = p.station.world.handled := by
  cases occurrence with
  | happens happening =>
    rcases happening.operate_or_aside with ⟨operation, rfl⟩ | ha
    · simp only [meet]
      split
      · split
        · rfl
        · next ho => exact (p.station.unfolds_operate ho).handled_eq
      · rfl
    · rw [p.meet_aside ha]
      exact (p.station.gathers_meet ha).handled
  | handles => exact absurd rfl h
  | drains => rfl

/-- The books about the mail of a run in progress. -/
structure Accounted (p : Progress σ) : Prop where
  /-- What was posted was taken out or waits, in the order in which it was posted. -/
  numbered : p.station.world.Numbered p.drained
  /-- What ticks took out has been handled, or is what the present one has still to handle. -/
  handled : p.station.world.handled.reverse ++ p.batch = p.ticked

namespace Accounted

/-- Mail that comes in goes into the books. -/
theorem gathers (h : p.Accounted) {f : Station σ → Station σ}
    (hg : p.station.world.Gathers (f p.station).world) : (p.onStation f).Accounted where
  numbered := hg.numbered _ h.numbered
  handled := by
    have hh := h.handled
    rw [← hg.handled] at hh
    exact hh

/-- Somebody who is no tick takes the mail out. -/
theorem drain (h : p.Accounted) : p.drain.Accounted where
  numbered := by
    rw [Progress.drain, drained_withdraw]
    exact h.numbered.take
  handled := by
    have hh := h.handled
    rw [Progress.drain, ticked_withdraw, if_neg Bool.false_ne_true, List.append_nil]
    exact hh

/-- A tick takes the mail out, which it has to handle then. -/
theorem take (h : p.Accounted) (idle : p.batch = []) : p.take.Accounted where
  numbered := by
    rw [drained_take]
    exact h.numbered.take
  handled := by
    have hh := h.handled
    rw [idle, List.append_nil] at hh
    rw [ticked_take, ← hh]
    rfl

variable [Surroundings σ]

/-- An event that is handled leaves the batch. -/
theorem handle (h : p.Accounted) {posted : Posted} {batch : List Posted}
    (hb : p.batch = posted :: batch) :
    ({ p with station := p.station.handle posted, batch } : Progress σ).Accounted where
  numbered := by
    have hn : (p.station.world.note (.handling posted)).Numbered p.drained :=
      h.numbered.congr rfl rfl
    exact hn.unfolds (p.station.unfolds_handle posted)
  handled := by
    have hh := h.handled
    have hu : (p.station.handle posted).world.handled = posted :: p.station.world.handled :=
      (p.station.unfolds_handle posted).handled_eq
    rw [hb] at hh
    rw [hu, List.reverse_cons, List.append_assoc]
    exact hh

/-- Whatever comes next, the books are right. -/
theorem advance {q : Progress σ} (h : p.Accounted) (ha : p.Advances q) : q.Accounted := by
  cases ha with
  | stays => exact h
  | operates _ operation ho => exact h.gathers (.of_unfolds (p.station.unfolds_operate ho))
  | aside happening ha => exact h.gathers (p.station.gathers_meet ha)
  | takes idle => exact h.take idle
  | handles posted batch hb => exact h.handle hb
  | drains => exact h.drain

/-- The books are right all along. -/
theorem after (h : p.Accounted) (occurrences : List (Occurrence σ)) :
    (p.after occurrences).Accounted :=
  after_induction (fun q occurrence hq => hq.advance (q.advances_meet occurrence)) h occurrences

/-- A new tunnel has no mail, and nobody has taken any out. -/
theorem fresh (tuning : Tuning) (scene : σ) (found : EngineSettings) :
    (Progress.fresh tuning scene found).Accounted where
  numbered := ⟨rfl, rfl⟩
  handled := rfl

/-- What a tick handles until the next one begins is what waited when it began. -/
theorem handled_of_tick (h : p.Accounted) (idle : p.batch = [])
    {meanwhile : List (Occurrence σ)}
    (hm : ∀ occurrence ∈ meanwhile, occurrence.beginsTick = false) :
    (p.tick.after meanwhile).station.world.handled.reverse ++ (p.tick.after meanwhile).batch =
      p.station.world.handled.reverse ++ p.station.world.mailbox.waiting := by
  have hbegun : p.tick.Accounted := h.advance (p.advances_meet _)
  have hlater := (hbegun.after meanwhile).handled
  have hp := h.handled
  rw [idle, List.append_nil] at hp
  rw [hlater, p.tick.ticked_after hm, tick_of_idle idle, ticked_take, hp]

/-- An iteration handles what waits, and leaves waiting whatever is posted by the way, under the
next numbers. -/
theorem iterate (h : p.Accounted) (idle : p.batch = []) :
    p.station.iterate.world.handled =
        p.station.world.mailbox.waiting.reverse ++ p.station.world.handled ∧
      ∃ more, p.station.iterate.world.letters = p.station.world.letters ++ more ∧
        p.station.iterate.world.mailbox.waiting = more.mapIdx fun i letter =>
          ⟨p.station.world.letters.length + i, letter.event⟩ := by
  obtain ⟨hhandled, more, hmore⟩ :=
    p.station.emptied.handled_foldl_handle p.station.world.mailbox.waiting
  have hletters : p.station.iterate.world.letters = p.station.world.letters ++ more := hmore.symm
  have hbegun : p.tick.Accounted := h.advance (p.advances_meet _)
  have hdone := hbegun.after (List.replicate p.station.world.mailbox.waiting.length .handles)
  rw [tick_handles_of_idle idle] at hdone
  have horder : p.take.drained ++ p.station.iterate.world.mailbox.waiting =
      p.station.iterate.world.letters.mapIdx fun seq letter => ⟨seq, letter.event⟩ :=
    hdone.numbered.order
  -- What waited before the tick is the first part of the letters, so the rest is what waits now.
  rw [drained_take, h.numbered.order, hletters, List.mapIdx_append] at horder
  have hwaiting := List.append_cancel_left horder
  refine ⟨hhandled, more, hletters, ?_⟩
  rw [hwaiting]
  simp only [Nat.add_comm]

end Accounted

variable [Surroundings σ]

/-- The event in turn is acted upon, and those behind it are left to the tick. -/
theorem actsOn_meet (p : Progress σ) {posted : Posted} {batch : List Posted}
    (h : p.batch = posted :: batch) :
    Station.ActsOn [posted] p.station (p.meet .handles).station ∧
      (p.meet .handles).batch = batch := by
  have hmeet : p.meet .handles = { p with station := p.station.handle posted, batch } := by
    simp only [meet, h]
  rw [hmeet]
  exact ⟨p.station.actsOn_handle posted, rfl⟩

/-- Whatever is posted and by whom, whoever takes mail out, and in the midst of whichever tick: the
next post gets the number of the posts before it; all that was taken out, followed by what waits, is
what was posted, in order and under its numbers; and all that was handled, followed by what is being
handled, is what ticks took out. The tick in progress acts on the first event that it has still to
handle, a relay's report or a probe's result, and nothing else counts as handled. A tick handles
what waited when it began, also if others post, take mail out or use the hook meanwhile. An
iteration is a tick that nobody interrupts: it empties the mailbox, acts on what waited one event
after the other, and leaves waiting exactly what is posted while it does that. -/
theorem mail_is_handled_once_in_order (tuning : Tuning) (scene : σ) (found : EngineSettings)
    (occurrences : List (Occurrence σ)) :
    let p := (fresh tuning scene found).after occurrences
    let w := p.station.world
    (∀ event, w.mailbox.push event =
      (w.letters.length,
        ⟨w.letters.length + 1, w.mailbox.waiting ++ [⟨w.letters.length, event⟩]⟩)) ∧
      p.drained ++ w.mailbox.waiting =
        w.letters.mapIdx (fun seq letter => ⟨seq, letter.event⟩) ∧
      w.handled.reverse ++ p.batch = p.ticked ∧ p.ticked.Sublist p.drained ∧
      (∀ posted batch, p.batch = posted :: batch →
        Station.ActsOn [posted] p.station (p.meet .handles).station ∧
          (p.meet .handles).batch = batch) ∧
      (∀ occurrence : Occurrence σ, occurrence ≠ .handles →
        (p.meet occurrence).station.world.handled = w.handled) ∧
      (p.batch = [] →
        (∀ meanwhile : List (Occurrence σ),
          (∀ occurrence ∈ meanwhile, occurrence.beginsTick = false) →
            let q := p.tick.after meanwhile
            q.station.world.handled.reverse ++ q.batch =
              w.handled.reverse ++ w.mailbox.waiting) ∧
        (p.tick.after (List.replicate w.mailbox.waiting.length .handles)).station =
          p.station.iterate ∧
        Station.ActsOn w.mailbox.waiting
          { p.station with world := { w with mailbox := ⟨w.mailbox.next, []⟩ } }
          p.station.iterate ∧
        p.station.iterate.world.handled = w.mailbox.waiting.reverse ++ w.handled ∧
        ∃ more, p.station.iterate.world.letters = w.letters ++ more ∧
          p.station.iterate.world.mailbox.waiting =
            more.mapIdx fun i letter => ⟨w.letters.length + i, letter.event⟩) := by
  intro p w
  have hp : p.Accounted := (Accounted.fresh tuning scene found).after occurrences
  have hnext : w.mailbox.next = w.letters.length := hp.numbered.next
  refine ⟨fun event => ?_, hp.numbered.order, hp.handled, p.ticked_sublist_drained,
    fun posted batch hb => p.actsOn_meet hb, fun occurrence ho => p.handled_meet ho,
    fun idle => ?_⟩
  · rw [Mailbox.push, Mailbox.post, hnext]
  · have hacts : Station.ActsOn w.mailbox.waiting p.station.emptied p.station.iterate :=
      p.station.emptied.actsOn_foldl_handle w.mailbox.waiting
    exact ⟨fun meanwhile hm => hp.handled_of_tick idle hm,
      congrArg station (tick_handles_of_idle idle), hacts, hp.iterate idle⟩

/-- A detection run over two candidates begins, and somebody who is no relay posts a report in the
name of the first relay to come. -/
def detecting : List (Occurrence Rehearsal.Stage) :=
  [.happens (.operate (.addServerWithReflector ⟨"first", 443, none⟩ ⟨5000, 250⟩)),
    .happens (.operate (.addServerWithReflector ⟨"second", 443, none⟩ ⟨5000, 250⟩)),
    .happens (.operate .autoDetect), .happens (.post (.connectivity true 1))]

/-- No probe can be made for any of the two candidates, so the tunnel itself posts their results. -/
def unprobed : Progress Rehearsal.Stage :=
  (fresh {} { unprobed := ["first", "second"] } ⟨⟨5060, 5060, 5061, 0⟩, .stun⟩).after detecting

/-- In the midst of a tick more is posted, by others and by the tunnel, and somebody takes it
out. -/
def crowded : List (Occurrence Rehearsal.Stage) :=
  [.happens (.post (.connectivity false 1)), .handles, .drains,
    .happens (.post (.connectivity true 8)), .handles]

/-- That tick handles the two events that waited when it began: the result turns the tunnel on and
brings the second candidate up, and the report, coming after it, finds the relay that it speaks of
and makes the link ready. Of the other three, the second one of which is the result of the second
candidate, two are gone and one waits. An iteration does the same with the two events. -/
theorem crowded_tick_handles_what_waited :
    unprobed.batch = [] ∧
      (unprobed.tick.after crowded).station.world.handled.reverse ++
          (unprobed.tick.after crowded).batch =
        unprobed.station.world.handled.reverse ++ unprobed.station.world.mailbox.waiting ∧
      unprobed.station.world.mailbox.waiting =
        [⟨0, .probed false 1 0⟩, ⟨1, .connectivity true 1⟩] ∧
      (unprobed.tick.after crowded).drained =
        [⟨0, .probed false 1 0⟩, ⟨1, .connectivity true 1⟩, ⟨2, .connectivity false 1⟩,
          ⟨3, .probed false 1 1⟩] ∧
      (unprobed.tick.after crowded).station.world.mailbox.waiting =
        [⟨4, .connectivity true 8⟩] ∧
      unprobed.station.tunnel.link = .off ∧
      (unprobed.tick.after crowded).station.tunnel.link =
        .on ⟨⟨5060, 5060, 5061, 0⟩, .stun⟩ .ready ∧
      (unprobed.tick.after crowded).station.tunnel.detection = ⟨1, some ⟨1, none⟩⟩ ∧
      Station.ActsOn [⟨0, .probed false 1 0⟩, ⟨1, .connectivity true 1⟩]
        unprobed.station.emptied unprobed.station.iterate ∧
      unprobed.station.iterate.tunnel.link = .on ⟨⟨5060, 5060, 5061, 0⟩, .stun⟩ .ready := by
  have idle : unprobed.batch = [] := by decide
  have hwaiting : unprobed.station.world.mailbox.waiting =
    [⟨0, .probed false 1 0⟩, ⟨1, .connectivity true 1⟩] := by decide
  obtain ⟨_, _, _, _, _, _, htick⟩ := mail_is_handled_once_in_order {}
    ({ unprobed := ["first", "second"] } : Rehearsal.Stage) ⟨⟨5060, 5060, 5061, 0⟩, .stun⟩ detecting
  obtain ⟨hhandled, _, hacts, _⟩ := htick idle
  have hiterate : Station.ActsOn [⟨0, .probed false 1 0⟩, ⟨1, .connectivity true 1⟩]
      unprobed.station.emptied unprobed.station.iterate := hwaiting ▸ hacts
  exact ⟨idle, hhandled crowded (by decide), hwaiting, by decide, by decide, by decide, by decide,
    by decide, hiterate, by decide⟩

end Progress

end SipOverRelay
