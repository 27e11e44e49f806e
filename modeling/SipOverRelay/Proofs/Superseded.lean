import SipOverRelay.Proofs.Detecting
import SipOverRelay.Rehearsal.Stage

/-!
# Superseded candidates

As long as nobody forges results, the one that a candidate is started for decides once and only
while the candidate is the current one. When the next candidate takes over, its probe is started
before the old one is stopped; still no two probes are ever out at once, because the old one has
reported by then.
-/

namespace SipOverRelay

/-- The tag of a result. -/
def Event.tag? : Event → Option (Nat × Nat)
  | .connectivity _ _ => none
  | .probed _ run index => some (run, index)

namespace Ledger

variable {l : Ledger} {reported : List ProbeId} {call : Call} {probe : ProbeId}

/-- A probe is out: it was started, and has neither reported nor been stopped. -/
structure IsOut (l : Ledger) (reported : List ProbeId) (probe : ProbeId) : Prop where
  /-- It was started. -/
  started : (l.tagOf probe).isSome = true
  /-- It has not been stopped. -/
  unstopped : l.stopsOf probe = some 0
  /-- It has not reported. -/
  unreported : probe ∉ reported

/-- At most one probe is out. -/
def Solo (l : Ledger) (reported : List ProbeId) : Prop :=
  ∀ probe other, l.IsOut reported probe → l.IsOut reported other → probe = other

/-- The more probes have reported, the fewer are out. -/
theorem IsOut.anti {more : List ProbeId} (h : l.IsOut more probe) (hs : reported ⊆ more) :
    l.IsOut reported probe :=
  ⟨h.started, h.unstopped, fun hm => h.unreported (hs hm)⟩

/-- A probe that is out after a call that starts none was out before. -/
theorem IsOut.of_apply (h : (l.apply call).IsOut reported probe) (hc : call.tag? = none) :
    l.IsOut reported probe := by
  obtain ⟨hs, hu, hr⟩ := h
  rw [l.tagOf_apply hc] at hs
  refine ⟨hs, ?_, hr⟩
  cases call with
  | createProbe server =>
    obtain ⟨tag, ht⟩ := Option.isSome_iff_exists.mp hs
    rwa [stopsOf_createProbe, if_neg (Nat.ne_of_lt (lt_of_tagOf ht))] at hu
  | startProbe started run index => cases hc
  | stopProbe stopped =>
    rw [stopsOf_stopProbe] at hu
    split at hu
    · obtain ⟨count, _, hz⟩ := Option.map_eq_some_iff.mp hu
      cases hz
    · exact hu
  | _ => exact hu

/-- If no probe is out, then at most the one that is started next. -/
theorem IsOut.eq_of_startProbe {started : ProbeId} {run index : Nat}
    (h : (l.apply (.startProbe started run index)).IsOut reported probe)
    (hn : ∀ other, ¬ l.IsOut reported other) : probe = started := by
  obtain ⟨hs, hu, hr⟩ := h
  rw [stopsOf_startProbe] at hu
  by_contra hne
  rw [tagOf_startProbe, if_neg fun hp => hne hp.1.symm] at hs
  exact hn probe ⟨hs, hu, hr⟩

end Ledger

namespace World

variable {σ : Type} {start : Ledger} {w v : World σ}

/-- Who has reported stays among those who have. -/
theorem reported_deliver (w : World σ) (report : Report) :
    w.reported ⊆ (w.deliver report).reported := by
  rcases w.deliver_cases report with he | ⟨_, _, _, _, he⟩ | ⟨probe, _, _, _, _, he⟩
  · rw [he]
    exact List.Subset.refl _
  · rw [he]
    exact List.Subset.refl _
  · rw [he]
    exact List.subset_cons_self _ _

/-- Calls do not take reports back. -/
theorem reported_perform [Surroundings σ] (w : World σ) (call : Call) :
    w.reported ⊆ (w.perform call).reported := by
  have hd (v : World σ) (report : Report) (hv : w.reported ⊆ v.reported) :
      w.reported ⊆ (v.deliver report).reported :=
    List.Subset.trans hv (v.reported_deliver report)
  exact perform_induction hd (List.Subset.refl _)

/-- At every moment so far at most one probe was out: right after each call, before what it provoked
was taken in, and now. -/
structure Solitary (start : Ledger) (w : World σ) : Prop where
  /-- Things stand as the calls made them. -/
  replayed : w.ledger = start.replay w.calls
  /-- At most one probe was out after each call. -/
  past : ∀ moment older, moment :: older <:+ w.history →
    (start.replay (moment.call :: older.map Moment.call)).Solo moment.reported
  /-- At most one probe is out now. -/
  now : w.ledger.Solo w.reported

namespace Solitary

theorem congr (h : w.Solitary start) (hl : v.ledger = w.ledger) (hh : v.history = w.history)
    (hr : w.reported ⊆ v.reported) : v.Solitary start := by
  refine ⟨?_, ?_, ?_⟩
  · rw [hl, calls, hh]
    exact h.replayed
  · rw [hh]
    exact h.past
  · rw [hl]
    exact fun probe other hp ho => h.now probe other (hp.anti hr) (ho.anti hr)

theorem deliver (h : w.Solitary start) (report : Report) : (w.deliver report).Solitary start :=
  h.congr (w.deliver_frame report).2.1 (w.deliver_frame report).2.2.1 (w.reported_deliver report)

variable [Surroundings σ]

/-- A call may be made if no two probes are out after it. -/
theorem perform (h : w.Solitary start) {call : Call}
    (hs : (w.ledger.apply call).Solo w.reported) : (w.perform call).Solitary start := by
  refine perform_induction (fun _ report hv => hv.deliver report) ⟨?_, ?_, hs⟩
  · exact congrArg (·.apply call) h.replayed
  · intro moment older hm
    rcases List.suffix_cons_iff.mp hm with he | hm
    · cases he
      change ((start.replay w.calls).apply call).Solo w.reported
      rw [← h.replayed]
      exact hs
    · exact h.past moment older hm

/-- A call that starts no probe may be made at any time. -/
theorem performOther (h : w.Solitary start) {call : Call} (hc : call.tag? = none) :
    (w.perform call).Solitary start :=
  h.perform fun probe other hp ho => h.now probe other (hp.of_apply hc) (ho.of_apply hc)

/-- What is no matter of probes may be done at any time. -/
theorem unfolds (h : w.Solitary start) {aspects : List Aspect} (hu : w.Unfolds aspects v)
    (ha : .probe ∉ aspects) : v.Solitary start := by
  induction hu with
  | refl => exact h
  | perform _ call hc ih => exact ih.performOther (Call.tag?_of_aspect fun he => ha (he ▸ hc))
  | note _ _ _ ih => exact ih.congr rfl rfl (List.Subset.refl _)
  | answer _ run index hp _ => exact absurd hp ha

/-- A new probe may be started when none is out. -/
theorem probing (h : w.Solitary start) (hn : ∀ probe, ¬ w.ledger.IsOut w.reported probe)
    (server : Server) (run index : Nat) : (w.probing server run index).Solitary start := by
  have hc : (w.perform (.createProbe server)).Solitary start := h.performOther rfl
  have hw (probe : ProbeId) : ¬ (w.perform (.createProbe server)).ledger.IsOut
      (w.perform (.createProbe server)).reported probe := by
    intro ho
    rw [ledger_perform] at ho
    exact hn probe ((ho.of_apply rfl).anti (w.reported_perform _))
  exact hc.perform fun probe other hp ho =>
    (hp.eq_of_startProbe hw).trans (ho.eq_of_startProbe hw).symm

end Solitary

end World

namespace Station

variable {σ : Type} {start : Ledger} {s t : Station σ} {posted : Posted} {batch : List Posted}

/-- The candidate that the tunnel holds is the one that a letter comes from. -/
def Holds (s : Station σ) : Letter → Prop
  | ⟨.probe probe, _⟩ => s.tunnel.detection.probe? = some probe
  | ⟨.tunnel, event⟩ => ∃ c, s.tunnel.detection.current = some c ∧ c.probe = none ∧
      event = .probed false s.tunnel.detection.run c.index
  | _ => False

/-- Tags tell whether a result comes from the candidate that is held. -/
theorem Detecting.holds_iff (h : s.Detecting) {letter : Letter} (hl : letter ∈ s.world.letters)
    {run index : Nat} (ht : letter.tag? = some (run, index)) :
    s.Holds letter ↔ s.tunnel.detection.isCurrent run index = true := by
  rw [Detection.isCurrent_iff]
  rcases Letter.tag?_eq_some.mp ht with ho | ⟨probe, reachable, rfl⟩
  · obtain ⟨reachable, rfl⟩ := Letter.ownTag?_eq_some.mp ho
    obtain ⟨_, _, he⟩ := h.tagged.own _ hl
    cases he
    constructor
    · rintro ⟨c, hc, _, he⟩
      cases he
      exact ⟨rfl, c, hc, rfl⟩
    · rintro ⟨rfl, c, hc, rfl⟩
      refine ⟨c, hc, ?_, rfl⟩
      rw [Option.eq_none_iff_forall_ne_some]
      intro probe hp
      exact h.tagged.not_mem_ownTags (h.probed c probe hc hp)
        (List.mem_filterMap.mpr ⟨_, hl, ho⟩)
  · obtain ⟨_, _, _, _, he, hprobe⟩ := h.tagged.genuine probe _ hl
    cases he
    constructor
    · intro hp
      obtain ⟨c, hc, hcp⟩ := Option.bind_eq_some_iff.mp hp
      have hsame := hprobe.symm.trans (h.probed c probe hc hcp)
      cases hsame
      exact ⟨rfl, c, hc, rfl⟩
    · rintro ⟨rfl, c, hc, rfl⟩
      cases hcp : c.probe with
      | none => exact absurd (h.unprobed c hc hcp) (h.tagged.not_mem_ownTags hprobe)
      | some other =>
        have hsame := h.tagged.injective other probe _ (h.probed c other hc hcp) hprobe
        subst hsame
        exact Option.bind_eq_some_iff.mpr ⟨c, hc, hcp⟩

/-- When the result of the candidate that is held has been posted, no probe is out any more. -/
theorem Detecting.not_isOut (h : s.Detecting) {letter : Letter} (hl : letter ∈ s.world.letters)
    (hh : s.Holds letter) (probe : ProbeId) : ¬ s.world.ledger.IsOut s.world.reported probe := by
  intro ho
  have hp : s.tunnel.detection.probe? = some probe := by
    by_contra hn
    have hz := h.stops probe 0 ho.unstopped
    rw [if_neg hn] at hz
    cases hz
  obtain ⟨sender, event⟩ := letter
  cases sender with
  | relay relay => exact hh
  | stranger => exact hh
  | probe other =>
    have hsame : some other = some probe := hh.symm.trans hp
    cases hsame
    exact ho.unreported (h.tagged.genuine probe event hl).1
  | tunnel =>
    obtain ⟨c, hc, hn, _⟩ := hh
    rw [Detection.probe?, hc, Option.bind_some, hn] at hp
    cases hp

variable [Surroundings σ]

/-- After giving a candidate up no probe is out. -/
theorem Detecting.not_isOut_abandon (h : s.Detecting) (probe : ProbeId) :
    ¬ s.abandon.world.ledger.IsOut s.abandon.world.reported probe := by
  intro ho
  cases h.stops_abandon ho.unstopped

theorem solitary_abandon (h : s.world.Solitary start) : s.abandon.world.Solitary start := by
  rcases s.abandon_cases with ⟨_, he⟩ | ⟨probe, _, he⟩
  · rw [he]
    exact h
  · rw [he]
    exact h.performOther rfl

/-- The next candidate may be tried when no probe is out: its probe is started before the old one is
stopped. -/
theorem solitary_startProbe (h : s.world.Solitary start) (index : Nat)
    (hn : ∀ probe, ¬ s.world.ledger.IsOut s.world.reported probe) :
    (s.startProbe index).2.world.Solitary start := by
  rcases s.startProbe_cases index with ⟨_, he⟩ | ⟨server, _, he⟩ | ⟨server, _, he⟩
  · rw [he]
    exact h
  · rw [he]
    exact solitary_abandon (s := s.within _) (h.probing hn server _ index)
  · have hm : (s.call (.missProbe server)).world.Solitary start := h.performOther rfl
    rw [he]
    exact (solitary_abandon hm).congr rfl rfl (List.Subset.refl _)

/-- What every happening keeps, as long as nobody forges results. -/
structure Unforged (start : Ledger) (s : Station σ) : Prop where
  /-- Candidates come one after the other. -/
  detecting : s.Detecting
  /-- No result is forged. -/
  honest : s.world.Honest 0
  /-- At most one probe was out at any moment. -/
  solitary : s.world.Solitary start

namespace Unforged

theorem spares (h : Unforged start s) (hs : s.Spares t) : Unforged start t :=
  ⟨h.detecting.spares hs, h.honest.unfolds hs.unfolds, h.solitary.unfolds hs.unfolds (by decide)⟩

theorem abandon (h : Unforged start s) : Unforged start s.abandon :=
  ⟨h.detecting.abandon, h.honest.unfolds s.unfolds_abandon, solitary_abandon h.solitary⟩

theorem autoDetect (h : Unforged start s) : Unforged start s.autoDetect := by
  refine ⟨h.detecting.autoDetect, h.honest.unfolds s.unfolds_autoDetect, ?_⟩
  rcases s.autoDetect_cases with ⟨_, he⟩ | ⟨_, t, ht, he⟩
  · rw [he]
    exact (h.spares (s.spares_note .nothingToProbe rfl)).solitary
  · have hst : Unforged start t := by
      rcases ht with rfl | rfl
      · exact h
      · exact h.spares (s.spares_note .detectionRestarted rfl)
    rw [he]
    exact solitary_startProbe (s := t.renumbered) (solitary_abandon hst.solitary) 0
      hst.detecting.not_isOut_abandon

/-- The next candidate is tried only when the result of the one that is held has been posted. -/
theorem onProbed (h : Unforged start s) {letter : Letter} (hl : letter ∈ s.world.letters)
    {run index : Nat} (ht : letter.tag? = some (run, index)) (reachable : Bool) :
    Unforged start (s.onProbed reachable run index) := by
  refine onProbed_induction ?_ ?_ ?_ ?_ h reachable
  · exact fun t notice hn ht => ht.spares (t.spares_note notice hn)
  · exact fun _ ht => ht.abandon
  · exact fun t on ht => ht.spares (t.spares_enable on)
  · intro hc
    have hout := h.detecting.not_isOut hl ((h.detecting.holds_iff hl ht).mpr hc)
    exact ⟨h.detecting.startProbe (h.detecting.lt_next hc),
      h.honest.unfolds (s.unfolds_startProbe (index + 1)),
      solitary_startProbe h.solitary (index + 1) hout⟩

theorem operate (h : Unforged start s) {operation : Operation} (ho : operation ≠ .iterate) :
    Unforged start (s.operate operation) := by
  rcases s.operate_detection_cases ho with hs | ⟨t, hs, ht⟩ | he
  · exact h.spares hs
  · exact (h.spares hs).abandon.spares ht
  · rw [he]
    exact h.autoDetect

omit [Surroundings σ] in
/-- The next event that is to be handled has a letter with a tag, if it is a result. -/
theorem letter_of_head (h : Unforged start s) (hf : s.world.Filed (posted :: batch))
    {reachable : Bool} {run index : Nat} (he : posted.event = .probed reachable run index) :
    ∃ letter, s.world.letters[posted.seq]? = some letter ∧ letter.tag? = some (run, index) := by
  obtain ⟨letter, hl, hle⟩ := hf.letter_of_head
  exact ⟨letter, hl, h.detecting.tagged.tag?_of_not_forged (List.mem_of_getElem? hl)
    (h.honest _ _ (Nat.zero_le _) hl) (hle.trans he)⟩

theorem handle (h : Unforged start s) (hf : s.world.Filed (posted :: batch)) :
    Unforged start (s.handle posted) := by
  have hn : Unforged start (s.note (.handling posted)) := by
    refine ⟨?_, h.honest, h.solitary.congr rfl rfl (List.Subset.refl _)⟩
    exact h.detecting.congr rfl (h.detecting.tagged.congr rfl rfl rfl fun _ => rfl) rfl rfl rfl
  unfold Station.handle
  cases he : posted.event with
  | connectivity connected generation =>
    exact hn.spares (spares_onConnectivity _ connected generation)
  | probed reachable run index =>
    obtain ⟨letter, hl, ht⟩ := h.letter_of_head hf he
    exact hn.onProbed (List.mem_of_getElem? hl) ht reachable

/-- Every step of a run in which nobody forges results keeps this. -/
theorem kept (start : Ledger) :
    Kept (·.forgesResult = false) fun _ (s : Station σ) => Unforged start s where
  operate _ _ _ h _ ho := h.operate ho
  post batch s event hf h ok := by
    have hd := (Detecting.kept (·.forgesResult = false)).post batch s event hf h.detecting ok
    refine ⟨hd, h.honest.post ?_, h.solitary.congr rfl rfl (List.Subset.refl _)⟩
    cases event with
    | connectivity connected generation => rfl
    | probed reachable run index => cases ok
  report batch s report hf h :=
    ⟨(Detecting.kept (·.forgesResult = false)).report batch s report hf h.detecting,
      h.honest.deliver report, h.solitary.deliver report⟩
  stir batch s scene h :=
    ⟨(Detecting.kept (·.forgesResult = false)).stir batch s scene h.detecting, h.honest,
      h.solitary.congr rfl rfl (List.Subset.refl _)⟩
  hook _ _ _ _ h hu := h.spares (.of_unfolds hu rfl (by decide))
  tick s hf h :=
    ⟨(Detecting.kept (·.forgesResult = false)).tick s hf h.detecting, h.honest,
      h.solitary.congr rfl rfl (List.Subset.refl _)⟩
  handle _ _ _ hf h := h.handle hf

end Unforged

/-- A new tunnel has no probe. -/
theorem unforged_fresh (tuning : Tuning) (scene : σ) (found : EngineSettings) :
    Unforged (fresh tuning scene found).world.ledger (fresh tuning scene found) where
  detecting := detecting_fresh tuning scene found
  honest := nofun
  solitary := by
    refine ⟨rfl, ?_, ?_⟩
    · intro moment older hm
      exact absurd (List.suffix_nil.mp hm) (List.cons_ne_nil _ _)
    · intro probe other hp
      cases hp.started

omit [Surroundings σ] in
/-- In a run in which nobody forges results, every handled result is read with its tag. -/
theorem Unforged.readings_eq (h : Unforged start s) (hf : s.world.Filed batch) :
    s.world.readings Letter.tag? = s.world.handled.filterMap fun posted => posted.event.tag? := by
  refine List.filterMap_congr fun posted hm => ?_
  obtain ⟨letter, hl, he⟩ := hf.letter_of_handled hm
  rw [World.reading, hl, Option.bind_some]
  cases hp : posted.event with
  | connectivity connected generation =>
    obtain ⟨sender, event⟩ := letter
    obtain rfl : event = .connectivity connected generation := he.trans hp
    cases sender <;> rfl
  | probed reachable run index =>
    exact h.detecting.tagged.tag?_of_not_forged (List.mem_of_getElem? hl)
      (h.honest _ _ (Nat.zero_le _) hl) (he.trans hp)

/-- A result that comes from the candidate that is held ends the run or brings the next candidate,
and turns the tunnel on or off; any other is noted as stale and nothing else is done about it. -/
theorem Unforged.handle_result (h : Unforged start s) (hf : s.world.Filed (posted :: batch))
    {reachable : Bool} {run index : Nat} (he : posted.event = .probed reachable run index) :
    ∃ letter, s.world.letters[posted.seq]? = some letter ∧
      ((s.Holds letter ∧
        (s.handle posted).tunnel.detection.current ≠ s.tunnel.detection.current ∧
        (s.handle posted).tunnel.link.isOn = !reachable) ∨
      (¬ s.Holds letter ∧
        s.handle posted = (s.note (.handling posted)).note (.staleProbe run index))) := by
  obtain ⟨letter, hl, ht⟩ := h.letter_of_head hf he
  have hiff := h.detecting.holds_iff (List.mem_of_getElem? hl) ht
  have hhandle : s.handle posted = (s.note (.handling posted)).onProbed reachable run index := by
    rw [Station.handle, he]
  refine ⟨letter, hl, ?_⟩
  rw [hhandle]
  cases hc : s.tunnel.detection.isCurrent run index with
  | false =>
    refine .inr ⟨fun hh => ?_, ?_⟩
    · rw [hiff.mp hh] at hc
      cases hc
    · rcases (s.note (.handling posted)).onProbed_cases reachable run index with
        ⟨_, hs⟩ | ⟨hn, _⟩
      · exact hs
      · rw [tunnel_note, hc] at hn
        cases hn
  | true =>
    refine .inl ⟨hiff.mpr hc, ?_, isOn_onProbed _ reachable hc⟩
    obtain ⟨current, hd, hi⟩ := (s.note (.handling posted)).detection_onProbed reachable hc
    obtain ⟨_, c, hcur, rfl⟩ := Detection.isCurrent_iff.mp hc
    rw [hd, hcur]
    rintro rfl
    rw [Option.map_some] at hi
    split at hi
    · exact Nat.succ_ne_self _ (Option.some.inj hi).symm
    · cases hi

/-- As long as nobody forges results, at every moment of every run: no two candidates were ever
started under one tag; a result is acted upon if and only if it comes from the candidate that is
held when it is handled, and is noted as stale otherwise; every handled result is that of a
candidate that was started, and no candidate's result is handled twice; at most one probe was ever
out; and every probe has been stopped exactly once, but for the current candidate's, which has not
been. -/
theorem superseded_candidates_decide_nothing (tuning : Tuning) (scene : σ) (found : EngineSettings)
    (run : (fresh tuning scene found).Reaches (·.forgesResult = false) batch s) :
    s.world.started.Nodup ∧
    (∀ posted rest reachable run index, batch = posted :: rest →
      posted.event = .probed reachable run index →
      ∃ letter, s.world.letters[posted.seq]? = some letter ∧
        ((s.Holds letter ∧
          (s.handle posted).tunnel.detection.current ≠ s.tunnel.detection.current ∧
          (s.handle posted).tunnel.link.isOn = !reachable) ∨
        (¬ s.Holds letter ∧
          s.handle posted = (s.note (.handling posted)).note (.staleProbe run index)))) ∧
    ((s.world.handled.filterMap fun posted => posted.event.tag?).Nodup ∧
      ∀ tag ∈ s.world.handled.filterMap fun posted => posted.event.tag?, tag ∈ s.world.started) ∧
    (s.world.ledger.Solo s.world.reported ∧
      ∀ moment older, moment :: older <:+ s.world.history →
        ((fresh tuning scene found).world.ledger.replay
          (moment.call :: older.map Moment.call)).Solo moment.reported) ∧
    ∀ probe count, s.world.ledger.stopsOf probe = some count →
      count = if s.tunnel.detection.probe? = some probe then 0 else 1 := by
  have hfresh := filed_fresh tuning scene found
  have hf := run.filed hfresh
  have h := run.of_kept (Unforged.kept _) hfresh (unforged_fresh tuning scene found)
  refine ⟨h.detecting.tagged.distinct, ?_, ?_, ⟨h.solitary.now, h.solitary.past⟩, h.detecting.stops⟩
  · rintro posted rest reachable run index rfl he
    exact h.handle_result hf he
  · rw [← h.readings_eq hf]
    refine ⟨h.detecting.tagged.nodup_readings hf, fun tag hm => h.detecting.tagged.mem_started ?_⟩
    rw [← hf.readings_append Letter.tag?]
    exact List.mem_append_left _ (List.mem_reverse.mpr hm)

/-- Detection is begun twice with one server; then the first probe reports that the server was
reached, and the second one that it was not. -/
def restarted : Station Rehearsal.Stage :=
  (fresh {} {} ⟨⟨5060, 5060, 5061, 0⟩, .stun⟩).after
    [.operate (.addServer ⟨"relay.example", 443, some ⟨53, 10⟩⟩), .operate .autoDetect,
      .operate .autoDetect, .report (.probe 0 true), .report (.probe 1 false)]

/-- The tick does nothing about the first probe's result, which would end the run, and turns the
tunnel on when it comes to the second one's. The first probe was stopped once. -/
theorem restarted_ignores_first_probe :
    ∃ s : Station Rehearsal.Stage, s = restarted.emptied ∧ s.world.started = [(2, 0), (1, 0)] ∧
      s.handle ⟨0, .probed true 1 0⟩ =
        (s.note (.handling ⟨0, .probed true 1 0⟩)).note (.staleProbe 1 0) ∧
      ((s.handle ⟨0, .probed true 1 0⟩).handle ⟨1, .probed false 2 0⟩).tunnel.link.isOn = true ∧
      ∀ count, s.world.ledger.stopsOf 0 = some count → count = 1 := by
  have hr : (fresh {} {} ⟨⟨5060, 5060, 5061, 0⟩, .stun⟩).Reaches (·.forgesResult = false) []
      restarted := Reaches.start.after (by decide)
  have ha : (fresh {} {} ⟨⟨5060, 5060, 5061, 0⟩, .stun⟩).Reaches (·.forgesResult = false)
      [⟨0, .probed true 1 0⟩, ⟨1, .probed false 2 0⟩] restarted.emptied := hr.tick rfl
  obtain ⟨_, hfirst, _, _, hstops⟩ := superseded_candidates_decide_nothing _ _ _ ha
  obtain ⟨_, hsecond, _⟩ := superseded_candidates_decide_nothing _ _ _ ha.handle
  refine ⟨_, rfl, by decide, ?_, ?_, fun count hc => ?_⟩
  · obtain ⟨letter, hl, ⟨hh, _⟩ | ⟨_, hs⟩⟩ := hfirst _ _ true 1 0 rfl rfl
    · have hp : letter = ⟨.probe 0, .probed true 1 0⟩ := (Option.some.inj hl).symm
      subst hp
      have hn : restarted.emptied.tunnel.detection.probe? = some 1 := by decide
      cases hn.symm.trans hh
    · exact hs
  · obtain ⟨letter, hl, ⟨_, _, hon⟩ | ⟨hn, _⟩⟩ := hsecond _ _ false 2 0 rfl rfl
    · exact hon
    · have hp : letter = ⟨.probe 1, .probed false 2 0⟩ := (Option.some.inj hl).symm
      subst hp
      have hh : (restarted.emptied.handle ⟨0, .probed true 1 0⟩).tunnel.detection.probe? =
          some 1 := by decide
      exact absurd hh hn
  · have hn : restarted.emptied.tunnel.detection.probe? = some 1 := by decide
    rw [hstops 0 count hc, hn]
    rfl

end Station

end SipOverRelay
