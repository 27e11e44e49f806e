import Mathlib.Data.List.Nodup
import SipOverRelay.Proofs.Course

/-!
# The candidates of detection

A candidate is started under a tag: by the call that starts its probe, or by the result that the
tunnel posts for a candidate without a probe. No tag is used twice, a probe reports once and under
the tag that it was given, and every probe but the current candidate's has been stopped exactly
once. All this holds whatever strangers post.
-/

namespace SipOverRelay

/-- The tag under which a call starts a probe. -/
def Call.tag? : Call → Option (Nat × Nat)
  | .startProbe _ run index => some (run, index)
  | _ => none

/-- Only calls about probes start one. -/
theorem Call.tag?_of_aspect {call : Call} (h : call.aspect ≠ .probe) : call.tag? = none := by
  cases call with
  | startProbe probe run index => exact absurd rfl h
  | _ => rfl

/-- The tag of a result that the tunnel posted itself. -/
def Letter.ownTag? : Letter → Option (Nat × Nat)
  | ⟨.tunnel, .probed _ run index⟩ => some (run, index)
  | _ => none

/-- The tag of a result that a probe or the tunnel posted. -/
def Letter.tag? : Letter → Option (Nat × Nat)
  | ⟨.tunnel, .probed _ run index⟩ => some (run, index)
  | ⟨.probe _, .probed _ run index⟩ => some (run, index)
  | _ => none

/-- Whether a letter says what a probe found, though neither a probe nor the tunnel posted it. -/
def Letter.isForged : Letter → Bool
  | ⟨.stranger, .probed _ _ _⟩ => true
  | _ => false

theorem Letter.ownTag?_eq_some {letter : Letter} {tag : Nat × Nat} :
    letter.ownTag? = some tag ↔
      ∃ reachable, letter = ⟨.tunnel, .probed reachable tag.1 tag.2⟩ := by
  constructor
  · intro h
    unfold ownTag? at h
    split at h
    · next reachable run index =>
      cases h
      exact ⟨reachable, rfl⟩
    · cases h
  · rintro ⟨reachable, rfl⟩
    rfl

/-- A result with a tag is the tunnel's own or a probe's. -/
theorem Letter.tag?_eq_some {letter : Letter} {tag : Nat × Nat} :
    letter.tag? = some tag ↔ letter.ownTag? = some tag ∨
      ∃ probe reachable, letter = ⟨.probe probe, .probed reachable tag.1 tag.2⟩ := by
  constructor
  · intro h
    unfold tag? at h
    split at h
    · exact .inl h
    · next probe reachable run index =>
      cases h
      exact .inr ⟨probe, reachable, rfl⟩
    · cases h
  · rintro (h | ⟨probe, reachable, rfl⟩)
    · obtain ⟨reachable, rfl⟩ := ownTag?_eq_some.mp h
      rfl
    · rfl

namespace Ledger

/-- The tag that a probe was given. -/
def tagOf (l : Ledger) (probe : ProbeId) : Option (Nat × Nat) :=
  (l.probes[probe]?).bind ProbeRecord.tag

/-- How often a probe was stopped, if there is such a probe. -/
def stopsOf (l : Ledger) (probe : ProbeId) : Option Nat :=
  (l.probes[probe]?).map ProbeRecord.stops

/-- Whatever a change of a probe's record keeps is kept of every probe. -/
theorem probes_onProbe {α : Type} (view : Option ProbeRecord → α) (l : Ledger)
    (touched probe : ProbeId) {f : ProbeRecord → ProbeRecord}
    (hf : ∀ record, view (some (f record)) = view (some record)) :
    view (l.onProbe touched f).probes[probe]? = view l.probes[probe]? := by
  simp only [onProbe, List.getElem?_modify]
  cases l.probes[probe]? with
  | none => rfl
  | some record => by_cases h : touched = probe <;> simp [h, hf]

/-- A new probe comes after all others. -/
theorem probes_createProbe (l : Ledger) (server : Server) (probe : ProbeId) :
    (l.apply (.createProbe server)).probes[probe]? =
      if probe = l.probes.length then some ⟨server, none, 0⟩ else l.probes[probe]? := by
  change (l.probes ++ [ProbeRecord.mk server none 0])[probe]? = _
  by_cases h : probe = l.probes.length
  · rw [if_pos h, h, List.getElem?_concat_length]
  · rw [if_neg h]
    rcases Nat.lt_or_ge probe l.probes.length with hlt | hge
    · rw [List.getElem?_append_left hlt]
    · have hlt := Nat.lt_of_le_of_ne hge (Ne.symm h)
      rw [List.getElem?_eq_none hge, List.getElem?_eq_none]
      rw [List.length_append]
      exact hlt

/-- A new probe has no tag. -/
theorem tagOf_createProbe (l : Ledger) (server : Server) (probe : ProbeId) :
    (l.apply (.createProbe server)).tagOf probe = l.tagOf probe := by
  rw [tagOf, probes_createProbe, tagOf]
  split
  · next h =>
    rw [List.getElem?_eq_none (Nat.le_of_eq h.symm)]
    rfl
  · rfl

/-- A new probe has not been stopped. -/
theorem stopsOf_createProbe (l : Ledger) (server : Server) (probe : ProbeId) :
    (l.apply (.createProbe server)).stopsOf probe =
      if probe = l.probes.length then some 0 else l.stopsOf probe := by
  rw [stopsOf, probes_createProbe, stopsOf]
  split
  · rfl
  · rfl

/-- A probe that is started gets its tag. -/
theorem tagOf_startProbe (l : Ledger) (started probe : ProbeId) (run index : Nat) :
    (l.apply (.startProbe started run index)).tagOf probe =
      if started = probe ∧ probe < l.probes.length then some (run, index) else l.tagOf probe := by
  simp only [tagOf, apply, onProbe, List.getElem?_modify]
  by_cases hs : started = probe
  · subst hs
    rcases Nat.lt_or_ge started l.probes.length with h | h
    · rw [if_pos ⟨rfl, h⟩, List.getElem?_eq_getElem h]
      simp
    · rw [if_neg fun hn => Nat.not_lt.mpr h hn.2, List.getElem?_eq_none h]
      rfl
  · rw [if_neg fun hn => hs hn.1]
    simp [hs]

/-- A tag stays when another probe is started. -/
theorem tagOf_startProbe_of_some {l : Ledger} {started probe : ProbeId} {tag : Nat × Nat}
    (hn : l.tagOf started = none) (h : l.tagOf probe = some tag) (run index : Nat) :
    (l.apply (.startProbe started run index)).tagOf probe = some tag := by
  rw [tagOf_startProbe, if_neg, h]
  rintro ⟨rfl, _⟩
  rw [hn] at h
  cases h

/-- A tag is the one that was just given, or an old one. -/
theorem tagOf_startProbe_cases {l : Ledger} {started probe : ProbeId} {run index : Nat}
    {tag : Nat × Nat} (h : (l.apply (.startProbe started run index)).tagOf probe = some tag) :
    (probe = started ∧ tag = (run, index)) ∨ l.tagOf probe = some tag := by
  rw [tagOf_startProbe] at h
  split at h
  · next hs =>
    cases h
    exact .inl ⟨hs.1.symm, rfl⟩
  · exact .inr h

theorem stopsOf_startProbe (l : Ledger) (started probe : ProbeId) (run index : Nat) :
    (l.apply (.startProbe started run index)).stopsOf probe = l.stopsOf probe :=
  l.probes_onProbe (·.map ProbeRecord.stops) started probe fun _ => rfl

theorem tagOf_stopProbe (l : Ledger) (stopped probe : ProbeId) :
    (l.apply (.stopProbe stopped)).tagOf probe = l.tagOf probe :=
  l.probes_onProbe (·.bind ProbeRecord.tag) stopped probe fun _ => rfl

/-- Stopping a probe counts once. -/
theorem stopsOf_stopProbe (l : Ledger) (stopped probe : ProbeId) :
    (l.apply (.stopProbe stopped)).stopsOf probe =
      if stopped = probe then (l.stopsOf probe).map (· + 1) else l.stopsOf probe := by
  simp only [stopsOf, apply, onProbe, List.getElem?_modify]
  cases l.probes[probe]? with
  | none => simp
  | some record => by_cases hs : stopped = probe <;> simp [hs]

/-- Only starting a probe gives it a tag. -/
theorem tagOf_apply (l : Ledger) {call : Call} (h : call.tag? = none) (probe : ProbeId) :
    (l.apply call).tagOf probe = l.tagOf probe := by
  cases call with
  | createProbe server => exact l.tagOf_createProbe server probe
  | startProbe started run index => cases h
  | stopProbe stopped => exact l.tagOf_stopProbe stopped probe
  | _ => rfl

/-- Probes are numbered in the order of creation, so one with a tag is among them. -/
theorem lt_of_tagOf {l : Ledger} {probe : ProbeId} {tag : Nat × Nat}
    (h : l.tagOf probe = some tag) : probe < l.probes.length := by
  obtain ⟨record, hr, _⟩ := Option.bind_eq_some_iff.mp h
  exact (List.getElem?_eq_some_iff.mp hr).1

end Ledger

namespace World

variable {σ : Type} {w v : World σ}

/-- The tags of all probes ever started, newest first. -/
def probeTags (w : World σ) : List (Nat × Nat) := w.calls.filterMap Call.tag?

/-- The tags of all results that the tunnel posted for candidates without a probe, in order. -/
def ownTags (w : World σ) : List (Nat × Nat) := w.letters.filterMap Letter.ownTag?

/-- The tags of all candidates ever started. -/
def started (w : World σ) : List (Nat × Nat) := w.probeTags ++ w.ownTags

/-- A result that the tunnel posts itself counts as a start. -/
theorem started_postOwn (w : World σ) (run index : Nat) :
    (w.post .tunnel (.probed false run index)).started = w.started ++ [(run, index)] := by
  rw [started, ownTags, filterMap_letters_post, ← List.append_assoc]
  rfl

/-- Any other post is none. -/
theorem ownTags_post (w : World σ) {sender : Sender} {event : Event}
    (h : Letter.ownTag? ⟨sender, event⟩ = none) : (w.post sender event).ownTags = w.ownTags := by
  rw [ownTags, filterMap_letters_post, h]
  exact List.append_nil _

/-- A post that is no start starts no candidate. -/
theorem started_post (w : World σ) {sender : Sender} {event : Event}
    (h : Letter.ownTag? ⟨sender, event⟩ = none) : (w.post sender event).started = w.started :=
  congrArg (w.probeTags ++ ·) (w.ownTags_post h)

/-- Tags are used once, and results come from where their tags say. -/
structure Tagged (w : World σ) : Prop where
  /-- No two candidates have the same tag. -/
  distinct : w.started.Nodup
  /-- A probe has no tag but one that it was started under. -/
  known : ∀ probe tag, w.ledger.tagOf probe = some tag → tag ∈ w.probeTags
  /-- No two probes have the same tag. -/
  injective : ∀ probe other tag, w.ledger.tagOf probe = some tag →
    w.ledger.tagOf other = some tag → probe = other
  /-- What a probe posts is its result, under its tag, and it has reported then. -/
  genuine : ∀ probe event, ⟨.probe probe, event⟩ ∈ w.letters → probe ∈ w.reported ∧
    ∃ reachable run index, event = .probed reachable run index ∧
      w.ledger.tagOf probe = some (run, index)
  /-- What relays post are no results. -/
  relays : ∀ relay reachable run index, ⟨.relay relay, .probed reachable run index⟩ ∉ w.letters
  /-- What the tunnel posts is that a candidate was not reachable. -/
  own : ∀ event, ⟨.tunnel, event⟩ ∈ w.letters → ∃ run index, event = .probed false run index
  /-- A probe that has reported has posted its result. -/
  answered : ∀ probe ∈ w.reported, ∃ event, ⟨.probe probe, event⟩ ∈ w.letters
  /-- No result comes twice. -/
  once : (w.letters.filterMap Letter.tag?).Nodup

namespace Tagged

/-- A tag that a probe was started under is not one of a candidate without a probe. -/
theorem not_mem_ownTags (h : w.Tagged) {probe : ProbeId} {tag : Nat × Nat}
    (ht : w.ledger.tagOf probe = some tag) : tag ∉ w.ownTags := by
  intro hm
  exact (List.nodup_append.mp h.distinct).2.2 tag (h.known probe tag ht) tag hm rfl

/-- Every result that a probe or the tunnel posted belongs to a candidate that was started. -/
theorem mem_started (h : w.Tagged) {tag : Nat × Nat}
    (ht : tag ∈ w.letters.filterMap Letter.tag?) : tag ∈ w.started := by
  obtain ⟨letter, hl, htag⟩ := List.mem_filterMap.mp ht
  rw [started, List.mem_append]
  rcases Letter.tag?_eq_some.mp htag with ho | ⟨probe, reachable, rfl⟩
  · exact .inr (List.mem_filterMap.mpr ⟨letter, hl, ho⟩)
  · obtain ⟨_, _, _, _, he, hp⟩ := h.genuine probe _ hl
    cases he
    exact .inl (h.known probe tag hp)

/-- No result is handled twice. -/
theorem nodup_readings (h : w.Tagged) {batch : List Posted} (hf : w.Filed batch) :
    (w.readings Letter.tag?).Nodup := by
  have hn := h.once
  rw [← hf.readings_append Letter.tag?] at hn
  exact List.nodup_reverse.mp (List.nodup_append.mp hn).1

/-- What is said about tags depends on letters, reports and tags alone. -/
theorem congr (h : w.Tagged) (hl : v.letters = w.letters) (hr : v.reported = w.reported)
    (hc : v.probeTags = w.probeTags) (ht : ∀ probe, v.ledger.tagOf probe = w.ledger.tagOf probe) :
    v.Tagged := by
  have ho : v.ownTags = w.ownTags := by rw [ownTags, ownTags, hl]
  refine ⟨?_, ?_, ?_, ?_, ?_, ?_, ?_, ?_⟩
  · rw [started, hc, ho]
    exact h.distinct
  · simp only [ht, hc]
    exact h.known
  · simp only [ht]
    exact h.injective
  · simp only [hl, hr, ht]
    exact h.genuine
  · rw [hl]
    exact h.relays
  · rw [hl]
    exact h.own
  · rw [hl, hr]
    exact h.answered
  · rw [hl]
    exact h.once

/-- A letter from neither a probe nor the tunnel changes nothing here, unless a relay pretends to
know a result. -/
theorem postOther (h : w.Tagged) {sender : Sender} {event : Event}
    (hp : ∀ probe, sender ≠ .probe probe) (ho : sender ≠ .tunnel)
    (hr : ∀ relay reachable run index, sender = .relay relay →
      event ≠ .probed reachable run index) :
    (w.post sender event).Tagged := by
  have htag : Letter.tag? ⟨sender, event⟩ = none := by
    cases sender with
    | probe probe => exact absurd rfl (hp probe)
    | tunnel => exact absurd rfl ho
    | relay relay => rfl
    | stranger => rfl
  have hown : Letter.ownTag? ⟨sender, event⟩ = none := by
    cases ht : Letter.ownTag? ⟨sender, event⟩ with
    | none => rfl
    | some tag =>
      rw [Letter.tag?_eq_some.mpr (.inl ht)] at htag
      cases htag
  refine ⟨?_, h.known, h.injective, ?_, ?_, ?_, ?_, ?_⟩
  · rw [w.started_post hown]
    exact h.distinct
  · intro probe posted hm
    rcases mem_letters_post.mp hm with hm | he
    · exact h.genuine probe posted hm
    · cases he
      exact absurd rfl (hp probe)
  · intro relay reachable run index hm
    rcases mem_letters_post.mp hm with hm | he
    · exact h.relays relay reachable run index hm
    · cases he
      exact hr relay reachable run index rfl rfl
  · intro posted hm
    rcases mem_letters_post.mp hm with hm | he
    · exact h.own posted hm
    · cases he
      exact absurd rfl ho
  · intro probe hm
    obtain ⟨posted, hl⟩ := h.answered probe hm
    exact ⟨posted, mem_letters_post.mpr (.inl hl)⟩
  · rw [filterMap_letters_post, htag, Option.toList_none, List.append_nil]
    exact h.once

/-- A probe that has a tag and has not reported may do so. -/
theorem postResult (h : w.Tagged) {probe : ProbeId} {run index : Nat} (reachable : Bool)
    (ht : w.ledger.tagOf probe = some (run, index)) (hn : probe ∉ w.reported) :
    Tagged ({ w with reported := probe :: w.reported }.post (.probe probe)
      (.probed reachable run index)) := by
  refine ⟨?_, h.known, h.injective, ?_, ?_, ?_, ?_, ?_⟩
  · rw [started_post _ rfl]
    exact h.distinct
  · intro other event hm
    rcases mem_letters_post.mp hm with hm | he
    · obtain ⟨hmem, he⟩ := h.genuine other event hm
      exact ⟨List.mem_cons_of_mem _ hmem, he⟩
    · cases he
      exact ⟨List.mem_cons_self, reachable, run, index, rfl, ht⟩
  · intro relay _ _ _ hm
    rcases mem_letters_post.mp hm with hm | he
    · exact h.relays relay _ _ _ hm
    · cases he
  · intro event hm
    rcases mem_letters_post.mp hm with hm | he
    · exact h.own event hm
    · cases he
  · intro other hm
    rcases List.mem_cons.mp hm with rfl | hm
    · exact ⟨_, mem_letters_post.mpr (.inr rfl)⟩
    · obtain ⟨event, hl⟩ := h.answered other hm
      exact ⟨event, mem_letters_post.mpr (.inl hl)⟩
  · -- An earlier result with this tag would be the tunnel's own, or this very probe's.
    have hfresh : (run, index) ∉ w.letters.filterMap Letter.tag? := by
      intro hm
      obtain ⟨letter, hl, htag⟩ := List.mem_filterMap.mp hm
      rcases Letter.tag?_eq_some.mp htag with ho | ⟨other, _, rfl⟩
      · exact h.not_mem_ownTags ht (List.mem_filterMap.mpr ⟨letter, hl, ho⟩)
      · obtain ⟨hrep, _, _, _, he, hother⟩ := h.genuine other _ hl
        cases he
        rw [h.injective probe other _ ht hother] at hn
        exact hn hrep
    rw [filterMap_letters_post]
    exact List.concat_eq_append ▸ h.once.concat hfresh

/-- A report changes nothing here. -/
theorem deliver (h : w.Tagged) (report : Report) : (w.deliver report).Tagged := by
  rcases w.deliver_cases report with he | ⟨relay, connected, generation, _, he⟩ |
    ⟨probe, reachable, run, index, ha, he⟩
  · rw [he]
    exact h
  · rw [he]
    exact h.postOther (by simp) (by simp) (by simp)
  · rw [he]
    unfold awaited? at ha
    split at ha
    · cases ha
    · next hn =>
      rw [Bool.or_eq_true, not_or, List.contains_iff_mem] at hn
      exact h.postResult reachable ha hn.2

/-- A candidate without a probe gets its result at once, under a tag that no other has. -/
theorem postOwn (h : w.Tagged) {run index : Nat} (hn : (run, index) ∉ w.started) :
    (w.post .tunnel (.probed false run index)).Tagged := by
  refine ⟨?_, h.known, h.injective, ?_, ?_, ?_, ?_, ?_⟩
  · rw [started_postOwn, ← List.concat_eq_append]
    exact h.distinct.concat hn
  · intro probe event hm
    rcases mem_letters_post.mp hm with hm | he
    · exact h.genuine probe event hm
    · cases he
  · intro relay _ _ _ hm
    rcases mem_letters_post.mp hm with hm | he
    · exact h.relays relay _ _ _ hm
    · cases he
  · intro event hm
    rcases mem_letters_post.mp hm with hm | he
    · exact h.own event hm
    · cases he
      exact ⟨run, index, rfl⟩
  · intro probe hm
    obtain ⟨event, hl⟩ := h.answered probe hm
    exact ⟨event, mem_letters_post.mpr (.inl hl)⟩
  · rw [filterMap_letters_post]
    exact List.concat_eq_append ▸ h.once.concat fun hm => hn (h.mem_started hm)

/-- A result that is not forged is a probe's or the tunnel's own. -/
theorem tag?_of_not_forged (h : w.Tagged) {letter : Letter} (hl : letter ∈ w.letters)
    (hf : letter.isForged = false) {reachable : Bool} {run index : Nat}
    (he : letter.event = .probed reachable run index) : letter.tag? = some (run, index) := by
  obtain ⟨sender, event⟩ := letter
  obtain rfl : event = .probed reachable run index := he
  cases sender with
  | relay relay => exact absurd hl (h.relays relay reachable run index)
  | probe probe => rfl
  | tunnel => rfl
  | stranger => cases hf

variable [Surroundings σ]

/-- A call that starts no probe changes nothing here. -/
theorem perform (h : w.Tagged) {call : Call} (hc : call.tag? = none) : (w.perform call).Tagged := by
  refine perform_induction (fun _ report hv => hv.deliver report) (h.congr rfl rfl ?_ ?_)
  · exact List.filterMap_cons_none hc
  · exact fun probe => w.ledger.tagOf_apply hc probe

/-- A probe may be started once, under a tag that no other candidate has. -/
theorem startProbe (h : w.Tagged) {probe : ProbeId} {run index : Nat}
    (hp : w.ledger.tagOf probe = none) (hn : (run, index) ∉ w.started) :
    (w.perform (.startProbe probe run index)).Tagged := by
  have hunused (other : ProbeId) : w.ledger.tagOf other ≠ some (run, index) := fun hother =>
    hn (List.mem_append_left _ (h.known other _ hother))
  have hnew : (w.entered (.startProbe probe run index)).probeTags = (run, index) :: w.probeTags :=
    rfl
  refine perform_induction (fun _ report hv => hv.deliver report)
    ⟨List.nodup_cons.mpr ⟨hn, h.distinct⟩, ?_, ?_, ?_, h.relays, h.own, h.answered, h.once⟩
  · intro other tag hother
    rw [hnew]
    rcases Ledger.tagOf_startProbe_cases hother with ⟨_, rfl⟩ | hother
    · exact List.mem_cons_self
    · exact List.mem_cons_of_mem _ (h.known other tag hother)
  · intro first second tag hfirst hsecond
    rcases Ledger.tagOf_startProbe_cases hfirst with ⟨rfl, rfl⟩ | hone
    · rcases Ledger.tagOf_startProbe_cases hsecond with ⟨rfl, _⟩ | htwo
      · rfl
      · exact absurd htwo (hunused second)
    · rcases Ledger.tagOf_startProbe_cases hsecond with ⟨rfl, rfl⟩ | htwo
      · exact absurd hone (hunused first)
      · exact h.injective first second tag hone htwo
  · intro other event hm
    obtain ⟨hr, reachable, r, i, he, hother⟩ := h.genuine other event hm
    exact ⟨hr, reachable, r, i, he, Ledger.tagOf_startProbe_of_some hp hother run index⟩

/-- What is no matter of probes changes nothing here. -/
theorem unfolds (h : w.Tagged) {aspects : List Aspect} (hu : w.Unfolds aspects v)
    (ha : .probe ∉ aspects) : v.Tagged := by
  induction hu with
  | refl => exact h
  | perform _ call hc ih => exact ih.perform (Call.tag?_of_aspect fun he => ha (he ▸ hc))
  | note _ _ _ ih => exact ih.congr rfl rfl rfl fun _ => rfl
  | answer _ run index hp _ => exact absurd hp ha

end Tagged

/-- From this number on no letter is a forged result. -/
def Honest (since : Nat) (w : World σ) : Prop :=
  ∀ seq letter, since ≤ seq → w.letters[seq]? = some letter → letter.isForged = false

namespace Honest

variable {since : Nat}

theorem post (h : w.Honest since) {sender : Sender} {event : Event}
    (hf : Letter.isForged ⟨sender, event⟩ = false) : (w.post sender event).Honest since := by
  intro seq letter hs hl
  have hl' : (w.letters ++ [⟨sender, event⟩])[seq]? = some letter := hl
  rcases Nat.lt_or_ge seq w.letters.length with hlt | hge
  · rw [List.getElem?_append_left hlt] at hl'
    exact h seq letter hs hl'
  · rw [List.getElem?_append_right hge] at hl'
    rw [List.mem_singleton.mp (List.mem_of_getElem? hl')]
    exact hf

/-- Neither relays nor probes forge results. -/
theorem deliver (h : w.Honest since) (report : Report) : (w.deliver report).Honest since := by
  rcases w.deliver_cases report with he | ⟨_, _, _, _, he⟩ | ⟨probe, _, _, _, _, he⟩
  · rw [he]
    exact h
  · rw [he]
    exact h.post rfl
  · have hr : Honest since { w with reported := probe :: w.reported } := h
    rw [he]
    exact hr.post rfl

/-- The tunnel does not forge results. -/
theorem unfolds [Surroundings σ] (h : w.Honest since) {aspects : List Aspect}
    (hu : w.Unfolds aspects v) : v.Honest since := by
  induction hu with
  | refl => exact h
  | perform _ call _ ih => exact perform_induction (fun _ report hv => hv.deliver report) ih
  | note _ _ _ ih => exact ih
  | answer _ run index _ ih => exact ih.post rfl

end Honest

end World

end SipOverRelay
