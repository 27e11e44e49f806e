import SipOverRelay.Proofs.Course
import SipOverRelay.Rehearsal.Stage

/-!
# Phases of the link

A relay reports under the generation number that it was given when it was created, and no two
relays of a tunnel are given the same. So what the tunnel acts upon is what the held relay itself
reported, and the phase of a link that is on is what the held relay reported last.
-/

namespace SipOverRelay

/-- The phase that a link comes to by what its relay reported, newest first. -/
def Phase.after : List Bool → Phase
  | [] => .connecting
  | true :: _ => .ready
  | false :: _ => .disconnected

/-- What a letter says on behalf of a relay, if this relay posted it. -/
def Letter.saidBy (relay : RelayId) : Letter → Option Bool
  | ⟨.relay other, .connectivity connected _⟩ => if other = relay then some connected else none
  | _ => none

namespace World

variable {σ : Type} {w v : World σ} {posted : Posted} {batch : List Posted}

/-- What an event says on behalf of a relay, if this relay posted it. -/
def saidBy (w : World σ) (relay : RelayId) (posted : Posted) : Option Bool :=
  w.reading (Letter.saidBy relay) posted

/-- What a relay itself reported, as far as it has been handled, newest first. -/
def heard (w : World σ) (relay : RelayId) : List Bool := w.readings (Letter.saidBy relay)

/-- A result says nothing on behalf of relays. -/
theorem saidBy_of_probed (hf : w.Filed (posted :: batch)) {reachable : Bool} {run index : Nat}
    (hp : posted.event = .probed reachable run index) (relay : RelayId) :
    w.saidBy relay posted = none := by
  obtain ⟨⟨sender, event⟩, hl, he⟩ := hf.letter_of_head
  obtain rfl : event = .probed reachable run index := he.trans hp
  rw [saidBy, reading, hl]
  cases sender <;> rfl

/-- A relay that can report does so under the number that it was given. -/
theorem listeners_of_listener {relay : RelayId} {generation : Nat}
    (h : w.listener? relay = some generation) :
    w.ledger.listeners[relay]? = some (some generation) := by
  unfold listener? at h
  split at h
  · cases h
  · obtain ⟨record, hr, hl⟩ := Option.bind_eq_some_iff.mp h
    rw [Ledger.listeners, List.getElem?_map, hr, Option.map_some, hl]

/-- Every relay reports under the number after its own, and whatever says that a relay gained or
lost its connection was posted by that relay. -/
structure Attributed (w : World σ) : Prop where
  /-- The number that a relay was given is the one after its own. -/
  listener : ∀ relay generation, w.ledger.listeners[relay]? = some (some generation) →
    generation = relay + 1
  /-- The letters with a number were posted by the relay with that number. -/
  genuine : ∀ letter ∈ w.letters, ∀ connected generation,
    letter.event = .connectivity connected generation →
      ∃ relay, letter.sender = .relay relay ∧ generation = relay + 1 ∧
        relay < w.ledger.relays.length

namespace Attributed

/-- Letters and generation numbers are all that counts here. -/
theorem congr (h : w.Attributed) (hl : v.letters = w.letters)
    (hr : v.ledger.listeners = w.ledger.listeners) : v.Attributed where
  listener := by
    rw [hr]
    exact h.listener
  genuine := by
    rw [hl, ← Ledger.length_listeners, hr, Ledger.length_listeners]
    exact h.genuine

/-- A letter that says nothing of relays does no harm. -/
theorem post (h : w.Attributed) {sender : Sender} {event : Event}
    (he : ∀ connected generation, event ≠ .connectivity connected generation) :
    (w.post sender event).Attributed where
  listener := h.listener
  genuine := by
    intro letter hm connected generation hc
    rcases mem_letters_post.mp hm with hm | rfl
    · exact h.genuine letter hm connected generation hc
    · exact absurd hc (he _ _)

theorem deliver (h : w.Attributed) (report : Report) : (w.deliver report).Attributed := by
  rcases w.deliver_cases report with he | ⟨relay, connected, generation, hl, he⟩ |
    ⟨probe, reachable, run, index, _, he⟩
  · rw [he]
    exact h
  · rw [he]
    have hg := listeners_of_listener hl
    refine ⟨h.listener, ?_⟩
    intro letter hm c g hc
    rcases mem_letters_post.mp hm with hm | rfl
    · exact h.genuine letter hm c g hc
    · cases hc
      refine ⟨relay, rfl, h.listener _ _ hg, ?_⟩
      have hlt := (List.getElem?_eq_some_iff.mp hg).1
      rwa [Ledger.length_listeners] at hlt
  · have hr : Attributed { w with reported := probe :: w.reported } := h.congr rfl rfl
    rw [he]
    exact hr.post (by simp)

/-- What a new relay could say has not been heard. -/
theorem heard_eq_nil (h : w.Attributed) (hf : w.Filed batch) {relay : RelayId}
    (hr : w.ledger.relays.length ≤ relay) : w.heard relay = [] := by
  rw [heard, readings, List.filterMap_eq_nil_iff]
  intro posted hm
  obtain ⟨⟨sender, event⟩, hl, _⟩ := hf.letter_of_handled hm
  rw [reading, hl, Option.bind_some]
  unfold Letter.saidBy
  split
  · next other connected generation he =>
    rw [if_neg]
    rintro rfl
    cases he
    obtain ⟨_, ho, _, hlt⟩ := h.genuine _ (List.mem_of_getElem? hl) connected generation rfl
    cases ho
    exact Nat.not_lt.mpr hr hlt
  · rfl

/-- What is said under a number is said by the relay before that number, and by no other. -/
theorem saidBy_of_connectivity (h : w.Attributed) (hf : w.Filed (posted :: batch))
    {connected : Bool} {generation : Nat}
    (hc : posted.event = .connectivity connected generation) (relay : RelayId) :
    w.saidBy relay posted = if generation = relay + 1 then some connected else none := by
  obtain ⟨⟨sender, event⟩, hl, he⟩ := hf.letter_of_head
  obtain rfl : event = .connectivity connected generation := he.trans hc
  obtain ⟨other, hs, hg, _⟩ := h.genuine _ (List.mem_of_getElem? hl) connected generation rfl
  obtain rfl : sender = .relay other := hs
  rw [saidBy, reading, hl, Option.bind_some, Letter.saidBy, hg]
  by_cases hr : other = relay
  · subst hr
    rw [if_pos rfl, if_pos rfl]
  · rw [if_neg hr, if_neg fun hn => hr (Nat.succ.inj hn)]

variable [Surroundings σ]

theorem perform (h : w.Attributed) {call : Call} (hr : call.aspect ≠ .roster) :
    (w.perform call).Attributed :=
  perform_induction (fun _ report hv => hv.deliver report)
    (h.congr rfl (w.ledger.listeners_apply hr))

/-- A new relay has no number yet. -/
theorem createRelay (h : w.Attributed) : (w.perform .createRelay).Attributed := by
  refine perform_induction (fun _ report hv => hv.deliver report) ⟨?_, ?_⟩
  · intro relay generation hl
    have hl' : (w.ledger.listeners ++ [none])[relay]? = some (some generation) :=
      w.ledger.listeners_createRelay ▸ hl
    rcases Nat.lt_or_ge relay w.ledger.listeners.length with hlt | hge
    · rw [List.getElem?_append_left hlt] at hl'
      exact h.listener _ _ hl'
    · rw [List.getElem?_append_right hge, List.getElem?_singleton] at hl'
      split at hl' <;> cases hl'
  · intro letter hm connected generation hc
    obtain ⟨relay, hs, hg, hlt⟩ := h.genuine letter hm connected generation hc
    refine ⟨relay, hs, hg, Nat.lt_trans hlt ?_⟩
    change _ < (w.ledger.relays ++ [RelayRecord.mk [] none none 0 0 0 0 []]).length
    rw [List.length_append]
    exact Nat.lt_succ_self _

/-- A relay may be given the number after its own. -/
theorem listen (h : w.Attributed) (relay : RelayId) :
    (w.perform (.listen relay (relay + 1))).Attributed := by
  refine perform_induction (fun _ report hv => hv.deliver report) ⟨?_, ?_⟩
  · intro other generation hl
    have hl' : (w.ledger.listeners.set relay (some (relay + 1)))[other]? =
        some (some generation) := w.ledger.listeners_listen relay _ ▸ hl
    by_cases ho : relay = other
    · subst ho
      rw [List.getElem?_set_self'] at hl'
      obtain ⟨_, _, hg⟩ := Option.map_eq_some_iff.mp hl'
      cases hg
      rfl
    · rw [List.getElem?_set_ne ho] at hl'
      exact h.listener _ _ hl'
  · intro letter hm connected generation hc
    obtain ⟨other, hs, hg, hlt⟩ := h.genuine letter hm connected generation hc
    refine ⟨other, hs, hg, Nat.lt_of_lt_of_eq hlt ?_⟩
    exact (List.length_modify _ _ _).symm

/-- Calls that leave the roster alone change nothing here. -/
theorem unfolds (h : w.Attributed) {aspects : List Aspect} (hu : w.Unfolds aspects v)
    (hr : .roster ∉ aspects) : v.Attributed := by
  induction hu with
  | refl => exact h
  | perform _ call hc ih => exact ih.perform fun he => hr (he ▸ hc)
  | note _ _ _ ih => exact ih.congr rfl rfl
  | answer _ run index _ ih => exact ih.post nofun

end Attributed

end World

namespace Station

open World (Unfolds)

variable {σ : Type} {since : Nat} {s t : Station σ} {posted : Posted} {batch : List Posted}

/-- What every happening keeps, as long as nobody but relays says anything about relays: a relay is
held only while the link is on, it is the one created last and none of those created before
`since`, and the phase is what it reported last. -/
structure Reporting (since : Nat) (s : Station σ) : Prop where
  /-- Relays report for themselves. -/
  attributed : s.world.Attributed
  /-- The tunnel counts the relays. -/
  counted : s.tunnel.generation = s.world.ledger.relays.length
  /-- So many relays there are at least. -/
  since_le : since ≤ s.world.ledger.relays.length
  /-- The relay that is held. -/
  held : ∀ relay, s.tunnel.relay = some relay →
    relay + 1 = s.tunnel.generation ∧ since ≤ relay ∧ s.tunnel.link.isOn = true
  /-- The phase of a link that is on. -/
  phase : ∀ settings phase, s.tunnel.link = .on settings phase →
    phase = Phase.after (s.tunnel.relay.elim [] s.world.heard)

namespace Reporting

/-- No relay is held while the link is off. -/
theorem relay_of_off (h : Reporting since s) (hl : s.tunnel.link = .off) :
    s.tunnel.relay = none := by
  rw [Option.eq_none_iff_forall_ne_some]
  intro relay hr
  have hon := (h.held relay hr).2.2
  rw [hl] at hon
  cases hon

/-- Where the core of the tunnel, the roster and what was heard stay, nothing changes here. -/
theorem congr (h : Reporting since s) (ha : t.world.Attributed)
    (hn : t.world.ledger.relays.length = s.world.ledger.relays.length)
    (hh : t.world.heard = s.world.heard) (hc : t.tunnel.core = s.tunnel.core) :
    Reporting since t := by
  obtain ⟨_, _, hrelay, hgeneration, hlink⟩ := Tunnel.core_eq_iff.mp hc
  refine ⟨ha, ?_, ?_, ?_, ?_⟩
  · rw [hgeneration, hn]
    exact h.counted
  · rw [hn]
    exact h.since_le
  · rw [hrelay, hgeneration, hlink]
    exact h.held
  · rw [hrelay, hlink, hh]
    exact h.phase

theorem note (h : Reporting since s) {notice : Notice} (hn : notice.handled? = none) :
    Reporting since (s.note notice) := by
  refine h.congr (h.attributed.congr rfl rfl) rfl ?_ rfl
  funext relay
  rw [World.heard, world_note, World.readings_note _ hn, World.heard]

/-- An event that the held relay did not post changes nothing when it is taken up. -/
theorem handling (h : Reporting since s)
    (hq : ∀ relay, s.tunnel.relay = some relay → s.world.saidBy relay posted = none) :
    Reporting since (s.note (.handling posted)) := by
  refine ⟨h.attributed.congr rfl rfl, h.counted, h.since_le, h.held, ?_⟩
  intro settings phase hl
  rw [h.phase settings phase hl]
  change Phase.after _ = Phase.after (s.tunnel.relay.elim [] _)
  cases hr : s.tunnel.relay with
  | none => rfl
  | some relay =>
    have hn := s.world.readings_note_handling (Letter.saidBy relay) posted
    rw [Option.elim_some, Option.elim_some, World.heard, World.heard, world_note, hn]
    change _ = Phase.after ((s.world.saidBy relay posted).toList ++ _)
    rw [hq relay hr]
    rfl

variable [Surroundings σ]

/-- What leaves the core of the tunnel and the roster alone changes nothing here. -/
theorem of_unfolds (h : Reporting since s) (hf : s.world.Filed batch) {aspects : List Aspect}
    (hu : s.world.Unfolds aspects t.world) (hc : t.tunnel.core = s.tunnel.core)
    (hr : .roster ∉ aspects) : Reporting since t :=
  h.congr (h.attributed.unfolds hu hr) (hu.length_relays_eq hr)
    (funext fun _ => hf.readings_of_prefix hu.handled_eq hu.letters_prefix _) hc

/-- A relay that is started while the link is on has not reported yet, or is the one that is held
already. -/
theorem startRelay (h : Reporting since s) (hf : s.world.Filed batch)
    (hon : s.tunnel.link.isOn = true) : Reporting since s.startRelay := by
  rcases s.startRelay_cases with ⟨_, _, _, ht, hu⟩ | ⟨_, ht, hu⟩ | ⟨signaling, hr, ht, hu⟩
  · exact h.of_unfolds hf hu (by rw [ht]; rfl) (by decide)
  · exact h.of_unfolds hf hu (by rw [ht]) (by decide)
  · have hn : s.startRelay.world.ledger.relays.length = s.world.ledger.relays.length + 1 := by
      rw [hu.length_relays_eq (by decide)]
      simp [Ledger.apply, Ledger.onRelay]
    have hheard : s.startRelay.world.heard s.world.ledger.relays.length = [] := by
      have hall := s.unfolds_startRelay
      rw [World.heard, hf.readings_of_prefix hall.handled_eq hall.letters_prefix]
      exact h.attributed.heard_eq_nil hf (Nat.le_refl _)
    refine ⟨?_, ?_, ?_, ?_, ?_⟩
    · rw [h.counted] at hu
      exact (h.attributed.createRelay.listen _).unfolds hu (by decide)
    · rw [ht, hn, h.counted]
    · rw [hn]
      exact Nat.le_succ_of_le h.since_le
    · intro relay hrelay
      rw [ht] at hrelay ⊢
      cases hrelay
      exact ⟨by rw [h.counted], h.since_le, hon⟩
    · intro settings phase hl
      rw [ht] at hl ⊢
      rw [h.phase settings phase hl, hr, Option.elim_some, hheard]
      rfl

/-- Turning on starts with a link that connects and with no relay. -/
theorem turnOn (h : Reporting since s) (hf : s.world.Filed batch) (hl : s.tunnel.link = .off) :
    Reporting since s.turnOn := by
  have hr := h.relay_of_off hl
  obtain ⟨t, ht, htunnel, hu⟩ := s.turnOn_eq_startRelay
  have hg : Reporting since t := by
    refine ⟨h.attributed.unfolds hu (by decide), ?_, ?_, ?_, ?_⟩
    · rw [htunnel, hu.length_relays_eq (by decide)]
      exact h.counted
    · rw [hu.length_relays_eq (by decide)]
      exact h.since_le
    · intro relay hrelay
      rw [htunnel] at hrelay
      rw [hr] at hrelay
      cases hrelay
    · intro settings phase hon
      rw [htunnel] at hon ⊢
      cases hon
      rw [hr]
      rfl
  rw [ht]
  exact hg.startRelay (hf.unfolds hu) (by rw [htunnel]; rfl)

/-- Turning off leaves no relay. -/
theorem turnOff (h : Reporting since s) (settings : EngineSettings) :
    Reporting since (s.turnOff settings) := by
  obtain ⟨signaling, ht⟩ := s.tunnel_turnOff settings
  have hu := s.unfolds_turnOff settings
  refine ⟨h.attributed.unfolds hu (by decide), ?_, ?_, ?_, ?_⟩
  · rw [ht, hu.length_relays_eq (by decide)]
    exact h.counted
  · rw [hu.length_relays_eq (by decide)]
    exact h.since_le
  · intro relay hrelay
    rw [ht] at hrelay
    cases hrelay
  · intro _ _ hon
    rw [ht] at hon
    cases hon

theorem enable (h : Reporting since s) (hf : s.world.Filed batch) (on : Bool) :
    Reporting since (s.enable on) := by
  rcases s.enable_cases on with ⟨_, hl, he⟩ | ⟨settings, phase, _, hl, he⟩ | ⟨_, he⟩
  · rw [he]
    exact h.turnOn hf hl
  · rw [he]
    exact h.turnOff settings
  · rw [he]
    exact h.note rfl

theorem operate (h : Reporting since s) (hf : s.world.Filed batch) {operation : Operation}
    (ho : operation ≠ .iterate) : Reporting since (s.operate operation) := by
  rcases s.operate_cases ho with ⟨on, he⟩ | he | ⟨hc, hu⟩
  · rw [he]
    exact h.enable hf on
  · rw [he]
    rcases s.reconnect_cases with ⟨ht, hu⟩ | ⟨hon, _, he⟩
    · exact h.of_unfolds hf hu (congrArg _ ht) (by decide)
    · rw [he]
      exact h.startRelay hf hon
  · exact h.of_unfolds hf hu hc (by decide)

/-- When the held relay has said something and the phase has followed, the phase is right. -/
theorem follow (h : Reporting since s) (hf : s.world.Filed (posted :: batch)) {relay : RelayId}
    {connected : Bool} (hr : s.tunnel.relay = some relay)
    (hsaid : s.world.saidBy relay posted = some connected)
    (hu : (s.world.note (.handling posted)).Unfolds [.settings, .routing, .passing] t.world)
    (ht : t.tunnel.relay = s.tunnel.relay ∧ t.tunnel.generation = s.tunnel.generation)
    {settings : EngineSettings}
    (hl : t.tunnel.link = .on settings (if connected then .ready else .disconnected)) :
    Reporting since t := by
  have ha : (s.world.note (.handling posted)).Attributed := h.attributed.congr rfl rfl
  have hn : t.world.ledger.relays.length = s.world.ledger.relays.length :=
    hu.length_relays_eq (by decide)
  have hheard : t.world.heard relay = connected :: s.world.heard relay := by
    rw [World.heard, hf.handle.readings_of_prefix hu.handled_eq hu.letters_prefix,
      World.readings_note_handling]
    exact congrArg (Option.toList · ++ _) hsaid
  refine ⟨ha.unfolds hu (by decide), ?_, ?_, ?_, ?_⟩
  · rw [ht.2, hn]
    exact h.counted
  · rw [hn]
    exact h.since_le
  · intro other ho
    rw [ht.1] at ho
    rw [ht.2, hl]
    exact ⟨(h.held other ho).1, (h.held other ho).2.1, rfl⟩
  · intro _ _ hon
    rw [hl] at hon
    rw [ht.1, hr, Option.elim_some, hheard]
    cases connected <;> cases hon <;> rfl

/-- Only what the held relay says is acted upon, and the phase follows it. -/
theorem onConnectivity (h : Reporting since s) (hf : s.world.Filed (posted :: batch))
    {connected : Bool} {generation : Nat}
    (hc : posted.event = .connectivity connected generation) :
    Reporting since ((s.note (.handling posted)).onConnectivity connected generation) := by
  have hsaid := h.attributed.saidBy_of_connectivity hf hc
  rcases (s.note (.handling posted)).onConnectivity_cases connected generation with
    ⟨hs, he⟩ | ⟨relay, hr, hg, hcases⟩
  · rw [he]
    refine (h.handling fun relay hr => ?_).note rfl
    rcases hs with hs | hs
    · rw [tunnel_note, hr] at hs
      cases hs
    · rw [hsaid, if_neg]
      exact fun hn => hs (hn.trans (h.held relay hr).1)
  · rw [tunnel_note] at hr hg
    have hs : s.world.saidBy relay posted = some connected := by
      rw [hsaid, if_pos (hg.trans (h.held relay hr).1.symm)]
    rcases hcases with ⟨hl, _⟩ | ⟨settings, phase, hl, ⟨rfl, rfl, he⟩ | ⟨⟨rfl, _⟩, he⟩ | ⟨rfl, he⟩⟩
    · have hn := h.relay_of_off hl
      rw [hr] at hn
      cases hn
    · rw [he]
      exact h.follow hf hr hs .refl ⟨rfl, rfl⟩ hl
    · rw [he]
      have hu := (s.note (.handling posted)).unfolds_goReady relay settings
      exact h.follow hf hr hs hu ⟨rfl, rfl⟩ rfl
    · rw [he]
      have ht := (s.note (.handling posted)).tunnel_goDisconnected settings
      have hu := (s.note (.handling posted)).unfolds_goDisconnected settings
      exact h.follow hf hr hs (hu.mono (by decide)) ⟨by rw [ht]; rfl, by rw [ht]; rfl⟩
        (by rw [ht]; rfl)

theorem abandon (h : Reporting since s) (hf : s.world.Filed batch) : Reporting since s.abandon :=
  h.of_unfolds hf s.unfolds_abandon s.core_abandon (by decide)

theorem onProbed (h : Reporting since s) (hf : s.world.Filed batch) (reachable : Bool)
    (run index : Nat) : Reporting since (s.onProbed reachable run index) := by
  have hall : (s.onProbed reachable run index).world.Filed batch ∧
      Reporting since (s.onProbed reachable run index) := by
    refine onProbed_induction (I := fun t => t.world.Filed batch ∧ Reporting since t)
      ?_ ?_ ?_ ?_ ⟨hf, h⟩ reachable
    · exact fun t notice hn ht => ⟨ht.1.note hn, ht.2.note hn⟩
    · exact fun t ht => ⟨ht.1.unfolds t.unfolds_abandon, ht.2.abandon ht.1⟩
    · exact fun t on ht => ⟨ht.1.unfolds (t.unfolds_enable on), ht.2.enable ht.1 on⟩
    · intro _
      have hu := s.unfolds_startProbe (index + 1)
      exact ⟨hf.unfolds hu, h.of_unfolds hf hu (s.core_startProbe _) (by decide)⟩
  exact hall.2

/-- Handling an event keeps the phase right. -/
theorem handle (h : Reporting since s) (hf : s.world.Filed (posted :: batch)) :
    Reporting since (s.handle posted) := by
  unfold Station.handle
  cases he : posted.event with
  | connectivity connected generation => exact h.onConnectivity hf he
  | probed reachable run index =>
    have hq := World.saidBy_of_probed hf he
    exact (h.handling fun relay _ => hq relay).onProbed hf.handle reachable run index

/-- Every step of a run in which nobody but relays says anything about relays keeps the phase
right. -/
theorem kept (since : Nat) :
    Kept (·.forgesReport = false) fun _ (s : Station σ) => Reporting since s where
  operate _ _ hf h _ ho := h.operate hf ho
  post batch s event hf h ok := by
    cases event with
    | connectivity connected generation => cases ok
    | probed reachable run index =>
      exact h.congr (h.attributed.post nofun) rfl (funext fun _ => hf.readings_post _ _ _) rfl
  report _ s report hf h := by
    have hl := (s.world.deliver_frame report).2.1
    have hr := hf.readings_of_prefix (α := Bool) (s.world.handled_deliver report)
      (s.world.letters_prefix_deliver report)
    have hn : (s.world.deliver report).ledger.relays.length = s.world.ledger.relays.length := by
      rw [hl]
    exact h.congr (h.attributed.deliver report) hn (funext fun _ => hr _) rfl
  stir _ _ _ h := h.congr (h.attributed.congr rfl rfl) rfl rfl rfl
  hook _ _ _ hf h hu := h.of_unfolds hf hu rfl (by decide)
  tick _ _ h := h.congr (h.attributed.congr rfl rfl) rfl rfl rfl
  handle _ _ _ hf h := h.handle hf

end Reporting

/-- A new tunnel holds no relay and has heard of none. -/
theorem reporting_fresh (tuning : Tuning) (scene : σ) [Surroundings σ] (found : EngineSettings) :
    Reporting 0 (fresh tuning scene found) where
  attributed := ⟨fun _ _ h => by simp [fresh, build, Ledger.listeners] at h, nofun⟩
  counted := rfl
  since_le := Nat.le_refl _
  held := nofun
  phase := nofun

/-- A tunnel that is ready holds a relay that was created since, and this relay said last that it
is connected. -/
theorem Reporting.of_isReady [Surroundings σ] (h : Reporting since s) (hs : s.isReady = true) :
    ∃ relay, since ≤ relay ∧ s.tunnel.relay = some relay ∧
      (s.world.heard relay).head? = some true := by
  unfold isReady at hs
  have hp := of_decide_eq_true (Bool.and_eq_true_iff.mp hs).1
  cases hl : s.tunnel.link with
  | off => rw [hl] at hp; cases hp
  | on settings phase =>
    rw [hl] at hp
    cases hp
    have hphase := h.phase _ _ hl
    cases hr : s.tunnel.relay with
    | none => rw [hr] at hphase; cases hphase
    | some relay =>
      refine ⟨relay, (h.held relay hr).2.1, rfl, ?_⟩
      rw [hr, Option.elim_some] at hphase
      cases hh : s.world.heard relay with
      | nil => rw [hh] at hphase; cases hphase
      | cons connected heard =>
        rw [hh] at hphase
        cases connected with
        | true => rfl
        | false => cases hphase

variable [Surroundings σ]

/-- What a relay says that is not held, or while the link is off, is noted as stale and nothing
else is done about it. -/
theorem Reporting.handle_of_stale (h : Reporting since s) (hf : s.world.Filed (posted :: batch))
    {relay : RelayId} {connected : Bool} (hs : s.world.saidBy relay posted = some connected)
    (hr : s.tunnel.relay ≠ some relay ∨ s.tunnel.link = .off) :
    s.handle posted = (s.note (.handling posted)).note (.staleRelay (relay + 1)) := by
  have hne : s.tunnel.relay ≠ some relay := by
    rcases hr with hr | hl
    · exact hr
    · rw [h.relay_of_off hl]
      exact nofun
  unfold Station.handle
  cases he : posted.event with
  | probed reachable run index => rw [World.saidBy_of_probed hf he] at hs; cases hs
  | connectivity said generation =>
    rw [h.attributed.saidBy_of_connectivity hf he] at hs
    have hg : generation = relay + 1 := by
      by_contra hn
      rw [if_neg hn] at hs
      cases hs
    subst hg
    rcases (s.note (.handling posted)).onConnectivity_cases said (relay + 1) with
      ⟨_, hc⟩ | ⟨other, ho, hg, _⟩
    · exact hc
    · rw [tunnel_note] at ho hg
      have hsame := (h.held other ho).1.trans hg.symm
      rw [Nat.succ.inj hsame] at ho
      exact absurd ho hne

/-- As long as nobody but relays says anything about relays, at every moment of every run the phase
of a link that is on is what the held relay itself said last, and connecting if it has said nothing
or none is held; what any relay says that is not held, or while the link is off, is noted as stale
and changes nothing else; and once the tunnel has been turned off it is not ready before a relay
created since is held and has said last that it is connected. -/
theorem phase_follows_held_relay (tuning : Tuning) (scene : σ) (found : EngineSettings)
    (run : (fresh tuning scene found).Reaches (·.forgesReport = false) batch s) :
    (∀ settings phase, s.tunnel.link = .on settings phase →
      phase = Phase.after (s.tunnel.relay.elim [] s.world.heard)) ∧
    (∀ posted rest relay connected, batch = posted :: rest →
      s.world.saidBy relay posted = some connected →
      s.tunnel.relay ≠ some relay ∨ s.tunnel.link = .off →
      s.handle posted = (s.note (.handling posted)).note (.staleRelay (relay + 1))) ∧
    (batch = [] → (s.enable false).isReady = false ∧
      ∀ later t, (s.enable false).Reaches (·.forgesReport = false) later t → t.isReady = true →
        ∃ relay, (s.enable false).world.ledger.relays.length ≤ relay ∧
          t.tunnel.relay = some relay ∧ (t.world.heard relay).head? = some true) := by
  have hfresh := filed_fresh tuning scene found
  have hf := run.filed hfresh
  have h := run.of_kept (Reporting.kept 0) hfresh (reporting_fresh tuning scene found)
  refine ⟨h.phase, ?_, ?_⟩
  · rintro posted rest relay connected rfl hs hr
    exact h.handle_of_stale hf hs hr
  · rintro rfl
    have hoff : (s.enable false).tunnel.link = .off := by
      have hon := s.isOn_enable false
      cases hl : (s.enable false).tunnel.link with
      | off => rfl
      | on settings phase => rw [hl] at hon; cases hon
    have ht := h.enable hf false
    have hnone := ht.relay_of_off hoff
    constructor
    · rw [isReady, hoff]
      rfl
    · intro later t k
      -- From here on only the relays created since count, and none is held yet.
      have hsince : Reporting (s.enable false).world.ledger.relays.length (s.enable false) := by
        refine ⟨ht.attributed, ht.counted, Nat.le_refl _, ?_, ht.phase⟩
        intro relay hr
        rw [hnone] at hr
        cases hr
      exact (k.of_kept (Reporting.kept _) (hf.unfolds (s.unfolds_enable false)) hsince).of_isReady

/-- The tunnel is turned on, off and on again; then the second relay connects, and after that the
first one loses its connection. -/
def overtaken : Station Rehearsal.Stage :=
  (fresh {} {} ⟨⟨5060, 5060, 5061, 0⟩, .stun⟩).after
    [.operate (.enable true), .operate (.enable false), .operate (.enable true),
      .report (.relay 1 true), .report (.relay 0 false)]

/-- When the next tick has handled what the second relay said, the tunnel is ready, and what the
first relay said about itself is stale; turned off instead, the tunnel is not ready. -/
theorem overtaken_relay_is_stale :
    ∃ s : Station Rehearsal.Stage, s = overtaken.emptied.handle ⟨0, .connectivity true 2⟩ ∧
      s.world.saidBy 0 ⟨1, .connectivity false 1⟩ = some false ∧ s.tunnel.relay = some 1 ∧
      s.tunnel.link.phase? = some (Phase.after (s.world.heard 1)) ∧ s.world.heard 1 = [true] ∧
      s.handle ⟨1, .connectivity false 1⟩ =
        (s.note (.handling ⟨1, .connectivity false 1⟩)).note (.staleRelay 1) ∧
      (overtaken.enable false).isReady = false := by
  have ha : (fresh {} {} ⟨⟨5060, 5060, 5061, 0⟩, .stun⟩).Reaches (·.forgesReport = false) []
      overtaken := Reaches.start.after (by decide)
  have hm : (fresh {} {} ⟨⟨5060, 5060, 5061, 0⟩, .stun⟩).Reaches (·.forgesReport = false)
      [⟨1, .connectivity false 1⟩] (overtaken.emptied.handle ⟨0, .connectivity true 2⟩) :=
    (ha.tick rfl).handle
  obtain ⟨hphase, hstale, _⟩ := phase_follows_held_relay _ _ _ hm
  obtain ⟨_, _, hoff⟩ := phase_follows_held_relay _ _ _ ha
  have hl : (overtaken.emptied.handle ⟨0, .connectivity true 2⟩).tunnel.link =
      .on ⟨⟨5060, 5060, 5061, 0⟩, .stun⟩ .ready := by decide
  have hr : (overtaken.emptied.handle ⟨0, .connectivity true 2⟩).tunnel.relay = some 1 := by decide
  refine ⟨_, rfl, by decide, hr, ?_, by decide, ?_, (hoff rfl).1⟩
  · have hp := hphase _ _ hl
    rw [hr] at hp
    rw [hl]
    exact congrArg some hp
  · exact hstale _ _ 0 false rfl (by decide) (.inl (by rw [hr]; decide))

end Station

end SipOverRelay
