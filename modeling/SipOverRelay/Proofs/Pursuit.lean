import SipOverRelay.Proofs.Verdicts
import SipOverRelay.Rehearsal.Stage

/-!
# A run that is left to itself

When nobody interferes with a detection run and nobody forges results, every verdict of the run that
is handled is the one on the current candidate. So the run goes through the candidates until one was
reached or none is left.
-/

namespace SipOverRelay

/-- Requests that neither begin nor end a detection run, take no candidate away, and do not turn the
tunnel on or off. -/
def Operation.leavesRun : Operation → Bool
  | .addServer _ | .addServerWithReflector _ _ | .setProxy _ | .setProxyAuth _ _ | .reconnect
  | .iterate => true
  | .clearServers | .enable _ | .autoDetect | .stopAutoDetect => false

/-- Whatever else may happen leaves a run to itself, unless somebody forges a result. -/
def Happening.leavesRun {σ : Type} : Happening σ → Bool
  | .operate operation => operation.leavesRun
  | happening => !happening.forgesResult

namespace Station

variable {σ : Type} [Surroundings σ] {base s t : Station σ} {run since : Nat} {posted : Posted}
  {batch : List Posted}

/-- A request that leaves the run alone adds a server at most. -/
theorem keeps_operate (hf : s.world.Filed batch) {operation : Operation}
    (ho : operation.leavesRun = true) (hi : operation ≠ .iterate) :
    Keeps run s (s.operate operation) ∧
      (s.operate operation).tunnel.link.isOn = s.tunnel.link.isOn := by
  have hadd (server : Server) : Keeps run s (s.addServer server) ∧
      (s.addServer server).tunnel.link.isOn = s.tunnel.link.isOn := by
    refine ⟨.of_spares hf (s.spares_addServer server) ?_, ?_⟩
    · rw [tunnel_addServer, Server.reflecting, Server.reflecting, List.filter_append]
      exact List.prefix_append _ _
    · rw [tunnel_addServer]
  cases operation with
  | addServer server => exact hadd server
  | addServerWithReflector server reflector => exact hadd _
  | setProxy proxy =>
    have ht := s.tunnel_setProxy proxy
    have hs : s.Spares (s.setProxy proxy) :=
      .of_unfolds (s.unfolds_setProxy proxy) (by rw [ht]) (by decide)
    exact ⟨.of_servers hf hs (by rw [operate, ht]), by rw [operate, ht]⟩
  | setProxyAuth username password =>
    have ht := s.tunnel_setProxyAuth username password
    have hs : s.Spares (s.setProxyAuth username password) :=
      .of_unfolds (s.unfolds_setProxyAuth username password) (by rw [ht]) (by decide)
    exact ⟨.of_servers hf hs (by rw [operate, ht]), by rw [operate, ht]⟩
  | reconnect =>
    obtain ⟨hl, hs, _⟩ := s.rest_reconnect
    exact ⟨.of_servers hf s.spares_reconnect hs, by rw [operate, hl]⟩
  | iterate => exact absurd rfl hi
  | clearServers => cases ho
  | enable on => cases ho
  | autoDetect => cases ho
  | stopAutoDetect => cases ho

/-- What every happening keeps that leaves the run begun at `base` alone, if no result is forged
from the letter with number `since` on. -/
structure Pursues (since : Nat) (s base : Station σ) : Prop where
  /-- Candidates come one after the other. -/
  detecting : s.Detecting
  /-- No result is forged that is still to be handled. -/
  honest : s.world.Honest since
  /-- The letters before have been handled. -/
  since_le : since ≤ s.world.handled.length
  /-- When the run is over there is a verdict on every candidate that was tried. -/
  settled : s.tunnel.detection.current = none → ∀ index,
    (base.nextRun, index) ∈ s.world.started → index < (s.world.verdicts base.nextRun).length
  /-- How far the run has come. -/
  standing : ∃ count, s.Searching base count ∨ s.Exhausted base count ∨ s.Succeeded base count

namespace Pursues

omit [Surroundings σ] in
/-- Where nothing changes that a run goes by, the run has come as far as before. -/
theorem keeps (h : Pursues since s base) (k : Keeps base.nextRun s t)
    (hl : t.tunnel.link.isOn = s.tunnel.link.isOn) (hd : t.Detecting) (hh : t.world.Honest since)
    (hn : since ≤ t.world.handled.length) : Pursues since t base := by
  refine ⟨hd, hh, hn, ?_, ?_⟩
  · rw [k.detection, k.started, k.verdicts]
    exact h.settled
  · obtain ⟨count, hs | ⟨hpos, hs⟩ | hs⟩ := h.standing
    · have ht := hs.keeps k
      rw [hl, hs.link] at ht
      exact ⟨count, .inl ht⟩
    · have ht := hs.keeps k
      rw [hl, hs.link] at ht
      exact ⟨count, .inr (.inl ⟨hpos, ht⟩)⟩
    · have ht := hs.keeps k
      rw [hl, hs.link] at ht
      exact ⟨count, .inr (.inr ht)⟩

omit [Surroundings σ] in
/-- The run has the number that was next when it was begun. -/
theorem run_eq (h : Pursues since s base) : s.tunnel.detection.run = base.nextRun := by
  obtain ⟨_, hs | ⟨_, hs⟩ | hs⟩ := h.standing
  · exact hs.run
  · exact hs.run
  · exact hs.run

omit [Surroundings σ] in
/-- A verdict that is to be handled next is the current candidate's: those of earlier candidates
have been handled, and later ones have not been tried. -/
theorem searching_of_verdict (h : Pursues since s base) (hf : s.world.Filed (posted :: batch))
    {index : Nat} {reachable : Bool}
    (hv : s.world.reading (Letter.verdict? base.nextRun) posted = some (index, reachable)) :
    s.Searching base index := by
  obtain ⟨letter, hl, hverdict⟩ := Option.bind_eq_some_iff.mp hv
  obtain ⟨htag, _⟩ := Letter.verdict?_eq_some.mp hverdict
  have hstarted := h.detecting.tagged.mem_started
    (List.mem_filterMap.mpr ⟨letter, List.mem_of_getElem? hl, htag⟩)
  have hnew (said : Bool) : (index, said) ∉ s.world.verdicts base.nextRun := fun hm => by
    have hr : s.world.reading Letter.tag? posted = some (base.nextRun, index) := by
      rw [World.reading, hl, Option.bind_some, htag]
    exact h.detecting.tagged.not_mem_readings hf hr (World.mem_readings_of_verdict hm)
  obtain ⟨count, hs | ⟨_, hs⟩ | hs⟩ := h.standing
  · have hge : count ≤ index := Nat.not_lt.mp fun hlt =>
      hnew false (hs.verdicts ▸ mem_unreached hlt)
    obtain ⟨c, hc, hci⟩ := Option.map_eq_some_iff.mp hs.current
    have hle : index ≤ count := by
      rcases h.detecting.recent _ hstarted with hlt | ⟨_, hle⟩
      · rw [hs.run] at hlt
        exact absurd hlt (Nat.lt_irrefl _)
      · exact hci ▸ hle c hc
    rwa [Nat.le_antisymm hle hge]
  · have hlt := h.settled (Option.map_eq_none_iff.mp hs.current) index hstarted
    rw [hs.verdicts, length_unreached] at hlt
    exact absurd (hs.verdicts ▸ mem_unreached hlt) (hnew false)
  · have hlt := h.settled (Option.map_eq_none_iff.mp hs.current) index hstarted
    rw [hs.verdicts, List.length_append, length_unreached] at hlt
    rcases Nat.lt_or_eq_of_le (Nat.le_of_lt_succ hlt) with hlt | rfl
    · exact absurd (hs.verdicts ▸ List.mem_append_left _ (mem_unreached hlt)) (hnew false)
    · exact absurd (hs.verdicts ▸ List.mem_append_right _ (List.mem_singleton_self _)) (hnew true)

/-- After a verdict on the candidate at a place there are verdicts on all candidates up to it. -/
theorem of_handle (h : Pursues since s base) {index : Nat} (hs : s.Searching base index)
    (hone : (s.handle posted).world.started = s.world.started ∨
      (s.handle posted).tunnel.detection.current ≠ none) {verdicts : List (Nat × Bool)}
    (hverdicts : (s.handle posted).world.verdicts base.nextRun = verdicts)
    (hlength : verdicts.length = index + 1)
    (hstanding : ∃ count, (s.handle posted).Searching base count ∨
      (s.handle posted).Exhausted base count ∨ (s.handle posted).Succeeded base count) :
    Pursues since (s.handle posted) base := by
  have hu := s.unfolds_handle posted
  have hhonest : (s.world.note (.handling posted)).Honest since := h.honest
  have hcount : (s.handle posted).world.handled.length = s.world.handled.length + 1 := by
    rw [hu.handled_eq, World.handled_note_handling, List.length_cons]
  refine ⟨h.detecting.handle posted, hhonest.unfolds hu, ?_, ?_, hstanding⟩
  · have hle := h.since_le
    omega
  · intro hnone other hm
    rw [hverdicts, hlength]
    rw [hone.resolve_right fun hsome => hsome hnone] at hm
    obtain ⟨c, hc, hci⟩ := Option.map_eq_some_iff.mp hs.current
    rcases h.detecting.recent _ hm with hlt | ⟨_, hle⟩
    · rw [hs.run] at hlt
      exact absurd hlt (Nat.lt_irrefl _)
    · have hle' := hle c hc
      rw [hci] at hle'
      exact Nat.lt_succ_of_le hle'

omit [Surroundings σ] in
/-- A verdict that is being handled is the one after those that were handled. -/
theorem note_of_verdict {index : Nat} {reachable : Bool} (hs : s.Searching base index)
    (hv : s.world.reading (Letter.verdict? base.nextRun) posted = some (index, reachable)) :
    (s.note (.handling posted)).Standing base (unreached index ++ [(index, reachable)])
      (index + 1) (some index) (if index = 0 then base.tunnel.link.isOn else true) := by
  have hn := hs.note_handling posted
  rwa [hv] at hn

/-- A verdict is handled as the result that it is. -/
theorem handle_of_verdict (hf : s.world.Filed (posted :: batch)) {index : Nat} {reachable : Bool}
    (hv : s.world.reading (Letter.verdict? base.nextRun) posted = some (index, reachable)) :
    s.handle posted = (s.note (.handling posted)).onProbed reachable base.nextRun index := by
  obtain ⟨letter, hl, hle⟩ := hf.letter_of_head
  rw [World.reading, hl, Option.bind_some] at hv
  have hevent : posted.event = .probed reachable base.nextRun index :=
    hle.symm.trans (Letter.verdict?_eq_some.mp hv).2
  rw [Station.handle, hevent]

/-- A verdict is consumed: if the candidate was reached the run has succeeded; else the next
candidate is tried, and if there is none the run is exhausted. -/
theorem handle_verdict (h : Pursues since s base) (hf : s.world.Filed (posted :: batch))
    {index : Nat} {reachable : Bool}
    (hv : s.world.reading (Letter.verdict? base.nextRun) posted = some (index, reachable)) :
    Pursues since (s.handle posted) base ∧ s.Searching base index ∧
      (reachable = true → (s.handle posted).Succeeded base index) ∧
      (reachable = false → (Server.candidate? s.tunnel.servers (index + 1)).isSome →
        (s.handle posted).Searching base (index + 1)) ∧
      (reachable = false → Server.candidate? s.tunnel.servers (index + 1) = none →
        (s.handle posted).Exhausted base (index + 1) ∧
          (s.handle posted).world.asked =
            base.world.asked ++ Server.reflecting s.tunnel.servers) := by
  have hs := h.searching_of_verdict hf hv
  have hn := note_of_verdict hs hv
  have hfn : (s.note (.handling posted)).world.Filed batch := hf.handle
  have hhandle := handle_of_verdict hf hv
  rcases (s.note (.handling posted)).onProbed_cases reachable base.nextRun index with
    ⟨hstale, _⟩ | ⟨_, ⟨rfl, he⟩ | ⟨rfl, hnone, he⟩ | ⟨rfl, hsome, he⟩⟩
  · obtain ⟨c, hc, hci⟩ := Option.map_eq_some_iff.mp hn.current
    rw [Detection.isCurrent_iff.mpr ⟨hn.run.symm, c, hc, hci⟩] at hstale
    cases hstale
  · obtain ⟨ht, hstarted⟩ := hn.giveUp hfn false .tunnelNotRequired rfl
    rw [← he, ← hhandle] at ht hstarted
    have hlength : (unreached index ++ [(index, true)]).length = index + 1 := by
      rw [List.length_append, length_unreached]
      rfl
    have hk := h.of_handle hs (.inl hstarted) ht.verdicts hlength ⟨index, .inr (.inr ht)⟩
    exact ⟨hk, hs, fun _ => ht, by simp, by simp⟩
  · obtain ⟨ht, hstarted⟩ := hn.giveUp hfn true (.tunnelRequired false) rfl
    rw [← he, ← hhandle, ← unreached_succ] at ht
    rw [← he, ← hhandle] at hstarted
    have hx : (s.handle posted).Exhausted base (index + 1) := ⟨Nat.succ_pos _, ht⟩
    have hk := h.of_handle hs (.inl hstarted) ht.verdicts (length_unreached _)
      ⟨index + 1, .inr (.inl hx)⟩
    have hservers : (s.handle posted).tunnel.servers = s.tunnel.servers := by
      rw [hhandle, he, (rest_enable _ true).1, tunnel_abandon]
      rfl
    have hasked := ht.asked_all (by rw [hservers]; exact hnone)
    rw [hservers] at hasked
    refine ⟨hk, hs, by simp, ?_, fun _ _ => ⟨hx, hasked⟩⟩
    intro _ hsome
    rw [show Server.candidate? s.tunnel.servers (index + 1) = none from hnone] at hsome
    cases hsome
  · obtain ⟨server, hserver⟩ := Option.isSome_iff_exists.mp hsome
    have ht := hn.goOn hfn hserver (.tunnelRequired true) rfl
    rw [← he, ← hhandle, ← unreached_succ] at ht
    have hx : (s.handle posted).Searching base (index + 1) := ht
    have hcurrent : (s.handle posted).tunnel.detection.current ≠ none := fun hnone => by
      have hc := ht.current
      rw [hnone] at hc
      cases hc
    have hk := h.of_handle hs (.inr hcurrent) ht.verdicts (length_unreached _)
      ⟨index + 1, .inl hx⟩
    refine ⟨hk, hs, by simp, fun _ _ => hx, ?_⟩
    intro _ hnone
    rw [show Server.candidate? s.tunnel.servers (index + 1) = some server from hserver] at hnone
    cases hnone

/-- An event that is no verdict on a candidate of the run changes nothing that the run goes by. -/
theorem keeps_handle (h : Pursues since s base) (hf : s.world.Filed (posted :: batch))
    (hv : s.world.reading (Letter.verdict? base.nextRun) posted = none) :
    Keeps base.nextRun s (s.handle posted) ∧
      (s.handle posted).tunnel.link.isOn = s.tunnel.link.isOn := by
  let n := s.note (.handling posted)
  have hn : Keeps base.nextRun s n := by
    refine ⟨rfl, rfl, rfl, ?_, rfl, List.prefix_rfl⟩
    rw [world_note, World.verdicts_note_handling, hv]
    exact List.append_nil _
  have hfn : n.world.Filed batch := hf.handle
  obtain ⟨letter, hl, hle⟩ := hf.letter_of_head
  rw [World.reading, hl, Option.bind_some] at hv
  cases he : posted.event with
  | connectivity connected generation =>
    have hhandle : s.handle posted = n.onConnectivity connected generation := by
      rw [Station.handle, he]
    obtain ⟨hon, hservers, _⟩ := n.rest_onConnectivity connected generation
    rw [hhandle]
    exact ⟨hn.trans (.of_servers hfn (n.spares_onConnectivity _ _) hservers), hon⟩
  | probed reachable run index =>
    have hseq : since ≤ posted.seq := hf.seq_of_head ▸ h.since_le
    have htag := h.detecting.tagged.tag?_of_not_forged (List.mem_of_getElem? hl)
      (h.honest _ _ hseq hl) (hle.trans he)
    have hhandle : s.handle posted = n.onProbed reachable run index := by rw [Station.handle, he]
    rw [hhandle]
    rcases n.onProbed_cases reachable run index with ⟨_, hstale⟩ | ⟨hc, _⟩
    · rw [hstale]
      exact ⟨hn.trans (.of_servers hfn (n.spares_note (.staleProbe run index) rfl) rfl), rfl⟩
    · -- Otherwise the event would be a verdict.
      obtain ⟨rfl, _⟩ := Detection.isCurrent_iff.mp hc
      rw [tunnel_note, h.run_eq] at htag he
      rw [Letter.verdict?_eq_some.mpr ⟨htag, hle.trans he⟩] at hv
      cases hv

end Pursues

/-- The run is pursued, and if it was over at `anchor` nothing has changed since that it went by. -/
structure Anchored (since : Nat) (base anchor s : Station σ) : Prop where
  /-- The run is pursued. -/
  pursues : Pursues since s base
  /-- A run that is over gets no further. -/
  rests : anchor.tunnel.detection.current = none →
    Keeps base.nextRun anchor s ∧ s.tunnel.link.isOn = anchor.tunnel.link.isOn

namespace Anchored

variable {anchor : Station σ}

omit [Surroundings σ] in
/-- A step that changes nothing that the run goes by. -/
theorem keeps (h : Anchored since base anchor s) (k : Keeps base.nextRun s t)
    (hl : t.tunnel.link.isOn = s.tunnel.link.isOn) (hd : t.Detecting) (hh : t.world.Honest since)
    (hn : s.world.handled.length ≤ t.world.handled.length) : Anchored since base anchor t where
  pursues := h.pursues.keeps k hl hd hh (Nat.le_trans h.pursues.since_le hn)
  rests hnone := ⟨(h.rests hnone).1.trans k, hl.trans (h.rests hnone).2⟩

theorem handle (h : Anchored since base anchor s) (hf : s.world.Filed (posted :: batch)) :
    Anchored since base anchor (s.handle posted) := by
  cases hv : s.world.reading (Letter.verdict? base.nextRun) posted with
  | none =>
    have hu := s.unfolds_handle posted
    have hhonest : (s.world.note (.handling posted)).Honest since := h.pursues.honest
    obtain ⟨hk, hl⟩ := h.pursues.keeps_handle hf hv
    refine h.keeps hk hl (h.pursues.detecting.handle posted) (hhonest.unfolds hu) ?_
    rw [hu.handled_eq, World.handled_note_handling]
    exact Nat.le_succ _
  | some verdict =>
    obtain ⟨hp, hs, _⟩ := h.pursues.handle_verdict hf hv
    refine ⟨hp, fun hnone => ?_⟩
    have hcurrent := hs.current
    rw [(h.rests hnone).1.detection, hnone] at hcurrent
    cases hcurrent

/-- Every step keeps this that leaves the run alone. -/
theorem kept (since : Nat) (base anchor : Station σ) :
    Kept (·.leavesRun = true) fun _ s => Anchored since base anchor s where
  operate s operation hf h ok ho := by
    have hu := s.unfolds_operate ho
    have hd := h.pursues.detecting.operate ho
    obtain ⟨hk, hl⟩ := keeps_operate hf ok ho
    exact h.keeps hk hl hd (h.pursues.honest.unfolds hu)
      (Nat.le_of_eq (congrArg _ hu.handled_eq.symm))
  post batch s event hf h ok := by
    have hforged : Letter.isForged ⟨.stranger, event⟩ = false := by
      cases event with
      | connectivity connected generation => rfl
      | probed reachable run index => cases ok
    have hd := (Detecting.kept (·.leavesRun = true)).post batch s event hf h.pursues.detecting ok
    have hk : Keeps base.nextRun s (s.post .stranger event) :=
      ⟨rfl, s.world.started_post rfl, rfl, congrArg List.reverse (hf.readings_post _ _ _), rfl,
        List.prefix_rfl⟩
    exact h.keeps hk rfl hd (h.pursues.honest.post hforged) (Nat.le_refl _)
  report batch s report hf h := by
    have hd := (Detecting.kept (·.leavesRun = true)).report batch s report hf h.pursues.detecting
    have hh := s.world.handled_deliver report
    have hr := hf.readings_of_prefix (f := Letter.verdict? base.nextRun) hh
      (s.world.letters_prefix_deliver report)
    have hl := (s.world.deliver_frame report).2.1
    have hk : Keeps base.nextRun s (s.within (s.world.deliver report)) :=
      ⟨rfl, s.world.started_deliver report, s.world.asked_deliver report,
        congrArg List.reverse hr, congrArg Ledger.probes hl, List.prefix_rfl⟩
    exact h.keeps hk rfl hd (h.pursues.honest.deliver report) (Nat.le_of_eq (congrArg _ hh.symm))
  stir batch s scene h := by
    have hd := (Detecting.kept (·.leavesRun = true)).stir batch s scene h.pursues.detecting
    have hk : Keeps base.nextRun s (s.within { s.world with scene }) :=
      ⟨rfl, rfl, rfl, rfl, rfl, List.prefix_rfl⟩
    exact h.keeps hk rfl hd h.pursues.honest (Nat.le_refl _)
  hook batch s w hf h hu := by
    have hs : s.Spares (s.within w) := .of_unfolds hu rfl (by decide)
    exact h.keeps (.of_servers hf hs rfl) rfl (h.pursues.detecting.spares hs)
      (h.pursues.honest.unfolds hu) (Nat.le_of_eq (congrArg _ hu.handled_eq.symm))
  tick s hf h := by
    have hd := (Detecting.kept (·.leavesRun = true)).tick s hf h.pursues.detecting
    have hk : Keeps base.nextRun s s.emptied := ⟨rfl, rfl, rfl, rfl, rfl, List.prefix_rfl⟩
    exact h.keeps hk rfl hd h.pursues.honest (Nat.le_refl _)
  handle _ _ _ hf h := h.handle hf

end Anchored

omit [Surroundings σ] in
/-- Nothing has been heard of a run that has not begun. -/
theorem Detecting.verdicts_nextRun (h : base.Detecting) (hf : base.world.Filed batch) :
    base.world.verdicts base.nextRun = [] := by
  rw [List.eq_nil_iff_forall_not_mem]
  rintro ⟨index, reachable⟩ hm
  have hr := World.mem_readings_of_verdict hm
  have hl : (base.nextRun, index) ∈ base.world.letters.filterMap Letter.tag? := by
    rw [← hf.readings_append Letter.tag?]
    exact List.mem_append_left _ (List.mem_reverse.mpr hr)
  have hrecent := h.recent _ (h.tagged.mem_started hl)
  rw [nextRun] at hrecent
  omega

/-- A new run has no candidate yet, and no verdict. -/
theorem standing_renumbered (hf : s.world.Filed batch) (ht : s.tunnel = base.tunnel)
    (hv : s.world.verdicts base.nextRun = []) (ha : s.world.asked = base.world.asked) :
    s.renumbered.Standing base [] 0 none base.tunnel.link.isOn := by
  have hu := s.unfolds_renumbered
  refine ⟨?_, ?_, ?_, ?_, Nat.zero_le _, ?_, ?_⟩
  · rw [tunnel_renumbered, ht]
    rfl
  · rw [tunnel_renumbered]
    rfl
  · rw [World.verdicts, hf.readings_of_prefix hu.handled_eq hu.letters_prefix]
    exact hv
  · rw [world_renumbered, asked_abandon, ha]
    exact (List.append_nil _).symm
  · rw [tunnel_renumbered, ht]
  · intro c probe hc
    rw [tunnel_renumbered] at hc
    cases hc

/-- Detection begins with the first candidate, whether another run was given up for it or not. -/
theorem searching_autoDetect (h : base.Detecting) (hf : base.world.Filed batch)
    (hc : (Server.candidate? base.tunnel.servers 0).isSome) : base.autoDetect.Searching base 0 := by
  have hnothing := h.verdicts_nextRun hf
  rcases base.autoDetect_cases with ⟨hn, _⟩ | ⟨_, t, ht, he⟩
  · rw [hn] at hc
    cases hc
  · obtain ⟨htunnel, hft, hvt, hat⟩ : t.tunnel = base.tunnel ∧ t.world.Filed batch ∧
        t.world.verdicts base.nextRun = [] ∧ t.world.asked = base.world.asked := by
      rcases ht with rfl | rfl
      · exact ⟨rfl, hf, hnothing, rfl⟩
      · refine ⟨rfl, hf.note rfl, ?_, rfl⟩
        rw [World.verdicts, world_note, World.readings_note _ rfl]
        exact hnothing
    obtain ⟨server, hserver⟩ := Option.isSome_iff_exists.mp hc
    have hs : Server.candidate? t.renumbered.tunnel.servers 0 = some server := by
      rw [tunnel_renumbered, htunnel]
      exact hserver
    have hb := standing_renumbered hft htunnel hvt hat
    rw [he]
    exact hb.startProbe (hft.unfolds t.unfolds_renumbered) hs

/-- Nothing of a new run has been heard of yet, so what holds along it holds at its beginning. -/
theorem pursues_autoDetect (h : base.Detecting) (hf : base.world.Filed batch)
    (hc : (Server.candidate? base.tunnel.servers 0).isSome)
    (hw : base.world.Honest base.world.handled.length) :
    Pursues base.world.handled.length base.autoDetect base := by
  have hu := base.unfolds_autoDetect
  have hs := searching_autoDetect h hf hc
  refine ⟨h.autoDetect, hw.unfolds hu, ?_, ?_, 0, .inl hs⟩
  · exact Nat.le_of_eq (congrArg _ hu.handled_eq.symm)
  · intro hnone
    have hcurrent := hs.current
    rw [hnone] at hcurrent
    cases hcurrent

omit [Surroundings σ] in
/-- What waits and is not forged makes all letters honest from the first one on that waits. -/
theorem honest_of_waiting (hf : s.world.Filed [])
    (hw : ∀ posted ∈ s.world.mailbox.waiting, s.world.isForged posted = false) :
    s.world.Honest s.world.handled.length := by
  intro seq letter hseq hl
  have hforged : Posted.mk seq letter.event ∈ s.world.mailbox.waiting →
      letter.isForged = false := fun hm => by
    have hn := hw _ hm
    rwa [World.isForged, hl] at hn
  refine hforged ?_
  have ho := congrArg (·[seq]?) hf.order
  have hlen : s.world.handled.reverse.length ≤ seq := by rwa [List.length_reverse]
  simp only [List.append_nil, List.getElem?_append_right hlen, List.getElem?_mapIdx, hl,
    Option.map_some] at ho
  exact List.mem_of_getElem? ho

omit [Surroundings σ] in
/-- When the current candidate's probe has reported, there is a letter with a verdict on it; and
there is one, that it was not reachable, when it has no probe. -/
theorem Detecting.verdict_posted (h : s.Detecting) {c : Candidate}
    (hc : s.tunnel.detection.current = some c)
    (hr : ∀ probe, c.probe = some probe → probe ∈ s.world.reported) :
    ∃ reachable, (c.probe = none → reachable = false) ∧ (c.index, reachable) ∈
      s.world.letters.filterMap (Letter.verdict? s.tunnel.detection.run) := by
  cases hp : c.probe with
  | none =>
    obtain ⟨letter, hl, ht⟩ := List.mem_filterMap.mp (h.unprobed c hc hp)
    obtain ⟨reachable, rfl⟩ := Letter.ownTag?_eq_some.mp ht
    obtain ⟨_, _, he⟩ := h.tagged.own _ hl
    cases he
    have hv : Letter.verdict? s.tunnel.detection.run
        ⟨.tunnel, .probed false s.tunnel.detection.run c.index⟩ = some (c.index, false) :=
      Letter.verdict?_eq_some.mpr ⟨rfl, rfl⟩
    exact ⟨false, fun _ => rfl, List.mem_filterMap.mpr ⟨_, hl, hv⟩⟩
  | some probe =>
    obtain ⟨event, hl⟩ := h.tagged.answered probe (hr probe hp)
    obtain ⟨_, reachable, run, index, rfl, ht⟩ := h.tagged.genuine probe event hl
    rw [h.probed c probe hc hp] at ht
    cases ht
    have hv : Letter.verdict? s.tunnel.detection.run
        ⟨.probe probe, .probed reachable s.tunnel.detection.run c.index⟩ =
          some (c.index, reachable) :=
      Letter.verdict?_eq_some.mpr ⟨rfl, rfl⟩
    exact ⟨reachable, nofun, List.mem_filterMap.mpr ⟨_, hl, hv⟩⟩

/-- A detection run that is begun where no forged result waits, and that is left to itself from then
on. It begins with the first candidate. At every moment probes were asked for of the first
candidates in the list, in order and each once; there is a verdict on each of them but the current
one; all verdicts but the last are that the candidate was not reachable, and the run is over after
the first one that it was. A verdict turns the tunnel on and brings the next candidate, if there is
one, or turns it off and ends the run, and nothing else gets the run further. When the run is over
nothing changes that it went by. And once the current candidate's probe has reported, or if it has
none, the next tick comes to the verdict on it. -/
theorem run_follows_verdicts (tuning : Tuning) (scene : σ) (found : EngineSettings)
    (before : (fresh tuning scene found).Reaches (fun _ => True) [] base)
    (hc : (Server.candidate? base.tunnel.servers 0).isSome)
    (hw : ∀ posted ∈ base.world.mailbox.waiting, base.world.isForged posted = false)
    (course : base.autoDetect.Reaches (·.leavesRun = true) batch s) :
    base.autoDetect.Searching base 0 ∧
    (∃ count, s.Searching base count ∨ s.Exhausted base count ∨ s.Succeeded base count) ∧
    (∀ posted rest, batch = posted :: rest →
      s.world.reading (Letter.verdict? base.nextRun) posted = none →
        Keeps base.nextRun s (s.handle posted) ∧
          (s.handle posted).tunnel.link.isOn = s.tunnel.link.isOn) ∧
    (∀ posted rest index reachable, batch = posted :: rest →
      s.world.reading (Letter.verdict? base.nextRun) posted =
        some (index, reachable) →
        s.Searching base index ∧
        (reachable = true → (s.handle posted).Succeeded base index) ∧
        (reachable = false → (Server.candidate? s.tunnel.servers (index + 1)).isSome →
          (s.handle posted).Searching base (index + 1)) ∧
        (reachable = false → Server.candidate? s.tunnel.servers (index + 1) = none →
          (s.handle posted).Exhausted base (index + 1) ∧
            (s.handle posted).world.asked =
              base.world.asked ++ Server.reflecting s.tunnel.servers)) ∧
    (s.tunnel.detection.current = none → ∀ later t, s.Reaches (·.leavesRun = true) later t →
      batch = [] → Keeps base.nextRun s t ∧
        t.tunnel.link.isOn = s.tunnel.link.isOn) ∧
    (batch = [] → ∀ c, s.tunnel.detection.current = some c →
      (∀ probe, c.probe = some probe → probe ∈ s.world.reported) →
      ∃ reachable, (c.probe = none → reachable = false) ∧
        (c.index, reachable) ∈ s.iterate.world.verdicts base.nextRun) := by
  have hfresh := filed_fresh tuning scene found
  have hfb := before.filed hfresh
  have hdb := before.of_kept (Detecting.kept _) hfresh (detecting_fresh tuning scene found)
  have hfirst := searching_autoDetect hdb hfb hc
  have hstart := pursues_autoDetect hdb hfb hc (honest_of_waiting hfb hw)
  have hfa := hfb.unfolds base.unfolds_autoDetect
  have hf := course.filed hfa
  have h : Pursues base.world.handled.length s base := by
    have ha := course.of_kept (Anchored.kept base.world.handled.length base base.autoDetect) hfa
      ⟨hstart, fun _ => ⟨.refl _, rfl⟩⟩
    exact ha.pursues
  refine ⟨hfirst, h.standing, ?_, ?_, ?_, ?_⟩
  · rintro posted rest rfl hv
    exact h.keeps_handle hf hv
  · rintro posted rest index reachable rfl hv
    exact (h.handle_verdict hf hv).2
  · rintro hnone later t k rfl
    exact (k.of_kept (Anchored.kept _ base s) hf ⟨h, fun _ => ⟨.refl _, rfl⟩⟩).rests hnone
  · rintro rfl c hcur hr
    obtain ⟨reachable, hn, hm⟩ := h.detecting.verdict_posted hcur hr
    rw [h.run_eq] at hm
    exact ⟨reachable, hn, List.mem_reverse.mpr (mem_readings_iterate hf hm)⟩

/-- Two of three servers have a reflector. Detection is begun, and its first probe reports late. -/
def outdated : Station Rehearsal.Stage :=
  (fresh {} {} ⟨⟨5060, 5060, 5061, 0⟩, .stun⟩).after
    [.operate (.addServer ⟨"one.example", 443, some ⟨53, 10⟩⟩),
      .operate (.addServer ⟨"two.example", 443, none⟩),
      .operate (.addServer ⟨"three.example", 443, some ⟨53, 10⟩⟩), .operate .autoDetect,
      .report (.probe 0 true)]

/-- Detection is begun anew, and the first server is not reached this time. -/
def renewed : Station Rehearsal.Stage :=
  outdated.autoDetect.after [.report (.probe 1 false), .operate .iterate]

/-- The late result is not taken for a verdict of the new run, which goes on to the third server
with the tunnel on. -/
theorem renewed_searches_on : renewed.Searching outdated 1 ∧
    renewed.world.asked = outdated.world.asked ++
      [⟨"one.example", 443, some ⟨53, 10⟩⟩, ⟨"three.example", 443, some ⟨53, 10⟩⟩] ∧
    renewed.tunnel.link.isOn = true := by
  have hbefore : (fresh {} {} ⟨⟨5060, 5060, 5061, 0⟩, .stun⟩).Reaches (fun _ => True) []
      outdated := Reaches.start.after fun _ _ => trivial
  have hcourse : outdated.autoDetect.Reaches (·.leavesRun = true) [] renewed :=
    Reaches.start.after (by decide)
  obtain ⟨_, ⟨count, hstage⟩, _⟩ :=
    run_follows_verdicts _ _ _ hbefore (by decide) (by decide) hcourse
  have hcurrent : renewed.tunnel.detection.current.map Candidate.index = some 1 := by decide
  have hs : renewed.Searching outdated 1 := by
    rcases hstage with hs | ⟨_, hs⟩ | hs
    · have hsame := hs.current.symm.trans hcurrent
      cases hsame
      exact hs
    · cases hs.current.symm.trans hcurrent
    · cases hs.current.symm.trans hcurrent
  exact ⟨hs, hs.asked, hs.link⟩

end Station

end SipOverRelay
