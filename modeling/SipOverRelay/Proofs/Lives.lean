import SipOverRelay.Proofs.Override
import SipOverRelay.Proofs.Tending
import SipOverRelay.Rehearsal.Stage

/-!
# The lives of relays

Relays live one after the other. Each is brought up with all it has to know, is started once and
asked for the signaling stream once; it is held until the tunnel is turned off or dropped, and then
its stream is closed and it is ended, and nobody speaks to it any more. Since every leg of a run
creates a relay only when none is held, and ends the one that is held whenever the tunnel is turned
off, no two relays are ever alive at once, and none is left over in the end.
-/

namespace SipOverRelay

/-- How many relays are created by some calls. -/
def created (calls : List Call) : Nat := calls.count .createRelay

/-- A relay has been created and not been ended. -/
def Alive (calls : List Call) (relay : RelayId) : Prop :=
  relay < created calls ∧ .destroyRelay relay ∉ calls

/-- At no time are there two relays alive; the calls are given oldest first. -/
def InTurn (calls : List Call) : Prop :=
  ∀ past, past <+: calls → ∀ relay other, Alive past relay → Alive past other → relay = other

/-- A call after which the life of a relay is another one. -/
def Call.isMilestone : Call → Bool
  | .startRelay _ | .openStream _ _ | .missStream _ _ | .closeStream _ _ | .destroyRelay _ => true
  | _ => false

/-! ### One after the other -/

theorem created_append (calls more : List Call) :
    created (calls ++ more) = created calls + created more :=
  List.count_append

/-- Without a creation there are no more relays than before. -/
theorem created_append_of_not_mem {calls more : List Call} (h : .createRelay ∉ more) :
    created (calls ++ more) = created calls := by
  rw [created_append, created, created, List.count_eq_zero.mpr h, Nat.add_zero]

/-- Without a creation nobody new is alive. -/
theorem alive_append_iff {calls more : List Call} (h : .createRelay ∉ more) (relay : RelayId) :
    Alive (calls ++ more) relay ↔ Alive calls relay ∧ .destroyRelay relay ∉ more := by
  rw [Alive, Alive, created_append_of_not_mem h, List.mem_append, not_or, and_assoc]

/-- Where nobody was alive, only a new relay is. -/
theorem alive_createRelay_iff {calls : List Call} (h : ∀ relay, ¬ Alive calls relay)
    (relay : RelayId) : Alive (calls ++ [.createRelay]) relay ↔
      relay = created calls ∧ .destroyRelay relay ∉ calls := by
  have hc : created (calls ++ [.createRelay]) = created calls + 1 := created_append _ _
  have hd : .destroyRelay relay ∉ calls ++ [.createRelay] ↔ .destroyRelay relay ∉ calls := by simp
  rw [Alive, hc, hd]
  refine and_congr_left fun hm => ⟨fun hlt => ?_, fun he => Nat.lt_succ_of_le he.le⟩
  have hnot : ¬ relay < created calls := fun hold => h relay ⟨hold, hm⟩
  exact Nat.eq_of_lt_succ_of_not_lt hlt hnot

/-- What was said up to some moment is the beginning of what was said early, or all of that and
something more. -/
theorem prefix_append_cases {past calls more : List Call} (h : past <+: calls ++ more) :
    past <+: calls ∨ ∃ later, later <+: more ∧ past = calls ++ later := by
  rcases List.prefix_or_prefix_of_prefix h (List.prefix_append calls more) with hearly | hlate
  · exact .inl hearly
  · obtain ⟨later, rfl⟩ := hlate
    exact .inr ⟨later, (List.prefix_append_right_inj calls).mp h, rfl⟩

namespace InTurn

variable {calls more : List Call}

theorem empty : InTurn [] := by
  intro past hp relay other hr _
  rw [List.prefix_nil.mp hp] at hr
  exact absurd hr.1 (Nat.not_lt_zero _)

/-- Calls that create nothing keep it so that no two relays are alive at once. -/
theorem append (h : InTurn calls) (hm : .createRelay ∉ more) : InTurn (calls ++ more) := by
  intro past hp relay other hr ho
  rcases prefix_append_cases hp with hp | ⟨later, hl, rfl⟩
  · exact h past hp relay other hr ho
  · have hn : .createRelay ∉ later := fun hc => hm (hl.subset hc)
    rw [alive_append_iff hn] at hr ho
    exact h calls List.prefix_rfl relay other hr.1 ho.1

/-- A relay that is created while none is alive is alone. -/
theorem raise (h : InTurn calls) (hn : ∀ relay, ¬ Alive calls relay)
    (hm : .createRelay ∉ more) : InTurn (calls ++ .createRelay :: more) := by
  have hnew : InTurn (calls ++ [.createRelay]) := by
    intro past hp relay other hr ho
    rcases List.prefix_concat_iff.mp hp with rfl | hp
    · exact ((alive_createRelay_iff hn relay).mp hr).1.trans
        ((alive_createRelay_iff hn other).mp ho).1.symm
    · exact h past hp relay other hr ho
  have hall := hnew.append hm
  rwa [List.append_assoc] at hall

end InTurn

/-! ### What is said to one relay -/

namespace Call

variable {call : Call} {relay : RelayId}

/-- Nothing that is said to a relay creates one. -/
theorem createRelay_not_mem {told : List Call} (h : ∀ call ∈ told, call.relay? = some relay) :
    .createRelay ∉ told := by
  intro hm
  cases h _ hm

/-- Everyday calls neither create nor end a relay, and are no milestones. -/
theorem ne_of_isEveryday (h : call.isEveryday = true) :
    call ≠ .createRelay ∧ (∀ relay, call ≠ .destroyRelay relay) ∧ call.isMilestone = false := by
  cases call <;> simp [isEveryday, isMilestone] at h ⊢

end Call

variable {σ : Type}

namespace World

variable {w v : World σ}

/-- What is said to one relay, oldest first. -/
def biography (w : World σ) (relay : RelayId) : List Call :=
  w.relayCalls.filter fun call => call.relay? = some relay

theorem biography_append {told : List Call} (h : v.relayCalls = w.relayCalls ++ told)
    (relay : RelayId) :
    v.biography relay = w.biography relay ++ told.filter fun call => call.relay? = some relay := by
  rw [biography, h, List.filter_append, biography]

/-- What is said to a relay is added to what was said to it before. -/
theorem biography_of_own {told : List Call} (h : v.relayCalls = w.relayCalls ++ told)
    {relay : RelayId} (ht : ∀ call ∈ told, call.relay? = some relay) :
    v.biography relay = w.biography relay ++ told := by
  rw [biography_append h, List.filter_eq_self.mpr fun call hc => decide_eq_true (ht call hc)]

/-- A relay is not concerned by what is said to others. -/
theorem biography_of_other {told : List Call} (h : v.relayCalls = w.relayCalls ++ told)
    {relay : RelayId} (ht : ∀ call ∈ told, call.relay? ≠ some relay) :
    v.biography relay = w.biography relay := by
  rw [biography_append h, List.filter_eq_nil_iff.mpr fun call hc => by simp [ht call hc],
    List.append_nil]

/-- What is said to a relay when it is created is said to no other one. -/
theorem biography_of_new {new : RelayId} {told : List Call}
    (h : v.relayCalls = w.relayCalls ++ .createRelay :: told)
    (ht : ∀ call ∈ told, call.relay? = some new) :
    v.biography new = w.biography new ++ told ∧
      ∀ relay, relay ≠ new → v.biography relay = w.biography relay := by
  refine ⟨?_, fun relay hr => biography_of_other h fun call hm => ?_⟩
  · rw [biography_append h, List.filter_cons_of_neg (by simp [Call.relay?]),
      List.filter_eq_self.mpr fun call hm => decide_eq_true (ht call hm)]
  · rcases List.mem_cons.mp hm with rfl | hm
    · exact nofun
    · rw [ht call hm]
      exact fun he => hr (Option.some.inj he).symm

/-- An ended relay has been told so. -/
theorem mem_biography_destroyRelay {relay : RelayId}
    (h : .destroyRelay relay ∈ w.relayCalls) : .destroyRelay relay ∈ w.biography relay :=
  List.mem_filter.mpr ⟨h, decide_eq_true rfl⟩

/-- The ledger knows all relays that were created. -/
theorem Booked.length_relays {found : EngineSettings} (h : w.Booked { engine := found }) :
    w.ledger.relays.length = created w.relayCalls := by
  have hl (l : Ledger) (call : Call) :
      (l.apply call).relays.length = l.relays.length + created [call] := by
    cases call <;> simp [Ledger.apply, Ledger.onRelay, Ledger.onProbe, created]
  have hr (calls : List Call) (l : Ledger) :
      (l.replay calls).relays.length = l.relays.length + created calls := by
    induction calls with
    | nil => rfl
    | cons call calls ih =>
      have hc : created (call :: calls) = created [call] + created calls :=
        created_append [call] calls
      rw [Ledger.replay_cons, hl, ih, hc]
      omega
  rw [h, hr, relayCalls, created, created, List.count_reverse, List.count_filter rfl]
  exact Nat.zero_add _

end World

namespace Station

variable {s t : Station σ} {legs : List (Leg σ)} {relay : RelayId} {opened finished : Bool}
  {told : List Call}

/-- A relay that is brought up is not ended. -/
theorem destroyRelay_not_mem_upbringing (t : Tunnel) (relay other : RelayId) (opened : Bool) :
    .destroyRelay other ∉ upbringing t relay opened := by
  intro h
  rw [← introduction_append] at h
  rcases List.mem_append.mp h with h | h
  · rcases mem_introduction h with h | ⟨_, h⟩ | h <;> cases h
  · cases opened <;> simp at h

/-- All that is said to a relay that is ended concerns it. -/
theorem relay_of_mem_ending {signaling : Option StreamId} {call : Call}
    (h : call ∈ ending relay signaling) : call.relay? = some relay := by
  rcases List.mem_append.mp h with h | h
  · rw [Option.toList_map] at h
    obtain ⟨stream, _, rfl⟩ := List.mem_map.mp h
    rfl
  · rw [List.mem_singleton.mp h]
    rfl

/-- The life of a relay. It was brought up on a leg of the run on which the tunnel came to hold it,
was told everyday things while it was held, and if its life is over it was ended, after the stream
that it had opened, if any, was closed. -/
def Lived (legs : List (Leg σ)) (relay : RelayId) (opened finished : Bool) (told : List Call) :
    Prop :=
  ∃ leg ∈ legs, ∃ uses : List Call,
    leg.before.tunnel.relay = none ∧ leg.after.tunnel.relay = some relay ∧
      (∀ call ∈ uses, call.isEveryday = true) ∧
        told = upbringing leg.before.tunnel relay opened ++ uses ++
          if finished then ending relay (firstStream relay opened) else []

namespace Lived

/-- A longer run contains the same life. -/
theorem mono (h : Lived legs relay opened finished told) (more : List (Leg σ)) :
    Lived (legs ++ more) relay opened finished told := by
  obtain ⟨leg, hm, rest⟩ := h
  exact ⟨leg, List.mem_append_left _ hm, rest⟩

/-- A relay goes on living with what it is told day by day. -/
theorem use (h : Lived legs relay opened false told) {uses : List Call}
    (hu : ∀ call ∈ uses, call.isEveryday = true) :
    Lived legs relay opened false (told ++ uses) := by
  obtain ⟨leg, hm, before, hb, ha, he, rfl⟩ := h
  refine ⟨leg, hm, before ++ uses, hb, ha, fun call hc => ?_, by simp [List.append_assoc]⟩
  rcases List.mem_append.mp hc with hc | hc
  · exact he call hc
  · exact hu call hc

/-- A life is over when the relay is ended. -/
theorem finish (h : Lived legs relay opened false told) :
    Lived legs relay opened true (told ++ ending relay (firstStream relay opened)) := by
  obtain ⟨leg, hm, uses, hb, ha, he, rfl⟩ := h
  exact ⟨leg, hm, uses, hb, ha, he, by simp⟩

/-- The milestones of a life: the relay is started once and asked for a stream once, and in the end
a stream that it opened is closed once, and the relay is ended. -/
theorem milestones (h : Lived legs relay opened finished told) :
    ∃ port, told.filter Call.isMilestone =
      .startRelay relay :: (if opened then .openStream relay port else .missStream relay port) ::
        if finished then ending relay (firstStream relay opened) else [] := by
  obtain ⟨leg, _, uses, _, _, he, rfl⟩ := h
  have hintroduction (t : Tunnel) : (introduction t relay).filter Call.isMilestone = [] := by
    refine List.filter_eq_nil_iff.mpr fun call hc => ?_
    rcases mem_introduction hc with rfl | ⟨_, rfl⟩ | rfl <;> exact Bool.false_ne_true
  have huses : uses.filter Call.isMilestone = [] :=
    List.filter_eq_nil_iff.mpr fun call hc => by simp [(Call.ne_of_isEveryday (he call hc)).2.2]
  refine ⟨leg.before.tunnel.tuning.signalingPort, ?_⟩
  rw [List.filter_append, List.filter_append, ← introduction_append, List.filter_append,
    hintroduction, huses]
  cases opened <;> cases finished <;> rfl

end Lived

/-! ### What a leg does to the relays -/

/-- How the relays of a run stand, as the calls made so far tell. -/
structure Orderly (found : EngineSettings) (legs : List (Leg σ)) (s : Station σ) : Prop where
  /-- A relay is held only while the tunnel is on, and there is no signaling stream without one. -/
  poised : s.Poised
  /-- The ledger knows what the calls tell. -/
  booked : s.world.Booked { engine := found }
  /-- There have never been two relays alive at once. -/
  inTurn : InTurn s.world.relayCalls
  /-- The relay that is alive is the one that is held. -/
  held : ∀ relay, Alive s.world.relayCalls relay ↔ s.tunnel.relay = some relay
  /-- Nothing is said to a relay before it is created. -/
  unborn : ∀ relay : RelayId, created s.world.relayCalls ≤ relay → s.world.biography relay = []
  /-- Every relay that was created lives until it is no longer held. The signaling stream is the one
  that the held relay opened. -/
  lived : ∀ relay : RelayId, relay < created s.world.relayCalls → ∃ opened,
    Lived legs relay opened (s.tunnel.relay ≠ some relay) (s.world.biography relay) ∧
      (s.tunnel.relay = some relay → s.tunnel.signaling = firstStream relay opened)

/-- All relays of a run have come to their end. -/
structure Concluded (legs : List (Leg σ)) (w : World σ) : Prop where
  /-- There have never been two relays alive at once. -/
  inTurn : InTurn w.relayCalls
  /-- No relay is alive any more. -/
  gone : ∀ relay, ¬ Alive w.relayCalls relay
  /-- Nothing was said to a relay that was not created. -/
  unborn : ∀ relay : RelayId, created w.relayCalls ≤ relay → w.biography relay = []
  /-- Every relay that was created has lived its whole life. -/
  lived : ∀ relay : RelayId, relay < created w.relayCalls → ∃ opened,
    Lived legs relay opened true (w.biography relay)

namespace Orderly

variable {found : EngineSettings}

/-- A longer run has the same relays in order. -/
theorem mono (h : Orderly found legs s) (more : List (Leg σ)) : Orderly found (legs ++ more) s where
  poised := h.poised
  booked := h.booked
  inTurn := h.inTurn
  held := h.held
  unborn := h.unborn
  lived relay hlt := by
    obtain ⟨opened, hl, hs⟩ := h.lived relay hlt
    exact ⟨opened, hl.mono more, hs⟩

/-- A relay that is held has been created. -/
theorem lt_of_held (h : Orderly found legs s) (hr : s.tunnel.relay = some relay) :
    relay < created s.world.relayCalls :=
  ((h.held relay).mpr hr).1

/-- Relays are used in the order in which they live. -/
theorem uses (h : Orderly found legs s) (hb : t.world.Booked { engine := found }) (hp : t.Poised)
    (calls : t.world.relayCalls = s.world.relayCalls ++ told)
    (everyday : ∀ call ∈ told, call.isEveryday = true ∧ call.relay? = s.tunnel.relay)
    (relay : t.tunnel.relay = s.tunnel.relay)
    (signaling : t.tunnel.signaling = s.tunnel.signaling) : Orderly found legs t := by
  have hcreate : .createRelay ∉ told := fun hm => (Call.ne_of_isEveryday (everyday _ hm).1).1 rfl
  have hdestroy (r : RelayId) : .destroyRelay r ∉ told :=
    fun hm => (Call.ne_of_isEveryday (everyday _ hm).1).2.1 r rfl
  have hc : created t.world.relayCalls = created s.world.relayCalls := by
    rw [calls, created_append_of_not_mem hcreate]
  -- Nothing is said to any relay but the held one, so all other lives stay what they are.
  have hother {r : RelayId} (hr : s.tunnel.relay ≠ some r) :
      t.world.biography r = s.world.biography r :=
    World.biography_of_other calls fun call hm => (everyday call hm).2 ▸ hr
  refine ⟨hp, hb, ?_, fun r => ?_, fun r hle => ?_, fun r hlt => ?_⟩
  · rw [calls]
    exact h.inTurn.append hcreate
  · rw [calls, alive_append_iff hcreate, relay, ← h.held]
    exact and_iff_left (hdestroy r)
  · rw [hc] at hle
    have hr : s.tunnel.relay ≠ some r := fun hr => Nat.not_lt.mpr hle (h.lt_of_held hr)
    rw [hother hr]
    exact h.unborn r hle
  · obtain ⟨opened, hl, hs⟩ := h.lived r (hc ▸ hlt)
    refine ⟨opened, ?_, fun hr => signaling.trans (hs (relay ▸ hr))⟩
    rw [relay]
    by_cases hr : s.tunnel.relay = some r
    · have hown : t.world.biography r = s.world.biography r ++ told :=
        World.biography_of_own calls fun call hm => (everyday call hm).2.trans hr
      rw [hown]
      simp only [hr, ne_eq, not_true_eq_false, decide_false] at hl ⊢
      exact hl.use fun call hm => (everyday call hm).1
    · rw [hother hr]
      exact hl

/-- While no relay is held all relays have come to their end. -/
theorem concluded (h : Orderly found legs s) (hr : s.tunnel.relay = none) :
    Concluded legs s.world := by
  have hnot (relay : RelayId) : s.tunnel.relay ≠ some relay := by
    rw [hr]
    exact nofun
  refine ⟨h.inTurn, fun relay ha => hnot relay ((h.held relay).mp ha), h.unborn,
    fun relay hlt => ?_⟩
  obtain ⟨opened, hl, -⟩ := h.lived relay hlt
  exact ⟨opened, by simpa [hnot relay] using hl⟩

/-- When the held relay is ended all relays have come to their end. -/
theorem ends (h : Orderly found legs s) (held : s.tunnel.relay = some relay) {v : World σ}
    (calls : v.relayCalls = s.world.relayCalls ++ ending relay s.tunnel.signaling) :
    Concluded legs v := by
  have hcreate : .createRelay ∉ ending relay s.tunnel.signaling :=
    Call.createRelay_not_mem fun _ hm => relay_of_mem_ending hm
  have hdestroy : .destroyRelay relay ∈ ending relay s.tunnel.signaling :=
    List.mem_append_right _ List.mem_cons_self
  have hc : created v.relayCalls = created s.world.relayCalls := by
    rw [calls, created_append_of_not_mem hcreate]
  have hother {r : RelayId} (hr : relay ≠ r) : v.biography r = s.world.biography r :=
    World.biography_of_other calls fun call hm => by simp [relay_of_mem_ending hm, hr]
  refine ⟨?_, fun r ha => ?_, fun r hle => ?_, fun r hlt => ?_⟩
  · rw [calls]
    exact h.inTurn.append hcreate
  · rw [calls, alive_append_iff hcreate, h.held, held] at ha
    obtain ⟨hr, hn⟩ := ha
    cases hr
    exact hn hdestroy
  · rw [hc] at hle
    have hr : relay ≠ r := fun hr => Nat.not_lt.mpr hle (h.lt_of_held (hr ▸ held))
    rw [hother hr]
    exact h.unborn r hle
  · obtain ⟨opened, hl, hs⟩ := h.lived r (hc ▸ hlt)
    refine ⟨opened, ?_⟩
    by_cases hr : relay = r
    · subst hr
      have hown : v.biography relay = s.world.biography relay ++ ending relay s.tunnel.signaling :=
        World.biography_of_own calls fun call hm => relay_of_mem_ending hm
      rw [hown, hs held]
      simp only [held, ne_eq, not_true_eq_false, decide_false] at hl
      exact hl.finish
    · rw [hother hr]
      simpa [held, hr] using hl

end Orderly

namespace Concluded

variable {found : EngineSettings}

/-- Whether all relays have come to their end can be told from the calls. -/
theorem congr {w v : World σ} (h : Concluded legs w) (hc : v.relayCalls = w.relayCalls) :
    Concluded legs v := by
  have hb (relay : RelayId) : v.biography relay = w.biography relay := by
    rw [World.biography, hc, World.biography]
  refine ⟨hc ▸ h.inTurn, hc ▸ h.gone, fun relay hle => ?_, fun relay hlt => ?_⟩
  · rw [hb]
    exact h.unborn relay (hc ▸ hle)
  · rw [hb]
    exact h.lived relay (hc ▸ hlt)

/-- When all relays have come to their end, none is held. -/
theorem orderly (h : Concluded legs t.world) (hb : t.world.Booked { engine := found })
    (hp : t.Poised) (gone : t.tunnel.relay = none) : Orderly found legs t := by
  refine ⟨hp, hb, h.inTurn, fun r => ⟨fun ha => absurd ha (h.gone r), fun hr => ?_⟩, h.unborn,
    fun r hlt => ?_⟩
  · rw [gone] at hr
    cases hr
  · obtain ⟨opened, hl⟩ := h.lived r hlt
    refine ⟨opened, ?_, fun hr => ?_⟩
    · simpa [gone] using hl
    · rw [gone] at hr
      cases hr

/-- When all relays have come to their end, a new life may begin. -/
theorem raises (h : Concluded legs s.world) (hb : t.world.Booked { engine := found })
    (hp : t.Poised) (free : s.tunnel.relay = none)
    (calls : t.world.relayCalls = s.world.relayCalls ++
      .createRelay :: upbringing s.tunnel (created s.world.relayCalls) opened)
    (relay : t.tunnel.relay = some (created s.world.relayCalls))
    (signaling : t.tunnel.signaling = firstStream (created s.world.relayCalls) opened) :
    Orderly found (legs ++ [⟨s, t⟩]) t := by
  have hborn : ∀ call ∈ upbringing s.tunnel (created s.world.relayCalls) opened,
      call.relay? = some (created s.world.relayCalls) :=
    fun _ hm => relay_of_mem_upbringing hm
  have hcreate := Call.createRelay_not_mem hborn
  have hc : created t.world.relayCalls = created s.world.relayCalls + 1 := by
    rw [calls, List.append_cons, created_append_of_not_mem hcreate, created_append]
    rfl
  -- The new relay takes the first number under which nothing has been said yet.
  obtain ⟨hown, hother⟩ := World.biography_of_new calls hborn
  rw [h.unborn _ (Nat.le_refl _), List.nil_append] at hown
  refine ⟨hp, hb, ?_, fun r => ?_, fun r hle => ?_, fun r hlt => ?_⟩
  · rw [calls]
    exact h.inTurn.raise h.gone hcreate
  · have hfree : .destroyRelay (created s.world.relayCalls) ∉ s.world.relayCalls := by
      intro hm
      have hb := World.mem_biography_destroyRelay hm
      rw [h.unborn _ (Nat.le_refl _)] at hb
      cases hb
    rw [calls, List.append_cons, alive_append_iff hcreate, alive_createRelay_iff h.gone, relay]
    constructor
    · rintro ⟨⟨rfl, -⟩, -⟩
      rfl
    · intro hr
      cases hr
      exact ⟨⟨rfl, hfree⟩, destroyRelay_not_mem_upbringing _ _ _ _⟩
  · rw [hc] at hle
    rw [hother r (Nat.ne_of_gt hle)]
    exact h.unborn r (Nat.le_of_succ_le hle)
  · rw [hc] at hlt
    by_cases hr : r = created s.world.relayCalls
    · subst hr
      refine ⟨opened, ⟨⟨s, t⟩, by simp, [], free, relay, by simp, ?_⟩, fun _ => signaling⟩
      simp [hown, relay]
    · obtain ⟨old, hl⟩ := h.lived r (Nat.lt_of_le_of_ne (Nat.le_of_lt_succ hlt) hr)
      refine ⟨old, ?_, fun he => ?_⟩
      · rw [hother r hr]
        simpa [relay, Ne.symm hr] using hl.mono [⟨s, t⟩]
      · rw [relay] at he
        exact absurd (Option.some.inj he).symm hr

end Concluded

/-- The relay that is held is ended exactly on the leg on which the tunnel is turned off. -/
theorem Tends.count_destroyRelay (h : s.Tends t) (relay : RelayId) :
    t.world.relayCalls.count (.destroyRelay relay) =
      s.world.relayCalls.count (.destroyRelay relay) +
        if s.tunnel.relay = some relay ∧ Leg.goesOff ⟨s, t⟩ = true then 1 else 0 := by
  cases h with
  | uses told calls everyday _ _ on _ _ =>
    have hn : .destroyRelay relay ∉ told :=
      fun hm => (Call.ne_of_isEveryday (everyday _ hm).1).2.1 relay rfl
    have hoff : ¬ (s.tunnel.relay = some relay ∧ Leg.goesOff ⟨s, t⟩ = true) := by
      rintro ⟨hr, hg⟩
      simp [Leg.goesOff, on (by rw [hr]; rfl)] at hg
    rw [calls, List.count_append, List.count_eq_zero.mpr hn, if_neg hoff]
  | raises opened free calls _ _ _ _ _ =>
    have hn : .destroyRelay relay ∉ .createRelay ::
        upbringing s.tunnel s.world.ledger.relays.length opened := by
      intro hm
      rcases List.mem_cons.mp hm with hm | hm
      · cases hm
      · exact destroyRelay_not_mem_upbringing _ _ _ _ hm
    rw [calls, List.count_append, List.count_eq_zero.mpr hn, free, if_neg (by simp)]
  | ends own held calls _ _ on off =>
    have hoff : Leg.goesOff ⟨s, t⟩ = true := by
      rw [Leg.goesOff, on, off]
      rfl
    have hn : (ending own s.tunnel.signaling).count (.destroyRelay relay) =
        if own = relay then 1 else 0 := by
      cases s.tunnel.signaling <;> by_cases hr : own = relay <;> simp [ending, hr]
    rw [calls, List.count_append, hn, held]
    simp [hoff]

variable [Surroundings σ] {found : EngineSettings} {hook : Hook}

/-- Every leg of a run keeps the relays in order. -/
theorem Orderly.step (h : Orderly found legs s) (hl : s.LeadsTo t) :
    Orderly found (legs ++ [⟨s, t⟩]) t := by
  have ht := h.poised.tends hl
  have hp := ht.poised h.poised
  have hb := hl.booked h.booked
  cases ht with
  | uses told calls everyday relay signaling _ _ _ =>
    exact (h.uses hb hp calls everyday relay signaling).mono _
  | raises opened free calls relay signaling _ _ _ =>
    rw [h.booked.length_relays] at calls relay signaling
    exact (h.concluded free).raises hb hp free calls relay signaling
  | ends relay held calls gone _ _ _ => exact ((h.ends held calls).orderly hb hp gone).mono _

/-! ### The end of the tunnel -/

/-- What is said to relays when the tunnel is dropped. -/
theorem relayCalls_drop (s : Station σ) :
    s.drop.relayCalls = s.world.relayCalls ++
      s.tunnel.relay.elim [] fun relay => ending relay s.tunnel.signaling := by
  have ha := Leaves.abandon s
  obtain ⟨hr, hs, -⟩ := Tunnel.holdings_eq_iff.mp ha.holdings
  unfold Station.drop
  dsimp only
  rw [hr]
  cases held : s.tunnel.relay with
  | none => exact ha.calls.trans (List.append_nil _).symm
  | some relay =>
    have hstop := s.abandon.relayCalls_stopRelay
    rw [ha.calls, hr, hs, held] at hstop
    exact hstop

/-- When the tunnel is dropped all relays come to their end, and none is created. -/
theorem Orderly.drop (h : Orderly found legs s) :
    Concluded legs s.drop ∧ created s.drop.relayCalls = created s.world.relayCalls := by
  have hd := s.relayCalls_drop
  cases held : s.tunnel.relay with
  | none =>
    rw [held] at hd
    have hsame : s.drop.relayCalls = s.world.relayCalls := hd.trans (List.append_nil _)
    exact ⟨(h.concluded held).congr hsame, congrArg created hsame⟩
  | some relay =>
    rw [held] at hd
    refine ⟨h.ends held hd, ?_⟩
    have hcreate : .createRelay ∉ ending relay s.tunnel.signaling :=
      Call.createRelay_not_mem fun _ hm => relay_of_mem_ending hm
    exact (congrArg created hd).trans (created_append_of_not_mem hcreate)

/-- When the tunnel is dropped the engines work on their own. -/
theorem Governed.routing_drop (h : Governed found hook s) :
    s.drop.ledger.hook = none ∧ s.drop.ledger.media = none := by
  have ha := h.abandon
  unfold Station.drop
  dsimp only
  cases held : s.abandon.tunnel.relay with
  | some relay => exact s.abandon.routing_stopRelay
  | none =>
    rcases ha.whole with hw | hw
    · exact ⟨hw.hook, hw.media⟩
    · obtain ⟨relay, hr, _⟩ := hw.media
      rw [held] at hr
      cases hr

/-- A new tunnel has no relays to keep in order. -/
theorem orderly_fresh (tuning : Tuning) (scene : σ) (found : EngineSettings) :
    Orderly found [] (fresh tuning scene found) where
  poised := poised_fresh tuning scene found
  booked := rfl
  inTurn := .empty
  held _ := ⟨fun ha => absurd ha.1 (Nat.not_lt_zero _), nofun⟩
  unborn _ _ := rfl
  lived _ hlt := absurd hlt (Nat.not_lt_zero _)

/-- Every run keeps the relays in order. -/
theorem orderly_after (tuning : Tuning) (scene : σ) (found : EngineSettings)
    (run : List (Happening σ)) :
    Orderly found ((fresh tuning scene found).legs run) ((fresh tuning scene found).after run) :=
  legs_induction (I := Orderly found) (fun _ _ _ h hl => h.step hl)
    (orderly_fresh tuning scene found) run

/-- The relays of every run live one after the other, whatever is posted, whichever relays cannot be
created, and whichever streams are refused. At no time are two of them alive, and the one that is
alive is the one that is held, while the tunnel is on. Each is brought up, used and ended in this
order; it is ended on the leg on which the tunnel is turned off, or else when the tunnel is dropped.
After that every relay has been started once, asked for one stream and ended once, and the stream
that it opened has been closed in between; and neither hook nor media source is left. -/
theorem relays_live_in_turn (tuning : Tuning) (scene : σ) (found : EngineSettings)
    (run : List (Happening σ)) :
    let start := fresh tuning scene found
    let s := start.after run
    Orderly found (start.legs run) s ∧
      (∀ leg ∈ start.legs run,
        leg.before.Poised ∧ leg.before.Tends leg.after ∧ leg.after.Poised ∧
          ∀ relay, leg.after.world.relayCalls.count (.destroyRelay relay) =
            leg.before.world.relayCalls.count (.destroyRelay relay) +
              if leg.before.tunnel.relay = some relay ∧ leg.goesOff = true then 1 else 0) ∧
      Concluded (start.legs run) s.drop ∧
      created s.drop.relayCalls = created s.world.relayCalls ∧
      (∀ relay : RelayId, relay < created s.drop.relayCalls → ∃ opened port,
        (s.drop.biography relay).filter Call.isMilestone =
          .startRelay relay ::
            (if opened then .openStream relay port else .missStream relay port) ::
              ending relay (firstStream relay opened)) ∧
      s.drop.ledger.hook = none ∧ s.drop.ledger.media = none := by
  intro start s
  have horderly : Orderly found (start.legs run) s := orderly_after tuning scene found run
  have hpoised := of_legs (I := Poised) (fun _ _ hp hl => (hp.tends hl).poised hp)
    (poised_fresh tuning scene found) run
  have hgoverned : Governed found start.tunnel.hook s :=
    (Reaches.start.after fun _ _ => trivial).of_kept (Governed.kept fun _ => True)
      (filed_fresh tuning scene found) (governed_fresh tuning scene found)
  obtain ⟨hconcluded, hcreated⟩ := horderly.drop
  refine ⟨horderly, fun leg hm => ?_, hconcluded, hcreated, fun relay hlt => ?_,
    hgoverned.routing_drop⟩
  · obtain ⟨hb, hl, ha⟩ := hpoised.2 leg hm
    exact ⟨hb, hb.tends hl, ha, (hb.tends hl).count_destroyRelay⟩
  · obtain ⟨opened, hl⟩ := hconcluded.lived relay hlt
    obtain ⟨port, hport⟩ := hl.milestones
    exact ⟨opened, port, hport⟩

/-- The first relay refuses the stream and is ended. Then one more server and a proxy are set, and
no relay can be created at first; the second one comes with connecting anew, and is held when the
tunnel is dropped. -/
def twiceOn : List (Happening Rehearsal.Stage) :=
  [.operate (.addServer ⟨"first", 443, none⟩), .operate (.enable true), .operate (.enable false),
    .operate (.addServer ⟨"second", 8443, none⟩), .operate (.setProxy ⟨"web", 3128, none, none⟩),
    .stir fun stage => { stage with relaysFail := true, refusesStreams := false },
    .operate (.enable true), .stir fun stage => { stage with relaysFail := false },
    .operate .reconnect]

/-- Both relays of that run live their whole life, the first without a stream, and each is told all
servers that the tunnel has by then before it is started. -/
theorem both_relays_live_whole_lives :
    ∃ s : Station Rehearsal.Stage,
      s = (fresh {} { refusesStreams := true } ⟨⟨5060, 5060, 5061, 0⟩, .stun⟩).after twiceOn ∧
      created s.drop.relayCalls = 2 ∧
      s.drop.biography 0 =
        [.listen 0 1, .addServer 0 ⟨"first", 443, none⟩, .startRelay 0, .missStream 0 5060,
          .destroyRelay 0] ∧
      s.drop.biography 1 =
        [.listen 1 2, .addServer 1 ⟨"first", 443, none⟩, .addServer 1 ⟨"second", 8443, none⟩,
          .setProxy 1 ⟨"web", 3128, none, none⟩, .startRelay 1, .openStream 1 5060,
          .closeStream 1 ⟨1, 0⟩, .destroyRelay 1] ∧
      (∃ opened port, (s.drop.biography 1).filter Call.isMilestone =
        .startRelay 1 :: (if opened then .openStream 1 port else .missStream 1 port) ::
          ending 1 (firstStream 1 opened)) ∧
      s.drop.ledger.hook = none := by
  obtain ⟨_, _, _, _, hlives, hhook, _⟩ := relays_live_in_turn {}
    ({ refusesStreams := true } : Rehearsal.Stage) ⟨⟨5060, 5060, 5061, 0⟩, .stun⟩ twiceOn
  exact ⟨_, rfl, by decide, by decide, by decide, hlives 1 (by decide), hhook⟩

end Station

end SipOverRelay
