import Mathlib.Data.ENat.Lattice
import SipOverRelay.Proofs.Course

/-!
# Waiting for the registration to go

Before the transport changes underneath it the engine gets the chance to take a registration back:
it is driven and looked at, again and again with a pause in between, until the registration is gone
or the pauses are used up. What the looks find is up to the engine. Apart from these waits the
tunnel drives the engine once per event at most, so the bound on the pauses is a bound on ticks.
-/

namespace SipOverRelay

open Classical in
/-- The place of the first yes in a sequence of answers; infinite if there is none. -/
noncomputable def firstYes (answers : Nat → Bool) : ℕ∞ :=
  if h : ∃ n, answers n = true then (Nat.find h : ℕ∞) else ⊤

theorem firstYes_le_iff {answers : Nat → Bool} {n : Nat} :
    firstYes answers ≤ n ↔ ∃ m ≤ n, answers m = true := by
  unfold firstYes
  split
  · next h => rw [Nat.cast_le, Nat.find_le_iff]
  · next h =>
    refine ⟨fun ht => absurd ht (by simp), ?_⟩
    rintro ⟨m, _, hm⟩
    exact absurd ⟨m, hm⟩ h

/-- Nothing but no up to some place says that the first yes comes later. -/
theorem lt_firstYes_iff {answers : Nat → Bool} {n : Nat} :
    n < firstYes answers ↔ ∀ m ≤ n, answers m = false := by
  rw [← not_le, firstYes_le_iff]
  simp

/-- A yes with nothing but no before is the first one. -/
theorem firstYes_eq {answers : Nat → Bool} {n : Nat} (hyes : answers n = true)
    (hno : ∀ m < n, answers m = false) : firstYes answers = n := by
  refine le_antisymm (firstYes_le_iff.mpr ⟨n, Nat.le_refl n, hyes⟩) ?_
  cases n with
  | zero => simp
  | succ n =>
    have hlt : n < firstYes answers := lt_firstYes_iff.mpr fun m hm => hno m (Nat.lt_succ_of_le hm)
    exact Order.add_one_le_of_lt hlt

variable {σ : Type} [Surroundings σ]

/-- The pause between two looks at the registration, a thousand microseconds for each millisecond
that the tuning gives. -/
def Tunnel.pause (t : Tunnel) : Micros := 1000 * t.tuning.deregistrationPause

/-- The surroundings at a look at the registration, the looks being counted from zero: the engine is
driven before each of them, and rests for the pause after one that was in vain. -/
def sceneAtLook (pause : Micros) (scene : σ) : Nat → σ
  | 0 => (Surroundings.react .driveEngine scene).1
  | n + 1 =>
    sceneAtLook pause
      (Surroundings.react (.sleep pause) (Surroundings.react .driveEngine scene).1).1 n

/-- What a look finds: whether the registration is gone. -/
def gone (pause : Micros) (scene : σ) (n : Nat) : Bool :=
  Surroundings.isDeregistered (sceneAtLook pause scene n)

/-- The calls of so many looks in vain and one more look, newest first. -/
def polling (pause : Micros) (pauses : Nat) : List Call :=
  .driveEngine :: (List.replicate pauses [.sleep pause, .driveEngine]).flatten

/-- One more look in vain comes before all others. -/
theorem polling_succ (pause : Micros) (pauses : Nat) :
    polling pause (pauses + 1) = polling pause pauses ++ [.sleep pause, .driveEngine] := by
  simp [polling, List.replicate_succ']

/-- The engine is driven once for each look. -/
theorem count_driveEngine_polling (pause : Micros) (pauses : Nat) :
    (polling pause pauses).count .driveEngine = pauses + 1 := by
  induction pauses with
  | zero => rfl
  | succ pauses ih =>
    rw [polling_succ, List.count_append, ih]
    simp

/-- There is one pause less than there are looks. -/
theorem count_sleep_polling (pause : Micros) (pauses : Nat) :
    (polling pause pauses).count (.sleep pause) = pauses := by
  induction pauses with
  | zero => rfl
  | succ pauses ih =>
    rw [polling_succ, List.count_append, ih]
    simp

namespace Station

variable {s t u : Station σ}

/-- The station after a look in vain and the pause that follows. -/
def rested (s : Station σ) : Station σ := (s.call .driveEngine).call (.sleep s.tunnel.pause)

@[simp] theorem tunnel_rested (s : Station σ) : s.rested.tunnel = s.tunnel := rfl

theorem calls_rested (s : Station σ) :
    s.rested.world.calls = .sleep s.tunnel.pause :: .driveEngine :: s.world.calls := by
  simp [rested]

@[simp] theorem notices_rested (s : Station σ) : s.rested.world.notices = s.world.notices := by
  simp [rested]

/-- The look after the pause is the next one. -/
theorem gone_rested (s : Station σ) (n : Nat) :
    gone s.tunnel.pause s.rested.world.scene n = gone s.tunnel.pause s.world.scene (n + 1) := by
  simp [gone, sceneAtLook, rested]

theorem pollDeregistration_of_gone (h : gone s.tunnel.pause s.world.scene 0 = true)
    (left pauses : Nat) : s.pollDeregistration left pauses = (pauses, s.call .driveEngine) := by
  have hd : Surroundings.isDeregistered (s.call .driveEngine).world.scene = true := by
    rw [world_call, World.scene_perform]
    exact h
  unfold pollDeregistration
  exact if_pos hd

/-- After a look in vain there is no second one without a pause. -/
theorem pollDeregistration_zero (h : gone s.tunnel.pause s.world.scene 0 = false)
    (pauses : Nat) : s.pollDeregistration 0 pauses =
      (pauses, (s.call .driveEngine).note .deregistrationTimeout) := by
  have hd : ¬ Surroundings.isDeregistered (s.call .driveEngine).world.scene = true := by
    rw [world_call, World.scene_perform, Bool.not_eq_true]
    exact h
  unfold pollDeregistration
  exact if_neg hd

theorem pollDeregistration_succ (h : gone s.tunnel.pause s.world.scene 0 = false)
    (left pauses : Nat) :
    s.pollDeregistration (left + 1) pauses = s.rested.pollDeregistration left (pauses + 1) := by
  have hd : ¬ Surroundings.isDeregistered (s.call .driveEngine).world.scene = true := by
    rw [world_call, World.scene_perform, Bool.not_eq_true]
    exact h
  conv_lhs => unfold pollDeregistration
  exact if_neg hd

/-- A series of looks began in a station with some pauses left, some having been made before, and
came to a number of pauses and to another station. -/
structure Polled (s : Station σ) (left pauses more : Nat) (result : Nat × Station σ) : Prop where
  /-- So many pauses were left. -/
  le : more ≤ left
  /-- All looks but the last one were in vain. -/
  vain : ∀ n < more, gone s.tunnel.pause s.world.scene n = false
  /-- If the last one was, too, then no pause was left. -/
  last : gone s.tunnel.pause s.world.scene more = false → more = left
  /-- The pauses are counted. -/
  pauses : result.1 = pauses + more
  /-- There was one look more than pauses. -/
  calls : result.2.world.calls = polling s.tunnel.pause more ++ s.world.calls
  /-- It is noted if all looks were in vain. -/
  notices : result.2.world.notices =
    (if gone s.tunnel.pause s.world.scene more then [] else [.deregistrationTimeout]) ++
      s.world.notices

theorem polled_of_gone (h : gone s.tunnel.pause s.world.scene 0 = true) (left pauses : Nat) :
    s.Polled left pauses 0 (s.pollDeregistration left pauses) := by
  rw [pollDeregistration_of_gone h]
  exact ⟨Nat.zero_le _, by simp, by simp [h], rfl, World.calls_perform _ _, by simp [h]⟩

/-- The looks go on until one of them is not in vain or the pauses are used up. -/
theorem polled_pollDeregistration (s : Station σ) (left pauses : Nat) :
    ∃ more, s.Polled left pauses more (s.pollDeregistration left pauses) := by
  induction left generalizing s pauses with
  | zero =>
    cases h : gone s.tunnel.pause s.world.scene 0 with
    | true => exact ⟨0, polled_of_gone h 0 pauses⟩
    | false =>
      rw [pollDeregistration_zero h]
      exact ⟨0, Nat.le_refl 0, by simp, fun _ => rfl, rfl, World.calls_perform _ _,
        by simp [h, World.note]⟩
  | succ left ih =>
    cases h : gone s.tunnel.pause s.world.scene 0 with
    | true => exact ⟨0, polled_of_gone h (left + 1) pauses⟩
    | false =>
      rw [pollDeregistration_succ h]
      obtain ⟨more, hmore⟩ := ih s.rested (pauses + 1)
      have hgone (n : Nat) : gone s.tunnel.pause s.world.scene (n + 1) =
          gone s.rested.tunnel.pause s.rested.world.scene n := (s.gone_rested n).symm
      refine ⟨more + 1, Nat.succ_le_succ hmore.le, ?_, ?_, ?_, ?_, ?_⟩
      · intro n hn
        cases n with
        | zero => exact h
        | succ n =>
          rw [hgone]
          exact hmore.vain n (Nat.lt_of_succ_lt_succ hn)
      · rw [hgone]
        exact fun hlast => congrArg Nat.succ (hmore.last hlast)
      · rw [hmore.pauses]
        omega
      · rw [hmore.calls, calls_rested, polling_succ, List.append_assoc]
        rfl
      · rw [hmore.notices, hgone, notices_rested]

namespace Polled

variable {left pauses more : Nat} {result : Nat × Station σ}

/-- As many pauses are made as there are looks before the first that is not in vain, or as are
allowed if these are fewer. -/
theorem more_eq (h : s.Polled left pauses more result) :
    (more : ℕ∞) = min (firstYes (gone s.tunnel.pause s.world.scene)) left := by
  cases hmore : gone s.tunnel.pause s.world.scene more with
  | true =>
    rw [firstYes_eq hmore h.vain, min_eq_left]
    exact Nat.cast_le.mpr h.le
  | false =>
    have hlate : more < firstYes (gone s.tunnel.pause s.world.scene) :=
      lt_firstYes_iff.mpr fun n hn => (Nat.lt_or_eq_of_le hn).elim (h.vain n) fun he => he ▸ hmore
    rw [← h.last hmore, min_eq_right hlate.le]

/-- All looks were in vain exactly if the first that is not would come after the last one. -/
theorem gone_eq_false_iff (h : s.Polled left pauses more result) :
    gone s.tunnel.pause s.world.scene more = false ↔
      left < firstYes (gone s.tunnel.pause s.world.scene) := by
  rw [lt_firstYes_iff]
  refine ⟨fun hmore n hn => ?_, fun hall => hall more h.le⟩
  rw [← h.last hmore] at hn
  exact (Nat.lt_or_eq_of_le hn).elim (h.vain n) fun he => he ▸ hmore

/-- It is noted exactly if the first look that is not in vain would come after the last one. -/
theorem notices_eq (h : s.Polled left pauses more result) :
    result.2.world.notices =
      (if left < firstYes (gone s.tunnel.pause s.world.scene) then [.deregistrationTimeout]
        else []) ++ s.world.notices := by
  rw [h.notices]
  congr 1
  simp only [← h.gone_eq_false_iff]
  cases gone s.tunnel.pause s.world.scene more <;> rfl

end Polled

/-- An engine that is not registered is left in peace. -/
theorem awaitDeregistration_of_unregistered
    (h : Surroundings.isRegistered s.world.scene = false) : s.awaitDeregistration = (0, s) := by
  unfold awaitDeregistration
  rw [h]
  rfl

/-- An engine that is registered is asked to take its registration back, and is then looked at until
it has done so or the pauses are used up. -/
theorem polled_awaitDeregistration (h : Surroundings.isRegistered s.world.scene = true) :
    (s.call .pauseRegistration).Polled s.tunnel.tuning.deregistrationPolls 0
      s.awaitDeregistration.1 s.awaitDeregistration := by
  have he : s.awaitDeregistration = (s.call .pauseRegistration).pollDeregistration
      s.tunnel.tuning.deregistrationPolls := if_pos h
  obtain ⟨more, hmore⟩ := (s.call .pauseRegistration).polled_pollDeregistration
    s.tunnel.tuning.deregistrationPolls 0
  rw [← he] at hmore
  have hm : s.awaitDeregistration.1 = more := hmore.pauses.trans (Nat.zero_add more)
  rw [hm]
  exact hmore

/-- The number of pauses depends on the surroundings and on the tuning alone. -/
theorem pauses_awaitDeregistration_congr (hw : t.world.scene = s.world.scene)
    (ht : t.tunnel.tuning = s.tunnel.tuning) :
    t.awaitDeregistration.1 = s.awaitDeregistration.1 := by
  cases h : Surroundings.isRegistered s.world.scene with
  | false =>
    rw [awaitDeregistration_of_unregistered h,
      awaitDeregistration_of_unregistered ((congrArg _ hw).trans h)]
  | true =>
    have hs := (polled_awaitDeregistration h).more_eq
    have hcast := (polled_awaitDeregistration ((congrArg _ hw).trans h)).more_eq
    simp only [world_call, World.scene_perform, tunnel_call, Tunnel.pause, hw, ht] at hs hcast
    exact Nat.cast_injective (hcast.trans hs.symm)

/-- The calls of a wait for the registration to go, newest first. -/
def waiting (s : Station σ) : List Call :=
  if Surroundings.isRegistered s.world.scene then
    polling s.tunnel.pause s.awaitDeregistration.1 ++ [.pauseRegistration]
  else []

theorem calls_awaitDeregistration (s : Station σ) :
    s.awaitDeregistration.2.world.calls = s.waiting ++ s.world.calls := by
  unfold waiting
  cases h : Surroundings.isRegistered s.world.scene with
  | false => rw [awaitDeregistration_of_unregistered h]; rfl
  | true =>
    rw [(polled_awaitDeregistration h).calls, world_call, World.calls_perform]
    simp

theorem waiting_congr (hw : t.world.scene = s.world.scene)
    (ht : t.tunnel.tuning = s.tunnel.tuning) : t.waiting = s.waiting := by
  simp only [waiting, Tunnel.pause, hw, ht, pauses_awaitDeregistration_congr hw ht]

/-- A wait drives the engine once more than it makes pauses, and these are bounded. -/
theorem count_driveEngine_waiting (s : Station σ) :
    s.waiting.count .driveEngine ≤ s.tunnel.tuning.deregistrationPolls + 1 := by
  unfold waiting
  cases h : Surroundings.isRegistered s.world.scene with
  | false => simp
  | true =>
    have hle := (polled_awaitDeregistration h).le
    rw [if_pos rfl, List.count_append, count_driveEngine_polling]
    simpa using hle

end Station

end SipOverRelay
