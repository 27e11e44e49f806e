import Mathlib.Algebra.Order.Floor.Div
import SipOverRelay.Proofs.Waiting

/-!
# Waiting no longer than asked

Nothing counts the rounds of a wait for input but the clock. A round whose native wait finds nothing
takes a slice, and so does one whose native wait fails, since a sleep follows. Only a signal can end
a round early. Hence after so many rounds without a signal the clock is past as many slices, or past
the limit.
-/

namespace SipOverRelay

namespace Round

/-- The wait comes to the round with this number. -/
def Reached (limit : Micros) (script : Nat → Round) (n : Nat) : Prop :=
  ∀ m < n, (script m).IsQuiet limit

/-- How many native waits are cut short by a signal before the round with this number. -/
def interruptions (script : Nat → Round) (n : Nat) : Nat :=
  (List.range n).countP fun m => (script m).isInterrupted

/-- How many rounds without a signal there are before the round with this number. -/
def slices (script : Nat → Round) (n : Nat) : Nat :=
  (List.range n).countP fun m => !(script m).isInterrupted

/-- A round takes the time that it must. -/
structure Lasts (hook : Hook) (limit : Micros) (r : Round) : Prop where
  /-- The clock does not go back while it is looked at. -/
  begun_le : r.pending = false → r.begun ≤ r.elapsed
  /-- Nor does it during the native wait. -/
  elapsed_le : r.Asks limit → r.elapsed ≤ r.answered
  /-- Nor does it during the sleep. -/
  answered_le : r.Asks limit → r.answered ≤ r.ended
  /-- A native wait that finds nothing takes its slice at least. -/
  waited : r.Asks limit → r.answer = .ok 0 → r.elapsed + r.slice hook limit ≤ r.answered
  /-- The sleep after a failure takes a slice at least. -/
  slept : r.Asks limit → r.fails → r.answered + r.slice hook limit ≤ r.ended

/-- A round takes no more time than it may. -/
structure IsPunctual (hook : Hook) (limit : Micros) (r : Round) : Prop where
  /-- The looks at the stream and at the clock take no time. -/
  elapsed_eq : r.pending = false → r.elapsed = r.begun
  /-- The native wait takes its slice at most. -/
  answered_le : r.Asks limit → r.answered ≤ r.elapsed + r.slice hook limit
  /-- The sleep after a failure takes exactly a slice. -/
  ended_eq : r.Asks limit → r.fails → r.ended = r.answered + r.slice hook limit

/-- The time when a wait ends that ends with this round. -/
def quit (limit : Micros) (r : Round) : Micros :=
  if r.pending then r.begun else if r.elapsed < limit then r.answered else r.elapsed

variable {hook : Hook} {limit : Micros} {r : Round} {script : Nat → Round} {n : Nat}

theorem interruptions_succ : interruptions script (n + 1) =
    interruptions script n + if (script n).isInterrupted then 1 else 0 := by
  rw [interruptions, List.range_succ, List.countP_append, List.countP_singleton]
  rfl

theorem slices_succ : slices script (n + 1) =
    slices script n + if (script n).isInterrupted then 0 else 1 := by
  rw [slices, List.range_succ, List.countP_append, List.countP_singleton]
  cases (script n).isInterrupted <;> rfl

/-- A round is one with a signal or one without. -/
theorem slices_add_interruptions : slices script n + interruptions script n = n := by
  induction n with
  | zero => rfl
  | succ n ih =>
    rw [slices_succ, interruptions_succ]
    cases (script n).isInterrupted <;> simp <;> omega

/-- A round that goes on without a signal takes a slice. -/
theorem Lasts.slice_le (h : r.Lasts hook limit) (hq : r.IsQuiet limit)
    (hi : r.isInterrupted = false) : r.elapsed + r.slice hook limit ≤ r.ended := by
  obtain ⟨hasks, hready⟩ := hq
  cases ha : r.answer with
  | ok count =>
    rw [ready, ha] at hready
    obtain rfl : count = 0 := hready
    exact (h.waited hasks ha).trans (h.answered_le hasks)
  | error why =>
    have hfails : r.fails = true := by
      rw [isInterrupted, ha] at hi
      rw [fails, ha]
      simpa using hi
    exact (Nat.add_le_add_right (h.elapsed_le hasks) _).trans (h.slept hasks hfails)

/-- One slice more, or what is left until the limit, makes one slice more altogether. -/
theorem min_succ_mul_le {slices slice limit time later : Nat}
    (h : min (slices * slice) limit ≤ time) (hl : time + min slice (limit - time) ≤ later) :
    min ((slices + 1) * slice) limit ≤ later := by
  rw [Nat.succ_mul]
  omega

theorem Reached.mono (hn : Reached limit script n) {m : Nat} (h : m ≤ n) :
    Reached limit script m :=
  fun l hl => hn l (Nat.lt_of_lt_of_le hl h)

section Counting

variable (hs : Fits script) (hlast : ∀ n, Reached limit script n → (script n).Lasts hook limit)
include hs hlast

/-- After so many rounds without a signal the clock is past as many slices, or past the limit. -/
theorem Fits.min_slices_le_begun (hn : Reached limit script n) :
    min (slices script n * hook.slice) limit ≤ (script n).begun := by
  induction n with
  | zero => simp [slices, hs.begun_zero]
  | succ n ih =>
    have hbefore : Reached limit script n := hn.mono n.le_succ
    have hquiet : (script n).IsQuiet limit := hn n n.lt_succ_self
    have hlasts := hlast n hbefore
    have hlook := (ih hbefore).trans (hlasts.begun_le hquiet.1.1)
    rw [hs.begun_succ, slices_succ]
    cases hi : (script n).isInterrupted with
    | true =>
      -- the count stays as it is, and the clock does not go back
      exact hlook.trans ((hlasts.elapsed_le hquiet.1).trans (hlasts.answered_le hquiet.1))
    | false => exact min_succ_mul_le hlook (hlasts.slice_le hquiet hi)

/-- When a round comes to the native wait there is room for one more slice. -/
theorem Fits.slices_lt (hslice : 0 < hook.slice) (hn : Reached limit script n)
    (ha : (script n).Asks limit) : slices script n < limit ⌈/⌉ hook.slice := by
  have hbegun := hs.min_slices_le_begun hlast hn
  have hearly : (script n).begun < limit :=
    Nat.lt_of_le_of_lt ((hlast n hn).begun_le ha.1) ha.2
  refine Nat.lt_of_not_le fun hle => ?_
  rw [ceilDiv_le_iff_le_mul hslice, Nat.mul_comm] at hle
  rw [min_eq_right hle] at hbegun
  exact absurd hbegun (Nat.not_le.mpr hearly)

/-- Native waits that no signal cuts short are at most as many as there are slices. -/
theorem Fits.asked_le (hslice : 0 < hook.slice) (hn : Reached limit script n) :
    (if (script n).Asks limit then n + 1 else n) ≤
      limit ⌈/⌉ hook.slice + interruptions script n := by
  have hcount : slices script n + interruptions script n = n := slices_add_interruptions
  split
  · rename_i ha
    have hroom := hs.slices_lt hlast hslice hn ha
    omega
  · cases n with
    | zero => exact Nat.zero_le _
    | succ n =>
      have hroom := hs.slices_lt hlast hslice (hn.mono n.le_succ) (hn n n.lt_succ_self).1
      have hstep : slices script (n + 1) ≤ slices script n + 1 := by
        rw [slices_succ]
        split <;> omega
      omega

end Counting

section Timing

variable (hp : r.IsPunctual hook limit)
include hp

/-- The native wait of a punctual round is over by the limit. -/
theorem IsPunctual.answered_le_limit (ha : r.Asks limit) : r.answered ≤ limit := by
  calc r.answered
    _ ≤ r.elapsed + r.slice hook limit := hp.answered_le ha
    _ ≤ r.elapsed + (limit - r.elapsed) := Nat.add_le_add_left (Nat.min_le_right _ _) _
    _ = limit := Nat.add_sub_of_le (Nat.le_of_lt ha.2)

/-- The sleep of a punctual round is over a slice after the limit. -/
theorem IsPunctual.ended_le (ha : r.Asks limit) (hf : r.fails) :
    r.ended ≤ limit + min hook.slice limit := by
  rw [hp.ended_eq ha hf]
  refine Nat.add_le_add (hp.answered_le_limit ha) ?_
  exact min_le_min_left _ (Nat.sub_le _ _)

end Timing

section

variable (hs : Fits script)
  (hp : ∀ n, Reached limit script n → (script n).IsPunctual hook limit)
include hs hp

/-- Punctual rounds begin a slice after the limit at the latest, and by the limit if no native wait
has failed. -/
theorem Fits.begun_le (hn : Reached limit script n) :
    (script n).begun ≤ limit + min hook.slice limit ∧
      ((∀ m < n, ¬ (script m).fails) → (script n).begun ≤ limit) := by
  cases n with
  | zero => simp [hs.begun_zero]
  | succ n =>
    have hasks := (hn n n.lt_succ_self).1
    have hpunctual := hp n (hn.mono n.le_succ)
    have hanswered := hpunctual.answered_le_limit hasks
    rw [hs.begun_succ]
    by_cases hf : (script n).fails
    · exact ⟨hpunctual.ended_le hasks hf, fun hnone => absurd hf (hnone n n.lt_succ_self)⟩
    · rw [hs.ended_eq n hf]
      exact ⟨hanswered.trans (Nat.le_add_right _ _), fun _ => hanswered⟩

/-- A wait of punctual rounds ends a slice after the limit at the latest, and by the limit if no
native wait has failed. -/
theorem Fits.quit_le (hn : Reached limit script n) :
    (script n).quit limit ≤ limit + min hook.slice limit ∧
      ((∀ m < n, ¬ (script m).fails) → (script n).quit limit ≤ limit) := by
  have hbegun := hs.begun_le hp hn
  rw [quit]
  split
  · exact hbegun
  · rename_i hpending
    have hpending : (script n).pending = false := Bool.not_eq_true _ ▸ hpending
    split
    · rename_i hearly
      have hanswered := (hp n hn).answered_le_limit ⟨hpending, hearly⟩
      exact ⟨hanswered.trans (Nat.le_add_right _ _), fun _ => hanswered⟩
    · rw [(hp n hn).elapsed_eq hpending]
      exact hbegun

end

end Round

/-- The signal at the beginning is the only one of the script. -/
theorem Play.interruptions_restless {pending : Bool} :
    ∀ n, Round.interruptions (Play.restless pending) n ≤ 1
  | 0 | 1 | 2 | 3 => by decide +revert
  | n + 4 => by
    rw [Round.interruptions_succ]
    exact interruptions_restless (n + 3)

namespace Hook

variable {σ : Type} [Surroundings σ] {hook : Hook} {signaling : Option StreamId}
  {start limit : Micros} {w : World σ}

/-- The time when a wait ends is that of its last round. -/
theorem since_leave : since start (hook.leave signaling start limit w) =
    (hook.roundIn signaling start limit w).quit limit := by
  rw [leave, Round.quit, apply_ite (since start), apply_ite (since start)]
  rfl

/-- A wait for input that is given enough rounds ends after no more native waits than fill the time
limit with slices, apart from those that a signal cuts short: it suffices that a native wait that
finds nothing takes its slice, and so does the sleep after a failure. If besides no native wait
outlasts its slice and only waiting takes time, then the wait is over by the limit, or a slice later
if a native wait has failed. -/
theorem wait_keeps_within_limit (hook : Hook) (hslice : 0 < hook.slice) (w : World σ)
    (signaling : Option StreamId) {limit : Micros} (hl : 0 < limit) {sets : Interest}
    (hr : sets.read.isSome) {signals : Nat}
    (hlast : ∀ n, Round.Reached limit (hook.round signaling limit w) n →
      (hook.round signaling limit w n).Lasts hook limit)
    (hsignals : ∀ n, Round.Reached limit (hook.round signaling limit w) n →
      Round.interruptions (hook.round signaling limit w) n ≤ signals)
    {rounds : Nat} (hrounds : limit ⌈/⌉ hook.slice + signals < rounds) :
    ∃ out, hook.wait w signaling (some limit) sets rounds = some out ∧
      out.world.awaits.length ≤ w.awaits.length + (limit ⌈/⌉ hook.slice + signals) ∧
      ((∀ n, Round.Reached limit (hook.round signaling limit w) n →
          (hook.round signaling limit w n).IsPunctual hook limit) →
        Surroundings.clock out.world.scene ≤
          Surroundings.clock (looked w).scene + (limit + min hook.slice limit) ∧
        ((∀ n, Round.Reached limit (hook.round signaling limit w) n →
            (hook.round signaling limit w n).Asks limit →
            ¬ (hook.round signaling limit w n).fails) →
          Surroundings.clock out.world.scene ≤
            Surroundings.clock (looked w).scene + limit)) := by
  have hfits : Round.Fits (hook.round signaling limit w) := fits_round
  have hasked {n : Nat} (hn : Round.Reached limit (hook.round signaling limit w) n) :
      (if (hook.round signaling limit w n).Asks limit then n + 1 else n) ≤
        limit ⌈/⌉ hook.slice + signals :=
    (hfits.asked_le hlast hslice hn).trans (Nat.add_le_add_left (hsignals n hn) _)
  have hnot : ¬ ∀ m < rounds, (hook.round signaling limit w m).IsQuiet limit := by
    intro hquiet
    have hlate := hasked fun m hm => hquiet m (Nat.lt_trans hm hrounds)
    rw [if_pos (hquiet _ hrounds).1] at hlate
    exact Nat.not_succ_le_self _ hlate
  obtain ⟨n, hn, hreached, count, read, hend⟩ := Round.exists_first hnot
  refine ⟨_, (wait_eq_some_iff hl hr).mpr ⟨n, hn, hreached, count, read, hend, rfl⟩, ?_,
    fun hpunctual => ?_⟩
  · rw [awaits_leftAt, List.length_append, List.length_map, List.length_reverse,
      List.length_range, Nat.add_comm]
    exact Nat.add_le_add_left (hasked hreached) _
  · have hquit := hfits.quit_le hpunctual hreached
    have hsince : Surroundings.clock (hook.leftAt signaling limit w n).scene -
        Surroundings.clock (looked w).scene = (hook.round signaling limit w n).quit limit :=
      since_leave
    rw [← hsince] at hquit
    refine ⟨Nat.sub_le_iff_le_add'.mp hquit.1, fun hnone => ?_⟩
    refine Nat.sub_le_iff_le_add'.mp (hquit.2 fun m hm => ?_)
    exact hnone m (Round.Reached.mono hreached (Nat.le_of_lt hm)) (hreached m hm).1

/-- A wait for at most 50 microseconds in slices of 20, with one signal and with a failure of the
native wait right at the limit, ends after at most four native waits and after at most 70
microseconds. -/
theorem restless_wait_keeps_within_limit :
    let hook : Hook := ⟨3, 4, 20⟩
    let w := Play.stage (Play.restless false) ⟨⟨5060, 0, 0, 0⟩, .noFirewall⟩
    0 < hook.slice ∧ 0 < 50 ∧ (Interest.reading [3]).read.isSome ∧
      ∃ out, hook.wait w (some ⟨0, 0⟩) (some 50) (.reading [3]) 5 = some out ∧
        out.world.awaits.length ≤ 4 ∧ Surroundings.clock out.world.scene ≤ 70 := by
  intro hook w
  have hround : hook.round (some ⟨0, 0⟩) 50 w = Play.restless false :=
    funext (Play.round_stage (Play.fits_restless false) hook ⟨0, 0⟩ 50 _)
  have hlasts : ∀ n, (Play.restless false n).Lasts hook 50
    | 0 | 1 | 2 => by constructor <;> decide
    | _ + 3 => show (Play.restless false 3).Lasts hook 50 by constructor <;> decide
  have hpunctual : ∀ n, (Play.restless false n).IsPunctual hook 50
    | 0 | 1 | 2 => by constructor <;> decide
    | _ + 3 => show (Play.restless false 3).IsPunctual hook 50 by constructor <;> decide
  obtain ⟨out, hout, hawaits, htime⟩ := wait_keeps_within_limit hook (show 0 < 20 by decide) w
    (some ⟨0, 0⟩) (show 0 < 50 by decide) (show (Interest.reading [3]).read.isSome from rfl)
    (by rw [hround]; exact fun n _ => hlasts n)
    (by rw [hround]; exact fun n _ => Play.interruptions_restless n)
    (show 50 ⌈/⌉ 20 + 1 < 5 by decide)
  refine ⟨by decide, by decide, rfl, out, hout,
    hawaits.trans (show 0 + (50 ⌈/⌉ 20 + 1) ≤ 4 by decide), (htime ?_).1⟩
  rw [hround]
  exact fun n _ => hpunctual n

end Hook

end SipOverRelay
