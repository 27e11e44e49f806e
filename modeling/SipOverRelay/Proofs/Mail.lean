import Mathlib.Data.List.Infix
import SipOverRelay.Proofs.Unfolding

/-!
# The order of the mail

All that was ever posted to a tunnel is in three places: handled, taken out of the mailbox and still
to be handled, or waiting. In this order it is the list of letters, so every event that is handled
has its letter, and what is read off the letters of the handled events is a history of what was said
to the tunnel and by whom.
-/

namespace SipOverRelay.World

variable {σ α : Type}

/-- The events that were handled, newest first. -/
def handled (w : World σ) : List Posted := w.notices.filterMap Notice.handled?

/-- What is read off the letter of an event. -/
def reading (w : World σ) (f : Letter → Option α) (posted : Posted) : Option α :=
  (w.letters[posted.seq]?).bind f

/-- What is read off the letters of the handled events, newest first. -/
def readings (w : World σ) (f : Letter → Option α) : List α := w.handled.filterMap (w.reading f)

/-- Everything posted is gone or waits, in this order and under the numbers from zero on. -/
structure Numbered (gone : List Posted) (w : World σ) : Prop where
  /-- The mailbox counts what was posted. -/
  next : w.mailbox.next = w.letters.length
  /-- Nothing is lost, repeated or out of order. -/
  order : gone ++ w.mailbox.waiting = w.letters.mapIdx fun seq letter => ⟨seq, letter.event⟩

/-- Everything posted has been handled, is being handled, or waits, in this order and under the
numbers from zero on. -/
structure Filed (batch : List Posted) (w : World σ) : Prop where
  /-- The mailbox counts what was posted. -/
  next : w.mailbox.next = w.letters.length
  /-- Nothing is lost, repeated or out of order. -/
  order : w.handled.reverse ++ batch ++ w.mailbox.waiting =
    w.letters.mapIdx fun seq letter => ⟨seq, letter.event⟩

@[simp] theorem handled_post (w : World σ) (sender : Sender) (event : Event) :
    (w.post sender event).handled = w.handled := rfl

/-- Only the notice that an event is being handled counts it among the handled ones. -/
theorem handled_note (w : World σ) {notice : Notice} (h : notice.handled? = none) :
    (w.note notice).handled = w.handled :=
  List.filterMap_cons_none h

@[simp] theorem handled_note_handling (w : World σ) (posted : Posted) :
    (w.note (.handling posted)).handled = posted :: w.handled := rfl

/-- A report is not handled before the next tick. -/
@[simp] theorem handled_deliver (w : World σ) (report : Report) :
    (w.deliver report).handled = w.handled := by
  rw [handled, (w.deliver_frame report).2.2.2, handled]

/-- A post adds its letter. -/
theorem mem_letters_post {w : World σ} {sender : Sender} {event : Event} {letter : Letter} :
    letter ∈ (w.post sender event).letters ↔ letter ∈ w.letters ∨ letter = ⟨sender, event⟩ := by
  rw [post, List.mem_append, List.mem_singleton]

/-- What a post adds is read after all that was there before. -/
theorem filterMap_letters_post (w : World σ) (sender : Sender) (event : Event)
    (f : Letter → Option α) : (w.post sender event).letters.filterMap f =
      w.letters.filterMap f ++ (f ⟨sender, event⟩).toList := by
  rw [post, List.filterMap_append, List.filterMap_cons]
  cases f ⟨sender, event⟩ with
  | none => rfl
  | some a => rfl

/-- Letters are only added. -/
theorem letters_prefix_deliver (w : World σ) (report : Report) :
    w.letters <+: (w.deliver report).letters := by
  rcases w.deliver_cases report with h | ⟨_, _, _, _, h⟩ | ⟨_, _, _, _, _, h⟩
  · rw [h]
  · rw [h]
    exact List.prefix_append _ _
  · rw [h]
    exact List.prefix_append _ _

/-- Other notices are no readings. -/
theorem readings_note (w : World σ) {notice : Notice} (h : notice.handled? = none)
    (f : Letter → Option α) : (w.note notice).readings f = w.readings f := by
  rw [readings, handled_note _ h]
  rfl

/-- The event that is being handled is read after all others. -/
theorem readings_note_handling (w : World σ) (f : Letter → Option α) (posted : Posted) :
    (w.note (.handling posted)).readings f = (w.reading f posted).toList ++ w.readings f := by
  rw [readings, handled_note_handling]
  change List.filterMap (w.reading f) (posted :: w.handled) = _
  rw [List.filterMap_cons]
  cases w.reading f posted with
  | none => rfl
  | some a => rfl

namespace Numbered

variable {gone : List Posted} {w v : World σ}

/-- Whatever leaves mailbox and letters alone keeps the numbers. -/
theorem congr (h : Numbered gone w) (hm : v.mailbox = w.mailbox) (hl : v.letters = w.letters) :
    Numbered gone v where
  next := by rw [hm, hl, h.next]
  order := by rw [hm, hl, h.order]

/-- Posting keeps the numbers. -/
theorem post (h : Numbered gone w) (sender : Sender) (event : Event) :
    Numbered gone (w.post sender event) where
  next := by simp [World.post, h.next]
  order := by
    have ho := congrArg (· ++ [Posted.mk w.letters.length event]) h.order
    rw [World.post, List.mapIdx_concat, ← ho, ← h.next]
    simp

/-- A report keeps the numbers. -/
theorem deliver (h : Numbered gone w) (report : Report) : Numbered gone (w.deliver report) := by
  rcases w.deliver_cases report with he | ⟨_, _, _, _, he⟩ | ⟨probe, _, _, _, _, he⟩
  · rw [he]
    exact h
  · rw [he]
    exact h.post _ _
  · have hr : Numbered gone { w with reported := probe :: w.reported } := h.congr rfl rfl
    rw [he]
    exact hr.post _ _

/-- What waits is gone once it has been taken out. -/
theorem take (h : Numbered gone w) :
    Numbered (gone ++ w.mailbox.waiting) { w with mailbox := w.mailbox.cleared } where
  next := h.next
  order := by
    rw [Mailbox.waiting_cleared, List.append_nil]
    exact h.order

end Numbered

namespace Filed

variable {posted : Posted} {batch : List Posted} {w v : World σ}

/-- What is not waiting any more has been handled or is being handled. -/
theorem numbered (h : Filed batch w) : Numbered (w.handled.reverse ++ batch) w :=
  ⟨h.next, h.order⟩

/-- If what is gone has been handled or is being handled, the order of the mail is kept. -/
theorem of_numbered (h : Numbered (w.handled.reverse ++ batch) w) : Filed batch w :=
  ⟨h.next, h.order⟩

/-- In the beginning there is no mail. -/
theorem empty (hn : w.notices = []) (hm : w.mailbox = {}) (hl : w.letters = []) :
    Filed [] w where
  next := by rw [hm, hl]; rfl
  order := by rw [handled, hn, hm, hl]; rfl

/-- Other notices keep the order. -/
theorem note (h : Filed batch w) {notice : Notice} (hn : notice.handled? = none) :
    Filed batch (w.note notice) where
  next := h.next
  order := by
    rw [handled_note _ hn]
    exact h.order

/-- Posting keeps the order. -/
theorem post (h : Filed batch w) (sender : Sender) (event : Event) :
    Filed batch (w.post sender event) :=
  .of_numbered (h.numbered.post sender event)

/-- A report keeps the order. -/
theorem deliver (h : Filed batch w) (report : Report) : Filed batch (w.deliver report) := by
  have hn := h.numbered.deliver report
  rw [← handled_deliver w report] at hn
  exact .of_numbered hn

/-- The beginning of a tick moves what waits into the batch. -/
theorem take (h : Filed [] w) :
    Filed w.mailbox.waiting { w with mailbox := w.mailbox.cleared } := by
  have hn := h.numbered.take
  rw [List.append_nil] at hn
  exact .of_numbered hn

/-- An event that is handled leaves the batch. -/
theorem handle (h : Filed (posted :: batch) w) :
    Filed batch (w.note (.handling posted)) where
  next := h.next
  order := by
    have ho := h.order
    rw [handled_note_handling, List.reverse_cons, List.append_assoc _ [posted]]
    exact ho

/-- Whatever was posted has its letter. -/
theorem letter_of_mem (h : Filed batch w)
    (hp : posted ∈ w.handled.reverse ++ batch ++ w.mailbox.waiting) :
    ∃ letter, w.letters[posted.seq]? = some letter ∧ letter.event = posted.event := by
  rw [h.order] at hp
  obtain ⟨i, hi, he⟩ := List.mem_mapIdx.mp hp
  refine ⟨w.letters[i], ?_, ?_⟩
  · rw [← he]
    exact List.getElem?_eq_getElem hi
  · rw [← he]

/-- Whatever was handled has its letter. -/
theorem letter_of_handled (h : Filed batch w) (hp : posted ∈ w.handled) :
    ∃ letter, w.letters[posted.seq]? = some letter ∧ letter.event = posted.event :=
  h.letter_of_mem (by simp [hp])

/-- What is to be handled next has its letter. -/
theorem letter_of_head (h : Filed (posted :: batch) w) :
    ∃ letter, w.letters[posted.seq]? = some letter ∧ letter.event = posted.event :=
  h.letter_of_mem (by simp)

/-- What is to be handled next was posted right after what has been handled. -/
theorem seq_of_head (h : Filed (posted :: batch) w) : posted.seq = w.handled.length := by
  have ho := congrArg (·[w.handled.length]?) h.order
  have hl : w.handled.reverse.length ≤ w.handled.length := Nat.le_of_eq List.length_reverse
  simp only [List.append_assoc, List.cons_append, List.getElem?_append_right hl,
    List.length_reverse, Nat.sub_self, List.getElem?_cons_zero, List.getElem?_mapIdx] at ho
  obtain ⟨_, _, hp⟩ := Option.map_eq_some_iff.mp ho.symm
  rw [← hp]

/-- What is read off the letters of all events, in the order of the mail, is what is read off all
letters. -/
theorem readings_append (h : Filed batch w) (f : Letter → Option α) :
    (w.readings f).reverse ++ (batch ++ w.mailbox.waiting).filterMap (w.reading f) =
      w.letters.filterMap f := by
  have hs : (w.letters.mapIdx fun seq letter => Posted.mk seq letter.event).map
      (fun posted => w.letters[posted.seq]?) = w.letters.map some := by
    apply List.ext_getElem?
    intro i
    rw [List.getElem?_map, List.getElem?_mapIdx, List.getElem?_map]
    cases hi : w.letters[i]? with
    | none => rfl
    | some letter => simp [hi]
  have hr : w.reading f = (fun letter : Option Letter => letter.bind f) ∘
      fun posted : Posted => w.letters[posted.seq]? := rfl
  rw [readings, ← List.filterMap_reverse, ← List.filterMap_append, ← List.append_assoc, h.order, hr,
    ← List.filterMap_map, hs, List.filterMap_map]
  rfl

/-- What was read stays, since letters are only added. -/
theorem readings_of_prefix (h : Filed batch w) (hh : v.handled = w.handled)
    (hp : w.letters <+: v.letters) (f : Letter → Option α) : v.readings f = w.readings f := by
  rw [readings, readings, hh]
  refine List.filterMap_congr fun posted hm => ?_
  obtain ⟨letter, hl, _⟩ := h.letter_of_handled hm
  obtain ⟨more, hm⟩ := hp
  rw [reading, reading, ← hm, List.getElem?_append_left (List.getElem?_eq_some_iff.mp hl).1]

/-- What is posted has not been read yet. -/
theorem readings_post (h : Filed batch w) (sender : Sender) (event : Event)
    (f : Letter → Option α) : (w.post sender event).readings f = w.readings f :=
  h.readings_of_prefix (w.handled_post sender event) (List.prefix_append _ _) f

end Filed

variable [Surroundings σ]

namespace Unfolds

variable {aspects : List Aspect} {w v : World σ}

/-- The tunnel handles no event by the way. -/
theorem handled_eq (h : w.Unfolds aspects v) : v.handled = w.handled := by
  induction h with
  | refl => rfl
  | perform _ call _ ih =>
    rw [← ih, handled, notices_perform]
    rfl
  | note _ notice hn ih => rw [handled_note _ hn, ih]
  | answer _ run index _ ih => exact ih

/-- Letters are only added. -/
theorem letters_prefix (h : w.Unfolds aspects v) : w.letters <+: v.letters := by
  induction h with
  | refl => exact List.prefix_rfl
  | @perform v _ call _ ih =>
    have hd := fun (u : World σ) report (hu : w.letters <+: u.letters) =>
      hu.trans (u.letters_prefix_deliver report)
    have he : w.letters <+: (v.entered call).letters := ih
    exact perform_induction hd he
  | note _ _ _ ih => exact ih
  | answer _ run index _ ih => exact ih.trans (List.prefix_append _ _)

end Unfolds

/-- Whatever the tunnel does keeps the numbers. -/
theorem Numbered.unfolds {aspects : List Aspect} {gone : List Posted} {w v : World σ}
    (h : Numbered gone w) (hu : w.Unfolds aspects v) : Numbered gone v := by
  induction hu with
  | refl => exact h
  | perform _ call _ ih =>
    exact perform_induction (fun _ report hv => hv.deliver report) (ih.congr rfl rfl)
  | note _ notice _ ih => exact ih.congr rfl rfl
  | answer _ run index _ ih => exact ih.post _ _

/-- Whatever the tunnel does keeps the order. -/
theorem Filed.unfolds {aspects : List Aspect} {batch : List Posted} {w v : World σ}
    (h : Filed batch w) (hu : w.Unfolds aspects v) : Filed batch v := by
  have hn := h.numbered.unfolds hu
  rw [← hu.handled_eq] at hn
  exact .of_numbered hn

end SipOverRelay.World
