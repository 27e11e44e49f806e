/-!
# Ranges of code points

Properties of characters are kept as tables of closed ranges, ascending and apart from each other.
Looking a code point up stops at the first range that begins behind it; in an ascending table that
gives the same answer as looking at every range.
-/

namespace SipOverRelay.Text

/-- Closed ranges of code points, each given by its first and its last one. -/
abbrev CodeRanges := List (Nat × Nat)

namespace CodeRanges

/-- Every range is proper, and between two neighbours at least one code point is left out. -/
def isAscending : CodeRanges → Bool
  | [] => true
  | [(first, last)] => first ≤ last
  | (first, last) :: next :: rest =>
    first ≤ last && last + 1 < next.1 && isAscending (next :: rest)

/-- Whether a code point is in one of the ranges, for an ascending table. -/
def covers : CodeRanges → Nat → Bool
  | [], _ => false
  | (first, last) :: rest, n => first ≤ n && (n ≤ last || covers rest n)

/-- What is left of an ascending table without its first range is ascending. -/
theorem isAscending_tail {range : Nat × Nat} {rest : CodeRanges}
    (h : isAscending (range :: rest) = true) : isAscending rest = true := by
  cases rest with
  | nil => rfl
  | cons next rest =>
    simp only [isAscending, Bool.and_eq_true] at h
    exact h.2

/-- In an ascending table every later range begins behind the first one. -/
theorem lt_first_of_mem {range : Nat × Nat} {rest : CodeRanges}
    (h : isAscending (range :: rest) = true) : ∀ r ∈ rest, range.2 < r.1 := by
  induction rest generalizing range with
  | nil => simp
  | cons next rest ih =>
    have hnext := isAscending_tail h
    simp only [isAscending, Bool.and_eq_true, decide_eq_true_eq] at h
    intro r hr
    have hproper : next.1 ≤ next.2 := by
      cases rest <;> simp only [isAscending, Bool.and_eq_true, decide_eq_true_eq] at hnext
      · exact hnext
      · exact hnext.1.1
    rcases List.mem_cons.1 hr with rfl | hr
    · omega
    · have := ih hnext r hr
      omega

/-- Looking up in an ascending table finds a code point exactly if some range holds it. -/
theorem covers_iff {ranges : CodeRanges} (h : isAscending ranges = true) (n : Nat) :
    covers ranges n = true ↔ ∃ r ∈ ranges, r.1 ≤ n ∧ n ≤ r.2 := by
  induction ranges with
  | nil => simp [covers]
  | cons range rest ih =>
    have hlater := lt_first_of_mem h
    have hrest := ih (isAscending_tail h)
    have hproper : range.1 ≤ range.2 := by
      cases rest <;> simp only [isAscending, Bool.and_eq_true, decide_eq_true_eq] at h
      · exact h
      · exact h.1.1
    simp only [covers, Bool.and_eq_true, Bool.or_eq_true, decide_eq_true_eq, hrest,
      List.mem_cons, exists_eq_or_imp]
    constructor
    · rintro ⟨hfirst, hlast | hmem⟩
      · exact Or.inl ⟨hfirst, hlast⟩
      · exact Or.inr hmem
    · rintro (⟨hfirst, hlast⟩ | ⟨r, hr, hfirst, hlast⟩)
      · exact ⟨hfirst, Or.inl hlast⟩
      · have := hlater r hr
        exact ⟨by omega, Or.inr ⟨r, hr, hfirst, hlast⟩⟩

end CodeRanges

end SipOverRelay.Text
