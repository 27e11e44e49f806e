import SipOverRelay.Text.CodeRanges

/-!
# Characters that may be left out

Characters that a page shows as nothing at all when it has no use for them: joiners, selectors of a
variant, tags, and the fillers that stand for a missing part of a Hangul syllable. The fillers are
letters, so neither their category nor the way they join others would give them away. The table is
that of version 17 of the Unicode character database.
-/

namespace SipOverRelay.Text

/-- The code points that are ignorable by default, whether assigned or not. -/
def ignorableRanges : CodeRanges :=
  [(0xAD, 0xAD), (0x34F, 0x34F), (0x61C, 0x61C), (0x115F, 0x1160), (0x17B4, 0x17B5),
    (0x180B, 0x180F), (0x200B, 0x200F), (0x202A, 0x202E), (0x2060, 0x206F), (0x3164, 0x3164),
    (0xFE00, 0xFE0F), (0xFEFF, 0xFEFF), (0xFFA0, 0xFFA0), (0xFFF0, 0xFFF8), (0x1BCA0, 0x1BCA3),
    (0x1D173, 0x1D17A), (0xE0000, 0xE0FFF)]

/-- A character that may be left out where nothing uses it. -/
def isIgnorable (c : Char) : Bool := ignorableRanges.covers c.toNat

/-- The table is in order. -/
theorem isAscending_ignorableRanges : ignorableRanges.isAscending = true := by decide +kernel

/-- A character may be left out exactly if a range of the table holds its code point. -/
theorem isIgnorable_iff (c : Char) :
    isIgnorable c = true ↔ ∃ r ∈ ignorableRanges, r.1 ≤ c.toNat ∧ c.toNat ≤ r.2 :=
  CodeRanges.covers_iff isAscending_ignorableRanges c.toNat

end SipOverRelay.Text
