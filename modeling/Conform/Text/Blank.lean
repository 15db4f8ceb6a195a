/-
**Blank characters.**

A character is blank if it has the Unicode property `White_Space`: 25 characters in ten ranges.
Blanks are skipped before the numbers of dates and times, and a text of blanks alone counts as empty.

Main definitions:

* `Text.blankRanges`, `Text.isBlank` — the ranges and the test;
* `Text.isBlankText` — a text that holds nothing else.
-/

import Conform.Text.Ranges

set_option relaxedAutoImplicit false
set_option autoImplicit false

namespace Conform

namespace Text

/-- Closed ranges of code points, ascending and apart. -/
def blankRanges : Ranges :=
  [(0x09, 0x0D), (0x20, 0x20), (0x85, 0x85), (0xA0, 0xA0), (0x1680, 0x1680), (0x2000, 0x200A),
   (0x2028, 0x2029), (0x202F, 0x202F), (0x205F, 0x205F), (0x3000, 0x3000)]

/-- Has the character the property `White_Space`? -/
def isBlank (c : Char) : Bool := inRanges blankRanges c.toNat

/-- Does the text hold nothing but blanks? -/
def isBlankText (s : String) : Bool := s.toList.all isBlank

end Text

end Conform
