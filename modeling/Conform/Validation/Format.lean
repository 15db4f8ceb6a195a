/-
**Formats.**

A format is a pattern that a text has to match from its beginning; the text may go on behind the
match.  For that the pattern's text is put into a group behind an assertion of the beginning, and the
whole is read as one pattern.

Main definitions:

* `Format`, `Format.compile` — a format and how it comes from the text of a pattern;
* `Format.admits` — does a text match?
* `Format.email`, `Format.uuid` — the built-in formats.
-/

import Conform.Fault
import Conform.Pattern.Reader

set_option relaxedAutoImplicit false
set_option autoImplicit false

namespace Conform

/-- A pattern for the beginning of texts. -/
structure Format where
  /-- the pattern as written -/
  text : String
  /-- the pattern, held to the beginning -/
  pattern : Pattern
deriving DecidableEq

namespace Format

/-- The text of a pattern within a group that begins where the text begins. -/
def anchored (text : String) : String := "\\A(?:" ++ text ++ ")"

/-- The format of a pattern's text. -/
def read (text : String) : Except PatternFault Format :=
  (Pattern.read (anchored text)).map fun pattern => ⟨text, pattern⟩

/-- The format of a pattern's text; a text that is no pattern makes the definition invalid. -/
def compile (text : String) : Except Fault Format :=
  (read text).mapError fun fault =>
    Fault.invalidDefinition ("invalid pattern '" ++ text ++ "': " ++ fault.message)

/-- Does the text match from its beginning? -/
def admits (format : Format) (text : String) : Bool := format.pattern.found text

/-- The format of a text that is known to be a pattern. -/
def known (text : String) : Format := ⟨text, (Pattern.read (anchored text)).toOption.getD .empty⟩

/-- Something, an at sign, and something with at least four more characters behind it. -/
def email : Format := known ".+@[^@]+.[^@]\x7b2,\x7d$"

/-- Groups of 8, 4, 4, 4 and 12 hexadecimal digits, between two of which a hyphen may stand. -/
def uuid : Format :=
  known ("^[a-fA-F0-9]\x7b8\x7d-?[a-fA-F0-9]\x7b4\x7d-?[a-fA-F0-9]\x7b4\x7d-?" ++
    "[a-fA-F0-9]\x7b4\x7d-?[a-fA-F0-9]\x7b12\x7d$")

end Format

end Conform
