import Mathlib.Data.Nat.Notation

/-!
# Characters of ASCII

Byte formats separate and quote their parts by single bytes, and compare letters of either case.
These are the bytes by name, for formats that work on byte strings and never on characters.

`lowerByte` is the conversion of the C locale: it moves the letters `A` to `Z` and leaves every
other byte alone, whatever it may mean in a larger character set.
-/

namespace TboxSec.Ascii

/-- The end of a line. -/
def newline : UInt8 := 0x0A

/-- The return of the carriage, which some writers put before the end of a line. -/
def carriageReturn : UInt8 := 0x0D

/-- The dash. -/
def dash : UInt8 := 0x2D

/-- The slash, between the components of a path. -/
def slash : UInt8 := 0x2F

/-- A byte in lower case. Only the letters `A` to `Z` change. -/
def lowerByte (b : UInt8) : UInt8 := if 0x41 ≤ b ∧ b ≤ 0x5A then b + 0x20 else b

end TboxSec.Ascii
