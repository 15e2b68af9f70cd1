import Fastboot.Text.Blank
import Fastboot.Text.Hex

/-!
# Sizes as hosts send them

`parseSize?` reads a size in hexadecimal: blanks, then `0x` or `0X` or nothing, then digits of either
case, then anything. No digits at all read as zero. The only size it refuses is one that does not fit
in 64 bits, whatever the number of its digits.
-/

namespace Fastboot.Command

open Text

/-- A text without the mark of a hexadecimal number in front. -/
def dropHexMark : List Char → List Char
  | '0' :: 'x' :: cs => cs
  | '0' :: 'X' :: cs => cs
  | cs => cs

/-- The digits of the size that a text starts with. -/
def sizeDigits (t : String) : List Char :=
  (dropHexMark (t.toList.dropWhile isBlank)).takeWhile isHexDigit

/-- The size that a text starts with, if it is less than `2 ^ 64`: that takes sixteen digits at most,
not counting the zeros in front. -/
def parseSize? (t : String) : Option Nat :=
  let ds := (sizeDigits t).dropWhile (· == '0')
  if ds.length ≤ 16 then some (hexValue ds) else none

end Fastboot.Command
