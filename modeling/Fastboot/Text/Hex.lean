/-!
# Hexadecimal numbers

Reading and printing of numbers in base sixteen. `Text.hexDigit?` is the value of one digit of
either case, `Text.hexValue` the value of a run of digits, and `Text.hex width n` prints `n` in lower
case, filled with zeros on the left to at least `width` digits.
-/

namespace Fastboot.Text

/-- The value of a hexadecimal digit of either case. -/
def hexDigit? (c : Char) : Option Nat :=
  if '0' ≤ c ∧ c ≤ '9' then some (c.toNat - 48)
  else if 'a' ≤ c ∧ c ≤ 'f' then some (c.toNat - 87)
  else if 'A' ≤ c ∧ c ≤ 'F' then some (c.toNat - 55)
  else none

def isHexDigit (c : Char) : Bool :=
  (hexDigit? c).isSome

/-- The value of a run of hexadecimal digits, most significant first; other characters count as
zero. -/
def hexValue (ds : List Char) : Nat :=
  ds.foldl (fun n c => 16 * n + (hexDigit? c).getD 0) 0

/-- `n` in lower case hexadecimal, with zeros on the left up to `width` digits. -/
def hex (width n : Nat) : String :=
  let ds := Nat.toDigits 16 n
  String.ofList (List.replicate (width - ds.length) '0' ++ ds)

end Fastboot.Text
