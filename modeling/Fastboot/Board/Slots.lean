import Fastboot.Fault

/-!
# Slots

The copies of the system that a board can boot, named by one letter each, and which one is active.
-/

namespace Fastboot

/-- The slots of a board, one of which may be active. -/
structure Slots where
  suffixes : List Char := ['a', 'b']
  active : Option Char := some 'a'
  deriving DecidableEq, Repr

namespace Slots

def current (s : Slots) : Except BoardError Char :=
  match s.active with
  | some slot => .ok slot
  | none => .error (.failed "no active slot")

/-- Make a slot of the board the active one. -/
def setActive (s : Slots) (slot : Char) : Except BoardError Slots :=
  if slot ∈ s.suffixes then .ok { s with active := some slot } else .error (.failed "no such slot")

/-- The slot that a name stands for: a single letter that is one of the suffixes. -/
def named? (s : Slots) (name : String) : Option Char :=
  match name.toList with
  | [slot] => if slot ∈ s.suffixes then some slot else none
  | _ => none

end Slots

end Fastboot
