import Fastboot.Fault

/-!
# The platform

The part of a board that resets it, boots it and takes it off the bus. A `Platform` keeps the list of
what it was asked to do. On a board the actions that end a session do not come back; here they are
entries of the list.
-/

namespace Fastboot

/-- One thing that a platform did. -/
inductive PlatformAction where
  | setRebootFlag
  | reset
  /-- A boot was tried, with an image of this many bytes. -/
  | boot (imageSize : Nat)
  | detach
  deriving DecidableEq, Repr

/-- What a platform did, the oldest first, and what it cannot do. -/
structure Platform where
  actions : List PlatformAction := []
  /-- Whether the next boot can be told to stop in the bootloader at all. -/
  hasRebootFlag : Bool := true
  rebootFlagFails : Bool := false
  bootFails : Bool := false
  deriving DecidableEq, Repr

namespace Platform

private def record (p : Platform) (a : PlatformAction) : Platform :=
  { p with actions := p.actions ++ [a] }

/-- Make the next boot stop in the bootloader. -/
def setRebootFlag (p : Platform) : Except BoardError Platform :=
  if !p.hasRebootFlag then .error .unsupported
  else if p.rebootFlagFails then .error (.failed "misc partition unavailable")
  else .ok (p.record .setRebootFlag)

def reset (p : Platform) : Platform :=
  p.record .reset

/-- Boot an image. An attempt that fails is an attempt all the same. -/
def boot (p : Platform) (image : ByteArray) : Except BoardError Unit × Platform :=
  (if p.bootFails then .error (.failed "bad kernel image") else .ok (), p.record (.boot image.size))

def detach (p : Platform) : Platform :=
  p.record .detach

/-- What the platform was asked to do that ends a session. -/
def exits (p : Platform) : List PlatformAction :=
  p.actions.filter (· ≠ .setRebootFlag)

@[simp]
theorem exits_reset (p : Platform) : p.reset.exits = p.exits ++ [.reset] := by
  simp [exits, reset, record]

@[simp]
theorem exits_boot (p : Platform) (image : ByteArray) :
    (p.boot image).2.exits = p.exits ++ [.boot image.size] := by
  simp [exits, boot, record]

@[simp]
theorem exits_detach (p : Platform) : p.detach.exits = p.exits ++ [.detach] := by
  simp [exits, detach, record]

/-- The reboot flag ends no session. -/
theorem exits_of_setRebootFlag {p p' : Platform} (h : p.setRebootFlag = .ok p') :
    p'.exits = p.exits := by
  unfold setRebootFlag at h
  split at h
  · cases h
  split at h <;> cases h
  simp [exits, record]

end Platform

end Fastboot
