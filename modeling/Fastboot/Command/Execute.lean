import Fastboot.Command.Partition
import Fastboot.Command.Payload
import Fastboot.Command.Variable
import Fastboot.Command.Vendor
import Fastboot.Command.Verb

/-!
# Carrying out a command

`execute` runs the command of a verb on a target. `dispatch` finds the verb first, and answers a
command that has none.

The commands that end the session only acknowledge here. What they ask for runs when the
acknowledgement has left the device.
-/

namespace Fastboot.Command

/-- Ask for a reset; `reboot-bootloader` also makes the next boot stop in the bootloader. -/
def reboot (command : String) (t : Target) : Except Fault (Reply × Target) :=
  if command = "reboot-bootloader" then
    match t.board.platform.setRebootFlag with
    | .ok platform => .ok (.exit .reset, { t with board := { t.board with platform } })
    | .error _ => .error (.boardFailure "Cannot set reboot flag")
  else .ok (.exit .reset, t)

/-- Make a slot the active one. -/
def setActive (command : String) (t : Target) : Except Fault (Reply × Target) := do
  let name ← argument command "missing slot name"
  let slots ← require t.board.slots .unsupported
  let slot ← require (slots.named? name) (.malformed "unknown slot name")
  let slots ← byBoard (slots.setActive slot)
  return (.okay, { t with board := { t.board with slots := some slots } })

/-- Run a command: its reply or its fault, and the target afterwards. -/
def execute (verb : Verb) (command : String) (t : Target) : Except Fault Reply × Target :=
  match verb with
  | .reboot => t.attempt (reboot command)
  | .getvar => t.attempt (getvar command)
  | .download => download command t
  | .upload => t.attempt upload
  | .boot => (.ok (.exit .boot), t)
  | .continueBoot => (.ok (.exit .detach), t)
  | .setActive => t.attempt (setActive command)
  | .flashing => t.attempt (flashing command)
  | .flash => t.attempt (flash command)
  | .erase => t.attempt (erase command)
  | .oem => t.attempt (oem command)

/-- The reply to an outcome: a fault is answered by its message. -/
def replyOf : Except Fault Reply → Reply
  | .ok reply => reply
  | .error fault => .ofFault fault

/-- Run a command given by its text alone. -/
def dispatch (command : String) (t : Target) : Reply × Target :=
  match Verb.ofCommand? command with
  | some verb =>
    let (outcome, t) := execute verb command t
    (replyOf outcome, t)
  | none => (.ofFault .unknownCommand, t)

end Fastboot.Command
