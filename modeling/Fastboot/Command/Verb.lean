import Fastboot.Command.Lookup

/-!
# Verbs

A command starts with its verb. `Verb.table` is searched in order, so `flashing` stands before
`flash`, which it starts with.
-/

namespace Fastboot.Command

/-- What a command asks for. -/
inductive Verb where
  | reboot
  | getvar
  | download
  | upload
  | boot
  | continueBoot
  | setActive
  | flashing
  | flash
  | erase
  | oem
  deriving DecidableEq, Repr

/-- The literals that commands start with. -/
def Verb.table : List (String × Verb) :=
  [("reboot", .reboot),
   ("getvar:", .getvar),
   ("download:", .download),
   ("upload", .upload),
   ("boot", .boot),
   ("continue", .continueBoot),
   ("set_active", .setActive),
   ("flashing", .flashing),
   ("flash", .flash),
   ("erase", .erase),
   ("oem", .oem)]

/-- The verb of a command. -/
def Verb.ofCommand? (command : String) : Option Verb :=
  leading? table command

end Fastboot.Command
