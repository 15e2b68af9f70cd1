import Fastboot.Transfer

/-!
# Events

What an observer of a device is told, in order: the commands received, the answers queued, the
changes of mode and the progress of the data phases.
-/

namespace Fastboot

/-- The direction of a data phase, as the host sees it. -/
inductive Direction where
  | download
  | upload
  deriving DecidableEq, Repr

def Direction.name : Direction → String
  | download => "download"
  | upload => "upload"

/-- One thing that an observer is told. -/
inductive Event where
  /-- A command is about to be carried out. -/
  | command (text : String)
  /-- A status frame has been queued. -/
  | response (text : String)
  | mode (old new : Mode)
  | progress (direction : Direction) (current total : Nat)
  | mark (lineBreak : Bool)
  | finished (direction : Direction) (bytes : Nat)
  /-- An action that ends the session is about to run. -/
  | exit (action : Exit)
  deriving DecidableEq, Repr

end Fastboot
