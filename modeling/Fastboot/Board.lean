import Fastboot.Board.Attestation
import Fastboot.Board.Lock
import Fastboot.Board.Platform
import Fastboot.Board.Slots
import Fastboot.Board.Storage

/-!
# The board

The parts that commands work on. Only the platform is always there; each of the others may be
missing, and a command that needs it then fails.

`Board.partitionTable?` and `Board.flash?` are the storage in its two roles: as a table to look
partitions up in, and as a device to write. A storage may have one without the other. Both roles are of
one storage: a board whose partition table stands apart from the device that is written, with partitions of
its own, is not described here.
-/

namespace Fastboot

/-- The parts of a board. -/
structure Board where
  platform : Platform := {}
  /-- Values by name. -/
  environment : Option (Table String String) := none
  /-- The partition table and the device that holds the partitions, in one. -/
  storage : Option Storage := none
  slots : Option Slots := none
  lock : Option Lock := none
  attestation : Option Attestation := none

namespace Board

def partitionTable? (b : Board) : Option Storage :=
  b.storage.filter (·.listed)

def flash? (b : Board) : Option Storage :=
  b.storage.filter (·.writable)

/-- A value of the environment, if there is one. -/
def env? (b : Board) (name : String) : Option String :=
  b.environment.bind (·.get? name)

/-! ### Faults and changes from outside -/

def setVariable (b : Board) (name value : String) : Board :=
  { b with environment := b.environment.map (·.insert name value) }

/-- From now on every write to the storage fails. -/
def failWrites (b : Board) (message : String) : Board :=
  { b with storage := b.storage.map ({ · with failWrites := some message }) }

/-- From now on the state of the locks cannot be read. -/
def failLockReads (b : Board) : Board :=
  { b with lock := b.lock.map ({ · with readsFail := true }) }

def failRebootFlag (b : Board) : Board :=
  { b with platform := { b.platform with rebootFlagFails := true } }

def failBoot (b : Board) : Board :=
  { b with platform := { b.platform with bootFails := true } }

end Board

end Fastboot
