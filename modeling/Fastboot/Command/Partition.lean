import Fastboot.Command.Argument

/-!
# Partitions and their lock

`flash:` and `erase:` work on the storage, `flashing` on the lock that protects it. The lock is asked
before anything else about a `flash:` is looked at, and `erase:` does not ask it.
-/

namespace Fastboot.Command

/-- The storage of a board that has one to write to. -/
def flashOf (b : Board) : Except Fault Storage :=
  require b.flash? (.unavailable "no flash device defined")

/-- Refuse if there is a lock, and it is locked or cannot be read. -/
def requireUnlocked (b : Board) : Except Fault Unit :=
  match b.lock with
  | none => .ok ()
  | some lock =>
    match lock.flashState with
    | .ok .unlocked => .ok ()
    | .ok .locked => .error (.refused "The device is locked, can not flash!")
    | .error e => .error (.ofBoardError e)

/-- Write the data of the last download to a partition. -/
def flash (command : String) (t : Target) : Except Fault (Reply × Target) := do
  requireUnlocked t.board
  let name ← argument command "missing partition name"
  let storage ← flashOf t.board
  let image ← t.downloaded
  let storage ← byBoard (storage.write name image)
  return (.okay, { t with board := { t.board with storage := some storage } })

/-- Erase a partition. -/
def erase (command : String) (t : Target) : Except Fault (Reply × Target) := do
  let name ← argument command "missing partition name"
  let storage ← flashOf t.board
  let storage ← byBoard (storage.erase name)
  return (.okay, { t with board := { t.board with storage := some storage } })

/-- What `flashing` can be asked to do. -/
inductive LockRequest where
  | lock
  | unlock
  | lockCritical
  | unlockCritical
  | getUnlockAbility
  | getUnlockBootloaderNonce
  | unlockBootloader
  | lockBootloader
  deriving DecidableEq, Repr

def LockRequest.table : List (String × LockRequest) :=
  [("lock", .lock),
   ("unlock", .unlock),
   ("lock_critical", .lockCritical),
   ("unlock_critical", .unlockCritical),
   ("get_unlock_ability", .getUnlockAbility),
   ("get_unlock_bootloader_nonce", .getUnlockBootloaderNonce),
   ("unlock_bootloader", .unlockBootloader),
   ("lock_bootloader", .lockBootloader)]

/-- The state of the lock that a request asks for, if this device knows the request. -/
def LockRequest.state? : LockRequest → Option FlashLock
  | lock => some .locked
  | unlock => some .unlocked
  | _ => none

/-- Lock or unlock the storage. -/
def flashing (command : String) (t : Target) : Except Fault (Reply × Target) := do
  let request ← subcommand LockRequest.table "flashing" command "unknown flashing command"
  let state ← require request.state? .unsupported
  let lock ← require t.board.lock .unsupported
  return (.okay, { t with board := { t.board with lock := some (lock.setFlash state) } })

end Fastboot.Command
