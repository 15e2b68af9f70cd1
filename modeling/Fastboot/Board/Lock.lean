import Fastboot.Fault

/-!
# Locks and fuses

Whether the storage may be written, whether verified boot is enforced, and what has been burnt in for
it: the permanent attributes with their digest, and the digest of the key.
-/

namespace Fastboot

/-- Whether the storage may be written. -/
inductive FlashLock where
  | locked
  | unlocked
  deriving DecidableEq, Repr

/-- Whether verified boot is enforced. -/
inductive BootLock where
  | locked
  | unlocked
  /-- Locked, and not to be unlocked again. -/
  | unlockDisabled
  deriving DecidableEq, Repr

/-- Both locks and all fuses. A fuse that was not burnt is `none`. -/
structure Lock where
  flash : FlashLock := .unlocked
  boot : BootLock := .unlocked
  attributes : Option ByteArray := none
  attributeHash : Option ByteArray := none
  provisioned : Bool := false
  keyHash : Option ByteArray := none
  /-- Whether the state of the locks cannot be read. -/
  readsFail : Bool := false

namespace Lock

def flashState (l : Lock) : Except BoardError FlashLock :=
  if l.readsFail then .error (.failed "lock state unreadable") else .ok l.flash

def bootState (l : Lock) : Except BoardError BootLock :=
  if l.readsFail then .error (.failed "lock state unreadable") else .ok l.boot

def setFlash (l : Lock) (state : FlashLock) : Lock :=
  { l with flash := state }

def setBoot (l : Lock) (state : BootLock) : Lock :=
  { l with boot := state }

def writeAttributes (l : Lock) (attributes : ByteArray) : Lock :=
  { l with attributes := some attributes }

def writeAttributeHash (l : Lock) (digest : ByteArray) : Lock :=
  { l with attributeHash := some digest }

def setProvisioned (l : Lock) : Lock :=
  { l with provisioned := true }

def writeKeyHash (l : Lock) (digest : ByteArray) : Lock :=
  { l with keyHash := some digest }

end Lock

end Fastboot
