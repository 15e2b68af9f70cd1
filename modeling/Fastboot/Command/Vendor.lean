import Fastboot.Command.Argument

/-!
# Vendor commands

The sub-commands of `oem`: the partition table, verified boot, its fuses, and attestation.
Provisioning consumes the data of the last download, which has to be of the exact size. A request of
the attestation service is left in the staging buffer, for an upload to fetch.
-/

namespace Fastboot.Command

/-- What `oem` can be asked to do. -/
inductive VendorRequest where
  /-- Write the partition table anew. -/
  | format
  | unlock
  | getCaRequest
  | setCaResponse
  | lockBoot
  | unlockBoot
  | disableUnlockBoot
  /-- Burn the permanent attributes and their digest in. -/
  | fuseAttributes
  | fuseKey
  deriving DecidableEq, Repr

def VendorRequest.table : List (String × VendorRequest) :=
  [("format", .format),
   ("unlock", .unlock),
   ("at-get-ca-request", .getCaRequest),
   ("at-set-ca-response", .setCaResponse),
   ("at-lock-vboot", .lockBoot),
   ("at-unlock-vboot", .unlockBoot),
   ("at-disable-unlock-vboot", .disableUnlockBoot),
   ("fuse at-perm-attr", .fuseAttributes),
   ("fuse at-bootloader-vboot-key", .fuseKey)]

/-- The size of the permanent attributes: a version, the root key and a product number. -/
def attributesSize : Nat := 1052

/-- The size of the digest behind the attributes. -/
def attributesDigestSize : Nat := 32

def keyHashSize : Nat := 32

/-- A target whose lock is another one. -/
def withLock (t : Target) (lock : Lock) : Target :=
  { t with board := { t.board with lock := some lock } }

def lockOf (b : Board) : Except Fault Lock :=
  require b.lock .unsupported

/-- Let the attestation service make a request for the operation that was downloaded, and leave it in
the staging buffer. -/
def getCaRequest (t : Target) : Except Fault Target := do
  let attestation ← require t.board.attestation .unsupported
  let operation ← t.downloaded
  let request ← (attestation.request operation).mapError fun _ =>
    Fault.boardFailure "attestation CA request failed"
  if UInt32.size ≤ request.size then .error .tooLarge
  else
    let staging ← (t.staging.writeAt 0 request).mapError .staging
    return { t with
      staging
      transfer := { t.transfer with uploadSize := UInt32.ofNat request.size, uploadBytes := 0 } }

/-- Hand the downloaded response to the attestation service. -/
def setCaResponse (t : Target) : Except Fault Target := do
  let attestation ← require t.board.attestation .unsupported
  let response ← t.downloaded
  let attestation ← (attestation.accept response).mapError fun _ =>
    Fault.boardFailure "attestation CA response failed"
  return { t with board := { t.board with attestation := some attestation } }

/-- Burn the permanent attributes and their digest in. -/
def fuseAttributes (t : Target) : Except Fault Target := do
  let lock ← lockOf t.board
  let payload ← t.downloaded
  if payload.size ≠ attributesSize + attributesDigestSize then
    .error (.malformed "invalid permanent attribute size")
  else
    let lock := lock.writeAttributes (payload.extract 0 attributesSize)
    let lock := lock.writeAttributeHash (payload.extract attributesSize payload.size)
    return withLock t lock.setProvisioned

/-- Burn the digest of the key in. -/
def fuseKey (t : Target) : Except Fault Target := do
  let lock ← lockOf t.board
  let payload ← t.downloaded
  if payload.size ≠ keyHashSize then .error (.malformed "invalid vboot key size")
  else return withLock t (lock.writeKeyHash payload)

/-- What a request does to the target. -/
def VendorRequest.run (t : Target) : VendorRequest → Except Fault Target
  | format => do
    let storage ← require t.board.flash? (.unavailable "no flash device defined")
    let storage ← byBoard storage.writeTable
    return { t with board := { t.board with storage := some storage } }
  | unlock => .error .unsupported
  | getCaRequest => Command.getCaRequest t
  | setCaResponse => Command.setCaResponse t
  | lockBoot => do
    let lock ← lockOf t.board
    return withLock t (lock.setBoot .locked)
  | unlockBoot => do
    let lock ← lockOf t.board
    let state ← byBoard lock.bootState
    if state = .unlockDisabled then .error (.refused "The vboot is disable!")
    else return withLock t (lock.setBoot .unlocked)
  | disableUnlockBoot => do
    let lock ← lockOf t.board
    return withLock t (lock.setBoot .unlockDisabled)
  | fuseAttributes => Command.fuseAttributes t
  | fuseKey => Command.fuseKey t

/-- Run a vendor command. -/
def oem (command : String) (t : Target) : Except Fault (Reply × Target) := do
  let request ← subcommand VendorRequest.table "oem" command "unknown oem command"
  let t ← request.run t
  return (.okay, t)

end Fastboot.Command
