import Fastboot.Proofs.Command.InPlace
import Fastboot.Proofs.Command.Outcome
import Fastboot.Proofs.Text.Utf8

/-!
# Commands are atomic

`execute` gives a command a target to work on and takes the result only if the command succeeds. A board
is not given back like that: its parts, the staging buffer and the exchange are written one after the other,
in place. `InPlace.execute` carries the commands out in that way, write by write, and comes to what `execute`
comes to (`InPlace.run_execute`). So a command that fails has written nothing, but for a download, which
gives up the data of the last one before it looks at the size (`atomic_execute`).

One command asks a question behind its write: the retry of a slot is used up before its count is put into a
frame. It always fits (`exists_frame_retryCount`).
-/

namespace Fastboot

namespace InPlace

open Command

/-! ### The commands -/

/-- Write to the lock of the target. -/
def modifyLock (change : Lock → Lock) : InPlace Target Fault PUnit :=
  modify fun t => { t with board := { t.board with lock := t.board.lock.map change } }

/-- Write to the exchange of the target. -/
def modifyTransfer (change : Transfer → Transfer) : InPlace Target Fault PUnit :=
  modify fun t => { t with transfer := change t.transfer }

/-- Let the storage of the target do something. -/
def onStorage (storage : Storage) (x : InPlace Storage BoardError Unit) :
    InPlace Target Fault Unit :=
  within storage (fun storage t => { t with board := { t.board with storage := some storage } })
    Fault.ofBoardError x

/-- Copy bytes into the staging buffer. -/
def stage (offset : Nat) (bytes : ByteArray) : InPlace Target Fault Unit := do
  let (outcome, t) := (← get).stage offset bytes
  set t
  MonadExcept.ofExcept (outcome.mapError Fault.staging)

/-- Ask for a reset, with the next boot stopping in the bootloader if that is what the command says. -/
def reboot (command : String) : InPlace Target Fault Reply := do
  if command = "reboot-bootloader" then
    let t ← get
    within t.board.platform (fun platform t => { t with board := { t.board with platform } })
      (fun _ => .boardFailure "Cannot set reboot flag") setRebootFlag
    return .exit .reset
  else return .exit .reset

/-- The value of a variable. The count of a slot is read and used up at once. -/
def value : Variable → InPlace Target Fault String
  | .slotRetryCount name => do
    let slot ← ask fun t => knownSlot t.board name
    let t ← get
    modifyTransfer (·.countRetry slot)
    return toString (t.transfer.retryCount slot).toNat
  | v => ask v.value

/-- Report the value of a variable. -/
def getvar (command : String) : InPlace Target Fault Reply := do
  let name ← ask fun _ => argument command "missing var"
  let value ← value (Variable.ofName name)
  let _ ← ask fun _ => (Response.okay value).frame.mapError Fault.ofOverflow
  return { response := .okay value }

/-- Announce a download. The data of the last one is given up before the size is looked at. -/
def download (command : String) : InPlace Target Fault Reply := do
  modifyTransfer ({ · with downloadBytes := 0 })
  modifyTransfer ({ · with uploadSize := 0 })
  modifyTransfer ({ · with uploadBytes := 0 })
  let t ← get
  if announcedSize? command = some 0 then throw .invalidSize
  else
    match (announcedSize? command).filter (· ≤ t.staging.capacity) with
    | some n =>
      modifyTransfer ({ · with downloadSize := UInt32.ofNat n })
      modify (Target.transition · ({ · with mode := .downloading }))
      return ⟨.data (UInt32.ofNat n), .done⟩
    | none =>
      modifyTransfer ({ · with downloadSize := 0 })
      throw .tooLarge

/-- Start an upload of the data that is there. -/
def upload : InPlace Target Fault Reply := do
  let t ← get
  let size := t.transfer.uploadSize
  if size = 0 then throw .invalidSize
  else
    modifyTransfer ({ · with startUpload := false })
    modifyTransfer ({ · with uploadBytes := 0 })
    modify (Target.transition · ({ · with mode := .uploading }))
    return ⟨.data size, .uploadChunk⟩

/-- Make a slot the active one. -/
def setActive (command : String) : InPlace Target Fault Reply := do
  let name ← ask fun _ => argument command "missing slot name"
  let slots ← ask fun t => require t.board.slots .unsupported
  let slot ← ask fun _ => require (slots.named? name) (.malformed "unknown slot name")
  within slots (fun slots t => { t with board := { t.board with slots := some slots } })
    Fault.ofBoardError (activate slot)
  return .okay

/-- Lock or unlock the storage. -/
def flashing (command : String) : InPlace Target Fault Reply := do
  let request ← ask fun _ =>
    subcommand LockRequest.table "flashing" command "unknown flashing command"
  let state ← ask fun _ => require request.state? .unsupported
  let _ ← ask fun t => require t.board.lock .unsupported
  modifyLock (·.setFlash state)
  return .okay

/-- Write the data of the last download to a partition. -/
def flash (command : String) : InPlace Target Fault Reply := do
  ask fun t => requireUnlocked t.board
  let name ← ask fun _ => argument command "missing partition name"
  let storage ← ask fun t => flashOf t.board
  let image ← ask Target.downloaded
  onStorage storage (writeImage name image)
  return .okay

/-- Erase a partition. -/
def erase (command : String) : InPlace Target Fault Reply := do
  let name ← ask fun _ => argument command "missing partition name"
  let storage ← ask fun t => flashOf t.board
  onStorage storage (eraseImage name)
  return .okay

/-- Write a request of the attestation service to the staging buffer, and set it up for an upload. -/
def getCaRequest : InPlace Target Fault PUnit := do
  let attestation ← ask fun t => require t.board.attestation .unsupported
  let operation ← ask Target.downloaded
  let request ← ask fun _ => (attestation.request operation).mapError fun _ =>
    Fault.boardFailure "attestation CA request failed"
  if UInt32.size ≤ request.size then throw .tooLarge
  else
    stage 0 request
    modifyTransfer ({ · with uploadSize := UInt32.ofNat request.size })
    modifyTransfer ({ · with uploadBytes := 0 })

/-- Hand the downloaded response to the attestation service. -/
def setCaResponse : InPlace Target Fault PUnit := do
  let attestation ← ask fun t => require t.board.attestation .unsupported
  let response ← ask Target.downloaded
  within attestation
    (fun attestation t => { t with board := { t.board with attestation := some attestation } })
    (fun _ => .boardFailure "attestation CA response failed") (accept response)

/-- Burn the permanent attributes and their digest in, and mark the board as provisioned. -/
def fuseAttributes : InPlace Target Fault PUnit := do
  let _ ← ask fun t => lockOf t.board
  let payload ← ask Target.downloaded
  if payload.size ≠ attributesSize + attributesDigestSize then
    throw (.malformed "invalid permanent attribute size")
  else
    modifyLock (·.writeAttributes (payload.extract 0 attributesSize))
    modifyLock (·.writeAttributeHash (payload.extract attributesSize payload.size))
    modifyLock (·.setProvisioned)

/-- Burn the digest of the key in. -/
def fuseKey : InPlace Target Fault PUnit := do
  let _ ← ask fun t => lockOf t.board
  let payload ← ask Target.downloaded
  if payload.size ≠ keyHashSize then throw (.malformed "invalid vboot key size")
  else modifyLock (·.writeKeyHash payload)

/-- Carry out a vendor request. -/
def vendor : VendorRequest → InPlace Target Fault PUnit
  | .format => do
    let storage ← ask fun t => flashOf t.board
    onStorage storage writeTable
  | .unlock => throw .unsupported
  | .getCaRequest => getCaRequest
  | .setCaResponse => setCaResponse
  | .lockBoot => do
    let _ ← ask fun t => lockOf t.board
    modifyLock (·.setBoot .locked)
  | .unlockBoot => do
    let lock ← ask fun t => lockOf t.board
    let state ← ask fun _ => byBoard lock.bootState
    if state = .unlockDisabled then throw (.refused "The vboot is disable!")
    else modifyLock (·.setBoot .unlocked)
  | .disableUnlockBoot => do
    let _ ← ask fun t => lockOf t.board
    modifyLock (·.setBoot .unlockDisabled)
  | .fuseAttributes => fuseAttributes
  | .fuseKey => fuseKey

/-- Run a vendor command. -/
def oem (command : String) : InPlace Target Fault Reply := do
  let request ← ask fun _ =>
    subcommand VendorRequest.table "oem" command "unknown oem command"
  vendor request
  return .okay

/-- Run a command. -/
def execute (verb : Verb) (command : String) : InPlace Target Fault Reply :=
  match verb with
  | .reboot => reboot command
  | .getvar => getvar command
  | .download => download command
  | .upload => upload
  | .boot => pure (.exit .boot)
  | .continueBoot => pure (.exit .detach)
  | .setActive => setActive command
  | .flashing => flashing command
  | .flash => flash command
  | .erase => erase command
  | .oem => oem command

/-! ### The commands settle -/

variable {t : Target} {lock : Lock} {storage : Storage}

theorem settles_modifyLock (hlock : lockOf t.board = .ok lock) (change : Lock → Lock) :
    Settles (modifyLock change) t (.ok (⟨⟩, withLock t (change lock))) := by
  have hsome : t.board.lock = some lock := require_eq_ok_iff.mp hlock
  unfold withLock
  rw [← Option.map_some, ← hsome]
  exact settles_modify _ t

/-- The storage that commands write to is the one of the board. -/
theorem put_storage (hstorage : flashOf t.board = .ok storage) :
    { t with board := { t.board with storage := some storage } } = t := by
  rw [← storage_of_flash? (require_eq_ok_iff.mp hstorage)]

theorem settles_stage (offset : Nat) (bytes : ByteArray) (t : Target) :
    Settles (stage offset bytes) t
      ((t.staging.writeAt offset bytes).mapError .staging >>= fun staging =>
        .ok ((), { t with staging })) := by
  refine .get_bind ?_
  unfold Settles Target.stage Buffer.writeAt
  split_ifs
  · rfl
  · rfl

theorem settles_reboot (command : String) (t : Target) :
    Settles (reboot command) t (Command.reboot command t) := by
  by_cases hflag : command = "reboot-bootloader"
  · have hresult : Command.reboot command t =
        (t.board.platform.setRebootFlag.mapError fun _ => .boardFailure "Cannot set reboot flag") >>=
          fun platform => .ok (.exit .reset, { t with board := { t.board with platform } }) := by
      rw [Command.reboot, if_pos hflag]
      cases t.board.platform.setRebootFlag <;> rfl
    rw [reboot, if_pos hflag, hresult]
    exact .get_bind (.bind (settles_within (settles_setRebootFlag _) rfl) fun _ _ =>
      settles_pure _ _)
  · rw [reboot, Command.reboot, if_neg hflag, if_neg hflag]
    exact settles_pure _ t

theorem settles_setActive (command : String) (t : Target) :
    Settles (setActive command) t (Command.setActive command t) := by
  refine .ask_bind fun name _ => .ask_bind fun slots hslots => .ask_bind fun slot _ => ?_
  refine .bind (settles_within (settles_activate slot slots) ?_) fun _ _ => settles_pure _ _
  rw [← require_eq_ok_iff.mp hslots]

theorem settles_flashing (command : String) (t : Target) :
    Settles (flashing command) t (Command.flashing command t) := by
  refine .ask_bind fun request _ => .ask_bind fun state _ => .ask_bind fun lock hlock => ?_
  exact .ok_bind (settles_modifyLock hlock _) (settles_pure _ _)

theorem settles_flash (command : String) (t : Target) :
    Settles (flash command) t (Command.flash command t) := by
  refine .ask_bind fun _ _ => .ask_bind fun name _ => .ask_bind fun storage hstorage =>
    .ask_bind fun image _ => ?_
  exact .bind (settles_within (settles_writeImage name image storage) (put_storage hstorage))
    fun _ _ => settles_pure _ _

theorem settles_erase (command : String) (t : Target) :
    Settles (erase command) t (Command.erase command t) := by
  refine .ask_bind fun name _ => .ask_bind fun storage hstorage => ?_
  exact .bind (settles_within (settles_eraseImage name storage) (put_storage hstorage))
    fun _ _ => settles_pure _ _

theorem settles_upload (t : Target) : Settles upload t (Command.upload t) := by
  refine .get_bind ?_
  unfold Command.upload
  dsimp only
  split_ifs
  · exact settles_throw _ t
  · exact .ok_bind (settles_modify _ _) (.ok_bind (settles_modify _ _)
      (.ok_bind (settles_modify _ _) (settles_pure _ _)))

/-- The count of a slot fits a frame, whatever it is: it has ten digits at most. -/
theorem exists_frame_retryCount (count : UInt32) :
    ∃ f, (Response.okay (toString count.toNat)).frame = .ok f := by
  have hsize : (toString count.toNat).utf8ByteSize ≤ 10 :=
    Text.utf8ByteSize_toString_le (by decide) (Nat.lt_trans (UInt32.toNat_lt count) (by decide))
  refine ⟨⟨(Response.okay (toString count.toNat)).text, ?_⟩, Response.frame_eq_ok_iff.mpr rfl⟩
  rw [Response.text, String.utf8ByteSize_append, Response.utf8ByteSize_tag]
  exact Nat.le_trans (Nat.add_le_add_left hsize 4) (by decide)

/-- But for the count of a slot, to read a variable is a question. -/
theorem value_eq {v : Variable} (hv : ∀ name, v ≠ .slotRetryCount name) :
    value v = ask v.value ∧ ∀ t, v.afterRead t = t := by
  cases v with
  | slotRetryCount name => exact absurd rfl (hv name)
  | _ => exact ⟨rfl, fun _ => rfl⟩

theorem settles_getvar (command : String) (t : Target) :
    Settles (getvar command) t (Command.getvar command t) := by
  refine .ask_bind fun name _ => ?_
  generalize Variable.ofName name = v
  by_cases hretry : ∃ param, v = .slotRetryCount param
  · obtain ⟨param, rfl⟩ := hretry
    simp only [value, Variable.value, bind_assoc, pure_bind]
    refine .ask_bind fun slot hslot => .get_bind ?_
    obtain ⟨f, hf⟩ := exists_frame_retryCount (t.transfer.retryCount slot)
    have hafter : (Variable.slotRetryCount param).afterRead t =
        { t with transfer := t.transfer.countRetry slot } := by
      simp only [Variable.afterRead, hslot]
    rw [hf, hafter]
    exact .ok_bind (settles_modify _ t) (settles_pure _ _)
  · obtain ⟨hask, hsame⟩ := value_eq fun name hname => hretry ⟨name, hname⟩
    rw [hask]
    simp only [hsame]
    exact .ask_bind fun value _ => .ask_bind fun f _ => settles_pure _ t

theorem settles_fuseAttributes (t : Target) :
    Settles fuseAttributes t (Command.fuseAttributes t >>= fun t' => .ok (⟨⟩, t')) := by
  simp only [Command.fuseAttributes, bind_assoc]
  refine .ask_bind fun lock hlock => .ask_bind fun payload _ => ?_
  split_ifs
  · exact settles_throw _ t
  · exact .ok_bind (settles_modifyLock hlock _) (.ok_bind (settles_modifyLock rfl _)
      (settles_modifyLock rfl _))

theorem settles_fuseKey (t : Target) :
    Settles fuseKey t (Command.fuseKey t >>= fun t' => .ok (⟨⟩, t')) := by
  simp only [Command.fuseKey, bind_assoc]
  refine .ask_bind fun lock hlock => .ask_bind fun payload _ => ?_
  split_ifs
  · exact settles_throw _ t
  · exact settles_modifyLock hlock _

theorem settles_setCaResponse (t : Target) :
    Settles setCaResponse t (Command.setCaResponse t >>= fun t' => .ok (⟨⟩, t')) := by
  simp only [Command.setCaResponse, bind_assoc, pure_bind]
  refine .ask_bind fun attestation hattestation => .ask_bind fun response _ => ?_
  refine settles_within (settles_accept response attestation) ?_
  rw [← require_eq_ok_iff.mp hattestation]

theorem settles_getCaRequest (t : Target) :
    Settles getCaRequest t (Command.getCaRequest t >>= fun t' => .ok (⟨⟩, t')) := by
  simp only [Command.getCaRequest, bind_assoc]
  refine .ask_bind fun attestation _ => .ask_bind fun operation _ => .ask_bind fun request _ => ?_
  split_ifs
  · exact settles_throw _ t
  · simp only [bind_assoc, pure_bind]
    exact .bind (settles_stage 0 request t) fun _ _ =>
      .ok_bind (settles_modify _ _) (settles_modify _ _)

theorem settles_vendor (request : VendorRequest) (t : Target) :
    Settles (vendor request) t (request.run t >>= fun t' => .ok (⟨⟩, t')) := by
  cases request with
  | getCaRequest => exact settles_getCaRequest t
  | setCaResponse => exact settles_setCaResponse t
  | fuseAttributes => exact settles_fuseAttributes t
  | fuseKey => exact settles_fuseKey t
  | unlock => exact settles_throw _ t
  | format =>
    simp only [VendorRequest.run, bind_assoc, pure_bind]
    exact .ask_bind fun storage hstorage =>
      settles_within (settles_writeTable storage) (put_storage hstorage)
  | lockBoot | disableUnlockBoot =>
    simp only [VendorRequest.run, bind_assoc, pure_bind]
    exact .ask_bind fun lock hlock => settles_modifyLock hlock _
  | unlockBoot =>
    simp only [VendorRequest.run, bind_assoc]
    refine .ask_bind fun lock hlock => .ask_bind fun state _ => ?_
    split_ifs
    · exact settles_throw _ t
    · exact settles_modifyLock hlock _

theorem settles_oem (command : String) (t : Target) :
    Settles (oem command) t (Command.oem command t) :=
  .ask_bind fun request _ => .bind (settles_vendor request t) fun _ _ => settles_pure _ _

/-- A download comes to the same. It does not settle: the data is given up also when it is refused. -/
theorem run_download (command : String) (t : Target) :
    (download command).run.run t = Command.download command t := by
  show (if announcedSize? command = some 0 then throw .invalidSize
    else
      match (announcedSize? command).filter (· ≤ (dropData t).staging.capacity) with
      | some n => do
        modifyTransfer ({ · with downloadSize := UInt32.ofNat n })
        modify (Target.transition · ({ · with mode := .downloading }))
        return ⟨.data (UInt32.ofNat n), .done⟩
      | none => do
        modifyTransfer ({ · with downloadSize := 0 })
        throw .tooLarge : InPlace Target Fault Reply).run.run (dropData t) = _
  unfold Command.download
  dsimp only
  split_ifs
  · rfl
  cases (announcedSize? command).filter (· ≤ (dropData t).staging.capacity) with
  | none => rfl
  | some n => rfl

theorem Settles.run_eq_attempt {x : InPlace Target Fault Reply}
    {command : Target → Except Fault (Reply × Target)} (h : Settles x t (command t)) :
    x.run.run t = t.attempt command := by
  unfold Settles at h
  rw [h, Target.attempt]
  cases command t <;> rfl

/-- **Commands in place come to the same.** -/
theorem run_execute (verb : Verb) (command : String) (t : Target) :
    (execute verb command).run.run t = Command.execute verb command t := by
  cases verb with
  | download => exact run_download command t
  | boot | continueBoot => rfl
  | reboot => exact (settles_reboot command t).run_eq_attempt
  | getvar => exact (settles_getvar command t).run_eq_attempt
  | upload => exact (settles_upload t).run_eq_attempt
  | setActive => exact (settles_setActive command t).run_eq_attempt
  | flashing => exact (settles_flashing command t).run_eq_attempt
  | flash => exact (settles_flash command t).run_eq_attempt
  | erase => exact (settles_erase command t).run_eq_attempt
  | oem => exact (settles_oem command t).run_eq_attempt

end InPlace

namespace Command

/-- A download that is refused has given up the data of the last one. -/
theorem download_eq_error {command : String} {t t' : Target} {fault : Fault}
    (hsize : t.transfer.downloadSize = 0) (h : download command t = (.error fault, t')) :
    t' = dropData t := by
  unfold download at h
  dsimp only at h
  split_ifs at h
  · exact (Prod.ext_iff.mp h).2.symm
  split at h
  · cases (Prod.ext_iff.mp h).1
  · have hafter := congrArg Prod.snd h
    rw [← show (dropData t).transfer.downloadSize = 0 from hsize] at hafter
    exact hafter.symm

theorem attempt_eq_error (run : Target → Except Fault (Reply × Target)) {t t' : Target}
    {fault : Fault} (h : t.attempt run = (.error fault, t')) : t' = t := by
  unfold Target.attempt at h
  split at h <;> cases h
  rfl

/-- **Commands are atomic.** Carried out write by write or at once, a command comes to the same. If it
fails, everything is as it was: settings, board, staging buffer, exchange and log. Only a download that is
refused has given up the data of the last one. -/
theorem atomic_execute (verb : Verb) (command : String) {t : Target}
    (hsize : t.transfer.downloadSize = 0) :
    (InPlace.execute verb command).run.run t = execute verb command t ∧
      ∀ fault t', (InPlace.execute verb command).run.run t = (.error fault, t') →
        t' = if verb = .download then dropData t else t := by
  refine ⟨InPlace.run_execute verb command t, fun fault t' h => ?_⟩
  rw [InPlace.run_execute] at h
  cases verb with
  | download => exact download_eq_error hsize h
  | boot | continueBoot => cases (Prod.ext_iff.mp h).1
  | reboot => exact attempt_eq_error (reboot command) h
  | getvar => exact attempt_eq_error (getvar command) h
  | upload => exact attempt_eq_error upload h
  | setActive => exact attempt_eq_error (setActive command) h
  | flashing => exact attempt_eq_error (flashing command) h
  | flash => exact attempt_eq_error (flash command) h
  | erase => exact attempt_eq_error (erase command) h
  | oem => exact attempt_eq_error (oem command) h

/-- A target with four bytes of a download, a partition that holds an image, and a lock. -/
def stocked : Target where
  board :=
    { storage := some
        { (Storage.addPartition {} "boot" 2 "raw") with
          images := .insert .empty "boot" "k".toUTF8 }
      lock := some {} }
  staging := .empty 64
  transfer := { downloadBytes := 4, uploadSize := 4 }

/-- Commands that are refused late: an image that is too large for its partition, fuses of another size
than the data, and a download that is too large. -/
theorem atomic_execute_stocked :
    (InPlace.execute .flash "flash:boot").run.run stocked =
        (.error (.boardFailure "too large for partition"), stocked) ∧
      (InPlace.execute .oem "oem fuse at-perm-attr").run.run stocked =
        (.error (.malformed "invalid permanent attribute size"), stocked) ∧
      (InPlace.execute .download "download:41").run.run stocked =
        (.error .tooLarge, dropData stocked) := by
  have hrun (verb : Verb) (command : String) (fault : Fault)
      (hfault : (execute verb command stocked).1 = .error fault) :
      (InPlace.execute verb command).run.run stocked =
        (.error fault, if verb = .download then dropData stocked else stocked) := by
    obtain ⟨hsame, hafter⟩ := atomic_execute verb command (t := stocked) rfl
    have hpair : (InPlace.execute verb command).run.run stocked =
        (.error fault, (execute verb command stocked).2) := by
      rw [hsame, ← hfault]
    rw [hpair, hafter fault _ hpair]
  have hflash := hrun .flash "flash:boot" (.boardFailure "too large for partition") (by decide +kernel)
  have hfuse := hrun .oem "oem fuse at-perm-attr"
    (.malformed "invalid permanent attribute size") (by decide +kernel)
  have hdownload := hrun .download "download:41" .tooLarge (by decide +kernel)
  exact ⟨hflash, hfuse, hdownload⟩

end Command

end Fastboot
