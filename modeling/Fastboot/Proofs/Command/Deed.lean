import Fastboot.Proofs.Command.Outcome

/-!
# What commands do to the board

`Deed command t reply b` lists what a command can make of the board of a target `t`: it is left as `b`, with
the answer `reply`. There is one case for each thing that a command can do, and a command that fails, or whose
verb has no business with the board, leaves it as it was. `deed_dispatch` says that there is nothing else.

What holds of the board over all commands, be it the boot lock or the storage, is read off it.
-/

namespace Fastboot.Command

/-- Whether a command with the verb may change the board. -/
def Verb.works : Verb → Bool
  | reboot | setActive | flashing | flash | erase | oem => true
  | getvar | download | upload | boot | continueBoot => false

/-- What a vendor command that is carried out makes of the board. -/
inductive VendorRequest.Deed (t : Target) : VendorRequest → Board → Prop where
  | format {storage storage' : Storage} (hstorage : t.board.storage = some storage)
      (hwrite : storage.writeTable = .ok storage') :
      Deed t .format { t.board with storage := some storage' }
  /-- The request is left in the staging buffer. -/
  | getCaRequest : Deed t .getCaRequest t.board
  | setCaResponse {response : ByteArray} {attestation attestation' : Attestation}
      (hresponse : t.downloaded = .ok response)
      (hattestation : t.board.attestation = some attestation)
      (haccept : attestation.accept response = .ok attestation') :
      Deed t .setCaResponse { t.board with attestation := some attestation' }
  /-- The boot lock is set, and not unlocked where that has been disabled. -/
  | setBoot {request : VendorRequest} {state : BootLock} {lock : Lock}
      (hstate : request.bootLock? = some state) (hlock : t.board.lock = some lock)
      (hable : state = .unlocked → lock.boot ≠ .unlockDisabled) :
      Deed t request { t.board with lock := some (lock.setBoot state) }
  | fuseAttributes {payload : ByteArray} {lock : Lock} (hpayload : t.downloaded = .ok payload)
      (hlock : t.board.lock = some lock)
      (hsize : payload.size = attributesSize + attributesDigestSize) :
      Deed t .fuseAttributes { t.board with
        lock := some ((lock.writeAttributes (payload.extract 0 attributesSize)).writeAttributeHash
          (payload.extract attributesSize payload.size)).setProvisioned }
  | fuseKey {payload : ByteArray} {lock : Lock} (hpayload : t.downloaded = .ok payload)
      (hlock : t.board.lock = some lock) (hsize : payload.size = keyHashSize) :
      Deed t .fuseKey { t.board with lock := some (lock.writeKeyHash payload) }

/-- The answer `reply` of a command, and the board that it leaves behind. -/
inductive Deed (command : String) (t : Target) : Reply → Board → Prop where
  | refused (fault : Fault) : Deed command t (.ofFault fault) t.board
  | idle {reply : Reply} (hverb : ∀ verb, Verb.ofCommand? command = some verb → verb.works = false) :
      Deed command t reply t.board
  | reboot {platform : Platform} (hverb : Verb.ofCommand? command = some .reboot)
      (hexits : platform.exits = t.board.platform.exits) :
      Deed command t (.exit .reset) { t.board with platform }
  | setActive {slots : Slots} (hverb : Verb.ofCommand? command = some .setActive) :
      Deed command t .okay { t.board with slots := some slots }
  /-- The lock of the storage is set. -/
  | flashing {request : LockRequest} {state : FlashLock} {lock : Lock}
      (hverb : Verb.ofCommand? command = some .flashing) (hrequest : lockRequest command = .ok request)
      (hstate : request.state? = some state) (hlock : t.board.lock = some lock) :
      Deed command t .okay { t.board with lock := some (lock.setFlash state) }
  | flash {name : String} {image : ByteArray} {storage storage' : Storage}
      (hverb : Verb.ofCommand? command = some .flash) (hname : argument? command = some name)
      (hunlocked : requireUnlocked t.board = .ok ()) (himage : t.downloaded = .ok image)
      (hstorage : t.board.storage = some storage) (hwrite : storage.write name image = .ok storage') :
      Deed command t .okay { t.board with storage := some storage' }
  | erase {name : String} {storage storage' : Storage}
      (hverb : Verb.ofCommand? command = some .erase) (hname : argument? command = some name)
      (hstorage : t.board.storage = some storage) (herase : storage.erase name = .ok storage') :
      Deed command t .okay { t.board with storage := some storage' }
  | vendor {request : VendorRequest} {b : Board} (hverb : Verb.ofCommand? command = some .oem)
      (hrequest : vendorRequest command = .ok request) (hdeed : request.Deed t b) :
      Deed command t .okay b

variable {command : String} {verb : Verb} {t t' : Target} {reply : Reply} {request : VendorRequest}

theorem deed_run (h : request.run t = .ok t') : request.Deed t t'.board := by
  cases request with
  | unlock => cases h
  | format =>
    obtain ⟨storage, storage', hstorage, hwrite, rfl⟩ := format_eq_ok h
    exact .format (storage_of_flash? hstorage) hwrite
  | getCaRequest =>
    obtain ⟨-, -, -, -, -, rfl⟩ := getCaRequest_eq_ok h
    exact .getCaRequest
  | setCaResponse =>
    obtain ⟨response, attestation, attestation', hresponse, hattestation, haccept, rfl⟩ :=
      setCaResponse_eq_ok h
    exact .setCaResponse hresponse hattestation haccept
  | lockBoot | unlockBoot | disableUnlockBoot =>
    obtain ⟨lock, hlock, hable, rfl⟩ := setBoot_eq_ok rfl h
    exact .setBoot rfl hlock hable
  | fuseAttributes =>
    obtain ⟨payload, lock, hpayload, hlock, hsize, rfl⟩ := fuseAttributes_eq_ok h
    exact .fuseAttributes hpayload hlock hsize
  | fuseKey =>
    obtain ⟨payload, lock, hpayload, hlock, hsize, rfl⟩ := fuseKey_eq_ok h
    exact .fuseKey hpayload hlock hsize

theorem board_download (command : String) (t : Target) :
    (download command t).2.board = t.board := by
  unfold download
  dsimp only
  split
  · rfl
  · split
    · exact Target.board_transition _ _
    · rfl

/-- A command that fails leaves the board alone, so it is enough to know what it comes to when it
succeeds. -/
theorem deed_attempt (run : Target → Except Fault (Reply × Target))
    (hexecute : execute verb command t = t.attempt run)
    (hok : ∀ {reply t'}, run t = .ok (reply, t') → Deed command t reply t'.board) :
    Deed command t (replyOf (execute verb command t).1) (execute verb command t).2.board := by
  rw [hexecute, Target.attempt]
  cases hrun : run t with
  | error fault => exact .refused fault
  | ok result => exact hok hrun

theorem deed_execute (hverb : Verb.ofCommand? command = some verb) :
    Deed command t (replyOf (execute verb command t).1) (execute verb command t).2.board := by
  have hidle : verb.works = false →
      ∀ verb', Verb.ofCommand? command = some verb' → verb'.works = false := by
    intro hworks verb' hverb'
    rwa [Option.some.inj (hverb'.symm.trans hverb)]
  cases verb with
  | boot | continueBoot => exact .idle (hidle rfl)
  | download =>
    have hboard : (execute .download command t).2.board = t.board := board_download command t
    rw [hboard]
    exact .idle (hidle rfl)
  | upload =>
    refine deed_attempt upload rfl fun h => ?_
    unfold upload at h
    dsimp only at h
    split at h <;> cases h
    rw [Target.board_transition]
    exact .idle (hidle rfl)
  | getvar =>
    refine deed_attempt (getvar command) rfl fun h => ?_
    obtain ⟨-, -, -, rfl⟩ := getvar_eq_ok h
    exact .idle (hidle rfl)
  | reboot =>
    refine deed_attempt (reboot command) rfl fun h => ?_
    obtain ⟨rfl, platform, hexits, rfl⟩ := reboot_eq_ok h
    exact .reboot hverb hexits
  | setActive =>
    refine deed_attempt (setActive command) rfl fun h => ?_
    obtain ⟨rfl, slots, rfl⟩ := setActive_eq_ok h
    exact .setActive hverb
  | flashing =>
    refine deed_attempt (flashing command) rfl fun h => ?_
    obtain ⟨rfl, request, state, lock, hrequest, hstate, hlock, rfl⟩ := flashing_eq_ok h
    exact .flashing hverb hrequest hstate hlock
  | flash =>
    refine deed_attempt (flash command) rfl fun h => ?_
    obtain ⟨rfl, hunlocked, name, image, storage, storage', hname, himage, hstorage, hwrite, rfl⟩ :=
      flash_eq_ok h
    exact .flash hverb (require_eq_ok_iff.mp hname) hunlocked himage (storage_of_flash? hstorage)
      hwrite
  | erase =>
    refine deed_attempt (erase command) rfl fun h => ?_
    obtain ⟨rfl, name, storage, storage', hname, hstorage, herase, rfl⟩ := erase_eq_ok h
    exact .erase hverb (require_eq_ok_iff.mp hname) (storage_of_flash? hstorage) herase
  | oem =>
    refine deed_attempt (oem command) rfl fun h => ?_
    obtain ⟨rfl, request, hrequest, hrun⟩ := oem_eq_ok h
    exact .vendor hverb hrequest (deed_run hrun)

/-- **What commands do to the board.** There is nothing else. -/
theorem deed_dispatch (command : String) (t : Target) :
    Deed command t (dispatch command t).1 (dispatch command t).2.board := by
  unfold dispatch
  cases hverb : Verb.ofCommand? command with
  | none => exact .refused .unknownCommand
  | some verb => exact deed_execute hverb

end Fastboot.Command
