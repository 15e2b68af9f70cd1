import Fastboot.Proofs.Command.BootLock

/-!
# Commands and the storage

A flash writes the image of a partition, an erase takes it away, and `oem format` writes the partition
table anew. `flashing` sets the lock that is to protect them. Nothing else reaches the storage or what
the lock reads as: `Deed.carries` says so of every command, in terms of its answer.

The storage is `Protected` while there is a lock that does not read as unlocked. Of the three commands only
a flash asks for that, so an erase and a format are carried out on a protected board as well.
-/

namespace Fastboot

/-- The state of the storage lock as commands read it, if there is a lock. -/
def Board.flashState? (b : Board) : Option (Except BoardError FlashLock) :=
  b.lock.map (·.flashState)

/-- There is a lock, and it does not read as unlocked. -/
def Board.Protected (b : Board) : Prop :=
  ∃ state, b.flashState? = some state ∧ state ≠ .ok .unlocked

/-- The image of a partition, if the board has one. -/
def Board.image? (b : Board) (name : String) : Option ByteArray :=
  b.storage.bind (·.image? name)

/-- How often the partition table of a board has been written anew. -/
def Board.tableWrites (b : Board) : Nat :=
  (b.storage.map (·.tableWrites)).getD 0

/-- What a command can ask of the storage and of its lock. -/
inductive StorageRequest where
  | write (name : String)
  | erase (name : String)
  /-- Write the partition table anew. -/
  | format
  | lock (state : FlashLock)
  deriving DecidableEq, Repr

/-- A board has been made into another one by what was asked of its storage, if anything was. -/
inductive Board.Carries (b : Board) : Option StorageRequest → Board → Prop where
  | other {b' : Board} (hstorage : b'.storage = b.storage)
      (hlock : b'.flashState? = b.flashState?) : Carries b none b'
  | write {name : String} {image : ByteArray} {storage storage' : Storage}
      (hlock : ¬ b.Protected) (hstorage : b.storage = some storage)
      (hwrite : storage.write name image = .ok storage') :
      Carries b (some (.write name)) { b with storage := some storage' }
  | erase {name : String} {storage storage' : Storage} (hstorage : b.storage = some storage)
      (herase : storage.erase name = .ok storage') :
      Carries b (some (.erase name)) { b with storage := some storage' }
  | format {storage storage' : Storage} (hstorage : b.storage = some storage)
      (hwrite : storage.writeTable = .ok storage') :
      Carries b (some .format) { b with storage := some storage' }
  | lock {lock : Lock} {state : FlashLock} (hlock : b.lock = some lock) :
      Carries b (some (.lock state)) { b with lock := some (lock.setFlash state) }

namespace Command

open Board (Carries)

variable {command : String} {t : Target} {reply : Reply} {request : VendorRequest} {b : Board}

/-- What a command asks of the storage, if it asks for something. -/
def storageRequest? (command : String) : Option StorageRequest :=
  match Verb.ofCommand? command with
  | some .flash => (argument? command).map .write
  | some .erase => (argument? command).map .erase
  | some .flashing => ((lockRequest command).toOption.bind LockRequest.state?).map .lock
  | some .oem => if vendorRequest command = .ok .format then some .format else none
  | _ => none

/-- What a command has asked of the storage and got, as its answer tells. -/
def carriedOut? (command : String) (reply : Reply) : Option StorageRequest :=
  if reply = .okay then storageRequest? command else none

@[simp]
theorem carriedOut?_ofFault (command : String) (fault : Fault) :
    carriedOut? command (.ofFault fault) = none :=
  if_neg nofun

@[simp]
theorem carriedOut?_okay (command : String) : carriedOut? command .okay = storageRequest? command :=
  if_pos rfl

theorem carriedOut?_of_none (h : storageRequest? command = none) (reply : Reply) :
    carriedOut? command reply = none := by
  rw [carriedOut?, h, ite_self]

/-- A command that has no business with the board asks nothing of its storage. -/
theorem storageRequest?_of_works
    (h : ∀ verb, Verb.ofCommand? command = some verb → verb.works = false) :
    storageRequest? command = none := by
  cases hverb : Verb.ofCommand? command with
  | none => rw [storageRequest?, hverb]
  | some verb =>
    have hworks := h verb hverb
    rw [storageRequest?, hverb]
    cases verb with
    | getvar | download | upload | boot | continueBoot => rfl
    | _ => cases hworks

/-! ### What commands do -/

theorem requireUnlocked_eq_ok_iff : requireUnlocked b = .ok () ↔ ¬ b.Protected := by
  unfold requireUnlocked Board.Protected Board.flashState?
  cases b.lock with
  | none => simp
  | some lock =>
    rcases hstate : lock.flashState with e | ⟨_ | _⟩ <;> simp [hstate]

/-- Of the vendor commands the format asks for something, and does not ask for the lock. The others leave
the storage alone, and what its lock reads as. -/
theorem VendorRequest.Deed.carries (h : request.Deed t b) :
    Carries t.board (if request = .format then some .format else none) b := by
  cases h with
  | format hstorage hwrite => exact .format hstorage hwrite
  | getCaRequest | setCaResponse => exact .other rfl rfl
  | @setBoot _ state _ hstate hlock =>
    rw [if_neg (by rintro rfl; cases hstate)]
    refine .other rfl ?_
    rw [Board.flashState?, Board.flashState?, hlock]
    rfl
  | fuseAttributes _ hlock | fuseKey _ hlock =>
    refine .other rfl ?_
    rw [Board.flashState?, Board.flashState?, hlock]
    rfl

/-- A flash writes only where nothing protects the storage. An erase does not ask for the lock. -/
theorem Deed.carries (h : Deed command t reply b) :
    Carries t.board (carriedOut? command reply) b := by
  cases h with
  | refused fault =>
    rw [carriedOut?_ofFault]
    exact .other rfl rfl
  | idle hverb =>
    rw [carriedOut?_of_none (storageRequest?_of_works hverb)]
    exact .other rfl rfl
  | reboot hverb | setActive hverb =>
    rw [carriedOut?_of_none (by rw [storageRequest?, hverb])]
    exact .other rfl rfl
  | flash hverb hname hunlocked _ hstorage hwrite =>
    rw [carriedOut?_okay, storageRequest?, hverb]
    dsimp only
    rw [hname]
    exact .write (requireUnlocked_eq_ok_iff.mp hunlocked) hstorage hwrite
  | erase hverb hname hstorage herase =>
    rw [carriedOut?_okay, storageRequest?, hverb]
    dsimp only
    rw [hname]
    exact .erase hstorage herase
  | @flashing _ state _ hverb hrequest hstate hlock =>
    have hasked : storageRequest? command = some (.lock state) := by
      rw [storageRequest?, hverb, hrequest]
      exact congrArg (Option.map StorageRequest.lock) hstate
    rw [carriedOut?_okay, hasked]
    exact .lock hlock
  | @vendor request _ hverb hrequest hdeed =>
    have hasked : storageRequest? command = if request = .format then some .format else none := by
      simp [storageRequest?, hverb, hrequest]
    rw [carriedOut?_okay, hasked]
    exact hdeed.carries

end Command

/-! ### Protected boards -/

namespace Board

variable {b b' : Board} {asked : Option StorageRequest}

/-- The state of the lock is all that decides whether the storage is protected. -/
theorem Protected.of_flashState?_eq (h : b.Protected) (hsame : b'.flashState? = b.flashState?) :
    b'.Protected := by
  rw [Protected, hsame]
  exact h

/-- A board stays protected unless its storage is unlocked. -/
theorem Carries.protected_of_ne (h : b.Carries asked b') (hb : b.Protected)
    (hasked : asked ≠ some (.lock .unlocked)) : b'.Protected := by
  cases h with
  | other _ hlock => exact hb.of_flashState?_eq hlock
  | write => exact hb
  | erase => exact hb
  | format => exact hb
  | @lock lock state hlock =>
    refine ⟨(lock.setFlash state).flashState, rfl, ?_⟩
    rw [Lock.flashState]
    split_ifs
    · nofun
    · intro hunlocked
      obtain rfl : state = .unlocked := Except.ok.inj hunlocked
      exact hasked rfl

/-- Nothing is flashed to a protected board. -/
theorem Carries.ne_write (h : b.Carries asked b') (hb : b.Protected) (name : String) :
    asked ≠ some (.write name) := by
  rintro rfl
  cases h with
  | write hlock => exact hlock hb

/-- On a protected board an erase is all that changes an image. -/
theorem Carries.image?_eq (h : b.Carries asked b') (hb : b.Protected) (name : String) :
    b'.image? name = if asked = some (.erase name) then none else b.image? name := by
  cases h with
  | other hstorage => rw [image?, hstorage, if_neg nofun, image?]
  | write hlock => exact absurd hb hlock
  | @erase erased storage storage' hstorage herase =>
    have himage := Storage.image?_of_erase herase name
    simp only [image?, hstorage, Option.bind_some, himage, Option.some.injEq,
      StorageRequest.erase.injEq, eq_comm]
  | @format storage storage' hstorage hwrite =>
    unfold Storage.writeTable at hwrite
    split at hwrite <;> cases hwrite
    rw [image?, image?, hstorage, if_neg nofun]
    rfl
  | lock => exact (if_neg nofun).symm

/-- A format is all that writes the partition table anew, whether the board is protected or not. -/
theorem Carries.tableWrites_eq (h : b.Carries asked b') :
    b'.tableWrites = b.tableWrites + if asked = some .format then 1 else 0 := by
  cases h with
  | other hstorage => rw [tableWrites, hstorage, if_neg nofun, tableWrites, Nat.add_zero]
  | @write name image storage storage' _ hstorage hwrite =>
    unfold Storage.write at hwrite
    split at hwrite
    · cases hwrite
    split at hwrite
    · cases hwrite
    split at hwrite <;> cases hwrite
    simp [tableWrites, hstorage]
  | @erase name storage storage' hstorage herase =>
    unfold Storage.erase at herase
    split at herase <;> cases herase
    simp [tableWrites, hstorage]
  | @format storage storage' hstorage hwrite =>
    unfold Storage.writeTable at hwrite
    split at hwrite <;> cases hwrite
    simp [tableWrites, hstorage]
  | lock => rfl

end Board

end Fastboot
