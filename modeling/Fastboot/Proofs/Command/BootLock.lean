import Fastboot.Proofs.Command.Deed

/-!
# Commands and the boot lock

Three vendor commands set the lock of verified boot, each to a state of its own, and no other command has
to do with it. To unlock it is refused where unlocking has been disabled; the other two are carried out
whatever the state is. `Deed.relocks` says so of every command, in terms of its answer.
-/

namespace Fastboot

/-- The state of the boot lock, if the board has one. -/
def Board.bootLock? (b : Board) : Option BootLock :=
  b.lock.map (·.boot)

/-- The boot lock of a board has been set to what was asked for, if anything was. It has not been unlocked
where that was disabled. -/
structure Board.Relocks (asked : Option BootLock) (b b' : Board) : Prop where
  bootLock?_eq : b'.bootLock? = asked.or b.bootLock?
  ne_unlockDisabled : asked = some .unlocked → b.bootLock? ≠ some .unlockDisabled

theorem Board.relocks_none {b b' : Board} (h : b'.bootLock? = b.bootLock?) : Relocks none b b' :=
  ⟨h, nofun⟩

namespace Command

open Board (Relocks relocks_none)

variable {command : String} {t : Target} {reply : Reply} {request : VendorRequest} {b : Board}

/-- The state of the boot lock that a command asks for, if it asks for one. -/
def bootLock? (command : String) : Option BootLock :=
  if Verb.ofCommand? command = some .oem then
    (vendorRequest command).toOption.bind VendorRequest.bootLock?
  else none

/-- The state of the boot lock that a command has asked for and been granted, as its answer tells. -/
def granted? (command : String) (reply : Reply) : Option BootLock :=
  if reply = .okay then bootLock? command else none

@[simp]
theorem granted?_ofFault (command : String) (fault : Fault) :
    granted? command (.ofFault fault) = none :=
  if_neg nofun

theorem granted?_of_ne (hverb : Verb.ofCommand? command ≠ some .oem) (reply : Reply) :
    granted? command reply = none := by
  rw [granted?, bootLock?, if_neg hverb, ite_self]

/-! ### What commands do -/

/-- A vendor command sets the lock as it asks. -/
theorem VendorRequest.Deed.relocks (h : request.Deed t b) :
    Relocks request.bootLock? t.board b := by
  cases h with
  | format | getCaRequest | setCaResponse => exact relocks_none rfl
  | setBoot hstate hlock hable =>
    rw [hstate]
    refine ⟨rfl, fun hunlock => ?_⟩
    rw [Board.bootLock?, hlock, Option.map_some]
    exact fun hdisabled => hable (Option.some.inj hunlock) (Option.some.inj hdisabled)
  | fuseAttributes _ hlock | fuseKey _ hlock =>
    refine relocks_none ?_
    rw [Board.bootLock?, Board.bootLock?, hlock]
    rfl

theorem Deed.relocks (h : Deed command t reply b) :
    Relocks (granted? command reply) t.board b := by
  -- but for the vendor commands nothing is asked of the lock
  have hother : ∀ {verb reply}, Verb.ofCommand? command = some verb → verb ≠ .oem →
      granted? command reply = none := fun hverb hne =>
    granted?_of_ne (by simpa [hverb] using hne) _
  cases h with
  | refused fault =>
    rw [granted?_ofFault]
    exact relocks_none rfl
  | idle hverb =>
    rw [granted?_of_ne fun hoem => nomatch hverb _ hoem]
    exact relocks_none rfl
  | reboot hverb | setActive hverb | flash hverb | erase hverb =>
    rw [hother hverb nofun]
    exact relocks_none rfl
  | flashing hverb _ _ hlock =>
    -- the lock of the storage is another one
    rw [hother hverb nofun]
    refine relocks_none ?_
    rw [Board.bootLock?, Board.bootLock?, hlock]
    rfl
  | vendor hverb hrequest hdeed =>
    have hasked : granted? command .okay = _ := if_pos rfl
    rw [hasked, bootLock?, if_pos hverb, hrequest]
    exact hdeed.relocks

end Command

end Fastboot
