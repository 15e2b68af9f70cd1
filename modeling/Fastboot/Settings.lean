import Fastboot.Text.Hex

/-!
# Settings

The configuration of a device: the capacity of its staging buffer, the size of its endpoint buffers,
and the facts about the board that it reports. `Settings.check` accepts those that satisfy
`Settings.Valid` (`check_eq_ok_iff`) and names the first rule that the others break.
-/

namespace Fastboot

/-- What is fixed about a board and reported as it stands. -/
structure BoardFacts where
  product : String := "evb"
  variant : String := "userdebug"
  bootloaderVersion : String := "fbgadget 0.1.0"
  secure : String := "no"
  /-- Reported where no lock decides. -/
  unlocked : String := "yes"
  offModeCharge : String := "0"
  batteryVoltage : String := "7.4"
  batterySocOk : String := "yes"
  deriving DecidableEq, Repr

/-- The configuration of a device. -/
structure Settings where
  /-- The size of the staging buffer in bytes. -/
  stagingCapacity : Nat := 0x8000000
  /-- The size of the buffers for one transfer in bytes. -/
  bufferSize : Nat := 4096
  facts : BoardFacts := {}
  deriving DecidableEq, Repr

/-- The packet size at high speed. Some controllers refuse a request that is not a multiple. -/
def highSpeedPacket : Nat := 512

/-- The rule that settings break. -/
inductive SettingsError where
  | unalignedBuffer (bufferSize : Nat)
  | noStaging
  /-- A download as large as the staging buffer could not be announced in 32 bits. -/
  | stagingTooLarge (stagingCapacity : Nat)
  deriving DecidableEq, Repr

def SettingsError.message : SettingsError → String
  | unalignedBuffer n => s!"ep_buffer_size {n} must be a non-zero multiple of {highSpeedPacket}"
  | noStaging => "staging_capacity must be non-zero"
  | stagingTooLarge n => "staging_capacity 0x" ++ Text.hex 0 n ++ " does not fit a DATA size"

namespace Settings

/-- Settings that a device can work with. -/
structure Valid (s : Settings) : Prop where
  bufferSize_pos : 0 < s.bufferSize
  packet_dvd : highSpeedPacket ∣ s.bufferSize
  stagingCapacity_pos : 0 < s.stagingCapacity
  stagingCapacity_lt : s.stagingCapacity < UInt32.size

/-- The first rule that the settings break, if any. -/
def check (s : Settings) : Except SettingsError Unit :=
  if s.bufferSize = 0 ∨ s.bufferSize % highSpeedPacket ≠ 0 then
    .error (.unalignedBuffer s.bufferSize)
  else if s.stagingCapacity = 0 then .error .noStaging
  else if UInt32.size ≤ s.stagingCapacity then .error (.stagingTooLarge s.stagingCapacity)
  else .ok ()

theorem check_eq_ok_iff {s : Settings} : s.check = .ok () ↔ s.Valid := by
  unfold check
  constructor
  · intro h
    split at h
    · cases h
    split at h
    · cases h
    split at h
    · cases h
    exact ⟨by omega, Nat.dvd_of_mod_eq_zero (by omega), by omega, by omega⟩
  · intro h
    have := h.bufferSize_pos
    have := Nat.mod_eq_zero_of_dvd h.packet_dvd
    have := h.stagingCapacity_pos
    have := h.stagingCapacity_lt
    rw [if_neg (by omega), if_neg (by omega), if_neg (by omega)]

theorem valid_default : ({} : Settings).Valid :=
  check_eq_ok_iff.1 rfl

end Settings

end Fastboot
