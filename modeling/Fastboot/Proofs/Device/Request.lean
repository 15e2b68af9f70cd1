import Fastboot.Proofs.Device.DataPhase
import Mathlib.Order.Bounds.Defs

/-!
# Requests for the host to fill

`Arming d c e` lists the calls of a device `d` that arm a request: the start of a session, and each
transfer that comes in during one. `e` is the device by then. Up to there the call has left the
armed request alone, and one request is all that follows.

Its length is the buffer outside a download. During one it is what is still to come, up to the
buffer, in whole packets (`isLeast_requestLength`). Some of it is always still to come, since the
counters are consistent, and packets that make up the buffer never pass it. So the host finds room
for what it has to send, and for no more than the buffer holds (`request_run`).
-/

namespace Fastboot

/-- **What is still to come, in whole packets.** The request is the shortest that has room for it,
or for as much of it as the buffer holds. -/
theorem Transfer.isLeast_requestLength (t : Transfer) {bufferSize maxPacket : Nat}
    (hpos : 0 < maxPacket) (hdvd : maxPacket ∣ bufferSize) :
    IsLeast {n | maxPacket ∣ n ∧ min t.downloadRemaining.toNat bufferSize ≤ n}
      (t.requestLength bufferSize maxPacket) := by
  unfold requestLength
  generalize t.downloadRemaining.toNat = remaining
  rw [Nat.max_eq_left hpos]
  dsimp only
  split
  · rename_i hmore
    rw [Nat.min_eq_right (Nat.le_of_lt hmore)]
    exact ⟨⟨hdvd, Nat.le_refl _⟩, fun n hn => hn.2⟩
  · rename_i hfits
    rw [Nat.min_eq_left (Nat.le_of_not_lt hfits)]
    split
    · rename_i hwhole
      exact ⟨⟨Nat.dvd_of_mod_eq_zero hwhole, Nat.le_refl _⟩, fun n hn => hn.2⟩
    · rename_i hextra
      -- the last packet is not full, and the request ends where it would be
      have hlt := Nat.mod_lt remaining hpos
      have hdiv := Nat.div_add_mod remaining maxPacket
      have hround : remaining + (maxPacket - remaining % maxPacket) =
          maxPacket * (remaining / maxPacket + 1) := by
        rw [Nat.mul_add, Nat.mul_one]
        omega
      rw [hround]
      refine ⟨⟨Nat.dvd_mul_right _ _, show remaining ≤ _ by omega⟩, ?_⟩
      rintro n ⟨⟨packets, rfl⟩, hroom⟩
      refine Nat.mul_le_mul_left maxPacket (Nat.succ_le_of_lt ?_)
      refine Nat.lt_of_mul_lt_mul_left (a := maxPacket) ?_
      have hne : remaining % maxPacket ≠ 0 := hextra
      omega

namespace Device

variable {d e : Device} {c : Call} {status : TransferStatus} {data : ByteArray}

/-- The calls at whose end a request is armed, and the device by then. -/
inductive Arming (d : Device) : Call → Device → Prop where
  | enable (hlive : d.lifecycle ≠ .halted) :
      Arming d .enable { d with
        inbound := some (.empty d.settings.bufferSize), transfer := {}, lifecycle := .enabled }
  | received (status : TransferStatus) (data : ByteArray) (henabled : d.lifecycle = .enabled) :
      Arming d (.received status data) ((d.receive status data).1.hand (d.receive status data).2)

/-- Up to the request, a call keeps its hands off requests. -/
theorem Arming.usb_eq (h : d.Arming c e) (hs : d.Sound none) :
    ∃ pending cancelled failNext, e.usb = { d.usb with pending, cancelled, failNext } := by
  cases h with
  | enable => exact ⟨_, _, _, rfl⟩
  | received status data henabled =>
    have husb := (reception_receive hs henabled status data).usb_eq
    rcases (d.receive status data).2 with _ | o
    · exact ⟨_, _, _, husb⟩
    · rw [usb_hand_some, husb]
      exact d.usb.replaceIn_snd_eq o.frame

/-- The device is in order when the request is armed, and in a session. -/
theorem Arming.sound (h : d.Arming c e) (hs : d.Sound none) :
    e.Sound none ∧ e.settings = d.settings ∧ e.lifecycle = .enabled := by
  cases h with
  | enable hlive =>
    have ht : Taking d .enable _ none :=
      .restart .enable d.usb (some (.empty d.settings.bufferSize)) d.requested .enabled (.inl rfl)
        hlive fun _ => rfl
    exact ⟨hs.of_taking ht, rfl, rfl⟩
  | received status data henabled =>
    have hr := reception_receive hs henabled status data
    refine ⟨(hs.of_reception henabled hr).hand, ?_, ?_⟩
    · rw [settings_hand, hr.settings_eq]
    · rw [lifecycle_hand, hr.lifecycle_eq, henabled]

/-- One request is all that follows, of the length that the mode asks for. -/
theorem Arming.call_eq (h : d.Arming c e) (hs : d.Sound none) :
    d.call c = (e.request e.expected).2 := by
  obtain ⟨-, -, henabled⟩ := h.sound hs
  cases h with
  | enable hlive =>
    rw [call, Device.enable, if_neg hlive]
    rfl
  | received status data hlive =>
    rw [call, onOutComplete_of_enabled hlive, arm, if_pos henabled]
    rfl

/-- A request that is not refused leaves the device as it was but for that. -/
theorem request_of_accepted (htakes : d.usb.refusesOut = false) (length : Nat) :
    (d.request length).2 =
      { d with usb := { d.usb with armed := some length }, requested := length } := by
  simp only [request, Controller.queueOut, htakes, Bool.false_eq_true, if_false]

/-- During a download something is still to come. -/
theorem Sound.downloadRemaining_pos (h : d.Sound none) (hmode : d.transfer.mode = .downloading) :
    0 < d.transfer.downloadRemaining.toNat := by
  have hlt := h.consistent.downloadBytes_lt hmode
  rw [Transfer.toNat_downloadRemaining]
  omega

/-- The length of a request, in whole packets: some, and no more than the buffer holds. -/
theorem Sound.expected_bounds (h : d.Sound none) (hpos : 0 < d.usb.maxPacket)
    (hdvd : d.usb.maxPacket ∣ d.settings.bufferSize) :
    0 < d.expected ∧ d.usb.maxPacket ∣ d.expected ∧ d.expected ≤ d.settings.bufferSize ∧
      min d.transfer.downloadRemaining.toNat d.settings.bufferSize ≤ d.expected := by
  by_cases hmode : d.transfer.mode = .downloading
  · have hexpected : d.expected =
        d.transfer.requestLength d.settings.bufferSize d.usb.maxPacket := by
      rw [expected, hmode]
    obtain ⟨⟨hpackets, hroom⟩, hleast⟩ := d.transfer.isLeast_requestLength hpos hdvd
    have hremaining := h.downloadRemaining_pos hmode
    have hbuffer := h.valid.bufferSize_pos
    rw [hexpected]
    exact ⟨by omega, hpackets, hleast ⟨hdvd, Nat.min_le_right _ _⟩, hroom⟩
  · rw [expected_of_ne hmode]
    exact ⟨h.valid.bufferSize_pos, hdvd, Nat.le_refl _, Nat.min_le_right _ _⟩

/-- **Every request has room for what the host has to send.** Whatever a device has been through,
over a controller that takes requests and whose packets make up the buffer, each start of a session
and each transfer that comes in during one arms one request. It is as long as the buffer outside a
download, and during one it is the shortest of whole packets with room for what is still to come, or
for as much of it as the buffer holds. So it is never empty, never longer than the buffer and never
too short. -/
theorem request_run {settings : Settings} {usb : Controller} {board : Board}
    (hbind : bind settings usb board = .ok d) (before : List Action)
    (harming : (d.run before).Arming c e) {maxPacket : Nat}
    (hpacket : (d.run before).usb.maxPacket = maxPacket) (hpos : 0 < maxPacket)
    (hdvd : maxPacket ∣ settings.bufferSize) (htakes : (d.run before).usb.refusesOut = false) :
    ∃ after length, after = (d.run before).call c ∧
      e.usb.armed = (d.run before).usb.armed ∧ after = (e.request length).2 ∧
      after.usb.armed = some length ∧
      (after.transfer.mode ≠ .downloading → length = settings.bufferSize) ∧
      (after.transfer.mode = .downloading → IsLeast
        {n | maxPacket ∣ n ∧ min after.transfer.downloadRemaining.toNat settings.bufferSize ≤ n}
        length) ∧
      0 < length ∧ maxPacket ∣ length ∧ length ≤ settings.bufferSize ∧
      min after.transfer.downloadRemaining.toNat settings.bufferSize ≤ length := by
  have hs := (sound_of_bind hbind).run before
  have hsettings : d.settings = settings := by
    obtain ⟨-, rfl⟩ := bind_eq_ok_iff.mp hbind
    rfl
  obtain ⟨pending, cancelled, failNext, husb⟩ := harming.usb_eq hs
  obtain ⟨hsound, hkept, -⟩ := harming.sound hs
  rw [(sound_of_bind hbind).settings_run, hsettings] at hkept
  have hpacket' : e.usb.maxPacket = maxPacket := by rw [husb, hpacket]
  have htakes' : e.usb.refusesOut = false := by rw [husb, htakes]
  have hbounds := hsound.expected_bounds (by rw [hpacket']; exact hpos)
    (by rw [hpacket', hkept]; exact hdvd)
  rw [hpacket', hkept] at hbounds
  have hcall := harming.call_eq hs
  have hafter := hcall.trans (request_of_accepted htakes' e.expected)
  refine ⟨_, e.expected, rfl, by rw [husb], hcall, by rw [hafter], ?_, ?_, ?_⟩
  · rw [hafter]
    intro hmode
    have hother : e.transfer.mode ≠ .downloading := hmode
    rw [expected_of_ne hother, hkept]
  · rw [hafter]
    intro hmode
    have hdown : e.transfer.mode = .downloading := hmode
    rw [expected, hdown, hkept, hpacket']
    exact e.transfer.isLeast_requestLength hpos hdvd
  · rw [hafter]
    exact hbounds

/-- A device with a staging buffer of a few bytes, at full speed. -/
def fullSpeed : Device :=
  { tiny with usb := { maxPacket := 64 } }

theorem bind_fullSpeed : bind fullSpeed.settings fullSpeed.usb {} = .ok fullSpeed :=
  rfl

/-- A download of 33 bytes is asked for in one packet, while the request of the command is still
armed. -/
theorem request_run_fullSpeed :
    let before := [.call .enable]
    (fullSpeed.run before).usb.armed = some 512 ∧
      ∃ after, after = (fullSpeed.run before).call (.received .completed "download:00000021".toUTF8) ∧
        after.transfer.downloadRemaining.toNat = 33 ∧ after.usb.armed = some 64 ∧
        IsLeast {n | 64 ∣ n ∧ 33 ≤ n} 64 := by
  intro before
  have harming : (fullSpeed.run before).Arming (.received .completed "download:00000021".toUTF8) _ :=
    .received _ _ (by decide +kernel)
  have hpacket : (fullSpeed.run before).usb.maxPacket = 64 := by decide +kernel
  obtain ⟨after, length, hafter, -, -, harmed, -, hleast, -⟩ :=
    request_run bind_fullSpeed before harming hpacket (by decide) (by decide) (by decide +kernel)
  have hmode : after.transfer.mode = .downloading := by
    rw [hafter]
    decide +kernel
  have hremaining : after.transfer.downloadRemaining.toNat = 33 := by
    rw [hafter]
    decide +kernel
  have hlength : after.usb.armed = some 64 := by
    rw [hafter]
    decide +kernel
  obtain rfl : length = 64 := Option.some.inj (harmed.symm.trans hlength)
  have hroom := hleast hmode
  rw [hremaining] at hroom
  exact ⟨by decide +kernel, after, hafter, hremaining, harmed, hroom⟩

end Device

end Fastboot
