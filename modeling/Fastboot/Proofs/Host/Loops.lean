import Fastboot.Proofs.Device.Drain
import Fastboot.Proofs.Host.RoundTrip

/-!
# The loops of a host end

A host has two loops. It collects frames until none is queued or the device has left (`Device.Drains`), and it
sends the data of a download piece by piece until there is no more or something has gone wrong (`Sends`).
Neither says by itself that it ends: a frame may lead to another, and a request without room would be filled
with nothing for ever. `pump` and `sendData` are given a number of steps that they do not exceed.

`loops_end` says that in every session the loops end by themselves, and come to what `pump` and `sendData` come
to. For the frames that holds of every sound device (`Device.Sound.drains_iff`). For the data it takes an
invariant of the session: every request that is armed has room for a byte (`Device.Roomy`), and the host sends
one byte at least, so each piece leads to a later offset (`Piece.lt_stop`).
-/

namespace Fastboot

namespace Device

variable {d : Device} {settings : Settings}

/-- Every request that is armed has room for a byte. -/
def Roomy (d : Device) : Prop :=
  ∀ length, d.usb.armed = some length → 0 < length

theorem Roomy.takeOut (d : Device) : Roomy { d with usb := d.usb.takeOut.2 } :=
  nofun

theorem Roomy.onOutComplete (hroomy : d.Roomy) (h : d.Attached settings) (status : TransferStatus)
    (data : ByteArray) : (d.onOutComplete status data).Roomy := by
  by_cases henabled : d.lifecycle = .enabled
  · obtain ⟨hwired, harmed⟩ := h.toWired.received henabled status data
    intro length hlength
    obtain rfl := Option.some.inj (harmed.symm.trans hlength)
    exact hwired.sound.expected_pos
  · rw [Device.onOutComplete, if_neg henabled]
    exact hroomy

/-- Frames that go out do not touch the request. -/
theorem Sound.armed_completeIn (h : d.Sound none) : d.completeIn.2.usb.armed = d.usb.armed := by
  rcases hcomplete : d.completeIn with ⟨frame, e⟩
  cases h.collection hcomplete with
  | nothing => rfl
  | unnoticed => exact d.usb.armed_completeIn
  | followed _ _ hp hhand => rw [hhand, armed_hand, hp.usb_eq, Controller.armed_completeIn]

end Device

namespace Host

variable {h e : Host} {settings : Settings} {data : ByteArray} {offset stop : Nat}
  {offsets : List Nat} {outcome : Except HostError Unit}

/-! ### Requests have room -/

theorem Connected.roomy_moves {h' : Host} (hc : h.Connected settings) (hroomy : h.device.Roomy)
    (hmoves : Moves h h') : h'.device.Roomy := by
  refine hc.moves_of_device (fun _ => .takeOut _) (fun hd hroomy data => ?_) (fun hd hroomy => ?_)
    hroomy hmoves
  · exact hroomy.onOutComplete hd .completed data
  · intro length hlength
    exact hroomy length (hd.sound.armed_completeIn.symm.trans hlength)

/-- **Requests have room**, whatever a session has been through. -/
theorem Reachable.roomy (hr : Reachable settings h) : h.device.Roomy := by
  induction hr with
  | connect hconnect =>
    obtain ⟨hvalid, rfl⟩ := connect_eq_ok_iff.mp hconnect
    intro length hlength
    exact Option.some.inj hlength ▸ hvalid.bufferSize_pos
  | withChunk _ _ ih => exact ih
  | deliver hr bytes ih => exact hr.connected.roomy_moves ih (.single (.deliver bytes))
  | pump hr ih => exact hr.connected.roomy_moves ih (.single .pump)
  | send hr command ih => exact hr.connected.roomy_moves ih (moves_send _ command)
  | command hr command ih => exact hr.connected.roomy_moves ih (moves_command _ command)
  | download hr data ih => exact hr.connected.roomy_moves ih (moves_download _ data)
  | upload hr ih => exact hr.connected.roomy_moves ih (moves_upload _)
  | world _ husb board ih =>
    intro length hlength
    rcases husb.armed_eq with hnone | hsame
    · cases hnone.symm.trans hlength
    · exact ih length (hsame.symm.trans hlength)

/-! ### The data loop -/

/-- The next piece of the data goes from `offset` to `stop`. -/
structure Piece (data : ByteArray) (offset : Nat) (h : Host) (stop : Nat) : Prop where
  offset_lt : offset < data.size
  exists_armed : ∃ armed, h.device.usb.armed = some armed ∧
    stop = min data.size (offset + min armed h.chunk)

/-- The loop that sends the data from an offset on: the offsets that it moves to, one after the other, what
comes of it, and the host afterwards. -/
inductive Sends (data : ByteArray) : Nat → Host → List Nat → Except HostError Unit → Host → Prop where
  | sent {offset : Nat} {h : Host} (hend : data.size ≤ offset) : Sends data offset h [] (.ok ()) h
  | stopped {offset : Nat} {h : Host} (hlt : offset < data.size)
      (harmed : h.device.usb.armed = none) : Sends data offset h [] (.error (.stopped offset)) h
  | refused {offset stop : Nat} {h e : Host} {error : HostError} (hpiece : Piece data offset h stop)
      (hdeliver : h.deliver (data.extract offset stop) = (.error error, e)) :
      Sends data offset h [] (.error error) e
  | early {offset stop : Nat} {h e : Host} (hpiece : Piece data offset h stop)
      (hdeliver : h.deliver (data.extract offset stop) = (.ok (), e))
      (hearly : stop ≠ data.size ∧ e.device.usb.pending.isSome = true) :
      Sends data offset h [stop] (.error (.answeredEarly stop)) e
  | next {offset stop : Nat} {h h' e : Host} {offsets : List Nat} {outcome : Except HostError Unit}
      (hpiece : Piece data offset h stop)
      (hdeliver : h.deliver (data.extract offset stop) = (.ok (), h'))
      (hquiet : ¬ (stop ≠ data.size ∧ h'.device.usb.pending.isSome = true))
      (hrest : Sends data stop h' offsets outcome e) : Sends data offset h (stop :: offsets) outcome e

theorem Piece.stop_le (hpiece : Piece data offset h stop) : stop ≤ data.size := by
  obtain ⟨armed, -, rfl⟩ := hpiece.exists_armed
  exact Nat.min_le_left _ _

/-- **Every piece has a byte.** -/
theorem Piece.lt_stop (hpiece : Piece data offset h stop) (hr : Reachable settings h) :
    offset < stop := by
  have hlt := hpiece.offset_lt
  obtain ⟨armed, harmed, rfl⟩ := hpiece.exists_armed
  have hroom := hr.roomy armed harmed
  have hchunk := hr.connected.chunk_pos
  omega

theorem Piece.sendData_error {error : HostError} (hpiece : Piece data offset h stop)
    (hdeliver : h.deliver (data.extract offset stop) = (.error error, e)) (pieces : Nat) :
    sendData data (pieces + 1) offset h = (.error error, e) := by
  have hlt := hpiece.offset_lt
  obtain ⟨armed, harmed, rfl⟩ := hpiece.exists_armed
  rw [sendData, if_neg (Nat.not_le_of_lt hlt)]
  simp only [harmed, hdeliver]

theorem Piece.sendData_ok (hpiece : Piece data offset h stop)
    (hdeliver : h.deliver (data.extract offset stop) = (.ok (), e)) (pieces : Nat) :
    sendData data (pieces + 1) offset h =
      if stop ≠ data.size ∧ e.device.usb.pending.isSome then (.error (.answeredEarly stop), e)
      else sendData data pieces stop e := by
  have hlt := hpiece.offset_lt
  obtain ⟨armed, harmed, rfl⟩ := hpiece.exists_armed
  rw [sendData, if_neg (Nat.not_le_of_lt hlt)]
  simp only [harmed, hdeliver]

theorem Reachable.of_deliver {bytes : ByteArray} (hr : Reachable settings h)
    (hdeliver : h.deliver bytes = (outcome, e)) : Reachable settings e := by
  have hreached := hr.deliver bytes
  rwa [hdeliver] at hreached

/-- The loop moves on with every piece, and not beyond the data. -/
theorem Sends.isChain (hsends : Sends data offset h offsets outcome e) (hr : Reachable settings h) :
    (offset :: offsets).IsChain (· < ·) ∧ ∀ stop ∈ offsets, stop ≤ data.size := by
  induction hsends with
  | sent => simp
  | stopped => simp
  | refused => simp
  | early hpiece _ _ => simp [hpiece.lt_stop hr, hpiece.stop_le]
  | next hpiece hdeliver _ _ ih =>
    obtain ⟨hchain, hbound⟩ := ih (hr.of_deliver hdeliver)
    exact ⟨hchain.cons_cons (hpiece.lt_stop hr), List.forall_mem_cons.mpr ⟨hpiece.stop_le, hbound⟩⟩

/-- The loop comes to what `sendData` comes to, if that may send as many pieces as there are bytes. -/
theorem Sends.sendData_eq (hsends : Sends data offset h offsets outcome e)
    (hr : Reachable settings h) {pieces : Nat} (hpieces : data.size - offset ≤ pieces) :
    sendData data pieces offset h = (outcome, e) := by
  induction hsends generalizing pieces with
  | sent hend => exact sendData_of_le hend pieces
  | stopped hlt harmed =>
    obtain ⟨pieces, rfl⟩ := Nat.exists_eq_add_one_of_ne_zero (show pieces ≠ 0 by omega)
    rw [sendData, if_neg (Nat.not_le_of_lt hlt)]
    simp only [harmed]
  | refused hpiece hdeliver =>
    have hlt := hpiece.offset_lt
    obtain ⟨pieces, rfl⟩ := Nat.exists_eq_add_one_of_ne_zero (show pieces ≠ 0 by omega)
    exact hpiece.sendData_error hdeliver pieces
  | early hpiece hdeliver hearly =>
    have hlt := hpiece.offset_lt
    obtain ⟨pieces, rfl⟩ := Nat.exists_eq_add_one_of_ne_zero (show pieces ≠ 0 by omega)
    rw [hpiece.sendData_ok hdeliver, if_pos hearly]
  | next hpiece hdeliver hquiet _ ih =>
    have hlt := hpiece.offset_lt
    have hmore := hpiece.lt_stop hr
    obtain ⟨pieces, rfl⟩ := Nat.exists_eq_add_one_of_ne_zero (show pieces ≠ 0 by omega)
    rw [hpiece.sendData_ok hdeliver, if_neg hquiet]
    exact ih (hr.of_deliver hdeliver) (by omega)

/-- The loop ends. -/
theorem Reachable.exists_sends (hr : Reachable settings h) {pieces : Nat}
    (hpieces : data.size - offset ≤ pieces) :
    ∃ offsets outcome e, Sends data offset h offsets outcome e := by
  -- every piece has a byte, so there are no more pieces than bytes to go
  induction pieces generalizing h offset with
  | zero => exact ⟨[], .ok (), h, .sent (by omega)⟩
  | succ pieces ih =>
    rcases Nat.lt_or_ge offset data.size with hlt | hend
    · cases harmed : h.device.usb.armed with
      | none => exact ⟨[], _, h, .stopped hlt harmed⟩
      | some armed =>
        have hpiece : Piece data offset h (min data.size (offset + min armed h.chunk)) :=
          ⟨hlt, armed, harmed, rfl⟩
        have hmore := hpiece.lt_stop hr
        generalize min data.size (offset + min armed h.chunk) = stop at hpiece hmore
        rcases hdeliver : h.deliver (data.extract offset stop) with ⟨error | ⟨⟩, e⟩
        · exact ⟨[], _, e, .refused hpiece hdeliver⟩
        · by_cases hearly : stop ≠ data.size ∧ e.device.usb.pending.isSome = true
          · exact ⟨[stop], _, e, .early hpiece hdeliver hearly⟩
          · obtain ⟨offsets, outcome, e', hrest⟩ :=
              ih (hr.of_deliver hdeliver) (show data.size - stop ≤ pieces by omega)
            exact ⟨stop :: offsets, outcome, e', .next hpiece hdeliver hearly hrest⟩
    · exact ⟨[], .ok (), h, .sent hend⟩

/-! ### Both loops -/

/-- **The loops of a host end**, in every session and in one way only, and `pump` and `sendData` come to the
same. Frames are collected until none is queued, no more of them than two and the chunks of what there was to
fetch. Data is sent piece by piece, from each offset to a later one. -/
theorem loops_end (hr : Reachable settings h) :
    (∃ frames e, (∀ frames' e', Device.Drains h.device frames' e' ↔ frames' = frames ∧ e' = e) ∧
      h.pump = (frames, { h with device := e }) ∧
      frames.length ≤ h.device.transfer.uploadSize.toNat ⌈/⌉ settings.bufferSize + 2) ∧
    ∀ data offset, ∃ outcome e, sendData data data.size offset h = (outcome, e) ∧
      (∃ offsets, Sends data offset h offsets outcome e) ∧
      ∀ offsets outcome' e', Sends data offset h offsets outcome' e' → outcome' = outcome ∧ e' = e ∧
        (offset :: offsets).IsChain (· < ·) ∧ ∀ stop ∈ offsets, stop ≤ data.size := by
  have hdevice := hr.connected.device
  refine ⟨⟨h.device.drain.1, h.device.drain.2, fun frames' e' => ?_, rfl, ?_⟩, fun data offset => ?_⟩
  · rw [hdevice.sound.drains_iff, Prod.ext_iff, eq_comm (b := frames'), eq_comm (b := e')]
  · have hlength := hdevice.sound.length_drain_le
    rwa [hdevice.settings_eq] at hlength
  · have hpieces : data.size - offset ≤ data.size := Nat.sub_le _ _
    obtain ⟨offsets, outcome, e, hsends⟩ := hr.exists_sends hpieces
    have hsame := hsends.sendData_eq hr hpieces
    refine ⟨outcome, e, hsame, ⟨offsets, hsends⟩, fun offsets' outcome' e' hsends' => ?_⟩
    obtain ⟨rfl, rfl⟩ := Prod.mk.inj ((hsends'.sendData_eq hr hpieces).symm.trans hsame)
    exact ⟨rfl, rfl, hsends'.isChain hr⟩

/-- In the middle of an upload of three bytes the bound is met. Behind the next download command, five bytes
are sent two at a time. -/
theorem loops_end_busy :
    (∃ frames e, Device.Drains busy.device frames e ∧
      frames.length = busy.device.transfer.uploadSize.toNat ⌈/⌉ ({} : Settings).bufferSize + 2) ∧
    ∃ offsets e, Sends "abcde".toUTF8 0 (busy.command (downloadCommand 5)).2 offsets (.ok ()) e ∧
      (0 :: offsets).IsChain (· < ·) := by
  obtain ⟨⟨frames, e, hdrains, hpump, -⟩, -⟩ := loops_end reachable_busy
  have hframes : busy.pump.1.length =
      busy.device.transfer.uploadSize.toNat ⌈/⌉ ({} : Settings).bufferSize + 2 := by decide +kernel
  rw [hpump] at hframes
  obtain ⟨-, hdata⟩ := loops_end (reachable_busy.command (downloadCommand 5))
  obtain ⟨outcome, e', hsame, ⟨offsets, hsends⟩, hall⟩ := hdata "abcde".toUTF8 0
  obtain rfl : outcome = .ok () := (congrArg Prod.fst hsame).symm.trans (by decide +kernel)
  exact ⟨⟨frames, e, (hdrains frames e).mpr ⟨rfl, rfl⟩, hframes⟩, offsets, e', hsends,
    (hall offsets _ e' hsends).2.2.1⟩

end Host

end Fastboot
