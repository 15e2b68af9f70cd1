import Fastboot.Proofs.Command.Alike
import Fastboot.Proofs.Device.Link

/-!
# Devices that nobody can tell apart

`Device.Alike` carries `Target.Alike` over to devices: two of them may differ in what lies in their staging
buffers behind the bytes exposed, in the events of the past, and in the frames that have gone out from their
controllers or were cancelled there. The frame that the host can still collect is the same. Every call takes
them to devices that are alike and offers the same frame on both sides (`Alike.take`, `Alike.call`).
-/

namespace Fastboot

namespace Transfer

/-- To end a data phase exposes nothing that was not exposed. -/
theorem exposed_finishUpload_le (t : Transfer) : t.finishUpload.exposed ≤ t.exposed := by
  simp only [exposed, finishUpload, UInt32.toNat_zero]
  omega

theorem exposed_finishDownload_le (t : Transfer) : t.finishDownload.exposed ≤ t.exposed := by
  simp only [exposed, finishDownload]
  omega

/-- Whether the counter overflows or not, it moves by no more than what is counted. -/
theorem toNat_downloadBytes_stored_le (t : Transfer) (count : Nat) :
    (t.stored count).downloadBytes.toNat ≤ t.downloadBytes.toNat + count := by
  have hcount : (UInt32.ofNat count).toNat ≤ count := Nat.mod_le _ _
  rw [stored, UInt32.toNat_add]
  exact (Nat.mod_le _ _).trans (Nat.add_le_add_left hcount _)

end Transfer

namespace Controller

/-- Two controllers that do the same with what a device asks of them, and hold the same for the host. -/
structure Alike (c c' : Controller) : Prop where
  maxPacket_eq : c'.maxPacket = c.maxPacket
  armed_eq : c'.armed = c.armed
  pending_eq : c'.pending = c.pending
  failNext_eq : c'.failNext = c.failNext
  refusesOut_eq : c'.refusesOut = c.refusesOut

namespace Alike

variable {c c' : Controller}

theorem queueOut (h : c.Alike c') (length : Nat) :
    (c'.queueOut length).1 = (c.queueOut length).1 ∧
      (c.queueOut length).2.Alike (c'.queueOut length).2 := by
  rw [Controller.queueOut, Controller.queueOut]
  by_cases hrefuses : c.refusesOut = true
  · rw [if_pos hrefuses, if_pos (h.refusesOut_eq.trans hrefuses)]
    exact ⟨rfl, h⟩
  · rw [if_neg hrefuses, if_neg (h.refusesOut_eq ▸ hrefuses)]
    exact ⟨rfl, { h with armed_eq := rfl }⟩

theorem cancelIn (h : c.Alike c') : c.cancelIn.Alike c'.cancelIn := by
  rw [cancelIn_eq, cancelIn_eq]
  exact { h with pending_eq := rfl }

/-- A frame is refused by both or taken by both. -/
theorem replaceIn (h : c.Alike c') (frame : ByteArray) :
    (∃ usb usb', c.replaceIn frame = (.error injected, usb) ∧
        c'.replaceIn frame = (.error injected, usb') ∧ usb.Alike usb') ∨
      ∃ usb usb', c.replaceIn frame = (.ok (), usb) ∧ c'.replaceIn frame = (.ok (), usb') ∧
        usb.Alike usb' := by
  rw [replaceIn_eq, replaceIn_eq, h.failNext_eq]
  split_ifs
  · exact .inl ⟨_, _, rfl, rfl, { h.cancelIn with failNext_eq := rfl }⟩
  · exact .inr ⟨_, _, rfl, rfl, { h.cancelIn with pending_eq := rfl }⟩

theorem takeOut (h : c.Alike c') : c.takeOut.2.Alike c'.takeOut.2 :=
  { h with armed_eq := rfl }

theorem completeIn (h : c.Alike c') : c.completeIn.2.Alike c'.completeIn.2 := by
  have hpending : c'.completeIn.2.pending = c.completeIn.2.pending := by
    rw [pending_completeIn, pending_completeIn]
  obtain ⟨_, _, hcomplete⟩ := c.completeIn_snd_eq
  obtain ⟨_, _, hcomplete'⟩ := c'.completeIn_snd_eq
  rw [hcomplete, hcomplete'] at hpending ⊢
  exact { h with pending_eq := hpending }

theorem failNextQueue (h : c.Alike c') : c.failNextQueue.Alike c'.failNextQueue :=
  { h with failNext_eq := rfl }

end Alike

end Controller

namespace Device

/-- Two devices that agree on all that shows, and on the events since `seen` and `seen'`. -/
structure Alike (seen seen' : List Event) (d d' : Device) : Prop extends
    Target.Alike seen seen' d.toTarget d'.toTarget where
  usb : d.usb.Alike d'.usb
  inbound_eq : d'.inbound = d.inbound
  requested_eq : d'.requested = d.requested
  lifecycle_eq : d'.lifecycle = d.lifecycle

/-- The same frame on offer, from devices that are alike. -/
def AlikeWith (seen seen' : List Event) (x x' : Device × Option Offer) : Prop :=
  Alike seen seen' x.1 x'.1 ∧ x'.2 = x.2

namespace Alike

variable {seen seen' : List Event} {d d' : Device}

/-- Whatever is on offer, it is the same. -/
theorem offering (h : Alike seen seen' d d') (offer : Option Offer) :
    AlikeWith seen seen' (d, offer) (d', offer) :=
  ⟨h, rfl⟩

/-- What has been reported by now is past. -/
theorem rebase (h : Alike seen seen' d d') :
    Alike d.events.toList d'.events.toList d d' :=
  { h with toAlike := h.toAlike.rebase }

theorem withTarget (h : Alike seen seen' d d') {t t' : Target}
    (ht : Target.Alike seen seen' t t') :
    Alike seen seen' { d with toTarget := t } { d' with toTarget := t' } :=
  { h with toAlike := ht }

theorem transition (h : Alike seen seen' d d') {change : Transfer → Transfer}
    (hle : (change d.transfer).exposed ≤ d.transfer.exposed) :
    Alike seen seen' (d.transition change) (d'.transition change) :=
  h.withTarget (h.toAlike.transition hle)

theorem emit (h : Alike seen seen' d d') (e : Event) :
    Alike seen seen' (d.onTarget (·.emit e)) (d'.onTarget (·.emit e)) :=
  h.withTarget (h.toAlike.emit e)

theorem progress (h : Alike seen seen' d d') (direction : Direction) (old new total : UInt32) :
    Alike seen seen' (d.onTarget (·.progress direction old new total))
      (d'.onTarget (·.progress direction old new total)) :=
  h.withTarget (h.toAlike.progress direction old new total)

/-- The exchange may change as long as it exposes no more than before. -/
theorem withTransfer (h : Alike seen seen' d d') {transfer : Transfer}
    (hle : transfer.exposed ≤ d.transfer.exposed) :
    Alike seen seen' { d with transfer } { d' with transfer } :=
  h.withTarget (h.toAlike.withTransfer hle)

/-! ### Frames and requests -/

theorem request (h : Alike seen seen' d d') (length : Nat) :
    Alike seen seen' (d.request length).2 (d'.request length).2 :=
  { h with usb := (h.usb.queueOut length).2, requested_eq := rfl }

theorem arm (h : Alike seen seen' d d') : Alike seen seen' d.arm d'.arm := by
  rw [Device.arm, Device.arm, h.lifecycle_eq, h.transfer_eq, h.settings_eq, h.usb.maxPacket_eq]
  split_ifs
  · exact h.request _
  · exact h

/-- The controller may change as long as both behave alike. -/
theorem withUsb (h : Alike seen seen' d d') {usb usb' : Controller} (husb : usb.Alike usb') :
    Alike seen seen' { d with usb } { d' with usb := usb' } :=
  { h with usb := husb }

theorem queueResponse (h : Alike seen seen' d d') (response : Response) (next : Continuation)
    (frame : Frame) : Alike seen seen' (d.queueResponse response next frame)
      (d'.queueResponse response next frame) := by
  rw [Device.queueResponse, Device.queueResponse, h.transfer_eq]
  rcases h.usb.replaceIn frame.bytes with
    ⟨usb, usb', hreplace, hreplace', husb⟩ | ⟨usb, usb', hreplace, hreplace', husb⟩
  · rw [hreplace, hreplace']
    exact (h.withUsb husb).withTransfer (Nat.le_refl d.transfer.exposed)
  · rw [hreplace, hreplace']
    have hqueued := (h.withUsb husb).withTransfer
      (show Transfer.exposed { d.transfer with next, inFlight := true } ≤ d.transfer.exposed from
        Nat.le_refl _)
    exact hqueued.emit (.response response.text)

theorem sendReply (h : Alike seen seen' d d') (reply : Reply) :
    Alike seen seen' (d.sendReply reply) (d'.sendReply reply) := by
  obtain ⟨frame, htext, hsend⟩ := d.sendReply_eq reply
  obtain ⟨frame', htext', hsend'⟩ := d'.sendReply_eq reply
  obtain rfl : frame = frame' := Frame.ext (htext.trans htext'.symm)
  rw [hsend, hsend']
  exact h.queueResponse _ _ frame

theorem queueChunk (h : Alike seen seen' d d') (chunk : ByteArray) :
    Alike seen seen' (d.queueChunk chunk) (d'.queueChunk chunk) := by
  rw [Device.queueChunk, Device.queueChunk, h.transfer_eq]
  rcases h.usb.replaceIn chunk with
    ⟨usb, usb', hreplace, hreplace', husb⟩ | ⟨usb, usb', hreplace, hreplace', husb⟩
  · rw [hreplace, hreplace']
    have hrefused := (h.withUsb husb).withTransfer
      (show Transfer.exposed { d.transfer with startUpload := true, next := .done } ≤
        d.transfer.exposed from Nat.le_refl _)
    exact hrefused.transition (Transfer.exposed_finishUpload_le _)
  · rw [hreplace, hreplace']
    exact (h.withUsb husb).withTransfer (Nat.le_refl d.transfer.exposed)

theorem hand (h : Alike seen seen' d d') (offer : Option Offer) :
    Alike seen seen' (d.hand offer) (d'.hand offer) := by
  rcases offer with _ | reply | data
  · exact h
  · exact h.sendReply reply
  · exact h.queueChunk data

/-! ### Incoming transfers -/

theorem endUpload (h : Alike seen seen' d d') : Alike seen seen' d.endUpload d'.endUpload := by
  rw [Device.endUpload, Device.endUpload, h.transfer_eq]
  split_ifs
  · exact h.transition (Transfer.exposed_finishUpload_le _)
  · exact h

/-- A command gets the same reply from both. -/
theorem runCommand (h : Alike seen seen' d d') (received : ByteArray) :
    (d'.runCommand received).1 = (d.runCommand received).1 ∧
      Alike seen seen' (d.runCommand received).2 (d'.runCommand received).2 := by
  rw [Device.runCommand, Device.runCommand]
  rcases commandText? received with _ | text
  · exact ⟨rfl, h⟩
  · obtain ⟨hreply, htarget⟩ := Command.alike_dispatch (h.toAlike.emit (.command text)) text
    exact ⟨hreply, h.withTarget htarget⟩

theorem receiveInbound (h : Alike seen seen' d d') (data : ByteArray) :
    AlikeWith seen seen' (d.receiveInbound data) (d'.receiveInbound data) := by
  rw [Device.receiveInbound, Device.receiveInbound, h.inbound_eq]
  rcases d.inbound with _ | inbound
  · exact h.offering none
  dsimp only
  rcases inbound.writeAt 0 data with _ | inbound
  · exact h.offering none
  dsimp only
  rcases inbound.take data.size with _ | received
  · exact h.offering none
  · obtain ⟨hreply, hrun⟩ := h.runCommand received
    exact ⟨{ hrun with inbound_eq := rfl }, congrArg (some ∘ Offer.reply) hreply⟩

theorem receiveCommand (h : Alike seen seen' d d') (status : TransferStatus) (data : ByteArray) :
    AlikeWith seen seen' (d.receiveCommand status data) (d'.receiveCommand status data) := by
  rcases status with _ | code
  · rw [Device.receiveCommand, Device.receiveCommand, h.endUpload.settings_eq]
    split_ifs
    · exact h.endUpload.offering _
    · exact h.endUpload.receiveInbound data
  · exact h.offering none

theorem failDownload (h : Alike seen seen' d d') (fault : Fault) :
    AlikeWith seen seen' (d.failDownload fault) (d'.failDownload fault) :=
  (h.transition (Nat.zero_le _)).offering _

theorem closeDownload (h : Alike seen seen' d d') :
    AlikeWith seen seen' d.closeDownload d'.closeDownload := by
  rw [Device.closeDownload, Device.closeDownload, h.transfer_eq]
  split_ifs
  · exact ((h.emit _).transition (Transfer.exposed_finishDownload_le _)).offering _
  · exact h.offering none

theorem countDownload (h : Alike seen seen' d d') {staging staging' : Buffer} {count : Nat}
    (hstaging : staging.Alike staging'
      (max d.transfer.exposed (d.transfer.downloadBytes.toNat + count))) :
    Alike seen seen' ({ d with staging }.countDownload count)
      ({ d' with staging := staging' }.countDownload count) := by
  have hcounted := d.transfer.toNat_downloadBytes_stored_le count
  rw [Device.countDownload, Device.countDownload]
  dsimp only
  rw [h.transfer_eq]
  refine progress (h.withTarget (h.toAlike.withStaging hstaging ?_)) _ _ _ _
  simp only [Transfer.exposed, Transfer.stored] at hcounted ⊢
  omega

/-- A piece of a download is staged where the last one ended, so it leaves no gap. -/
theorem receiveData (h : Alike seen seen' d d') (status : TransferStatus) (data : ByteArray) :
    AlikeWith seen seen' (d.receiveData status data) (d'.receiveData status data) := by
  rcases status with _ | code
  · rw [Device.receiveData, Device.receiveData, h.transfer_eq]
    dsimp only
    obtain ⟨count, hcount⟩ : ∃ count, count = min data.size d.transfer.downloadRemaining.toNat :=
      ⟨_, rfl⟩
    rw [← hcount]
    have hexposed : d.transfer.downloadBytes.toNat ≤ d.transfer.exposed := by
      simp only [Transfer.exposed]
      omega
    rcases h.toAlike.stage (data.extract 0 count) hexposed with
      ⟨e, hstage, hstage'⟩ | ⟨staging, staging', hstage, hstage', hstaging⟩
    · rw [hstage, hstage']
      exact h.failDownload (.staging e)
    · rw [hstage, hstage']
      have hsize : (data.extract 0 count).size = count := by
        rw [ByteArray.size_extract]
        omega
      rw [hsize] at hstaging
      exact closeDownload (h.countDownload hstaging)
  · exact h.failDownload (.transferFailed code)

theorem receive (h : Alike seen seen' d d') (status : TransferStatus) (data : ByteArray) :
    AlikeWith seen seen' (d.receive status data) (d'.receive status data) := by
  rw [Device.receive, Device.receive, h.transfer_eq]
  rcases d.transfer.mode with _ | _ | _
  · exact h.receiveCommand status data
  · exact h.receiveData status data
  · exact h.receiveCommand status data

/-! ### Outgoing transfers -/

theorem countUpload (h : Alike seen seen' d d') (actual : Nat) :
    Alike seen seen' (d.countUpload actual) (d'.countUpload actual) := by
  rw [Device.countUpload, Device.countUpload, h.transfer_eq]
  split_ifs
  · refine progress (h.withTransfer ?_) _ _ _ _
    exact Nat.le_refl d.transfer.exposed
  · exact h

/-- What an upload fetches is exposed. -/
theorem sendUpload (h : Alike seen seen' d d') :
    AlikeWith seen seen' d.sendUpload d'.sendUpload := by
  have hremaining := d.transfer.toNat_uploadRemaining
  rw [Device.sendUpload, Device.sendUpload, h.transfer_eq, h.settings_eq]
  dsimp only
  split_ifs with hzero
  · exact ((h.emit _).transition (Transfer.exposed_finishUpload_le _)).offering _
  · have hread : d'.staging.read d.transfer.uploadBytes.toNat
        (min d.transfer.uploadRemaining.toNat d.settings.bufferSize) = _ :=
      h.staging.read_eq (by simp only [Transfer.exposed]; omega)
    rw [hread]
    rcases d.staging.read d.transfer.uploadBytes.toNat
      (min d.transfer.uploadRemaining.toNat d.settings.bufferSize) with range | chunk
    · exact (h.transition (Transfer.exposed_finishUpload_le _)).offering _
    · exact h.offering _

/-- Both would boot the same image. -/
theorem bootImage_eq (h : Alike seen seen' d d') : d'.bootImage = d.bootImage := by
  have htake : d'.staging.take d.transfer.downloadBytes.toNat =
      d.staging.take d.transfer.downloadBytes.toNat :=
    h.staging.read_eq (by simp only [Transfer.exposed]; omega)
  rw [bootImage, bootImage, h.transfer_eq, htake]

theorem runExit (h : Alike seen seen' d d') (action : Exit) :
    Alike seen seen' (d.runExit action) (d'.runExit action) := by
  have hhalted := emit (show Alike seen seen' { d with lifecycle := .halted }
    { d' with lifecycle := .halted } from { h with lifecycle_eq := rfl }) (.exit action)
  rw [Device.runExit.eq_def, Device.runExit.eq_def]
  dsimp only
  rw [hhalted.bootImage_eq, hhalted.board_eq]
  exact hhalted.withTarget (hhalted.toAlike.withBoard _)

theorem proceed (h : Alike seen seen' d d') (status : TransferStatus) (actual : Nat) :
    AlikeWith seen seen' (d.proceed status actual) (d'.proceed status actual) := by
  have hsettled := h.withTransfer
    (show d.transfer.settled.exposed ≤ d.transfer.exposed from Nat.le_refl _)
  rw [Device.proceed.eq_def, Device.proceed.eq_def, h.transfer_eq]
  rcases status with _ | code
  · rcases d.transfer.next with _ | _ | action
    · exact hsettled.offering none
    · exact (hsettled.countUpload actual).sendUpload
    · exact (hsettled.runExit action).offering none
  · rcases d.transfer.next with _ | _ | action
    · exact hsettled.offering none
    · exact (hsettled.transition (Transfer.exposed_finishUpload_le _)).offering _
    · exact hsettled.offering none

/-! ### Calls -/

theorem enable (h : Alike seen seen' d d') : Alike seen seen' d.enable.2 d'.enable.2 := by
  have hsize : d'.settings.bufferSize = d.settings.bufferSize := by rw [h.settings_eq]
  rw [Device.enable, Device.enable, h.lifecycle_eq, hsize]
  split_ifs
  · exact h
  · have hempty := h.withTransfer (show Transfer.exposed {} ≤ d.transfer.exposed from Nat.zero_le _)
    have hstart : Alike seen seen'
        { d with
          inbound := some (.empty d.settings.bufferSize), transfer := {}, lifecycle := .enabled }
        { d' with
          inbound := some (.empty d.settings.bufferSize), transfer := {}, lifecycle := .enabled } :=
      { hempty with inbound_eq := rfl, lifecycle_eq := rfl }
    exact hstart.request _

theorem disable (h : Alike seen seen' d d') : Alike seen seen' d.disable d'.disable := by
  rw [Device.disable, Device.disable, h.lifecycle_eq]
  split_ifs
  · have hempty := h.withTransfer (show Transfer.exposed {} ≤ d.transfer.exposed from Nat.zero_le _)
    exact { hempty with
      usb := h.usb.cancelIn, inbound_eq := rfl, requested_eq := rfl, lifecycle_eq := rfl }
  · exact h

/-- **A call offers the same frame on both sides**, and leaves the devices alike. -/
theorem take (h : Alike seen seen' d d') (c : Call) :
    AlikeWith seen seen' (d.take c) (d'.take c) := by
  rcases c with _ | _ | ⟨status, data⟩ | ⟨status, actual⟩
  · exact h.enable.offering none
  · exact h.disable.offering none
  · rw [Device.take, Device.take, h.lifecycle_eq]
    split_ifs
    · exact h.receive status data
    · exact h.offering none
  · rw [Device.take, Device.take, h.lifecycle_eq]
    split_ifs
    · exact h.proceed status actual
    · exact h.offering none

theorem call (h : Alike seen seen' d d') (c : Call) :
    Alike seen seen' (d.call c) (d'.call c) := by
  rcases c with _ | _ | ⟨status, data⟩ | ⟨status, actual⟩
  · exact h.enable
  · exact h.disable
  · rw [Device.call, Device.call, onOutComplete, onOutComplete, h.lifecycle_eq]
    split_ifs
    · obtain ⟨hreceived, hoffer⟩ := h.receive status data
      dsimp only
      rw [hoffer]
      exact (hreceived.hand _).arm
    · exact h
  · rw [Device.call, Device.call, onInComplete, onInComplete, h.lifecycle_eq]
    split_ifs
    · obtain ⟨hproceeded, hoffer⟩ := h.proceed status actual
      dsimp only
      rw [hoffer]
      exact hproceeded.hand _
    · exact h

end Alike

end Device

end Fastboot
