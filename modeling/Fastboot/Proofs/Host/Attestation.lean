import Fastboot.Proofs.Command.Attestation
import Fastboot.Proofs.Device.Board
import Fastboot.Proofs.Host.RoundTrip

/-!
# Requests that are fetched

A host that downloads an operation, asks for a request to the certificate authority and uploads gets the
request, if the staging buffer has room for the mark in front of it. If it has not, the host is told, and gets
the operation (`upload_request`).

Between the two the staging buffer holds first the one and then the other. On either side the device is
`Stocked` with something (`Holding.requested`), and whatever that is comes up. The attestation service is on
the board when the command comes in because it was before the download, and nothing that a host does takes it
away (`Connected.attestation_moves`).
-/

namespace Fastboot

namespace Device

open Attestation (requestMark)

variable {d e : Device} {settings : Settings} {operation data : ByteArray} {reply : Reply}

/-! ### The service stays -/

theorem Sound.attestation_call (h : d.Sound none) (c : Call)
    (hservice : d.board.attestation.isSome = true) :
    (d.call c).board.attestation.isSome = true := by
  have hdeed := h.deed_call c
  generalize (d.call c).board = b, d.offer? c = offer at hdeed
  cases hdeed with
  | command _ _ hboard hdeed => exact hdeed.attestation (hboard ▸ hservice)
  | other => exact hservice

theorem Sound.attestation_completeIn (h : d.Sound none)
    (hservice : d.board.attestation.isSome = true) :
    d.completeIn.2.board.attestation.isSome = true := by
  cases hpending : d.usb.pending with
  | none =>
    rw [completeIn_of_none hpending]
    exact hservice
  | some frame =>
    rw [completeIn_eq_turn hpending, turn_collected_of_some hpending]
    exact h.collect.attestation_call _ hservice

/-! ### The command -/

/-- An idle device that has answered a command is stocked with what the command has left. -/
theorem Answered.stocked (he : d.Answered settings (some (.reply reply)) e)
    (hmode : d.transfer.mode = .idle) (hsize : d.transfer.uploadSize.toNat = data.size)
    (hstarts : d.staging.StartsWith data) : e.Stocked settings data := by
  have htransfer := he.transfer_eq
  rw [Option.map_some, Option.getD_some] at htransfer
  have hidle : e.transfer.mode = .idle := by
    rw [htransfer]
    exact hmode
  exact {
    toLive := he.live
    mode_eq := hidle
    uploadSize_eq := by
      rw [htransfer]
      exact hsize
    startsWith := by
      rw [he.staging_eq]
      exact hstarts
    armed_eq := by rw [he.armed_eq, he.live.expected_eq (by simp [hidle])] }

theorem Stocked.collected (h : d.Stocked settings data) (hnext : d.transfer.next = .done) :
    d.collected.Stocked settings data :=
  { h with
    toLive := h.toLive.collected hnext
    armed_eq := d.armed_collected.trans h.armed_eq }

/-- **A request is asked for.** It is made and left where the operation was, or refused. -/
theorem Holding.requested {held : Option ByteArray} (h : d.Holding settings operation held)
    (hservice : d.board.attestation.isSome = true) (hpos : 0 < operation.size) :
    let e := { d with usb := d.usb.takeOut.2 }.onOutComplete .completed
      "oem at-get-ca-request".toUTF8
    ∃ answer data, e.usb.pending = some (frameOf answer) ∧ e.transfer.next = .done ∧
      e.Stocked settings data ∧
      (operation.size + 7 ≤ settings.stagingCapacity →
        answer = .okay "" ∧ data = requestMark ++ operation) ∧
      (settings.stagingCapacity < operation.size + 7 →
        answer.isFail = true ∧ data = operation) := by
  have hmode := h.mode_eq
  obtain ⟨service, hservice⟩ := Option.isSome_iff_exists.mp hservice
  obtain ⟨reply, target, events, hrun, he⟩ := h.takeOut.answered_command
    (show d.transfer.mode ≠ .downloading by rw [hmode]; nofun)
    (show '\x00' ∉ "oem at-get-ca-request".toList by decide)
    (h.lt_bufferSize (show "oem at-get-ca-request".utf8ByteSize < 512 by decide))
  dsimp only at hrun
  rw [Transfer.interrupted_of_idle hmode] at hrun
  have hcapacity : d.staging.capacity = settings.stagingCapacity := by
    rw [h.sound.capacity_staging, h.settings_eq]
  have hlt := h.sound.valid.stagingCapacity_lt
  rw [h.settings_eq, ← hcapacity] at hlt
  have hoperation : ({ d.toTarget with events } : Target).downloaded = .ok operation := by
    have htake : d.staging.take d.transfer.downloadBytes.toNat = .ok operation := by
      rw [h.downloadBytes_eq]
      exact h.startsWith
    rw [Target.downloaded, htake]
    rfl
  have hpending := he.pending_eq
  have htransfer := he.transfer_eq
  rw [Option.map_some] at hpending htransfer
  rw [Option.getD_some] at htransfer
  rw [← hcapacity]
  rcases Nat.lt_or_ge d.staging.capacity (operation.size + 7) with hover | hroom
  · obtain ⟨fault, hrefused⟩ := Command.exists_dispatch_getCaRequest_of_lt hoperation hover
    obtain ⟨rfl, rfl⟩ := Prod.mk.inj (hrun.symm.trans hrefused)
    obtain ⟨reason, hframe⟩ := Offer.exists_frame_ofFault fault
    rw [hframe] at hpending
    refine ⟨.fail reason, operation, hpending, ?_, ?_, fun hroom => ?_, fun _ => ⟨rfl, rfl⟩⟩
    · rw [htransfer, Transfer.next_accepted, Offer.next_ofFault]
    · exact he.stocked hmode h.uploadSize_eq h.startsWith
    · exact absurd hroom (Nat.not_le_of_lt hover)
  · obtain ⟨staging, hwrite, hmade⟩ := Command.dispatch_getCaRequest_of_le
      (t := { d.toTarget with events }) hservice hoperation hpos hlt hroom
    obtain ⟨rfl, rfl⟩ := Prod.mk.inj (hrun.symm.trans hmade)
    rw [Offer.frame_okay] at hpending
    refine ⟨.okay "", requestMark ++ operation, hpending, ?_, ?_, fun _ => ⟨rfl, rfl⟩,
      fun hover => ?_⟩
    · rw [htransfer, Transfer.next_accepted, Offer.next_okay]
    · refine he.stocked hmode ?_ (Buffer.startsWith_of_writeAt_zero hwrite)
      have hsize := Command.size_request operation
      exact UInt32.toNat_ofNat_of_lt' (by omega)
    · exact absurd hroom (Nat.not_le_of_lt hover)

end Device

namespace Host

open Attestation (requestMark)
open Device (frameOf)

variable {h h' : Host} {settings : Settings} {operation : ByteArray}

/-- Whatever a host does, an attestation service that was there is there afterwards. -/
theorem Connected.attestation_moves (hc : h.Connected settings) (hmoves : Moves h h')
    (hservice : h.device.board.attestation.isSome = true) :
    h'.device.board.attestation.isSome = true :=
  hc.moves_of_device (P := fun d => d.board.attestation.isSome = true) id
    (fun hd hsome _ => hd.sound.attestation_call (.received .completed _) hsome)
    (fun hd hsome => hd.sound.attestation_completeIn hsome) hservice hmoves

/-- The host reads the answer, and the device has the request or the operation. -/
theorem command_getCaRequest (hd : h.device.Holding settings operation none)
    (hservice : h.device.board.attestation.isSome = true) (hpos : 0 < operation.size) :
    ∃ answer data d, h.command "oem at-get-ca-request" = (.ok answer, { h with device := d }) ∧
      d.Stocked settings data ∧
      (operation.size + 7 ≤ settings.stagingCapacity →
        answer = .okay "" ∧ data = requestMark ++ operation) ∧
      (settings.stagingCapacity < operation.size + 7 →
        answer.isFail = true ∧ data = operation) := by
  have hlength : "oem at-get-ca-request".toUTF8.size ≤ settings.bufferSize :=
    Nat.le_of_lt (hd.lt_bufferSize (show "oem at-get-ca-request".toUTF8.size < 512 by decide))
  obtain ⟨answer, data, hpending, hnext, hstocked, hmade, hrefused⟩ := hd.requested hservice hpos
  have hdeliver := deliver_eq hd.toLive hd.armed_eq hlength
  refine ⟨answer, data, _, ?_, hstocked.collected hnext, hmade, hrefused⟩
  simp only [command, send, hdeliver, pump_eq hstocked.toLive hnext hpending, onlyAnswer_frameOf]

/-- **A request is fetched, or the operation that it was to be made from.** The command behind the download is
answered by an `OKAY` exactly if the staging buffer has room for the mark and the operation, and then the next
upload brings the two. Otherwise it is answered by a `FAIL`, and the upload brings the operation. It holds in
every session that goes on and is idle, with a request armed, no failure due and a service on the board. -/
theorem upload_request (hr : Reachable settings h) (hhalted : h.device.isHalted = false)
    (harmed : h.device.usb.armed.isSome = true) (hmode : h.device.transfer.mode = .idle)
    (hfail : h.device.usb.failNext = false)
    (hservice : h.device.board.attestation.isSome = true) (hpos : 0 < operation.size)
    (hfits : operation.size ≤ settings.stagingCapacity) :
    ∃ h₁ answer h₂ data h₃, h.download operation = (.ok (.okay ""), h₁) ∧
      h₁.command "oem at-get-ca-request" = (.ok answer, h₂) ∧ h₂.upload = (.ok data, h₃) ∧
      (answer.isOkay = true ↔ operation.size + 7 ≤ settings.stagingCapacity) ∧
      (answer.isOkay = true → data = requestMark ++ operation) ∧
      (answer.isOkay = false → answer.isFail = true ∧ data = operation) := by
  have hconnected := hr.connected
  have hnot : h.device.transfer.mode ≠ .downloading := by simp [hmode]
  obtain ⟨length, hlength⟩ := Option.isSome_iff_exists.mp harmed
  have harmed' : h.device.usb.armed = some settings.bufferSize := by
    rw [hlength, hconnected.device.armed_eq hnot length hlength]
  obtain ⟨d, hdownload, hholding⟩ := download_eq (hconnected.live hhalted hfail) hnot harmed'
    hconnected.chunk_pos hpos hfits
  have hthere := hconnected.attestation_moves (h.moves_download operation) hservice
  rw [hdownload] at hthere
  obtain ⟨answer, data, e, hcommand, hstocked, hmade, hrefused⟩ :=
    command_getCaRequest (h := { h with device := d }) hholding hthere hpos
  have hsome : 0 < data.size := by
    rcases Nat.lt_or_ge settings.stagingCapacity (operation.size + 7) with hover | hroom
    · rw [(hrefused hover).2]
      exact hpos
    · rw [(hmade hroom).2, Command.size_request]
      omega
  obtain ⟨e', hupload, -⟩ := upload_of_stocked (h := { h with device := e }) hstocked hsome
  refine ⟨_, answer, _, data, _, hdownload, hcommand, hupload, ?_⟩
  rcases Nat.lt_or_ge settings.stagingCapacity (operation.size + 7) with hover | hroom
  · obtain ⟨hanswer, rfl⟩ := hrefused hover
    have hnotOkay : answer.isOkay = false := by
      cases answer with
      | fail => rfl
      | okay => cases hanswer
      | data => cases hanswer
    rw [hnotOkay]
    exact ⟨iff_of_false nofun (Nat.not_le_of_lt hover), nofun, fun _ => ⟨hanswer, rfl⟩⟩
  · obtain ⟨rfl, rfl⟩ := hmade hroom
    exact ⟨iff_of_true rfl hroom, fun _ => rfl, nofun⟩

/-- A session with a staging buffer of 15 bytes and an attestation service. -/
def attesting : Host :=
  let settings : Settings := { stagingCapacity := 15, bufferSize := 512 }
  { device := started settings { attestation := some {} }, chunk := settings.bufferSize }

/-- There is room for an operation of eight bytes with its mark, and none for one of nine. -/
theorem upload_request_attesting :
    (∃ h₁ answer h₂ h₃, attesting.download "12345678".toUTF8 = (.ok (.okay ""), h₁) ∧
        h₁.command "oem at-get-ca-request" = (.ok answer, h₂) ∧ answer.isOkay = true ∧
          h₂.upload = (.ok "CA-REQ:12345678".toUTF8, h₃)) ∧
      ∃ h₁ answer h₂ h₃, attesting.download "123456789".toUTF8 = (.ok (.okay ""), h₁) ∧
        h₁.command "oem at-get-ca-request" = (.ok answer, h₂) ∧ answer.isFail = true ∧
          h₂.upload = (.ok "123456789".toUTF8, h₃) := by
  have hr : Reachable { stagingCapacity := 15, bufferSize := 512 } attesting :=
    .connect (connect_eq_ok_iff.mpr ⟨Settings.check_eq_ok_iff.mp rfl, rfl⟩)
  constructor
  · have hpos : 0 < "12345678".toUTF8.size := by decide
    obtain ⟨h₁, answer, h₂, data, h₃, hdownload, hcommand, hupload, hokay, hmade, -⟩ :=
      upload_request hr rfl rfl rfl rfl rfl hpos (by decide)
    have hanswer : answer.isOkay = true := hokay.mpr (by decide)
    have hrequest : requestMark ++ "12345678".toUTF8 = "CA-REQ:12345678".toUTF8 := by
      decide +kernel
    rw [hmade hanswer, hrequest] at hupload
    exact ⟨h₁, answer, h₂, h₃, hdownload, hcommand, hanswer, hupload⟩
  · have hpos : 0 < "123456789".toUTF8.size := by decide
    obtain ⟨h₁, answer, h₂, data, h₃, hdownload, hcommand, hupload, hokay, -, hrefused⟩ :=
      upload_request hr rfl rfl rfl rfl rfl hpos (by decide)
    have hanswer : answer.isOkay = false := Bool.eq_false_iff.mpr (mt hokay.mp (by decide))
    obtain ⟨hfail, rfl⟩ := hrefused hanswer
    exact ⟨h₁, answer, h₂, h₃, hdownload, hcommand, hfail, hupload⟩

end Host

end Fastboot
