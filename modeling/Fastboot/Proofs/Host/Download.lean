import Fastboot.Proofs.Device.Answer
import Fastboot.Proofs.Host.RoundTrip

/-!
# What the answer to a download says

A host that downloads some data sees nothing of the device but its frames. `downloaded_of_okay` says what
it may conclude from an `OKAY`. In a session that is not in the middle of a download, whatever has gone wrong
in it before, the device has the data, all of it and nothing else.

In the middle of a download the device takes whatever comes in for data of that one: first the command that
announces the next download, then the data behind it. The `OKAY` is the answer to the download that was under
way, and the device has the beginning of all that (`downloaded_of_receiving`). The host cannot tell. What it
reads after its command is either that `OKAY`, or the frame that has announced the old download, which nobody
had collected (`command_of_receiving`). There is no other frame in a session in which nobody else queues any,
which is `Undisturbed`; `Heralded` is the invariant.

Over a controller that was due to fail, the answer to the download that was under way is lost, and the data
that is left is read as commands. There an `OKAY` says nothing of what the device has.
-/

namespace Fastboot

namespace Device

variable {d : Device} {settings : Settings}

/-! ### What is queued during a download -/

/-- No frame is queued during a download but the one that has announced it. -/
def Heralded (d : Device) : Prop :=
  d.transfer.mode = .downloading →
    d.usb.pending = none ∨ d.usb.pending = some (frameOf (.data d.transfer.downloadSize))

/-- A transfer that starts a download is answered by the frame that announces it. -/
theorem Heralded.onOutComplete (hd : d.Heralded) (h : d.Sound none) (status : TransferStatus)
    (data : ByteArray) : (d.onOutComplete status data).Heralded := by
  by_cases henabled : d.lifecycle = .enabled
  · have hr := reception_receive h henabled status data
    have hsound := h.of_reception henabled hr
    rw [onOutComplete_of_enabled henabled]
    generalize (d.receive status data).1 = d', (d.receive status data).2 = offer at *
    unfold Heralded
    rw [toTarget_arm, pending_arm, downloadSize_hand, hsound.mode_hand_iff]
    intro hmode
    cases offer with
    | none =>
      have hsame : d'.usb.pending = d.usb.pending ∧
          d'.transfer.mode = d.transfer.mode ∧
          d'.transfer.downloadSize = d.transfer.downloadSize := by
        cases hr <;> exact ⟨rfl, rfl, rfl⟩
      obtain ⟨hpending, hmode', hsize⟩ := hsame
      rw [hand, hpending, hsize]
      exact hd (hmode'.symm.trans hmode)
    | some o =>
      have hphase : d'.transfer.phase? = some d'.transfer.downloadSize :=
        Transfer.phase?_eq_some_iff.mpr (.inl ⟨hmode, rfl⟩)
      obtain ⟨next, rfl⟩ := Offer.announced?_eq_some_iff.mp (hr.phase?_eq.symm.trans hphase)
      rw [pending_hand_some, Offer.frame_data]
      split
      · exact .inl rfl
      · exact .inr rfl
  · rw [Device.onOutComplete, if_neg henabled]
    exact hd

/-- A frame that goes out during a download is followed by none. -/
theorem Progression.offer_eq {d' : Device} {actual : Nat} {status : TransferStatus}
    {offer : Option Offer} (hp : Progression d actual status d' offer) (h : d.Sound none)
    (hmode : d.transfer.mode = .downloading) : offer = none := by
  have hdone := h.next_of_downloading hmode
  cases hp with
  | stop => rfl
  | exit => rfl
  | broken _ _ hnext => cases hdone.symm.trans hnext
  | chunk _ _ hnext => cases hdone.symm.trans hnext
  | last _ hnext => cases hdone.symm.trans hnext

theorem Sound.heralded_completeIn (h : d.Sound none) : d.completeIn.2.Heralded := by
  have hgone := d.usb.pending_completeIn
  rcases hcomplete : d.completeIn with ⟨frame, e⟩
  cases h.collection hcomplete with
  | nothing hpending => exact fun _ => .inl hpending
  | unnoticed => exact fun _ => .inl hgone
  | followed _ henabled hp hhand =>
    subst hhand
    intro hmode
    rw [(h.collect.of_progression henabled hp).mode_hand_iff, hp.mode_iff h.collect] at hmode
    rw [hp.offer_eq h.collect hmode, Device.hand, hp.usb_eq]
    exact .inl hgone

end Device

namespace Host

open Device (frameOf)

variable {h h' : Host} {settings : Settings} {data : ByteArray} {command : String}
  {answer : Response} {value : String}

/-! ### Sessions that nobody disturbs -/

/-- A host in a session in which nobody but the device queues frames. Others may take the request, take or
cancel a frame, make the next attempt to queue one fail, and change the board. -/
inductive Undisturbed (settings : Settings) : Host → Prop where
  | connect {board : Board} {h : Host} (hconnect : connect settings board = .ok h) :
      Undisturbed settings h
  | withChunk {h : Host} (hu : Undisturbed settings h) (chunk : Nat) :
      Undisturbed settings (h.withChunk chunk)
  /-- The host fills requests and collects frames, in any order and for whatever purpose. -/
  | moves {h h' : Host} (hu : Undisturbed settings h) (hmoves : Moves h h') :
      Undisturbed settings h'
  | world {h : Host} (hu : Undisturbed settings h) {usb : Controller}
      (husb : h.device.usb.Handled usb)
      (hframe : usb.pending = none ∨ usb.pending = h.device.usb.pending) (board : Board) :
      Undisturbed settings { h with device := { h.device with usb, board } }

theorem Reachable.moves (hr : Reachable settings h) (hmoves : Moves h h') :
    Reachable settings h' := by
  induction hmoves with
  | refl => exact hr
  | tail _ hmove ih =>
    cases hmove with
    | deliver bytes => exact ih.deliver bytes
    | pump => exact ih.pump

theorem Undisturbed.reachable (hu : Undisturbed settings h) : Reachable settings h := by
  induction hu with
  | connect hconnect => exact .connect hconnect
  | withChunk _ chunk ih => exact ih.withChunk chunk
  | moves _ hmoves ih => exact ih.moves hmoves
  | world _ husb _ board ih => exact ih.world husb board

/-- In a session that nobody disturbs, no frame is queued during a download but the one that has announced
it. -/
theorem Undisturbed.heralded (hu : Undisturbed settings h) : h.device.Heralded := by
  induction hu with
  | connect hconnect =>
    obtain ⟨-, rfl⟩ := connect_eq_ok_iff.mp hconnect
    exact nofun
  | withChunk _ chunk ih => exact ih
  | moves hu hmoves ih =>
    exact hu.reachable.connected.moves_of_device id
      (fun hd hheralded data => hheralded.onOutComplete hd.sound _ data)
      (fun hd _ => hd.sound.heralded_completeIn) ih hmoves
  | world hu husb hframe board ih =>
    intro hmode
    rcases hframe with hnone | hsame
    · exact .inl hnone
    · exact hsame ▸ ih hmode

/-! ### What the host has seen -/

/-- A status frame that nothing follows is what the host reads. -/
theorem answer_eq_of_pump {d : Device} {response : Response} {chunk : Nat} {frame : ByteArray}
    (hlive : d.Live settings none) (hnext : d.transfer.next = .done)
    (hpending : d.usb.pending = some (frameOf response))
    (hpump : ({ device := d, chunk } : Host).pump = ([frame], h'))
    (hparse : Response.parse? frame = some answer) :
    answer = response ∧ h' = { device := d.collected, chunk } := by
  rw [pump_eq hlive hnext hpending] at hpump
  obtain ⟨hframe, rfl⟩ := Prod.mk.inj hpump
  obtain rfl := List.singleton_inj.mp hframe
  rw [parse?_frameOf] at hparse
  exact ⟨(Option.some.inj hparse).symm, rfl⟩

theorem onlyAnswer_eq_ok {frames : List ByteArray} {count : Nat → HostError} {malformed : HostError}
    (hok : onlyAnswer frames count malformed = .ok answer) :
    ∃ frame, frames = [frame] ∧ Response.parse? frame = some answer := by
  unfold onlyAnswer at hok
  split at hok
  · rename_i frame
    split at hok
    · rename_i hparse
      cases hok
      exact ⟨frame, rfl, hparse⟩
    · cases hok
  · cases hok

/-- A command that has an answer has come across, and the answer was the only frame. -/
theorem command_eq_ok (hok : h.command command = (.ok answer, h')) :
    ∃ e frame, h.deliver command.toUTF8 = (.ok (), e) ∧ e.pump = ([frame], h') ∧
      Response.parse? frame = some answer := by
  unfold Host.command send at hok
  rcases hdeliver : h.deliver command.toUTF8 with ⟨error | ⟨⟩, e⟩
  · rw [hdeliver] at hok
    cases hok
  · rcases hpump : e.pump with ⟨frames, e'⟩
    simp only [hdeliver, hpump] at hok
    obtain ⟨hanswer, rfl⟩ := Prod.mk.inj hok
    obtain ⟨frame, rfl, hparse⟩ := onlyAnswer_eq_ok hanswer
    exact ⟨e, frame, rfl, hpump, hparse⟩

/-- An `OKAY` is the answer to the announcement, or to the data behind it. -/
theorem download_eq_okay (hok : h.download data = (.ok (.okay value), h')) :
    data.size < UInt32.size ∧
      (h.command (downloadCommand (.ofNat data.size)) = (.ok (.okay value), h') ∨
        ∃ e e' frame,
          h.command (downloadCommand (.ofNat data.size)) = (.ok (.data (.ofNat data.size)), e) ∧
            sendData data data.size 0 e = (.ok (), e') ∧ e'.pump = ([frame], h') ∧
              Response.parse? frame = some (.okay value)) := by
  unfold download at hok
  split at hok
  · cases hok
  · rename_i hsize
    refine ⟨Nat.lt_of_not_le hsize, ?_⟩
    dsimp only at hok
    split at hok
    · cases hok
    · rename_i announced e hcommand
      split at hok
      · cases hok
      · rename_i hannounced
        obtain rfl := Decidable.not_not.mp hannounced
        split at hok
        · cases hok
        · rename_i e' hdata
          rcases hpump : e'.pump with ⟨frames, e''⟩
          simp only [hpump] at hok
          obtain ⟨hanswer, rfl⟩ := Prod.mk.inj hok
          obtain ⟨frame, rfl, hparse⟩ := onlyAnswer_eq_ok hanswer
          exact .inr ⟨e, e', frame, hcommand, hdata, hpump, hparse⟩
    · rename_i hcommand
      cases hok
      exact .inl hcommand

/-- Either way the announcement was answered. -/
theorem exists_command_eq (hok : h.download data = (.ok (.okay value), h')) : ∃ answer e,
    h.command (downloadCommand (.ofNat data.size)) = (.ok answer, e) := by
  obtain ⟨-, hokay | ⟨e, -, -, hdata, -⟩⟩ := download_eq_okay hok
  · exact ⟨_, _, hokay⟩
  · exact ⟨_, _, hdata⟩

/-! ### Outside a download -/

/-- A device that has answered a command goes on, with a request that was armed for the command and over a
controller that was not due to fail. -/
theorem Connected.live_of_command (hc : h.Connected settings)
    (hmode : h.device.transfer.mode ≠ .downloading) (hok : h.command command = (.ok answer, h')) :
    h.device.Live settings none ∧ h.device.usb.armed = some settings.bufferSize := by
  obtain ⟨e, frame, hdeliver, hpump, -⟩ := command_eq_ok hok
  obtain ⟨hhalted, ⟨length, hlength, -⟩, rfl⟩ := deliver_eq_ok_iff.mp hdeliver
  refine ⟨hc.live hhalted ?_, ?_⟩
  · -- otherwise there would have been no frame to collect
    by_contra hfail
    have htaken : ({ h.device with usb := h.device.usb.takeOut.2 } : Device).Sound none :=
      { hc.device.sound with }
    have hpending := htaken.pending_of_failNext (hc.enabled hhalted) hmode
      (Bool.not_eq_false _ ▸ hfail) command.toUTF8
    rw [pump_of_none hpending] at hpump
    cases hpump
  · rw [hlength, hc.device.armed_eq hmode length hlength]

/-- The announcement is refused, or answered by a size that fits. -/
theorem answer_downloadCommand {size : UInt32} (hlive : h.device.Live settings none)
    (hmode : h.device.transfer.mode ≠ .downloading)
    (hok : h.command (downloadCommand size) = (.ok answer, h')) :
    (∃ reason, answer = .fail reason) ∨
      ∃ n, answer = .data (.ofNat n) ∧ 0 < n ∧ n ≤ settings.stagingCapacity := by
  obtain ⟨e, frame, hdeliver, hpump, hparse⟩ := command_eq_ok hok
  obtain ⟨-, -, rfl⟩ := deliver_eq_ok_iff.mp hdeliver
  obtain ⟨hannounced, hnext, answer', hpending, hanswer⟩ := hlive.takeOut.announced hmode size
  obtain ⟨rfl, -⟩ := answer_eq_of_pump hannounced hnext hpending hpump hparse
  exact hanswer

/-- The host compares the size that is announced with its own, so it fits. -/
theorem fits_of_okay (hlive : h.device.Live settings none)
    (hmode : h.device.transfer.mode ≠ .downloading)
    (hok : h.download data = (.ok (.okay value), h')) :
    0 < data.size ∧ data.size ≤ settings.stagingCapacity := by
  have hcap := hlive.sound.valid.stagingCapacity_lt
  rw [hlive.settings_eq] at hcap
  obtain ⟨hbytes, hokay | ⟨e, -, -, hdata, -⟩⟩ := download_eq_okay hok
  · rcases answer_downloadCommand hlive hmode hokay with ⟨_, hfail⟩ | ⟨_, hother, -⟩
    · cases hfail
    · cases hother
  · rcases answer_downloadCommand hlive hmode hdata with ⟨_, hfail⟩ | ⟨n, hsize, hpos, hle⟩
    · cases hfail
    · have hsame := congrArg UInt32.toNat (Response.data.inj hsize)
      rw [UInt32.toNat_ofNat_of_lt' hbytes,
        UInt32.toNat_ofNat_of_lt' (Nat.lt_of_le_of_lt hle hcap)] at hsame
      omega

/-- **An `OKAY` says that the data is there**, unless the device was in a download. -/
theorem Reachable.downloaded (hr : Reachable settings h)
    (hmode : h.device.transfer.mode ≠ .downloading)
    (hok : h.download data = (.ok (.okay value), h')) : h'.device.Downloaded data := by
  obtain ⟨answer, e, hcommand⟩ := exists_command_eq hok
  obtain ⟨hlive, harmed⟩ := hr.connected.live_of_command hmode hcommand
  obtain ⟨hpos, hfits⟩ := fits_of_okay hlive hmode hok
  obtain ⟨d, hdownload, hholding⟩ :=
    download_eq hlive hmode harmed hr.connected.chunk_pos hpos hfits
  obtain ⟨-, rfl⟩ := Prod.mk.inj (hdownload.symm.trans hok)
  exact hholding.toDownloaded

/-! ### In the middle of a download -/

/-- A live device in a download has some of it. -/
theorem receiving_of_downloading {d : Device} {length : Nat} (hlive : d.Live settings none)
    (hmode : d.transfer.mode = .downloading) (harmed : d.usb.armed = some length)
    (hlength : 0 < length) : ∃ staged,
      d.staging.take d.transfer.downloadBytes.toNat = .ok staged ∧
        d.Receiving settings d.transfer.downloadSize staged d.usb.pending := by
  have hlt := hlive.sound.consistent.downloadBytes_lt hmode
  have hsize := hlive.sound.consistent.downloadSize_le hmode
  rw [← hlive.sound.capacity_staging] at hsize
  obtain ⟨staged, hstaged⟩ := Buffer.exists_read_eq_ok
    (show 0 + d.transfer.downloadBytes.toNat ≤ d.staging.capacity by omega)
  have hbytes : staged.size = d.transfer.downloadBytes.toNat := Buffer.size_of_read hstaged
  refine ⟨staged, hstaged, { hlive with
    exists_assembling := ⟨d, {
      toReady := hlive.toReady
      mode_eq := hmode
      next_eq := hlive.sound.next_of_downloading hmode
      downloadSize_eq := rfl
      downloadBytes_eq := hbytes.symm
      overlays := ⟨?_, fun _ _ => rfl⟩
      queued_eq := rfl }⟩
    pending_eq := rfl
    armed_eq := ⟨length, harmed, hlength⟩ }⟩
  show d.staging.take staged.size = .ok staged
  rw [hbytes]
  exact hstaged

/-- A command that comes in during a download is stored like any data. The host takes the answer to the
download for the answer to its command if that was the rest of it, and the frame that has announced the
download otherwise. -/
theorem command_of_receiving {size : UInt32} {got : ByteArray} {held : Option ByteArray}
    (hd : h.device.Receiving settings size got held)
    (hheld : held = none ∨ held = some (frameOf (.data size)))
    (hok : h.command command = (.ok answer, h')) :
    (answer = .okay "" ∧ size.toNat ≤ (got ++ command.toUTF8).size ∧
        h'.device.Downloaded ((got ++ command.toUTF8).extract 0 size.toNat)) ∨
      (answer = .data size ∧ h'.device.Receiving settings size (got ++ command.toUTF8) none ∧
        h'.chunk = h.chunk) := by
  obtain ⟨e, frame, hdeliver, hpump, hparse⟩ := command_eq_ok hok
  obtain ⟨-, -, rfl⟩ := deliver_eq_ok_iff.mp hdeliver
  obtain ⟨hpartly, hlast⟩ := hd.received command.toUTF8
  generalize ({ h.device with usb := h.device.usb.takeOut.2 } : Device).onOutComplete .completed
    command.toUTF8 = d at hpartly hlast hpump
  rcases Nat.lt_or_ge (got ++ command.toUTF8).size size.toNat with hmissing | hcomplete
  · have hreceiving := hpartly hmissing
    rcases hheld with rfl | rfl
    · rw [pump_of_none hreceiving.pending_eq] at hpump
      cases hpump
    · obtain ⟨rfl, rfl⟩ := answer_eq_of_pump hreceiving.toLive hreceiving.next_eq
        hreceiving.pending_eq hpump hparse
      exact .inr ⟨rfl, hreceiving.collected, rfl⟩
  · have hholding := hlast hcomplete
    obtain ⟨rfl, rfl⟩ := answer_eq_of_pump hholding.toLive hholding.next_eq hholding.pending_eq
      hpump hparse
    exact .inl ⟨rfl, hcomplete, hholding.collected.toDownloaded⟩

/-- **In a download an `OKAY` is the answer to that one.** What it has got goes on with the command that
announces the next one, and with the data behind it, up to the size of the first. -/
theorem downloaded_of_receiving {size : UInt32} {got : ByteArray} {held : Option ByteArray}
    (hd : h.device.Receiving settings size got held)
    (hheld : held = none ∨ held = some (frameOf (.data size))) (hchunk : 0 < h.chunk)
    (hok : h.download data = (.ok (.okay value), h')) :
    h'.device.Downloaded ((got ++ (downloadCommand (.ofNat data.size)).toUTF8 ++ data).extract 0
      size.toNat) := by
  obtain ⟨-, hokay | ⟨e, e', frame, hdata, hsend, hpump, hparse⟩⟩ := download_eq_okay hok
  · rcases command_of_receiving hd hheld hokay with ⟨-, hcomplete, hdownloaded⟩ | ⟨hother, -⟩
    · rw [Buffer.extract_append_of_le hcomplete]
      exact hdownloaded
    · cases hother
  · rcases command_of_receiving hd hheld hdata with ⟨hother, -⟩ | ⟨-, hreceiving, hsame⟩
    · cases hother
    · rw [← hsame] at hchunk
      rcases sendData_cases hreceiving hchunk (Nat.sub_le data.size 0) rfl with
        ⟨d, hmore, hd'⟩ | ⟨outcome, d, hdone, hd', -⟩
      · obtain ⟨-, rfl⟩ := Prod.mk.inj (hmore.symm.trans hsend)
        rw [pump_of_none hd'.pending_eq] at hpump
        cases hpump
      · obtain ⟨-, rfl⟩ := Prod.mk.inj (hdone.symm.trans hsend)
        obtain ⟨-, rfl⟩ := answer_eq_of_pump hd'.toLive hd'.next_eq hd'.pending_eq hpump hparse
        rw [ByteArray.extract_zero_size] at hd'
        exact hd'.collected.toDownloaded

/-! ### All sessions -/

/-- **What an `OKAY` says about a download.** In a session that is not in the middle of a download, whatever
has happened in it, the device is idle and has the data, all of it and nothing else. In the middle of one,
over a controller that was not due to fail and if nobody else has queued frames, the device has what it had
before, the command and the data, up to the size of the download that was under way. -/
theorem downloaded_of_okay (hr : Reachable settings h)
    (hok : h.download data = (.ok (.okay value), h')) :
    (h.device.transfer.mode ≠ .downloading → h'.device.Downloaded data) ∧
      (h.device.transfer.mode = .downloading → h.device.usb.failNext = false →
        Undisturbed settings h → ∃ staged,
          h.device.staging.take h.device.transfer.downloadBytes.toNat = .ok staged ∧
            h'.device.Downloaded
              ((staged ++ (downloadCommand (.ofNat data.size)).toUTF8 ++ data).extract 0
                h.device.transfer.downloadSize.toNat)) := by
  refine ⟨fun hmode => hr.downloaded hmode hok, fun hmode hfail hu => ?_⟩
  obtain ⟨answer, e, hcommand⟩ := exists_command_eq hok
  obtain ⟨_, _, hdeliver, -⟩ := command_eq_ok hcommand
  obtain ⟨hhalted, ⟨length, harmed, hlength⟩, -⟩ := deliver_eq_ok_iff.mp hdeliver
  have hroom : (downloadCommand (.ofNat data.size)).toUTF8.size = 17 :=
    (Command.downloadCommand_plain _).2
  obtain ⟨staged, hstaged, hreceiving⟩ := receiving_of_downloading
    (hr.connected.live hhalted hfail) hmode harmed (by omega)
  exact ⟨staged, hstaged,
    downloaded_of_receiving hreceiving (hu.heralded hmode) hr.connected.chunk_pos hok⟩

/-- A session in which a download of 17 bytes has been announced, and nothing collected. -/
def announced : Host :=
  let connected : Host := { device := started Device.tiny.settings {}, chunk := 512 }
  (connected.deliver "download:00000011".toUTF8).2

theorem undisturbed_announced : Undisturbed Device.tiny.settings announced :=
  have hconnect : connect Device.tiny.settings {} = .ok _ :=
    connect_eq_ok_iff.mpr ⟨(Device.bind_eq_ok_iff.mp Device.bind_tiny).1, rfl⟩
  (Undisturbed.connect hconnect).moves (.single (.deliver _))

/-- In the middle of an upload eight bytes are downloaded. In the middle of a download of as many bytes as
the command has that announces them, the device has that command instead. -/
theorem downloaded_of_okay_announced :
    (∃ h', busy.download "abcdefgh".toUTF8 = (.ok (.okay ""), h') ∧
        h'.device.Downloaded "abcdefgh".toUTF8) ∧
      ∃ h', announced.download "abcdefgh".toUTF8 = (.ok (.okay ""), h') ∧
        h'.device.Downloaded "download:00000008".toUTF8 := by
  have hbusy : busy.download "abcdefgh".toUTF8 = (.ok (.okay ""), _) :=
    Prod.ext (by decide +kernel) rfl
  have hannounced : announced.download "abcdefgh".toUTF8 = (.ok (.okay ""), _) :=
    Prod.ext (by decide +kernel) rfl
  refine ⟨⟨_, hbusy, (downloaded_of_okay reachable_busy hbusy).1 (by decide +kernel)⟩, _, hannounced, ?_⟩
  obtain ⟨staged, hstaged, hdownloaded⟩ :=
    (downloaded_of_okay undisturbed_announced.reachable hannounced).2 (by decide +kernel)
      (by decide +kernel) undisturbed_announced
  have hnone : announced.device.staging.take announced.device.transfer.downloadBytes.toNat =
      .ok .empty := by
    decide +kernel
  obtain rfl := Except.ok.inj (hstaged.symm.trans hnone)
  have hfront : (ByteArray.empty ++ (downloadCommand (.ofNat "abcdefgh".toUTF8.size)).toUTF8 ++
      "abcdefgh".toUTF8).extract 0 announced.device.transfer.downloadSize.toNat =
        "download:00000008".toUTF8 := by
    decide +kernel
  exact hfront ▸ hdownloaded

/-- **An `OKAY` does not say that the data is there.** In the middle of a download, the host gets one for eight
bytes of which it has not sent any. -/
theorem not_downloaded_of_okay : ∃ settings h data value h',
    Undisturbed settings h ∧ h.download data = (.ok (.okay value), h') ∧
      ¬ h'.device.Downloaded data := by
  have hokay : announced.download "abcdefgh".toUTF8 = (.ok (.okay ""), _) :=
    Prod.ext (by decide +kernel) rfl
  refine ⟨_, _, _, _, _, undisturbed_announced, hokay, fun hdownloaded => ?_⟩
  exact absurd hdownloaded.downloadBytes_eq (by decide +kernel)

/-- Nor does it help to have sent them. A host that downloads as many bytes as have been announced already
gets an `OKAY` for the command and the first byte. -/
example :
    let connected : Host := { device := started Device.tiny.settings {}, chunk := 512 }
    let data := "18 bytes of a file".toUTF8
    let (answer, h) := (connected.deliver "download:00000012".toUTF8).2.download data
    answer = .ok (.okay "") ∧ h.device.staging.take 18 = .ok "download:000000121".toUTF8 := by
  decide +kernel

end Host

end Fastboot
