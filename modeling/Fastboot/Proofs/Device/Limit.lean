import Fastboot.Proofs.Command.Limit
import Fastboot.Proofs.Device.Answer
import Fastboot.Proofs.Device.Milestone

/-!
# The limit that a device enforces

`limit_run` puts the two sides of a limit together for a device at work. Whatever it has been through, it
advertises the capacity that it was bound with, and a download that it carries out is judged by the number
that reads back from there (`Command.Judged`): the frame that is offered for the command says how, and the
exchange is in a download exactly if the frame announces one.

A command that is too long for the buffer, or no text, is not carried out at all. So the judgement is stated of
every argument that the command can have, and then of the commands that come in over the bus.
-/

namespace Fastboot.Device

open Command (Judged dispatch parseSize?)

variable {d : Device} {settings : Settings} {usb : Controller} {board : Board} {c : Call}
  {argument : String} {t : Target}

/-- The buffer of a sound device takes a packet at least. -/
theorem Sound.packet_le {offer : Option Offer} (h : d.Sound offer) :
    highSpeedPacket ≤ d.settings.bufferSize :=
  Nat.le_of_dvd h.valid.bufferSize_pos h.valid.packet_dvd

/-- What an idle device advertises is its capacity. -/
theorem Sound.answer_maxDownloadSize (h : d.Sound none) (hmode : d.transfer.mode = .idle) :
    d.answer "getvar:max-download-size".toUTF8 =
      .okay ("0x" ++ Text.hex 8 d.settings.stagingCapacity) := by
  have hlength : "getvar:max-download-size".toUTF8.size < highSpeedPacket := by decide
  have hroom : ¬ d.settings.bufferSize ≤ "getvar:max-download-size".toUTF8.size :=
    Nat.not_le_of_lt (Nat.lt_of_lt_of_le hlength h.packet_le)
  have htext : commandText? "getvar:max-download-size".toUTF8 = some "getvar:max-download-size" :=
    commandText?_toUTF8 (by decide)
  have hend : d.endUpload = d := if_neg (by simp [hmode])
  have hlt : d.staging.capacity < UInt32.size := by
    rw [h.capacity_staging]
    exact h.valid.stagingCapacity_lt
  obtain ⟨hrun, -⟩ := Command.dispatch_maxDownloadSize
    (t := d.toTarget.emit (.command "getvar:max-download-size")) hlt
  rw [answer, if_neg hroom, htext, hend]
  dsimp only
  rw [hrun, ← h.capacity_staging]
  rfl

/-- A download that is carried out is judged, whether the controller takes the answer or not. -/
theorem Sound.judged_call (h : d.Sound none) (hmode : d.transfer.mode = .idle)
    (hdispatched : d.dispatched? c = some ("download:" ++ argument, t)) :
    ∃ reply, d.offer? c = some (.reply reply) ∧
      (Offer.reply reply).frame = frameOf reply.response ∧
      Judged d.settings.stagingCapacity argument reply.response (d.call c).transfer := by
  obtain ⟨data, events, rfl, rfl, -, -, htake⟩ := h.exists_of_dispatched? hdispatched
  rw [Transfer.interrupted_of_idle hmode] at htake
  have hlt := h.valid.stagingCapacity_lt
  rw [← h.capacity_staging] at hlt ⊢
  have hjudged := Command.judged_download (t := { d.toTarget with events })
    (show d.transfer.mode ≠ .downloading by simp [hmode]) hlt argument
  have hfits := Command.utf8ByteSize_download_le argument { d.toTarget with events }
  refine ⟨_, congrArg Prod.snd htake, ?_, ?_⟩
  · rw [Offer.frame, Reply.fitted_of_le hfits]
    rfl
  · have hsound := (h.of_taking (taking_take h (.received .completed data))).mode_hand_iff
    rw [htake] at hsound
    refine { hjudged with downloading_iff := fun n => ?_ }
    rw [← hjudged.downloading_iff n, toTarget_call, htake, downloadSize_hand, hsound]

/-- **The limit that is advertised is the one that is enforced.** Valid settings have a device, and whenever
it is idle, whatever it has been through, the value of `max-download-size` is `0x` and eight digits, which read
back as the staging capacity. A download is announced, and the device in it, exactly for the sizes from one
up to there, each as it was read. It is refused as invalid exactly for a size of zero, and as too large for all
others, be it that they are not even read. -/
theorem limit_run (hbind : bind settings usb board = .ok d) (before : List Action)
    (hmode : (d.run before).transfer.mode = .idle) :
    ∃ value digits limit,
      (d.run before).answer "getvar:max-download-size".toUTF8 = .okay value ∧
      value = "0x" ++ digits ∧ digits.length = 8 ∧
      (∀ c ∈ digits.toList, Text.isHexDigit c = true) ∧
      parseSize? value = some limit ∧ limit = settings.stagingCapacity ∧
      (∀ argument, Judged limit argument
        (dispatch ("download:" ++ argument) (d.run before).toTarget).1.response
        (dispatch ("download:" ++ argument) (d.run before).toTarget).2.transfer) ∧
      ∀ c argument t, (d.run before).dispatched? c = some ("download:" ++ argument, t) →
        ∃ reply, (d.run before).offer? c = some (.reply reply) ∧
          (Offer.reply reply).frame = frameOf reply.response ∧
          Judged limit argument reply.response ((d.run before).call c).transfer := by
  have hsound := (sound_of_bind hbind).run before
  have hcapacity := hsound.capacity_staging
  have hlt := hsound.valid.stagingCapacity_lt
  have hsettings : (d.run before).settings = settings := by
    rw [(sound_of_bind hbind).settings_run before]
    obtain ⟨-, rfl⟩ := bind_eq_ok_iff.mp hbind
    rfl
  rw [← hcapacity] at hlt
  obtain ⟨-, hlength, hdigits, hparse⟩ := Command.dispatch_maxDownloadSize hlt
  have hnot : (d.run before).transfer.mode ≠ .downloading := by simp [hmode]
  have hadvertised := hsound.answer_maxDownloadSize hmode
  rw [← hcapacity] at hadvertised
  refine ⟨_, _, _, hadvertised, rfl, hlength, hdigits, hparse, ?_, ?_, ?_⟩
  · rw [hcapacity, hsettings]
  · exact Command.judged_download hnot hlt
  · intro c argument t hdispatched
    rw [hcapacity]
    exact hsound.judged_call hmode hdispatched

/-- Over a staging buffer of 64 bytes, a download of 64 is announced, and one of 65 is too large. -/
theorem limit_run_tiny :
    let enabled := tiny.run [.call .enable]
    ∃ value, enabled.answer "getvar:max-download-size".toUTF8 = .okay value ∧
      parseSize? value = some 64 ∧
      (∃ reply size, enabled.offer? (.received .completed "download:0x40".toUTF8) =
        some (.reply reply) ∧ reply.response = .data size ∧ size.toNat = 64) ∧
      ∃ reply, enabled.offer? (.received .completed "download:0x41".toUTF8) =
        some (.reply reply) ∧ reply.response = .fail "data too large" := by
  intro enabled
  have htaken : enabled.dispatched? (.received .completed "download:0x40".toUTF8) =
      some ("download:" ++ "0x40", _) :=
    dispatched?_eq (by decide +kernel) (by decide +kernel) (by decide +kernel) (by decide +kernel) rfl
  have hrefused : enabled.dispatched? (.received .completed "download:0x41".toUTF8) =
      some ("download:" ++ "0x41", _) :=
    dispatched?_eq (by decide +kernel) (by decide +kernel) (by decide +kernel) (by decide +kernel) rfl
  obtain ⟨value, -, limit, hvalue, -, -, -, hparse, rfl, -, hjudged⟩ :=
    limit_run bind_tiny [.call .enable] (by decide +kernel)
  obtain ⟨reply, hoffer, -, htake⟩ := hjudged _ _ _ htaken
  obtain ⟨reply', hoffer', -, hrefuse⟩ := hjudged _ _ _ hrefused
  have hfits : parseSize? "0x40" = some 64 := by decide
  have hlarge : parseSize? "0x41" = some 65 := by decide
  obtain ⟨size, hdata, hsize⟩ := (htake.announced_iff 64).mpr ⟨hfits, by decide, by decide⟩
  refine ⟨value, hvalue, hparse, ⟨reply, size, hoffer, hdata, hsize⟩, reply', hoffer', ?_⟩
  refine hrefuse.tooLarge_iff.mpr ⟨by rw [hlarge]; decide, ?_⟩
  rintro ⟨n, hn, -, hle⟩
  obtain rfl := Option.some.inj (hlarge.symm.trans hn)
  exact absurd hle (by decide)

end Fastboot.Device
