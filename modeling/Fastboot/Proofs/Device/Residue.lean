import Fastboot.Proofs.Device.DataPhase

/-!
# Commands in the inbound buffer

A command ends at the first zero byte of its transfer, or with the transfer. `Conveys data command` says that
`data` is `command` up to there, and `Device.obey` is what a device makes of a command that it has in its
hand, without a transfer around it and without a buffer.

The device has neither: it copies the transfer into a buffer that has held others, and looks for the end in
it. `onOutComplete_of_conveys` says that it comes to the same. So what stands behind the end of a command, and
what the buffer held before, makes no difference to anything (`traceless_run`).
-/

namespace Fastboot.Device

variable {d : Device} {data data' command : ByteArray} {residue : Buffer}

/-- `command` is what stands in `data` in front of the first zero byte, or all of it. -/
structure Conveys (data command : ByteArray) : Prop where
  zero_notMem : 0 ∉ command.data
  eq : data = command ∨ ∃ rest, data = command ++ ⟨#[0]⟩ ++ rest

/-- What a target answers to the bytes of a command, and what becomes of it. -/
def answerTo (t : Target) (command : ByteArray) : Reply × Target :=
  match String.fromUTF8? command with
  | none => (.ofFault (.malformed "invalid command"), t)
  | some text => Command.dispatch text (t.emit (.command text))

/-- What a device makes of a command: an upload under way ends, the command is carried out and answered, and
the next one is waited for with an empty buffer. -/
def obey (d : Device) (command : ByteArray) : Device :=
  let (reply, target) := answerTo d.endUpload.toTarget command
  ({ d with toTarget := target, inbound := some (.empty d.settings.bufferSize) }.hand
    (some (.reply reply))).arm

/-! ### The end of a command -/

/-- The bytes in front of the first zero are the command. -/
theorem Conveys.takeWhile_eq (h : Conveys data command) :
    data.data.takeWhile (· != 0) = command.data := by
  have hcommand : ∀ b ∈ command.data.toList, (b != 0) = true := fun b hb =>
    bne_iff_ne.mpr fun hzero => h.zero_notMem (Array.mem_toList_iff.mp (hzero ▸ hb))
  have hlist : data.data.toList.takeWhile (· != 0) = command.data.toList := by
    rcases h.eq with rfl | ⟨rest, rfl⟩
    · exact List.takeWhile_eq_self_iff.mpr hcommand
    · simp only [ByteArray.data_append, Array.toList_append, List.append_assoc]
      rw [List.takeWhile_append_of_pos hcommand]
      simp
  rw [← Array.toList_inj, ← hlist, Array.toList_takeWhile]

/-- What is read as text is the command, whatever stands behind it. -/
theorem Conveys.commandText?_eq (h : Conveys data command) :
    commandText? data = String.fromUTF8? command := by
  rw [commandText?, h.takeWhile_eq]

/-- The device that has a transfer in its hand answers to the command in it. -/
theorem Conveys.runCommand_eq (h : Conveys data command) (d : Device) :
    d.runCommand data = ((answerTo d.toTarget command).1,
      { d with toTarget := (answerTo d.toTarget command).2 }) := by
  rw [runCommand, h.commandText?_eq, answerTo]
  rcases String.fromUTF8? command with _ | text
  · rfl
  · rfl

/-! ### The inbound buffer -/

/-- A transfer that the buffer has room for is read from it as it came, whatever the buffer held before. -/
theorem receiveInbound_eq (hinbound : d.inbound = some residue)
    (hroom : data.size ≤ residue.capacity) : d.receiveInbound data =
      ({ (d.runCommand data).2 with inbound := some (.empty residue.capacity) },
        some (.reply (d.runCommand data).1)) := by
  obtain ⟨written, hwrite, htake, hcapacity⟩ := Buffer.exists_writeAt_zero hroom
  simp only [receiveInbound, hinbound, hwrite, htake, hcapacity]

/-- Outside a download a transfer that is shorter than the buffer is taken from it as a command. -/
theorem receive_of_lt (hmode : d.transfer.mode ≠ .downloading)
    (hsize : data.size < d.settings.bufferSize) :
    d.receive .completed data = d.endUpload.receiveInbound data := by
  have hsettings : d.endUpload.settings = d.settings := by rw [endUpload_eq]
  have hcommand : d.receiveCommand .completed data = d.endUpload.receiveInbound data := by
    simp only [receiveCommand, hsettings]
    exact if_neg (Nat.not_le_of_lt hsize)
  rw [receive, ← hcommand]
  cases hd : d.transfer.mode with
  | downloading => exact absurd hd hmode
  | idle => rfl
  | uploading => rfl

/-- **A transfer comes to what its command comes to.** -/
theorem onOutComplete_of_conveys (h : Conveys data command) (henabled : d.lifecycle = .enabled)
    (hmode : d.transfer.mode ≠ .downloading) (hsize : data.size < d.settings.bufferSize)
    (hinbound : d.inbound = some residue) (hresidue : residue.capacity = d.settings.bufferSize) :
    d.onOutComplete .completed data = d.obey command := by
  have hkept : d.endUpload.inbound = some residue := by rw [endUpload_eq, hinbound]
  have hroom : data.size ≤ residue.capacity := hresidue ▸ Nat.le_of_lt hsize
  rw [onOutComplete_of_enabled henabled, receive_of_lt hmode hsize, receiveInbound_eq hkept hroom,
    h.runCommand_eq, hresidue, obey, endUpload_eq]

/-- To obey a command, a device does not ask what its buffer holds. -/
theorem obey_withInbound (d : Device) (inbound : Option Buffer) (command : ByteArray) :
    { d with inbound }.obey command = d.obey command := by
  have hend : { d with inbound }.endUpload.toTarget = d.endUpload.toTarget := by
    unfold endUpload
    split_ifs
    · rfl
    · rfl
  rw [obey, obey, hend]

/-- **Commands leave no trace, and nothing behind their end counts.** Whatever a device has been through, two
transfers with the same command come to the same: the device afterwards is the same in every part, the frame,
the events, the exchange, the staging buffer and the board included. It is what the device makes of the bare
command. The same comes of it whatever the inbound buffer held before. -/
theorem traceless_run {settings : Settings} {usb : Controller} {board : Board}
    (hbind : bind settings usb board = .ok d) (before : List Action)
    (henabled : (d.run before).lifecycle = .enabled)
    (hmode : (d.run before).transfer.mode ≠ .downloading)
    (hconveys : Conveys data command) (hsize : data.size < settings.bufferSize)
    (hconveys' : Conveys data' command) (hsize' : data'.size < settings.bufferSize) :
    (d.run before).onOutComplete .completed data = (d.run before).obey command ∧
      (d.run before).onOutComplete .completed data' = (d.run before).onOutComplete .completed data ∧
      ∀ residue : Buffer, residue.capacity = settings.bufferSize →
        { d.run before with inbound := some residue }.onOutComplete .completed data' =
          (d.run before).onOutComplete .completed data := by
  have hsound := (sound_of_bind hbind).run before
  have hsettings : (d.run before).settings = settings := by
    obtain ⟨-, rfl⟩ := bind_eq_ok_iff.mp hbind
    exact (sound_of_bind hbind).settings_run before
  obtain ⟨buffer, hbuffer, hcapacity⟩ := hsound.inbound henabled
  rw [← hsettings] at hsize hsize'
  -- all three transfers come to what the device makes of the command alone
  have hobey := onOutComplete_of_conveys hconveys henabled hmode hsize hbuffer hcapacity
  have hobey' := onOutComplete_of_conveys hconveys' henabled hmode hsize' hbuffer hcapacity
  refine ⟨hobey, hobey'.trans hobey.symm, fun residue hresidue => ?_⟩
  have hcapacity' : residue.capacity = (d.run before).settings.bufferSize := by
    rw [hsettings, hresidue]
  have hother := onOutComplete_of_conveys (d := { d.run before with inbound := some residue })
    hconveys' henabled hmode hsize' rfl hcapacity'
  rw [hother, obey_withInbound, hobey]

/-- A host that has downloaded four bytes and asks for them back. -/
def takingSession : List Action :=
  [.call .enable, asks "download:00000004", asks "abcd", asks "upload"]

/-- A command in a transfer that goes on with bytes that are no text. -/
def strayCommand : ByteArray :=
  "getvar:version".toUTF8 ++ ⟨#[0]⟩ ++ ⟨#[0xff, 0xfe]⟩

/-- During the upload a command comes in with bytes behind its end that are no text. It is answered like the
bare command, and it would be so if the buffer had held a longer one before. -/
theorem traceless_run_stray :
    (tiny.run takingSession).transfer.mode = .uploading ∧ String.fromUTF8? strayCommand = none ∧
      ((tiny.run takingSession).onOutComplete .completed strayCommand).usb.pending =
        some "OKAY0.4".toUTF8 ∧
      (tiny.run takingSession).onOutComplete .completed strayCommand =
        (tiny.run takingSession).onOutComplete .completed "getvar:version".toUTF8 ∧
      ∀ residue, (Buffer.empty 512).writeAt 0 "getvar:version:and:more".toUTF8 = .ok residue →
        { tiny.run takingSession with inbound := some residue }.onOutComplete .completed
            strayCommand =
          (tiny.run takingSession).onOutComplete .completed "getvar:version".toUTF8 := by
  have hmode : (tiny.run takingSession).transfer.mode = .uploading := by decide +kernel
  have hzero : 0 ∉ "getvar:version".toUTF8.data := by decide +kernel
  have hbare : Conveys "getvar:version".toUTF8 "getvar:version".toUTF8 := ⟨hzero, .inl rfl⟩
  have hstray : Conveys strayCommand "getvar:version".toUTF8 := ⟨hzero, .inr ⟨_, rfl⟩⟩
  obtain ⟨-, hsame, hresidue⟩ := traceless_run bind_tiny takingSession (by decide +kernel)
    (by rw [hmode]; decide) hbare (by decide +kernel) hstray (by decide +kernel)
  refine ⟨hmode, by decide +kernel, by decide +kernel, hsame, fun residue hwrite => ?_⟩
  have hcapacity : residue.capacity = 512 := Buffer.capacity_of_writeAt hwrite
  exact hresidue residue hcapacity

end Fastboot.Device
