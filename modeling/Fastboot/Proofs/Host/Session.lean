import Fastboot.Host
import Fastboot.Proofs.Device.Link
import Mathlib.Logic.Relation

/-!
# Sessions of a host

`Reachable settings h` says that `h` can come about in a session with a device of these settings: by what
a host does, in any order and whatever comes of it, while others handle the controller and change the
board in between.

All that a host does is made of two moves: it fills a request, or collects frames (`Moves`). So what the
two preserve holds in all sessions. The device is wired, and a request that is armed outside a download is
one for a command (`Reachable.connected`): the next command of the host finds room, whatever the session has
been through.
-/

namespace Fastboot

namespace Device

variable {d : Device} {settings : Settings}

/-- A wired device whose request, outside a download, is one for a command. -/
structure Attached (d : Device) (settings : Settings) : Prop extends Wired d settings none where
  armed_eq : d.transfer.mode ≠ .downloading → ∀ length, d.usb.armed = some length →
    length = settings.bufferSize

/-- Others never arm a request, so what they do leaves a device attached. -/
theorem Attached.world {usb : Controller} (h : d.Attached settings) (husb : d.usb.Handled usb)
    (board : Board) : { d with usb, board }.Attached settings where
  toWired := h.toWired.world husb board
  armed_eq hmode length hlength := by
    rcases husb.armed_eq with hnone | hsame
    · exact absurd (hnone.symm.trans hlength) nofun
    · exact h.armed_eq hmode length (hsame.symm.trans hlength)

/-- A request that is armed behind a transfer is one for what is expected next. -/
theorem Attached.onOutComplete (h : d.Attached settings) (status : TransferStatus)
    (data : ByteArray) : (d.onOutComplete status data).Attached settings := by
  by_cases henabled : d.lifecycle = .enabled
  · obtain ⟨hwired, harmed⟩ := h.toWired.received henabled status data
    refine { toWired := hwired, armed_eq := fun hmode length hlength => ?_ }
    obtain rfl := Option.some.inj (harmed.symm.trans hlength)
    exact hwired.expected_eq hmode
  · rw [Device.onOutComplete, if_neg henabled]
    exact h

/-- A frame that goes out leaves the request and the kind of the next transfer as they are. -/
theorem Attached.completeIn (h : d.Attached settings) : d.completeIn.2.Attached settings := by
  have hcollect := h.world .completeIn d.board
  rcases hcomplete : d.completeIn with ⟨frame, e⟩
  cases h.sound.collection hcomplete with
  | nothing => exact h
  | unnoticed => exact hcollect
  | followed _ henabled hp hhand =>
    have hwired := hcollect.toWired.of_progression henabled hp
    subst hhand
    refine { toWired := hwired.hand, armed_eq := fun hmode length hlength => ?_ }
    rw [armed_hand, hp.usb_eq] at hlength
    refine hcollect.armed_eq (fun hdownload => hmode ?_) length hlength
    exact hwired.sound.mode_hand_iff.mpr ((hp.mode_iff hcollect.sound).mpr hdownload)

/-- What is kept when one frame is collected is kept however many are. -/
theorem Attached.completeFrames_of_step {P : Device → Prop}
    (hstep : ∀ {e : Device}, e.Attached settings → P e → P e.completeIn.2)
    (h : d.Attached settings) (hd : P d) (limit : Nat) :
    (Device.completeFrames limit d).2.Attached settings ∧ P (Device.completeFrames limit d).2 := by
  induction limit generalizing d with
  | zero => exact ⟨h, hd⟩
  | succ limit ih =>
    have hcomplete := h.completeIn
    have hnext := hstep h hd
    unfold Device.completeFrames
    generalize d.completeIn = result at hcomplete hnext
    obtain ⟨frame, e⟩ := result
    cases frame with
    | none => exact ⟨hcomplete, hnext⟩
    | some frame => exact ih hcomplete hnext

theorem Attached.completeFrames (h : d.Attached settings) (limit : Nat) :
    (Device.completeFrames limit d).2.Attached settings :=
  (h.completeFrames_of_step (P := fun _ => True) (fun _ _ => trivial) trivial limit).1

end Device

namespace Host

/-- A host in a session with a device of these settings. -/
inductive Reachable (settings : Settings) : Host → Prop where
  | connect {board : Board} {h : Host} (hconnect : connect settings board = .ok h) :
      Reachable settings h
  | withChunk {h : Host} (hr : Reachable settings h) (chunk : Nat) :
      Reachable settings (h.withChunk chunk)
  | deliver {h : Host} (hr : Reachable settings h) (bytes : ByteArray) :
      Reachable settings (h.deliver bytes).2
  | pump {h : Host} (hr : Reachable settings h) : Reachable settings h.pump.2
  | send {h : Host} (hr : Reachable settings h) (command : String) :
      Reachable settings (h.send command).2
  | command {h : Host} (hr : Reachable settings h) (command : String) :
      Reachable settings (h.command command).2
  | download {h : Host} (hr : Reachable settings h) (data : ByteArray) :
      Reachable settings (h.download data).2
  | upload {h : Host} (hr : Reachable settings h) : Reachable settings h.upload.2
  /-- Others handle the controller, and the board changes. -/
  | world {h : Host} (hr : Reachable settings h) {usb : Controller}
      (husb : h.device.usb.Handled usb) (board : Board) :
      Reachable settings { h with device := { h.device with usb, board } }

/-- A host with an attached device, that sends one byte at least. -/
structure Connected (h : Host) (settings : Settings) : Prop where
  device : h.device.Attached settings
  chunk_pos : 0 < h.chunk

variable {h h' : Host} {settings : Settings}

/-! ### What an action is made of -/

/-- What all actions of a host are made of: a request is filled, or the frames are collected. -/
inductive Move (h : Host) : Host → Prop where
  | deliver (bytes : ByteArray) : Move h (h.deliver bytes).2
  | pump : Move h h.pump.2

/-- Any number of moves. -/
abbrev Moves : Host → Host → Prop :=
  Relation.ReflTransGen Move

theorem moves_send (h : Host) (command : String) : Moves h (h.send command).2 := by
  have hdeliver : Moves h (h.deliver command.toUTF8).2 := .single (.deliver _)
  unfold Host.send
  split <;> rename_i heq <;> rw [heq] at hdeliver
  · exact hdeliver
  · exact hdeliver.tail .pump

theorem moves_command (h : Host) (command : String) : Moves h (h.command command).2 := by
  have hsend := h.moves_send command
  unfold Host.command
  split <;> rename_i heq <;> rwa [heq] at hsend

/-- The data goes out piece by piece. -/
theorem moves_sendData (h : Host) (data : ByteArray) (pieces offset : Nat) :
    Moves h (sendData data pieces offset h).2 := by
  induction pieces generalizing h offset with
  | zero => exact .refl
  | succ pieces ih =>
    unfold sendData
    split
    · exact .refl
    · split
      · exact .refl
      · rename_i armed _
        have hdeliver : Moves h
            (h.deliver (data.extract offset (min data.size (offset + min armed h.chunk)))).2 :=
          .single (.deliver _)
        dsimp only
        split <;> rename_i heq <;> rw [heq] at hdeliver
        · exact hdeliver
        · -- the host stops early if the device has something to say, and goes on otherwise
          split
          · exact hdeliver
          · exact hdeliver.trans (ih _ _)

theorem moves_download (h : Host) (data : ByteArray) : Moves h (h.download data).2 := by
  unfold Host.download
  split
  · exact .refl
  · have hcommand := h.moves_command (downloadCommand (.ofNat data.size))
    dsimp only
    split <;> rename_i heq <;> rw [heq] at hcommand
    · exact hcommand
    · split
      · exact hcommand
      · have hdata := hcommand.trans (moves_sendData _ data data.size 0)
        split <;> rename_i heq' <;> rw [heq'] at hdata
        · exact hdata
        · exact hdata.tail .pump
    · exact hcommand

theorem moves_upload (h : Host) : Moves h h.upload.2 := by
  have hsend := h.moves_send "upload"
  unfold Host.upload
  split <;> rename_i heq <;> rwa [heq] at hsend

/-! ### How a session starts -/

/-- The device that a session starts with. -/
def started (settings : Settings) (board : Board) : Device :=
  { toTarget := .start settings board
    usb := { armed := some settings.bufferSize }
    inbound := some (.empty settings.bufferSize)
    requested := settings.bufferSize
    lifecycle := .enabled }

/-- A session starts with valid settings and no others. -/
theorem connect_eq_ok_iff {board : Board} : connect settings board = .ok h ↔
    settings.Valid ∧ h = { device := started settings board, chunk := settings.bufferSize } := by
  unfold connect
  constructor
  · intro hconnect
    cases hbind : Device.bind settings {} board with
    | error e =>
      rw [hbind] at hconnect
      cases hconnect
    | ok d =>
      obtain ⟨hvalid, rfl⟩ := Device.bind_eq_ok_iff.mp hbind
      rw [hbind] at hconnect
      exact ⟨hvalid, (Except.ok.inj hconnect).symm⟩
  · rintro ⟨hvalid, rfl⟩
    rw [Device.bind_eq_ok_iff.mpr ⟨hvalid, rfl⟩]
    rfl

theorem connected_of_connect {board : Board} (hconnect : connect settings board = .ok h) :
    h.Connected settings := by
  obtain ⟨hvalid, rfl⟩ := connect_eq_ok_iff.mp hconnect
  have hsound := Device.sound_of_bind (Device.bind_eq_ok_iff.mpr
    (⟨hvalid, rfl⟩ : settings.Valid ∧
      (⟨.start settings board, {}, none, 0, .bound⟩ : Device) = _))
  exact {
    device := {
      sound := hsound.call .enable
      settings_eq := rfl
      lifecycle_ne := nofun
      direct := ⟨rfl, rfl⟩
      armed_eq := fun _ length hlength => (Option.some.inj hlength).symm }
    chunk_pos := hvalid.bufferSize_pos }

/-! ### How a session goes on -/

theorem Connected.world {usb : Controller} (hc : h.Connected settings)
    (husb : h.device.usb.Handled usb) (board : Board) :
    { h with device := { h.device with usb, board } }.Connected settings :=
  ⟨hc.device.world husb board, hc.chunk_pos⟩

/-- The request is filled, or taken at most. -/
theorem deliver_snd_cases (h : Host) (bytes : ByteArray) :
    (h.deliver bytes).2 = h ∨
      (h.deliver bytes).2 =
        { h with device := { h.device with usb := h.device.usb.takeOut.2 } } ∨
      (h.deliver bytes).2 = { h with device :=
        { h.device with usb := h.device.usb.takeOut.2 }.onOutComplete .completed bytes } := by
  unfold Host.deliver
  split
  · exact .inl rfl
  · simp only [Controller.takeOut]
    split
    · exact .inr (.inl rfl)
    · split
      · exact .inr (.inr rfl)
      · exact .inr (.inl rfl)

/-- The request is taken whether the bytes fit it or not. -/
theorem Connected.deliver (hc : h.Connected settings) (bytes : ByteArray) :
    (h.deliver bytes).2.Connected settings := by
  have htaken := hc.world .takeOut h.device.board
  rcases h.deliver_snd_cases bytes with hsame | htake | hfill
  · rw [hsame]
    exact hc
  · rw [htake]
    exact htaken
  · rw [hfill]
    exact ⟨htaken.device.onOutComplete _ _, hc.chunk_pos⟩

theorem Connected.pump (hc : h.Connected settings) : h.pump.2.Connected settings where
  device := by
    show h.device.drain.2.Attached settings
    exact hc.device.completeFrames _
  chunk_pos := hc.chunk_pos

/-- Whatever the host does, it stays connected. -/
theorem Connected.moves (hc : h.Connected settings) (hmoves : Moves h h') :
    h'.Connected settings := by
  induction hmoves with
  | refl => exact hc
  | tail _ hmove ih =>
    cases hmove with
    | deliver bytes => exact ih.deliver bytes
    | pump => exact ih.pump

/-- What a device keeps when its request is taken, when a transfer comes in and when a frame goes out, it keeps
whatever the host does. -/
theorem Connected.moves_of_device {P : Device → Prop}
    (htake : ∀ {d : Device}, P d → P { d with usb := d.usb.takeOut.2 })
    (hfill : ∀ {d : Device}, d.Attached settings → P d →
      ∀ data, P (d.onOutComplete .completed data))
    (hcollect : ∀ {d : Device}, d.Attached settings → P d → P d.completeIn.2)
    (hc : h.Connected settings) (hP : P h.device) (hmoves : Moves h h') : P h'.device := by
  induction hmoves with
  | refl => exact hP
  | @tail before after hbefore hmove ih =>
    have hbetween := hc.moves hbefore
    cases hmove with
    | deliver bytes =>
      rcases before.deliver_snd_cases bytes with hsame | htaken | hfilled
      · rw [hsame]
        exact ih
      · rw [htaken]
        exact htake ih
      · rw [hfilled]
        exact hfill (hbetween.world .takeOut before.device.board).device (htake ih) bytes
    | pump =>
      show P before.device.drain.2
      exact (hbetween.device.completeFrames_of_step hcollect ih _).2

/-- **Hosts stay connected.** Whatever a session has been through, the device is in order, and outside a
download there is room in the armed request for a command. -/
theorem Reachable.connected (hr : Reachable settings h) : h.Connected settings := by
  induction hr with
  | connect hconnect => exact connected_of_connect hconnect
  | withChunk _ chunk ih => exact ⟨ih.device, Nat.le_max_right chunk 1⟩
  | deliver _ bytes ih => exact ih.deliver bytes
  | pump _ ih => exact ih.pump
  | send _ command ih => exact ih.moves (moves_send _ command)
  | command _ command ih => exact ih.moves (moves_command _ command)
  | download _ data ih => exact ih.moves (moves_download _ data)
  | upload _ ih => exact ih.moves (moves_upload _)
  | world _ husb board ih => exact ih.world husb board

/-! ### Hosts that can go on -/

/-- Until it has left, the device of a session is enabled. -/
theorem Connected.enabled (hc : h.Connected settings) (hhalted : h.device.isHalted = false) :
    h.device.lifecycle = .enabled := by
  have hbound := hc.device.lifecycle_ne
  cases hlifecycle : h.device.lifecycle with
  | bound => exact absurd hlifecycle hbound
  | enabled => rfl
  | halted => simp [Device.isHalted, hlifecycle] at hhalted

theorem Connected.live (hc : h.Connected settings) (hhalted : h.device.isHalted = false)
    (hfail : h.device.usb.failNext = false) : h.device.Live settings none where
  toWired := hc.device.toWired
  enabled := hc.enabled hhalted
  failNext := hfail

end Host

end Fastboot
