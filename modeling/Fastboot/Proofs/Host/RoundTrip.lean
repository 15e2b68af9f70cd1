import Fastboot.Proofs.Device.Phase
import Fastboot.Proofs.Host.Session

/-!
# What goes down comes up again

`upload_download` says that data which is downloaded to a device is what the next upload brings back, byte
for byte, whatever the session was doing before.

Two loops meet in the middle. On the way down the host cuts the data into pieces, none larger than its own
limit or than the request that the device has armed (`sendData_cases`). On the way up the device cuts it into
chunks, none larger than its buffer, and the host collects them (`completeFrames_eq`). Neither cut has to
do with the other: what they share is the prefix of the staging buffer.
-/

namespace Fastboot.Host

open Device (frameOf)

variable {h : Host} {settings : Settings} {size : UInt32} {got data all : ByteArray} {k : Nat}
  {frame : ByteArray}

/-! ### One exchange -/

/-- The host gets across what fits the armed request, and nothing else. -/
theorem deliver_eq_ok_iff {bytes : ByteArray} {e : Host} : h.deliver bytes = (.ok (), e) ↔
    h.device.isHalted = false ∧ (∃ length, h.device.usb.armed = some length ∧ bytes.size ≤ length) ∧
      e = { h with device :=
        { h.device with usb := h.device.usb.takeOut.2 }.onOutComplete .completed bytes } := by
  unfold deliver
  by_cases hhalted : h.device.isHalted = true
  · simp [hhalted]
  · rw [if_neg hhalted]
    cases harmed : h.device.usb.armed with
    | none => simp [Controller.takeOut, harmed]
    | some length =>
      by_cases hle : bytes.size ≤ length
      · simp [Controller.takeOut, harmed, hle, hhalted, eq_comm]
      · simp [Controller.takeOut, harmed, hle]

/-- Bytes that fit the armed request arrive. -/
theorem deliver_eq {bytes : ByteArray} {length : Nat} (hlive : h.device.Live settings none)
    (harmed : h.device.usb.armed = some length) (hle : bytes.size ≤ length) :
    h.deliver bytes = (.ok (), { h with
      device := { h.device with usb := h.device.usb.takeOut.2 }.onOutComplete .completed bytes }) :=
  have hhalted : h.device.isHalted = false := by
    simp [Device.isHalted, hlive.enabled]
  deliver_eq_ok_iff.mpr ⟨hhalted, ⟨length, harmed, hle⟩, rfl⟩

/-- A status frame that nothing follows is collected, and nothing else. -/
theorem pump_eq {d : Device} (hlive : d.Live settings none) (hnext : d.transfer.next = .done)
    (hpending : d.usb.pending = some frame) (chunk : Nat) :
    ({ device := d, chunk } : Host).pump = ([frame], { device := d.collected, chunk }) := by
  have hdrain : d.drain = ([frame], d.collected) :=
    Device.completeFrames_of_done hlive.enabled hnext hpending _
  unfold pump
  rw [hdrain]

/-- With no frame queued there is nothing to collect. -/
theorem pump_of_none (hpending : h.device.usb.pending = none) : h.pump = ([], h) := by
  have hdrain : h.device.drain = ([], h.device) := Device.completeFrames_of_none hpending _
  unfold pump
  rw [hdrain]

/-- A response reads back from its frame. -/
@[simp]
theorem parse?_frameOf (response : Response) : Response.parse? (frameOf response) = some response :=
  response.parse?_text

theorem onlyAnswer_frameOf (response : Response) (count : Nat → HostError)
    (malformed : HostError) : onlyAnswer [frameOf response] count malformed = .ok response := by
  simp [onlyAnswer]

/-! ### The way down -/

/-- There is room for the announcement. -/
theorem size_downloadCommand_le (hlive : h.device.Live settings none) (size : UInt32) :
    (downloadCommand size).toUTF8.size ≤ settings.bufferSize := by
  have hbytes : (downloadCommand size).toUTF8.size = 17 :=
    (Command.downloadCommand_plain size).2
  have hroom := hlive.lt_bufferSize (show 17 < 512 by decide)
  omega

/-- The announcement is answered by the size that was announced. -/
theorem command_downloadCommand (hlive : h.device.Live settings none)
    (hmode : h.device.transfer.mode ≠ .downloading)
    (harmed : h.device.usb.armed = some settings.bufferSize) (hpos : 0 < size.toNat)
    (hfits : size.toNat ≤ settings.stagingCapacity) :
    ∃ d, h.command (downloadCommand size) = (.ok (.data size), { h with device := d }) ∧
      d.Receiving settings size .empty none := by
  have hreceiving := hlive.takeOut.receiving hmode hpos hfits
  refine ⟨_, ?_, hreceiving.collected⟩
  simp only [command, send, deliver_eq hlive harmed (size_downloadCommand_le hlive size),
    pump_eq hreceiving.toLive hreceiving.next_eq hreceiving.pending_eq, onlyAnswer_frameOf]

/-- With nothing left to send, nothing is sent. -/
theorem sendData_of_le (hle : data.size ≤ k) (pieces : Nat) :
    sendData data pieces k h = (.ok (), h) := by
  cases pieces with
  | zero => rfl
  | succ pieces => rw [sendData, if_pos hle]

/-- **The data arrives**, in however many pieces, behind what is there already. Either the download goes on
with all of it, or it has ended with as much as it takes. A host that has more to send then may find the
answer too early. -/
theorem sendData_cases (hd : h.device.Receiving settings size got none) (hchunk : 0 < h.chunk)
    {pieces : Nat} (hpieces : data.size - k ≤ pieces)
    (hall : got ++ data.extract k data.size = all) :
    (∃ d, sendData data pieces k h = (.ok (), { h with device := d }) ∧
        d.Receiving settings size all none) ∨
      ∃ outcome d, sendData data pieces k h = (outcome, { h with device := d }) ∧
        d.Holding settings (all.extract 0 size.toNat) (some (frameOf (.okay ""))) ∧
          (all.size ≤ size.toNat → outcome = .ok ()) := by
  -- each piece has at least one byte, so the pieces last as long as the data
  induction pieces generalizing h k got with
  | zero =>
    rw [ByteArray.extract_eq_empty_iff.mpr (by omega), ByteArray.append_empty] at hall
    exact .inl ⟨h.device, rfl, hall ▸ hd⟩
  | succ pieces ih =>
    rcases Nat.lt_or_ge k data.size with hlt | hle
    · obtain ⟨length, harmed, hlength⟩ := hd.armed_eq
      obtain ⟨stop, hstop⟩ : ∃ stop, stop = min data.size (k + min length h.chunk) := ⟨_, rfl⟩
      have hmore : k < stop := by omega
      have hwithin : stop ≤ data.size := by omega
      have hpiece : (data.extract k stop).size ≤ length := by
        rw [ByteArray.size_extract]
        omega
      have hdeliver := deliver_eq hd.toLive harmed hpiece
      obtain ⟨hpartly, hlast⟩ := hd.received (data.extract k stop)
      rw [← Device.extract_append_of_le (Nat.le_of_lt hmore) _ hwithin,
        ← ByteArray.append_assoc] at hall
      rw [sendData, if_neg (Nat.not_le_of_lt hlt)]
      simp only [harmed, ← hstop, hdeliver]
      rcases Nat.lt_or_ge (got ++ data.extract k stop).size size.toNat with hmissing | hcomplete
      · have hnext := hpartly hmissing
        rw [if_neg (by rw [hnext.pending_eq]; simp)]
        exact ih hnext hchunk (by omega) hall
      · have hholding := hlast hcomplete
        have hsize := congrArg ByteArray.size hall
        rw [ByteArray.size_append, ByteArray.size_extract] at hsize
        rw [← Buffer.extract_append_of_le hcomplete (data.extract stop data.size), hall] at hholding
        by_cases hdone : stop = data.size
        · rw [if_neg fun hearly => hearly.1 hdone, sendData_of_le (Nat.le_of_eq hdone.symm)]
          exact .inr ⟨_, _, rfl, hholding, fun _ => rfl⟩
        · rw [if_pos ⟨hdone, by rw [hholding.pending_eq]; rfl⟩]
          exact .inr ⟨_, _, rfl, hholding, fun hexact => by omega⟩
    · rw [sendData_of_le hle]
      rw [ByteArray.extract_eq_empty_iff.mpr (by omega), ByteArray.append_empty] at hall
      exact .inl ⟨h.device, rfl, hall ▸ hd⟩

/-- **A download succeeds**, and leaves the device with the data. -/
theorem download_eq (hlive : h.device.Live settings none)
    (hmode : h.device.transfer.mode ≠ .downloading)
    (harmed : h.device.usb.armed = some settings.bufferSize) (hchunk : 0 < h.chunk)
    (hpos : 0 < data.size) (hfits : data.size ≤ settings.stagingCapacity) :
    ∃ d, h.download data = (.ok (.okay ""), { h with device := d }) ∧
      d.Holding settings data none := by
  have hcap := hlive.sound.valid.stagingCapacity_lt
  rw [hlive.settings_eq] at hcap
  have hsize : (UInt32.ofNat data.size).toNat = data.size :=
    UInt32.toNat_ofNat_of_lt' (Nat.lt_of_le_of_lt hfits hcap)
  rw [← hsize] at hpos hfits
  obtain ⟨d, hcommand, hd⟩ := command_downloadCommand hlive hmode harmed hpos hfits
  have hall : ByteArray.empty ++ data.extract 0 data.size = data := by
    rw [ByteArray.extract_zero_size, ByteArray.empty_append]
  rcases sendData_cases (h := { h with device := d }) hd hchunk (Nat.sub_le data.size 0) hall with
    ⟨d', -, hd'⟩ | ⟨outcome, d', hdata, hd', hok⟩
  · exact absurd hd'.size_lt (Nat.not_lt_of_le (Nat.le_of_eq hsize))
  · obtain rfl := hok (Nat.le_of_eq hsize.symm)
    rw [hsize, ByteArray.extract_zero_size] at hd'
    refine ⟨d'.collected, ?_, hd'.collected⟩
    rw [download, if_neg (by omega)]
    simp only [hcommand, ne_eq, not_true_eq_false, if_false, hdata]
    rw [pump_eq hd'.toLive hd'.next_eq hd'.pending_eq]
    simp only [onlyAnswer_frameOf]

/-! ### The way up -/

/-- Frames are joined from the first to the last. -/
theorem foldl_append_eq (frames : List ByteArray) (front : ByteArray) :
    frames.foldl (· ++ ·) front = front ++ joined frames := by
  induction frames generalizing front with
  | nil => exact ByteArray.append_empty.symm
  | cons first frames ih =>
    have hjoined : joined (first :: frames) = first ++ joined frames := by
      rw [joined, List.foldl_cons, ih, ByteArray.empty_append]
    rw [List.foldl_cons, ih, hjoined, ByteArray.append_assoc]

theorem joined_cons (first : ByteArray) (frames : List ByteArray) :
    joined (first :: frames) = first ++ joined frames := by
  rw [joined, List.foldl_cons, foldl_append_eq, ByteArray.empty_append]

/-- A header, the data in chunks, and a status are read as the data. -/
theorem uploaded_eq {chunks : List ByteArray} {size : UInt32} (hjoined : joined chunks = data)
    (hsize : size.toNat = data.size) :
    uploaded (frameOf (.data size) :: (chunks ++ [frameOf (.okay "")])) = .ok data := by
  simp [uploaded, hjoined, hsize]

/-- **The data is collected**, in however many chunks: behind the frame that is queued come the chunks
that make up the rest, and a status. -/
theorem completeFrames_eq {d : Device} (hd : d.Serving settings data k frame) {limit : Nat}
    (hlimit : data.size - k + 2 ≤ limit) : ∃ chunks e,
      Device.completeFrames limit d = (frame :: (chunks ++ [frameOf (.okay "")]), e) ∧
        joined chunks = data.extract k data.size ∧ e.Spent settings none := by
  -- each chunk has at least one byte, and the status takes one frame more
  induction limit generalizing d k frame with
  | zero => omega
  | succ limit ih =>
    obtain ⟨e, hcomplete, ⟨hdone, he⟩ | ⟨stop, hlt, hle, he⟩⟩ := hd.completeIn
    · obtain ⟨rest, rfl⟩ : ∃ rest, limit = rest + 1 := ⟨limit - 1, by omega⟩
      have hstatus := Device.completeFrames_of_done he.enabled he.next_eq he.pending_eq rest
      refine ⟨[], e.collected, ?_, ?_, he.collected⟩
      · rw [Device.completeFrames_succ hcomplete, hstatus]
        rfl
      · rw [hdone, ByteArray.extract_same]
        rfl
    · obtain ⟨chunks, e', hrest, hjoined, he'⟩ := ih he (by omega)
      refine ⟨data.extract k stop :: chunks, e', ?_, ?_, he'⟩
      · rw [Device.completeFrames_succ hcomplete, hrest]
        rfl
      · rw [joined_cons, hjoined, Device.extract_append_of_le (Nat.le_of_lt hlt) _ hle]

/-- A device that has announced an upload is drained of all of it: the host allows a frame for each
byte that is left, and more for what stands around them. -/
theorem drain_eq {d : Device} (hd : d.Serving settings data 0 frame) : ∃ chunks e,
    d.drain = (frame :: (chunks ++ [frameOf (.okay "")]), e) ∧ joined chunks = data ∧
      e.Spent settings none := by
  have hlimit : data.size - 0 + 2 ≤ d.transfer.uploadRemaining.toNat + 3 := by
    have hbytes := hd.uploadBytes_le
    have hleft := d.transfer.toNat_uploadRemaining
    rw [hd.uploadSize_eq] at hleft
    omega
  obtain ⟨chunks, e, hframes, hjoined, he⟩ := completeFrames_eq hd hlimit
  rw [ByteArray.extract_zero_size] at hjoined
  exact ⟨chunks, e, hframes, hjoined, he⟩

/-- **An upload brings up what is there**, wherever it has come from, and leaves the device with nothing to
send. -/
theorem upload_of_stocked (hd : h.device.Stocked settings data) (hpos : 0 < data.size) :
    ∃ d, h.upload = (.ok data, { h with device := d }) ∧ d.Spent settings none := by
  have hlength : "upload".toUTF8.size ≤ settings.bufferSize :=
    Nat.le_of_lt (hd.lt_bufferSize (show "upload".toUTF8.size < 512 by decide))
  obtain ⟨hserving, -, -⟩ := hd.serving hpos
  have hdeliver := deliver_eq hd.toLive hd.armed_eq hlength
  generalize ({ h.device with usb := h.device.usb.takeOut.2 } : Device).onOutComplete .completed
    "upload".toUTF8 = d at hserving hdeliver
  obtain ⟨chunks, e, hdrain, hjoined, he⟩ := drain_eq hserving
  refine ⟨e, ?_, he⟩
  simp only [upload, send, hdeliver, pump, hdrain, uploaded_eq hjoined hd.uploadSize_eq]

/-- An upload brings up what a download has left. -/
theorem upload_eq (hd : h.device.Holding settings data none) (hpos : 0 < data.size) :
    ∃ d, h.upload = (.ok data, { h with device := d }) ∧ d.Spent settings none :=
  upload_of_stocked hd.stocked hpos

/-! ### Down and up -/

/-- **What is downloaded is what the next upload brings back.** It holds in every session that goes on and
is not in a download, with a request armed and no failure due: for data of every size that the staging
buffer holds, whatever the host sends at once and whatever is still queued. Afterwards the device is idle,
with nothing to send and nothing queued. -/
theorem upload_download (hr : Reachable settings h) (hhalted : h.device.isHalted = false)
    (harmed : h.device.usb.armed.isSome = true)
    (hmode : h.device.transfer.mode ≠ .downloading) (hfail : h.device.usb.failNext = false)
    (hpos : 0 < data.size) (hfits : data.size ≤ settings.stagingCapacity) :
    ∃ h₁ h₂, h.download data = (.ok (.okay ""), h₁) ∧ h₁.upload = (.ok data, h₂) ∧
      h₂.device.transfer.mode = .idle ∧ h₂.device.transfer.uploadSize = 0 ∧
        h₂.device.usb.pending = none := by
  obtain ⟨hdevice, hchunk⟩ := hr.connected
  obtain ⟨length, hlength⟩ := Option.isSome_iff_exists.mp harmed
  have hlive := hr.connected.live hhalted hfail
  -- outside a download, the request that is armed is one for a command
  have harmed' : h.device.usb.armed = some settings.bufferSize := by
    rw [hlength, hdevice.armed_eq hmode length hlength]
  obtain ⟨d, hdownload, hholding⟩ := download_eq hlive hmode harmed' hchunk hpos hfits
  obtain ⟨e, hupload, hspent⟩ := upload_eq (h := { h with device := d }) hholding hpos
  exact ⟨_, _, hdownload, hupload, hspent.mode_eq, hspent.uploadSize_eq, hspent.pending_eq⟩

/-- A session that sends two bytes at once, in the middle of an upload, with a frame that nobody has
collected. -/
def busy : Host :=
  let connected : Host := { device := started {} {}, chunk := ({} : Settings).bufferSize }
  (((connected.withChunk 2).download "abc".toUTF8).2.deliver "upload".toUTF8).2

theorem reachable_busy : Reachable {} busy :=
  have hconnect : Reachable {} _ := .connect (connect_eq_ok_iff.mpr ⟨Settings.valid_default, rfl⟩)
  ((hconnect.withChunk 2).download "abc".toUTF8).deliver "upload".toUTF8

theorem upload_download_busy :
    busy.device.transfer.mode = .uploading ∧ busy.device.usb.pending.isSome = true ∧
      ∃ h₁ h₂, busy.download "round trip".toUTF8 = (.ok (.okay ""), h₁) ∧
        h₁.upload = (.ok "round trip".toUTF8, h₂) ∧ h₂.device.transfer.mode = .idle ∧
          h₂.device.transfer.uploadSize = 0 ∧ h₂.device.usb.pending = none :=
  ⟨by decide +kernel, by decide +kernel, upload_download reachable_busy (by decide +kernel)
    (by decide +kernel) (by decide +kernel) (by decide +kernel) (by decide) (by decide)⟩

end Fastboot.Host
