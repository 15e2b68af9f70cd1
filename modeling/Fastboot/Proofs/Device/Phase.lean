import Fastboot.Proofs.Command.Announce
import Fastboot.Proofs.Device.Assembly
import Fastboot.Proofs.Device.Uploading

/-!
# The phases of a round trip

A live device goes through four states while some data is sent to it and back:

* `Receiving size got`: a download of `size` bytes is under way, and what it has `got` is staged;
* `Holding data`: the download is over and has left `data`, and an upload would send it;
* `Serving data k frame`: an upload is under way, and when `frame` has gone out the host has `k` bytes of
  `data`;
* `Spent`: the upload is over, with nothing left to send.

A device that is `Stocked` with some data is one from which an upload would fetch it, wherever it has come
from. A device that is holding a download is stocked with it.

Each comes with the frame that is queued meanwhile, if any. What happens to the data is told by `Assembling`
on the way down and by `Uploading` on the way up. The theorems here are the steps from one state to the
next: they add that the device stays live, with a request armed for whatever the host sends.
-/

namespace Fastboot.Device

variable {d : Device} {settings : Settings} {size : UInt32} {got data : ByteArray} {k : Nat}
  {frame : ByteArray}

/-! ### The states -/

/-- A download of `size` bytes is under way, and what it has `got` is staged. -/
structure Receiving (d : Device) (settings : Settings) (size : UInt32) (got : ByteArray)
    (frame : Option ByteArray) : Prop extends Live d settings none where
  exists_assembling : ∃ start, Assembling start size d got
  pending_eq : d.usb.pending = frame
  armed_eq : ∃ length, d.usb.armed = some length ∧ 0 < length

/-- A download is over and has left `data`: that is what the next command would consume. -/
structure Downloaded (d : Device) (data : ByteArray) : Prop where
  mode_eq : d.transfer.mode = .idle
  downloadBytes_eq : d.transfer.downloadBytes.toNat = data.size
  startsWith : d.staging.StartsWith data

/-- A download has left `data`, and an upload would send it. -/
structure Holding (d : Device) (settings : Settings) (data : ByteArray)
    (frame : Option ByteArray) : Prop extends Live d settings none, Downloaded d data where
  next_eq : d.transfer.next = .done
  uploadSize_eq : d.transfer.uploadSize.toNat = data.size
  pending_eq : d.usb.pending = frame
  armed_eq : d.usb.armed = some settings.bufferSize

/-- An upload would send `data`. -/
structure Stocked (d : Device) (settings : Settings) (data : ByteArray) : Prop extends
    Live d settings none where
  mode_eq : d.transfer.mode = .idle
  uploadSize_eq : d.transfer.uploadSize.toNat = data.size
  startsWith : d.staging.StartsWith data
  armed_eq : d.usb.armed = some settings.bufferSize

/-- An upload of `data` is under way, and `k` bytes of it have gone out when `frame` has. -/
structure Serving (d : Device) (settings : Settings) (data : ByteArray) (k : Nat)
    (frame : ByteArray) : Prop extends Live d settings none, Uploading d data where
  pending_eq : d.usb.pending = some frame
  fetched_eq : (d.transfer.fetched frame.size).uploadBytes.toNat = k

/-- There is nothing to send, and nothing under way. -/
structure Spent (d : Device) (settings : Settings) (frame : Option ByteArray) : Prop extends
    Live d settings none, Closed d where
  pending_eq : d.usb.pending = frame

/-! ### Status frames that are collected -/

theorem Receiving.next_eq {held : Option ByteArray} (h : d.Receiving settings size got held) :
    d.transfer.next = .done := by
  obtain ⟨start, hassembling⟩ := h.exists_assembling
  exact hassembling.next_eq

/-- Something is missing. -/
theorem Receiving.size_lt {held : Option ByteArray} (h : d.Receiving settings size got held) :
    got.size < size.toNat := by
  obtain ⟨start, hassembling⟩ := h.exists_assembling
  rw [← hassembling.downloadBytes_eq, ← hassembling.downloadSize_eq]
  exact h.sound.consistent.downloadBytes_lt hassembling.mode_eq

theorem Receiving.collected (h : d.Receiving settings size got (some frame)) :
    d.collected.Receiving settings size got none :=
  have hlive := h.toLive.collected h.next_eq
  { hlive with
    exists_assembling := by
      obtain ⟨start, hassembling⟩ := h.exists_assembling
      exact ⟨start, { hassembling with
        toReady := hlive.toReady
        next_eq := rfl
        queued_eq := d.usb.queued_completeIn.trans hassembling.queued_eq }⟩
    pending_eq := d.pending_collected
    armed_eq := by
      rw [armed_collected]
      exact h.armed_eq }

theorem Holding.collected (h : d.Holding settings data (some frame)) :
    d.collected.Holding settings data none :=
  { h with
    toLive := h.toLive.collected h.next_eq
    next_eq := rfl
    pending_eq := d.pending_collected
    armed_eq := d.armed_collected.trans h.armed_eq }

theorem Spent.collected (h : d.Spent settings (some frame)) : d.collected.Spent settings none :=
  { h with
    toLive := h.toLive.collected h.next_eq
    next_eq := rfl
    pending_eq := d.pending_collected }

/-! ### Download -/

/-- A buffer takes more than a command of a data phase. -/
theorem Live.lt_bufferSize (h : d.Live settings none) {n : Nat} (hn : n < 512) :
    n < settings.bufferSize := by
  have hvalid := h.sound.valid
  rw [h.settings_eq] at hvalid
  have hle : 512 ≤ settings.bufferSize := Nat.le_of_dvd hvalid.bufferSize_pos hvalid.packet_dvd
  omega

/-- **A download is refused or announced.** A device that is not in one has no other answer. -/
theorem Live.announced (h : d.Live settings none) (hmode : d.transfer.mode ≠ .downloading)
    (size : UInt32) :
    let e := d.onOutComplete .completed (Host.downloadCommand size).toUTF8
    e.Live settings none ∧ e.transfer.next = .done ∧ ∃ answer,
      e.usb.pending = some (frameOf answer) ∧
        ((∃ reason, answer = .fail reason) ∨
          ∃ n, answer = .data (.ofNat n) ∧ 0 < n ∧ n ≤ settings.stagingCapacity) := by
  obtain ⟨hzero, hlength⟩ := Command.downloadCommand_plain size
  obtain ⟨reply, target, events, hrun, he⟩ := h.answered_command hmode hzero
    (by rw [hlength]; exact h.lt_bufferSize (by decide))
  have houtcome := Command.outcome_dispatch (Host.downloadCommand size)
    { d.toTarget with transfer := d.transfer.interrupted, events }
  rw [hrun] at houtcome
  have htransfer := he.transfer_eq
  have hpending := he.pending_eq
  simp only [Option.map_some, Option.getD_some, Option.some_or] at htransfer hpending
  refine ⟨he.live, ?_⟩
  rw [htransfer, hpending, Transfer.next_accepted]
  rcases houtcome.of_download (Command.ofCommand?_downloadCommand size) with
    ⟨fault, rfl⟩ | ⟨n, rfl, hpos, hle⟩
  · obtain ⟨reason, hframe⟩ := Offer.exists_frame_ofFault fault
    rw [hframe]
    exact ⟨Offer.next_ofFault fault, _, rfl, .inl ⟨reason, rfl⟩⟩
  · rw [Offer.frame_data, Offer.next_data]
    rw [h.sound.capacity_staging, h.settings_eq] at hle
    exact ⟨rfl, _, rfl, .inr ⟨n, rfl, hpos, hle⟩⟩

/-- **A download is announced.** A device that is not in one enters it, whatever it was doing. -/
theorem Live.receiving (h : d.Live settings none) (hmode : d.transfer.mode ≠ .downloading)
    (hpos : 0 < size.toNat) (hfits : size.toNat ≤ settings.stagingCapacity) :
    (d.onOutComplete .completed (Host.downloadCommand size).toUTF8).Receiving settings size .empty
      (some (frameOf (.data size))) := by
  obtain ⟨hzero, hlength⟩ := Command.downloadCommand_plain size
  obtain ⟨reply, target, events, hrun, he⟩ := h.answered_command hmode hzero
    (by rw [hlength]; exact h.lt_bufferSize (by decide))
  have hcapacity : d.staging.capacity = settings.stagingCapacity := by
    rw [h.sound.capacity_staging, h.settings_eq]
  have hnonzero : size ≠ 0 := by
    rintro rfl
    cases hpos
  rw [Command.dispatch_downloadCommand hnonzero (hcapacity.symm ▸ hfits)] at hrun
  cases hrun
  have htransfer := he.transfer_eq
  simp only [Option.map_some, Option.getD_some, Target.transfer_transition] at htransfer
  exact {
    toLive := he.live
    exists_assembling := ⟨_, {
      toReady := he.live.toReady
      mode_eq := by rw [htransfer]; rfl
      next_eq := by rw [htransfer, Transfer.next_accepted, Offer.next_data]
      downloadSize_eq := by rw [htransfer]; rfl
      downloadBytes_eq := by rw [htransfer]; rfl
      overlays := Buffer.overlays_self _
      queued_eq := rfl }⟩
    pending_eq := by rw [he.pending_eq, Option.map_some, Offer.frame_data]; rfl
    armed_eq := ⟨_, he.armed_eq, he.live.sound.expected_pos⟩ }

/-- **Bytes come in during a download.** While some are missing the next are asked for. Those that complete
it are answered, in the place of a frame that is still queued. -/
theorem Receiving.received {held : Option ByteArray} (h : d.Receiving settings size got held)
    (bytes : ByteArray) :
    let e := { d with usb := d.usb.takeOut.2 }.onOutComplete .completed bytes
    ((got ++ bytes).size < size.toNat → e.Receiving settings size (got ++ bytes) held) ∧
      (size.toNat ≤ (got ++ bytes).size →
        e.Holding settings ((got ++ bytes).extract 0 size.toNat) (some (frameOf (.okay "")))) := by
  obtain ⟨start, hassembling⟩ := h.exists_assembling
  have htaken : start.Assembling size { d with usb := d.usb.takeOut.2 } got :=
    { hassembling with toReady := h.takeOut.toReady }
  obtain ⟨hpartly, hlast⟩ := htaken.received bytes
  obtain ⟨hlive, harmed⟩ := h.takeOut.received .completed bytes
  rw [turn_received] at hpartly hlast
  -- how the device got there does not matter any more
  dsimp only
  generalize onOutComplete _ .completed bytes = e at *
  constructor
  · intro hmore
    obtain ⟨hnext, hpending⟩ := hpartly hmore
    exact {
      toLive := hlive
      exists_assembling := ⟨start, hnext⟩
      pending_eq := hpending.trans h.pending_eq
      armed_eq := ⟨_, harmed, hlive.sound.expected_pos⟩ }
  · intro hall
    have hdone := hlast hall
    have hsize : ((got ++ bytes).extract 0 size.toNat).size = size.toNat := by
      rw [ByteArray.size_extract, Nat.min_eq_left hall, Nat.sub_zero]
    exact {
      toLive := hlive
      mode_eq := hdone.mode_eq
      downloadBytes_eq := by rw [hdone.downloadBytes_eq, hsize]
      startsWith := hdone.overlays.startsWith
      next_eq := hdone.next_eq
      uploadSize_eq := by rw [hdone.uploadSize_eq, hsize]
      pending_eq := hdone.pending_eq
      armed_eq := by rw [harmed, hlive.expected_eq (by rw [hdone.mode_eq]; nofun)] }

/-! ### Upload -/

/-- An upload that is announced is one of what the staging buffer starts with. -/
theorem Answered.serving {e : Device} {served : ByteArray}
    (he : d.Answered settings (some (.reply ⟨.data size, .uploadChunk⟩)) e)
    (hmode : d.transfer.mode = .uploading) (hsize : d.transfer.uploadSize = size)
    (hstart : d.transfer.startUpload = false) (hbytes : d.transfer.uploadBytes = 0)
    (hserved : d.staging.take size.toNat = .ok served) :
    e.Serving settings served 0 (frameOf (.data size)) := by
  have htransfer := he.transfer_eq
  rw [Option.map_some, Option.getD_some] at htransfer
  have hlength : served.size = size.toNat := Buffer.size_of_read hserved
  exact {
    toLive := he.live
    mode_eq := by rw [htransfer]; exact hmode
    next_eq := by rw [htransfer, Transfer.next_accepted, Offer.next_data]
    uploadSize_eq := by
      rw [htransfer, hlength, ← hsize]
      rfl
    startsWith := by rwa [he.staging_eq, Buffer.StartsWith, hlength]
    pending_eq := by rw [he.pending_eq, Option.map_some, Offer.frame_data]; rfl
    fetched_eq := by
      have hheader : e.transfer.startUpload = false := by
        rw [htransfer, Transfer.accepted, hstart]
        rfl
      rw [fetched_of_header hheader, htransfer]
      exact congrArg UInt32.toNat hbytes }

/-- What a download has left can be fetched. -/
theorem Holding.stocked {held : Option ByteArray} (h : d.Holding settings data held) :
    d.Stocked settings data :=
  { h with }

/-- **An upload is asked for.** The answer announces what is there, and leaves it where it is. -/
theorem Stocked.serving (h : d.Stocked settings data) (hpos : 0 < data.size) :
    let e := { d with usb := d.usb.takeOut.2 }.onOutComplete .completed "upload".toUTF8
    e.Serving settings data 0 (frameOf (.data d.transfer.uploadSize)) ∧
      e.staging = d.staging ∧ e.transfer.downloadBytes = d.transfer.downloadBytes := by
  have hmode := h.mode_eq
  have hsize := h.uploadSize_eq
  obtain ⟨reply, target, events, hrun, he⟩ := h.takeOut.answered_command
    (show d.transfer.mode ≠ .downloading by rw [hmode]; nofun)
    (show '\x00' ∉ "upload".toList by decide)
    (h.lt_bufferSize (show "upload".utf8ByteSize < 512 by decide))
  have hidle : d.transfer.interrupted = d.transfer := if_neg (by rw [hmode]; nofun)
  have hnonzero : d.transfer.uploadSize ≠ 0 := by
    intro hzero
    rw [hzero] at hsize
    simp only [UInt32.toNat_zero] at hsize
    omega
  have hdispatch := Command.dispatch_upload (t := { d.toTarget with events }) hnonzero
  dsimp only at hrun
  rw [hidle, hdispatch] at hrun
  cases hrun
  have hserved : d.staging.take d.transfer.uploadSize.toNat = .ok data := by
    rw [h.uploadSize_eq]
    exact h.startsWith
  have htransfer := he.transfer_eq
  rw [Option.map_some, Option.getD_some] at htransfer
  refine ⟨he.serving (by simp) (by simp) (by simp) (by simp) (by simpa using hserved), ?_, ?_⟩
  · simpa using he.staging_eq
  · rw [htransfer, Target.transfer_transition]
    rfl

/-- What has gone out before the queued frame is counted already. -/
theorem Serving.uploadBytes_le (h : d.Serving settings data k frame) :
    d.transfer.uploadBytes.toNat ≤ k := by
  have hsize := h.sound.consistent.uploadSize_le
  have hbytes := h.sound.consistent.uploadBytes_le
  have hcap := h.sound.valid.stagingCapacity_lt
  have hremaining := d.transfer.toNat_uploadRemaining
  have hfetched := h.fetched_eq
  unfold Transfer.fetched at hfetched
  split at hfetched
  · rw [Transfer.toNat_add_ofNat (by omega)] at hfetched
    omega
  · exact Nat.le_of_eq hfetched

/-- **A frame of an upload goes out.** The next chunk follows, or the status once all has gone. -/
theorem Serving.completeIn (h : d.Serving settings data k frame) :
    ∃ e, d.completeIn = (some frame, e) ∧
      ((k = data.size ∧ e.Spent settings (some (frameOf (.okay "")))) ∨
        ∃ stop, k < stop ∧ stop ≤ data.size ∧
          e.Serving settings data stop (data.extract k stop)) := by
  obtain ⟨-, hmore, hlast⟩ := h.toUploading.collected h.pending_eq frame.size
  have hle := (h.toUploading.remaining frame.size).1
  rw [h.fetched_eq] at hmore hlast hle
  have hlive := h.toLive.turn_collected h.pending_eq (by simp [h.next_eq]) .completed frame.size
  refine ⟨_, completeIn_eq_turn h.pending_eq, ?_⟩
  rcases Nat.lt_or_eq_of_le hle with hlt | hall
  · have hsending := hmore hlt
    obtain ⟨stop, hstop, hend, -, hpending⟩ := hsending.exists_pending_eq
    have hpiece : (data.extract k stop).size = stop - k := by
      rw [ByteArray.size_extract, Nat.min_eq_left hend]
    have hfetched := (hsending.fetched_eq hpending (Nat.le_refl _)).1
    rw [hpiece, Nat.add_sub_of_le (Nat.le_of_lt hstop), ← hpiece] at hfetched
    exact .inr ⟨stop, hstop, hend, { hlive, hsending with
      pending_eq := hpending
      fetched_eq := hfetched }⟩
  · obtain ⟨hclosed, hpending⟩ := hlast hall
    exact .inl ⟨hall, { hlive, hclosed with pending_eq := hpending }⟩

end Fastboot.Device
