import Fastboot.Proofs.Device.DataPhase

/-!
# The steps of an upload

`d.Uploading data` says that an upload of `data` is under way on a device `d`: the staging buffer starts
with the data, and the completion of the queued frame leads on. What has gone out is counted by what the
controller reports of each chunk, which need not be all of it, and not of the header at all.

There is one step, `Uploading.collected`. With the frame that goes out counted, the next chunk is the data
from where the count stands, unless all is counted: then the upload is `Closed` by its status.
-/

namespace Fastboot.Device

variable {d : Device} {data frame : ByteArray} {actual : Nat}

/-- An upload of `data` is under way. -/
structure Uploading (d : Device) (data : ByteArray) : Prop extends Ready d none where
  mode_eq : d.transfer.mode = .uploading
  next_eq : d.transfer.next = .uploadChunk
  uploadSize_eq : d.transfer.uploadSize.toNat = data.size
  startsWith : d.staging.StartsWith data

/-- The chunk of `data` is queued that begins where `count` bytes of it are counted. -/
structure Sending (d : Device) (data : ByteArray) (count : Nat) : Prop extends
    Uploading d data where
  startUpload_eq : d.transfer.startUpload = true
  uploadBytes_eq : d.transfer.uploadBytes.toNat = count
  exists_pending_eq : ∃ stop, count < stop ∧ stop ≤ data.size ∧
    stop - count ≤ d.settings.bufferSize ∧ d.usb.pending = some (data.extract count stop)

/-- An upload is over, with its status queued or gone. -/
structure Closed (d : Device) : Prop extends Ready d none where
  mode_eq : d.transfer.mode = .idle
  next_eq : d.transfer.next = .done
  uploadSize_eq : d.transfer.uploadSize = 0
  startUpload_eq : d.transfer.startUpload = false

/-! ### Counting -/

/-- What is left once the queued frame has gone out. -/
theorem Uploading.remaining (h : d.Uploading data) (actual : Nat) :
    (d.transfer.fetched actual).uploadBytes.toNat ≤ data.size ∧
      (d.transfer.fetched actual).uploadRemaining.toNat =
        data.size - (d.transfer.fetched actual).uploadBytes.toNat := by
  have hcounted := h.sound.consistent.fetched_le h.sound.valid.stagingCapacity_lt actual
  have hleft := (d.transfer.fetched actual).toNat_uploadRemaining
  rw [Transfer.uploadSize_fetched, h.uploadSize_eq] at hcounted hleft
  exact ⟨hcounted, hleft⟩

/-- The header of an upload does not count. -/
theorem fetched_of_header (hstart : d.transfer.startUpload = false) (actual : Nat) :
    d.transfer.fetched actual = d.transfer := by
  rw [Transfer.fetched, if_neg (by simp [hstart])]

/-- What is reported of a chunk counts, as long as it is no more than the chunk. -/
theorem Sending.fetched_eq {count : Nat} (h : d.Sending data count)
    (hpending : d.usb.pending = some frame) (hactual : actual ≤ frame.size) :
    (d.transfer.fetched actual).uploadBytes.toNat = count + actual ∧
      frame.extract 0 actual = data.extract count (count + actual) := by
  obtain ⟨stop, hlt, hle, -, hchunk⟩ := h.exists_pending_eq
  obtain rfl := Option.some.inj (hpending.symm.trans hchunk)
  have hsize := h.sound.consistent.uploadSize_le
  have hcap := h.sound.valid.stagingCapacity_lt
  have hremaining := d.transfer.toNat_uploadRemaining
  have hall := h.uploadSize_eq
  have hbytes := h.uploadBytes_eq
  rw [ByteArray.size_extract] at hactual
  have hwhole : min actual d.transfer.uploadRemaining.toNat = actual := by omega
  constructor
  · rw [Transfer.fetched, if_pos h.startUpload_eq, hwhole, ← hbytes]
    exact Transfer.toNat_add_ofNat (by omega)
  · rw [ByteArray.extract_extract]
    congr 1
    omega

/-! ### The step -/

/-- The next chunk is the data from where the count stands. It ends where the buffer does, or with the
data. -/
theorem Uploading.exists_chunk {chunk : ByteArray} (h : d.Uploading data)
    (hmore : (d.transfer.fetched actual).uploadRemaining.toNat ≠ 0)
    (hread : d.staging.read (d.transfer.fetched actual).uploadBytes.toNat
      (min (d.transfer.fetched actual).uploadRemaining.toNat d.settings.bufferSize) =
        .ok chunk) :
    ∃ stop, (d.transfer.fetched actual).uploadBytes.toNat < stop ∧ stop ≤ data.size ∧
      stop - (d.transfer.fetched actual).uploadBytes.toNat ≤ d.settings.bufferSize ∧
      chunk = data.extract (d.transfer.fetched actual).uploadBytes.toNat stop := by
  obtain ⟨hle, hleft⟩ := h.remaining actual
  have hbuffer := h.sound.valid.bufferSize_pos
  generalize (d.transfer.fetched actual).uploadBytes.toNat = count at *
  generalize (d.transfer.fetched actual).uploadRemaining.toNat = left at *
  have hfits : count + min left d.settings.bufferSize ≤ data.size := by omega
  rw [h.startsWith.read_eq hfits] at hread
  exact ⟨count + min left d.settings.bufferSize, by omega, hfits, by omega,
    (Except.ok.inj hread).symm⟩

/-- The next chunk is queued, and not counted yet. -/
theorem Sending.of_chunk {e : Device} {usb : Controller} {events : Array Event} {stop : Nat}
    (h : d.Uploading data) (hready : e.Ready none)
    (hlt : (d.transfer.fetched actual).uploadBytes.toNat < stop) (hle : stop ≤ data.size)
    (hbuffer : stop - (d.transfer.fetched actual).uploadBytes.toNat ≤ d.settings.bufferSize)
    (he : Handed { d with usb, transfer := (d.transfer.fetched actual).settled, events }
      (some (.chunk (data.extract (d.transfer.fetched actual).uploadBytes.toNat stop))) e) :
    e.Sending data (d.transfer.fetched actual).uploadBytes.toNat := by
  have htransfer := he.transfer_eq
  rw [Option.map_some, Option.getD_some] at htransfer
  exact {
    toReady := hready
    mode_eq := by
      rw [htransfer]
      exact (Transfer.mode_fetched _ _).trans h.mode_eq
    next_eq := by rw [htransfer]; rfl
    uploadSize_eq := by
      rw [htransfer]
      show (d.transfer.fetched actual).uploadSize.toNat = data.size
      rw [Transfer.uploadSize_fetched]
      exact h.uploadSize_eq
    startsWith := by
      rw [he.staging_eq]
      exact h.startsWith
    startUpload_eq := by
      rw [htransfer]
      exact Bool.or_true _
    uploadBytes_eq := by rw [htransfer]; rfl
    exists_pending_eq := by
      rw [he.settings_eq, he.pending_eq]
      exact ⟨stop, hlt, hle, hbuffer, rfl⟩ }

/-- Behind the last frame of an upload comes its status. -/
theorem Closed.of_last {e : Device} {usb : Controller} {events : Array Event} {transfer : Transfer}
    (hready : e.Ready none)
    (he : Handed { d with usb, transfer := transfer.settled.finishUpload, events }
      (some (.reply .okay)) e) : e.Closed := by
  have htransfer := he.transfer_eq
  rw [Option.map_some, Option.getD_some] at htransfer
  exact {
    toReady := hready
    mode_eq := by rw [htransfer]; rfl
    next_eq := by rw [htransfer, Transfer.next_accepted, Offer.next_okay]
    uploadSize_eq := by rw [htransfer]; rfl
    startUpload_eq := by rw [htransfer]; rfl }

/-- **A frame of an upload goes out.** The next chunk follows, or the status once all is counted. Either
way one frame is queued. -/
theorem Uploading.collected (h : d.Uploading data) (hpending : d.usb.pending = some frame)
    (actual : Nat) :
    (d.turn (.collected .completed actual)).usb.queued = d.usb.queued + 1 ∧
      ((d.transfer.fetched actual).uploadBytes.toNat < data.size →
        (d.turn (.collected .completed actual)).Sending data
          (d.transfer.fetched actual).uploadBytes.toNat) ∧
      ((d.transfer.fetched actual).uploadBytes.toNat = data.size →
        (d.turn (.collected .completed actual)).Closed ∧
          (d.turn (.collected .completed actual)).usb.pending = some (frameOf (.okay ""))) := by
  obtain ⟨-, hleft⟩ := h.remaining actual
  obtain ⟨d', offer, hp, he, hready⟩ := h.toReady.exists_progression hpending
    (by simp [h.next_eq]) .completed actual
  have hnext := h.next_eq
  have hqueued := he.queued_eq
  -- an upload goes on by a chunk or by its status: nothing else can follow its frames
  cases hp with
  | stop _ hnone =>
    rcases hnone with hdone | ⟨hfailed, -⟩
    · exact absurd (hnext.symm.trans hdone) nofun
    · exact absurd rfl hfailed
  | exit action hexit => exact absurd (hnext.symm.trans hexit) nofun
  | chunk chunk events _ hmore hread =>
    have hmore' : (d.transfer.fetched actual).uploadRemaining.toNat ≠ 0 := hmore
    obtain ⟨stop, hlt, hle, hbuffer, rfl⟩ := h.exists_chunk hmore hread
    refine ⟨?_, fun _ => .of_chunk h hready hlt hle hbuffer he, fun hall => absurd hall (by omega)⟩
    rw [hqueued]
    exact congrArg (· + 1) d.usb.queued_completeIn
  | last events _ hzero =>
    have hzero' : (d.transfer.fetched actual).uploadRemaining.toNat = 0 := hzero
    refine ⟨?_, fun hlt => absurd hlt (by omega), fun _ => ⟨.of_last hready he, ?_⟩⟩
    · rw [hqueued]
      exact congrArg (· + 1) d.usb.queued_completeIn
    · rw [he.pending_eq, Option.map_some, Offer.frame_okay]
      rfl

end Fastboot.Device
