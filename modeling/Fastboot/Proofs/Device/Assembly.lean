import Fastboot.Proofs.Device.DataPhase

/-!
# The assembly of a download

Data that a device downloads may come in pieces of any length. What is staged is the pieces one after the
other, however they were cut: `start.Assembling size d got` says that a device `d` has `got` of the data
that was announced when it was `start`, and waits for more, and `Assembled` that it has all of it.

A piece takes a device from one to the other or leaves it where it is, and a frame that goes out meanwhile
makes no difference. `assembled_play` is that over a whole data phase.
-/

namespace Fastboot.Device

variable {start d : Device} {size : UInt32} {got data command : ByteArray} {a : BusAction}

/-- What may happen while data comes in: a piece of it, or the completion of a frame. -/
inductive BusAction.Feeds : BusAction → Prop where
  | received (data : ByteArray) : Feeds (.received .completed data)
  | collected (status : TransferStatus) (actual : Nat) : Feeds (.collected status actual)

/-- The data that has come in. -/
def arrived : List BusAction → ByteArray
  | [] => .empty
  | .received _ data :: actions => data ++ arrived actions
  | _ :: actions => arrived actions

/-- A download of `size` bytes is under way since the device was `start`. What it has `got` is staged, what
is behind that in the staging buffer is as it was, and no frame has been queued. -/
structure Assembling (start : Device) (size : UInt32) (d : Device) (got : ByteArray) : Prop extends
    Ready d none where
  mode_eq : d.transfer.mode = .downloading
  next_eq : d.transfer.next = .done
  downloadSize_eq : d.transfer.downloadSize = size
  downloadBytes_eq : d.transfer.downloadBytes.toNat = got.size
  overlays : start.staging.Overlays d.staging got
  queued_eq : d.usb.queued = start.usb.queued

/-- A download of `size` bytes is over that has begun when the device was `start`. As much of what it has
`got` is staged, what is behind that in the staging buffer is as it was, and one frame has been queued: the
answer to the download. -/
structure Assembled (start : Device) (size : UInt32) (d : Device) (got : ByteArray) : Prop extends
    Ready d none where
  mode_eq : d.transfer.mode = .idle
  next_eq : d.transfer.next = .done
  downloadBytes_eq : d.transfer.downloadBytes = size
  uploadSize_eq : d.transfer.uploadSize = size
  overlays : start.staging.Overlays d.staging (got.extract 0 size.toNat)
  queued_eq : d.usb.queued = start.usb.queued + 1
  pending_eq : d.usb.pending = some (frameOf (.okay ""))

/-! ### The steps -/

/-- A download that has been announced has nothing yet. -/
theorem Sound.assembling (h : d.Sound none) (ha : d.Announces .download command size) :
    Assembling (d.turn (.received .completed command)) size
      (d.turn (.received .completed command)) .empty := by
  obtain ⟨text, next, target, events, inbound, hverb, houtcome, hhanded, hready⟩ :=
    h.exists_announced ha
  have htransfer := hhanded.transfer_eq
  rw [Option.map_some, Option.getD_some] at htransfer
  cases houtcome with
  | answer _ _ _ hne => exact absurd hverb hne
  | upload hother => cases hverb.symm.trans hother
  | download n =>
    rw [Target.transfer_transition] at htransfer
    exact {
      toReady := hready
      mode_eq := by rw [htransfer]; rfl
      next_eq := by rw [htransfer, Transfer.next_accepted, Offer.next_data]
      downloadSize_eq := by rw [htransfer]; rfl
      downloadBytes_eq := by rw [htransfer]; rfl
      overlays := Buffer.overlays_self _
      queued_eq := rfl }

/-- A piece that leaves something to come. -/
theorem Assembling.of_partly {e : Device} {staging : Buffer} {events : Array Event}
    (h : start.Assembling size d got) (hready : e.Ready none)
    (hstaging : d.staging.writeAt d.transfer.downloadBytes.toNat data = .ok staging)
    (hmore : d.transfer.downloadBytes.toNat + data.size < d.transfer.downloadSize.toNat)
    (he : Handed { d with staging, transfer := d.transfer.stored data.size, events } none e) :
    start.Assembling size e (got ++ data) := by
  have hstored := h.sound.consistent.toNat_stored h.sound.valid.stagingCapacity_lt h.mode_eq
    (Nat.le_of_lt hmore)
  have htransfer : e.transfer = d.transfer.stored data.size := he.transfer_eq
  rw [h.downloadBytes_eq] at hstaging hstored
  exact {
    toReady := hready
    mode_eq := by rw [htransfer]; exact h.mode_eq
    next_eq := by rw [htransfer]; exact h.next_eq
    downloadSize_eq := by rw [htransfer]; exact h.downloadSize_eq
    downloadBytes_eq := by rw [htransfer, hstored, ByteArray.size_append]
    overlays := by
      rw [he.staging_eq]
      exact h.overlays.writeAt_size hstaging
    queued_eq := he.queued_eq.trans h.queued_eq }

/-- The last piece. What goes beyond the announced size is dropped. -/
theorem Assembled.of_last {e : Device} {staging : Buffer} {events : Array Event} {count : Nat}
    (h : start.Assembling size d got) (hready : e.Ready none)
    (hstaging : d.staging.writeAt d.transfer.downloadBytes.toNat (data.extract 0 count) =
      .ok staging)
    (hfull : d.transfer.downloadBytes.toNat + count = d.transfer.downloadSize.toNat)
    (he : Handed { d with
      staging, transfer := (d.transfer.stored count).finishDownload, events }
        (some (.reply .okay)) e) :
    start.Assembled size e (got ++ data) := by
  have hstored := h.sound.consistent.toNat_stored h.sound.valid.stagingCapacity_lt h.mode_eq
    (Nat.le_of_eq hfull)
  have hsize : (d.transfer.stored count).downloadBytes = size := by
    rw [← UInt32.toNat_inj, hstored, hfull, h.downloadSize_eq]
  have htransfer : e.transfer =
      (d.transfer.stored count).finishDownload.accepted (.reply .okay) := he.transfer_eq
  rw [h.downloadBytes_eq] at hstaging hfull
  exact {
    toReady := hready
    mode_eq := by rw [htransfer]; rfl
    next_eq := by rw [htransfer, Transfer.next_accepted, Offer.next_okay]
    downloadBytes_eq := by rw [htransfer]; exact hsize
    uploadSize_eq := by rw [htransfer]; exact hsize
    overlays := by
      rw [he.staging_eq, ← h.downloadSize_eq, ← hfull, Buffer.extract_append_add]
      exact h.overlays.writeAt_size hstaging
    queued_eq := by
      rw [he.queued_eq]
      exact congrArg (· + 1) h.queued_eq
    pending_eq := by
      rw [he.pending_eq, Option.map_some, Offer.frame_okay]
      rfl }

/-- **A piece comes in.** It is staged behind what is there, and answered if it is the last. -/
theorem Assembling.received (h : start.Assembling size d got) (data : ByteArray) :
    ((got ++ data).size < size.toNat →
        start.Assembling size (d.turn (.received .completed data)) (got ++ data) ∧
          (d.turn (.received .completed data)).usb.pending = d.usb.pending) ∧
      (size.toNat ≤ (got ++ data).size →
        start.Assembled size (d.turn (.received .completed data)) (got ++ data)) := by
  obtain ⟨d', offer, hr, -, he, hready⟩ := h.toReady.exists_reception .completed data
  have hbytes := h.downloadBytes_eq
  have hsize := congrArg UInt32.toNat h.downloadSize_eq
  rw [ByteArray.size_append]
  -- during a download nothing is read as a command, so the piece is stored or completes the data
  cases hr with
  | refused _ _ _ hother => exact absurd h.mode_eq hother
  | command _ _ _ _ hother => exact absurd h.mode_eq hother
  | partly staging events _ hstaging hmore =>
    exact ⟨fun _ => ⟨h.of_partly hready hstaging hmore he, he.pending_eq⟩, fun hall => by omega⟩
  | last count staging events _ _ hstaging hfull =>
    exact ⟨fun hmore => by omega, fun _ => .of_last h hready hstaging hfull he⟩

/-- A frame that goes out during a download makes no difference to it. -/
theorem Assembling.collected (h : start.Assembling size d got) (status : TransferStatus)
    (actual : Nat) : start.Assembling size (d.turn (.collected status actual)) got := by
  obtain ⟨hready, usb, inFlight, hqueued, hturn⟩ := h.toReady.turn_of_done h.next_eq status actual
  rw [hturn] at hready ⊢
  exact { h with
    toReady := hready
    queued_eq := hqueued.trans h.queued_eq }

/-! ### The data phase -/

/-- While something is left to come, the pieces are staged one behind the other. -/
theorem Assembling.play (h : start.Assembling size d got) (actions : List BusAction)
    (hfeeds : ∀ a ∈ actions, a.Feeds) (hmore : (got ++ arrived actions).size < size.toNat) :
    start.Assembling size (d.play actions) (got ++ arrived actions) := by
  induction actions generalizing d got with
  | nil =>
    rw [arrived, ByteArray.append_empty]
    exact h
  | cons a actions ih =>
    have hrest : ∀ b ∈ actions, b.Feeds := fun b hb => hfeeds b (List.mem_cons_of_mem a hb)
    cases hfeeds a List.mem_cons_self with
    | collected status actual => exact ih (h.collected status actual) hrest hmore
    | received data =>
      rw [arrived, ← ByteArray.append_assoc] at hmore ⊢
      have hpiece : (got ++ data).size < size.toNat := by
        rw [ByteArray.size_append] at hmore
        omega
      exact ih ((h.received data).1 hpiece).1 hrest hmore

/-- **A download is assembled from pieces of any length.** Once it has been announced, on any device that
can be reached and with any pieces: as long as some of the data is missing, the staging buffer starts with
the pieces that came in, the device goes on downloading and no frame is queued. The piece that completes
the data ends the download: the buffer starts with as much as was announced, and is behind that what it was
before, and the answer is the one frame that is queued. -/
theorem assembled_play {settings : Settings} {usb : Controller} {board : Board}
    (hbind : bind settings usb board = .ok d) (before : List Action)
    (ha : (d.run before).Announces .download command size) {actions : List BusAction}
    (hfeeds : ∀ a ∈ actions, a.Feeds) (hmore : (arrived actions).size < size.toNat) :
    let start := (d.run before).turn (.received .completed command)
    start.Assembling size (start.play actions) (arrived actions) ∧
      ∀ data, size.toNat ≤ (arrived actions ++ data).size →
        start.Assembled size (start.play (actions ++ [.received .completed data]))
          (arrived actions ++ data) := by
  have hstart := ((sound_of_bind hbind).run before).assembling ha
  have hplay := hstart.play actions hfeeds (by rwa [ByteArray.empty_append])
  rw [ByteArray.empty_append] at hplay
  refine ⟨hplay, fun data hall => ?_⟩
  rw [play_append]
  exact (hplay.received data).2 hall

/-- Two bytes, the completion of the answer before them, and a piece of nothing. -/
def pieces : List BusAction :=
  [.received .completed "ab".toUTF8, .collected .completed 12, .received .completed .empty]

theorem announces_download :
    (tiny.run [.call .enable]).Announces .download "download:00000004".toUTF8 4 where
  verb_eq := by decide +kernel
  offer_eq := ⟨.done, by decide +kernel⟩
  pending_eq := by decide +kernel

/-- Four bytes in three pieces, of which the last one is too long. -/
theorem assembled_play_pieces : (arrived pieces).size = 2 ∧
    let start := (tiny.run [.call .enable]).turn (.received .completed "download:00000004".toUTF8)
    start.Assembling 4 (start.play pieces) (arrived pieces) ∧
      start.Assembled 4 (start.play (pieces ++ [.received .completed "cdef".toUTF8]))
        (arrived pieces ++ "cdef".toUTF8) := by
  have hfeeds : ∀ a ∈ pieces, a.Feeds := by
    intro a ha
    rcases List.mem_cons.mp ha with rfl | ha
    · exact .received _
    rcases List.mem_cons.mp ha with rfl | ha
    · exact .collected _ _
    · rw [List.mem_singleton.mp ha]
      exact .received _
  obtain ⟨hassembling, hassembled⟩ :=
    assembled_play bind_tiny [.call .enable] announces_download hfeeds (by decide +kernel)
  exact ⟨by decide +kernel, hassembling, hassembled "cdef".toUTF8 (by decide +kernel)⟩

end Fastboot.Device
