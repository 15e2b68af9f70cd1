import Fastboot.Proofs.Device.Uploading

/-!
# The delivery of an upload

The completion of a chunk may report less than the chunk. What it reports is what counts: the chunks are cut
so that the counted parts of them, one after the other, are the data (`delivered_play`). The parts are those
that `d.counted actuals` puts together, for completions that report `actuals`, each for the frame that is
queued at that moment.

The header goes out first and has no part in it (`Opening.collected`). From then on the next chunk starts
where the count stands (`Sending.play`), until it stands at the end. The status that is queued then is the
last frame of the upload (`Closed.play`).
-/

namespace Fastboot.Device

variable {d : Device} {size : UInt32} {data command frame : ByteArray} {actual count : Nat}

/-- Frames that go out one after the other. -/
def completions (actuals : List Nat) : List BusAction :=
  actuals.map (.collected .completed)

/-- None of the frames that go out is reported to be longer than it is. -/
def Within (d : Device) : List Nat → Prop
  | [] => True
  | actual :: actuals => (∃ frame ∈ d.usb.pending, actual ≤ frame.size) ∧
    (d.turn (.collected .completed actual)).Within actuals

instance decidableWithin : (d : Device) → (actuals : List Nat) → Decidable (d.Within actuals)
  | _, [] => inferInstanceAs (Decidable True)
  | d, actual :: actuals =>
    have := decidableWithin (d.turn (.collected .completed actual)) actuals
    inferInstanceAs (Decidable (_ ∧ _))

/-- The parts of the frames that are reported as they go out. -/
def counted (d : Device) : List Nat → ByteArray
  | [] => .empty
  | actual :: actuals => (d.usb.pending.getD .empty).extract 0 actual ++
    (d.turn (.collected .completed actual)).counted actuals

/-- The header of an upload of `data` is queued. -/
structure Opening (d : Device) (data : ByteArray) : Prop extends Uploading d data where
  startUpload_eq : d.transfer.startUpload = false
  uploadBytes_eq : d.transfer.uploadBytes = 0

theorem counted_append (d : Device) (first rest : List Nat) : d.counted (first ++ rest) =
    d.counted first ++ (d.play (completions first)).counted rest := by
  induction first generalizing d with
  | nil => exact ByteArray.empty_append.symm
  | cons actual first ih =>
    rw [List.cons_append, counted, ih, counted, ByteArray.append_assoc]
    rfl

theorem counted_singleton (hpending : d.usb.pending = some frame) (actual : Nat) :
    d.counted [actual] = frame.extract 0 actual := by
  rw [counted, hpending, Option.getD_some, counted, ByteArray.append_empty]

/-! ### The steps -/

/-- An upload that has been announced sends the staging buffer, up to the announced size. -/
theorem Sound.opening (h : d.Sound none) (ha : d.Announces .upload command size) :
    let start := d.turn (.received .completed command)
    ∃ data, start.staging.take size.toNat = .ok data ∧ start.Opening data := by
  obtain ⟨text, next, target, events, inbound, hverb, houtcome, hhanded, hready⟩ :=
    h.exists_announced ha
  have htransfer := hhanded.transfer_eq
  rw [Option.map_some, Option.getD_some] at htransfer
  -- two outcomes answer by `DATA`, and the verb tells which of them it is
  cases houtcome with
  | answer _ _ _ _ _ hother => exact absurd rfl (hother size)
  | download _ hother => cases hverb.symm.trans hother
  | upload =>
    rw [Target.transfer_transition] at htransfer
    have huploadSize : (d.turn (.received .completed command)).transfer.uploadSize =
        d.transfer.interrupted.uploadSize := by rw [htransfer]; rfl
    have hle := hready.sound.consistent.uploadSize_le
    rw [huploadSize, ← hready.sound.capacity_staging, ← Nat.zero_add (UInt32.toNat _)] at hle
    obtain ⟨data, hdata⟩ := Buffer.exists_read_eq_ok hle
    have hsize := Buffer.size_of_read hdata
    exact ⟨data, hdata, {
      toReady := hready
      mode_eq := by rw [htransfer]; rfl
      next_eq := by rw [htransfer, Transfer.next_accepted, Offer.next_data]
      uploadSize_eq := by rw [huploadSize, hsize]
      startsWith := by
        rw [Buffer.StartsWith, hsize]
        exact hdata
      startUpload_eq := by rw [htransfer]; rfl
      uploadBytes_eq := by rw [htransfer]; rfl }⟩

/-- **The header goes out.** Whatever is reported of it, nothing is counted yet. -/
theorem Opening.collected (h : d.Opening data) (hpending : d.usb.pending = some frame)
    (actual : Nat) :
    (d.turn (.collected .completed actual)).Sending data 0 ∧
      (d.turn (.collected .completed actual)).usb.queued = d.usb.queued + 1 := by
  obtain ⟨hqueued, hmore, -⟩ := h.toUploading.collected hpending actual
  have hzero : d.transfer.uploadBytes.toNat = 0 := congrArg UInt32.toNat h.uploadBytes_eq
  have hpos := h.sound.consistent.uploadBytes_lt h.mode_eq
  rw [fetched_of_header h.startUpload_eq, hzero] at hmore
  rw [hzero, h.uploadSize_eq] at hpos
  exact ⟨hmore hpos, hqueued⟩

/-- **A chunk goes out.** The reported part of it is the data from where the count stood to where it stands
now. -/
theorem Sending.collected (h : d.Sending data count) (hpending : d.usb.pending = some frame)
    (hactual : actual ≤ frame.size) :
    frame.extract 0 actual = data.extract count (count + actual) ∧
      (d.turn (.collected .completed actual)).usb.queued = d.usb.queued + 1 ∧
      (count + actual < data.size →
        (d.turn (.collected .completed actual)).Sending data (count + actual)) ∧
      (data.size ≤ count + actual → count + actual = data.size ∧
        (d.turn (.collected .completed actual)).Closed ∧
        (d.turn (.collected .completed actual)).usb.pending = some (frameOf (.okay ""))) := by
  obtain ⟨hbytes, hpart⟩ := h.fetched_eq hpending hactual
  obtain ⟨hqueued, hmore, hlast⟩ := h.toUploading.collected hpending actual
  have hle := (h.toUploading.remaining actual).1
  rw [hbytes] at hmore hlast hle
  refine ⟨hpart, hqueued, hmore, fun hall => ?_⟩
  have hfull := Nat.le_antisymm hle hall
  exact ⟨hfull, hlast hfull⟩

/-- The status of an upload is followed by nothing. -/
theorem Closed.collected (h : d.Closed) (status : TransferStatus) (actual : Nat) :
    (d.turn (.collected status actual)).Closed ∧
      (d.turn (.collected status actual)).usb.queued = d.usb.queued := by
  obtain ⟨hready, usb, inFlight, hqueued, hturn⟩ := h.toReady.turn_of_done h.next_eq status actual
  rw [hturn] at hready ⊢
  exact ⟨{ h with toReady := hready }, hqueued⟩

/-! ### The data phase -/

/-- While something is left to go, what is counted is the data up to where the count stands, and every frame
that goes out is followed by a chunk. -/
theorem Sending.play (h : d.Sending data count) (actuals : List Nat) (hwithin : d.Within actuals)
    (hmore : count + (d.counted actuals).size < data.size) :
    (d.play (completions actuals)).Sending data (count + (d.counted actuals).size) ∧
      d.counted actuals = data.extract count (count + (d.counted actuals).size) ∧
      (d.play (completions actuals)).usb.queued = d.usb.queued + actuals.length := by
  -- what is left of the run starts where the first chunk has brought the count
  induction actuals generalizing d count with
  | nil => exact ⟨h, ByteArray.extract_same.symm, rfl⟩
  | cons actual actuals ih =>
    obtain ⟨⟨frame, hpending, hactual⟩, hrest⟩ := hwithin
    obtain ⟨hpart, hqueued, hnext, -⟩ := h.collected hpending hactual
    have hcounted : d.counted (actual :: actuals) = frame.extract 0 actual ++
        (d.turn (.collected .completed actual)).counted actuals := by
      rw [counted, Option.mem_def.mp hpending, Option.getD_some]
    have hsize : (d.counted (actual :: actuals)).size =
        actual + ((d.turn (.collected .completed actual)).counted actuals).size := by
      rw [hcounted, ByteArray.size_append, ByteArray.size_extract, Nat.min_eq_left hactual]
      rfl
    rw [hsize, ← Nat.add_assoc] at hmore ⊢
    obtain ⟨hsending, hcut, hlater⟩ := ih (hnext (by omega)) hrest hmore
    refine ⟨hsending, ?_, ?_⟩
    · rw [hcounted, hpart]
      exact (congrArg (_ ++ ·) hcut).trans
        (extract_append_of_le (Nat.le_add_right _ _) _ (Nat.le_add_right _ _))
    · rw [List.length_cons, Nat.add_comm actuals.length, ← Nat.add_assoc, ← hqueued]
      exact hlater

/-- Nothing is queued behind the status of an upload. -/
theorem Closed.play (h : d.Closed) (actuals : List Nat) :
    (d.play (completions actuals)).Closed ∧
      (d.play (completions actuals)).usb.queued = d.usb.queued := by
  induction actuals generalizing d with
  | nil => exact ⟨h, rfl⟩
  | cons actual actuals ih =>
    obtain ⟨hclosed, hqueued⟩ := h.collected .completed actual
    obtain ⟨hrest, hsame⟩ := ih hclosed
    exact ⟨hrest, hsame.trans hqueued⟩

/-- **The counted parts of an upload are the data.** Once it has been announced, on any device that can be
reached, and with completions that report no more than the frames that go out: as long as some of the data is
not counted, what is counted is the beginning of it, up to where the counter stands, and the frame that is
queued is the part of it that starts there. The completion with which all is counted ends the upload: the
counter has come to the announced size, and of all frames the one that is queued then is the last. -/
theorem delivered_play {settings : Settings} {usb : Controller} {board : Board}
    (hbind : bind settings usb board = .ok d) (before : List Action)
    (ha : (d.run before).Announces .upload command size) :
    let start := (d.run before).turn (.received .completed command)
    ∃ data, start.staging.take size.toNat = .ok data ∧ start.Opening data ∧
      ∀ header actuals, start.Within (header :: actuals) →
        let first := start.turn (.collected .completed header)
        let now := first.play (completions actuals)
        (first.counted actuals).size < size.toNat →
          first.counted actuals = data.extract 0 (first.counted actuals).size ∧
          now.Sending data (first.counted actuals).size ∧
          now.usb.queued = start.usb.queued + 1 + actuals.length ∧
          ∀ actual, now.Within [actual] →
            size.toNat ≤ (first.counted (actuals ++ [actual])).size →
              let last := now.turn (.collected .completed actual)
              first.counted (actuals ++ [actual]) = data ∧
                (now.transfer.fetched actual).uploadBytes = size ∧ last.Closed ∧
                last.usb.pending = some (frameOf (.okay "")) ∧
                last.usb.queued = now.usb.queued + 1 ∧
                ∀ later, (last.play (completions later)).usb.queued = last.usb.queued := by
  obtain ⟨data, hdata, hopening⟩ := ((sound_of_bind hbind).run before).opening ha
  have hsize := Buffer.size_of_read hdata
  refine ⟨data, hdata, hopening, fun header actuals hwithin hmore => ?_⟩
  obtain ⟨⟨answer, hanswer, -⟩, hrest⟩ := hwithin
  obtain ⟨hsending, hqueued⟩ := hopening.collected hanswer header
  obtain ⟨hnow, hcounted, hlater⟩ := hsending.play actuals hrest (by omega)
  rw [Nat.zero_add] at hnow hcounted
  refine ⟨hcounted, hnow, by rw [hlater, hqueued], fun actual hlast hall => ?_⟩
  obtain ⟨⟨frame, hpending, hactual⟩, -⟩ := hlast
  obtain ⟨hpart, hone, -, hend⟩ := hnow.collected hpending hactual
  have hbytes := (hnow.fetched_eq hpending hactual).1
  rw [counted_append, counted_singleton hpending, hpart] at hall ⊢
  rw [ByteArray.size_append, ByteArray.size_extract] at hall
  -- no more can be counted than there is, so to reach the size is to meet it
  obtain ⟨hfull, hclosed, hokay⟩ := hend (by omega)
  refine ⟨?_, ?_, hclosed, hokay, hone, fun later => (hclosed.play later).2⟩
  · rw [hfull]
    nth_rewrite 1 [hcounted]
    rw [extract_append_of_le (Nat.zero_le _) _ (by omega), ByteArray.extract_zero_size]
  · rw [← UInt32.toNat_inj, hbytes, hfull, hsize]

/-- A download of four bytes. -/
def stored : List Action :=
  [.call .enable, .call (.received .completed "download:00000004".toUTF8),
    .call (.received .completed "abcd".toUTF8)]

theorem announces_upload : (tiny.run stored).Announces .upload "upload".toUTF8 4 where
  verb_eq := by decide +kernel
  offer_eq := ⟨.uploadChunk, by decide +kernel⟩
  pending_eq := by decide +kernel

/-- Four bytes in three chunks, of which the first is reported to be lost, and the second but for a byte. -/
theorem delivered_play_short :
    let start := (tiny.run stored).turn (.received .completed "upload".toUTF8)
    let first := start.turn (.collected .completed 12)
    let now := first.play (completions [0, 1])
    start.staging.take 4 = .ok "abcd".toUTF8 ∧ start.Within [12, 0, 1, 3] ∧
      first.counted [0, 1] = "a".toUTF8 ∧ now.Sending "abcd".toUTF8 (first.counted [0, 1]).size ∧
      first.counted [0, 1, 3] = "abcd".toUTF8 ∧ (now.turn (.collected .completed 3)).Closed := by
  obtain ⟨data, hdata, -, hall⟩ := delivered_play bind_tiny stored announces_upload
  obtain ⟨-, hsending, -, hlast⟩ := hall 12 [0, 1] (by decide +kernel) (by decide +kernel)
  obtain ⟨hdelivered, -, hclosed, -⟩ := hlast 3 (by decide +kernel) (by decide +kernel)
  obtain rfl : data = "abcd".toUTF8 := hdelivered.symm.trans (by decide +kernel)
  exact ⟨hdata, by decide +kernel, by decide +kernel, hsending, hdelivered, hclosed⟩

end Fastboot.Device
