import Fastboot.Proofs.Device.Hand

/-!
# Consistent counters

`t.Consistent capacity` relates the counters of an exchange to its mode and to the staging buffer, of
`capacity` bytes: no counter passes the size it counts towards, and no size passes the buffer. Each
operation on the exchange keeps this, given what its caller has checked. Most of them end up idle,
where little is left to say (`consistent_of_idle`).
-/

namespace Fastboot.Transfer

/-- The counters of an exchange are in step with its mode, over a staging buffer of `capacity`
bytes. -/
structure Consistent (t : Transfer) (capacity : Nat) : Prop where
  downloadBytes_le : t.downloadBytes.toNat ≤ capacity
  downloadSize_eq : t.mode ≠ .downloading → t.downloadSize = 0
  downloadBytes_lt : t.mode = .downloading → t.downloadBytes.toNat < t.downloadSize.toNat
  downloadSize_le : t.mode = .downloading → t.downloadSize.toNat ≤ capacity
  uploadSize_eq : t.mode = .downloading → t.uploadSize = 0
  uploadBytes_le : t.uploadBytes.toNat ≤ t.uploadSize.toNat
  uploadSize_le : t.uploadSize.toNat ≤ capacity
  uploadBytes_lt : t.mode = .uploading → t.uploadBytes.toNat < t.uploadSize.toNat
  uploadBytes_eq : t.mode ≠ .uploading → t.uploadBytes = 0
  startUpload_eq : t.mode ≠ .uploading → t.startUpload = false

/-- A word of 32 bits counts on as a number while it does not overflow. -/
theorem toNat_add_ofNat {a : UInt32} {n : Nat} (h : a.toNat + n < UInt32.size) :
    (a + .ofNat n).toNat = a.toNat + n := by
  have hn : (UInt32.ofNat n).toNat = n :=
    UInt32.toNat_ofNat_of_lt' (Nat.lt_of_le_of_lt (Nat.le_add_left n _) h)
  rw [UInt32.toNat_add, hn, Nat.mod_eq_of_lt h]

/-- The exchange when `count` bytes of a download have been stored. -/
def stored (t : Transfer) (count : Nat) : Transfer :=
  { t with downloadBytes := t.downloadBytes + .ofNat count }

/-- The exchange when a frame with `actual` bytes of an upload has gone out. -/
def fetched (t : Transfer) (actual : Nat) : Transfer :=
  if t.startUpload then
    { t with uploadBytes := t.uploadBytes + .ofNat (min actual t.uploadRemaining.toNat) }
  else t

/-- The exchange when a command comes in: an upload that is under way is over. -/
def interrupted (t : Transfer) : Transfer :=
  if t.mode = .uploading then t.finishUpload else t

/-- The exchange when the queued frame has completed. -/
def settled (t : Transfer) : Transfer :=
  { t with next := .done, inFlight := false }

@[simp]
theorem uploadBytes_settled (t : Transfer) : t.settled.uploadBytes = t.uploadBytes := rfl

@[simp]
theorem uploadRemaining_settled (t : Transfer) :
    t.settled.uploadRemaining = t.uploadRemaining := rfl

/-- Counting moves one counter. -/
theorem fetched_eq (t : Transfer) (actual : Nat) :
    ∃ uploadBytes, t.fetched actual = { t with uploadBytes } := by
  unfold fetched
  split
  · exact ⟨_, rfl⟩
  · exact ⟨t.uploadBytes, rfl⟩

@[simp]
theorem mode_fetched (t : Transfer) (actual : Nat) : (t.fetched actual).mode = t.mode := by
  obtain ⟨_, h⟩ := t.fetched_eq actual
  rw [h]

@[simp]
theorem downloadBytes_fetched (t : Transfer) (actual : Nat) :
    (t.fetched actual).downloadBytes = t.downloadBytes := by
  obtain ⟨_, h⟩ := t.fetched_eq actual
  rw [h]

@[simp]
theorem uploadSize_fetched (t : Transfer) (actual : Nat) :
    (t.fetched actual).uploadSize = t.uploadSize := by
  obtain ⟨_, h⟩ := t.fetched_eq actual
  rw [h]

/-- Counting does not read what follows the frame. -/
theorem fetched_settled (t : Transfer) (actual : Nat) :
    t.settled.fetched actual = (t.fetched actual).settled := by
  unfold fetched
  split
  · rw [if_pos (show t.startUpload = true from ‹_›)]
    rfl
  · rw [if_neg (show ¬ t.startUpload = true from ‹_›)]

variable {t : Transfer} {capacity count actual : Nat}

/-! ### States in which nothing is under way -/

/-- Of an idle exchange only the download done and the upload on offer are left to bound. -/
theorem consistent_of_idle (hmode : t.mode = .idle) (hdownload : t.downloadSize = 0)
    (hupload : t.uploadBytes = 0) (hstart : t.startUpload = false)
    (hbytes : t.downloadBytes.toNat ≤ capacity) (hsize : t.uploadSize.toNat ≤ capacity) :
    t.Consistent capacity where
  downloadBytes_le := hbytes
  downloadSize_eq _ := hdownload
  downloadBytes_lt h := absurd (hmode.symm.trans h) nofun
  downloadSize_le h := absurd (hmode.symm.trans h) nofun
  uploadSize_eq h := absurd (hmode.symm.trans h) nofun
  uploadBytes_le := by simp [hupload]
  uploadSize_le := hsize
  uploadBytes_lt h := absurd (hmode.symm.trans h) nofun
  uploadBytes_eq _ := hupload
  startUpload_eq _ := hstart

theorem consistent_default : ({} : Transfer).Consistent capacity :=
  consistent_of_idle rfl rfl rfl rfl (Nat.zero_le _) (Nat.zero_le _)

theorem Consistent.abortDownload (h : t.Consistent capacity) (hmode : t.mode = .downloading) :
    t.abortDownload.Consistent capacity :=
  consistent_of_idle rfl rfl rfl (h.startUpload_eq (by simp [hmode])) (Nat.zero_le _)
    (Nat.zero_le _)

theorem Consistent.finishUpload (h : t.Consistent capacity) (hmode : t.mode ≠ .downloading) :
    t.finishUpload.Consistent capacity :=
  consistent_of_idle rfl (h.downloadSize_eq hmode) rfl rfl h.downloadBytes_le (Nat.zero_le _)

theorem Consistent.interrupted (h : t.Consistent capacity) (hmode : t.mode ≠ .downloading) :
    t.interrupted.Consistent capacity := by
  unfold Transfer.interrupted
  split
  · exact h.finishUpload hmode
  · exact h

theorem mode_interrupted (hmode : t.mode ≠ .downloading) : t.interrupted.mode = .idle := by
  unfold interrupted
  split
  · rfl
  · cases h : t.mode <;> simp_all

theorem interrupted_of_idle (hmode : t.mode = .idle) : t.interrupted = t :=
  if_neg (by simp [hmode])

/-- An upload that is under way leaves nothing to fetch. -/
theorem uploadSize_interrupted (t : Transfer) :
    t.interrupted.uploadSize = if t.mode = .uploading then 0 else t.uploadSize := by
  unfold interrupted
  split <;> rfl

/-- Taking a command does not touch what was downloaded. -/
@[simp]
theorem downloadBytes_interrupted (t : Transfer) :
    t.interrupted.downloadBytes = t.downloadBytes := by
  unfold interrupted
  split <;> rfl

/-! ### Frames -/

/-- What follows a frame, whether one is out, and the retries have no part in the counters. -/
theorem Consistent.follow (h : t.Consistent capacity) (next : Continuation) (inFlight : Bool)
    (retryCounts : Table Char UInt32) :
    { t with next, inFlight, retryCounts }.Consistent capacity :=
  { h with }

/-- A frame that is queued. Chunks are queued during an upload only. -/
theorem Consistent.accepted {o : Device.Offer} (h : t.Consistent capacity)
    (hchunk : o.isChunk = true → t.mode = .uploading) : (t.accepted o).Consistent capacity :=
  { h with
    startUpload_eq := fun hmode => by
      have hfalse : o.isChunk = false := Bool.eq_false_iff.mpr fun ho => hmode (hchunk ho)
      simp [Transfer.accepted, h.startUpload_eq hmode, hfalse] }

theorem Consistent.dropped {o : Device.Offer} (h : t.Consistent capacity)
    (hchunk : o.isChunk = true → t.mode = .uploading) : (t.dropped o).Consistent capacity := by
  have hnext := h.follow .done t.inFlight t.retryCounts
  unfold Transfer.dropped
  split
  · rename_i ho
    exact hnext.finishUpload (by simp [hchunk ho])
  · exact hnext

/-! ### Data phases -/

/-- The start of a download that fits. -/
theorem consistent_of_announced {size : Nat} (hcap : capacity < UInt32.size)
    (hmode : t.mode = .downloading) (hstart : t.startUpload = false)
    (hbytes : t.downloadBytes = 0) (hdownload : t.downloadSize = .ofNat size)
    (hupload : t.uploadSize = 0) (hsent : t.uploadBytes = 0) (hpos : 0 < size)
    (hle : size ≤ capacity) : t.Consistent capacity := by
  have hsize : t.downloadSize.toNat = size := by
    rw [hdownload]
    exact UInt32.toNat_ofNat_of_lt' (Nat.lt_of_le_of_lt hle hcap)
  exact {
    downloadBytes_le := by simp [hbytes]
    downloadSize_eq := fun hne => absurd hmode hne
    downloadBytes_lt := fun _ => by simp [hbytes, hsize, hpos]
    downloadSize_le := fun _ => hsize ▸ hle
    uploadSize_eq := fun _ => hupload
    uploadBytes_le := by simp [hsent]
    uploadSize_le := by simp [hupload]
    uploadBytes_lt := fun h => absurd (hmode.symm.trans h) nofun
    uploadBytes_eq := fun _ => hsent
    startUpload_eq := fun _ => hstart }

/-- The start of an upload of something. -/
theorem Consistent.serve (h : t.Consistent capacity) (hmode : t.mode = .idle)
    (hpos : t.uploadSize ≠ 0) :
    { t with startUpload := false, uploadBytes := 0, mode := .uploading }.Consistent capacity where
  downloadBytes_le := h.downloadBytes_le
  downloadSize_eq _ := h.downloadSize_eq (by simp [hmode])
  downloadBytes_lt := nofun
  downloadSize_le := nofun
  uploadSize_eq := nofun
  uploadBytes_le := Nat.zero_le _
  uploadSize_le := h.uploadSize_le
  uploadBytes_lt _ := Nat.pos_of_ne_zero fun hzero => hpos (UInt32.toNat_inj.mp hzero)
  uploadBytes_eq hne := absurd rfl hne
  startUpload_eq hne := absurd rfl hne

theorem Consistent.toNat_stored (h : t.Consistent capacity) (hcap : capacity < UInt32.size)
    (hmode : t.mode = .downloading)
    (hle : t.downloadBytes.toNat + count ≤ t.downloadSize.toNat) :
    (t.stored count).downloadBytes.toNat = t.downloadBytes.toNat + count := by
  have hsize := h.downloadSize_le hmode
  exact toNat_add_ofNat (by omega)

/-- A chunk that leaves something to come. -/
theorem Consistent.stored (h : t.Consistent capacity) (hcap : capacity < UInt32.size)
    (hmode : t.mode = .downloading)
    (hlt : t.downloadBytes.toNat + count < t.downloadSize.toNat) :
    (t.stored count).Consistent capacity := by
  have hbytes := h.toNat_stored hcap hmode (Nat.le_of_lt hlt)
  have hsize := h.downloadSize_le hmode
  exact { h with
    downloadBytes_le := by rw [hbytes]; omega
    downloadBytes_lt := fun _ => by rw [hbytes]; exact hlt }

/-- The last chunk. -/
theorem Consistent.finishDownload (h : t.Consistent capacity) (hcap : capacity < UInt32.size)
    (hmode : t.mode = .downloading)
    (hle : t.downloadBytes.toNat + count ≤ t.downloadSize.toNat) :
    (t.stored count).finishDownload.Consistent capacity := by
  have hbytes := h.toNat_stored hcap hmode hle
  have hsize := h.downloadSize_le hmode
  have hcount : (t.stored count).downloadBytes.toNat ≤ capacity := by omega
  exact consistent_of_idle rfl rfl rfl (h.startUpload_eq (by simp [hmode])) hcount hcount

/-- A frame that goes out never counts beyond the size of the upload. -/
theorem Consistent.fetched_le (h : t.Consistent capacity) (hcap : capacity < UInt32.size)
    (actual : Nat) :
    (t.fetched actual).uploadBytes.toNat ≤ (t.fetched actual).uploadSize.toNat := by
  have hsize := h.uploadSize_le
  have hbytes := h.uploadBytes_le
  have hremaining := t.toNat_uploadRemaining
  unfold Transfer.fetched
  split
  · rw [toNat_add_ofNat (by omega)]
    show _ ≤ t.uploadSize.toNat
    omega
  · exact hbytes

/-- What a frame counts is no longer to go. -/
theorem Consistent.uploadRemaining_fetched (h : t.Consistent capacity) (hcap : capacity < UInt32.size)
    (actual : Nat) : (t.fetched actual).uploadRemaining.toNat =
      t.uploadRemaining.toNat - if t.startUpload then actual else 0 := by
  have hsize := h.uploadSize_le
  have hbytes := h.uploadBytes_le
  have hremaining := t.toNat_uploadRemaining
  have hleft := (t.fetched actual).toNat_uploadRemaining
  rw [uploadSize_fetched] at hleft
  unfold Transfer.fetched at hleft ⊢
  split
  · rename_i hstart
    rw [if_pos hstart, toNat_add_ofNat (by omega)] at hleft
    omega
  · rfl

/-- A frame of an upload that leaves something to go. -/
theorem Consistent.fetched (h : t.Consistent capacity) (hcap : capacity < UInt32.size)
    (hmode : t.mode = .uploading) (hremaining : (t.fetched actual).uploadRemaining.toNat ≠ 0) :
    (t.fetched actual).Consistent capacity := by
  have hle := h.fetched_le hcap actual
  have hlt : (t.fetched actual).uploadBytes.toNat < (t.fetched actual).uploadSize.toNat := by
    rw [toNat_uploadRemaining] at hremaining
    omega
  unfold Transfer.fetched at hle hlt ⊢
  split
  · rename_i hstart
    rw [if_pos hstart] at hle hlt
    exact { h with
      uploadBytes_le := hle
      uploadBytes_lt := fun _ => hlt
      uploadBytes_eq := fun hne => absurd hmode hne }
  · exact h

/-- The last frame of an upload. -/
theorem Consistent.finishUpload_fetched (h : t.Consistent capacity) (hmode : t.mode = .uploading) :
    (t.fetched actual).finishUpload.Consistent capacity := by
  obtain ⟨_, hfetched⟩ := t.fetched_eq actual
  rw [hfetched]
  exact consistent_of_idle rfl (h.downloadSize_eq (by simp [hmode])) rfl rfl h.downloadBytes_le
    (Nat.zero_le _)

end Fastboot.Transfer
