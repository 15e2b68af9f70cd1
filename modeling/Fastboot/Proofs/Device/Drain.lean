import Fastboot.Proofs.Device.Link
import Mathlib.Algebra.Order.Floor.Div

/-!
# Frames run out

A host that collects frames goes on until none is queued or the device has left. `Drains` is that loop, and
nothing in it says that it ends, for each frame may lead to the next. `Device.drain` does end, since it is
given a number of frames that it does not exceed.

The two are the same on a sound device (`Sound.drains_iff`). `framesLeft` is what the loop goes down by: the
header of an upload and its status are two frames, and each chunk between them takes a whole buffer off what is
still to go, or all of it (`sub_min_ceilDiv_lt`). Whatever is queued, by the device or by another, no more
frames than that follow one another (`Sound.framesLeft_le`).
-/

namespace Fastboot

/-- A chunk that is not empty saves a chunk. -/
theorem sub_min_ceilDiv_lt {n size : Nat} (hsize : 0 < size) (hn : 0 < n) :
    (n - min n size) ⌈/⌉ size < n ⌈/⌉ size := by
  have hcovers : n ≤ size * (n ⌈/⌉ size) := (ceilDiv_le_iff_le_mul hsize).mp (Nat.le_refl _)
  cases hchunks : n ⌈/⌉ size with
  | zero =>
    rw [hchunks] at hcovers
    omega
  | succ chunks =>
    rw [hchunks, Nat.mul_succ] at hcovers
    have hrest : (n - min n size) ⌈/⌉ size ≤ chunks := (ceilDiv_le_iff_le_mul hsize).mpr (by omega)
    omega

namespace Device

variable {d e e' : Device} {data frame : ByteArray} {frames frames' : List ByteArray}

/-- The frames that are collected, one after the other, until none is queued or the device has left. -/
inductive Drains : Device → List ByteArray → Device → Prop where
  | rest {d e : Device} (hcomplete : d.completeIn = (none, e)) : Drains d [] e
  | left {d e : Device} {frame : ByteArray} (hcomplete : d.completeIn = (some frame, e))
      (hhalted : e.isHalted = true) : Drains d [frame] e
  | next {d e e' : Device} {frame : ByteArray} {frames : List ByteArray}
      (hcomplete : d.completeIn = (some frame, e)) (hhalted : e.isHalted = false)
      (hrest : Drains e frames e') : Drains d (frame :: frames) e'

/-- Frames are collected in one way only. -/
theorem Drains.unique (h : Drains d frames e) (h' : Drains d frames' e') :
    frames = frames' ∧ e = e' := by
  induction h generalizing frames' e' with
  | rest hcomplete =>
    cases h' with
    | rest hcomplete' =>
      cases hcomplete.symm.trans hcomplete'
      exact ⟨rfl, rfl⟩
    | left hcomplete' => cases hcomplete.symm.trans hcomplete'
    | next hcomplete' => cases hcomplete.symm.trans hcomplete'
  | left hcomplete hhalted =>
    cases h' with
    | rest hcomplete' => cases hcomplete.symm.trans hcomplete'
    | left hcomplete' =>
      cases hcomplete.symm.trans hcomplete'
      exact ⟨rfl, rfl⟩
    | next hcomplete' hhalted' =>
      cases hcomplete.symm.trans hcomplete'
      cases hhalted.symm.trans hhalted'
  | next hcomplete hhalted _ ih =>
    cases h' with
    | rest hcomplete' => cases hcomplete.symm.trans hcomplete'
    | left hcomplete' hhalted' =>
      cases hcomplete.symm.trans hcomplete'
      cases hhalted.symm.trans hhalted'
    | next hcomplete' _ hrest' =>
      cases hcomplete.symm.trans hcomplete'
      obtain ⟨rfl, rfl⟩ := ih hrest'
      exact ⟨rfl, rfl⟩

/-! ### What is left of an upload -/

/-- How many frames can still follow one another, the queued one first. -/
def framesLeft (d : Device) : Nat :=
  match d.usb.pending with
  | none => 0
  | some frame =>
    if d.transfer.next = .uploadChunk then
      (d.transfer.fetched frame.size).uploadRemaining.toNat ⌈/⌉ d.settings.bufferSize + 2
    else 1

theorem framesLeft_of_none (hpending : d.usb.pending = none) : d.framesLeft = 0 := by
  simp only [framesLeft, hpending]

theorem framesLeft_of_chunk (hpending : d.usb.pending = some frame)
    (hnext : d.transfer.next = .uploadChunk) : d.framesLeft =
      (d.transfer.fetched frame.size).uploadRemaining.toNat ⌈/⌉ d.settings.bufferSize + 2 := by
  simp only [framesLeft, hpending, hnext, if_true]

theorem framesLeft_of_ne (hpending : d.usb.pending = some frame)
    (hnext : d.transfer.next ≠ .uploadChunk) : d.framesLeft = 1 := by
  simp only [framesLeft, hpending, if_neg hnext]

theorem framesLeft_pos (hpending : d.usb.pending = some frame) : 0 < d.framesLeft := by
  by_cases hnext : d.transfer.next = .uploadChunk
  · rw [framesLeft_of_chunk hpending hnext]
    exact Nat.succ_pos _
  · rw [framesLeft_of_ne hpending hnext]
    exact Nat.one_pos

theorem pending_of_framesLeft (hleft : d.framesLeft = 0) : d.usb.pending = none := by
  cases hpending : d.usb.pending with
  | none => rfl
  | some frame => exact absurd hleft (Nat.ne_of_gt (framesLeft_pos hpending))

/-- **Two frames and the chunks** are all that can follow one another. -/
theorem Sound.framesLeft_le (h : d.Sound none) :
    d.framesLeft ≤ d.transfer.uploadRemaining.toNat ⌈/⌉ d.settings.bufferSize + 2 := by
  cases hpending : d.usb.pending with
  | none =>
    rw [framesLeft_of_none hpending]
    exact Nat.zero_le _
  | some frame =>
    by_cases hnext : d.transfer.next = .uploadChunk
    · have hrest := h.consistent.uploadRemaining_fetched h.valid.stagingCapacity_lt frame.size
      rw [framesLeft_of_chunk hpending hnext, hrest]
      have hmono := (gc_mul_ceilDiv h.valid.bufferSize_pos).monotone_l (Nat.sub_le
        d.transfer.uploadRemaining.toNat (if d.transfer.startUpload then frame.size else 0))
      exact Nat.add_le_add_right hmono 2
    · rw [framesLeft_of_ne hpending hnext]
      omega

/-! ### One frame after the other -/

/-- A frame that has been handed over is queued, or none is. -/
theorem hand_cases (d : Device) (o : Offer) : (d.hand (some o)).usb.pending = none ∨
    (d.hand (some o)).usb.pending = some o.frame ∧
      (d.hand (some o)).transfer = d.transfer.accepted o := by
  rw [pending_hand_some, transfer_hand_some]
  by_cases hfail : d.usb.failNext = true
  · exact .inl (if_pos hfail)
  · have haccepts : d.Accepts o := accepts_iff_failNext.mpr (Bool.eq_false_iff.mpr hfail)
    exact .inr ⟨if_neg hfail, if_pos haccepts⟩

/-- Behind a chunk that has been handed over, only the data that it does not carry is still to go. -/
theorem Sound.framesLeft_hand_chunk (h : d.Sound (some (.chunk data)))
    (hpending : (d.hand (some (.chunk data))).usb.pending = some data)
    (htransfer : (d.hand (some (.chunk data))).transfer = d.transfer.accepted (.chunk data)) :
    (d.hand (some (.chunk data))).framesLeft =
      (d.transfer.uploadRemaining.toNat - data.size) ⌈/⌉ d.settings.bufferSize + 2 := by
  have hnext : (d.hand (some (.chunk data))).transfer.next = .uploadChunk := by
    rw [htransfer]
    rfl
  have hstart : (d.transfer.accepted (.chunk data)).startUpload = true := Bool.or_true _
  have hcounted := h.hand.consistent.uploadRemaining_fetched h.hand.valid.stagingCapacity_lt data.size
  rw [htransfer, if_pos hstart] at hcounted
  rw [framesLeft_of_chunk hpending hnext, settings_hand, htransfer, hcounted]
  rfl

/-- What is queued behind a frame that has gone out: nothing, or a frame that fewer can follow. -/
theorem Sound.completeIn_cases (h : d.Sound none) (hcomplete : d.completeIn = (some frame, e)) :
    e.usb.pending = none ∨ e.lifecycle = .enabled ∧ e.framesLeft < d.framesLeft := by
  have hgone := d.usb.pending_completeIn
  cases h.collection hcomplete with
  | unnoticed => exact .inl hgone
  | followed hpending henabled hp hhand =>
    have hsound := h.collect.of_progression henabled hp
    rw [hhand, lifecycle_hand]
    cases hp with
    | stop => exact .inl hgone
    | exit => exact .inl hgone
    | chunk data events hnext hremaining hdata =>
      refine (hand_cases _ _).imp_right fun ⟨hqueued, htransfer⟩ => ⟨henabled, ?_⟩
      have hsize : data.size = min (d.transfer.fetched frame.size).uploadRemaining.toNat
          d.settings.bufferSize := Buffer.size_of_read hdata
      rw [hsound.framesLeft_hand_chunk hqueued htransfer, framesLeft_of_chunk hpending hnext, hsize]
      exact Nat.add_lt_add_right
        (sub_min_ceilDiv_lt h.valid.bufferSize_pos (Nat.pos_of_ne_zero hremaining)) 2
    | last events hnext hremaining =>
      refine (hand_cases _ _).imp_right fun ⟨hqueued, htransfer⟩ => ⟨henabled, ?_⟩
      have hdone := (congrArg Transfer.next htransfer).trans
        ((Transfer.next_accepted _ _).trans Offer.next_okay)
      rw [framesLeft_of_ne hqueued (by simp [hdone]), framesLeft_of_chunk hpending hnext]
      omega

theorem Sound.completeIn_snd (h : d.Sound none) : d.completeIn.2.Sound none := by
  rcases hcomplete : d.completeIn with ⟨frame, e⟩
  cases h.collection hcomplete with
  | nothing => exact h
  | unnoticed => exact h.collect
  | followed _ henabled hp hhand => exact hhand ▸ (h.collect.of_progression henabled hp).hand

/-- **Every frame is one fewer to follow.** -/
theorem Sound.framesLeft_completeIn_lt (h : d.Sound none)
    (hcomplete : d.completeIn = (some frame, e)) : e.framesLeft < d.framesLeft := by
  rcases h.completeIn_cases hcomplete with hnone | ⟨-, hlt⟩
  · rw [framesLeft_of_none hnone]
    refine Nat.pos_of_ne_zero fun hzero => ?_
    cases hcomplete.symm.trans (completeIn_of_none (pending_of_framesLeft hzero))
  · exact hlt

/-- A device that has left has nothing queued. -/
theorem Sound.pending_of_halted (h : d.Sound none) (hcomplete : d.completeIn = (some frame, e))
    (hhalted : e.isHalted = true) : e.usb.pending = none := by
  rcases h.completeIn_cases hcomplete with hnone | ⟨henabled, -⟩
  · exact hnone
  · simp [Device.isHalted, henabled] at hhalted

/-- A drain is as long as there are frames, at most. -/
theorem Drains.length_le (hdrains : Drains d frames e) (h : d.Sound none) :
    frames.length ≤ d.framesLeft := by
  induction hdrains with
  | rest => exact Nat.zero_le _
  | left hcomplete =>
    have hlt := h.framesLeft_completeIn_lt hcomplete
    exact Nat.lt_of_le_of_lt (Nat.zero_le _) hlt
  | @next d e _ _ frames hcomplete _ _ ih =>
    have hlt := h.framesLeft_completeIn_lt hcomplete
    have hsound := h.completeIn_snd
    rw [hcomplete] at hsound
    have hrest := ih hsound
    show frames.length + 1 ≤ d.framesLeft
    omega

/-- A drain that may take all the frames that can follow takes all there are. -/
theorem Sound.drains_completeFrames (h : d.Sound none) {limit : Nat}
    (hlimit : d.framesLeft ≤ limit) :
    Drains d (completeFrames limit d).1 (completeFrames limit d).2 := by
  induction limit generalizing d with
  | zero => exact .rest (completeIn_of_none (pending_of_framesLeft (Nat.le_zero.mp hlimit)))
  | succ limit ih =>
    rcases hcomplete : d.completeIn with ⟨frame | frame, e⟩
    · rw [completeFrames, hcomplete]
      exact .rest hcomplete
    · have hlt := h.framesLeft_completeIn_lt hcomplete
      have hsound := h.completeIn_snd
      rw [hcomplete] at hsound
      rw [completeFrames_succ hcomplete]
      by_cases hhalted : e.isHalted = true
      · rw [completeFrames_of_none (h.pending_of_halted hcomplete hhalted)]
        exact .left hcomplete hhalted
      · exact .next hcomplete (Bool.eq_false_iff.mpr hhalted) (ih hsound (by omega))

/-- **The loop ends**, and `Device.drain` is what it ends with. -/
theorem Sound.drains_iff (h : d.Sound none) : Drains d frames e ↔ d.drain = (frames, e) := by
  have hleft := h.framesLeft_le
  have hchunks : d.transfer.uploadRemaining.toNat ⌈/⌉ d.settings.bufferSize ≤
      d.transfer.uploadRemaining.toNat :=
    (ceilDiv_le_iff_le_mul h.valid.bufferSize_pos).mpr
      (Nat.le_mul_of_pos_left _ h.valid.bufferSize_pos)
  have hdrains : Drains d d.drain.1 d.drain.2 := h.drains_completeFrames (by omega)
  constructor
  · intro hloop
    obtain ⟨rfl, rfl⟩ := hdrains.unique hloop
    rfl
  · intro hdrain
    rwa [hdrain] at hdrains

/-- Two frames, and a chunk for each buffer that what there is to fetch fills or begins. -/
theorem Sound.length_drain_le (h : d.Sound none) :
    d.drain.1.length ≤ d.transfer.uploadSize.toNat ⌈/⌉ d.settings.bufferSize + 2 := by
  have hdrains : Drains d d.drain.1 d.drain.2 := h.drains_iff.mpr rfl
  have hremaining : d.transfer.uploadRemaining.toNat ≤ d.transfer.uploadSize.toNat := by
    rw [Transfer.toNat_uploadRemaining]
    exact Nat.sub_le _ _
  have hmono := (gc_mul_ceilDiv h.valid.bufferSize_pos).monotone_l hremaining
  exact (hdrains.length_le h).trans (h.framesLeft_le.trans (Nat.add_le_add_right hmono 2))

end Device

end Fastboot
