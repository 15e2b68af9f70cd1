import Fastboot.Proofs.Device.Delivery
import Fastboot.Proofs.Device.InStep
import Fastboot.Proofs.Device.Unfailing

/-!
# The progress of a data phase

While the bytes of a data phase are counted, an observer is told how far it has come, chunk by chunk, and of a
mark for every 128 KiB. A chunk decides about its mark from the two counts before and behind it, by itself.
`progress_run` says what all of them amount to: there is a mark for each multiple of 128 KiB that the whole data
phase has passed, and every 74th ends a line, however the bytes were split into chunks.

`Event.advances` is what is told of a list of chunks, and its marks and counts are worked out there, without a
device. That a device tells just this is said by `d.Counts direction sizes d'`. It holds of every action in a
data phase, with the chunk that it counts or without one (`Sound.counts_act`), and from there of a run, which
tells of the end of the data phase when all is counted (`Sound.counts_run`).
-/

namespace Fastboot

/-- The mode of a data phase. -/
def Direction.mode : Direction → Mode
  | download => .downloading
  | upload => .uploading

theorem Direction.mode_ne_idle (direction : Direction) : direction.mode ≠ .idle := by
  cases direction <;> nofun

/-! ### Running counts -/

/-- How many bytes are counted behind each of some chunks, from their sizes. -/
def partialSums (sizes : List Nat) : List Nat :=
  (List.range sizes.length).map fun i => (sizes.take (i + 1)).sum

theorem partialSums_cons (size : Nat) (sizes : List Nat) :
    partialSums (size :: sizes) = size :: (partialSums sizes).map (size + ·) := by
  rw [partialSums, List.length_cons, List.range_succ_eq_map, List.map_cons, List.map_map, partialSums,
    List.map_map]
  refine congrArg₂ _ (by simp) (List.map_congr_left fun i _ => ?_)
  simp

/-- The last count is that of all bytes. -/
theorem getLast?_partialSums {sizes : List Nat} (hne : sizes ≠ []) :
    (partialSums sizes).getLast? = some sizes.sum := by
  have hlength : 0 < sizes.length := List.length_pos_iff.mpr hne
  rw [partialSums, List.getLast?_map, List.getLast?_range, if_neg (Nat.ne_of_gt hlength),
    Option.map_some, Nat.sub_add_cancel hlength, List.take_length]

/-- Chunks that are not empty make the count go up. -/
theorem pairwise_partialSums {sizes : List Nat} (hpos : ∀ size ∈ sizes, 0 < size) :
    (partialSums sizes).Pairwise (· < ·) := by
  refine List.pairwise_map.mpr (List.pairwise_lt_range.imp_of_mem fun {i j} _ hj hij => ?_)
  have hlt : i + 1 < sizes.length := Nat.lt_of_le_of_lt hij (List.mem_range.mp hj)
  obtain ⟨k, rfl⟩ := Nat.exists_eq_add_of_lt hij
  have hsize : 0 < sizes[i + 1] := hpos _ (List.getElem_mem hlt)
  have htake : sizes.take (i + 1 + (k + 1)) =
      sizes.take (i + 1) ++ sizes[i + 1] :: (sizes.drop (i + 1 + 1)).take k := by
    rw [List.take_add (i := i + 1), List.drop_eq_getElem_cons hlt, List.take_succ_cons]
  rw [show i + k + 1 + 1 = i + 1 + (k + 1) by omega, htake, List.sum_append, List.sum_cons]
  omega

/-! ### What is told of chunks -/

namespace Event

/-- The event tells how far a data phase has come. -/
def isTally : Event → Bool
  | progress _ _ _ | mark _ | finished _ _ => true
  | _ => false

/-- The mark that an event tells of, and whether it ends a line. -/
def mark? : Event → Option Bool
  | mark lineBreak => some lineBreak
  | _ => none

/-- What an event tells of a count: the direction, the count and the size it counts towards. -/
def progress? : Event → Option (Direction × Nat × Nat)
  | progress direction current total => some (direction, current, total)
  | _ => none

/-- What is told of a counter that moves: where it has come to, and the mark that is due. -/
def advance (direction : Direction) (old new total : Nat) : List Event :=
  progress direction new total :: ((progressMark? old new).map mark).toList

/-- What is told of chunks of the given sizes, one after the other. -/
def advances (direction : Direction) (total : Nat) : Nat → List Nat → List Event
  | _, [] => []
  | moved, size :: sizes =>
    advance direction moved (moved + size) total ++
      advances direction total (moved + size) sizes

variable {direction : Direction} {total moved : Nat} {sizes : List Nat}

theorem advances_append (direction : Direction) (total moved : Nat) (sizes rest : List Nat) :
    advances direction total moved (sizes ++ rest) =
      advances direction total moved sizes ++
        advances direction total (moved + sizes.sum) rest := by
  induction sizes generalizing moved with
  | nil => rfl
  | cons size sizes ih =>
    rw [List.cons_append, advances, advances, ih, List.append_assoc, List.sum_cons, Nat.add_assoc]

/-- The counts are those of all chunks so far. -/
theorem progress?_advances (direction : Direction) (total moved : Nat) (sizes : List Nat) :
    (advances direction total moved sizes).filterMap progress? =
      (partialSums sizes).map fun count => (direction, moved + count, total) := by
  induction sizes generalizing moved with
  | nil => rfl
  | cons size sizes ih =>
    have hfirst (new : Nat) : (advance direction moved new total).filterMap progress? =
        [(direction, new, total)] := by
      rw [advance]
      cases progressMark? moved new with
      | none => rfl
      | some lineBreak => rfl
    rw [advances, List.filterMap_append, hfirst, ih, partialSums_cons, List.map_cons, List.map_map,
      List.singleton_append]
    refine congrArg _ (List.map_congr_left fun count _ => ?_)
    rw [Function.comp_apply, Nat.add_assoc]

/-- **Marks are passed one by one.** A chunk of no more than one mark passes one or none, and the marks passed
by all chunks together are those between the first count and the last. -/
theorem mark?_advances (hsizes : ∀ size ∈ sizes, size ≤ bytesPerMark) :
    (advances direction total moved sizes).filterMap mark? =
      (List.range' (moved / bytesPerMark + 1)
        ((moved + sizes.sum) / bytesPerMark - moved / bytesPerMark)).map
          fun k => decide (k % marksPerLine = 0) := by
  induction sizes generalizing moved with
  | nil => simp [advances]
  | cons size sizes ih =>
    have hsize : size ≤ bytesPerMark := hsizes size List.mem_cons_self
    have hrest (s : Nat) (hs : s ∈ sizes) : s ≤ bytesPerMark :=
      hsizes s (List.mem_cons_of_mem _ hs)
    have hpos : 0 < bytesPerMark := by decide
    have hlast : (moved + size) / bytesPerMark ≤ (moved + size + sizes.sum) / bytesPerMark :=
      Nat.div_le_div_right (Nat.le_add_right _ _)
    have hone : (moved + size) / bytesPerMark ≤ moved / bytesPerMark + 1 := by
      rw [← Nat.add_div_right moved hpos]
      exact Nat.div_le_div_right (Nat.add_le_add_left hsize moved)
    have hmono : moved / bytesPerMark ≤ (moved + size) / bytesPerMark :=
      Nat.div_le_div_right (Nat.le_add_right _ _)
    rw [advances, List.filterMap_append, ih hrest, advance, List.sum_cons, ← Nat.add_assoc,
      progressMark?]
    split_ifs with hsame
    · rw [← hsame]
      rfl
    · -- the mark of this chunk is the first of those that are passed
      have hnext : (moved + size) / bytesPerMark = moved / bytesPerMark + 1 := by omega
      have hcount : (moved + size + sizes.sum) / bytesPerMark - moved / bytesPerMark =
          (moved + size + sizes.sum) / bytesPerMark - (moved / bytesPerMark + 1) + 1 := by omega
      rw [hnext, hcount, List.range'_succ]
      rfl

/-- The end of a data phase is not told of with the chunks. -/
theorem finished_notMem_advances (direction other : Direction) (total moved bytes : Nat)
    (sizes : List Nat) : finished other bytes ∉ advances direction total moved sizes := by
  induction sizes generalizing moved with
  | nil => exact List.not_mem_nil
  | cons size sizes ih =>
    rw [advances, List.mem_append, advance]
    rintro (hfirst | hrest)
    · cases hmark : progressMark? moved (moved + size) <;> simp [hmark] at hfirst
    · exact ih _ hrest

end Event

/-! ### What the log of a target tells -/

namespace Target

/-- What the log tells of the progress of data phases, the first event first. -/
def tally (t : Target) : List Event :=
  t.events.toList.filter Event.isTally

theorem tally_of_eq {t t' : Target} (hevents : t'.events = t.events) : t'.tally = t.tally := by
  rw [tally, hevents, tally]

theorem tally_emit (t : Target) {e : Event} (he : e.isTally = false) : (t.emit e).tally = t.tally := by
  simp [tally, he]

theorem tally_emit_finished (t : Target) (direction : Direction) (bytes : Nat) :
    (t.emit (.finished direction bytes)).tally = t.tally ++ [.finished direction bytes] := by
  simp [tally, Event.isTally]

@[simp]
theorem tally_transition (t : Target) (change : Transfer → Transfer) :
    (t.transition change).tally = t.tally := by
  rw [transition, reportMode]
  split_ifs
  · rfl
  · exact tally_emit _ rfl

theorem tally_progress (t : Target) (direction : Direction) (old new total : UInt32) :
    (t.progress direction old new total).tally =
      t.tally ++ Event.advance direction old.toNat new.toNat total.toNat := by
  rw [progress, Event.advance]
  cases progressMark? old.toNat new.toNat with
  | none => simp [tally, Event.isTally]
  | some lineBreak => simp [tally, Event.isTally]

end Target

namespace Transfer

/-- The bytes that are counted of a data phase. -/
def moved (t : Transfer) : Direction → Nat
  | .download => t.downloadBytes.toNat
  | .upload => t.uploadBytes.toNat

/-- The bytes that there are of a data phase. -/
def total (t : Transfer) : Direction → Nat
  | .download => t.downloadSize.toNat
  | .upload => t.uploadSize.toNat

end Transfer

namespace Command

variable {command : String} {t t' : Target} {reply : Reply} {direction : Direction}

/-- Commands count nothing. -/
theorem Outcome.tally_eq (h : Outcome command t reply t') : t'.tally = t.tally := by
  cases h with
  | answer => rfl
  | exit => rfl
  | refuse => rfl
  | request => rfl
  | upload => exact t.tally_transition _
  | download => exact (dropData t).tally_transition _

/-- A data phase starts with nothing counted, and an upload with something to send. -/
theorem Outcome.moved_eq (h : Outcome command t reply t') (hidle : t.transfer.mode = .idle)
    (hmode : t'.transfer.mode = direction.mode) :
    t'.transfer.moved direction = 0 ∧ (direction = .upload → t.transfer.uploadSize ≠ 0) := by
  have hsame : t'.transfer.mode ≠ .idle := hmode ▸ direction.mode_ne_idle
  cases h with
  | answer => exact absurd hidle hsame
  | exit => exact absurd hidle hsame
  | refuse => exact absurd hidle hsame
  | request => exact absurd hidle hsame
  | upload _ hpos =>
    rw [Target.transfer_transition] at hmode ⊢
    cases direction with
    | download => cases hmode
    | upload => exact ⟨rfl, fun _ => hpos⟩
  | download =>
    rw [Target.transfer_transition] at hmode ⊢
    cases direction with
    | download => exact ⟨rfl, nofun⟩
    | upload => cases hmode

end Command

namespace Device

variable {d d' d'' : Device} {direction : Direction} {sizes sizes' : List Nat} {offer : Option Offer}
  {data : ByteArray} {status : TransferStatus} {actual : Nat} {a : Action} {actions : List Action}

/-! ### What is counted -/

/-- The bytes of a chunk that an action counts. The header of an upload is not counted. -/
def chunkSize? (d : Device) : Direction → Action → Option Nat
  | .download, .call (.received .completed data) =>
    if d.lifecycle = .enabled ∧ d.transfer.mode = .downloading then some (d.storable data) else none
  | .upload, .call (.sent .completed actual) =>
    if d.lifecycle = .enabled ∧ d.transfer.next = .uploadChunk ∧ d.transfer.startUpload = true then
      some (min actual d.transfer.uploadRemaining.toNat)
    else none
  | _, _ => none

/-- The sizes of the chunks that are counted in a run. -/
def chunkSizes (direction : Direction) : Device → List Action → List Nat
  | _, [] => []
  | d, a :: actions =>
    (d.chunkSize? direction a).toList ++ chunkSizes direction (d.act a) actions

/-- The data phase is under way whenever one of the actions happens. -/
def Spans (direction : Direction) : Device → List Action → Prop
  | _, [] => True
  | d, a :: actions => d.transfer.mode = direction.mode ∧ Spans direction (d.act a) actions

/-- Chunks of the given sizes are counted and told of on the way from one device to another, and the end of the
data phase if they are all there is. While it goes on, the counter has moved by them. -/
structure Counts (d : Device) (direction : Direction) (sizes : List Nat) (d' : Device) : Prop where
  tally_eq : d'.tally = d.tally ++
    (Event.advances direction (d.transfer.total direction) (d.transfer.moved direction) sizes ++
      if d.transfer.moved direction + sizes.sum = d.transfer.total direction then
        [.finished direction (d.transfer.total direction)]
      else [])
  moved_eq : d'.transfer.mode = direction.mode →
    d'.transfer.moved direction = d.transfer.moved direction + sizes.sum ∧
      d'.transfer.total direction = d.transfer.total direction

/-- During a data phase there is something to come. -/
theorem Sound.moved_lt_total (h : d.Sound offer) (hmode : d.transfer.mode = direction.mode) :
    d.transfer.moved direction < d.transfer.total direction := by
  cases direction with
  | download => exact h.consistent.downloadBytes_lt hmode
  | upload => exact h.consistent.uploadBytes_lt hmode

/-- Nothing is counted, and the data phase is where it was, or is over. -/
theorem counts_nil (hlt : d.transfer.moved direction < d.transfer.total direction)
    (htally : d'.tally = d.tally)
    (hsame : d'.transfer.mode = direction.mode →
      d'.transfer.moved direction = d.transfer.moved direction ∧
        d'.transfer.total direction = d.transfer.total direction) :
    d.Counts direction [] d' where
  tally_eq := by
    rw [if_neg (by simpa using Nat.ne_of_lt hlt), htally]
    simp [Event.advances]
  moved_eq := hsame

/-- One chunk is counted that leaves something to come. -/
theorem counts_partly {size : Nat}
    (hlt : d.transfer.moved direction + size < d.transfer.total direction)
    (htally : d'.tally = d.tally ++ Event.advance direction (d.transfer.moved direction)
      (d.transfer.moved direction + size) (d.transfer.total direction))
    (hmoved : d'.transfer.moved direction = d.transfer.moved direction + size)
    (htotal : d'.transfer.total direction = d.transfer.total direction) :
    d.Counts direction [size] d' where
  tally_eq := by
    rw [List.sum_singleton, if_neg (Nat.ne_of_lt hlt), htally]
    simp [Event.advances]
  moved_eq _ := by
    rw [List.sum_singleton]
    exact ⟨hmoved, htotal⟩

/-- One chunk is counted with which all is counted, and the data phase is over. -/
theorem counts_last {size : Nat}
    (hall : d.transfer.moved direction + size = d.transfer.total direction)
    (htally : d'.tally = d.tally ++ Event.advance direction (d.transfer.moved direction)
      (d.transfer.moved direction + size) (d.transfer.total direction) ++
        [.finished direction (d.transfer.total direction)])
    (hmode : d'.transfer.mode ≠ direction.mode) : d.Counts direction [size] d' where
  tally_eq := by
    rw [List.sum_singleton, if_pos hall, htally]
    simp [Event.advances]
  moved_eq hgoes := absurd hgoes hmode

/-- What is counted while the data phase goes on is followed by what is counted then. -/
theorem Counts.trans (h : d.Counts direction sizes d') (h' : d'.Counts direction sizes' d'')
    (hmode : d'.transfer.mode = direction.mode)
    (hlt : d'.transfer.moved direction < d'.transfer.total direction) :
    d.Counts direction (sizes ++ sizes') d'' := by
  obtain ⟨hmoved, htotal⟩ := h.moved_eq hmode
  have htally := h.tally_eq
  have htally' := h'.tally_eq
  rw [hmoved, htotal] at hlt
  rw [if_neg (Nat.ne_of_lt hlt), List.append_nil] at htally
  rw [hmoved, htotal, htally] at htally'
  constructor
  · rw [htally', Event.advances_append, List.sum_append, Nat.add_assoc, List.append_assoc,
      List.append_assoc]
  · intro hgoes
    obtain ⟨hmoved', htotal'⟩ := h'.moved_eq hgoes
    rw [hmoved', htotal', hmoved, htotal, List.sum_append, Nat.add_assoc]
    exact ⟨rfl, rfl⟩

/-! ### Handing over a frame -/

theorem tally_hand (d : Device) (offer : Option Offer) : (d.hand offer).tally = d.tally := by
  have hqueue (response : Response) (next : Continuation) (f : Frame) :
      (d.queueResponse response next f).tally = d.tally := by
    rw [queueResponse]
    rcases d.usb.replaceIn f.bytes with ⟨_ | ⟨⟩, usb⟩
    · rfl
    · exact Target.tally_emit _ rfl
  cases offer with
  | none => rfl
  | some o =>
    cases o with
    | reply r =>
      obtain ⟨f, -, hsend⟩ := d.sendReply_eq r
      rw [hand, hsend, hqueue]
    | chunk data =>
      rw [hand, queueChunk]
      rcases d.usb.replaceIn data with ⟨_ | ⟨⟩, usb⟩
      · exact Target.tally_transition _ _
      · rfl

/-- A frame that is handed over does not start a data phase or move its counter. -/
theorem moved_hand (h : (d.hand offer).transfer.mode = direction.mode) :
    d.transfer.mode = direction.mode ∧
      (d.hand offer).transfer.moved direction = d.transfer.moved direction ∧
      (d.hand offer).transfer.total direction = d.transfer.total direction := by
  cases offer with
  | none => exact ⟨h, rfl, rfl⟩
  | some o =>
    rw [transfer_hand_some] at h ⊢
    split_ifs at h ⊢
    · refine ⟨h, ?_, ?_⟩
      · cases direction <;> rfl
      · cases direction <;> rfl
    · -- an upload whose chunk is refused is over
      rw [Transfer.dropped] at h ⊢
      split_ifs at h ⊢
      · cases direction <;> cases h
      · refine ⟨h, ?_, ?_⟩
        · cases direction <;> rfl
        · cases direction <;> rfl

theorem Counts.hand (h : d.Counts direction sizes d') (offer : Option Offer) :
    d.Counts direction sizes (d'.hand offer) where
  tally_eq := (d'.tally_hand offer).trans h.tally_eq
  moved_eq hgoes := by
    obtain ⟨hmode, hmoved, htotal⟩ := moved_hand hgoes
    rw [hmoved, htotal]
    exact h.moved_eq hmode

/-! ### Transfers -/

theorem tally_endUpload (d : Device) : d.endUpload.tally = d.tally := by
  rw [endUpload]
  split_ifs
  · exact d.toTarget.tally_transition _
  · rfl

/-- The log when a command is about to be carried out. -/
theorem tally_commanded {transfer : Transfer} {text : String} {events : Array Event}
    (hevents : events = (d.endUpload.toTarget.emit (.command text)).events) :
    ({ d.toTarget with transfer, events } : Target).tally = d.tally :=
  (Target.tally_of_eq hevents).trans ((Target.tally_emit _ rfl).trans d.tally_endUpload)

theorem tally_countDownload {count : Nat}
    (hstored : (d.transfer.stored count).downloadBytes.toNat = d.transfer.downloadBytes.toNat + count) :
    (d.countDownload count).tally = d.tally ++ Event.advance .download (d.transfer.moved .download)
      (d.transfer.moved .download + count) (d.transfer.total .download) := by
  have hprogress := Target.tally_progress { d.toTarget with transfer := d.transfer.stored count }
    .download d.transfer.downloadBytes (d.transfer.stored count).downloadBytes d.transfer.downloadSize
  rw [hstored] at hprogress
  exact hprogress

/-- **A chunk of a download counts** as far as it is stored. -/
theorem Reception.counts_download (hr : Reception d data status d' offer) (h : d.Sound none)
    (henabled : d.lifecycle = .enabled) (hmode : d.transfer.mode = .downloading) :
    d.Counts .download (d.chunkSize? .download (.call (.received status data))).toList d' := by
  have hlt : d.transfer.moved .download < d.transfer.total .download := h.moved_lt_total hmode
  have hcap := h.valid.stagingCapacity_lt
  have hremaining := d.transfer.toNat_downloadRemaining
  have hchunk : d.chunkSize? .download (.call (.received .completed data)) =
      some (d.storable data) := if_pos ⟨henabled, hmode⟩
  cases hr with
  | lost _ hne => exact absurd hmode hne
  | refused _ _ _ hne => exact absurd hmode hne
  | command _ _ _ _ hne => exact absurd hmode hne
  | broken code events _ hevents =>
    refine counts_nil hlt ?_ fun hgoes => absurd hgoes.symm (Direction.mode_ne_idle _)
    exact (Target.tally_of_eq hevents).trans (d.toTarget.tally_transition _)
  | partly staging events _ _ hrest hevents =>
    have hsize : d.storable data = data.size := by
      unfold storable
      omega
    have hstored := h.consistent.toNat_stored hcap hmode (Nat.le_of_lt hrest)
    rw [hchunk, hsize, Option.toList_some]
    refine counts_partly hrest ?_ hstored rfl
    exact (Target.tally_of_eq hevents).trans (tally_countDownload (d := { d with staging }) hstored)
  | last count staging events _ hcount _ hfull hevents =>
    have hsize : d.storable data = count := by
      unfold storable
      omega
    have hstored := h.consistent.toNat_stored hcap hmode (Nat.le_of_eq hfull)
    rw [hchunk, hsize, Option.toList_some]
    refine counts_last hfull ?_ (Direction.mode_ne_idle _).symm
    refine (Target.tally_of_eq hevents).trans ((Target.tally_transition _ _).trans
      ((Target.tally_emit_finished _ _ _).trans (congrArg (· ++ _) ?_)))
    exact tally_countDownload (d := { d with staging }) hstored

/-- A transfer that comes in during an upload does not count. A command ends the upload, and cannot start
another as nothing is left to send. -/
theorem Reception.counts_upload (hr : Reception d data status d' offer) (h : d.Sound none)
    (hmode : d.transfer.mode = .uploading) : d.Counts .upload [] d' := by
  have hlt : d.transfer.moved .upload < d.transfer.total .upload := h.moved_lt_total hmode
  cases hr with
  | lost => exact counts_nil hlt rfl fun _ => ⟨rfl, rfl⟩
  | refused fault inbound events hne _ _ hevents =>
    refine counts_nil hlt ((Target.tally_of_eq hevents).trans d.tally_endUpload) fun hgoes => ?_
    cases (Transfer.mode_interrupted hne).symm.trans hgoes
  | command text reply target events hne _ _ hrun hevents =>
    have houtcome := Command.outcome_dispatch text
      { d.toTarget with transfer := d.transfer.interrupted, events }
    rw [hrun] at houtcome
    refine counts_nil hlt (houtcome.tally_eq.trans (tally_commanded hevents)) fun hgoes => ?_
    have hsize := (houtcome.moved_eq (Transfer.mode_interrupted hne) hgoes).2 rfl
    exact absurd (by rw [Transfer.uploadSize_interrupted, if_pos hmode]) hsize
  | broken _ _ hdown => cases hmode.symm.trans hdown
  | partly _ _ hdown => cases hmode.symm.trans hdown
  | last _ _ _ hdown => cases hmode.symm.trans hdown

theorem Sound.tally_countUpload (h : d.Sound none) (actual : Nat)
    (hstart : d.transfer.startUpload = true) :
    (d.settle.countUpload actual).tally = d.tally ++ Event.advance .upload (d.transfer.moved .upload)
      (d.transfer.moved .upload + min actual d.transfer.uploadRemaining.toNat)
      (d.transfer.total .upload) := by
  have hprogress := Target.tally_progress
    { d.toTarget with transfer := (d.settle.countUpload actual).transfer } .upload
    d.transfer.uploadBytes (d.settle.countUpload actual).transfer.uploadBytes d.transfer.uploadSize
  rw [h.toNat_countUpload actual hstart] at hprogress
  rw [transfer_settle_countUpload, Transfer.fetched, if_pos hstart] at hprogress
  rw [countUpload, if_pos (show d.settle.transfer.startUpload = true from hstart)]
  exact hprogress

/-- A frame that goes out during a download does not count. -/
theorem Progression.counts_download (hp : Progression d actual status d' offer) (h : d.Sound none)
    (hmode : d.transfer.mode = .downloading) : d.Counts .download [] d' := by
  have hdone := h.next_of_downloading hmode
  cases hp with
  | stop => exact counts_nil (h.moved_lt_total hmode) rfl fun _ => ⟨rfl, rfl⟩
  | broken _ _ hnext => cases hdone.symm.trans hnext
  | chunk _ _ hnext => cases hdone.symm.trans hnext
  | last _ hnext => cases hdone.symm.trans hnext
  | exit _ hnext => cases hdone.symm.trans hnext

/-- **A chunk of an upload counts** as far as it has gone out. The header in front of the first one does not. -/
theorem Progression.counts_upload (hp : Progression d actual status d' offer) (h : d.Sound none)
    (henabled : d.lifecycle = .enabled) (hmode : d.transfer.mode = .uploading) :
    d.Counts .upload (d.chunkSize? .upload (.call (.sent status actual))).toList d' := by
  have hlt : d.transfer.moved .upload < d.transfer.total .upload := h.moved_lt_total hmode
  have hless : d.transfer.uploadBytes.toNat < d.transfer.uploadSize.toNat := hlt
  have hremaining := d.transfer.toNat_uploadRemaining
  have hleft := (d.transfer.fetched actual).toNat_uploadRemaining
  rw [Transfer.uploadSize_fetched] at hleft
  have hfetched (hstart : d.transfer.startUpload = true) :
      (d.transfer.fetched actual).uploadBytes.toNat =
        d.transfer.uploadBytes.toNat + min actual d.transfer.uploadRemaining.toNat := by
    have hcounted := h.toNat_countUpload actual hstart
    rwa [transfer_settle_countUpload] at hcounted
  have hchunk (hnext : d.transfer.next = .uploadChunk) (hstart : d.transfer.startUpload = true) :
      d.chunkSize? .upload (.call (.sent .completed actual)) =
        some (min actual d.transfer.uploadRemaining.toNat) := if_pos ⟨henabled, hnext, hstart⟩
  cases hp with
  | stop status hnext =>
    have hnone : d.chunkSize? .upload (.call (.sent status actual)) = none := by
      cases status with
      | failed code => rfl
      | completed =>
        refine if_neg fun h => ?_
        rcases hnext with hdone | ⟨hne, -⟩
        · cases hdone.symm.trans h.2.1
        · exact hne rfl
    rw [hnone]
    exact counts_nil hlt rfl fun _ => ⟨rfl, rfl⟩
  | broken code events _ hevents =>
    refine counts_nil hlt ?_ fun hgoes => absurd hgoes.symm (Direction.mode_ne_idle _)
    exact (Target.tally_of_eq hevents).trans (d.settle.toTarget.tally_transition _)
  | chunk data events hnext hmore _ hevents =>
    cases hstart : d.transfer.startUpload with
    | true =>
      have hcounted := hfetched hstart
      have hrest : d.transfer.uploadBytes.toNat + min actual d.transfer.uploadRemaining.toNat <
          d.transfer.uploadSize.toNat := by omega
      rw [hchunk hnext hstart, Option.toList_some]
      refine counts_partly hrest ?_ hcounted
        (congrArg UInt32.toNat (d.transfer.uploadSize_fetched actual))
      exact (Target.tally_of_eq hevents).trans (h.tally_countUpload actual hstart)
    | false =>
      have hnone : d.chunkSize? .upload (.call (.sent .completed actual)) = none :=
        if_neg fun h => by simp [hstart] at h
      have hskip : d.settle.countUpload actual = d.settle :=
        if_neg (by simp [settle, Transfer.settled, hstart])
      rw [hnone, fetched_of_header hstart]
      rw [hskip] at hevents
      exact counts_nil hlt (Target.tally_of_eq hevents) fun _ => ⟨rfl, rfl⟩
  | last events hnext hzero hevents =>
    have hstart : d.transfer.startUpload = true := by
      by_contra hstart
      rw [fetched_of_header (Bool.eq_false_iff.mpr hstart)] at hzero
      omega
    have hcounted := hfetched hstart
    have hall : d.transfer.uploadBytes.toNat + min actual d.transfer.uploadRemaining.toNat =
        d.transfer.uploadSize.toNat := by omega
    rw [hchunk hnext hstart, Option.toList_some]
    refine counts_last hall ?_ (Direction.mode_ne_idle _).symm
    refine (Target.tally_of_eq hevents).trans ((Target.tally_transition _ _).trans
      ((Target.tally_emit_finished _ _ _).trans ?_))
    rw [h.tally_countUpload actual hstart, hcounted, hall]
    rfl
  | exit action hnext => cases (h.idle_eq action hnext).symm.trans hmode

/-! ### Actions and runs -/

/-- **What an action counts in a data phase.** -/
theorem Sound.counts_act (h : d.Sound none) (hmode : d.transfer.mode = direction.mode) (a : Action) :
    d.Counts direction (d.chunkSize? direction a).toList (d.act a) := by
  have hlt := h.moved_lt_total hmode
  cases a with
  | world usb board =>
    have hnone : d.chunkSize? direction (.world usb board) = none := by cases direction <;> rfl
    rw [hnone]
    exact counts_nil hlt rfl fun _ => ⟨rfl, rfl⟩
  | call c =>
    have htaking := taking_take h c
    have hcounts : d.Counts direction (d.chunkSize? direction (.call c)).toList (d.take c).1 := by
      generalize (d.take c).1 = e at htaking
      generalize (d.take c).2 = offer at htaking
      cases htaking with
      | restart c usb inbound requested lifecycle hcall =>
        have hnone : d.chunkSize? direction (.call c) = none := by
          rcases hcall with rfl | rfl <;> cases direction <;> rfl
        rw [hnone]
        exact counts_nil hlt rfl fun hgoes => absurd hgoes.symm direction.mode_ne_idle
      | ignored c hlifecycle =>
        have hnone : d.chunkSize? direction (.call c) = none := by
          unfold chunkSize?
          split
          · exact if_neg fun h => hlifecycle h.1
          · exact if_neg fun h => hlifecycle h.1
          · rfl
        rw [hnone]
        exact counts_nil hlt rfl fun _ => ⟨rfl, rfl⟩
      | received henabled hr =>
        cases direction with
        | download => exact hr.counts_download h henabled hmode
        | upload => exact hr.counts_upload h hmode
      | sent henabled hp =>
        cases direction with
        | download => exact hp.counts_download h hmode
        | upload => exact hp.counts_upload h henabled hmode
    obtain ⟨usb, requested, hcall⟩ := d.call_eq c
    rw [Device.act, hcall]
    exact { hcounts.hand (d.take c).2 with }

/-- **What a run counts of a data phase**, up to its end. -/
theorem Sound.counts_run (h : d.Sound none) (hmode : d.transfer.mode = direction.mode)
    (hspans : d.Spans direction actions) :
    d.Counts direction (d.chunkSizes direction actions) (d.run actions) := by
  induction actions generalizing d with
  | nil => exact counts_nil (h.moved_lt_total hmode) rfl fun _ => ⟨rfl, rfl⟩
  | cons a actions ih =>
    have hfirst := h.counts_act hmode a
    cases actions with
    | nil =>
      rw [chunkSizes, chunkSizes, List.append_nil]
      exact hfirst
    | cons b actions =>
      obtain ⟨-, hgoes, hrest⟩ := hspans
      exact hfirst.trans (ih (h.act a) hgoes ⟨hgoes, hrest⟩) hgoes ((h.act a).moved_lt_total hgoes)

/-- **A data phase is opened** with nothing counted, and nothing told of it yet. -/
theorem Sound.opened_act (h : d.Sound none) (hclosed : d.transfer.mode ≠ direction.mode)
    (hopened : (d.act a).transfer.mode = direction.mode) :
    (d.act a).tally = d.tally ∧ (d.act a).transfer.moved direction = 0 := by
  have hbusy := direction.mode_ne_idle
  cases a with
  | world => exact absurd hopened hclosed
  | call c =>
    have htaking := taking_take h c
    have htally := (d.take c).1.tally_hand (d.take c).2
    rw [Device.act, toTarget_call] at hopened ⊢
    obtain ⟨hmode, hmoved, -⟩ := moved_hand hopened
    rw [htally, hmoved]
    generalize (d.take c).1 = e at htaking hmode
    generalize (d.take c).2 = offer at htaking
    cases htaking with
    | restart => exact absurd hmode.symm hbusy
    | ignored => exact absurd hmode hclosed
    | received _ hr =>
      cases hr with
      | lost => exact absurd hmode hclosed
      | refused _ _ _ hne => exact absurd (hmode.symm.trans (Transfer.mode_interrupted hne)) hbusy
      | command text reply target events hne _ _ hrun hevents =>
        have houtcome := Command.outcome_dispatch text
          { d.toTarget with transfer := d.transfer.interrupted, events }
        rw [hrun] at houtcome
        exact ⟨houtcome.tally_eq.trans (tally_commanded hevents),
          (houtcome.moved_eq (Transfer.mode_interrupted hne) hmode).1⟩
      | broken => exact absurd hmode.symm hbusy
      | partly => exact absurd hmode hclosed
      | last => exact absurd hmode.symm hbusy
    | sent _ hp =>
      cases hp with
      | stop => exact absurd hmode hclosed
      | broken => exact absurd hmode.symm hbusy
      | chunk => exact absurd ((Transfer.mode_fetched _ _).symm.trans hmode) hclosed
      | last => exact absurd hmode.symm hbusy
      | exit => exact absurd hmode hclosed

/-- A data phase from its start to its end: it is opened by an action, it is under way in all that follow, and
the chunks that they count are all there is. -/
structure Completes (d : Device) (direction : Direction) (first : Action) (actions : List Action)
    (sizes : List Nat) : Prop where
  closed : d.transfer.mode ≠ direction.mode
  opened : (d.act first).transfer.mode = direction.mode
  spans : (d.act first).Spans direction actions
  chunkSizes_eq : (d.act first).chunkSizes direction actions = sizes
  sum_eq : sizes.sum = (d.act first).transfer.total direction

/-- **What is told of a data phase does not depend on its chunks.** Let a download or an upload be opened
behind any run, and carried through by any actions, with chunks of any sizes of at most 128 KiB, and none of
them empty. There is a mark for each 128 KiB of the whole, and each 74th of them ends a line. The counts go up,
chunk by chunk, to the size of the whole. Its end is told of once, with this size, behind all that. -/
theorem progress_run {settings : Settings} {usb : Controller} {board : Board} {first : Action}
    (hbind : bind settings usb board = .ok d) (before : List Action)
    (hphase : (d.run before).Completes direction first actions sizes)
    (hsizes : ∀ size ∈ sizes, 0 < size ∧ size ≤ 131072) :
    ∃ told, (d.run (before ++ first :: actions)).tally =
        (d.run before).tally ++ told ++ [.finished direction sizes.sum] ∧
      told.filterMap Event.mark? =
        (List.range (sizes.sum / 131072)).map (fun k => decide (74 ∣ k + 1)) ∧
      told.filterMap Event.progress? =
        (partialSums sizes).map (fun count => (direction, count, sizes.sum)) ∧
      (partialSums sizes).Pairwise (· < ·) ∧ (partialSums sizes).getLast? = some sizes.sum ∧
      ∀ other bytes, .finished other bytes ∉ told := by
  have hs := (sound_of_bind hbind).run before
  obtain ⟨htally, hmoved⟩ := hs.opened_act hphase.closed hphase.opened
  have hcounts := (hs.act first).counts_run hphase.opened hphase.spans
  have hpos := (hs.act first).moved_lt_total hphase.opened
  rw [hmoved, ← hphase.sum_eq] at hpos
  have hrun := hcounts.tally_eq
  rw [hphase.chunkSizes_eq, hmoved, ← hphase.sum_eq, if_pos (Nat.zero_add _), htally,
    ← List.append_assoc] at hrun
  have hne : sizes ≠ [] := by
    rintro rfl
    exact absurd hpos (Nat.lt_irrefl 0)
  refine ⟨Event.advances direction sizes.sum 0 sizes, ?_, ?_, ?_,
    pairwise_partialSums fun size hsize => (hsizes size hsize).1, getLast?_partialSums hne,
    fun other bytes => Event.finished_notMem_advances _ _ _ _ _ _⟩
  · rw [run_append]
    exact hrun
  · rw [Event.mark?_advances fun size hsize => (hsizes size hsize).2, Nat.zero_div, Nat.zero_add,
      Nat.zero_add, Nat.sub_zero, List.range'_eq_map_range, List.map_map]
    refine List.map_congr_left fun k _ => ?_
    rw [Function.comp_apply, Nat.add_comm 1 k]
    exact decide_eq_decide.mpr Nat.dvd_iff_mod_eq_zero.symm
  · rw [Event.progress?_advances]
    refine List.map_congr_left fun count _ => ?_
    rw [Nat.zero_add]

/-- A download of 128 KiB in one chunk. -/
theorem completes_bare : (bare.run [.call .enable]).Completes .download (asks "download:00020000")
    [.call (.received .completed (zeros 131072))] [131072] := by
  have hopened : let d := (bare.run [.call .enable]).act (asks "download:00020000")
      (d.lifecycle = .enabled ∧ d.transfer.mode = .downloading) ∧
        d.transfer.downloadRemaining.toNat = 131072 := by decide +kernel
  obtain ⟨hready, hremaining⟩ := hopened
  refine ⟨by decide +kernel, hready.2, ⟨hready.2, trivial⟩, ?_, by decide +kernel⟩
  rw [chunkSizes, chunkSizes, chunkSize?, if_pos hready, storable, hremaining, size_zeros]
  rfl

/-- An upload of four bytes in two chunks. -/
theorem completes_tiny : (tiny.run stored).Completes .upload (asks "upload")
    [.call (.sent .completed 12), .call (.sent .completed 1), .call (.sent .completed 3)] [1, 3] :=
  ⟨by decide +kernel, by decide +kernel,
    ⟨by decide +kernel, by decide +kernel, by decide +kernel, trivial⟩,
    by decide +kernel, by decide +kernel⟩

/-- The download is told of by one count and one mark, and the upload by two counts. -/
theorem progress_run_completes :
    (∃ told, told.filterMap Event.mark? = [false] ∧
      told.filterMap Event.progress? = [(.download, 131072, 131072)] ∧
      (bare.run [.call .enable, asks "download:00020000",
        .call (.received .completed (zeros 131072))]).tally = told ++ [.finished .download 131072]) ∧
      ∃ told, told.filterMap Event.mark? = [] ∧
        told.filterMap Event.progress? = [(.upload, 1, 4), (.upload, 4, 4)] ∧
        (tiny.run (stored ++ [asks "upload", .call (.sent .completed 12), .call (.sent .completed 1),
          .call (.sent .completed 3)])).tally =
            (tiny.run stored).tally ++ told ++ [.finished .upload 4] := by
  constructor
  · obtain ⟨told, htally, hmarks, hcounts, -⟩ :=
      progress_run bind_bare [.call .enable] completes_bare (by decide)
    exact ⟨told, hmarks, hcounts, htally⟩
  · obtain ⟨told, htally, hmarks, hcounts, -⟩ :=
      progress_run bind_tiny stored completes_tiny (by decide)
    exact ⟨told, hmarks, hcounts, htally⟩

end Device

end Fastboot
