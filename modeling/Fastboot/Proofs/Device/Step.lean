import Fastboot.Proofs.Buffer.Prefix
import Fastboot.Proofs.Command.Outcome
import Fastboot.Proofs.Transfer.Consistent

/-!
# What a completion can come to

`Reception d data status d' offer` lists the ways in which a device `d` can take an incoming transfer,
and `Progression d actual status d' offer` the ways in which it can go on when a frame has gone out:
each leaves the device as `d'` with a frame to `offer`, or none. `reception_receive` and
`progression_proceed` say that there is no other way.

They hold of devices that are `Sound`: the buffers have the sizes that the settings ask for, the
counters are consistent, a chunk of an upload is due only during one, an action that ends the session
only while the device is idle, and nothing while it is not enabled.
-/

namespace Fastboot.Device

/-- What the next completion leads to, once the frame on offer has been handed over. -/
def upcoming (d : Device) (offer : Option Offer) : Continuation :=
  (offer.map Offer.next).getD d.transfer.next

@[simp]
theorem upcoming_none (d : Device) : d.upcoming none = d.transfer.next := rfl

theorem upcoming_some (d : Device) (o : Offer) : d.upcoming (some o) = o.next := rfl

/-- A device in order, with a frame still to hand over or none. -/
structure Sound (d : Device) (offer : Option Offer) : Prop where
  valid : d.settings.Valid
  capacity_staging : d.staging.capacity = d.settings.stagingCapacity
  inbound : d.lifecycle = .enabled →
    ∃ b, d.inbound = some b ∧ b.capacity = d.settings.bufferSize
  consistent : d.transfer.Consistent d.settings.stagingCapacity
  mode_eq : d.upcoming offer = .uploadChunk → d.transfer.mode = .uploading
  idle_eq (action : Exit) : d.upcoming offer = .exit action → d.transfer.mode = .idle
  upcoming_eq : d.lifecycle ≠ .enabled → d.upcoming offer = .done

/-! ### What the parts of a completion change -/

section Parts

variable (d : Device)

theorem endUpload_eq : d.endUpload =
    { d with transfer := d.transfer.interrupted, events := d.endUpload.events } := by
  unfold endUpload Transfer.interrupted
  split
  · exact d.transition_eq _
  · rfl

theorem progress_eq (t : Target) (direction : Direction) (old new total : UInt32) :
    t.progress direction old new total =
      { t with events := (t.progress direction old new total).events } := by
  unfold Target.progress
  dsimp only
  split <;> rfl

theorem countDownload_eq (count : Nat) : d.countDownload count =
    { d with transfer := d.transfer.stored count, events := (d.countDownload count).events } := by
  have h := progress_eq { d.toTarget with transfer := d.transfer.stored count } .download
    d.transfer.downloadBytes (d.transfer.stored count).downloadBytes d.transfer.downloadSize
  exact congrArg (fun t => { d with toTarget := t }) h

theorem countUpload_eq (actual : Nat) : d.countUpload actual =
    { d with transfer := d.transfer.fetched actual, events := (d.countUpload actual).events } := by
  unfold countUpload Transfer.fetched
  split
  · rename_i hstart
    have h := progress_eq { d.toTarget with transfer := d.transfer.fetched actual } .upload
      d.transfer.uploadBytes (d.transfer.fetched actual).uploadBytes d.transfer.uploadSize
    rw [Transfer.fetched, if_pos hstart] at h
    exact congrArg (fun t => { d with toTarget := t }) h
  · rfl

/-- The device as it is when the queued frame has completed. -/
def settle : Device :=
  { d with transfer := d.transfer.settled }

end Parts

/-! ### Incoming transfers -/

/-- The ways to take an incoming transfer: the device and the frame on offer afterwards. -/
inductive Reception (d : Device) (data : ByteArray) :
    TransferStatus → Device → Option Offer → Prop where
  /-- A command that did not arrive. -/
  | lost (code : Int) (hmode : d.transfer.mode ≠ .downloading) :
      Reception d data (.failed code) d none
  /-- A command that is too long, or no text. -/
  | refused (fault : Fault) (inbound : Buffer) (events : Array Event)
      (hmode : d.transfer.mode ≠ .downloading)
      (hinbound : inbound.capacity = d.settings.bufferSize)
      (htext : d.settings.bufferSize ≤ data.size ∨ commandText? data = none)
      (hevents : events = d.endUpload.events) :
      Reception d data .completed
        { d with inbound := some inbound, transfer := d.transfer.interrupted, events }
        (some (.reply (.ofFault fault)))
  /-- A command that is carried out. -/
  | command (text : String) (reply : Reply) (target : Target) (events : Array Event)
      (hmode : d.transfer.mode ≠ .downloading) (hsize : data.size < d.settings.bufferSize)
      (htext : commandText? data = some text)
      (hrun : Command.dispatch text { d.toTarget with transfer := d.transfer.interrupted, events } =
        (reply, target))
      (hevents : events = (d.endUpload.toTarget.emit (.command text)).events) :
      Reception d data .completed
        { d with toTarget := target, inbound := some (.empty d.settings.bufferSize) }
        (some (.reply reply))
  /-- A download that breaks off. -/
  | broken (code : Int) (events : Array Event) (hmode : d.transfer.mode = .downloading)
      (hevents : events = (d.transition .abortDownload).events) :
      Reception d data (.failed code)
        { d with transfer := d.transfer.abortDownload, events }
        (some (.reply (.ofFault (.transferFailed code))))
  /-- A chunk of a download that leaves something to come. -/
  | partly (staging : Buffer) (events : Array Event) (hmode : d.transfer.mode = .downloading)
      (hstaging : d.staging.writeAt d.transfer.downloadBytes.toNat data = .ok staging)
      (hlt : d.transfer.downloadBytes.toNat + data.size < d.transfer.downloadSize.toNat)
      (hevents : events = ({ d with staging }.countDownload data.size).events) :
      Reception d data .completed
        { d with staging, transfer := d.transfer.stored data.size, events } none
  /-- The last chunk of a download. What goes beyond the announced size is not stored. -/
  | last (count : Nat) (staging : Buffer) (events : Array Event)
      (hmode : d.transfer.mode = .downloading) (hcount : count ≤ data.size)
      (hstaging : d.staging.writeAt d.transfer.downloadBytes.toNat (data.extract 0 count) =
        .ok staging)
      (hsize : d.transfer.downloadBytes.toNat + count = d.transfer.downloadSize.toNat)
      (hevents : events = ((({ d with staging }.countDownload count).onTarget
        (·.emit (.finished .download d.transfer.downloadSize.toNat))).transition
          .finishDownload).events) :
      Reception d data .completed
        { d with staging, transfer := (d.transfer.stored count).finishDownload, events }
        (some (.reply .okay))

section Receive

variable {d : Device} {data : ByteArray} {status : TransferStatus}

theorem reception_receiveCommand (h : d.Sound none) (henabled : d.lifecycle = .enabled)
    (hmode : d.transfer.mode ≠ .downloading) :
    Reception d data status (d.receiveCommand status data).1 (d.receiveCommand status data).2 := by
  cases status with
  | failed code => exact .lost code hmode
  | completed =>
    obtain ⟨b, hb, hcapacity⟩ := h.inbound henabled
    have hend := d.endUpload_eq
    have hsettings : d.endUpload.settings = d.settings := by rw [hend]
    have hinbound : d.endUpload.inbound = some b := by rw [hend]; exact hb
    simp only [receiveCommand, hsettings]
    split
    · rename_i hlong
      rw [hend, show d.inbound = some b from hb]
      exact .refused (.malformed "buffer overflow") b _ hmode hcapacity (.inl hlong) rfl
    · rename_i hlong
      have hsize : data.size < d.settings.bufferSize := Nat.lt_of_not_le hlong
      obtain ⟨b', hb', htake, hkept⟩ :=
        Buffer.exists_writeAt_zero (hcapacity.symm ▸ Nat.le_of_lt hsize : data.size ≤ b.capacity)
      simp only [receiveInbound, hinbound, hb', htake, runCommand, hkept, hcapacity]
      split
      · rename_i htext
        rw [hend]
        exact .refused (.malformed "invalid command") (.empty d.settings.bufferSize) _ hmode rfl
          (.inr htext) rfl
      · rename_i text htext
        rw [hend]
        exact .command text _ _ _ hmode hsize htext rfl rfl

theorem reception_receiveData (h : d.Sound none) (hmode : d.transfer.mode = .downloading) :
    Reception d data status (d.receiveData status data).1 (d.receiveData status data).2 := by
  cases status with
  | failed code =>
    rw [receiveData, failDownload, transition_eq]
    exact .broken code _ hmode rfl
  | completed =>
    have hlt := h.consistent.downloadBytes_lt hmode
    have hsize := h.consistent.downloadSize_le hmode
    have hcap := h.valid.stagingCapacity_lt
    have hremaining := d.transfer.toNat_downloadRemaining
    -- what goes beyond the announced size is cut off before anything is stored
    obtain ⟨count, hcount⟩ : ∃ count, count = min data.size d.transfer.downloadRemaining.toNat :=
      ⟨_, rfl⟩
    have hle : d.transfer.downloadBytes.toNat + count ≤ d.transfer.downloadSize.toNat := by omega
    have hextract : (data.extract 0 count).size = count := by
      rw [ByteArray.size_extract]
      omega
    simp only [receiveData, ← hcount]
    rcases hstage : d.toTarget.stage d.transfer.downloadBytes.toNat (data.extract 0 count) with
      ⟨range | ⟨⟩, target⟩
    · -- the announced size fits the staging buffer, so every chunk does
      have hrange := Buffer.writeAt_eq_error_iff.mp (Target.stage_eq_error_iff.mp hstage).1
      have hcapacity := h.capacity_staging
      omega
    · obtain ⟨staging, hstaging, rfl⟩ := Target.stage_eq_ok_iff.mp hstage
      have hstored := h.consistent.toNat_stored hcap hmode hle
      have hcounted := ({ d with staging } : Device).countDownload_eq count
      have htransfer : (({ d with staging } : Device).countDownload count).transfer =
          d.transfer.stored count := by rw [hcounted]
      have hleft := (d.transfer.stored count).toNat_downloadRemaining
      have hsame : (d.transfer.stored count).downloadSize = d.transfer.downloadSize := rfl
      simp only [closeDownload, htransfer]
      split
      · rename_i hzero
        have hfull : d.transfer.downloadBytes.toNat + count = d.transfer.downloadSize.toNat := by
          rw [hzero, hsame] at hleft
          simp only [UInt32.toNat_zero] at hleft
          omega
        rw [hstored, hfull, transition_eq, hcounted]
        exact .last count staging _ hmode (by omega) hstaging hfull (by rw [← hcounted])
      · rename_i hmore
        have hne : (d.transfer.stored count).downloadRemaining.toNat ≠ 0 :=
          fun hz => hmore (UInt32.toNat_inj.mp hz)
        have hrest : d.transfer.downloadBytes.toNat + count < d.transfer.downloadSize.toNat := by
          rw [hsame] at hleft
          omega
        obtain rfl : count = data.size := by omega
        rw [ByteArray.extract_zero_size] at hstaging
        rw [hcounted]
        exact .partly staging _ hmode hstaging hrest rfl

/-- **How a transfer is taken.** There is no way other than the six. -/
theorem reception_receive (h : d.Sound none) (henabled : d.lifecycle = .enabled)
    (status : TransferStatus) (data : ByteArray) :
    Reception d data status (d.receive status data).1 (d.receive status data).2 := by
  unfold receive
  split
  · rename_i hmode
    exact reception_receiveData h hmode
  · rename_i hmode
    exact reception_receiveCommand h henabled (by simp [hmode])
  · rename_i hmode
    exact reception_receiveCommand h henabled (by simp [hmode])

end Receive

/-! ### Outgoing transfers -/

/-- The ways to go on when a frame with `actual` bytes has gone out: the device and the frame on offer
afterwards. -/
inductive Progression (d : Device) (actual : Nat) :
    TransferStatus → Device → Option Offer → Prop where
  /-- A frame that nothing follows, or that did not get through. -/
  | stop (status : TransferStatus)
      (hnext : d.transfer.next = .done ∨ status ≠ .completed ∧ d.transfer.next ≠ .uploadChunk) :
      Progression d actual status d.settle none
  /-- An upload that breaks off. -/
  | broken (code : Int) (events : Array Event) (hnext : d.transfer.next = .uploadChunk)
      (hevents : events = (d.settle.transition .finishUpload).events) :
      Progression d actual (.failed code)
        { d with transfer := d.transfer.settled.finishUpload, events }
        (some (.reply (.ofFault (.transferFailed code))))
  /-- The next chunk of an upload. -/
  | chunk (data : ByteArray) (events : Array Event) (hnext : d.transfer.next = .uploadChunk)
      (hremaining : (d.transfer.fetched actual).uploadRemaining.toNat ≠ 0)
      (hdata : d.staging.read (d.transfer.fetched actual).uploadBytes.toNat
        (min (d.transfer.fetched actual).uploadRemaining.toNat d.settings.bufferSize) = .ok data)
      (hevents : events = (d.settle.countUpload actual).events) :
      Progression d actual .completed
        { d with transfer := (d.transfer.fetched actual).settled, events } (some (.chunk data))
  /-- The end of an upload. -/
  | last (events : Array Event) (hnext : d.transfer.next = .uploadChunk)
      (hremaining : (d.transfer.fetched actual).uploadRemaining.toNat = 0)
      (hevents : events = (((d.settle.countUpload actual).onTarget (·.emit
        (.finished .upload (d.transfer.fetched actual).uploadBytes.toNat))).transition
          .finishUpload).events) :
      Progression d actual .completed
        { d with transfer := (d.transfer.fetched actual).settled.finishUpload, events }
        (some (.reply .okay))
  /-- The action that the frame has acknowledged. -/
  | exit (action : Exit) (hnext : d.transfer.next = .exit action) :
      Progression d actual .completed (d.settle.runExit action) none

/-- **How a completion goes on.** There is no way other than the five. -/
theorem progression_proceed {d : Device} (h : d.Sound none) (status : TransferStatus)
    (actual : Nat) :
    Progression d actual status (d.proceed status actual).1 (d.proceed status actual).2 := by
  cases hnext : d.transfer.next with
  | done =>
    have hproceed : d.proceed status actual = (d.settle, none) := by
      cases status <;> simp only [proceed, hnext] <;> rfl
    rw [hproceed]
    exact .stop status (.inl hnext)
  | exit action =>
    cases status with
    | failed code =>
      simp only [proceed, hnext]
      exact .stop (.failed code) (.inr ⟨nofun, by simp [hnext]⟩)
    | completed =>
      simp only [proceed, hnext]
      exact .exit action hnext
  | uploadChunk =>
    cases status with
    | failed code =>
      simp only [proceed, hnext]
      rw [transition_eq]
      exact .broken code _ hnext rfl
    | completed =>
      have hcounted : d.settle.countUpload actual =
          { d with
            transfer := (d.transfer.fetched actual).settled
            events := (d.settle.countUpload actual).events } := by
        have h := d.settle.countUpload_eq actual
        rwa [show d.settle.transfer = d.transfer.settled from rfl, Transfer.fetched_settled] at h
      have hproceed : d.proceed .completed actual = (d.settle.countUpload actual).sendUpload := by
        simp only [proceed, hnext]
        rfl
      have htransfer : (d.settle.countUpload actual).transfer =
          (d.transfer.fetched actual).settled := by rw [hcounted]
      have hstaging : (d.settle.countUpload actual).staging = d.staging := by rw [hcounted]
      have hsettings : (d.settle.countUpload actual).settings = d.settings := by rw [hcounted]
      rw [hproceed]
      simp only [sendUpload, htransfer, hstaging, hsettings, Transfer.uploadBytes_settled,
        Transfer.uploadRemaining_settled]
      split
      · rename_i hzero
        rw [transition_eq, hcounted]
        exact .last _ hnext hzero (by rw [← hcounted])
      · rename_i hmore
        split
        · rename_i data hdata
          rw [hcounted]
          exact .chunk data _ hnext hmore hdata rfl
        · rename_i range hrange
          -- what is left of the upload lies within the staging buffer
          have hover := Buffer.read_eq_error_iff.mp hrange
          have hleft := (d.transfer.fetched actual).toNat_uploadRemaining
          have hsize := (h.consistent.fetched h.valid.stagingCapacity_lt (h.mode_eq hnext)
            hmore).uploadSize_le
          have hcapacity := h.capacity_staging
          omega

end Fastboot.Device
