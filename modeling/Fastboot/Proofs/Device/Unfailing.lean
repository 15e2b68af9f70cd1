import Fastboot.Proofs.Command.Fault
import Fastboot.Proofs.Device.Answer
import Fastboot.Proofs.Device.Milestone

/-!
# Failures that do not happen

A device checks much that cannot go wrong: that it has a buffer for a command, that a chunk lies within
the staging buffer, that the download can be read, that a refusal fits a frame. `d.Unfailing` says that
none of these checks fails where the device `d` makes it, and that the counters of a data phase do not
overflow.

`d.fault? c` is the fault that a call comes to. That the staging buffer is too small for what is to be
put there or read from it is a fault of one call only, and for one reason: a request to the certificate
authority is longer than the buffer. `unfailing_run` is both, for every run of a device with valid
settings.
-/

namespace Fastboot.Device

variable {d d' : Device} {c : Call} {data : ByteArray} {actual : Nat} {status : TransferStatus}
  {offer : Option Offer} {range : RangeError}

/-! ### The fault of a call -/

/-- The fault of a transfer that is taken as a command. -/
def commandFault? (d : Device) (data : ByteArray) : Option Fault :=
  if d.settings.bufferSize ≤ data.size then some (.malformed "buffer overflow")
  else match commandText? data with
    | none => some (.malformed "invalid command")
    | some text => Command.fault? text (d.endUpload.toTarget.emit (.command text))

/-- How much of a chunk of a download `receiveData` stores: no more than was announced. -/
def storable (d : Device) (data : ByteArray) : Nat :=
  min data.size d.transfer.downloadRemaining.toNat

/-- The fault of a chunk of a download. -/
def storeFault? (d : Device) (data : ByteArray) : Option Fault :=
  Fault.of? <| Except.mapError .staging
    (d.toTarget.stage d.transfer.downloadBytes.toNat (data.extract 0 (d.storable data))).1

/-- The next chunk of an upload, as `sendUpload` reads it from the staging buffer. -/
def nextChunk (d : Device) : Except RangeError ByteArray :=
  d.staging.read d.transfer.uploadBytes.toNat
    (min d.transfer.uploadRemaining.toNat d.settings.bufferSize)

/-- The fault of an upload that goes on. -/
def fetchFault? (d : Device) (actual : Nat) : Option Fault :=
  if (d.settle.countUpload actual).transfer.uploadRemaining.toNat = 0 then none
  else Fault.of? ((d.settle.countUpload actual).nextChunk.mapError .staging)

/-- The fault of a transfer that comes in. -/
def receivedFault? (d : Device) (data : ByteArray) : TransferStatus → Option Fault
  | .failed code => if d.transfer.mode = .downloading then some (.transferFailed code) else none
  | .completed =>
    if d.transfer.mode = .downloading then d.storeFault? data else d.commandFault? data

/-- The fault of a frame that goes out. -/
def sentFault? (d : Device) (actual : Nat) : TransferStatus → Option Fault
  | .failed code => if d.transfer.next = .uploadChunk then some (.transferFailed code) else none
  | .completed => if d.transfer.next = .uploadChunk then d.fetchFault? actual else none

/-- The fault that a call comes to, if it comes to one. -/
def fault? (d : Device) : Call → Option Fault
  | .enable => none
  | .disable => none
  | .received status data =>
    if d.lifecycle = .enabled then d.receivedFault? data status else none
  | .sent status actual => if d.lifecycle = .enabled then d.sentFault? actual status else none

/-- What is offered to the host tells of the fault: a `FAIL` with its message, and no `FAIL` without
one. -/
def Reports (fault : Option Fault) (offer : Option Offer) : Prop :=
  match fault with
  | some fault => ∃ next, offer = some (.reply ⟨.fail fault.message, next⟩)
  | none => ∀ reply, offer = some (.reply reply) → reply.response.isFail = false

theorem reports_none : Reports none none := by
  intro reply h
  cases h

theorem reports_chunk (data : ByteArray) : Reports none (some (.chunk data)) := by
  intro reply h
  cases h

theorem reports_okay : Reports none (some (.reply .okay)) := by
  intro reply h
  cases h
  rfl

/-! ### Checks that do not fail -/

/-- No check of a device fails that it makes of itself, and no counter of its data phases overflows. -/
structure Unfailing (d : Device) : Prop where
  /-- A command that is not too long goes into the inbound buffer, and comes out of it. -/
  inbound (henabled : d.lifecycle = .enabled) : ∃ b, d.inbound = some b ∧
    ∀ data : ByteArray, data.size < d.settings.bufferSize →
      ∃ b', b.writeAt 0 data = .ok b' ∧ b'.take data.size = .ok data
  stored (hmode : d.transfer.mode = .downloading) (data : ByteArray) :
    ∃ target, d.toTarget.stage d.transfer.downloadBytes.toNat (data.extract 0 (d.storable data)) =
      (.ok (), target)
  downloadBytes_eq (hmode : d.transfer.mode = .downloading) (data : ByteArray) :
    (d.countDownload (d.storable data)).transfer.downloadBytes.toNat =
      d.transfer.downloadBytes.toNat + d.storable data
  fetched (hnext : d.transfer.next = .uploadChunk) (actual : Nat) :
    ∃ chunk, (d.settle.countUpload actual).nextChunk = .ok chunk
  uploadBytes_eq (actual : Nat) (hstart : d.transfer.startUpload = true) :
    (d.settle.countUpload actual).transfer.uploadBytes.toNat =
      d.transfer.uploadBytes.toNat + min actual d.transfer.uploadRemaining.toNat
  image : d.staging.take d.transfer.downloadBytes.toNat = .ok d.bootImage
  downloaded {c : Call} {text : String} {t : Target} (h : d.dispatched? c = some (text, t)) :
    ∃ payload, t.downloaded = .ok payload
  /-- A response that does not fit a frame has a replacement that does. -/
  fallback (reply : Reply) (hlong : ∃ e, reply.response.frame = .error e) :
    ∃ frame, (Response.fail Fault.responseTooLong.message).frame = .ok frame ∧
      d.sendReply reply = d.queueResponse (.fail Fault.responseTooLong.message) .done frame

theorem transfer_settle_countUpload (d : Device) (actual : Nat) :
    (d.settle.countUpload actual).transfer = (d.transfer.fetched actual).settled := by
  rw [countUpload_eq]
  exact d.transfer.fetched_settled actual

/-- A response that does not fit a frame is replaced by one that does. -/
theorem sendReply_of_error (d : Device) (reply : Reply)
    (hlong : ∃ e, reply.response.frame = .error e) :
    ∃ frame, (Response.fail Fault.responseTooLong.message).frame = .ok frame ∧
      d.sendReply reply = d.queueResponse (.fail Fault.responseTooLong.message) .done frame := by
  obtain ⟨e, he⟩ := hlong
  have hframe : (Response.fail Fault.responseTooLong.message).frame =
      .ok ⟨(Response.fail Fault.responseTooLong.message).text, by decide⟩ :=
    Response.frame_eq_ok_iff.mpr rfl
  refine ⟨_, hframe, ?_⟩
  rw [sendReply, he]
  dsimp only
  rw [hframe]

section Sound

variable (h : d.Sound none)
include h

theorem Sound.exists_inbound (henabled : d.lifecycle = .enabled) : ∃ b, d.inbound = some b ∧
    ∀ data : ByteArray, data.size < d.settings.bufferSize →
      ∃ b', b.writeAt 0 data = .ok b' ∧ b'.take data.size = .ok data := by
  obtain ⟨b, hb, hcapacity⟩ := h.inbound henabled
  refine ⟨b, hb, fun data hsize => ?_⟩
  obtain ⟨b', hwrite, htake, -⟩ :=
    Buffer.exists_writeAt_zero (hcapacity.symm ▸ Nat.le_of_lt hsize : data.size ≤ b.capacity)
  exact ⟨b', hwrite, htake⟩

/-- No more is stored than was announced. -/
theorem Sound.downloadBytes_add_storable_le (hmode : d.transfer.mode = .downloading)
    (data : ByteArray) :
    d.transfer.downloadBytes.toNat + d.storable data ≤ d.transfer.downloadSize.toNat := by
  have hlt := h.consistent.downloadBytes_lt hmode
  have hremaining := d.transfer.toNat_downloadRemaining
  unfold storable
  omega

theorem Sound.exists_stage (hmode : d.transfer.mode = .downloading) (data : ByteArray) :
    ∃ target, d.toTarget.stage d.transfer.downloadBytes.toNat (data.extract 0 (d.storable data)) =
      (.ok (), target) := by
  have hle := h.downloadBytes_add_storable_le hmode data
  have hsize := h.consistent.downloadSize_le hmode
  have hcapacity := h.capacity_staging
  have hextract : (data.extract 0 (d.storable data)).size ≤ d.storable data := by
    rw [ByteArray.size_extract]
    omega
  obtain ⟨staging, hstaging⟩ := Buffer.exists_writeAt_eq_ok_iff.mpr
    (show d.transfer.downloadBytes.toNat + (data.extract 0 (d.storable data)).size ≤
      d.staging.capacity by omega)
  exact ⟨_, Target.stage_eq_ok_iff.mpr ⟨staging, hstaging, rfl⟩⟩

theorem Sound.toNat_countDownload (hmode : d.transfer.mode = .downloading) (data : ByteArray) :
    (d.countDownload (d.storable data)).transfer.downloadBytes.toNat =
      d.transfer.downloadBytes.toNat + d.storable data := by
  rw [countDownload_eq]
  exact h.consistent.toNat_stored h.valid.stagingCapacity_lt hmode
    (h.downloadBytes_add_storable_le hmode data)

theorem Sound.exists_nextChunk (actual : Nat) :
    ∃ chunk, (d.settle.countUpload actual).nextChunk = .ok chunk := by
  have hle := h.consistent.fetched_le h.valid.stagingCapacity_lt actual
  have hremaining := (d.transfer.fetched actual).toNat_uploadRemaining
  have hsize := h.consistent.uploadSize_le
  have hcapacity := h.capacity_staging
  have hstaging : (d.settle.countUpload actual).staging = d.staging := by rw [countUpload_eq]; rfl
  rw [Transfer.uploadSize_fetched] at hle hremaining
  unfold nextChunk
  rw [transfer_settle_countUpload, hstaging, Transfer.uploadBytes_settled,
    Transfer.uploadRemaining_settled]
  exact Buffer.exists_read_eq_ok (by omega)

theorem Sound.toNat_countUpload (actual : Nat) (hstart : d.transfer.startUpload = true) :
    (d.settle.countUpload actual).transfer.uploadBytes.toNat =
      d.transfer.uploadBytes.toNat + min actual d.transfer.uploadRemaining.toNat := by
  have hbytes := h.consistent.uploadBytes_le
  have hsize := h.consistent.uploadSize_le
  have hcap := h.valid.stagingCapacity_lt
  have hremaining := d.transfer.toNat_uploadRemaining
  rw [transfer_settle_countUpload, Transfer.uploadBytes_settled, Transfer.fetched, if_pos hstart]
  exact Transfer.toNat_add_ofNat (by omega)

/-- The last download can be read as long as its count stands. -/
theorem Sound.exists_take : ∃ payload,
    d.staging.take d.transfer.downloadBytes.toNat = .ok payload := by
  have hbytes := h.consistent.downloadBytes_le
  have hcapacity := h.capacity_staging
  exact Buffer.exists_read_eq_ok (by omega)

theorem Sound.exists_downloaded {text : String} {t : Target}
    (hdispatched : d.dispatched? c = some (text, t)) : ∃ payload, t.downloaded = .ok payload := by
  obtain ⟨payload, htake⟩ := h.exists_take
  obtain ⟨data, events, -, rfl, -⟩ := h.exists_of_dispatched? hdispatched
  refine ⟨payload, Command.mapError_eq_ok_iff.mpr ?_⟩
  rw [Transfer.downloadBytes_interrupted]
  exact htake

end Sound

/-- A sound device passes its own checks. -/
theorem Sound.unfailing (h : d.Sound none) : d.Unfailing where
  inbound := h.exists_inbound
  stored := h.exists_stage
  downloadBytes_eq := h.toNat_countDownload
  fetched _ := h.exists_nextChunk
  uploadBytes_eq := h.toNat_countUpload
  image := by
    obtain ⟨payload, htake⟩ := h.exists_take
    rw [bootImage, htake]
  downloaded := h.exists_downloaded
  fallback := d.sendReply_of_error

/-! ### Faults and what is offered -/

theorem Unfailing.storeFault?_eq_none (hu : d.Unfailing) (hmode : d.transfer.mode = .downloading)
    (data : ByteArray) : d.storeFault? data = none := by
  obtain ⟨target, hstage⟩ := hu.stored hmode data
  rw [storeFault?, hstage]
  rfl

theorem Unfailing.fetchFault?_eq_none (hu : d.Unfailing) (hnext : d.transfer.next = .uploadChunk)
    (actual : Nat) : d.fetchFault? actual = none := by
  obtain ⟨chunk, hchunk⟩ := hu.fetched hnext actual
  rw [fetchFault?, hchunk]
  split_ifs <;> rfl

/-- The answer to a command tells of its fault. -/
theorem answer_commandFault? (d : Device) (data : ByteArray) :
    match d.commandFault? data with
    | some fault => d.answer data = .fail fault.message
    | none => (d.answer data).isFail = false := by
  rw [commandFault?, answer]
  split_ifs with hlong
  · rfl
  cases commandText? data with
  | none => rfl
  | some text =>
    have hanswers := Command.answers_fault? text (d.endUpload.toTarget.emit (.command text))
    dsimp only
    cases hfault : Command.fault? text (d.endUpload.toTarget.emit (.command text)) with
    | none =>
      rw [hfault] at hanswers
      exact hanswers
    | some fault =>
      rw [hfault] at hanswers
      exact congrArg Reply.response hanswers

/-- A command that comes in is answered, and the answer tells of its fault. -/
theorem Sound.reports_commandFault? (h : d.Sound none) (henabled : d.lifecycle = .enabled)
    (hmode : d.transfer.mode ≠ .downloading) (data : ByteArray) :
    Reports (d.commandFault? data) (d.offer? (.received .completed data)) := by
  obtain ⟨⟨response, next⟩, hoffer, rfl⟩ := h.exists_reply henabled hmode data
  have hanswer := d.answer_commandFault? data
  rw [hoffer]
  cases hfault : d.commandFault? data with
  | none =>
    rw [hfault] at hanswer
    rintro reply ⟨⟩
    exact hanswer
  | some fault =>
    rw [hfault] at hanswer
    exact ⟨next, by rw [hanswer]⟩

theorem Sound.reports_received (h : d.Sound none) (henabled : d.lifecycle = .enabled)
    (status : TransferStatus) (data : ByteArray) :
    Reports (d.receivedFault? data status) (d.offer? (.received status data)) := by
  obtain ⟨d', offer, hr, hoffer, -⟩ := h.exists_reception henabled status data
  by_cases hmode : d.transfer.mode = .downloading
  · have hnone := h.unfailing.storeFault?_eq_none hmode data
    rw [hoffer]
    cases hr with
    | lost _ hother => exact absurd hmode hother
    | refused _ _ _ hother => exact absurd hmode hother
    | command _ _ _ _ hother => exact absurd hmode hother
    | broken code =>
      rw [receivedFault?, if_pos hmode]
      exact ⟨.done, rfl⟩
    | partly =>
      rw [receivedFault?, if_pos hmode, hnone]
      exact reports_none
    | last =>
      rw [receivedFault?, if_pos hmode, hnone]
      exact reports_okay
  · cases status with
    | completed =>
      rw [receivedFault?, if_neg hmode]
      exact h.reports_commandFault? henabled hmode data
    | failed code =>
      rw [receivedFault?, if_neg hmode, hoffer]
      cases hr with
      | lost => exact reports_none
      | broken _ _ hdown => exact absurd hdown hmode

/-- A frame that goes out leads to a fault only if the upload that it belongs to has broken off. -/
theorem Unfailing.reports_sent (hu : d.Unfailing) (hp : Progression d actual status d' offer) :
    Reports (d.sentFault? actual status) offer := by
  cases hp with
  | stop status hstop =>
    have hnone : d.sentFault? actual status = none := by
      cases status with
      | failed code =>
        refine if_neg fun hnext => ?_
        rcases hstop with hdone | ⟨-, hother⟩
        · cases hdone.symm.trans hnext
        · exact hother hnext
      | completed =>
        refine if_neg fun hnext => ?_
        rcases hstop with hdone | ⟨hother, -⟩
        · cases hdone.symm.trans hnext
        · exact hother rfl
    rw [hnone]
    exact reports_none
  | broken code _ hnext =>
    rw [sentFault?, if_pos hnext]
    exact ⟨.done, rfl⟩
  | chunk data _ hnext =>
    rw [sentFault?, if_pos hnext, hu.fetchFault?_eq_none hnext actual]
    exact reports_chunk data
  | last _ hnext =>
    rw [sentFault?, if_pos hnext, hu.fetchFault?_eq_none hnext actual]
    exact reports_okay
  | exit action hnext =>
    rw [sentFault?, if_neg (by simp [hnext])]
    exact reports_none

/-- **What a call offers tells of its fault.** -/
theorem Sound.reports_fault? (h : d.Sound none) (c : Call) : Reports (d.fault? c) (d.offer? c) := by
  cases c with
  | enable => exact reports_none
  | disable => exact reports_none
  | received status data =>
    by_cases henabled : d.lifecycle = .enabled
    · rw [fault?, if_pos henabled]
      exact h.reports_received henabled status data
    · rw [fault?, if_neg henabled, offer?, take, if_neg henabled]
      exact reports_none
  | sent status actual =>
    by_cases henabled : d.lifecycle = .enabled
    · rw [fault?, if_pos henabled, offer?, take, if_pos henabled]
      exact h.unfailing.reports_sent (progression_proceed h status actual)
    · rw [fault?, if_neg henabled, offer?, take, if_neg henabled]
      exact reports_none

/-! ### The one fault for a range -/

/-- A call that carries out a command comes to the fault of the command. -/
theorem fault?_of_dispatched? {text : String} {t : Target} (h : d.dispatched? c = some (text, t)) :
    d.fault? c = Command.fault? text t := by
  rcases c with _ | _ | ⟨_ | code, data⟩ | ⟨status, actual⟩
  · cases h
  · cases h
  · rw [dispatched?] at h
    split_ifs at h with hcond
    obtain ⟨henabled, hmode, hsize⟩ := hcond
    obtain ⟨text', htext, htarget⟩ := Option.map_eq_some_iff.mp h
    cases htarget
    rw [fault?, if_pos henabled, receivedFault?, if_neg hmode, commandFault?,
      if_neg (Nat.not_le_of_lt hsize), htext]
  · cases h
  · cases h

/-- Going on reads no range that is not there. -/
theorem Unfailing.sentFault?_ne (hu : d.Unfailing) :
    d.sentFault? actual status ≠ some (.staging range) := by
  intro h
  cases status with
  | failed code =>
    rw [sentFault?] at h
    split_ifs at h
    cases h
  | completed =>
    rw [sentFault?] at h
    split_ifs at h with hnext
    cases (hu.fetchFault?_eq_none hnext actual).symm.trans h

/-- A range can be at fault only once there is a command to carry out. -/
theorem exists_text_of_commandFault? (h : d.commandFault? data = some (.staging range)) :
    data.size < d.settings.bufferSize ∧ ∃ text, commandText? data = some text := by
  rw [commandFault?] at h
  split_ifs at h with hlong
  · cases h
  cases htext : commandText? data with
  | none =>
    rw [htext] at h
    cases h
  | some text => exact ⟨Nat.lt_of_not_le hlong, text, rfl⟩

/-- A fault for a range is that of a command. -/
theorem Unfailing.exists_dispatched (hu : d.Unfailing)
    (h : d.fault? c = some (.staging range)) : ∃ text t, d.dispatched? c = some (text, t) := by
  cases c with
  | enable => cases h
  | disable => cases h
  | sent status actual =>
    rw [fault?] at h
    split_ifs at h
    exact absurd h hu.sentFault?_ne
  | received status data =>
    rw [fault?] at h
    split_ifs at h with henabled
    by_cases hmode : d.transfer.mode = .downloading
    · cases status with
      | failed code =>
        rw [receivedFault?, if_pos hmode] at h
        cases h
      | completed =>
        rw [receivedFault?, if_pos hmode, hu.storeFault?_eq_none hmode] at h
        cases h
    · cases status with
      | failed code =>
        rw [receivedFault?, if_neg hmode] at h
        cases h
      | completed =>
        rw [receivedFault?, if_neg hmode] at h
        obtain ⟨hsize, text, htext⟩ := exists_text_of_commandFault? h
        exact ⟨text, _, dispatched?_eq henabled hmode hsize htext rfl⟩

/-- The call asks for a request to the certificate authority that is longer than the staging buffer. -/
def Overasks (d : Device) (c : Call) (range : RangeError) : Prop :=
  ∃ text t, d.dispatched? c = some (text, t) ∧ Command.AsksCa text ∧ Command.Oversized t range

theorem Unfailing.fault?_eq_staging_iff (hu : d.Unfailing) (c : Call) (range : RangeError) :
    d.fault? c = some (.staging range) ↔ d.Overasks c range := by
  have hcommand : ∀ {text t}, d.dispatched? c = some (text, t) →
      (d.fault? c = some (.staging range) ↔
        Command.AsksCa text ∧ Command.Oversized t range) := by
    intro text t hdispatched
    obtain ⟨payload, hdownloaded⟩ := hu.downloaded hdispatched
    rw [fault?_of_dispatched? hdispatched]
    exact Command.fault?_eq_staging_iff (Command.inBounds_downloaded hdownloaded)
  constructor
  · intro h
    obtain ⟨text, t, hdispatched⟩ := hu.exists_dispatched h
    exact ⟨text, t, hdispatched, (hcommand hdispatched).mp h⟩
  · rintro ⟨text, t, hdispatched, hover⟩
    exact (hcommand hdispatched).mpr hover

/-- **What does not fail.** Valid settings have a device, and after every run of it none of its checks of
itself fails and no counter overflows. A call comes to a fault for a range of the staging buffer exactly
if it asks for a request to the certificate authority that is longer than the buffer. -/
theorem unfailing_run {settings : Settings} (hvalid : settings.Valid) (usb : Controller)
    (board : Board) : ∃ d, bind settings usb board = .ok d ∧
      ∀ actions, (d.run actions).Unfailing ∧
        ∀ c, Reports ((d.run actions).fault? c) ((d.run actions).offer? c) ∧
          ∀ range, (d.run actions).fault? c = some (.staging range) ↔
            (d.run actions).Overasks c range := by
  have hbind : bind settings usb board = .ok { toTarget := .start settings board, usb } :=
    bind_eq_ok_iff.mpr ⟨hvalid, rfl⟩
  refine ⟨_, hbind, fun actions => ?_⟩
  have hs := (sound_of_bind hbind).run actions
  exact ⟨hs.unfailing, fun c => ⟨hs.reports_fault? c, hs.unfailing.fault?_eq_staging_iff c⟩⟩

/-- Settings with a staging buffer of a few bytes. -/
def narrow : Settings where
  stagingCapacity := 8
  bufferSize := 512

/-- A session in which a download fills the staging buffer. -/
def filling : List Action :=
  [.call .enable, asks "download:00000008", asks "abcdefgh"]

/-- The request for a download of eight bytes does not fit in their place. -/
theorem unfailing_run_narrow : ∃ d, bind narrow {} { attestation := some {} } = .ok d ∧
    (d.run filling).Unfailing ∧
    (d.run filling).Overasks (.received .completed "oem at-get-ca-request".toUTF8) ⟨0, 15, 8⟩ := by
  have hvalid : narrow.Valid := Settings.check_eq_ok_iff.mp rfl
  obtain ⟨d, hbind, hrun⟩ := unfailing_run hvalid {} { attestation := some {} }
  obtain ⟨hunfailing, hfaults⟩ := hrun filling
  refine ⟨d, hbind, hunfailing, ((hfaults _).2 _).mp ?_⟩
  obtain ⟨-, rfl⟩ := bind_eq_ok_iff.mp hbind
  decide +kernel

end Fastboot.Device
