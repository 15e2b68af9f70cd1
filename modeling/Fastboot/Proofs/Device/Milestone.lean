import Fastboot.Proofs.Device.Consume

/-!
# No part of a download is ever consumed

The staging buffer, the count of what is in it and the size of what an upload would send are shared
by the data phase that is filling them and the commands that consume them. `d.milestones actions` is
what the answers of a run tell of it: downloads that were announced, refused, completed or broken
off, sessions that started or ended, uploads, and requests to the certificate authority.

`t.Accounted milestones` says that the two counters are what the milestones make of them. The
downloaded bytes are those of a download that was completed, and not followed by anything that gives
it up (`Held`); what an upload would send is that download or the request made last, and only while
nothing came after it (`Offered`). During a download that need not be so. `accounted_run` says that
it is so whenever a command is carried out or a boot is run, wherever a run has broken off before.
-/

namespace Fastboot

/-- What a call has to do with the data on the device, as its answer tells. -/
inductive Milestone where
  /-- A download of `size` bytes was announced. -/
  | announced (size : Nat)
  /-- A download was refused. -/
  | refused
  /-- The last chunk of a download was answered by an `OKAY`. -/
  | completed
  /-- A download broke off. -/
  | aborted
  /-- A session started or ended. -/
  | restarted
  /-- An upload was announced. -/
  | served
  /-- A request of `size` bytes to the certificate authority was left in the staging buffer. -/
  | requested (size : Nat)
  deriving DecidableEq, Repr

namespace Milestone

/-- A download that is complete is still the last one afterwards. -/
def keeps : Milestone → Bool
  | served | requested _ => true
  | _ => false

variable {ms : List Milestone} {m : Milestone} {size n : Nat}

/-- A download of `size` bytes was completed, and nothing since has given it up. -/
def Held (ms : List Milestone) (size : Nat) : Prop :=
  ∃ earlier since, ms = earlier ++ announced size :: completed :: since ∧ ∀ m ∈ since, m.keeps

/-- An upload would send `size` bytes: the download that has just been completed, or the request
that has just been made. -/
def Offered (ms : List Milestone) (size : Nat) : Prop :=
  ms.getLast? = some (requested size) ∨ ∃ earlier, ms = earlier ++ [announced size, completed]

theorem held_concat_iff : Held (ms ++ [m]) size ↔
    (m.keeps ∧ Held ms size) ∨ (m = completed ∧ ms.getLast? = some (announced size)) := by
  constructor
  · rintro ⟨earlier, since, heq, hkeeps⟩
    -- the last milestone is the end of the download, or comes after that
    rcases List.eq_nil_or_concat since with rfl | ⟨since, last, rfl⟩
    · have hsplit : ms ++ [m] = (earlier ++ [announced size]) ++ [completed] := by simpa using heq
      obtain ⟨rfl, hm⟩ := List.append_inj' hsplit rfl
      exact .inr ⟨List.singleton_inj.mp hm, by simp⟩
    · have hsplit : ms ++ [m] = (earlier ++ announced size :: completed :: since) ++ [last] := by
        simpa using heq
      obtain ⟨rfl, hm⟩ := List.append_inj' hsplit rfl
      obtain rfl := List.singleton_inj.mp hm
      exact .inl ⟨hkeeps m (by simp), earlier, since, rfl, fun m' h => hkeeps m' (by simp [h])⟩
  · rintro (⟨hm, earlier, since, rfl, hkeeps⟩ | ⟨rfl, hlast⟩)
    · refine ⟨earlier, since ++ [m], by simp, fun m' h => ?_⟩
      rcases List.mem_append.mp h with h | h
      · exact hkeeps m' h
      · rw [List.mem_singleton.mp h]
        exact hm
    · obtain ⟨earlier, rfl⟩ := List.getLast?_eq_some_iff.mp hlast
      exact ⟨earlier, [], by simp, nofun⟩

theorem offered_concat_iff : Offered (ms ++ [m]) size ↔
    m = requested size ∨ (m = completed ∧ ms.getLast? = some (announced size)) := by
  unfold Offered
  rw [List.getLast?_concat, Option.some_inj]
  refine or_congr_right ⟨fun ⟨earlier, heq⟩ => ?_, fun ⟨hm, hlast⟩ => ?_⟩
  · have hsplit : ms ++ [m] = (earlier ++ [announced size]) ++ [completed] := by simpa using heq
    obtain ⟨rfl, hm⟩ := List.append_inj' hsplit rfl
    exact ⟨List.singleton_inj.mp hm, by simp⟩
  · obtain ⟨earlier, rfl⟩ := List.getLast?_eq_some_iff.mp hlast
    exact ⟨earlier, by simp [hm]⟩

end Milestone

namespace Transfer

open Milestone (Held Offered)

/-- The counters that commands read are what the milestones make of them, unless they are zero. -/
structure Accounted (t : Transfer) (ms : List Milestone) : Prop where
  downloadBytes_iff (size : Nat) (hpos : 0 < size) : t.downloadBytes.toNat = size ↔ Held ms size
  uploadSize_iff (size : Nat) (hpos : 0 < size) : t.uploadSize.toNat = size ↔ Offered ms size

/-- During a download its size is the one that was announced last. Outside of it the counters are
accounted for, if a command comes in. -/
structure Booked (t : Transfer) (ms : List Milestone) : Prop where
  getLast?_eq (hmode : t.mode = .downloading) :
    ms.getLast? = some (.announced t.downloadSize.toNat)
  accounted (hmode : t.mode ≠ .downloading) : t.interrupted.Accounted ms

variable {t t' : Transfer} {ms : List Milestone} {m : Milestone}

theorem Accounted.congr (h : t.Accounted ms) (hbytes : t'.downloadBytes = t.downloadBytes)
    (hupload : t'.uploadSize = t.uploadSize) : t'.Accounted ms where
  downloadBytes_iff size hpos := hbytes ▸ h.downloadBytes_iff size hpos
  uploadSize_iff size hpos := hupload ▸ h.uploadSize_iff size hpos

theorem accounted_nil : ({} : Transfer).Accounted [] where
  downloadBytes_iff _ hpos := iff_of_false (Nat.ne_of_lt hpos) (by simp [Held])
  uploadSize_iff _ hpos := iff_of_false (Nat.ne_of_lt hpos) (by simp [Offered])

/-- What gives up a download, and is not the end of one, leaves nothing to account for. -/
theorem accounted_of_zero (hbytes : t.downloadBytes = 0) (hupload : t.uploadSize = 0)
    (hkeeps : m.keeps = false) (hm : m ≠ .completed) : t.Accounted (ms ++ [m]) where
  downloadBytes_iff size hpos := by
    rw [Milestone.held_concat_iff, hbytes]
    exact iff_of_false (Nat.ne_of_lt hpos) (by simp [hkeeps, hm])
  uploadSize_iff size hpos := by
    have hne : m ≠ .requested size := by
      rintro rfl
      cases hkeeps
    rw [Milestone.offered_concat_iff, hupload]
    exact iff_of_false (Nat.ne_of_lt hpos) (by simp [hne, hm])

/-- A download that is complete can be consumed, and fetched. -/
theorem accounted_completed {size : Nat} (hlast : ms.getLast? = some (.announced size))
    (hbytes : t.downloadBytes.toNat = size) (hupload : t.uploadSize.toNat = size) :
    t.Accounted (ms ++ [.completed]) where
  downloadBytes_iff n _ := by
    rw [Milestone.held_concat_iff, hlast, hbytes]
    simp [Milestone.keeps]
  uploadSize_iff n _ := by
    rw [Milestone.offered_concat_iff, hlast, hupload]
    simp

/-- An upload leaves the download where it is, and nothing to fetch. -/
theorem Accounted.served (h : t.Accounted ms) (hbytes : t'.downloadBytes = t.downloadBytes)
    (hupload : t'.uploadSize = 0) : t'.Accounted (ms ++ [.served]) where
  downloadBytes_iff size hpos := by
    rw [Milestone.held_concat_iff, hbytes, h.downloadBytes_iff size hpos]
    simp [Milestone.keeps]
  uploadSize_iff size hpos := by
    rw [Milestone.offered_concat_iff, hupload]
    exact iff_of_false (Nat.ne_of_lt hpos) (by simp)

/-- A request leaves the size of the download alone, and can be fetched. -/
theorem Accounted.requested {size : Nat} (h : t.Accounted ms)
    (hbytes : t'.downloadBytes = t.downloadBytes) (hupload : t'.uploadSize.toNat = size) :
    t'.Accounted (ms ++ [.requested size]) where
  downloadBytes_iff n hpos := by
    rw [Milestone.held_concat_iff, hbytes, h.downloadBytes_iff n hpos]
    simp [Milestone.keeps]
  uploadSize_iff n _ := by
    rw [Milestone.offered_concat_iff, hupload]
    simp

/-- Nothing but the mode, the counters and what is left to fetch has a part in it. -/
theorem Booked.congr (h : t.Booked ms) (hmode : t'.mode = .downloading ↔ t.mode = .downloading)
    (hsize : t'.downloadSize = t.downloadSize) (hbytes : t'.downloadBytes = t.downloadBytes)
    (hupload : t'.interrupted.uploadSize = t.interrupted.uploadSize) : t'.Booked ms where
  getLast?_eq hdown := hsize ▸ h.getLast?_eq (hmode.mp hdown)
  accounted hne := (h.accounted (mt hmode.mpr hne)).congr (by simpa using hbytes) hupload

/-- An upload that goes on or is over. -/
theorem Booked.of_uploading (h : t.Booked ms) (hmode : t.mode = .uploading)
    (hne : t'.mode ≠ .downloading) (hbytes : t'.downloadBytes = t.downloadBytes)
    (hupload : t'.mode = .uploading ∨ t'.uploadSize = 0) : t'.Booked ms where
  getLast?_eq hdown := absurd hdown hne
  accounted _ := (h.accounted (by simp [hmode])).congr (by simpa using hbytes) (by
    rw [uploadSize_interrupted, uploadSize_interrupted, if_pos hmode]
    rcases hupload with hup | hzero
    · exact if_pos hup
    · rw [hzero, ite_self])

/-- Outside a download the books are in order as soon as the counters are. -/
theorem booked_of_idle (hmode : t.mode = .idle) (h : t.Accounted ms) : t.Booked ms where
  getLast?_eq hdown := absurd (hmode.symm.trans hdown) nofun
  accounted _ := by rwa [interrupted_of_idle hmode]

end Transfer

namespace Command

/-- The request that the attestation service makes from the last download. -/
def caRequest? (t : Target) : Option ByteArray :=
  match t.board.attestation, t.downloaded with
  | some attestation, .ok operation => (attestation.request operation).toOption
  | _, _ => none

/-- What the reply to a command tells of the data on the device. -/
def milestone? (command : String) (t : Target) (reply : Reply) : Option Milestone :=
  match Verb.ofCommand? command, reply.response with
  | some .download, .data size => some (.announced size.toNat)
  | some .download, .fail _ => some .refused
  | some .upload, .data _ => some .served
  | some .oem, .okay _ =>
    if vendorRequest command = .ok .getCaRequest then
      (caRequest? t).map fun request => .requested request.size
    else none
  | _, _ => none

variable {command : String} {t t' : Target} {reply : Reply} {ms : List Milestone}

/-- What a request leaves behind is made by the attestation service. -/
theorem caRequest?_of_getCaRequest (h : getCaRequest t = .ok t') :
    ∃ request, caRequest? t = some request ∧ t'.transfer.uploadSize.toNat = request.size := by
  have hdone := getCaRequest_eq_ok h
  simp only [getCaRequest, bind_eq_ok_iff, require_eq_ok_iff, mapError_eq_ok_iff] at h
  obtain ⟨attestation, hattestation, operation, hoperation, request, hrequest, -⟩ := h
  have hmade : request = Attestation.requestMark ++ operation := by
    unfold Attestation.request at hrequest
    split at hrequest <;> cases hrequest
    rfl
  obtain ⟨operation', staging, hoperation', hsize, -, rfl⟩ := hdone
  obtain rfl : operation = operation' := Except.ok.inj (hoperation.symm.trans hoperation')
  refine ⟨request, ?_, ?_⟩
  · simp only [caRequest?, hattestation, hoperation, hrequest, Except.toOption]
  · rw [hmade]
    exact UInt32.toNat_ofNat_of_lt' hsize

/-- A command that opens no data phase, refuses none and makes no request is no milestone. -/
theorem milestone?_eq_none (hverb : Verb.ofCommand? command ≠ some .download)
    (hca : AsksCa command → reply.response.isOkay = false)
    (hresponse : ∀ size, reply.response ≠ .data size) : milestone? command t reply = none := by
  unfold milestone?
  split
  · exact absurd ‹_› hverb
  · exact absurd ‹_› hverb
  · exact absurd ‹_› (hresponse _)
  · rename_i hoem hokay
    refine if_neg fun hrequest => ?_
    have hfail := hca ⟨hoem, hrequest⟩
    rw [hokay] at hfail
    cases hfail
  · rfl

/-- A request that was made is what an upload would send. -/
theorem exists_caRequest?_of_dispatch (hca : AsksCa command)
    (hrun : dispatch command t = (.okay, t')) :
    ∃ request, caRequest? t = some request ∧ t'.transfer.uploadSize.toNat = request.size := by
  have hexecute : execute .oem command t = t.attempt (oem command) := rfl
  obtain ⟨-, request, hrequest, hmade⟩ := oem_eq_ok (eq_ok_of_dispatch hca.1 hexecute hrun)
  obtain rfl := Except.ok.inj (hrequest.symm.trans hca.2)
  exact caRequest?_of_getCaRequest hmade

/-- Commands keep the books. -/
theorem Outcome.booked (houtcome : Outcome command t reply t') (h : t.transfer.Accounted ms)
    (hmode : t.transfer.mode = .idle)
    (hmade : AsksCa command → reply = .okay →
      ∃ request, caRequest? t = some request ∧ t'.transfer.uploadSize.toNat = request.size) :
    t'.transfer.Booked (ms ++ (milestone? command t reply).toList) := by
  cases houtcome with
  | answer response board retryCounts hverb hca hresponse =>
    rw [milestone?_eq_none hverb hca hresponse, Option.toList_none, List.append_nil]
    exact Transfer.booked_of_idle (by exact hmode) (h.congr rfl rfl)
  | exit verb action board hverb haction =>
    have hnone : milestone? command t (.exit action) = none := by
      refine milestone?_eq_none ?_ (fun hasks => ?_) fun size =>
        (nofun : Response.okay "" ≠ .data size)
      · rw [hverb]
        intro hdownload
        obtain rfl := Option.some.inj hdownload
        cases haction
      · obtain rfl := Option.some.inj (hverb.symm.trans hasks.1)
        cases haction
    rw [hnone, Option.toList_none, List.append_nil]
    exact Transfer.booked_of_idle hmode h
  | refuse fault downloadSize hverb =>
    have hm : milestone? command t (.ofFault fault) = some .refused := by
      simp only [milestone?, hverb, Reply.ofFault]
    rw [hm]
    exact Transfer.booked_of_idle (by exact hmode)
      (Transfer.accounted_of_zero rfl rfl rfl (by simp))
  | download size hverb =>
    have hm : milestone? command t ⟨.data (.ofNat size), .done⟩ =
        some (.announced (UInt32.ofNat size).toNat) := by
      simp only [milestone?, hverb]
    rw [hm, Target.transfer_transition]
    exact ⟨fun _ => by simp, fun hne => absurd rfl hne⟩
  | upload hverb =>
    have hm : milestone? command t ⟨.data t.transfer.uploadSize, .uploadChunk⟩ = some .served := by
      simp only [milestone?, hverb]
    rw [hm, Target.transfer_transition]
    exact ⟨nofun, fun _ => h.served rfl rfl⟩
  | request operation staging hca =>
    obtain ⟨request, hrequest, hsize⟩ := hmade hca rfl
    have hm : milestone? command t .okay = some (.requested request.size) := by
      simp only [milestone?, hca.1, Reply.okay, hca.2, if_true, hrequest, Option.map_some]
    rw [hm]
    exact Transfer.booked_of_idle (by exact hmode) (h.requested rfl hsize)

end Command

namespace Device

variable {d d' : Device} {c : Call} {offer : Option Offer} {data : ByteArray}
  {status : TransferStatus} {text : String} {t : Target} {ms : List Milestone} {actual : Nat}

/-- The command that a call has carried out, and the target it finds. -/
def dispatched? (d : Device) : Call → Option (String × Target)
  | .received .completed data =>
    if d.lifecycle = .enabled ∧ d.transfer.mode ≠ .downloading ∧
        data.size < d.settings.bufferSize then
      (commandText? data).map fun text => (text, d.endUpload.toTarget.emit (.command text))
    else none
  | _ => none

/-- What a call has to do with the data on the device, as the frame that was offered for it tells.
-/
def milestone? (d : Device) (c : Call) (offer : Option Offer) : Option Milestone :=
  match c with
  | .enable => if d.lifecycle = .halted then none else some .restarted
  | .disable => if d.lifecycle = .enabled then some .restarted else none
  | .sent _ _ => none
  | .received _ _ =>
    if d.transfer.mode = .downloading then
      if offer = some (.reply .okay) then some .completed else offer.map fun _ => .aborted
    else match d.dispatched? c, offer with
      | some (text, t), some (.reply reply) => Command.milestone? text t reply
      | _, _ => none

/-- The milestones of a run, the first one first. -/
def milestones (d : Device) : List Action → List Milestone
  | [] => []
  | .call c :: actions => (d.milestone? c (d.offer? c)).toList ++ (d.call c).milestones actions
  | .world usb board :: actions => (d.act (.world usb board)).milestones actions

/-! ### Commands that are carried out -/

theorem dispatched?_eq {events : Array Event} (henabled : d.lifecycle = .enabled)
    (hmode : d.transfer.mode ≠ .downloading) (hsize : data.size < d.settings.bufferSize)
    (htext : commandText? data = some text)
    (hevents : events = (d.endUpload.toTarget.emit (.command text)).events) :
    d.dispatched? (.received .completed data) =
      some (text, { d.toTarget with transfer := d.transfer.interrupted, events }) := by
  rw [dispatched?, if_pos ⟨henabled, hmode, hsize⟩, htext, Option.map_some, hevents]
  nth_rewrite 1 [d.endUpload_eq]
  rfl

theorem dispatched?_of_not (h : d.settings.bufferSize ≤ data.size ∨ commandText? data = none) :
    d.dispatched? (.received .completed data) = none := by
  rw [dispatched?]
  split_ifs with hcond
  · rcases h with hlong | hnone
    · exact absurd hcond.2.2 (Nat.not_lt_of_le hlong)
    · rw [hnone, Option.map_none]
  · rfl

/-- What a command finds is the device, with the upload that was under way ended, and what it leaves
behind is what the call comes to. -/
theorem Sound.exists_of_dispatched? (hs : d.Sound none) (h : d.dispatched? c = some (text, t)) :
    ∃ data events, c = .received .completed data ∧
      t = { d.toTarget with transfer := d.transfer.interrupted, events } ∧
      d.lifecycle = .enabled ∧ d.transfer.mode ≠ .downloading ∧
      d.take c = ({ d with
        toTarget := (Command.dispatch text t).2
        inbound := some (.empty d.settings.bufferSize) },
        some (.reply (Command.dispatch text t).1)) := by
  rcases c with _ | _ | ⟨_ | code, data⟩ | ⟨status, actual⟩
  · cases h
  · cases h
  · have hcond : d.lifecycle = .enabled ∧ d.transfer.mode ≠ .downloading ∧
        data.size < d.settings.bufferSize := by
      by_contra hcond
      rw [dispatched?, if_neg hcond] at h
      cases h
    obtain ⟨henabled, hmode, -⟩ := hcond
    have hr := reception_receive hs henabled .completed data
    have htake : d.take (.received .completed data) = d.receive .completed data := if_pos henabled
    rw [htake]
    generalize d.receive .completed data = received at hr
    obtain ⟨d', offer⟩ := received
    -- of all that can become of a transfer, only one is that its command is carried out
    cases hr with
    | refused _ _ _ _ _ hnot => cases h.symm.trans (dispatched?_of_not hnot)
    | command text' reply target events _ hsize htext hrun hevents =>
      cases h.symm.trans (dispatched?_eq henabled hmode hsize htext hevents)
      exact ⟨data, events, rfl, rfl, henabled, hmode, by rw [hrun]⟩
    | partly _ _ hdown => exact absurd hdown hmode
    | last _ _ _ hdown => exact absurd hdown hmode
  · cases h
  · cases h

/-! ### The step -/

/-- Outside a download what a call tells is what its command does. -/
theorem milestone?_received (hmode : d.transfer.mode ≠ .downloading) :
    d.milestone? (.received status data) offer =
      match d.dispatched? (.received status data), offer with
      | some (text, t), some (.reply reply) => Command.milestone? text t reply
      | _, _ => none :=
  if_neg hmode

/-- During a download it is how that goes on. -/
theorem milestone?_of_downloading (hmode : d.transfer.mode = .downloading) :
    d.milestone? (.received status data) offer =
      if offer = some (.reply .okay) then some .completed else offer.map fun _ => .aborted :=
  if_pos hmode

/-- A transfer is taken. -/
theorem Reception.booked (hr : Reception d data status d' offer) (hs : d.Sound none)
    (henabled : d.lifecycle = .enabled) (h : d.transfer.Booked ms) :
    d'.transfer.Booked (ms ++ (d.milestone? (.received status data) offer).toList) := by
  cases hr with
  | lost code hmode =>
    rw [milestone?_received hmode]
    simpa [dispatched?] using h
  | refused fault inbound events hmode _ hnot =>
    rw [milestone?_received hmode, dispatched?_of_not hnot]
    have hidle := Transfer.mode_interrupted hmode
    simpa using Transfer.booked_of_idle hidle (h.accounted hmode)
  | command text reply target events hmode hsize htext hrun hevents =>
    rw [milestone?_received hmode, dispatched?_eq henabled hmode hsize htext hevents]
    have houtcome := Command.outcome_dispatch text
      { d.toTarget with transfer := d.transfer.interrupted, events }
    simp only [hrun] at houtcome
    refine houtcome.booked (h.accounted hmode) (Transfer.mode_interrupted hmode) fun hca hokay => ?_
    exact Command.exists_caRequest?_of_dispatch hca (hokay ▸ hrun)
  | broken code events hmode =>
    rw [milestone?_of_downloading hmode, if_neg nofun]
    exact Transfer.booked_of_idle rfl (Transfer.accounted_of_zero rfl rfl rfl nofun)
  | partly staging events hmode =>
    rw [milestone?_of_downloading hmode, if_neg nofun]
    simp only [Option.map_none, Option.toList_none, List.append_nil]
    exact ⟨fun _ => h.getLast?_eq hmode, fun hne => absurd hmode hne⟩
  | last count staging events hmode _ _ hfull =>
    rw [milestone?_of_downloading hmode, if_pos rfl]
    have hstored := hs.consistent.toNat_stored hs.valid.stagingCapacity_lt hmode
      (Nat.le_of_eq hfull)
    exact Transfer.booked_of_idle rfl (Transfer.accounted_completed (h.getLast?_eq hmode)
      (hstored.trans hfull) (hstored.trans hfull))

/-- Going on moves nothing that commands consume. -/
theorem Progression.booked (hp : Progression d actual status d' offer) (hs : d.Sound none)
    (h : d.transfer.Booked ms) : d'.transfer.Booked ms := by
  -- chunks are counted in an upload only, and what it would send does not matter any more
  have hsettled : d.transfer.settled.Booked ms :=
    h.congr .rfl rfl rfl (by simp only [Transfer.uploadSize_interrupted]; rfl)
  cases hp with
  | stop => exact hsettled
  | exit => exact hsettled
  | broken code events hnext => exact h.of_uploading (hs.mode_eq hnext) nofun rfl (.inr rfl)
  | chunk data events hnext =>
    have hmode := hs.mode_eq hnext
    have hsame : (d.transfer.fetched actual).settled.mode = .uploading :=
      (Transfer.mode_fetched _ _).trans hmode
    exact h.of_uploading hmode (by rw [hsame]; nofun) (Transfer.downloadBytes_fetched _ _)
      (.inl hsame)
  | last events hnext =>
    exact h.of_uploading (hs.mode_eq hnext) nofun (Transfer.downloadBytes_fetched _ _) (.inr rfl)

/-- Handing a frame over moves nothing that commands consume. -/
theorem Sound.booked_hand (hs : d.Sound offer) (h : d.transfer.Booked ms) :
    (d.hand offer).transfer.Booked ms := by
  cases offer with
  | none => exact h
  | some o =>
    rw [transfer_hand_some]
    split
    · exact h.congr .rfl rfl rfl (by simp only [Transfer.uploadSize_interrupted]; rfl)
    · unfold Transfer.dropped
      split
      · rename_i ho
        exact h.of_uploading (hs.mode_of_isChunk ho) nofun rfl (.inr rfl)
      · exact h.congr .rfl rfl rfl (by simp only [Transfer.uploadSize_interrupted])

/-- A session that starts or ends leaves nothing to consume. -/
theorem booked_restarted : ({} : Transfer).Booked (ms ++ [.restarted]) :=
  Transfer.booked_of_idle rfl (Transfer.accounted_of_zero rfl rfl rfl nofun)

/-- What a call comes to keeps the books, if it neither starts nor ends a session. -/
theorem Taking.booked (ht : Taking d c d' offer) (hs : d.Sound none) (h : d.transfer.Booked ms)
    (hc : ¬ (c = .enable ∨ c = .disable)) :
    d'.transfer.Booked (ms ++ (d.milestone? c offer).toList) := by
  cases ht with
  | restart _ _ _ _ _ hcall => exact absurd hcall hc
  | received henabled hr => exact hr.booked hs henabled h
  | sent _ hp => simpa [milestone?] using hp.booked hs h
  | ignored =>
    -- without an answer a transfer is no milestone, whatever it is taken as
    have hnone : d.milestone? c none = none := by
      cases c with
      | enable => exact absurd (.inl rfl) hc
      | disable => exact absurd (.inr rfl) hc
      | received => simp [milestone?]
      | sent => rfl
    simpa [hnone] using h

/-- A call keeps the books. -/
theorem Sound.booked_call (hs : d.Sound none) (h : d.transfer.Booked ms) (c : Call) :
    (d.call c).transfer.Booked (ms ++ (d.milestone? c (d.offer? c)).toList) := by
  by_cases hc : c = .enable ∨ c = .disable
  · rcases hc with rfl | rfl
    · simp only [milestone?, Device.call, Device.enable]
      split
      · simpa using h
      · exact booked_restarted
    · simp only [milestone?, Device.call, Device.disable]
      split
      · exact booked_restarted
      · simpa using h
  · have ht := taking_take hs c
    rw [toTarget_call]
    exact (hs.of_taking ht).booked_hand (ht.booked hs h hc)

/-- The books are kept over a run. -/
theorem Sound.booked_run (hs : d.Sound none) (h : d.transfer.Booked ms) (actions : List Action) :
    (d.run actions).transfer.Booked (ms ++ d.milestones actions) := by
  induction actions generalizing d ms with
  | nil => simpa [milestones] using h
  | cons a actions ih =>
    cases a with
    | call c =>
      rw [milestones, ← List.append_assoc]
      exact ih (hs.call c) (hs.booked_call h c)
    | world usb board => exact ih (hs.act _) h

/-! ### What commands and boots find -/

/-- A call of a device carries out a command or runs a boot, on the target `t`. -/
inductive Consults (d : Device) : Call → Target → Prop where
  | command {c : Call} {text : String} {t : Target} (h : d.dispatched? c = some (text, t)) :
      Consults d c t
  | boot (actual : Nat) (henabled : d.lifecycle = .enabled)
      (hnext : d.transfer.next = .exit .boot) :
      Consults d (.sent .completed actual) d.settle.toTarget

/-- What commands and boots find is accounted for. -/
theorem Sound.accounted_of_consults (hs : d.Sound none) (h : d.transfer.Booked ms)
    (hconsults : d.Consults c t) : t.transfer.Accounted ms := by
  cases hconsults with
  | command hdispatched =>
    obtain ⟨data, events, -, rfl, -, hmode, -⟩ := hs.exists_of_dispatched? hdispatched
    exact h.accounted hmode
  | boot actual henabled hnext =>
    have hmode := hs.idle_eq .boot hnext
    have haccounted := h.accounted (by simp [hmode])
    rw [Transfer.interrupted_of_idle hmode] at haccounted
    exact haccounted.congr rfl rfl

/-- The books of a device start with it. -/
theorem booked_of_bind {settings : Settings} {usb : Controller} {board : Board}
    (hbind : bind settings usb board = .ok d) (actions : List Action) :
    (d.run actions).transfer.Booked (d.milestones actions) := by
  have hstart : d.transfer.Booked [] := by
    obtain ⟨-, rfl⟩ := bind_eq_ok_iff.mp hbind
    exact Transfer.booked_of_idle rfl Transfer.accounted_nil
  simpa using (sound_of_bind hbind).booked_run hstart actions

/-- **No part of a download is ever consumed.** Whatever a device has been through, whenever a
command is carried out or a boot is run, the downloaded bytes are those of a download that was
completed and that nothing has given up since, if there are any. What an upload would send is that
download or the last request, if anything, and only while nothing has come after it. -/
theorem accounted_run {settings : Settings} {usb : Controller} {board : Board}
    (hbind : bind settings usb board = .ok d) (before : List Action)
    (hconsults : (d.run before).Consults c t) : t.transfer.Accounted (d.milestones before) :=
  ((sound_of_bind hbind).run before).accounted_of_consults (booked_of_bind hbind before) hconsults

/-- An upload that follows a request finds the size of the request, beside that of the download that
the request was made from. -/
theorem accounted_run_small :
    let before := smallDownload ++ [asks "oem at-get-ca-request"]
    small.milestones before = [.restarted, .announced 8, .completed, .requested 15] ∧
      ∃ t, (small.run before).dispatched? (.received .completed "upload".toUTF8) =
        some ("upload", t) ∧ t.transfer.downloadBytes.toNat = 8 ∧
          t.transfer.uploadSize.toNat = 15 := by
  intro before
  have hmilestones : small.milestones before =
      [.restarted, .announced 8, .completed, .requested 15] := by
    decide +kernel
  have hdispatched : (small.run before).dispatched? (.received .completed "upload".toUTF8) =
      some ("upload", _) :=
    dispatched?_eq (by decide +kernel) (by decide +kernel) (by decide +kernel) (by decide +kernel)
      rfl
  have haccounted := accounted_run bind_small before (.command hdispatched)
  rw [hmilestones] at haccounted
  refine ⟨hmilestones, _, hdispatched, ?_, ?_⟩
  · exact (haccounted.downloadBytes_iff 8 (by decide)).mpr
      ⟨[.restarted], [.requested 15], rfl, by simp [Milestone.keeps]⟩
  · exact (haccounted.uploadSize_iff 15 (by decide)).mpr (.inl rfl)

end Device

end Fastboot
